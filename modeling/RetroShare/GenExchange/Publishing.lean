import RetroShare.GenExchange.Creation
import RetroShare.GenExchange.Messages

/-!
# Publication

`RsGenExchange::publishMsg` and `publishMsgs` of `rsgenexchange.cc`.  An item is named by the token
that it is published under.  An item whose author's key has to be fetched first waits in
`mMsgPendingSign`, from where it is taken again at every call.

`publishesOnce_of_steady`: an item ends once and in time, when all items can be serialised, and
none that waits fails to be created.
-/

namespace GenExchange

/-! ### Items -/

/-- A token. -/
abbrev Token : Type := Fin (2 ^ 32)

/-- An item that waits for its signature. -/
abbrev PendingItem : Type := GxsPendingItem RsMsgMetaData Token

/-- `SIGN_MAX_ATTEMPTS`. -/
def signMaxAttempts : UInt8 := 5

/-- What happens to the items. -/
inductive PublishEvent where
  /-- An item is worked on. -/
  | use (token : Token)
  /-- `addMsgData` is given the message. -/
  | addMsgData (token : Token) (msg : List UInt8) (metaData : RsGxsMsgMetaData)
  /-- `updatePublicRequestStatus` with `GXS_REQUEST_V2_STATUS_COMPLETE`. -/
  | complete (token : Token)
  /-- `updatePublicRequestStatus` with `GXS_REQUEST_V2_STATUS_FAILED`. -/
  | failed (token : Token)
  /-- An item is deleted. -/
  | delete (token : Token)
  deriving DecidableEq

/-- The token that an event is about. -/
def PublishEvent.token : PublishEvent → Token
  | .use token => token
  | .addMsgData token _ _ => token
  | .complete token => token
  | .failed token => token
  | .delete token => token

/-- The part of `RsGenExchange` that publishes messages. -/
structure Publisher where
  mMsgsToPublish : OrdMap Token RsMsgMetaData
  mMsgPendingSign : OrdMap Token PendingItem
  deriving DecidableEq

/-- What is answered during a call of `publishMsgs`, for every item anew. -/
structure PublishAnswers where
  /-- What the serialiser of the service makes of the item, when it succeeds. -/
  serialise : Token → RsMsgMetaData → Option (List UInt8)
  /-- `retrieveGxsGrpMetaData`, which leaves `NULL` where there is no group. -/
  grpMeta? : Token → RsGxsGroupId → Option RsGxsGrpMetaData
  mGixs : Token → Option RsGixs
  now : Nat

/-! ### Publication -/

/-- `RsGenExchange::publishMsg`, with the token that it generates. -/
def Publisher.publishMsg (s : Publisher) (token : Token) (msgItem : RsMsgMetaData) : Publisher :=
  if (s.mMsgsToPublish.get? token).isSome then s
  else { s with mMsgsToPublish := s.mMsgsToPublish.insert token msgItem }

/-- `RsDataService::validSize`, of a message whose metadata have not been set. -/
def validMsgSize (msg : List UInt8) : Bool := UInt32.ofNat (6 + msg.length) + 6 ≤ gxsMaxItemSize

variable (service : Service) (answers : PublishAnswers) (token : Token)

/-- What `createMessage` makes of an item with the data `msg`. -/
def createItem (msgItem : RsMsgMetaData) (msg : List UInt8) :
    CreateReturn × RsGxsMsgMetaData :=
  createMessage service (answers.mGixs token) msg (msgItem.toMetaData answers.now)
    (answers.grpMeta? token msgItem.mGroupId)

/-- An iteration of the loop of `publishMsgs`: what becomes of the entry of the token in
`mMsgPendingSign`, and what happens to the item. -/
def publishItem (msgItem : RsMsgMetaData) (pending : Option PendingItem) :
    Option PendingItem × List PublishEvent :=
  match answers.serialise token msgItem with
  | none => (pending, [.use token, .delete token])
  | some msg =>
      match createItem service answers token msgItem msg with
      | (.fail, _) => (pending, [.use token, .failed token, .delete token])
      | (.failTryLater, _) =>
          match pending with
          | none => (some ⟨msgItem, token, 0⟩, [.use token])
          | some e =>
              if e.mAttempts = signMaxAttempts then
                (none, [.use token, .failed token, .delete token])
              else
                (some { e with mAttempts := e.mAttempts + 1 }, [.use token])
      | (.success, metaData) =>
          if validMsgSize msg then
            (none, [.use token, .addMsgData token msg (markOriginal metaData), .complete token,
              .delete token])
          else
            (none, [.use token, .failed token, .delete token])

/-- The entry of a token is set or erased. -/
def setEntry (pending : OrdMap Token PendingItem) (token : Token) :
    Option PendingItem → OrdMap Token PendingItem
  | none => pending.erase token
  | some e => pending.insert token e

/-- The loop of `publishMsgs`. -/
def publishLoop (acc : OrdMap Token PendingItem × List PublishEvent)
    (e : Token × RsMsgMetaData) : OrdMap Token PendingItem × List PublishEvent :=
  let r := publishItem service answers e.1 e.2 (acc.1.get? e.1)
  (setEntry acc.1 e.1 r.1, acc.2 ++ r.2)

/-- `mMsgsToPublish`, with the items that wait for their signatures. -/
def Publisher.stickBack (s : Publisher) : OrdMap Token RsMsgMetaData :=
  s.mMsgPendingSign.toList.foldl
    (fun msgs e => if (msgs.get? e.1).isSome then msgs else msgs.insert e.1 e.2.mItem)
    s.mMsgsToPublish

/-- `RsGenExchange::publishMsgs`. -/
def Publisher.publishMsgs (s : Publisher) : Publisher × List PublishEvent :=
  let r := s.stickBack.toList.foldl (publishLoop service answers) (s.mMsgPendingSign, [])
  (⟨OrdMap.empty, r.1⟩, r.2)

/-- What happens to an `RsGenExchange` that publishes. -/
inductive PublishInput where
  | publishMsg (token : Token) (msgItem : RsMsgMetaData)
  | publishMsgs (answers : PublishAnswers)

/-- The items of an `RsGenExchange`. -/
def publishMachine : Machine Publisher PublishInput PublishEvent where
  step
    | s, .publishMsg token msgItem => (s.publishMsg token msgItem, [])
    | s, .publishMsgs answers => s.publishMsgs service answers

/-- An `RsGenExchange` that has published nothing. -/
def Publisher.new : Publisher := ⟨OrdMap.empty, OrdMap.empty⟩

/-! ### A call of `publishMsgs` -/

/-- The item that is published under a token. -/
def Publisher.item? (s : Publisher) (token : Token) : Option RsMsgMetaData :=
  (s.mMsgsToPublish.get? token).or ((s.mMsgPendingSign.get? token).map (·.mItem))

/-- The last events of an item that is published. -/
def completed (msg : List UInt8) (metaData : RsGxsMsgMetaData) :
    List PublishEvent :=
  [.use token, .addMsgData token msg metaData, .complete token, .delete token]

/-- The last events of an item that is not. -/
def abandoned : List PublishEvent := [.use token, .failed token, .delete token]

/-- The last events of an item: one of the two. -/
def IsLast (events : List PublishEvent) : Prop :=
  events = abandoned token ∨ ∃ msg metaData, events = completed token msg metaData

/-- The events of a token. -/
def eventsOf (events : List PublishEvent) : List PublishEvent :=
  events.filter fun event => event.token = token

theorem eventsOf_append (token : Token) (events events' : List PublishEvent) :
  eventsOf token (events ++ events') = eventsOf token events ++ eventsOf token events'
  := List.filter_append _ _

section Call

variable {service answers} (s : Publisher) (token : Token)

/-- The items that are published in a call. -/
theorem get?_stickBack (token : Token) :
  s.stickBack.get? token = s.item? token
  := by
  rw [Publisher.stickBack, OrdMap.get?_foldl (g := fun _ e item => item.or (some e.mItem)),
    Publisher.item?]
  · cases s.mMsgPendingSign.get? token <;> simp
  · intro msgs e k
    cases hget : msgs.get? e.1 with
    | none => by_cases hk : k = e.1 <;> simp [hk, hget, OrdMap.get?_insert]
    | some item => by_cases hk : k = e.1 <;> simp [hk, hget]

theorem get?_setEntry (pending : OrdMap Token PendingItem) (token k : Token)
    (entry : Option PendingItem) :
  (setEntry pending token entry).get? k = if k = token then entry else pending.get? k
  := by
  cases entry with
  | none => simp [setEntry, OrdMap.get?_erase]
  | some e => simp [setEntry, OrdMap.get?_insert]

/-- What an iteration can do. -/
theorem publishItem_cases (msgItem : RsMsgMetaData) (pending : Option PendingItem) :
  (answers.serialise token msgItem = none ∧
      publishItem service answers token msgItem pending =
        (pending, [.use token, .delete token])) ∨
    (∃ msg, answers.serialise token msgItem = some msg ∧
      (createItem service answers token msgItem msg).1 = .fail ∧
      publishItem service answers token msgItem pending = (pending, abandoned token)) ∨
    (∃ events, publishItem service answers token msgItem pending = (none, events) ∧
      IsLast token events) ∨
    (pending = none ∧ publishItem service answers token msgItem pending =
      (some ⟨msgItem, token, 0⟩, [.use token])) ∨
    (∃ e, pending = some e ∧ e.mAttempts ≠ signMaxAttempts ∧
      publishItem service answers token msgItem pending =
        (some { e with mAttempts := e.mAttempts + 1 }, [.use token]))
  := by
  unfold publishItem
  cases hserialise : answers.serialise token msgItem with
  | none => exact .inl ⟨rfl, rfl⟩
  | some msg =>
    right
    rcases hcreate : createItem service answers token msgItem msg with ⟨ret, metaData⟩
    cases ret with
    | fail =>
      left
      exact ⟨msg, rfl, by rw [hcreate], by simp only [hcreate]; rfl⟩
    | success =>
      right
      left
      simp only [hcreate]
      split
      · exact ⟨_, rfl, .inr ⟨msg, markOriginal metaData, rfl⟩⟩
      · exact ⟨_, rfl, .inl rfl⟩
    | failTryLater =>
      right
      simp only [hcreate]
      cases pending with
      | none => exact .inr (.inl ⟨rfl, rfl⟩)
      | some e =>
        by_cases hattempts : e.mAttempts = signMaxAttempts
        · left
          simp only [if_pos hattempts]
          exact ⟨_, rfl, .inl rfl⟩
        · right
          right
          simp only [if_neg hattempts]
          exact ⟨e, rfl, hattempts, rfl⟩

theorem token_of_mem_publishItem {token : Token} {msgItem : RsMsgMetaData}
    {pending : Option PendingItem} {event : PublishEvent}
    (h : event ∈ (publishItem service answers token msgItem pending).2) :
  event.token = token
  := by
  rcases @publishItem_cases service answers token msgItem pending with
    ⟨-, heq⟩ | ⟨_, -, -, heq⟩ | ⟨_, heq, rfl | ⟨_, _, rfl⟩⟩ | ⟨-, heq⟩ | ⟨_, -, -, heq⟩ <;>
    rw [heq] at h <;>
    simp only [abandoned, completed, List.mem_cons, List.not_mem_nil, or_false] at h <;>
    grind [PublishEvent.token]

theorem publishLoop_fst (l : List (Token × RsMsgMetaData))
    (acc : OrdMap Token PendingItem × List PublishEvent) :
  (l.foldl (publishLoop service answers) acc).1 =
    l.foldl (fun pending e => setEntry pending e.1
      (publishItem service answers e.1 e.2 (pending.get? e.1)).1) acc.1
  := by
  induction l generalizing acc with
  | nil => rfl
  | cons e l ih => exact ih _

theorem eventsOf_publishLoop {l : List (Token × RsMsgMetaData)} (hl : (l.map Prod.fst).Nodup)
    (acc : OrdMap Token PendingItem × List PublishEvent) :
  eventsOf token (l.foldl (publishLoop service answers) acc).2 = eventsOf token acc.2 ++
    ((l.find? fun e => e.1 = token).map fun e =>
      (publishItem service answers token e.2 (acc.1.get? token)).2).getD []
  := by
  induction l generalizing acc with
  | nil => simp
  | cons e l ih =>
    rw [List.map_cons, List.nodup_cons] at hl
    rw [List.foldl_cons, ih hl.2, publishLoop, eventsOf_append, get?_setEntry, List.find?_cons]
    by_cases he : e.1 = token
    · subst he
      have hnone : (l.find? fun e' => e'.1 = e.1) = none := by
        apply List.find?_eq_none.2
        intro e' he' heq
        exact hl.1 (List.mem_map.2 ⟨e', he', of_decide_eq_true heq⟩)
      have hall : eventsOf e.1 (publishItem service answers e.1 e.2 (acc.1.get? e.1)).2 =
          (publishItem service answers e.1 e.2 (acc.1.get? e.1)).2 := by
        apply List.filter_eq_self.2
        intro event hevent
        exact decide_eq_true (token_of_mem_publishItem hevent)
      simp [hnone, hall]
    · have hnil :
          eventsOf token (publishItem service answers e.1 e.2 (acc.1.get? e.1)).2 = [] := by
        apply List.filter_eq_nil_iff.2
        intro event hevent heq
        exact he ((token_of_mem_publishItem hevent).symm.trans (of_decide_eq_true heq))
      simp [he, hnil, Ne.symm he]

/-- A call, for one token. -/
theorem publishMsgs_spec (token : Token) :
  (s.publishMsgs service answers).1.mMsgsToPublish.get? token = none ∧
    (s.publishMsgs service answers).1.mMsgPendingSign.get? token =
      ((s.item? token).map fun msgItem => (publishItem service answers token msgItem
        (s.mMsgPendingSign.get? token)).1).getD (s.mMsgPendingSign.get? token) ∧
    eventsOf token (s.publishMsgs service answers).2 =
      ((s.item? token).map fun msgItem => (publishItem service answers token msgItem
        (s.mMsgPendingSign.get? token)).2).getD []
  := by
  refine ⟨rfl, ?_, ?_⟩
  · rw [Publisher.publishMsgs, publishLoop_fst, OrdMap.get?_foldl
      (g := fun k msgItem pending => (publishItem service answers k msgItem pending).1),
      get?_stickBack]
    intro pending e k
    rw [get?_setEntry]
    split
    case isTrue hk => rw [hk]
    case isFalse => rfl
  · have hnodup : (s.stickBack.toList.map Prod.fst).Nodup := by
      rw [List.Nodup, List.pairwise_map]
      exact s.stickBack.sorted.imp fun h => h.ne
    have hget : s.stickBack.get? token =
        (s.stickBack.toList.find? fun e => e.1 = token).map Prod.snd := rfl
    rw [Publisher.publishMsgs, eventsOf_publishLoop token hnodup, ← get?_stickBack, hget,
      Option.map_map]
    rfl

end Call

/-! ### Runs -/

/-- The tokens that are generated for `publishMsg`. -/
def PublishInput.tokens : PublishInput → List Token
  | .publishMsg token _ => [token]
  | .publishMsgs _ => []

/-- Whether an input is a call of `publishMsgs`. -/
def PublishInput.isTick : PublishInput → Bool
  | .publishMsg _ _ => false
  | .publishMsgs _ => true

/-- What happens to an item in `n` calls when it has at most `m`: it is worked on in every one,
until it ends in one of the first `m`. -/
def Ends (m n : Nat) (events : List PublishEvent) : Prop :=
  (∃ k last, k < m ∧ k < n ∧ IsLast token last ∧
      events = List.replicate k (.use token) ++ last) ∨
    n < m ∧ events = List.replicate n (.use token)

section Run

variable (service : Service)

/-- A call in which every item is serialised, and none that waits fails to be created. -/
def Steady : Publisher → PublishInput → Prop
  | s, .publishMsgs answers =>
      ∀ token msgItem, s.item? token = some msgItem →
        ∃ msg, answers.serialise token msgItem = some msg ∧
          ((s.mMsgPendingSign.get? token).isSome →
            (createItem service answers token msgItem msg).1 ≠ .fail)
  | _, _ => True

/-- Every item that is published ends once, at the latest in the seventh call of `publishMsgs`: its
message is given to `addMsgData` and the token is complete, or the token has failed; then the item
is deleted, and nothing happens to it any more. -/
def PublishesOnce (is : List PublishInput) : Prop :=
  ∀ js token msgItem ks, is = js ++ .publishMsg token msgItem :: ks →
    Ends token (signMaxAttempts.toNat + 2) (ks.countP PublishInput.isTick)
      (eventsOf token ((publishMachine service).trace .new is))

variable {service} {token : Token} {s : Publisher} {m : Nat} {is : List PublishInput}

/-- The item of a token has at most `m` calls left: what has just been published has seven. -/
def Left (s : Publisher) (token : Token) (m : Nat) : Prop :=
  ((s.mMsgsToPublish.get? token).isSome ∧ s.mMsgPendingSign.get? token = none ∧ m = 7) ∨
    ∃ e, s.mMsgsToPublish.get? token = none ∧ s.mMsgPendingSign.get? token = some e ∧
      e.mAttempts.toNat + m = 6 ∧ m ≠ 0

theorem Left.pos (h : Left s token m) :
  0 < m
  := by
  rcases h with ⟨-, -, rfl⟩ | ⟨_, -, -, -, hpos⟩
  · decide
  · exact Nat.pos_of_ne_zero hpos

theorem Left.item? (h : Left s token m) :
  ∃ msgItem, s.item? token = some msgItem
  := by
  rcases h with ⟨hitem, -, -⟩ | ⟨e, hnone, hpending, -, -⟩
  · obtain ⟨msgItem, hitem⟩ := Option.isSome_iff_exists.1 hitem
    exact ⟨msgItem, by rw [Publisher.item?, hitem, Option.some_or]⟩
  · exact ⟨e.mItem, by rw [Publisher.item?, hnone, hpending, Option.none_or, Option.map_some]⟩

/-- An item in a call in which it is serialised, and not failed while it waits: it ends, or waits
again. -/
theorem left_publishMsgs {answers : PublishAnswers}
    (hsteady : Steady service s (.publishMsgs answers)) (hleft : Left s token m) :
  (IsLast token (eventsOf token (s.publishMsgs service answers).2) ∧
      (s.publishMsgs service answers).1.item? token = none) ∨
    (eventsOf token (s.publishMsgs service answers).2 = [.use token] ∧
      1 < m ∧ Left (s.publishMsgs service answers).1 token (m - 1))
  := by
  obtain ⟨msgItem, hitem⟩ := hleft.item?
  obtain ⟨msg, hserialise, hcreated⟩ := hsteady token msgItem hitem
  obtain ⟨hpublish, hpending, hevents⟩ := @publishMsgs_spec service answers s token
  rw [hitem, Option.map_some, Option.getD_some] at hpending hevents
  rw [Publisher.item?, hpublish, Option.none_or, Left, hpublish]
  rcases @publishItem_cases service answers token msgItem (s.mMsgPendingSign.get? token) with
    ⟨hnone, -⟩ | ⟨msg', hmsg', hfail, heq⟩ | ⟨events, heq, hlast⟩ | ⟨hnew, heq⟩ |
      ⟨e, hwaits, hattempts, heq⟩
  · rw [hserialise] at hnone
    cases hnone
  · obtain rfl := Option.some.inj (hserialise.symm.trans hmsg')
    have hnone : s.mMsgPendingSign.get? token = none := by
      rw [← Option.not_isSome_iff_eq_none]
      intro hsome
      exact hcreated hsome hfail
    left
    rw [hevents, hpending, heq, hnone]
    exact ⟨.inl rfl, rfl⟩
  · left
    rw [hevents, hpending, heq]
    exact ⟨hlast, rfl⟩
  · right
    rw [hevents, hpending, heq]
    rcases hleft with ⟨-, -, rfl⟩ | ⟨e, -, hwaits, -, -⟩
    · exact ⟨rfl, by decide, .inr ⟨_, rfl, rfl, rfl, by decide⟩⟩
    · rw [hnew] at hwaits
      cases hwaits
  · right
    rw [hevents, hpending, heq]
    rcases hleft with ⟨-, hnone, -⟩ | ⟨e', -, hwaits', hm, hpos⟩
    · rw [hnone] at hwaits
      cases hwaits
    · obtain rfl := Option.some.inj (hwaits.symm.trans hwaits')
      have hne : e.mAttempts.toNat ≠ 5 := fun h => hattempts (UInt8.toNat_inj.1 h)
      have hnext : (e.mAttempts + 1).toNat = e.mAttempts.toNat + 1 := by
        rw [UInt8.toNat_add, UInt8.toNat_one, Nat.mod_eq_of_lt (by omega)]
      refine ⟨rfl, by omega, .inr ⟨_, rfl, rfl, ?_, by omega⟩⟩
      change (e.mAttempts + 1).toNat + (m - 1) = 6
      omega

theorem publishMsg_of_ne (s : Publisher) {token' : Token} (msgItem : RsMsgMetaData)
    (h : token ≠ token') :
  (s.publishMsg token' msgItem).mMsgsToPublish.get? token = s.mMsgsToPublish.get? token ∧
    (s.publishMsg token' msgItem).mMsgPendingSign = s.mMsgPendingSign
  := by
  rw [Publisher.publishMsg]
  split
  · exact ⟨rfl, rfl⟩
  · exact ⟨by rw [OrdMap.get?_insert, if_neg h], rfl⟩

/-- Nothing happens to an item that is not there. -/
theorem eventsOf_trace_of_none (hnone : s.item? token = none)
    (htoken : ∀ i ∈ is, token ∉ i.tokens) :
  eventsOf token ((publishMachine service).trace s is) = [] ∧
    ((publishMachine service).run s is).item? token = none
  := by
  induction is generalizing s with
  | nil => exact ⟨rfl, hnone⟩
  | cons i is ih =>
    rw [List.forall_mem_cons] at htoken
    rw [Machine.trace_cons, Machine.run_cons, eventsOf_append]
    cases i with
    | publishMsg token' msgItem =>
      have hne : token ≠ token' := fun h => htoken.1 (List.mem_singleton.2 h)
      obtain ⟨hpublish, hpending⟩ := publishMsg_of_ne s msgItem hne
      apply ih _ htoken.2
      change (s.publishMsg token' msgItem).item? token = none
      rw [Publisher.item?, hpublish, hpending]
      exact hnone
    | publishMsgs answers =>
      obtain ⟨hpublish, hpending, hevents⟩ := @publishMsgs_spec service answers s token
      rw [hnone, Option.map_none, Option.getD_none] at hpending hevents
      have hgone : (s.publishMsgs service answers).1.item? token = none := by
        rw [Publisher.item?, hpublish, hpending, Option.none_or]
        exact (Option.or_eq_none_iff.1 hnone).2
      obtain ⟨hrest, hrun⟩ := ih hgone htoken.2
      exact ⟨by rw [Machine.emit, publishMachine, hevents]; exact hrest, hrun⟩

/-- An item that has at most `m` calls left ends in one of them. -/
theorem ends_of_left (hleft : Left s token m)
    (hsteady : (publishMachine service).Along (Steady service) s is)
    (htoken : ∀ i ∈ is, token ∉ i.tokens) :
  Ends token m (is.countP PublishInput.isTick)
    (eventsOf token ((publishMachine service).trace s is))
  := by
  induction is generalizing s m with
  | nil =>
    right
    exact ⟨hleft.pos, rfl⟩
  | cons i is ih =>
    rw [List.forall_mem_cons] at htoken
    obtain ⟨hi, hsteady⟩ := hsteady
    rw [Machine.trace_cons, eventsOf_append, List.countP_cons]
    cases i with
    | publishMsg token' msgItem =>
      have hne : token ≠ token' := fun h => htoken.1 (List.mem_singleton.2 h)
      obtain ⟨hpublish, hpending⟩ := publishMsg_of_ne s msgItem hne
      apply ih _ hsteady htoken.2
      change Left (s.publishMsg token' msgItem) token m
      rw [Left, hpublish, hpending]
      exact hleft
    | publishMsgs answers =>
      have hstep : (publishMachine service).step s (.publishMsgs answers) =
        s.publishMsgs service answers := rfl
      rw [Machine.next, hstep] at hsteady
      rw [Machine.emit, Machine.next, hstep, PublishInput.isTick, if_pos rfl]
      rcases left_publishMsgs hi hleft with ⟨hlast, hgone⟩ | ⟨huse, hm, hnext⟩
      · left
        refine ⟨0, _, hleft.pos, by omega, hlast, ?_⟩
        rw [(eventsOf_trace_of_none hgone htoken.2).1, List.append_nil]
        rfl
      · rw [huse]
        rcases ih hnext hsteady htoken.2 with ⟨k, last, hk, hn, hlast, heq⟩ | ⟨hn, heq⟩
        · left
          refine ⟨k + 1, last, by omega, by omega, hlast, ?_⟩
          rw [heq, List.replicate_succ]
          rfl
        · right
          refine ⟨by omega, ?_⟩
          rw [heq, List.replicate_succ]
          rfl

/-- The items of a run whose calls are steady end once and in time. -/
theorem publishesOnce_of_steady {is : List PublishInput}
    (htokens : (is.flatMap PublishInput.tokens).Nodup)
    (hsteady : (publishMachine service).Along (Steady service) .new is) :
  PublishesOnce service is
  := by
  rintro js token msgItem ks rfl
  rw [List.flatMap_append, List.nodup_append', List.flatMap_cons] at htokens
  obtain ⟨-, hks, hjs⟩ := htokens
  rw [Machine.along_append, Machine.along_cons] at hsteady
  have hbefore : ∀ i ∈ js, token ∉ i.tokens := by
    intro i hi htoken
    apply hjs (List.mem_flatMap.2 ⟨i, hi, htoken⟩)
    exact List.mem_cons_self
  have hafter : ∀ i ∈ ks, token ∉ i.tokens := by
    intro i hi htoken
    exact (List.nodup_cons.1 hks).1 (List.mem_flatMap.2 ⟨i, hi, htoken⟩)
  obtain ⟨hnil, hnone⟩ := @eventsOf_trace_of_none service token .new js rfl hbefore
  rw [Machine.trace_append, Machine.trace_cons, eventsOf_append, hnil, List.nil_append]
  apply ends_of_left _ hsteady.2.2 hafter
  generalize (publishMachine service).run .new js = s at hnone
  obtain ⟨hpublish, hpending⟩ := Option.or_eq_none_iff.1 hnone
  left
  change ((s.publishMsg token msgItem).mMsgsToPublish.get? token).isSome ∧
    (s.publishMsg token msgItem).mMsgPendingSign.get? token = none ∧ 7 = 7
  rw [Publisher.publishMsg, hpublish, if_neg (by simp)]
  exact ⟨by simp, Option.map_eq_none_iff.1 hpending, rfl⟩

end Run

/-! ### Items that do not end once -/

/-- A service without a policy, whose keys sign. -/
def signingService : Service :=
  ⟨0, 0, ⟨fun _ => none, fun _ _ _ => false, fun _ _ => some [], fun _ => 1⟩⟩

/-- An item of the author `5`. -/
def authoredItem : RsMsgMetaData := ⟨1, 0, 0, 0, 0, 5, [], 0, 0⟩

/-- A call in which `serialise` gives the data of the items, the group is there or not, and the
private key of the author as well. -/
def publishCall (data : Option (List UInt8)) (hasGroup havePrivateKey : Bool) : PublishInput :=
  .publishMsgs {
    serialise := fun _ _ => data
    grpMeta? := fun _ grpId => if hasGroup then some (plainGrpMeta grpId 0x4) else none
    mGixs := fun _ => some ⟨fun _ => true, fun _ => none, fun _ => havePrivateKey, fun _ => .new⟩
    now := 0 }

/-- An item is published, and `publishMsgs` is called. -/
def publishRun (calls : List PublishInput) : List PublishInput :=
  .publishMsg 0 authoredItem :: calls

theorem publishesOnce_of_steady_authoredItem :
  PublishesOnce signingService
      (publishRun [publishCall (some []) true false, publishCall (some []) true true]) ∧
    ∃ metaData, (publishMachine signingService).trace .new
        (publishRun [publishCall (some []) true false, publishCall (some []) true true]) =
      .use 0 :: completed 0 [] metaData
  := by
  have hcreate (token : Token) (msgItem : RsMsgMetaData) (hasKey : Bool) :
      (createMessage signingService
        (some ⟨fun _ => true, fun _ => none, fun _ => hasKey, fun _ => .new⟩) []
        (msgItem.toMetaData 0) (some (plainGrpMeta msgItem.mGroupId 0x4))).1 ≠ .fail := by
    have hpolicy (pos : PrivacyBitPos) (flag : UInt8) : checkAuthenFlag 0 pos flag = false := by
      simp [checkAuthenFlag]
    cases hasKey <;>
      simp only [createMessage, createMsgSignatures, createPublishSign, createIdentitySign,
        createNeedsIdentitySign, signingService, hpolicy, GxsSecurity.getSignature] <;>
      repeat' split <;> simp_all
  constructor
  · apply publishesOnce_of_steady (by decide)
    refine ⟨trivial, ?_, ?_, trivial⟩
    · intro token msgItem _
      exact ⟨[], rfl, fun _ => hcreate token msgItem false⟩
    · intro token msgItem _
      exact ⟨[], rfl, fun _ => hcreate token msgItem true⟩
  · exact ⟨_, rfl⟩

theorem Ends.length_events {token : Token} {m n : Nat} {events : List PublishEvent}
    (h : Ends token m n events) (hn : m ≤ n) :
  3 ≤ events.length ∧ events.length < m + 4
  := by
  rcases h with ⟨k, last, hk, -, rfl | ⟨_, _, rfl⟩, rfl⟩ | ⟨hlt, -⟩
  · simp only [abandoned, List.length_append, List.length_replicate, List.length_cons,
      List.length_nil]
    omega
  · simp only [completed, List.length_append, List.length_replicate, List.length_cons,
      List.length_nil]
    omega
  · omega

/-- A token whose item cannot be serialised stays pending, and an item whose group disappears while
it waits is deleted in every call. -/
theorem not_publishesOnce :
  ¬ PublishesOnce signingService
      (publishRun (List.replicate 7 (publishCall none true true))) ∧
    ¬ PublishesOnce signingService (publishRun
      (publishCall (some []) true false :: List.replicate 6 (publishCall (some []) false false)))
  := by
  constructor
  · intro h
    have hlength := ((h [] 0 authoredItem _ rfl).length_events (by decide)).1
    revert hlength
    decide
  · intro h
    have hlength := ((h [] 0 authoredItem _ rfl).length_events (by decide)).2
    revert hlength
    decide

end GenExchange
