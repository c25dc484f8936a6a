import RetroShare.GRouter.Entries

/-!
# What clients are told

The clients of the router send messages, cancel them, and are told what becomes of them.  `Note`s
are what they see.

A client may be told of a message that none of them has sent: when `autoWash` removes a message of
others that is too old, it tells the client of the service that the message has failed.  A client
may be told twice that its message was received: the entry of a message that is done is kept until
`autoWash` removes it, and every receipt that comes in between is told.  And a router that starts
again with an old state has forgotten what it has told.

The result is about runs in which none of this happens.
-/

namespace GRouter

/-- What the clients of the router see. -/
inductive Note
  | returned (mid : GRouterMsgPropagationId)
  | cancelled (mid : GRouterMsgPropagationId)
  | told (client : GRouterClientService) (mid : GRouterMsgPropagationId) (status : ClientStatus)
  deriving DecidableEq

/-- The event as a note. -/
def Event.note? : Event → Option Note
  | .notifyDataStatus client mid status => some (.told client mid status)
  | _ => none

/-- The calls of clients as notes. -/
def callNotes (crypto : Crypto) (router : p3GRouter) : Input → List Note
  | .sendData call => (router.sentId crypto call).toList.map .returned
  | .cancel mid => if (router.pendingMessages.get? mid).isSome then [.cancelled mid] else []
  | _ => []

/-- The router as its clients see it. -/
def noted (crypto : Crypto) : Machine p3GRouter Input Note where
  step router input :=
    ((p3GRouter.machine crypto).next router input,
      callNotes crypto router input ++
        ((p3GRouter.machine crypto).emit router input).filterMap Event.note?)

/-- The message was sent by a client, and not cancelled since. -/
def Owned (notes : List Note) (mid : GRouterMsgPropagationId) : Prop :=
  ∃ before after, notes = before ++ .returned mid :: after ∧ .cancelled mid ∉ after

/-- How often clients are told that the message was received. -/
def receivedCount (notes : List Note) (mid : GRouterMsgPropagationId) : Nat :=
  notes.countP fun note => match note with
    | .told _ mid' status => mid' = mid && status = .received
    | _ => false

/-- Clients are told of messages that were sent by a client and not cancelled, and at most once that
a message was received. -/
structure NoticesOwned (notes : List Note) : Prop where
  owned : ∀ k client mid status, notes[k]? = some (.told client mid status) →
    Owned (notes.take k) mid
  once : ∀ mid, receivedCount notes mid ≤ 1

/-- What may happen, after some notes: no valid receipt comes for a message of ours that is done,
a message that is washed is done or has no client, `sendData` draws an identifier that it has not returned,
and messages of ours that are loaded were not cancelled, and not told to be received, since they
were saved. -/
structure Told (crypto : Crypto) (s : p3GRouter × List Note) (input : Input) : Prop where
  receipt : ∀ env item items info, input = .handleIncoming env →
    s.1.incomingItems = .receipt item :: items →
    s.1.pendingMessages.get? item.routingId = some info → info.routingFlags.isOrigin = true →
    item.dataHash = info.itemHash →
    crypto.validateData item.serialiseSignedData item.signature = true → info.dataStatus ≠ .done
  wash : ∀ net mid info, input = .autoWash net → s.1.pendingMessages.get? mid = some info →
    p3GRouter.washed net.now info = true → info.dataStatus = .done ∨
      s.1.getClientAndServiceId info.tunnelHash info.dataItem.destinationKey = none
  send : ∀ call mid, input = .sendData call → s.1.sentId crypto call = some mid →
    .returned mid ∉ s.2
  load : ∀ info ∈ s.1.saved, input = .loadList → info.routingFlags.isOrigin = true →
    Owned s.2 info.dataItem.routingId ∧
      (info.dataStatus ≠ .done → receivedCount s.2 info.dataItem.routingId = 0)

variable {crypto : Crypto} {router : p3GRouter} {input : Input} {mid : GRouterMsgPropagationId}
  {notes notes' : List Note} {s : p3GRouter × List Note} {info : GRouterRoutingInfo} {event : Event}
  {env : Handling}

/-- Most inputs do nothing of this. -/
theorem Told.of_other (hhandle : ∀ env, input ≠ .handleIncoming env)
    (hwash : ∀ net, input ≠ .autoWash net) (hsend : ∀ call, input ≠ .sendData call)
    (hload : input ≠ .loadList) :
  Told crypto s input
  := by
  constructor
  case receipt => exact fun env _ _ _ h => absurd h (hhandle env)
  case wash => exact fun net _ _ h => absurd h (hwash net)
  case send => exact fun call _ h => absurd h (hsend call)
  case load => exact fun _ _ h => absurd h hload

/-! ### Notes -/

theorem Owned.append (h : Owned notes mid) (hcancelled : .cancelled mid ∉ notes') :
  Owned (notes ++ notes') mid
  := by
  obtain ⟨before, after, rfl, hafter⟩ := h
  refine ⟨before, after ++ notes', by simp, ?_⟩
  rw [List.mem_append, not_or]
  exact ⟨hafter, hcancelled⟩

theorem owned_returned (notes : List Note) (mid : GRouterMsgPropagationId) :
  Owned (notes ++ [.returned mid]) mid
  := ⟨notes, [], rfl, List.not_mem_nil⟩

theorem Owned.returned_mem (h : Owned notes mid) :
  .returned mid ∈ notes
  := by
  obtain ⟨before, after, rfl, -⟩ := h
  simp

theorem receivedCount_append :
  receivedCount (notes ++ notes') mid = receivedCount notes mid + receivedCount notes' mid
  := List.countP_append

/-- Nobody is told of a message that was not sent. -/
theorem NoticesOwned.receivedCount_eq_zero (h : NoticesOwned notes)
    (hmid : .returned mid ∉ notes) :
  receivedCount notes mid = 0
  := by
  apply List.countP_eq_zero.mpr
  intro note hmem hnote
  cases note with
  | told client mid' status =>
    obtain ⟨rfl, -⟩ : mid' = mid ∧ status = .received := by simpa using hnote
    obtain ⟨k, hk⟩ := List.getElem?_of_mem hmem
    apply hmid
    exact List.mem_of_mem_take (h.owned k client mid' status hk).returned_mem
  | returned => cases hnote
  | cancelled => cases hnote

/-- Notes that tell nothing. -/
theorem NoticesOwned.append (h : NoticesOwned notes)
    (hnone : ∀ client mid status, .told client mid status ∉ notes') :
  NoticesOwned (notes ++ notes')
  := by
  constructor
  case owned =>
    intro k client mid status hk
    by_cases hlt : k < notes.length
    case pos =>
      rw [List.getElem?_append_left hlt] at hk
      rw [List.take_append_of_le_length hlt.le]
      exact h.owned k client mid status hk
    case neg =>
      rw [List.getElem?_append_right (not_lt.mp hlt)] at hk
      exact absurd (List.mem_of_getElem? hk) (hnone client mid status)
  case once =>
    intro mid
    have hzero : receivedCount notes' mid = 0 := by
      apply List.countP_eq_zero.mpr
      intro note hmem hnote
      cases note with
      | told client mid' status => exact hnone client mid' status hmem
      | returned => cases hnote
      | cancelled => cases hnote
    rw [receivedCount_append, hzero]
    exact h.once mid

theorem NoticesOwned.told (h : NoticesOwned notes) {client : GRouterClientService}
    (howned : Owned notes mid) (hzero : receivedCount notes mid = 0) :
  NoticesOwned (notes ++ [.told client mid .received])
  := by
  constructor
  case owned =>
    intro k client' mid' status hk
    by_cases hlt : k < notes.length
    case pos =>
      rw [List.getElem?_append_left hlt] at hk
      rw [List.take_append_of_le_length hlt.le]
      exact h.owned k client' mid' status hk
    case neg =>
      rw [List.getElem?_append_right (not_lt.mp hlt)] at hk
      have hk' : k = notes.length := by
        have := (List.getElem?_eq_some_iff.mp hk).1
        rw [List.length_singleton] at this
        omega
      subst hk'
      obtain ⟨rfl, rfl, rfl⟩ : client = client' ∧ mid = mid' ∧ .received = status := by
        simpa using hk
      rw [List.take_left]
      exact howned
  case once =>
    intro mid'
    rw [receivedCount_append]
    by_cases heq : mid = mid'
    case pos =>
      subst heq
      rw [hzero]
      simp [receivedCount]
    case neg =>
      have hnone : receivedCount [.told client mid .received] mid' = 0 := by
        simp [receivedCount, heq]
      rw [hnone]
      exact h.once mid'

/-! ### Steps -/

/-- What the clients see of an input. -/
inductive NotesStep (crypto : Crypto) (router : p3GRouter) (input : Input) : List Note → Prop
  | none : NotesStep crypto router input []
  | returned {call : SendData} {mid : GRouterMsgPropagationId} (hinput : input = .sendData call)
      (hid : router.sentId crypto call = some mid) :
      NotesStep crypto router input [.returned mid]
  | cancelled {mid : GRouterMsgPropagationId} (hinput : input = .cancel mid) :
      NotesStep crypto router input [.cancelled mid]
  | told {client : GRouterClientService} {mid : GRouterMsgPropagationId}
      {info : GRouterRoutingInfo} (hget : router.pendingMessages.get? mid = some info)
      (horigin : info.routingFlags.isOrigin = true) (hdone : info.dataStatus ≠ .done)
      (hnext : ((p3GRouter.machine crypto).next router input).pendingMessages.get? mid =
        some { info with dataStatus := .done }) :
      NotesStep crypto router input [.told client mid .received]

theorem note?_routePendingObject {net : Network}
    (h : event ∈ (router.routePendingObject net info).2) :
  event.note? = none
  := by
  have hreceipt : ∀ info : GRouterRoutingInfo, ∀ event ∈ (p3GRouter.routeReceipt net info).2,
      event.note? = none := by
    intro info event hmem
    rw [p3GRouter.routeReceipt] at hmem
    repeat' split at hmem
    · cases hmem
    · cases hmem
    · obtain ⟨pid, -, rfl⟩ := List.mem_map.mp hmem
      rfl
  have hdata : ∀ event ∈ (router.routeData net info).2.1, event.note? = none := by
    intro event hmem
    rw [p3GRouter.routeData] at hmem
    cases hstatus : info.dataStatus with
    | pending =>
      rw [hstatus] at hmem
      dsimp only at hmem
      repeat' split at hmem
      · cases hmem
      · cases hmem
      · obtain ⟨pid, -, rfl⟩ := List.mem_map.mp hmem
        rfl
    | ongoing =>
      rw [hstatus] at hmem
      dsimp only at hmem
      split at hmem <;> cases hmem
    | sent =>
      rw [hstatus] at hmem
      dsimp only at hmem
      split at hmem <;> cases hmem
    | receiptOk =>
      rw [hstatus] at hmem
      cases hmem
    | done =>
      rw [hstatus] at hmem
      cases hmem
  rw [p3GRouter.routePendingObject] at h
  generalize router.routeData net info = r at hdata h
  obtain ⟨info', out, _ | _⟩ := r
  · exact hdata event h
  · rcases List.mem_append.mp h with h | h
    · exact hdata event h
    · exact hreceipt info' event h

theorem note?_handleIncomingDataItem {item : RsGRouterGenericDataItem}
    (h : event ∈ (router.handleIncomingDataItem crypto env item).2) :
  event.note? = none
  := by
  rw [p3GRouter.handleIncomingDataItem] at h
  dsimp only at h
  repeat' split at h
  case h_2 =>
    obtain rfl := List.mem_singleton.mp h
    rfl
  all_goals cases h

/-- A receipt that is handled: nobody is told anything, or the client of a message of ours that was
not done is told that it was received. -/
theorem notesStep_receipt {item : RsGRouterSignedReceiptItem}
    {items : List RsGRouterAbstractMsgItem} (hitems : router.incomingItems = .receipt item :: items)
    (h : Told crypto (router, notes) (.handleIncoming env)) :
  NotesStep crypto router (.handleIncoming env)
    (({ router with incomingItems := items }.handleIncomingReceiptItem crypto item).2.filterMap
      Event.note?)
  := by
  have hnext : ((p3GRouter.machine crypto).next router (.handleIncoming env)) =
      ({ router with incomingItems := items }.handleIncomingReceiptItem crypto item).1 := by
    simp only [Machine.next, p3GRouter.machine, p3GRouter.step, p3GRouter.handleIncoming, hitems]
  have hreceipt := h.receipt env item items
  rw [p3GRouter.handleIncomingReceiptItem] at hnext ⊢
  cases hget : router.pendingMessages.get? item.routingId with
  | none => exact .none
  | some info =>
    rw [hget] at hnext
    dsimp only at hnext ⊢
    split
    case isTrue => exact .none
    case isFalse hhash =>
      rw [if_neg hhash] at hnext
      split
      case isTrue => exact .none
      case isFalse hvalid =>
        rw [if_neg hvalid] at hnext
        split
        case isFalse => exact .none
        case isTrue horigin =>
          rw [if_pos horigin] at hnext
          split
          case h_1 => exact .none
          case h_2 =>
            split
            case isTrue => exact .none
            case isFalse =>
              apply NotesStep.told hget horigin
              · apply hreceipt info rfl hitems hget horigin (not_not.mp hhash)
                simpa using hvalid
              · rw [hnext]
                exact OrdMap.get?_insert_self _ _

/-- The cases of an input. -/
theorem notesStep (h : Told crypto (router, notes) input) :
  NotesStep crypto router input ((noted crypto).emit router input)
  := by
  have hnone : ∀ events : List Event, (∀ event ∈ events, event.note? = none) →
      NotesStep crypto router input (events.filterMap Event.note?) := by
    intro events hevents
    rw [List.filterMap_eq_nil_iff.mpr hevents]
    exact .none
  simp only [Machine.emit, noted, p3GRouter.machine]
  cases input with
  | sendData call =>
    simp only [callNotes, p3GRouter.step, List.filterMap_nil, List.append_nil]
    cases hid : router.sentId crypto call with
    | none => exact .none
    | some mid => exact .returned rfl hid
  | cancel mid =>
    simp only [callNotes, p3GRouter.step, List.filterMap_nil, List.append_nil]
    split
    · exact .cancelled rfl
    · exact .none
  | handleIncoming env =>
    simp only [callNotes, p3GRouter.step, p3GRouter.handleIncoming, List.nil_append]
    cases hitems : router.incomingItems with
    | nil => exact .none
    | cons item items =>
      cases item with
      | data item => exact hnone _ fun event hmem => note?_handleIncomingDataItem hmem
      | receipt item => exact notesStep_receipt hitems h
  | routePendingObjects net =>
    apply hnone
    intro event hmem
    obtain ⟨e, -, hmem⟩ := List.mem_flatMap.mp hmem
    exact note?_routePendingObject hmem
  | autoWash net =>
    apply hnone
    intro event hmem
    obtain ⟨⟨mid, info⟩, hentry, hmem⟩ := List.mem_flatMap.mp hmem
    rw [OrdMap.mem_toList, OrdMap.get?_filter, Option.filter_eq_some_iff] at hentry
    rw [p3GRouter.washNotice] at hmem
    rcases h.wash net mid info rfl hentry.1 hentry.2 with hdone | hnone
    · rw [if_pos hdone] at hmem
      cases hmem
    · simp [hnone] at hmem
  | _ => exact .none

/-- What is kept of the messages and the notes: a message of ours was sent and not cancelled, and
its client was not told that it was received unless it is done. -/
structure Noticed (s : p3GRouter × List Note) : Prop where
  notices : NoticesOwned s.2
  noReceipt : ∀ mid info, s.1.pendingMessages.get? mid = some info →
    info.routingFlags.isOrigin = true → info.receiptItem = none
  owned : ∀ mid info, s.1.pendingMessages.get? mid = some info →
    info.routingFlags.isOrigin = true → Owned s.2 mid
  untold : ∀ mid info, s.1.pendingMessages.get? mid = some info →
    info.routingFlags.isOrigin = true → info.dataStatus ≠ .done → receivedCount s.2 mid = 0
  saved : ∀ info ∈ s.1.saved, info.routingFlags.isOrigin = true → info.receiptItem = none

/-- The notes of an input. -/
theorem Noticed.notices_next (h : Noticed s) (htold : Told crypto s input) :
  NoticesOwned (s.2 ++ (noted crypto).emit s.1 input)
  := by
  have hnotes : NotesStep crypto s.1 input _ := notesStep htold
  generalize (noted crypto).emit s.1 input = notes at hnotes ⊢
  cases hnotes with
  | none => exact h.notices.append fun _ _ _ hmem => by cases hmem
  | returned => exact h.notices.append fun _ _ _ hmem => by simp at hmem
  | cancelled => exact h.notices.append fun _ _ _ hmem => by simp at hmem
  | told hget horigin hdone =>
    exact h.notices.told (h.owned _ _ hget horigin) (h.untold _ _ hget horigin hdone)

theorem not_cancelled_of_next (htold : Told crypto s input)
    (hget : ((noted crypto).next s.1 input).pendingMessages.get? mid = some info) :
  .cancelled mid ∉ (noted crypto).emit s.1 input
  := by
  have hnotes : NotesStep crypto s.1 input _ := notesStep htold
  generalize (noted crypto).emit s.1 input = notes at hnotes ⊢
  cases hnotes with
  | none => exact List.not_mem_nil
  | returned => simp
  | told => simp
  | @cancelled mid' hinput =>
    intro hmem
    obtain rfl : mid = mid' := by simpa using hmem
    subst hinput
    have herased : (s.1.pendingMessages.erase mid).get? mid = some info := hget
    rw [OrdMap.get?_erase_self] at herased
    cases herased

/-- Nobody is told of a message that is not done after an input that it was received. -/
theorem receivedCount_of_next (htold : Told crypto s input)
    (hget : ((noted crypto).next s.1 input).pendingMessages.get? mid = some info)
    (hdone : info.dataStatus ≠ .done) :
  receivedCount ((noted crypto).emit s.1 input) mid = 0
  := by
  have hnotes : NotesStep crypto s.1 input _ := notesStep htold
  generalize (noted crypto).emit s.1 input = notes at hnotes ⊢
  cases hnotes with
  | none => rfl
  | returned => rfl
  | cancelled => rfl
  | @told client mid' info' _ _ _ hnext =>
    by_cases heq : mid' = mid
    case neg => simp [receivedCount, heq]
    case pos =>
      subst heq
      obtain rfl := Option.some.inj (hnext.symm.trans hget)
      exact absurd rfl hdone

theorem Noticed.entry_next (h : Noticed s) (htold : Told crypto s input) (hload : input ≠ .loadList)
    (hget : ((noted crypto).next s.1 input).pendingMessages.get? mid = some info)
    (horigin : info.routingFlags.isOrigin = true) :
  info.receiptItem = none ∧ Owned (s.2 ++ (noted crypto).emit s.1 input) mid ∧
    (info.dataStatus ≠ .done → receivedCount (s.2 ++ (noted crypto).emit s.1 input) mid = 0)
  := by
  have hcancelled := not_cancelled_of_next htold hget
  have hcount := receivedCount_of_next htold hget
  have hentry : EntryStep crypto s.1 input mid _ _ := p3GRouter.entryStep hload mid
  have hget' : ((p3GRouter.machine crypto).next s.1 input).pendingMessages.get? mid = some info :=
    hget
  rw [hget'] at hentry
  generalize hbefore : s.1.pendingMessages.get? mid = before at hentry
  cases hentry with
  | @keeps info₀ _ hkeeps =>
    rw [hkeeps.isOrigin] at horigin
    refine ⟨?_, (h.owned mid _ hbefore horigin).append hcancelled, ?_⟩
    · rw [hkeeps.receiptItem, h.noReceipt mid _ hbefore horigin]
    · intro hdone
      have hdone₀ : info₀.dataStatus ≠ .done := fun hdone₀ => hdone (hkeeps.done hdone₀)
      rw [receivedCount_append, hcount hdone, h.untold mid _ hbefore horigin hdone₀]
  | @sent call _ hinput hid _ =>
    subst hinput
    have hreturned : (noted crypto).emit s.1 (.sendData call) = [.returned mid] := by
      simp [Machine.emit, noted, callNotes, hid, p3GRouter.machine, p3GRouter.step]
    rw [hreturned] at hcount ⊢
    refine ⟨rfl, owned_returned s.2 mid, ?_⟩
    intro hdone
    rw [receivedCount_append, hcount hdone,
      h.notices.receivedCount_eq_zero (htold.send call mid rfl hid)]
  | arrived => cases horigin
  | @received _ _ _ info₀ _ _ _ _ =>
    exact ⟨h.noReceipt mid info₀ hbefore horigin,
      (h.owned mid info₀ hbefore horigin).append hcancelled, fun hdone => absurd rfl hdone⟩
  | returned _ _ _ hnot =>
    rw [hnot] at horigin
    cases horigin

/-- One step of the router. -/
theorem Noticed.next (h : Noticed s) (htold : Told crypto s input) :
  Noticed ((noted crypto).recorded.next s input)
  := by
  by_cases hload : input = .loadList
  case pos =>
    subst hload
    have hnotes : (noted crypto).emit s.1 .loadList = [] := rfl
    have hnext : (noted crypto).recorded.next s .loadList = (s.1.loadList, s.2) := by
      rw [Machine.recorded_next, hnotes, List.append_nil]
      rfl
    rw [hnext]
    constructor
    case notices => exact h.notices
    case noReceipt =>
      intro mid info hget horigin
      obtain ⟨info', hmem, -, hkeeps⟩ := p3GRouter.get?_loadList hget
      rw [hkeeps.isOrigin] at horigin
      rw [hkeeps.receiptItem, h.saved info' hmem horigin]
    case owned =>
      intro mid info hget horigin
      obtain ⟨info', hmem, rfl, hkeeps⟩ := p3GRouter.get?_loadList hget
      rw [hkeeps.isOrigin] at horigin
      exact (htold.load info' hmem rfl horigin).1
    case untold =>
      intro mid info hget horigin hdone
      obtain ⟨info', hmem, rfl, hkeeps⟩ := p3GRouter.get?_loadList hget
      rw [hkeeps.isOrigin] at horigin
      exact (htold.load info' hmem rfl horigin).2 fun hdone' => hdone (hkeeps.done hdone')
    case saved => exact h.saved
  case neg =>
    rw [Machine.recorded_next]
    constructor
    case notices => exact h.notices_next htold
    case noReceipt => exact fun mid info hget horigin => (h.entry_next htold hload hget horigin).1
    case owned => exact fun mid info hget horigin => (h.entry_next htold hload hget horigin).2.1
    case untold => exact fun mid info hget horigin => (h.entry_next htold hload hget horigin).2.2
    case saved =>
      by_cases hsave : input = .saveList
      case pos =>
        subst hsave
        intro info hmem horigin
        obtain ⟨⟨mid, info⟩, hentry, rfl⟩ := List.mem_map.mp hmem
        exact h.noReceipt mid info (OrdMap.mem_toList.mp hentry) horigin
      case neg =>
        have hsaved : ((noted crypto).next s.1 input).saved = s.1.saved := saved_next hsave
        dsimp only
        rw [hsaved]
        exact h.saved

/-- In every run of this kind, clients are told of messages that were sent and not cancelled, and at
most once that a message was received. -/
theorem notices_owned (crypto : Crypto) (inputs : List Input)
    (h : (noted crypto).recorded.Along (Told crypto) (p3GRouter.init, []) inputs) :
  NoticesOwned ((noted crypto).trace p3GRouter.init inputs)
  := by
  have hinit : Noticed (p3GRouter.init, []) := by
    constructor
    case notices => exact ⟨fun _ _ _ _ hk => (by cases hk), fun _ => Nat.zero_le 1⟩
    case noReceipt => exact fun _ _ hget => by cases hget
    case owned => exact fun _ _ hget => by cases hget
    case untold => exact fun _ _ hget => by cases hget
    case saved => exact fun _ hmem => by cases hmem
  have hrun : Noticed ((noted crypto).recorded.run (p3GRouter.init, []) inputs) :=
    Machine.run_of_step (fun _ _ hs hi => hs.next hi) hinit h
  rw [Machine.recorded_run, List.nil_append] at hrun
  exact hrun.notices

/-! #### Messages of ours and of others -/

/-- A network without peers. -/
def plainNetwork (now : Nat) : Network := ⟨now, fun _ => false, fun _ => false, [], fun _ _ => []⟩

/-- A message of ours is sent, its receipt comes, and it is washed. -/
def noticeInputs : List Input :=
  plainInputs 7 ++ [.handleIncoming ⟨101, none, none⟩, .autoWash (plainNetwork 102)]

/-- The client is told once that its message was received. -/
theorem notices_owned_plain :
  (noted plainCrypto).trace p3GRouter.init noticeInputs = [.returned 9, .told 5 9 .received] ∧
    NoticesOwned ((noted plainCrypto).trace p3GRouter.init noticeInputs)
  := by
  constructor
  · decide +kernel
  · apply notices_owned
    refine ⟨?_, ?_, ?_, ?_, ?_, trivial⟩
    · apply Told.of_other
      case hload => exact fun h => by cases h
      all_goals exact fun _ h => by cases h
    · constructor
      case receipt => exact fun _ _ _ _ h => by cases h
      case wash => exact fun _ _ _ h => by cases h
      case send => exact fun _ _ _ _ => List.not_mem_nil
      case load => exact fun _ _ h => by cases h
    · apply Told.of_other
      case hload => exact fun h => by cases h
      all_goals exact fun _ h => by cases h
    · constructor
      case receipt =>
        intro env item items info _ hitems hget _ _ _
        obtain ⟨rfl, rfl⟩ : plainReceipt 7 = item ∧ [] = items := by
          have hqueue : [RsGRouterAbstractMsgItem.receipt (plainReceipt 7)] =
            .receipt item :: items := hitems
          simpa using hqueue
        obtain rfl := Option.some.inj hget
        exact fun hdone => by cases hdone
      case wash => exact fun _ _ _ h => by cases h
      case send => exact fun _ _ h => by cases h
      case load => exact fun _ _ h => by cases h
    · constructor
      case receipt => exact fun _ _ _ _ h => by cases h
      case wash =>
        intro net mid info _ hget _
        have hdone : ∀ e ∈ ((noted plainCrypto).run p3GRouter.init
            (plainInputs 7 ++ [.handleIncoming ⟨101, none, none⟩])).pendingMessages.toList,
            e.2.dataStatus = .done := by
          decide +kernel
        exact .inl (hdone (mid, info) (OrdMap.mem_toList.mpr hget))
      case send => exact fun _ _ h => by cases h
      case load => exact fun _ _ h => by cases h

/-- A message of others comes, and is washed when it is too old. -/
def foreignInputs : List Input :=
  [.registerClientService 1 5, .recvItem (.data plainItem), .handleIncoming ⟨101, none, none⟩,
    .autoWash (plainNetwork (102 + gRouterItemMaxCacheKeepTime))]

/-- A client is told that a message has failed that it has not sent. -/
theorem not_notices_owned :
  ¬ ∀ (crypto : Crypto) (inputs : List Input),
    NoticesOwned ((noted crypto).trace p3GRouter.init inputs)
  := by
  intro h
  have hfirst : ((noted plainCrypto).trace p3GRouter.init foreignInputs)[0]? =
      some (.told 5 9 .failed) := by
    decide +kernel
  cases ((h plainCrypto foreignInputs).owned 0 5 9 .failed hfirst).returned_mem

end GRouter
