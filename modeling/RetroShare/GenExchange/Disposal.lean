import RetroShare.GenExchange.Reception
import RetroShare.Lib.Lifetimes

/-!
# What becomes of the messages

Every message that is received is given to the data store or deleted, once, and not touched
afterwards: `messagesDisposed_of_along`.  It needs that the groups of the messages are known; and
that of the messages with the same ids that arrive between two calls of `processRecvdData` only the
last has to wait for a key, because there is one pending entry for all of them.
-/

namespace GenExchange

open Lifetimes

/-- The message that an event is about. -/
def MsgEvent.object : MsgEvent → Nat
  | .use obj => obj
  | .delete obj => obj
  | .storeMessage msg _ => msg.obj

/-- Whether an event ends the message. -/
def MsgEvent.isFinal : MsgEvent → Bool
  | .use _ => false
  | .delete _ => true
  | .storeMessage _ _ => true

/-! ### The outcome for a message -/

/-- What becomes of a message in a pass: it does not depend on the others. -/
inductive MsgOutcome where
  | accept (metaData : RsGxsMsgMetaData)
  | reject
  | wait

section Outcome

variable (service : Service) (answers : MsgAnswers)

/-- The outcome for a message, if no pointer that is `NULL` is followed. -/
def msgOutcome (msg : RsNxsMsg) : Option MsgOutcome :=
  match msg.metaData with
  | none => some .reject
  | some metaData =>
      (answers.grpMeta? msg.grpId).map fun grpMeta =>
        match validateMsg service (answers.mGixs msg) msg.msg metaData grpMeta.mGroupFlags
            grpMeta.keys with
        | .success => .accept metaData
        | .fail => .reject
        | .failTryLater => .wait

/-- Whether a message has to wait. -/
def waits (msg : RsNxsMsg) : Bool :=
  match msgOutcome service answers msg with
  | some .wait => true
  | _ => false

/-- The message that is accepted. -/
def accepted (msg : RsNxsMsg) : Option (RsNxsMsg × RsGxsMsgMetaData) :=
  match msgOutcome service answers msg with
  | some (.accept metaData) => some (msg, markReceived metaData)
  | _ => none

/-- What is logged of a message before the end of the pass. -/
def passEvents (msg : RsNxsMsg) : List MsgEvent :=
  match msgOutcome service answers msg with
  | some .reject => [.use msg.obj, .delete msg.obj]
  | _ => [.use msg.obj]

variable {service answers}

theorem MsgPass.step_of_outcome (pass : MsgPass) (msg : RsNxsMsg) :
  pass.step service answers msg =
    (msgOutcome service answers msg).map fun
      | .accept metaData => pass.accept msg metaData
      | .reject => pass.reject msg
      | .wait => pass.wait msg
  := by
  rw [step, msgOutcome]
  cases msg.metaData with
  | none => rfl
  | some metaData =>
    cases answers.grpMeta? msg.grpId with
    | none => rfl
    | some grpMeta =>
      simp only [Option.map_some]
      cases validateMsg service (answers.mGixs msg) msg.msg metaData
          grpMeta.mGroupFlags grpMeta.keys <;> rfl

theorem isSome_msgOutcome {msg : RsNxsMsg} :
  (msgOutcome service answers msg).isSome ↔ KnownGroup answers msg
  := by
  rw [msgOutcome, KnownGroup]
  cases msg.metaData <;> simp

theorem object_of_mem_passEvents {msg : RsNxsMsg} {e : MsgEvent}
    (h : e ∈ passEvents service answers msg) :
  e.object = msg.obj
  := by
  rw [passEvents] at h
  split at h <;> simp only [List.mem_cons, List.not_mem_nil, or_false] at h
  · rcases h with rfl | rfl <;> rfl
  · rw [h]
    rfl

/-- The three ways that messages can go. -/
theorem count_outcomes (obj : Nat) {l : List RsNxsMsg}
    (hknown : ∀ msg ∈ l, KnownGroup answers msg) :
  (l.map (·.obj)).count obj =
    (ended MsgEvent.object MsgEvent.isFinal (l.flatMap (passEvents service answers))).count obj +
      ((l.filterMap (accepted service answers)).map (·.1.obj)).count obj +
      ((l.filter (waits service answers)).map (·.obj)).count obj
  := by
  induction l with
  | nil => rfl
  | cons msg l ih =>
    rw [List.forall_mem_cons, ← @isSome_msgOutcome service] at hknown
    obtain ⟨outcome, houtcome⟩ := Option.isSome_iff_exists.1 hknown.1
    rw [List.map_cons, List.count_cons, ih hknown.2, List.flatMap_cons, ended_append,
      List.count_append]
    cases outcome <;>
      simp [passEvents, accepted, waits, houtcome, ended, MsgEvent.isFinal, MsgEvent.object,
        List.count_cons, List.filter_cons] <;> omega

end Outcome

/-! ### A pass over messages with different ids -/

/-- The entry of a message that has to wait for the first time. -/
def newEntry (msg : RsNxsMsg) : PendingMsg := ⟨msg, msg.idPair, 0⟩

/-- The entry of a message that has to wait again. -/
def retry (e : PendingMsg) : PendingMsg := { e with mAttempts := e.mAttempts + 1 }

theorem erasePending_of_ne {id : RsGxsGrpMsgIdPair} {pending : List PendingMsg}
    (h : ∀ e ∈ pending, e.mId ≠ id) :
  erasePending id pending = pending
  := by
  apply List.eraseP_of_forall_not
  intro e he
  simpa using h e he

theorem erasePending_append {id : RsGxsGrpMsgIdPair} {pre post : List PendingMsg} {e : PendingMsg}
    (h : ∀ e ∈ pre, e.mId ≠ id) (he : e.mId = id) :
  erasePending id (pre ++ e :: post) = pre ++ post
  := by
  rw [erasePending, List.eraseP_append_right _ (by simpa using h), List.eraseP_cons_of_pos]
  simpa using he

theorem postpone_append {msg : RsNxsMsg} {pre post : List PendingMsg}
    (h : ∀ e ∈ pre, e.mId ≠ msg.idPair) :
  postpone msg (pre ++ post) = pre ++ postpone msg post
  := by
  induction pre with
  | nil => rfl
  | cons e pre ih =>
    rw [List.forall_mem_cons] at h
    rw [List.cons_append, postpone, if_neg h.1, ih h.2, List.cons_append]

section Pass

variable {service : Service} {answers : MsgAnswers}

/-- The received messages: every one that has to wait gets an entry, when none with its ids
follows. -/
theorem foldlM_received {l : List RsNxsMsg} (pass : MsgPass)
    (hknown : ∀ msg ∈ l, KnownGroup answers msg)
    (hids : ∀ msg ∈ l, ∀ e ∈ pass.mMsgPendingValidate, e.mId ≠ msg.idPair)
    (hlast : l.Pairwise fun msg msg' =>
      waits service answers msg = true → msg.idPair ≠ msg'.idPair) :
  l.foldlM (MsgPass.step service answers) pass = some
    ⟨pass.mMsgPendingValidate ++ (l.filter (waits service answers)).map newEntry,
      pass.msgs ++ l.filterMap (accepted service answers),
      pass.log ++ l.flatMap (passEvents service answers)⟩
  := by
  induction l generalizing pass with
  | nil => simp
  | cons msg l ih =>
    rw [List.forall_mem_cons, ← @isSome_msgOutcome service] at hknown
    rw [List.forall_mem_cons] at hids
    rw [List.pairwise_cons] at hlast
    obtain ⟨outcome, houtcome⟩ := Option.isSome_iff_exists.1 hknown.1
    rw [List.foldlM_cons, MsgPass.step_of_outcome, houtcome, Option.map_some, Option.bind_eq_bind,
      Option.bind_some]
    cases outcome with
    | accept metaData =>
      simp only [MsgPass.accept, erasePending_of_ne hids.1]
      rw [ih _ hknown.2 _ hlast.2]
      · simp [waits, accepted, passEvents, houtcome]
      · exact hids.2
    | reject =>
      simp only [MsgPass.reject, erasePending_of_ne hids.1]
      rw [ih _ hknown.2 _ hlast.2]
      · simp [waits, accepted, passEvents, houtcome]
      · exact hids.2
    | wait =>
      have hwaits : waits service answers msg = true := by rw [waits, houtcome]
      have hpostpone : postpone msg (pass.mMsgPendingValidate ++ []) =
          pass.mMsgPendingValidate ++ postpone msg [] := postpone_append hids.1
      rw [List.append_nil] at hpostpone
      simp only [MsgPass.wait, hpostpone]
      rw [ih _ hknown.2 _ hlast.2]
      · simp [hwaits, accepted, passEvents, houtcome, postpone, newEntry]
      · intro msg' hmsg' e he
        rcases List.mem_append.1 he with he | he
        · exact hids.2 msg' hmsg' e he
        · obtain rfl := List.mem_singleton.1 he
          exact hlast.1 msg' hmsg' hwaits

/-- The pending messages: every one that has to wait again counts an attempt. -/
theorem foldlM_retried {es : List PendingMsg} (pass : MsgPass) {pre fresh : List PendingMsg}
    (hpending : pass.mMsgPendingValidate = pre ++ (es ++ fresh))
    (hids : ((pre ++ es).map (·.mId)).Nodup) (hentry : ∀ e ∈ es, e.mId = e.mItem.idPair)
    (hknown : ∀ e ∈ es, KnownGroup answers e.mItem) :
  (es.map (·.mItem)).foldlM (MsgPass.step service answers) pass = some
    ⟨pre ++ ((es.filter fun e => waits service answers e.mItem).map retry ++ fresh),
      pass.msgs ++ (es.map (·.mItem)).filterMap (accepted service answers),
      pass.log ++ (es.map (·.mItem)).flatMap (passEvents service answers)⟩
  := by
  induction es generalizing pass pre with
  | nil =>
    obtain ⟨pending, msgs, log⟩ := pass
    obtain rfl : pending = pre ++ fresh := hpending
    simp
  | cons e es ih =>
    rw [List.forall_mem_cons] at hentry hknown
    rw [← @isSome_msgOutcome service] at hknown
    obtain ⟨outcome, houtcome⟩ := Option.isSome_iff_exists.1 hknown.1
    have hpre : ∀ e' ∈ pre, e'.mId ≠ e.mItem.idPair := by
      intro e' he' heq
      rw [List.map_append, List.nodup_append'] at hids
      apply hids.2.2 (List.mem_map_of_mem he')
      rw [heq, ← hentry.1]
      exact List.mem_map_of_mem List.mem_cons_self
    have hrest : ((pre ++ es).map (·.mId)).Nodup := by
      apply List.Nodup.sublist _ hids
      exact (List.Sublist.append_left (List.sublist_cons_self e es) pre).map _
    rw [List.map_cons, List.foldlM_cons, MsgPass.step_of_outcome, houtcome, Option.map_some,
      Option.bind_eq_bind, Option.bind_some]
    rw [List.cons_append] at hpending
    cases outcome with
    | accept metaData =>
      simp only [MsgPass.accept, hpending, erasePending_append hpre hentry.1]
      rw [ih _ rfl hrest hentry.2 hknown.2]
      simp [waits, accepted, passEvents, houtcome]
    | reject =>
      simp only [MsgPass.reject, hpending, erasePending_append hpre hentry.1]
      rw [ih _ rfl hrest hentry.2 hknown.2]
      simp [waits, accepted, passEvents, houtcome]
    | wait =>
      simp only [MsgPass.wait, hpending, postpone_append hpre, postpone, if_pos hentry.1]
      rw [@ih _ (pre ++ [retry e]) _ _ hentry.2 hknown.2]
      · simp [waits, accepted, passEvents, houtcome]
      · simp [retry]
      · simpa [retry] using hids

end Pass

/-! ### A call of `processRecvdMessages` -/

/-- The messages that are pending have different ids, that no received one has. -/
structure MsgReception.Awaited (s : MsgReception) : Prop where
  nodup : (s.mMsgPendingValidate.map (·.mId)).Nodup
  mId : ∀ e ∈ s.mMsgPendingValidate, e.mId = e.mItem.idPair
  mAttempts : ∀ e ∈ s.mMsgPendingValidate, e.mAttempts ≤ validateMaxAttempts
  fresh : ∀ msg ∈ s.mReceivedMsgs, ∀ e ∈ s.mMsgPendingValidate, e.mId ≠ msg.idPair

/-- The groups of the messages of a call are known, and of the received messages with the same ids
only the last has to wait. -/
structure OrderlyCall (service : Service) (answers : MsgAnswers) (s : MsgReception) : Prop where
  known : ∀ msg ∈ s.worklist, KnownGroup answers msg
  last : s.mReceivedMsgs.Pairwise fun msg msg' =>
    waits service answers msg = true → msg.idPair ≠ msg'.idPair

/-- The messages that are kept. -/
def MsgReception.objects (s : MsgReception) : List Nat :=
  s.mReceivedMsgs.map (·.obj) ++ s.mMsgPendingValidate.map (·.mItem.obj)

section Call

variable {service : Service} {answers : MsgAnswers} {s : MsgReception}
  (hcall : OrderlyCall service answers s)

variable (service answers s) in
/-- The pass over the messages, as it ends. -/
def lastPass : MsgPass where
  mMsgPendingValidate :=
    (s.retried.filter fun e => waits service answers e.mItem).map retry ++
      (s.mReceivedMsgs.filter (waits service answers)).map newEntry
  msgs := s.worklist.filterMap (accepted service answers)
  log := (s.expired.map fun e => .delete e.mItem.obj) ++
    s.worklist.flatMap (passEvents service answers)

/-- What a call does. -/
theorem processRecvdMessages_eq (hs : s.Awaited) (hcall : OrderlyCall service answers s) :
  s.processRecvdMessages service answers =
    some ((lastPass service answers s).finish service answers)
  := by
  have hretried {e : PendingMsg} (he : e ∈ s.retried) : e ∈ s.mMsgPendingValidate :=
    List.mem_of_mem_filter he
  have hknown := List.forall_mem_append.1 hcall.known
  have hids : ∀ msg ∈ s.mReceivedMsgs, ∀ e ∈ s.firstPass.mMsgPendingValidate,
      e.mId ≠ msg.idPair := by
    intro msg hmsg e he
    exact hs.fresh msg hmsg e (hretried he)
  rw [MsgReception.processRecvdMessages, MsgReception.worklist, List.foldlM_append,
    foldlM_received _ hknown.1 hids hcall.last, Option.bind_eq_bind, Option.bind_some,
    @foldlM_retried service answers _ _ [] _ rfl, Option.map_some]
  · simp [lastPass, MsgReception.firstPass, MsgReception.worklist]
  · exact hs.nodup.sublist (List.filter_sublist.map _)
  · intro e he
    exact hs.mId e (hretried he)
  · intro e he
    exact hknown.2 e.mItem (List.mem_map_of_mem he)

theorem retry_mAttempts {e : PendingMsg} (hle : e.mAttempts ≤ validateMaxAttempts)
    (hne : e.mAttempts ≠ validateMaxAttempts) :
  (retry e).mAttempts.toNat = e.mAttempts.toNat + 1 ∧ e.mAttempts.toNat < 5
  := by
  have hlt : e.mAttempts.toNat < 5 := by
    rw [validateMaxAttempts] at *
    rw [Ne, ← UInt8.toNat_inj] at hne
    rw [UInt8.le_iff_toNat_le] at hle
    exact lt_of_le_of_ne hle hne
  constructor
  · rw [retry, UInt8.toNat_add, UInt8.toNat_one, Nat.mod_eq_of_lt (by omega)]
  · exact hlt

/-- The messages that stay are pending as they should be. -/
theorem MsgReception.Awaited.finish_lastPass (hs : s.Awaited)
    (hcall : OrderlyCall service answers s) :
  ((lastPass service answers s).finish service answers).1.Awaited
  := by
  have hretried {e : PendingMsg} (he : e ∈ s.retried) :
      e ∈ s.mMsgPendingValidate ∧ e.mAttempts ≠ validateMaxAttempts := by
    rw [MsgReception.retried, List.mem_filter, decide_eq_true_eq] at he
    exact he
  constructor
  case nodup =>
    rw [MsgPass.finish, lastPass, List.map_append, List.map_map, List.map_map, List.nodup_append']
    refine ⟨?_, ?_, ?_⟩
    · exact hs.nodup.sublist ((List.filter_sublist.trans List.filter_sublist).map _)
    · rw [List.Nodup, List.pairwise_map, List.pairwise_filter]
      apply hcall.last.imp
      intro msg msg' h hwaits _
      exact h hwaits
    · intro id hold hnew
      obtain ⟨e, he, rfl⟩ := List.mem_map.1 hold
      obtain ⟨msg, hmsg, heq⟩ := List.mem_map.1 hnew
      have hmem := hretried (List.mem_of_mem_filter he)
      exact hs.fresh msg (List.mem_of_mem_filter hmsg) e hmem.1 heq.symm
  case mId =>
    intro e he
    rcases List.mem_append.1 he with he | he
    · obtain ⟨e, hwaits, rfl⟩ := List.mem_map.1 he
      exact hs.mId e (hretried (List.mem_of_mem_filter hwaits)).1
    · obtain ⟨msg, -, rfl⟩ := List.mem_map.1 he
      rfl
  case mAttempts =>
    intro e he
    rcases List.mem_append.1 he with he | he
    · obtain ⟨e, hwaits, rfl⟩ := List.mem_map.1 he
      obtain ⟨hmem, hne⟩ := hretried (List.mem_of_mem_filter hwaits)
      obtain ⟨heq, hlt⟩ := retry_mAttempts (hs.mAttempts e hmem) hne
      rw [UInt8.le_iff_toNat_le, heq]
      exact hlt
    · obtain ⟨msg, -, rfl⟩ := List.mem_map.1 he
      exact UInt8.le_iff_toNat_le.2 (Nat.zero_le _)
  case fresh => exact fun _ h => absurd h List.not_mem_nil

/-- The events at the end of a pass: every message that is accepted is deleted or stored. -/
theorem finish_eq (pass : MsgPass) :
  ∃ events, (pass.finish service answers).2 = pass.log ++ events ∧
    (∀ e ∈ events, e.isFinal = true) ∧
    (events.map MsgEvent.object).Perm (pass.msgs.map (·.1.obj))
  := by
  refine ⟨_, List.append_assoc _ _ _, ?_, ?_⟩
  · intro e he
    rcases List.mem_append.1 he with he | he <;> obtain ⟨_, -, rfl⟩ := List.mem_map.1 he <;> rfl
  · have hfilter := (List.filter_append_perm (fun e => isNew service answers e.2) pass.msgs).map
      (·.1.obj)
    rw [List.map_append] at hfilter
    rw [List.map_append, List.map_map, List.map_map]
    exact List.perm_append_comm.trans hfilter

/-- What a call ends: what is logged of the pass, and what is accepted. -/
theorem ended_finish_perm (pass : MsgPass) :
  (ended MsgEvent.object MsgEvent.isFinal (pass.finish service answers).2).Perm
    (ended MsgEvent.object MsgEvent.isFinal pass.log ++ pass.msgs.map (·.1.obj))
  := by
  obtain ⟨events, heq, hfinal, hperm⟩ := @finish_eq service answers pass
  rw [heq, ended_append]
  have hended : ended MsgEvent.object MsgEvent.isFinal events = events.map MsgEvent.object := by
    rw [ended, List.filter_eq_self.2 hfinal]
  rw [hended]
  exact hperm.append_left _

variable (s) in
theorem retried_append_expired_perm :
  (s.retried ++ s.expired).Perm s.mMsgPendingValidate
  := by
  have hperm := List.filter_append_perm (fun e : PendingMsg => e.mAttempts ≠ validateMaxAttempts)
    s.mMsgPendingValidate
  simpa [MsgReception.retried, MsgReception.expired] using hperm

include hcall

/-- A call loses no message. -/
theorem perm_finish_lastPass :
  (ended MsgEvent.object MsgEvent.isFinal
      ((lastPass service answers s).finish service answers).2 ++
    ((lastPass service answers s).finish service answers).1.objects).Perm s.objects
  := by
  rw [List.perm_iff_count]
  intro obj
  have hpending := ((retried_append_expired_perm s).map (·.mItem.obj)).count_eq obj
  have hwork := @count_outcomes service answers obj s.worklist hcall.known
  have hlog : (ended MsgEvent.object MsgEvent.isFinal (lastPass service answers s).log).count obj =
      (s.expired.map (·.mItem.obj)).count obj + (ended MsgEvent.object MsgEvent.isFinal
        (s.worklist.flatMap (passEvents service answers))).count obj := by
    rw [lastPass, ended_append, ended_map fun _ => rfl, List.count_append]
    rfl
  have hkept : ((lastPass service answers s).finish service answers).1.objects.count obj =
      ((s.worklist.filter (waits service answers)).map (·.obj)).count obj := by
    simp [MsgPass.finish, lastPass, MsgReception.objects, MsgReception.worklist, retry, newEntry,
      List.filter_map, Function.comp_def, Nat.add_comm]
  have hworklist : (s.worklist.map (·.obj)).count obj =
      (s.mReceivedMsgs.map (·.obj)).count obj + (s.retried.map (·.mItem.obj)).count obj := by
    simp [MsgReception.worklist, Function.comp_def]
  rw [List.map_append, List.count_append] at hpending
  rw [List.count_append, (ended_finish_perm _).count_eq, List.count_append, hlog, hkept,
    MsgReception.objects, List.count_append,
    ← hpending]
  have hmsgs : (lastPass service answers s).msgs =
      s.worklist.filterMap (accepted service answers) := rfl
  rw [hmsgs]
  omega

/-- A call touches no message after it has been ended. -/
theorem tidy_finish_lastPass (hs : s.objects.Nodup) :
  Tidy MsgEvent.object MsgEvent.isFinal ((lastPass service answers s).finish service answers).2
  := by
  have hobjs : (s.worklist.map (·.obj) ++ s.expired.map (·.mItem.obj)).Nodup := by
    have hperm := ((retried_append_expired_perm s).map (·.mItem.obj)).append_left
      (s.mReceivedMsgs.map (·.obj))
    apply hperm.nodup_iff.2 at hs
    simpa [MsgReception.worklist, Function.comp_def] using hs
  obtain ⟨hwork, hexpired, hdisjoint⟩ := List.nodup_append'.1 hobjs
  have hended := (List.nodup_append'.1 ((perm_finish_lastPass hcall).nodup_iff.2 hs)).1
  rw [(ended_finish_perm _).nodup_iff, List.nodup_append'] at hended
  obtain ⟨events, heq, -, hevents⟩ := @finish_eq service answers (lastPass service answers s)
  rw [heq, tidy_append]
  refine ⟨?_, ?_, ?_⟩
  · rw [lastPass, tidy_append]
    refine ⟨?_, ?_, ?_⟩
    · apply tidy_of_nodup
      rw [List.map_map]
      exact hexpired
    · apply tidy_flatMap
      · intro msg _
        rw [passEvents]
        split <;> simp [Tidy, MsgEvent.isFinal]
      · apply (List.pairwise_map.1 hwork).imp
        intro msg msg' hne e he _ e' he'
        rwa [object_of_mem_passEvents he, object_of_mem_passEvents he']
    · intro e he hexpired
      obtain ⟨msg, hmsg, he⟩ := List.mem_flatMap.1 he
      rw [object_of_mem_passEvents he, ended_map fun _ => rfl] at hexpired
      exact hdisjoint (List.mem_map_of_mem hmsg) hexpired
  · apply tidy_of_nodup
    exact hevents.nodup_iff.2 hended.2.1
  · intro e he hlog
    apply hended.2.2 hlog
    apply hevents.subset
    exact List.mem_map_of_mem he

theorem waits_or_ended {msg : RsNxsMsg} (hmsg : msg ∈ s.worklist) :
  waits service answers msg = true ∨
    msg.obj ∈ ended MsgEvent.object MsgEvent.isFinal
      ((lastPass service answers s).finish service answers).2
  := by
  rw [(ended_finish_perm _).mem_iff, List.mem_append]
  obtain ⟨outcome, houtcome⟩ := Option.isSome_iff_exists.1
    (isSome_msgOutcome.2 (hcall.known msg hmsg) : (msgOutcome service answers msg).isSome)
  cases outcome with
  | wait => exact .inl (by rw [waits, houtcome])
  | accept metaData =>
    refine .inr (.inr (List.mem_map.2 ⟨(msg, markReceived metaData), ?_, rfl⟩))
    exact List.mem_filterMap.2 ⟨msg, hmsg, by rw [accepted, houtcome]⟩
  | reject =>
    refine .inr (.inl (mem_ended.2 ⟨.delete msg.obj, ?_, rfl, rfl⟩))
    apply List.mem_append_right
    refine List.mem_flatMap.2 ⟨msg, hmsg, ?_⟩
    rw [passEvents, houtcome]
    exact List.mem_cons_of_mem _ List.mem_cons_self

/-- A call touches only messages that have been kept. -/
theorem object_mem_of_finish_lastPass {e : MsgEvent}
    (he : e ∈ ((lastPass service answers s).finish service answers).2) :
  e.object ∈ s.objects
  := by
  cases hfinal : e.isFinal with
  | true =>
    apply (perm_finish_lastPass hcall).subset
    exact List.mem_append_left _ (mem_ended.2 ⟨e, he, hfinal, rfl⟩)
  | false =>
    obtain ⟨events, heq, hevents, -⟩ := @finish_eq service answers (lastPass service answers s)
    rw [heq, lastPass] at he
    rcases List.mem_append.1 he with he | he
    · rcases List.mem_append.1 he with he | he
      · obtain ⟨_, -, rfl⟩ := List.mem_map.1 he
        cases hfinal
      · obtain ⟨msg, hmsg, he⟩ := List.mem_flatMap.1 he
        rw [object_of_mem_passEvents he, MsgReception.objects]
        rcases List.mem_append.1 hmsg with hmsg | hmsg
        · exact List.mem_append_left _ (List.mem_map_of_mem hmsg)
        · obtain ⟨entry, hentry, rfl⟩ := List.mem_map.1 hmsg
          apply List.mem_append_right
          exact List.mem_map.2 ⟨entry, List.mem_of_mem_filter hentry, rfl⟩
    · rw [hevents e he] at hfinal
      cases hfinal

end Call

/-! ### Arrival -/

/-- Whether there is a pending entry with the ids of a message. -/
def MsgReception.isPending (s : MsgReception) (msg : RsNxsMsg) : Bool :=
  s.mMsgPendingValidate.any fun e => e.mId = msg.idPair

theorem notifyNewMessage_eq (s : MsgReception) (msg : RsNxsMsg) :
  s.notifyNewMessage msg =
    if s.isPending msg then (s, [.delete msg.obj])
    else ({ s with mReceivedMsgs := s.mReceivedMsgs ++ [msg] }, [])
  := rfl

theorem notifyNewMessages_eq (s : MsgReception) (messages : List RsNxsMsg) :
  s.notifyNewMessages messages =
    ({ s with mReceivedMsgs := s.mReceivedMsgs ++ messages.filter fun msg => !s.isPending msg },
      (messages.filter s.isPending).map fun msg => .delete msg.obj)
  := by
  induction messages generalizing s with
  | nil => simp [MsgReception.notifyNewMessages]
  | cons msg messages ih =>
    rw [MsgReception.notifyNewMessages, notifyNewMessage_eq]
    cases hpending : s.isPending msg with
    | true => simp [ih, hpending]
    | false =>
      have hsame : MsgReception.isPending
          { s with mReceivedMsgs := s.mReceivedMsgs ++ [msg] } = s.isPending := rfl
      simp [ih, hpending, hsame]

theorem MsgReception.Awaited.notifyNewMessages {s : MsgReception} (hs : s.Awaited)
    (messages : List RsNxsMsg) :
  (s.notifyNewMessages messages).1.Awaited
  := by
  rw [notifyNewMessages_eq]
  constructor
  case nodup => exact hs.nodup
  case mId => exact hs.mId
  case mAttempts => exact hs.mAttempts
  case fresh =>
    intro msg hmsg e he heq
    rcases List.mem_append.1 hmsg with hmsg | hmsg
    · exact hs.fresh msg hmsg e he heq
    · have hnew := (List.mem_filter.1 hmsg).2
      rw [Bool.not_eq_true', isPending, List.any_eq_false] at hnew
      exact hnew e he (decide_eq_true heq)

/-- What arrives is kept or deleted. -/
theorem perm_notifyNewMessages (s : MsgReception) (messages : List RsNxsMsg) :
  (ended MsgEvent.object MsgEvent.isFinal (s.notifyNewMessages messages).2 ++
    (s.notifyNewMessages messages).1.objects).Perm (s.objects ++ messages.map (·.obj))
  := by
  rw [List.perm_iff_count]
  intro obj
  have hfilter := ((List.filter_append_perm s.isPending messages).map (·.obj)).count_eq obj
  rw [List.map_append, List.count_append] at hfilter
  rw [notifyNewMessages_eq, ended_map fun _ => rfl]
  simp only [MsgEvent.object, MsgReception.objects, List.map_append, List.count_append, ← hfilter]
  omega

theorem tidy_notifyNewMessages (s : MsgReception) {messages : List RsNxsMsg}
    (h : (messages.map (·.obj)).Nodup) :
  Tidy MsgEvent.object MsgEvent.isFinal (s.notifyNewMessages messages).2
  := by
  apply tidy_of_nodup
  rw [notifyNewMessages_eq, List.map_map]
  exact h.sublist (List.filter_sublist.map _)

/-! ### Runs -/

/-- The messages that arrive. -/
def Input.messages : Input → List Nat
  | .notifyNewMessages messages => messages.map (·.obj)
  | .notifyNewGroups _ => []
  | .processRecvdData _ _ => []

/-- Whether an input is a call of `processRecvdData`. -/
def Input.isCall : Input → Bool
  | .processRecvdData _ _ => true
  | _ => false

/-- The messages that a state keeps. -/
def keptMessages : Option MsgReception → List Nat
  | none => []
  | some s => s.objects

section Run

variable (service : Service)

/-- A call of `processRecvdData` in which the groups of the messages are known, and only the last of
several messages with the same ids has to wait. -/
def Orderly : Option MsgReception → Input → Prop
  | some s, .processRecvdData _ answers => OrderlyCall service answers s
  | _, _ => True

/-- A state that is there, as it should be. -/
def WellKept (s : Option MsgReception) : Prop := ∃ s', s = some s' ∧ s'.Awaited

/-- The message has at most `n` calls left: what has just arrived has seven. -/
def Due (s : Option MsgReception) (obj n : Nat) : Prop :=
  ∃ s', s = some s' ∧ ((∃ msg ∈ s'.mReceivedMsgs, msg.obj = obj ∧ n = 7) ∨
    ∃ e ∈ s'.mMsgPendingValidate, e.mItem.obj = obj ∧ e.mAttempts.toNat + n = 6 ∧ n ≠ 0)

/-- Every message that arrives is given to the data store or deleted, at the latest seven calls
later, and it is not touched afterwards. -/
def MessagesDisposed (is : List Input) : Prop :=
  Tidy MsgEvent.object MsgEvent.isFinal ((msgMachine service).trace (some .new) is) ∧
    ∀ js messages ks rest, is = js ++ .notifyNewMessages messages :: ks ++ rest →
      validateMaxAttempts.toNat + 2 ≤ ks.countP Input.isCall →
      ∀ msg ∈ messages, msg.obj ∈ ended MsgEvent.object MsgEvent.isFinal
        ((msgMachine service).trace ((msgMachine service).run (some .new) js)
          (.notifyNewMessages messages :: ks))

variable {service} {s : Option MsgReception}

theorem step_processRecvdData {s : MsgReception} (grpAnswers : GrpAnswers) {answers : MsgAnswers}
    (hs : s.Awaited) (hcall : OrderlyCall service answers s) :
  (msgMachine service).step (some s) (.processRecvdData grpAnswers answers) =
    (some ((lastPass service answers s).finish service answers).1,
      ((lastPass service answers s).finish service answers).2)
  := by
  simp only [msgMachine, processRecvdMessages_eq hs hcall]

/-- An orderly step leaves the messages pending as they should be. -/
theorem wellKept_next {i : Input} (hs : WellKept s) (hi : Orderly service s i) :
  WellKept ((msgMachine service).next s i)
  := by
  obtain ⟨s, rfl, hs⟩ := hs
  cases i with
  | notifyNewGroups groups => exact ⟨s, rfl, hs⟩
  | notifyNewMessages messages => exact ⟨_, rfl, hs.notifyNewMessages messages⟩
  | processRecvdData grpAnswers answers =>
    rw [Machine.next, step_processRecvdData grpAnswers hs hi]
    exact ⟨_, rfl, hs.finish_lastPass hi⟩

theorem balanced_of_orderly {i : Input} (hs : WellKept s) (hi : Orderly service s i)
    (hobjs : (keptMessages s ++ i.messages).Nodup) :
  Balanced MsgEvent.object MsgEvent.isFinal (msgMachine service) keptMessages Input.messages s i
  := by
  obtain ⟨s, rfl, hs⟩ := hs
  cases i with
  | notifyNewGroups groups =>
    constructor
    case perm => simp [Machine.emit, Machine.next, msgMachine, ended, Input.messages]
    case tidy => exact tidy_nil
    case touches => exact fun _ h => absurd h List.not_mem_nil
  | notifyNewMessages messages =>
    constructor
    case perm => exact perm_notifyNewMessages s messages
    case tidy => exact tidy_notifyNewMessages s (List.nodup_append'.1 hobjs).2.1
    case touches =>
      intro e he
      change e ∈ (s.notifyNewMessages messages).2 at he
      rw [notifyNewMessages_eq] at he
      obtain ⟨msg, hmsg, rfl⟩ := List.mem_map.1 he
      apply List.mem_append_right
      exact List.mem_map_of_mem (List.mem_of_mem_filter hmsg)
  | processRecvdData grpAnswers answers =>
    have hstep := step_processRecvdData grpAnswers hs hi
    rw [Input.messages, List.append_nil] at hobjs
    constructor
    case perm =>
      rw [Machine.emit, Machine.next, hstep, Input.messages, List.append_nil]
      exact perm_finish_lastPass hi
    case tidy =>
      rw [Machine.emit, hstep]
      exact tidy_finish_lastPass hi hobjs
    case touches =>
      intro e he
      rw [Machine.emit, hstep] at he
      exact List.mem_append_left _ (object_mem_of_finish_lastPass hi he)

theorem due_next {i : Input} {obj n : Nat} (hs : WellKept s) (hi : Orderly service s i)
    (hdue : Due s obj n) :
  obj ∈ ended MsgEvent.object MsgEvent.isFinal ((msgMachine service).emit s i) ∨
    Due ((msgMachine service).next s i) obj (if i.isCall = true then n - 1 else n)
  := by
  obtain ⟨s, rfl, hs⟩ := hs
  obtain ⟨_, ⟨⟩, hdue⟩ := hdue
  cases i with
  | notifyNewGroups groups => exact .inr ⟨s, rfl, hdue⟩
  | notifyNewMessages messages =>
    right
    refine ⟨_, rfl, ?_⟩
    rw [notifyNewMessages_eq]
    rcases hdue with ⟨msg, hmsg, hobj, hn⟩ | hpending
    · exact .inl ⟨msg, List.mem_append_left _ hmsg, hobj, hn⟩
    · exact .inr hpending
  | processRecvdData grpAnswers answers =>
    have hstep := step_processRecvdData grpAnswers hs hi
    rw [Machine.emit, Machine.next, hstep, Input.isCall, if_pos rfl]
    rcases hdue with ⟨msg, hmsg, rfl, rfl⟩ | ⟨e, he, rfl, hn, -⟩
    · rcases waits_or_ended hi (List.mem_append_left _ hmsg) with hwaits | hended
      · right
        refine ⟨_, rfl, .inr ⟨newEntry msg, ?_, rfl, rfl, by decide⟩⟩
        apply List.mem_append_right
        exact List.mem_map_of_mem (List.mem_filter.2 ⟨hmsg, hwaits⟩)
      · exact .inl hended
    · by_cases hexpired : e.mAttempts = validateMaxAttempts
      · left
        rw [(ended_finish_perm _).mem_iff]
        apply List.mem_append_left
        refine mem_ended.2 ⟨.delete e.mItem.obj, ?_, rfl, rfl⟩
        apply List.mem_append_left
        exact List.mem_map.2 ⟨e, List.mem_filter.2 ⟨he, decide_eq_true hexpired⟩, rfl⟩
      · have hretried : e ∈ s.retried := List.mem_filter.2 ⟨he, decide_eq_true hexpired⟩
        have hwork : e.mItem ∈ s.worklist :=
          List.mem_append_right _ (List.mem_map_of_mem hretried)
        rcases waits_or_ended hi hwork with hwaits | hended
        · right
          obtain ⟨heq, hlt⟩ := retry_mAttempts (hs.mAttempts e he) hexpired
          refine ⟨_, rfl, .inr ⟨retry e, ?_, rfl, by omega, by omega⟩⟩
          apply List.mem_append_left
          exact List.mem_map_of_mem (List.mem_filter.2 ⟨hretried, hwaits⟩)
        · exact .inl hended

theorem ended_or_due (hs : WellKept s) {messages : List RsNxsMsg} {msg : RsNxsMsg}
    (hmsg : msg ∈ messages) :
  msg.obj ∈ ended MsgEvent.object MsgEvent.isFinal
      ((msgMachine service).emit s (.notifyNewMessages messages)) ∨
    Due ((msgMachine service).next s (.notifyNewMessages messages)) msg.obj 7
  := by
  obtain ⟨s, rfl, -⟩ := hs
  change _ ∈ ended _ _ (s.notifyNewMessages messages).2 ∨
    Due (some (s.notifyNewMessages messages).1) msg.obj 7
  rw [notifyNewMessages_eq, ended_map fun _ => rfl]
  cases hpending : s.isPending msg with
  | true => exact .inl (List.mem_map.2 ⟨msg, List.mem_filter.2 ⟨hmsg, hpending⟩, rfl⟩)
  | false =>
    right
    refine ⟨_, rfl, .inl ⟨msg, ?_, rfl, rfl⟩⟩
    apply List.mem_append_right
    exact List.mem_filter.2 ⟨hmsg, by rw [hpending]; rfl⟩

theorem messagesDisposed_of_orderly {is : List Input} (hobjs : (is.flatMap Input.messages).Nodup)
    (horderly : (msgMachine service).Along (Orderly service) (some .new) is) :
  MessagesDisposed service is
  := by
  have hnew : WellKept (some .new) :=
    ⟨.new, rfl, List.nodup_nil, by rintro e ⟨⟩, by rintro e ⟨⟩, by rintro msg ⟨⟩⟩
  constructor
  · have hkept : (keptMessages (some .new) ++ is.flatMap Input.messages).Nodup := hobjs
    apply (ledger_run _ hnew horderly hkept).1
    intro s i hs hi hobjs
    exact ⟨wellKept_next hs hi, balanced_of_orderly hs hi hobjs⟩
  · rintro js messages ks rest rfl hcalls msg hmsg
    rw [Machine.along_append, Machine.along_append, Machine.along_cons] at horderly
    obtain ⟨⟨hjs, hi, hks⟩, -⟩ := horderly
    have hs := Machine.run_of_step (fun s i hs hi => wellKept_next hs hi) hnew hjs
    rw [Machine.trace_cons, ended_append, List.mem_append]
    rcases ended_or_due hs hmsg with hended | hdue
    · exact .inl hended
    · right
      apply ended_trace_of_due _ (fun s i hs hi => wellKept_next hs hi) _ (wellKept_next hs hi) hks
        hdue hcalls
      · rintro s obj n ⟨_, -, ⟨_, _, _, rfl⟩ | ⟨_, _, _, _, hn⟩⟩
        · decide
        · exact hn
      · intro s i obj n hs hi hdue
        exact due_next hs hi hdue

end Run

end GenExchange
