import RetroShare.GenExchange.Groups
import RetroShare.Lib.Folds

/-!
# Reception

The runs of `RsGenExchange` as it receives messages and groups: these arrive in any order, and from
time to time `processRecvdData` is called.  Messages and groups do not touch each other on the way,
so that there is a machine for each of them.  The machine of the messages ends up without a state
when a pointer is followed that is `NULL`.
-/

namespace GenExchange

/-- What happens to an `RsGenExchange` that receives. -/
inductive Input where
  | notifyNewMessages (messages : List RsNxsMsg)
  | notifyNewGroups (groups : List RsNxsGrp)
  | processRecvdData (grpAnswers : GrpAnswers) (msgAnswers : MsgAnswers)

variable (service : Service)

/-- The messages of an `RsGenExchange`. -/
def msgMachine : Machine (Option MsgReception) Input MsgEvent where
  step
    | none, _ => (none, [])
    | some s, .notifyNewMessages messages =>
        (some (s.notifyNewMessages messages).1, (s.notifyNewMessages messages).2)
    | some s, .notifyNewGroups _ => (some s, [])
    | some s, .processRecvdData _ answers =>
        match s.processRecvdMessages service answers with
        | none => (none, [])
        | some r => (some r.1, r.2)

/-- The groups of an `RsGenExchange`.  `performUpdateValidation` takes the updates. -/
def grpMachine : Machine GrpReception Input GrpEvent where
  step
    | s, .notifyNewMessages _ => (s, [])
    | s, .notifyNewGroups groups => s.notifyNewGroups groups
    | s, .processRecvdData answers _ =>
        let r := s.processRecvdGroups service answers
        ({ r.1 with mGroupUpdates := [] }, r.2)

/-- An `RsGenExchange` that has received no message. -/
def MsgReception.new : MsgReception := ⟨[], []⟩

/-- An `RsGenExchange` that has received no group. -/
def GrpReception.new : GrpReception := ⟨[], []⟩

/-! ### A call of `processRecvdMessages` -/

section Messages

variable {service} {answers : MsgAnswers} {s : MsgReception} {pass : MsgPass} {msg : RsNxsMsg}

/-- The message is validated with the flags and the keys of a group. -/
def ValidatedBy (service : Service) (answers : MsgAnswers) (grpMeta : RsGxsGrpMetaData)
    (msg : RsNxsMsg) (metaData : RsGxsMsgMetaData) : Prop :=
  validateMsg service (answers.mGixs msg) msg.msg metaData grpMeta.mGroupFlags grpMeta.keys =
    .success

theorem validatedBy_markReceived (grpMeta : RsGxsGrpMetaData) (msg : RsNxsMsg)
    (metaData : RsGxsMsgMetaData) :
  ValidatedBy service answers grpMeta msg (markReceived metaData) ↔
    ValidatedBy service answers grpMeta msg metaData
  := Iff.rfl

/-- The group of a message is known, where it is looked up. -/
def KnownGroup (answers : MsgAnswers) (msg : RsNxsMsg) : Prop :=
  msg.metaData.isSome → (answers.grpMeta? msg.grpId).isSome

/-- What an iteration can do. -/
theorem MsgPass.step_cases {pass' : MsgPass} (h : pass.step service answers msg = some pass') :
  (∃ metaData grpMeta, msg.metaData = some metaData ∧
      answers.grpMeta? msg.grpId = some grpMeta ∧
      ValidatedBy service answers grpMeta msg metaData ∧ pass' = pass.accept msg metaData) ∨
    pass' = pass.reject msg ∨
    (∃ metaData grpMeta, msg.metaData = some metaData ∧
      answers.grpMeta? msg.grpId = some grpMeta ∧
      validateMsg service (answers.mGixs msg) msg.msg metaData grpMeta.mGroupFlags grpMeta.keys =
        .failTryLater ∧ pass' = pass.wait msg)
  := by
  rw [step] at h
  cases hmeta : msg.metaData with
  | none =>
    simp only [hmeta, Option.some.injEq] at h
    exact .inr (.inl h.symm)
  | some metaData =>
    cases hgrp : answers.grpMeta? msg.grpId with
    | none => simp [hmeta, hgrp] at h
    | some grpMeta =>
      simp only [hmeta, hgrp] at h
      split at h
      case h_1 hvalid => exact .inl ⟨_, _, rfl, rfl, hvalid, (Option.some.inj h).symm⟩
      case h_2 => exact .inr (.inl (Option.some.inj h).symm)
      case h_3 hlater => exact .inr (.inr ⟨_, _, rfl, rfl, hlater, (Option.some.inj h).symm⟩)

/-- No pointer that is `NULL` is followed for a message whose group is known. -/
theorem MsgPass.isSome_step (h : KnownGroup answers msg) (pass : MsgPass) :
  (pass.step service answers msg).isSome
  := by
  rw [step]
  cases hmeta : msg.metaData with
  | none => rfl
  | some metaData =>
    obtain ⟨grpMeta, hgrp⟩ := Option.isSome_iff_exists.1 (h (by simp [hmeta]))
    simp only [hgrp]
    split <;> rfl

/-- A message that is validated, with its metadata. -/
def ValidatedEntry (service : Service) (answers : MsgAnswers) (s : MsgReception)
    (e : RsNxsMsg × RsGxsMsgMetaData) : Prop :=
  e.1 ∈ s.worklist ∧ ∃ metaData grpMeta, e.1.metaData = some metaData ∧
    answers.grpMeta? e.1.grpId = some grpMeta ∧ ValidatedBy service answers grpMeta e.1 metaData ∧
    e.2 = markReceived metaData

/-- The messages that are accepted in a pass have been validated with the groups of their
packets. -/
theorem validatedEntry_of_pass
    (h : s.worklist.foldlM (MsgPass.step service answers) s.firstPass = some pass) :
  ∀ e ∈ pass.msgs, ValidatedEntry service answers s e
  := by
  apply Folds.foldlM_of_step
    (P := fun _ pass => ∀ e ∈ pass.msgs, ValidatedEntry service answers s e) _ _ h
  · intro done msg rest pass pass' hl hpass hstep e he
    have hmem : msg ∈ s.worklist := by
      rw [hl]
      simp
    rcases MsgPass.step_cases hstep with
      ⟨metaData, grpMeta, hmeta, hgrp, hvalid, rfl⟩ | rfl | ⟨_, _, _, _, _, rfl⟩
    · rcases List.mem_append.1 he with he | he
      · exact hpass e he
      · obtain rfl := List.mem_singleton.1 he
        exact ⟨hmem, metaData, grpMeta, hmeta, hgrp, hvalid, rfl⟩
    · exact hpass e he
    · exact hpass e he
  · rintro e ⟨⟩

theorem storeMessage_notMem_log
    (h : s.worklist.foldlM (MsgPass.step service answers) s.firstPass = some pass) (msg : RsNxsMsg)
    (metaData : RsGxsMsgMetaData) :
  .storeMessage msg metaData ∉ pass.log
  := by
  apply Folds.foldlM_of_step (P := fun _ pass => .storeMessage msg metaData ∉ pass.log) _ _ h
  · intro done x rest pass pass' _ hpass hstep
    rcases MsgPass.step_cases hstep with ⟨_, _, _, _, _, rfl⟩ | rfl | ⟨_, _, _, _, _, rfl⟩
    · simpa [MsgPass.accept] using hpass
    · simpa [MsgPass.reject] using hpass
    · simpa [MsgPass.wait] using hpass
  · simp [MsgReception.firstPass]

theorem validatedEntry_of_stored {r : MsgReception × List MsgEvent}
    (h : s.processRecvdMessages service answers = some r) {metaData : RsGxsMsgMetaData}
    (hstored : .storeMessage msg metaData ∈ r.2) :
  ValidatedEntry service answers s (msg, metaData) ∧ isNew service answers metaData
  := by
  obtain ⟨pass, hpass, rfl⟩ := Option.map_eq_some_iff.1 h
  have hlog := storeMessage_notMem_log hpass msg metaData
  simp only [MsgPass.finish, List.mem_append, List.mem_map, List.mem_filter, hlog, reduceCtorEq,
    and_false, exists_false, false_or, MsgEvent.storeMessage.injEq] at hstored
  obtain ⟨⟨msg', metaData'⟩, ⟨hmem, hnew⟩, rfl, rfl⟩ := hstored
  exact ⟨validatedEntry_of_pass hpass _ hmem, hnew⟩

variable (service) in
theorem isSome_processRecvdMessages (h : ∀ msg ∈ s.worklist, KnownGroup answers msg) :
  ∃ r, s.processRecvdMessages service answers = some r
  := by
  apply Option.isSome_iff_exists.1
  rw [MsgReception.processRecvdMessages, Option.isSome_map]
  apply Folds.isSome_foldlM
  intro msg hmsg pass
  exact MsgPass.isSome_step (h msg hmsg) pass

end Messages

/-! ### A call of `processRecvdGroups` -/

section Groups

variable (answers : GrpAnswers) {gpsi : PendingGrp} (pass : GrpPass)

/-- What becomes of a received group: it does not depend on the others. -/
inductive GrpOutcome where
  | accept (metaData : RsGxsGrpMetaData)
  | update (metaData : RsGxsGrpMetaData)
  | reject
  | keep

/-- The outcome for a received group. -/
def grpOutcome (gpsi : PendingGrp) : GrpOutcome :=
  match gpsi.mItem.metaData with
  | none => .reject
  | some metaData =>
      match validateGrp service (answers.mGixs gpsi.mItem) gpsi.mItem.grp metaData with
      | .success =>
          if gpsi.mItem.grpId ∉ answers.retrieveGroupIds then .accept metaData
          else .update metaData
      | .fail => .reject
      | .failTryLater => if gpsi.mAttempts = validateMaxAttempts then .reject else .keep

variable {service answers} in
theorem grpOutcome_eq_accept {metaData : RsGxsGrpMetaData} :
  grpOutcome service answers gpsi = .accept metaData ↔
    gpsi.mItem.metaData = some metaData ∧ gpsi.mItem.grpId ∉ answers.retrieveGroupIds ∧
      validateGrp service (answers.mGixs gpsi.mItem) gpsi.mItem.grp metaData = .success
  := by
  rw [grpOutcome]
  cases gpsi.mItem.metaData with
  | none => simp
  | some metaData' =>
    cases hvalid : validateGrp service (answers.mGixs gpsi.mItem) gpsi.mItem.grp metaData' <;>
      grind

variable {service answers} in
theorem grpOutcome_eq_keep :
  grpOutcome service answers gpsi = .keep ↔
    gpsi.mAttempts ≠ validateMaxAttempts ∧ ∃ metaData, gpsi.mItem.metaData = some metaData ∧
      validateGrp service (answers.mGixs gpsi.mItem) gpsi.mItem.grp metaData = .failTryLater
  := by
  rw [grpOutcome]
  cases gpsi.mItem.metaData with
  | none => simp
  | some metaData' =>
    cases hvalid : validateGrp service (answers.mGixs gpsi.mItem) gpsi.mItem.grp metaData' <;>
      grind

/-- The group that is accepted. -/
def GrpOutcome.accepted (grp : RsNxsGrp) : GrpOutcome → Option (RsNxsGrp × RsGxsGrpMetaData)
  | .accept metaData => some (grp, noteOriginator grp (markGrpReceived metaData))
  | _ => none

/-- The update that is handed over. -/
def GrpOutcome.updated (grp : RsNxsGrp) : GrpOutcome → Option GroupUpdate
  | .update metaData => some ⟨grp, markGrpReceived metaData⟩
  | _ => none

/-- Whether the group is left among the received ones. -/
def GrpOutcome.isKept : GrpOutcome → Bool
  | .keep => true
  | _ => false

/-- What is logged of the group before the end of the pass. -/
def GrpOutcome.events (grp : RsNxsGrp) : GrpOutcome → List GrpEvent
  | .update _ => [.use grp.obj, .update grp]
  | .reject => [.use grp.obj, .delete grp.obj]
  | _ => [.use grp.obj]

theorem GrpPass.step_of_outcome (gpsi : PendingGrp) :
  pass.step service answers gpsi =
    match grpOutcome service answers gpsi with
    | .accept metaData => pass.accept gpsi.mItem metaData
    | .update metaData => pass.update gpsi.mItem metaData
    | .reject => pass.reject gpsi.mItem
    | .keep => pass.keep gpsi
  := by
  rw [step, grpOutcome]
  cases gpsi.mItem.metaData with
  | none => rfl
  | some metaData =>
    cases hvalid : validateGrp service (answers.mGixs gpsi.mItem) gpsi.mItem.grp metaData with
    | fail => simp only [hvalid]
    | success =>
      simp only [hvalid]
      split <;> rfl
    | failTryLater =>
      simp only [hvalid]
      split <;> rfl

theorem GrpPass.step_eq (gpsi : PendingGrp) :
  pass.step service answers gpsi =
    ⟨pass.kept ++ [gpsi].filter fun e => (grpOutcome service answers e).isKept,
      pass.grps ++ ((grpOutcome service answers gpsi).accepted gpsi.mItem).toList,
      pass.updates ++ ((grpOutcome service answers gpsi).updated gpsi.mItem).toList,
      pass.log ++ (grpOutcome service answers gpsi).events gpsi.mItem⟩
  := by
  rw [step_of_outcome, List.filter_cons, List.filter_nil]
  cases grpOutcome service answers gpsi <;>
    simp [accept, update, reject, keep, GrpOutcome.isKept, GrpOutcome.accepted,
      GrpOutcome.updated, GrpOutcome.events]

theorem GrpPass.foldl_step (l : List PendingGrp) (pass : GrpPass) :
  l.foldl (step service answers) pass =
    ⟨pass.kept ++ l.filter fun e => (grpOutcome service answers e).isKept,
      pass.grps ++ l.filterMap fun e => (grpOutcome service answers e).accepted e.mItem,
      pass.updates ++ l.filterMap fun e => (grpOutcome service answers e).updated e.mItem,
      pass.log ++ l.flatMap fun e => (grpOutcome service answers e).events e.mItem⟩
  := by
  induction l generalizing pass with
  | nil => simp
  | cons gpsi l ih =>
    rw [List.foldl_cons, ih, step_eq]
    simp only [List.append_assoc, List.flatMap_cons, List.filter_cons, List.filterMap_cons,
      List.filter_nil]
    congr 2
    · split <;> rfl
    · split <;> simp_all
    · split <;> simp_all

end Groups

end GenExchange
