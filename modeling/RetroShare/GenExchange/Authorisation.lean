import RetroShare.GenExchange.Reception

/-!
# Authorisation

A message is stored under the ids of its metadata, but its group is looked up, and its signatures
are checked, by the id of its packet.  When the two are the same for the messages that pass, and the
groups of the packets are known, every message that is stored has been validated with the group
under which it is stored, and no pointer that is `NULL` is followed: `authorised_along`.
-/

namespace GenExchange

variable (service : Service)

/-- A call of `processRecvdData` follows no pointer that is `NULL`, and every message that it stores
has been validated with the flags and the keys of the group under which it is stored. -/
def Authorised : Option MsgReception → Input → Prop
  | some s, .processRecvdData _ answers =>
      ∃ r, s.processRecvdMessages service answers = some r ∧
        ∀ msg metaData, .storeMessage msg metaData ∈ r.2 →
          ∃ grpMeta, answers.grpMeta? metaData.mGroupId = some grpMeta ∧
            ValidatedBy service answers grpMeta msg metaData
  | _, _ => True

/-- The groups of the packets that `processRecvdData` works on are known, and a message that is
validated with the group of its packet is one of this group. -/
def Addressed : Option MsgReception → Input → Prop
  | some s, .processRecvdData _ answers =>
      ∀ msg ∈ s.worklist, KnownGroup answers msg ∧
        ∀ metaData grpMeta, msg.metaData = some metaData →
          answers.grpMeta? msg.grpId = some grpMeta →
          ValidatedBy service answers grpMeta msg metaData → metaData.mGroupId = msg.grpId
  | _, _ => True

variable {service}

/-- A call on messages that are addressed to their groups stores only what is authorised. -/
theorem authorised_of_addressed {s : MsgReception} {grpAnswers : GrpAnswers} {answers : MsgAnswers}
    (h : Addressed service (some s) (.processRecvdData grpAnswers answers)) :
  Authorised service (some s) (.processRecvdData grpAnswers answers)
  := by
  obtain ⟨r, hr⟩ := isSome_processRecvdMessages service fun msg hmsg => (h msg hmsg).1
  use r, hr
  intro msg metaData hstored
  obtain ⟨⟨hmem, metaData', grpMeta, hmeta, hgrp, hvalid, heq⟩, -⟩ :=
    validatedEntry_of_stored hr hstored
  obtain rfl : metaData = markReceived metaData' := heq
  have hid := (h msg hmem).2 metaData' grpMeta hmeta hgrp hvalid
  use grpMeta
  constructor
  · rw [← hgrp, ← hid]
    rfl
  · rwa [validatedBy_markReceived]

/-- What an `RsGenExchange` stores is authorised, whatever it receives, as long as the messages that
it works on are addressed to their groups. -/
theorem authorised_along {s : MsgReception} {is : List Input}
    (h : (msgMachine service).Along (Addressed service) (some s) is) :
  (msgMachine service).Along (Authorised service) (some s) is
  := by
  apply Machine.along_of_step (P := fun s => s.isSome) _ rfl h
  rintro (_ | s) i hs haddressed
  · cases hs
  · cases i with
    | notifyNewMessages => exact ⟨trivial, rfl⟩
    | notifyNewGroups => exact ⟨trivial, rfl⟩
    | processRecvdData grpAnswers answers =>
      have hauthorised := authorised_of_addressed haddressed
      use hauthorised
      obtain ⟨r, hr, -⟩ := hauthorised
      simp [Machine.next, msgMachine, hr]

/-! ### A message with the ids of two groups -/

/-- A service whose restricted groups take root messages only with a publish signature. -/
def restrictedService : Service := ⟨0x0100, 60 * 60 * 24 * 31 * 4, noKeys⟩

/-- A data store with the public group `1` and the restricted group `2`, and no messages. -/
def twoGroups : MsgAnswers where
  grpMeta? grpId :=
    if grpId = 1 then some (plainGrpMeta 1 0x4)
    else if grpId = 2 then some (plainGrpMeta 2 flagPrivacyRestricted)
    else none
  retrieveMsgIds _ := []
  now := 0
  mGixs _ := none

/-- A root message of a group that nobody has signed. -/
def unsignedMeta (grpId : RsGxsGroupId) : RsGxsMsgMetaData :=
  ⟨grpId, 7, 0, 0, 0, 0, OrdMap.empty, [], 0, 0, 0⟩

/-- A message that arrives in a packet of the group `packetGrpId`, and is worked on. -/
def oneMessageRun (packetGrpId grpId : RsGxsGroupId) : List Input := [
  .notifyNewMessages [⟨0, packetGrpId, 7, [], some (unsignedMeta grpId)⟩],
  .processRecvdData ⟨[], fun _ => none⟩ twoGroups]

theorem authorised_along_publicGroup :
  (msgMachine restrictedService).Along (Addressed restrictedService) (some .new)
      (oneMessageRun 1 1) ∧
    (msgMachine restrictedService).Along (Authorised restrictedService) (some .new)
      (oneMessageRun 1 1) ∧
    (msgMachine restrictedService).trace (some .new) (oneMessageRun 1 1) =
      [.use 0, .storeMessage ⟨0, 1, 7, [], some (unsignedMeta 1)⟩
        (markReceived (unsignedMeta 1))]
  := by
  have haddressed : (msgMachine restrictedService).Along (Addressed restrictedService) (some .new)
      (oneMessageRun 1 1) := by
    refine ⟨trivial, ?_, trivial⟩
    intro msg hmsg
    obtain rfl := List.mem_singleton.1 hmsg
    constructor
    · intro
      rfl
    · rintro metaData grpMeta ⟨⟩ _ _
      rfl
  exact ⟨haddressed, authorised_along haddressed, by decide⟩

/-- A message of the restricted group is stored that has been validated with the public one; and
the flags are read of a group that is not known. -/
theorem not_authorised_along_misaddressed :
  ¬ (msgMachine restrictedService).Along (Authorised restrictedService) (some .new)
      (oneMessageRun 1 2) ∧
    ¬ (msgMachine restrictedService).Along (Authorised restrictedService) (some .new)
      (oneMessageRun 3 3)
  := by
  constructor
  · rintro ⟨-, ⟨r, hr, hstored⟩, -⟩
    have hrun : MsgReception.processRecvdMessages restrictedService twoGroups
        ⟨[⟨0, 1, 7, [], some (unsignedMeta 2)⟩], []⟩ =
        some (.new, [.use 0, .storeMessage ⟨0, 1, 7, [], some (unsignedMeta 2)⟩
          (markReceived (unsignedMeta 2))]) := by decide
    obtain rfl := Option.some.inj (hrun.symm.trans hr)
    obtain ⟨grpMeta, hgrp, hvalid⟩ := hstored _ _ (List.mem_cons_of_mem _ List.mem_cons_self)
    obtain rfl : plainGrpMeta 2 flagPrivacyRestricted = grpMeta := Option.some.inj hgrp
    revert hvalid
    unfold ValidatedBy
    decide
  · rintro ⟨-, ⟨r, hr, -⟩, -⟩
    have hrun : MsgReception.processRecvdMessages restrictedService twoGroups
        ⟨[⟨0, 3, 7, [], some (unsignedMeta 3)⟩], []⟩ = none := by decide
    cases hrun.symm.trans hr

end GenExchange
