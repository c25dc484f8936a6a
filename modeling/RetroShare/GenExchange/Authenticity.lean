import RetroShare.GenExchange.Reception

/-!
# Authentic groups

A group that is stored already is replaced only by one with the signature of its administrator; a
new one is stored on the signature of its author alone, if it needs one, and under the id of its
packet.  `authentic_along_iff` says what this leaves to those who send groups.
-/

namespace GenExchange

variable (service : Service)

/-- The signature of the administrator is valid, under the key that has the id of the group. -/
def AdminSigned (grp : List UInt8) (metaData : RsGxsGrpMetaData) : Prop :=
  ∃ adminSign key, metaData.signSet.get? flagAuthenAdmin = some adminSign ∧
    metaData.keys.keys.get? metaData.mGroupId = some key ∧
    GxsSecurity.validateNxsGrp service.ssl grp metaData adminSign key = true

/-- The signature of the author is valid, where it is needed. -/
def AuthorSigned (mGixs : Option RsGixs) (grp : List UInt8) (metaData : RsGxsGrpMetaData) : Prop :=
  grpNeedIdentitySign service metaData = true →
    ∃ gixs key, mGixs = some gixs ∧ gixs.haveKey metaData.mAuthorId = true ∧
      gixs.getKey metaData.mAuthorId = some key ∧
      GxsSecurity.validateNxsGrp service.ssl grp metaData
        (signOf metaData.signSet flagAuthenIdentity) key = true

/-- What a call of `processRecvdData` stores is authentic. -/
def StoresAuthentic : GrpReception → Input → Prop
  | s, .processRecvdData answers _ =>
      ∀ grp metaData, .storeGroup grp metaData ∈ (s.processRecvdGroups service answers).2 →
        metaData.mGroupId = grp.grpId ∧ AdminSigned service grp.grp metaData ∧
          AuthorSigned service (answers.mGixs grp) grp.grp metaData
  | _, _ => True

/-- Every group that `processRecvdData` works on, that is not stored yet and has the signature of
its author, if it needs it, has the id of its packet and the signature of its administrator. -/
def ReceivesAuthentic : GrpReception → Input → Prop
  | s, .processRecvdData answers _ =>
      ∀ gpsi ∈ s.mReceivedGrps, gpsi.mItem.grpId ∉ answers.retrieveGroupIds →
        ∀ metaData, gpsi.mItem.metaData = some metaData →
          AuthorSigned service (answers.mGixs gpsi.mItem) gpsi.mItem.grp metaData →
          metaData.mGroupId = gpsi.mItem.grpId ∧ AdminSigned service gpsi.mItem.grp metaData
  | _, _ => True

variable {service} {metaData : RsGxsGrpMetaData}

theorem validateGrp_eq_success {mGixs : Option RsGixs} {grp : List UInt8} :
  validateGrp service mGixs grp metaData = .success ↔ AuthorSigned service mGixs grp metaData
  := by
  rw [validateGrp, AuthorSigned]
  split
  case isTrue hneeded =>
    rw [validateIdentity_eq_success]
    simp only [hneeded, forall_true_left]
  case isFalse hneeded => simp [hneeded]

/-- The groups that a call stores: those that are new and have the signature of their author. -/
theorem storeGroup_mem_processRecvdGroups {s : GrpReception} {answers : GrpAnswers}
    {grp : RsNxsGrp} :
  .storeGroup grp metaData ∈ (s.processRecvdGroups service answers).2 ↔
    ∃ gpsi ∈ s.mReceivedGrps, gpsi.mItem = grp ∧ grp.grpId ∉ answers.retrieveGroupIds ∧
      ∃ metaData', grp.metaData = some metaData' ∧
        AuthorSigned service (answers.mGixs grp) grp.grp metaData' ∧
        metaData = noteOriginator grp (markGrpReceived metaData')
  := by
  have hlog (gpsi : PendingGrp) :
      .storeGroup grp metaData ∉ (grpOutcome service answers gpsi).events gpsi.mItem := by
    cases grpOutcome service answers gpsi <;> simp [GrpOutcome.events]
  have hmem (gpsi : PendingGrp) :
      (grpOutcome service answers gpsi).accepted gpsi.mItem = some (grp, metaData) ↔
        ∃ metaData', grpOutcome service answers gpsi = .accept metaData' ∧ gpsi.mItem = grp ∧
          metaData = noteOriginator grp (markGrpReceived metaData') := by
    cases grpOutcome service answers gpsi with
    | accept metaData' => simp [GrpOutcome.accepted]; grind
    | _ => simp [GrpOutcome.accepted]
  simp only [GrpReception.processRecvdGroups, GrpReception.finish, GrpPass.foldl_step,
    List.nil_append, List.mem_append, List.mem_flatMap, hlog, and_false, exists_false, false_or,
    List.mem_map, List.mem_filterMap, GrpEvent.storeGroup.injEq, Prod.exists]
  constructor
  · rintro ⟨_, _, ⟨gpsi, hgpsi, haccepted⟩, rfl, rfl⟩
    obtain ⟨metaData', houtcome, rfl, rfl⟩ := (hmem gpsi).1 haccepted
    obtain ⟨hmeta, hnew, hvalid⟩ := grpOutcome_eq_accept.1 houtcome
    exact ⟨gpsi, hgpsi, rfl, hnew, metaData', hmeta, validateGrp_eq_success.1 hvalid, rfl⟩
  · rintro ⟨gpsi, hgpsi, rfl, hnew, metaData', hmeta, hsigned, rfl⟩
    have houtcome := grpOutcome_eq_accept.2 ⟨hmeta, hnew, validateGrp_eq_success.2 hsigned⟩
    exact ⟨_, _, ⟨gpsi, hgpsi, (hmem gpsi).2 ⟨metaData', houtcome, rfl, rfl⟩⟩, rfl, rfl⟩

theorem signed_noteOriginator (mGixs : Option RsGixs) (grp : RsNxsGrp)
    (metaData : RsGxsGrpMetaData) :
  (noteOriginator grp (markGrpReceived metaData)).mGroupId = metaData.mGroupId ∧
    (AdminSigned service grp.grp (noteOriginator grp (markGrpReceived metaData)) ↔
      AdminSigned service grp.grp metaData) ∧
    (AuthorSigned service mGixs grp.grp (noteOriginator grp (markGrpReceived metaData)) ↔
      AuthorSigned service mGixs grp.grp metaData)
  := by
  rw [noteOriginator]
  split <;> exact ⟨rfl, Iff.rfl, Iff.rfl⟩

theorem storesAuthentic_iff (s : GrpReception) (i : Input) :
  StoresAuthentic service s i ↔ ReceivesAuthentic service s i
  := by
  cases i with
  | processRecvdData answers _ =>
    constructor
    · intro h gpsi hgpsi hnew metaData hmeta hsigned
      have hstored := h gpsi.mItem _
        (storeGroup_mem_processRecvdGroups.2 ⟨gpsi, hgpsi, rfl, hnew, _, hmeta, hsigned, rfl⟩)
      obtain ⟨hid, hadmin, -⟩ := @signed_noteOriginator service none gpsi.mItem metaData
      exact ⟨hid ▸ hstored.1, hadmin.1 hstored.2.1⟩
    · intro h grp metaData hstored
      obtain ⟨gpsi, hgpsi, rfl, hnew, metaData', hmeta, hsigned, rfl⟩ :=
        storeGroup_mem_processRecvdGroups.1 hstored
      obtain ⟨hid, hadmin, hauthor⟩ :=
        @signed_noteOriginator service (answers.mGixs gpsi.mItem) gpsi.mItem metaData'
      obtain ⟨hgroupId, hadminSigned⟩ := h gpsi hgpsi hnew metaData' hmeta hsigned
      exact ⟨hid.trans hgroupId, hadmin.2 hadminSigned, hauthor.2 hsigned⟩
  | _ => exact Iff.rfl

/-- The groups that an `RsGenExchange` stores are authentic exactly as long as it receives only
groups that have the id of their packet and the signature of their administrator. -/
theorem authentic_along_iff (s : GrpReception) (is : List Input) :
  (grpMachine service).Along (StoresAuthentic service) s is ↔
    (grpMachine service).Along (ReceivesAuthentic service) s is
  := by
  constructor
  · intro h
    exact h.mono fun s i => (storesAuthentic_iff s i).1
  · intro h
    exact h.mono fun s i => (storesAuthentic_iff s i).2

/-! ### A group that nobody administers -/

/-- A group of the id `grpId`, in a packet of the id `packetGrpId`. -/
def unsignedGrp (packetGrpId grpId : RsGxsGroupId) : RsNxsGrp :=
  ⟨0, 0, packetGrpId, [], 1, some (plainGrpMeta grpId 0x4)⟩

/-- This group arrives, and is worked on. -/
def oneGroupRun (packetGrpId grpId : RsGxsGroupId) : List Input := [
  .notifyNewGroups [unsignedGrp packetGrpId grpId],
  .processRecvdData ⟨[], fun _ => none⟩ ⟨fun _ => none, fun _ => [], 0, fun _ => none⟩]

/-- A group without keys and signatures is stored, also under the id of another. -/
theorem not_authentic_along_unsigned :
  ¬ (grpMachine openService).Along (StoresAuthentic openService) .new (oneGroupRun 1 1) ∧
    ¬ (grpMachine openService).Along (StoresAuthentic openService) .new (oneGroupRun 1 2)
  := by
  have hsigned (grpId : RsGxsGroupId) :
      AuthorSigned openService none [] (plainGrpMeta grpId 0x4) := by
    rintro ⟨⟩
  constructor
  · rintro ⟨-, hstores, -⟩
    obtain ⟨-, ⟨adminSign, -, hsign, -⟩, -⟩ := hstores (unsignedGrp 1 1) _
      (storeGroup_mem_processRecvdGroups.2
        ⟨⟨unsignedGrp 1 1, 1, 0⟩, List.mem_cons_self, rfl, by decide, _, rfl, hsigned 1, rfl⟩)
    cases hsign
  · rintro ⟨-, hstores, -⟩
    obtain ⟨hid, -⟩ := hstores (unsignedGrp 1 2) _
      (storeGroup_mem_processRecvdGroups.2
        ⟨⟨unsignedGrp 1 2, 1, 0⟩, List.mem_cons_self, rfl, by decide, _, rfl, hsigned 2, rfl⟩)
    revert hid
    decide

end GenExchange
