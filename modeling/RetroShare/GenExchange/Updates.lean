import RetroShare.GenExchange.Reception
import RetroShare.Lib.Lifetimes

/-!
# Updates of groups

`RsGenExchange::performUpdateValidation` of `rsgenexchange.cc`, with `RsDataService::updateGroup` of
`rsdataservice.cc`.  The metadata of the stored groups are objects, one for every group that has an
update; the updates are taken to the data store in the order of their addresses, which are their
numbers here.

`updatesSafely_iff`: the updates of a batch are applied as they should be exactly when their groups
are stored, and no two of them are of one group.
-/

namespace GenExchange

open Lifetimes

/-! ### The table of groups -/

/-- A row of the table of groups. -/
structure GrpRow where
  grp : List UInt8
  metaData : RsGxsGrpMetaData

/-- The table of groups. -/
abbrev GrpTable : Type := OrdMap RsGxsGroupId GrpRow

/-- `RsDataService::retrieveGxsGrpMetaData` of a group, which leaves `NULL` where there is none. -/
def retrieveGxsGrpMetaData (table : GrpTable) (grpId : RsGxsGroupId) : Option RsGxsGrpMetaData :=
  (table.get? grpId).map fun row => { row.metaData with mGroupId := grpId }

/-- `RsDataService::validSize`. -/
def validSize (grp : RsNxsGrp) : Bool :=
  UInt32.ofNat (6 + grp.grp.length) + UInt32.ofNat (6 + grp.metaLen) ≤ gxsMaxItemSize

/-- The columns that `updateGroup` writes: the parent of the group stays. -/
def updatedRow (gu : GroupUpdate) (row : GrpRow) : GrpRow where
  grp := gu.newGrp.grp
  metaData :=
    { noteOriginator gu.newGrp gu.metaData with mParentGrpId := row.metaData.mParentGrpId }

/-- An iteration of the loop of `RsDataService::updateGroup`. -/
def updateRow (table : GrpTable) (gu : GroupUpdate) : GrpTable :=
  if validSize gu.newGrp then
    match table.get? gu.newGrp.grpId with
    | none => table
    | some row => table.insert gu.newGrp.grpId (updatedRow gu row)
  else
    table

/-- `RsDataService::updateGroup`. -/
def updateGroup (table : GrpTable) (grps : List GroupUpdate) : GrpTable :=
  grps.foldl updateRow table

/-! ### The validation of the updates -/

/-- What happens to the updates and to the old metadata. -/
inductive UpdateEvent where
  | useMeta (grpId : RsGxsGroupId)
  | deleteMeta (grpId : RsGxsGroupId)
  | use (obj : Nat)
  | delete (obj : Nat)

/-- The object that an event is about. -/
def UpdateEvent.object : UpdateEvent → RsGxsGroupId ⊕ Nat
  | .useMeta grpId => .inl grpId
  | .deleteMeta grpId => .inl grpId
  | .use obj => .inr obj
  | .delete obj => .inr obj

/-- Whether an event ends its object. -/
def UpdateEvent.isFinal : UpdateEvent → Bool
  | .deleteMeta _ => true
  | .delete _ => true
  | _ => false

/-- Updates that have been received: they are different objects. -/
structure UpdateBatch where
  mGroupUpdates : List GroupUpdate
  distinct : (mGroupUpdates.map fun gu => gu.newGrp.obj).Nodup

/-- The updates, as the map from the addresses has them. -/
def byAddress (updates : List GroupUpdate) : List GroupUpdate :=
  (updates.foldl (fun grps gu => grps.insert gu.newGrp.obj gu)
    (OrdMap.empty : OrdMap Nat GroupUpdate)).toList.map Prod.snd

section Perform

variable (service : Service) (table : GrpTable)

/-- `validUpdate`, for metadata that are there. -/
def validUpdate (gu : GroupUpdate) : Bool :=
  (retrieveGxsGrpMetaData table gu.newGrp.grpId).any fun oldGrpMeta =>
    updateValid service oldGrpMeta gu.newGrp.grp gu.metaData

/-- The first loop: the old metadata are used, and the new. -/
def checkEvents (gu : GroupUpdate) : List UpdateEvent :=
  [.useMeta gu.newGrp.grpId, .use gu.newGrp.obj]

/-- The second loop: an update that is not valid is deleted, and the old metadata are. -/
def collectEvents (gu : GroupUpdate) : List UpdateEvent :=
  [if validUpdate service table gu then .use gu.newGrp.obj else .delete gu.newGrp.obj,
    .deleteMeta gu.newGrp.grpId]

/-- The updates that are taken to the data store. -/
def collected (batch : UpdateBatch) : List GroupUpdate :=
  byAddress (batch.mGroupUpdates.filter (validUpdate service table))

/-- What happens in a call, the data store's part at the end. -/
def updateEvents (batch : UpdateBatch) : List UpdateEvent :=
  batch.mGroupUpdates.flatMap checkEvents ++
    (batch.mGroupUpdates.flatMap (collectEvents service table) ++
    ((collected service table batch).map (fun gu => .use gu.newGrp.obj) ++
    (collected service table batch).map fun gu => .delete gu.newGrp.obj))

/-- `RsGenExchange::performUpdateValidation`.  Of the table from which the old metadata are
retrieved, the groups `removed` are gone when the updates are written.  There is no result when the
old metadata of an update are `NULL`, which are followed all the same. -/
def performUpdateValidation (removed : RsGxsGroupId → Bool) (batch : UpdateBatch) :
    Option (GrpTable × List UpdateEvent) :=
  if batch.mGroupUpdates.all fun gu =>
      (retrieveGxsGrpMetaData table gu.newGrp.grpId).isSome then
    some (updateGroup (table.filter fun grpId _ => !removed grpId) (collected service table batch),
      updateEvents service table batch)
  else
    none

end Perform

/-! ### What an update does -/

/-- An update that is valid for a row: it has a signature of the administrator of the stored group,
and has been published later. -/
def Supersedes (service : Service) (row : GrpRow) (gu : GroupUpdate) : Prop :=
  ∃ adminSign key, gu.metaData.signSet.get? flagAuthenAdmin = some adminSign ∧
    row.metaData.keys.keys.get? gu.newGrp.grpId = some key ∧
    GxsSecurity.validateNxsGrp service.ssl gu.newGrp.grp gu.metaData adminSign key = true ∧
    row.metaData.mPublishTs < gu.metaData.mPublishTs

variable {service : Service} {table : GrpTable} {gu : GroupUpdate} {grps : List GroupUpdate}
  {grpId : RsGxsGroupId} {batch : UpdateBatch}

theorem validUpdate_iff {row : GrpRow} (hrow : table.get? gu.newGrp.grpId = some row) :
  validUpdate service table gu = true ↔ Supersedes service row gu
  := by
  simp only [validUpdate, retrieveGxsGrpMetaData, hrow, Option.map_some, Option.any_some,
    updateValid, Supersedes]
  cases gu.metaData.signSet.get? flagAuthenAdmin with
  | none => simp
  | some adminSign =>
    cases row.metaData.keys.keys.get? gu.newGrp.grpId with
    | none => simp
    | some key => simp

theorem updatedRow_updatedRow (gu gu' : GroupUpdate) (row : GrpRow) :
  updatedRow gu (updatedRow gu' row) = updatedRow gu row
  := rfl

theorem updatedRow_mPublishTs (gu : GroupUpdate) (row : GrpRow) :
  (updatedRow gu row).metaData.mPublishTs = gu.metaData.mPublishTs
  := by
  rw [updatedRow, noteOriginator]
  split <;> rfl

theorem get?_updateRow (gu : GroupUpdate) (grpId : RsGxsGroupId) :
  (updateRow table gu).get? grpId =
    if gu.newGrp.grpId = grpId ∧ validSize gu.newGrp = true then
      (table.get? grpId).map (updatedRow gu)
    else table.get? grpId
  := by
  rw [updateRow]
  cases validSize gu.newGrp with
  | false => simp
  | true =>
    by_cases hid : gu.newGrp.grpId = grpId
    · subst hid
      cases hrow : table.get? gu.newGrp.grpId with
      | none => simp [hrow]
      | some row => simp
    · cases hrow : table.get? gu.newGrp.grpId with
      | none => simp [hid]
      | some row => simp [OrdMap.get?_insert, hid, Ne.symm hid]

theorem updateGroup_cons (gu : GroupUpdate) (grps : List GroupUpdate) :
  updateGroup table (gu :: grps) = updateGroup (updateRow table gu) grps
  := rfl

theorem get?_updateGroup {row' : GrpRow} (h : (updateGroup table grps).get? grpId = some row') :
  table.get? grpId = some row' ∨ ∃ gu ∈ grps, gu.newGrp.grpId = grpId ∧
    ∃ row, table.get? grpId = some row ∧ row' = updatedRow gu row
  := by
  have hrow {table : GrpTable} {gu : GroupUpdate} {row : GrpRow}
      (hrow : (updateRow table gu).get? grpId = some row) :
      table.get? grpId = some row ∨ gu.newGrp.grpId = grpId ∧
        ∃ row₀, table.get? grpId = some row₀ ∧ row = updatedRow gu row₀ := by
    rw [get?_updateRow] at hrow
    split at hrow
    case isTrue hid =>
      obtain ⟨row₀, hrow₀, rfl⟩ := Option.map_eq_some_iff.1 hrow
      exact .inr ⟨hid.1, row₀, hrow₀, rfl⟩
    case isFalse => exact .inl hrow
  induction grps generalizing table with
  | nil => exact .inl h
  | cons gu grps ih =>
    rcases ih h with hold | ⟨gu', hgu', hid, row, hnew, rfl⟩
    · rcases hrow hold with hold | ⟨hid, row, hnew, rfl⟩
      · exact .inl hold
      · exact .inr ⟨gu, List.mem_cons_self, hid, row, hnew, rfl⟩
    · have hmem := List.mem_cons_of_mem gu hgu'
      rcases hrow hnew with hold | ⟨-, row₀, hold, rfl⟩
      · exact .inr ⟨gu', hmem, hid, row, hold, rfl⟩
      · exact .inr ⟨gu', hmem, hid, row₀, hold, updatedRow_updatedRow gu' gu row₀⟩

theorem get?_updateGroup_of_ne (h : ∀ gu ∈ grps, gu.newGrp.grpId ≠ grpId) :
  (updateGroup table grps).get? grpId = table.get? grpId
  := by
  induction grps generalizing table with
  | nil => rfl
  | cons gu grps ih =>
    rw [List.forall_mem_cons] at h
    rw [updateGroup_cons, ih h.2, get?_updateRow, if_neg]
    exact fun hid => h.1 hid.1

theorem get?_updateGroup_of_mem (hgu : gu ∈ grps)
    (hgrps : (grps.map fun gu => gu.newGrp.grpId).Nodup) (hsize : validSize gu.newGrp = true) :
  (updateGroup table grps).get? gu.newGrp.grpId =
    (table.get? gu.newGrp.grpId).map (updatedRow gu)
  := by
  induction grps generalizing table with
  | nil => cases hgu
  | cons gu' grps ih =>
    rw [List.map_cons, List.nodup_cons] at hgrps
    rcases List.mem_cons.1 hgu with rfl | hgu
    · rw [updateGroup_cons, get?_updateGroup_of_ne, get?_updateRow, if_pos ⟨rfl, hsize⟩]
      intro gu' hgu' hid
      exact hgrps.1 (List.mem_map.2 ⟨gu', hgu', hid⟩)
    · rw [updateGroup_cons, ih hgu hgrps.2, get?_updateRow, if_neg]
      rintro ⟨hid, -⟩
      exact hgrps.1 (List.mem_map.2 ⟨gu, hgu, hid.symm⟩)

/-! ### The updates that are collected -/

theorem byAddress_perm {updates : List GroupUpdate}
    (h : (updates.map fun gu => gu.newGrp.obj).Nodup) :
  (byAddress updates).Perm updates
  := by
  have hfold (grps : OrdMap Nat GroupUpdate)
      (hnew : ∀ gu ∈ updates, grps.get? gu.newGrp.obj = none) :
      ((updates.foldl (fun grps gu => grps.insert gu.newGrp.obj gu) grps).toList.map
        Prod.snd).Perm (grps.toList.map Prod.snd ++ updates) := by
    induction updates generalizing grps with
    | nil => simp
    | cons gu updates ih =>
      rw [List.map_cons, List.nodup_cons] at h
      rw [List.forall_mem_cons] at hnew
      have hrest (gu' : GroupUpdate) (hgu' : gu' ∈ updates) :
          (grps.insert gu.newGrp.obj gu).get? gu'.newGrp.obj = none := by
        rw [OrdMap.get?_insert, if_neg, hnew.2 gu' hgu']
        intro heq
        exact h.1 (List.mem_map.2 ⟨gu', hgu', heq⟩)
      have hinsert := (grps.toList_insert_perm gu.newGrp.obj gu).map Prod.snd
      rw [grps.erase_of_get?_eq_none hnew.1, List.map_cons] at hinsert
      rw [List.foldl_cons]
      apply (ih h.2 _ hrest).trans
      apply (hinsert.append_right updates).trans
      exact List.perm_middle.symm
  exact hfold OrdMap.empty fun _ _ => rfl

theorem collected_perm (batch : UpdateBatch) :
  (collected service table batch).Perm
    (batch.mGroupUpdates.filter (validUpdate service table))
  := by
  apply byAddress_perm
  exact batch.distinct.sublist (List.filter_sublist.map _)

theorem mem_collected :
  gu ∈ collected service table batch ↔
    gu ∈ batch.mGroupUpdates ∧ validUpdate service table gu = true
  := by
  rw [(collected_perm batch).mem_iff, List.mem_filter]

theorem nodup_map_collected {α : Type} (f : GroupUpdate → α)
    (h : (batch.mGroupUpdates.map f).Nodup) :
  ((collected service table batch).map f).Nodup
  := by
  rw [((collected_perm batch).map f).nodup_iff]
  exact h.sublist (List.filter_sublist.map f)

/-! ### A batch of updates -/

/-- What a call should do: a row is replaced only by an update that is valid for it, and by one that
is not older than another; no object is touched after it has been deleted. -/
structure UpdatesSafely (service : Service) (table : GrpTable) (removed : RsGxsGroupId → Bool)
    (batch : UpdateBatch) (r : GrpTable × List UpdateEvent) : Prop where
  replaced : ∀ grpId row', r.1.get? grpId = some row' →
    table.get? grpId = some row' ∨ ∃ gu ∈ batch.mGroupUpdates, gu.newGrp.grpId = grpId ∧
      ∃ row, table.get? grpId = some row ∧ Supersedes service row gu ∧ row' = updatedRow gu row
  latest : ∀ gu ∈ batch.mGroupUpdates, ∀ row, table.get? gu.newGrp.grpId = some row →
    Supersedes service row gu → validSize gu.newGrp = true → removed gu.newGrp.grpId = false →
      ∃ row', r.1.get? gu.newGrp.grpId = some row' ∧
        gu.metaData.mPublishTs ≤ row'.metaData.mPublishTs
  tidy : Tidy UpdateEvent.object UpdateEvent.isFinal r.2

/-- The groups of the updates. -/
def UpdateBatch.grpIds (batch : UpdateBatch) : List RsGxsGroupId :=
  batch.mGroupUpdates.map fun gu => gu.newGrp.grpId

section Batch

variable {removed : RsGxsGroupId → Bool} {batch : UpdateBatch}

theorem replaced_updateGroup {row' : GrpRow}
    (h : (updateGroup (table.filter fun grpId _ => !removed grpId) (collected service table
      batch)).get? grpId = some row') :
  table.get? grpId = some row' ∨ ∃ gu ∈ batch.mGroupUpdates, gu.newGrp.grpId = grpId ∧
    ∃ row, table.get? grpId = some row ∧ Supersedes service row gu ∧ row' = updatedRow gu row
  := by
  have hkept {row : GrpRow}
      (hrow : (table.filter fun grpId _ => !removed grpId).get? grpId = some row) :
      table.get? grpId = some row := by
    rw [OrdMap.get?_filter] at hrow
    exact (Option.filter_eq_some_iff.1 hrow).1
  rcases get?_updateGroup h with hold | ⟨gu, hgu, rfl, row, hrow, rfl⟩
  · exact .inl (hkept hold)
  · rw [mem_collected] at hgu
    have hold := hkept hrow
    exact .inr ⟨gu, hgu.1, rfl, row, hold, (validUpdate_iff hold).1 hgu.2, rfl⟩

theorem latest_updateGroup (hids : batch.grpIds.Nodup) (hgu : gu ∈ batch.mGroupUpdates)
    {row : GrpRow} (hrow : table.get? gu.newGrp.grpId = some row)
    (hvalid : Supersedes service row gu) (hsize : validSize gu.newGrp = true)
    (hkept : removed gu.newGrp.grpId = false) :
  (updateGroup (table.filter fun grpId _ => !removed grpId)
    (collected service table batch)).get? gu.newGrp.grpId = some (updatedRow gu row)
  := by
  have hmem : gu ∈ collected service table batch := by
    rw [mem_collected, validUpdate_iff hrow]
    exact ⟨hgu, hvalid⟩
  rw [get?_updateGroup_of_mem hmem (nodup_map_collected _ hids) hsize, OrdMap.get?_filter, hrow]
  simp [hkept]

theorem notMem_ended_collectEvents (hgu : gu ∈ collected service table batch) :
  Sum.inr gu.newGrp.obj ∉ ended UpdateEvent.object UpdateEvent.isFinal
    (batch.mGroupUpdates.flatMap (collectEvents service table))
  := by
  obtain ⟨hmem, hvalid⟩ := mem_collected.1 hgu
  intro hended
  obtain ⟨e, he, hfinal, hobj⟩ := mem_ended.1 hended
  obtain ⟨gu', hgu', he⟩ := List.mem_flatMap.1 he
  rw [collectEvents, List.mem_cons, List.mem_singleton] at he
  rcases he with rfl | rfl
  · split at hfinal
    case isTrue => cases hfinal
    case isFalse hinvalid =>
      rw [if_neg hinvalid, UpdateEvent.object, Sum.inr.injEq] at hobj
      obtain rfl := List.inj_on_of_nodup_map batch.distinct hgu' hmem hobj
      exact hinvalid hvalid
  · cases hobj

theorem tidy_updateEvents (hids : batch.grpIds.Nodup) :
  Tidy UpdateEvent.object UpdateEvent.isFinal (updateEvents service table batch)
  := by
  have hobjs := List.pairwise_map.1 batch.distinct
  have hcollect : Tidy UpdateEvent.object UpdateEvent.isFinal
      (batch.mGroupUpdates.flatMap (collectEvents service table)) := by
    apply tidy_flatMap
    · intro gu _
      rw [collectEvents]
      split <;> simp [Tidy, UpdateEvent.object]
    · apply (hobjs.and (List.pairwise_map.1 hids)).imp
      rintro gu gu' ⟨hobj, hid⟩ e he _ e' he'
      rw [collectEvents, List.mem_cons, List.mem_singleton] at he he'
      rcases he with rfl | rfl <;> rcases he' with rfl | rfl <;>
        (repeat' split) <;> simp [UpdateEvent.object, hobj, hid]
  have hdelete : Tidy UpdateEvent.object UpdateEvent.isFinal
      ((collected service table batch).map fun gu => .delete gu.newGrp.obj) := by
    rw [Tidy, List.pairwise_map]
    apply (List.pairwise_map.1 (nodup_map_collected _ batch.distinct)).imp
    intro gu gu' hobj _
    simpa [UpdateEvent.object] using hobj
  apply tidy_append_of_forall
  · intro e he
    obtain ⟨gu, -, he⟩ := List.mem_flatMap.1 he
    rw [checkEvents, List.mem_cons, List.mem_singleton] at he
    rcases he with rfl | rfl <;> rfl
  · rw [tidy_append]
    refine ⟨hcollect, ?_, ?_⟩
    · apply tidy_append_of_forall _ hdelete
      simp [UpdateEvent.isFinal]
    · intro e he
      rw [List.mem_append, List.mem_map, List.mem_map] at he
      rcases he with ⟨gu, hgu, rfl⟩ | ⟨gu, hgu, rfl⟩
      · exact notMem_ended_collectEvents hgu
      · exact notMem_ended_collectEvents hgu

/-- When two updates are of one group its old metadata are deleted twice. -/
theorem nodup_grpIds_of_tidy
    (h : Tidy UpdateEvent.object UpdateEvent.isFinal (updateEvents service table batch)) :
  batch.grpIds.Nodup
  := by
  rw [updateEvents, tidy_append, tidy_append] at h
  rw [UpdateBatch.grpIds, List.Nodup, List.pairwise_map]
  apply (List.pairwise_flatMap.1 h.2.1.1).2.imp
  intro gu gu' hcollect hid
  apply hcollect (.deleteMeta gu.newGrp.grpId) _ (.deleteMeta gu'.newGrp.grpId) _ rfl
  · rw [hid]
  · simp [collectEvents]
  · simp [collectEvents]

/-- A batch of updates is applied as it should be exactly when the groups of the updates are stored,
and no two updates are of one group. -/
theorem updatesSafely_iff :
  (∃ r, performUpdateValidation service table removed batch = some r ∧
      UpdatesSafely service table removed batch r) ↔
    (∀ gu ∈ batch.mGroupUpdates, (table.get? gu.newGrp.grpId).isSome) ∧ batch.grpIds.Nodup
  := by
  simp only [performUpdateValidation, retrieveGxsGrpMetaData, Option.isSome_map, List.all_eq_true,
    Option.ite_none_right_eq_some, Option.some.injEq]
  constructor
  · rintro ⟨r, ⟨hstored, rfl⟩, hsafe⟩
    exact ⟨hstored, nodup_grpIds_of_tidy hsafe.tidy⟩
  · rintro ⟨hstored, hids⟩
    refine ⟨_, ⟨hstored, rfl⟩, ?_⟩
    constructor
    case replaced =>
      intro grpId row' h
      exact replaced_updateGroup h
    case latest =>
      intro gu hgu row hrow hvalid hsize hkept
      use updatedRow gu row, latest_updateGroup hids hgu hrow hvalid hsize hkept
      rw [updatedRow_mPublishTs]
      exact UInt32.le_refl _
    case tidy => exact tidy_updateEvents hids

end Batch

/-! ### Updates that meet -/

/-- An update of the group `1`, with a signature. -/
def plainUpdate (obj : Nat) : GroupUpdate where
  newGrp := ⟨obj, 0, 1, [], 1, some (plainGrpMeta 1 0x4)⟩
  metaData := { plainGrpMeta 1 0x4 with signSet := OrdMap.empty.insert flagAuthenAdmin ⟨1, []⟩ }

/-- An update of a group that has been removed, and two updates of one that is stored. -/
theorem not_updatesSafely_meeting :
  (¬ ∃ r, performUpdateValidation openService OrdMap.empty (fun _ => false)
      ⟨[plainUpdate 0], by decide⟩ = some r) ∧
    ¬ ∃ r, performUpdateValidation openService (OrdMap.empty.insert 1 ⟨[], plainGrpMeta 1 0x4⟩)
        (fun _ => false) ⟨[plainUpdate 0, plainUpdate 1], by decide⟩ = some r ∧
      UpdatesSafely openService (OrdMap.empty.insert 1 ⟨[], plainGrpMeta 1 0x4⟩) (fun _ => false)
        ⟨[plainUpdate 0, plainUpdate 1], by decide⟩ r
  := by
  constructor
  · rintro ⟨r, hr⟩
    cases hr
  · rintro ⟨r, hr, hsafe⟩
    obtain rfl := Option.some.inj hr
    have hnodup := nodup_grpIds_of_tidy hsafe.tidy
    revert hnodup
    decide

end GenExchange
