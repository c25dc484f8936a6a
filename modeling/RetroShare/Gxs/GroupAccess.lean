import RetroShare.Gxs.DataAccess

/-!
# Requests for groups

`RsGxsDataAccess` answers requests for the identifiers, the metadata and the data of groups.  A
group that the store does not know has no metadata: the pointer to it is `NULL`, and it is the
result of a request for metadata, or is dereferenced when there is a mask.
-/

namespace Gxs

/-- `RsTokReqOptions`, with what is read for groups. -/
structure GrpTokReqOptions extends RsTokReqOptions where
  mSubscribeFilter : UInt32
  mSubscribeMask : UInt32
  deriving DecidableEq

/-- `checkGrpFilter`; without value when `NULL` is dereferenced. -/
def GrpTokReqOptions.checkGrpFilter (opts : GrpTokReqOptions)
    (grpMeta : Option RsGxsGrpMetaData) : Option Bool :=
  if opts.mSubscribeMask ≠ 0 then
    grpMeta.map fun m =>
      opts.mSubscribeMask &&& opts.mSubscribeFilter = opts.mSubscribeMask &&& m.mSubscribeFlags
  else
    some true

/-- Whether `filterGrpList` keeps a group; without value when `NULL` is dereferenced. -/
def GrpTokReqOptions.keeps (opts : GrpTokReqOptions)
    (grpMeta : OrdMap RsGxsGroupId (Option RsGxsGrpMetaData)) (grpId : RsGxsGroupId) :
    Option Bool :=
  match grpMeta.get? grpId with
  | some m => opts.checkGrpFilter m
  | none => some false

/-- `filterGrpList`; without value when `NULL` is dereferenced. -/
def GrpTokReqOptions.filterGrpList (opts : GrpTokReqOptions)
    (grpMeta : OrdMap RsGxsGroupId (Option RsGxsGrpMetaData)) :
    List RsGxsGroupId → Option (List RsGxsGroupId)
  | [] => some []
  | grpId :: grpIds => do
      let keep ← opts.keeps grpMeta grpId
      let rest ← opts.filterGrpList grpMeta grpIds
      some (if keep then grpId :: rest else rest)

/-- A map from the identifiers of a list to `NULL`. -/
def nullMap (α : Type) (grpIds : List RsGxsGroupId) : OrdMap RsGxsGroupId (Option α) :=
  grpIds.foldl (fun m grpId => m.insert grpId none) OrdMap.empty

namespace RsDataService

variable (store : RsDataService) (grpIdsIn : List RsGxsGroupId)

/-- `retrieveNxsGrps`, with metadata. -/
def retrieveNxsGrpsWithMeta (grp : OrdMap RsGxsGroupId (Option RsNxsGrp)) :
    OrdMap RsGxsGroupId (Option (RsNxsGrp × Option RsGxsGrpMetaData)) :=
  let found := store.retrieveNxsGrps grp
  if found = OrdMap.empty then
    OrdMap.empty
  else
    let metaMap := store.retrieveGxsGrpMetaData (found.map fun _ _ => none)
    found.map fun grpId ng => ng.map fun g => (g, (metaMap.get? grpId).join)

/-- `getGroupList`; without value when `NULL` is dereferenced. -/
def getGroupList (opts : GrpTokReqOptions) :
    Option (List RsGxsGroupId) :=
  let grpMeta := store.retrieveGxsGrpMetaData (nullMap _ grpIdsIn)
  opts.filterGrpList grpMeta (grpMeta.toList.map Prod.fst)

/-- `getGroupSummary`: a pointer of the result may be `NULL`. -/
def getGroupSummary (opts : GrpTokReqOptions) :
    Option (List (Option RsGxsGrpMetaData)) := do
  let grpIdsOut ← store.getGroupList grpIdsIn opts
  if grpIdsOut = [] then some []
  else some ((store.retrieveGxsGrpMetaData (nullMap _ grpIdsOut)).toList.map Prod.snd)

/-- `getGroupData`: a pointer of the result, or to the metadata of a group, may be `NULL`. -/
def getGroupData (opts : GrpTokReqOptions) :
    Option (List (Option (RsNxsGrp × Option RsGxsGrpMetaData))) := do
  let grpIdsOut ← store.getGroupList grpIdsIn opts
  if grpIdsOut = [] then some []
  else some ((store.retrieveNxsGrpsWithMeta (nullMap _ grpIdsOut)).toList.map Prod.snd)

/-! ### What is asked for -/

/-- A group that is requested, exists and passes the filter.  A group exists when the store has
its metadata. -/
def IsRequested (opts : GrpTokReqOptions) (grpId : RsGxsGroupId) : Prop :=
  (grpIdsIn = [] ∨ grpId ∈ grpIdsIn) ∧
    ∃ m, store.grpMeta? grpId = some m ∧ opts.checkGrpFilter (some m) = some true

/-- The requests by identifiers, by metadata and by data return without dereferencing `NULL`, do
not return `NULL`, and return the same groups: the ones that are requested, exist and pass. -/
def GroupsAgree (opts : GrpTokReqOptions) : Prop :=
  ∃ ids metas datas, store.getGroupList grpIdsIn opts = some ids ∧
    store.getGroupSummary grpIdsIn opts = some metas ∧
    store.getGroupData grpIdsIn opts = some datas ∧
    (∀ m ∈ metas, m.isSome) ∧ (∀ g ∈ datas, ∃ ng m, g = some (ng, some m)) ∧
    ∀ grpId,
      (grpId ∈ ids ↔ store.IsRequested grpIdsIn opts grpId) ∧
      ((∃ m, some m ∈ metas ∧ m.mGroupId = grpId) ↔ store.IsRequested grpIdsIn opts grpId) ∧
      ((∃ g, some g ∈ datas ∧ g.1.grpId = grpId) ↔ store.IsRequested grpIdsIn opts grpId)

/-- The store knows all groups of the request, and can read the data of those that pass. -/
def Knows (opts : GrpTokReqOptions) : Prop :=
  (∀ grpId ∈ grpIdsIn, (store.grpMeta? grpId).isSome) ∧
    ∀ grpId, store.IsRequested grpIdsIn opts grpId → (store.getGroup grpId).isSome

end RsDataService

/-! ### Filtering -/

section Filtering

variable {opts : GrpTokReqOptions} {grpMeta : OrdMap RsGxsGroupId (Option RsGxsGrpMetaData)}
  {grpIds : List RsGxsGroupId}

/-- The filter drops what does not pass, unless it meets `NULL`. -/
theorem GrpTokReqOptions.mem_of_filterGrpList :
  ∀ {ids : List RsGxsGroupId}, opts.filterGrpList grpMeta grpIds = some ids →
    (∀ grpId ∈ grpIds, (opts.keeps grpMeta grpId).isSome) ∧
      ∀ grpId, grpId ∈ ids ↔ grpId ∈ grpIds ∧ opts.keeps grpMeta grpId = some true
  := by
  induction grpIds with
  | nil =>
    intro ids h
    obtain rfl := Option.some.inj h
    simp
  | cons grpId grpIds ih =>
    intro ids h
    obtain ⟨keep, hkeep, h⟩ := Option.bind_eq_some_iff.mp h
    obtain ⟨rest, hrest, h⟩ := Option.bind_eq_some_iff.mp h
    obtain rfl := Option.some.inj h
    obtain ⟨hsafe, hmem⟩ := ih hrest
    constructor
    · rw [List.forall_mem_cons]
      exact ⟨Option.isSome_of_eq_some hkeep, hsafe⟩
    · intro g
      rw [List.mem_cons, or_and_right, ← hmem]
      cases keep with
      | true =>
        rw [if_pos rfl, List.mem_cons]
        apply or_congr_left
        rw [iff_self_and]
        rintro rfl
        exact hkeep
      | false =>
        rw [if_neg Bool.false_ne_true]
        constructor
        · exact .inr
        · rintro (⟨rfl, hpass⟩ | hg)
          · rw [hkeep] at hpass
            cases hpass
          · exact hg

/-- The filter has a value when it does not meet `NULL`. -/
theorem GrpTokReqOptions.exists_filterGrpList
    (h : ∀ grpId ∈ grpIds, (opts.keeps grpMeta grpId).isSome) :
  ∃ ids, opts.filterGrpList grpMeta grpIds = some ids
  := by
  induction grpIds with
  | nil => exact ⟨[], rfl⟩
  | cons grpId grpIds ih =>
    rw [List.forall_mem_cons] at h
    obtain ⟨keep, hkeep⟩ := Option.isSome_iff_exists.mp h.1
    obtain ⟨rest, hrest⟩ := ih h.2
    rw [filterGrpList, hkeep, hrest]
    exact ⟨_, rfl⟩

end Filtering

/-! ### Retrieving -/

variable {α : Type}

theorem get?_nullMap (grpIds : List RsGxsGroupId) (grpId : RsGxsGroupId) :
  (nullMap α grpIds).get? grpId = if grpId ∈ grpIds then some none else none
  := by
  have hfold : ∀ (m : OrdMap RsGxsGroupId (Option α)),
      (grpIds.foldl (fun m grpId => m.insert grpId none) m).get? grpId =
        if grpId ∈ grpIds then some none else m.get? grpId := by
    induction grpIds with
    | nil => simp
    | cons g grpIds ih =>
      intro m
      rw [List.foldl_cons, ih, OrdMap.get?_insert]
      by_cases hg : grpId = g
      · simp [hg]
      · simp [hg]
  rw [nullMap, hfold, OrdMap.get?_empty]

theorem nullMap_eq_empty_iff {grpIds : List RsGxsGroupId} :
  nullMap α grpIds = OrdMap.empty ↔ grpIds = []
  := by
  constructor
  · intro h
    cases grpIds with
    | nil => rfl
    | cons g grpIds =>
      have hget := get?_nullMap (α := α) (g :: grpIds) g
      rw [h, OrdMap.get?_empty, if_pos List.mem_cons_self] at hget
      cases hget
  · rintro rfl
    rfl

namespace RsDataService

variable {store : RsDataService} {grpIds ids : List RsGxsGroupId} {opts : GrpTokReqOptions}
  {grpId : RsGxsGroupId} {m : Option RsGxsGrpMetaData}

/-- The groups that are looked at: the requested ones, or all that have metadata. -/
def Listed (store : RsDataService) (grpIds : List RsGxsGroupId) (grpId : RsGxsGroupId) : Prop :=
  if grpIds = [] then (store.grpMeta? grpId).isSome = true else grpId ∈ grpIds

theorem get?_retrieveGxsGrpMetaData :
  (store.retrieveGxsGrpMetaData (nullMap _ grpIds)).get? grpId = some m ↔
    store.Listed grpIds grpId ∧ m = store.grpMeta? grpId
  := by
  rw [retrieveGxsGrpMetaData, if_congr nullMap_eq_empty_iff rfl rfl, Listed]
  split
  case isTrue =>
    rw [OrdMap.get?_filter, OrdMap.get?_map, Option.filter_eq_some_iff, Option.map_eq_some_iff]
    constructor
    · rintro ⟨⟨row, -, rfl⟩, hsome⟩
      exact ⟨hsome, rfl⟩
    · rintro ⟨hsome, rfl⟩
      obtain ⟨x, hx⟩ := Option.isSome_iff_exists.mp hsome
      obtain ⟨row, hrow, -⟩ := Option.bind_eq_some_iff.mp hx
      exact ⟨⟨row, hrow, rfl⟩, hsome⟩
  case isFalse =>
    rw [OrdMap.get?_map, get?_nullMap]
    split
    case isTrue hmem => simp [hmem, eq_comm]
    case isFalse hmem => simp [hmem]

theorem mem_keys_retrieveGxsGrpMetaData :
  grpId ∈ (store.retrieveGxsGrpMetaData (nullMap _ grpIds)).toList.map Prod.fst ↔
    store.Listed grpIds grpId
  := by
  rw [List.mem_map]
  constructor
  · rintro ⟨⟨g, m⟩, hmem, rfl⟩
    exact (get?_retrieveGxsGrpMetaData.mp (OrdMap.mem_toList.mp hmem)).1
  · intro h
    exact ⟨(grpId, _), OrdMap.mem_toList.mpr (get?_retrieveGxsGrpMetaData.mpr ⟨h, rfl⟩), rfl⟩

theorem keeps_retrieveGxsGrpMetaData (h : store.Listed grpIds grpId) :
  opts.keeps (store.retrieveGxsGrpMetaData (nullMap _ grpIds)) grpId =
    opts.checkGrpFilter (store.grpMeta? grpId)
  := by
  rw [GrpTokReqOptions.keeps, get?_retrieveGxsGrpMetaData.mpr ⟨h, rfl⟩]

/-- The identifiers that are returned. -/
theorem mem_of_getGroupList (h : store.getGroupList grpIds opts = some ids) :
  grpId ∈ ids ↔ store.Listed grpIds grpId ∧ opts.checkGrpFilter (store.grpMeta? grpId) = some true
  := by
  rw [(GrpTokReqOptions.mem_of_filterGrpList h).2, mem_keys_retrieveGxsGrpMetaData]
  apply and_congr_right
  intro hlisted
  rw [keeps_retrieveGxsGrpMetaData hlisted]

theorem exists_getGroupList (h : ∀ grpId, store.Listed grpIds grpId →
    (store.grpMeta? grpId).isSome) :
  ∃ ids, store.getGroupList grpIds opts = some ids
  := by
  apply GrpTokReqOptions.exists_filterGrpList
  intro g hmem
  rw [mem_keys_retrieveGxsGrpMetaData] at hmem
  rw [keeps_retrieveGxsGrpMetaData hmem]
  obtain ⟨m, hm⟩ := Option.isSome_iff_exists.mp (h g hmem)
  rw [hm, GrpTokReqOptions.checkGrpFilter]
  split <;> rfl

theorem mGroupId_of_grpMeta? {m : RsGxsGrpMetaData} (h : store.grpMeta? grpId = some m) :
  m.mGroupId = grpId
  := by
  obtain ⟨row, -, h⟩ := Option.bind_eq_some_iff.mp h
  obtain ⟨m', -, rfl⟩ := Option.map_eq_some_iff.mp h
  rfl

theorem grpId_of_getGroup {ng : RsNxsGrp} (h : store.getGroup grpId = some ng) :
  ng.grpId = grpId
  := by
  rw [getGroup] at h
  split at h
  · cases h
  · obtain ⟨row, -, h⟩ := Option.bind_eq_some_iff.mp h
    obtain ⟨grp, -, rfl⟩ := Option.map_eq_some_iff.mp h
    rfl

/-- The metadata that is returned for identifiers. -/
theorem mem_summary (h : ids ≠ []) :
  m ∈ (store.retrieveGxsGrpMetaData (nullMap _ ids)).toList.map Prod.snd ↔
    ∃ g ∈ ids, m = store.grpMeta? g
  := by
  have hget : ∀ g, (store.retrieveGxsGrpMetaData (nullMap _ ids)).get? g = some m ↔
      g ∈ ids ∧ m = store.grpMeta? g := by
    intro g
    simp only [get?_retrieveGxsGrpMetaData, Listed, if_neg h]
  rw [List.mem_map]
  constructor
  · rintro ⟨⟨g, m'⟩, hmem, rfl⟩
    exact ⟨g, (hget g).mp (OrdMap.mem_toList.mp hmem)⟩
  · rintro ⟨g, hg⟩
    exact ⟨(g, m), OrdMap.mem_toList.mpr ((hget g).mpr hg), rfl⟩

theorem get?_retrieveNxsGrps (h : ids ≠ []) {ng : Option RsNxsGrp} :
  (store.retrieveNxsGrps (nullMap _ ids)).get? grpId = some ng ↔
    grpId ∈ ids ∧ ng = store.getGroup grpId ∧ ng.isSome
  := by
  rw [retrieveNxsGrps, if_neg (mt nullMap_eq_empty_iff.mp h), OrdMap.get?_filter, OrdMap.get?_map,
    get?_nullMap, Option.filter_eq_some_iff]
  split
  case isTrue hmem =>
    rw [Option.map_some, Option.some.injEq, and_iff_right hmem, eq_comm]
  case isFalse hmem =>
    constructor
    · rintro ⟨hnone, -⟩
      cases hnone
    · rintro ⟨hmem', -⟩
      exact absurd hmem' hmem

theorem get?_retrieveGxsGrpMetaData_map {found : OrdMap RsGxsGroupId (Option RsNxsGrp)}
    (h : found ≠ OrdMap.empty) :
  (store.retrieveGxsGrpMetaData (found.map fun _ _ => none)).get? grpId =
    (found.get? grpId).map fun _ => store.grpMeta? grpId
  := by
  have hne : (found.map fun _ _ => none : OrdMap RsGxsGroupId (Option RsGxsGrpMetaData)) ≠
      OrdMap.empty := by
    intro hempty
    apply h
    apply OrdMap.ext_get?
    intro g
    have hg := OrdMap.get?_map (m := found) (fun _ _ => (none : Option RsGxsGrpMetaData)) g
    rw [hempty, OrdMap.get?_empty, eq_comm, Option.map_eq_none_iff] at hg
    rw [hg, OrdMap.get?_empty]
  rw [retrieveGxsGrpMetaData, if_neg hne, OrdMap.get?_map, OrdMap.get?_map, Option.map_map]
  rfl

theorem get?_retrieveNxsGrpsWithMeta {grp : OrdMap RsGxsGroupId (Option RsNxsGrp)} :
  (store.retrieveNxsGrpsWithMeta grp).get? grpId =
    ((store.retrieveNxsGrps grp).get? grpId).map fun ng =>
      ng.map fun g => (g, store.grpMeta? grpId)
  := by
  rw [retrieveNxsGrpsWithMeta]
  dsimp only
  split
  case isTrue hempty => rw [hempty, OrdMap.get?_empty, OrdMap.get?_empty, Option.map_none]
  case isFalse hne =>
    rw [OrdMap.get?_map, get?_retrieveGxsGrpMetaData_map hne]
    cases (store.retrieveNxsGrps grp).get? grpId with
    | none => rfl
    | some ng => rfl

theorem mem_data (h : ids ≠ []) {g : Option (RsNxsGrp × Option RsGxsGrpMetaData)} :
  g ∈ (store.retrieveNxsGrpsWithMeta (nullMap _ ids)).toList.map Prod.snd ↔
    ∃ id ∈ ids, ∃ ng, store.getGroup id = some ng ∧ g = some (ng, store.grpMeta? id)
  := by
  rw [List.mem_map]
  constructor
  · rintro ⟨⟨id, g'⟩, hmem, rfl⟩
    rw [OrdMap.mem_toList, get?_retrieveNxsGrpsWithMeta, Option.map_eq_some_iff] at hmem
    obtain ⟨ng, hng, rfl⟩ := hmem
    obtain ⟨hid, rfl, hsome⟩ := (get?_retrieveNxsGrps h).mp hng
    obtain ⟨ng, hng⟩ := Option.isSome_iff_exists.mp hsome
    exact ⟨id, hid, ng, hng, by rw [hng, Option.map_some]⟩
  · rintro ⟨id, hid, ng, hng, rfl⟩
    refine ⟨(id, some (ng, store.grpMeta? id)), ?_, rfl⟩
    have hget : (store.retrieveNxsGrps (nullMap _ ids)).get? id = some (some ng) :=
      (get?_retrieveNxsGrps h).mpr ⟨hid, hng.symm, rfl⟩
    rw [OrdMap.mem_toList, get?_retrieveNxsGrpsWithMeta, hget]
    rfl

/-! ### The three kinds of requests -/

/-- A group that is looked at and passes is one that is requested, where groups that are requested
have metadata. -/
theorem isRequested_iff (h : ∀ g ∈ grpIds, (store.grpMeta? g).isSome) :
  store.IsRequested grpIds opts grpId ↔
    store.Listed grpIds grpId ∧ opts.checkGrpFilter (store.grpMeta? grpId) = some true
  := by
  rw [IsRequested, Listed]
  split
  case isTrue hnil =>
    rw [and_iff_right (Or.inl hnil)]
    constructor
    · rintro ⟨m, hm, hcheck⟩
      rw [hm]
      exact ⟨rfl, hcheck⟩
    · rintro ⟨hsome, hcheck⟩
      obtain ⟨m, hm⟩ := Option.isSome_iff_exists.mp hsome
      rw [hm] at hcheck
      exact ⟨m, hm, hcheck⟩
  case isFalse hne =>
    rw [or_iff_right hne]
    constructor
    · rintro ⟨hmem, m, hm, hcheck⟩
      rw [hm]
      exact ⟨hmem, hcheck⟩
    · rintro ⟨hmem, hcheck⟩
      obtain ⟨m, hm⟩ := Option.isSome_iff_exists.mp (h grpId hmem)
      rw [hm] at hcheck
      exact ⟨hmem, m, hm, hcheck⟩

theorem groupsAgree_of_knows (h : store.Knows grpIds opts) :
  store.GroupsAgree grpIds opts
  := by
  obtain ⟨hmeta, hdata⟩ := h
  have hlisted : ∀ g, store.Listed grpIds g → (store.grpMeta? g).isSome := by
    intro g hg
    rw [Listed] at hg
    split at hg
    · exact hg
    · exact hmeta g hg
  obtain ⟨ids, hids⟩ : ∃ ids, store.getGroupList grpIds opts = some ids :=
    exists_getGroupList hlisted
  have hmem : ∀ g, g ∈ ids ↔ store.IsRequested grpIds opts g := by
    intro g
    rw [mem_of_getGroupList hids, isRequested_iff hmeta]
  have hmetaOf : ∀ g ∈ ids, ∃ m, store.grpMeta? g = some m := by
    intro g hg
    obtain ⟨-, m, hm, -⟩ := (hmem g).mp hg
    exact ⟨m, hm⟩
  rw [GroupsAgree]
  simp only [getGroupSummary, getGroupData, hids, Option.bind_eq_bind, Option.bind_some]
  by_cases hnil : ids = []
  case pos =>
    subst hnil
    refine ⟨[], [], [], rfl, rfl, rfl, by simp, by simp, ?_⟩
    intro g
    have hnone : ¬ store.IsRequested grpIds opts g := by
      rw [← hmem]
      exact List.not_mem_nil
    simp [hnone]
  case neg =>
    rw [if_neg hnil, if_neg hnil]
    refine ⟨ids, _, _, rfl, rfl, rfl, ?_, ?_, ?_⟩
    · intro m hm
      obtain ⟨g, hg, rfl⟩ := (mem_summary hnil).mp hm
      exact Option.isSome_iff_exists.mpr (hmetaOf g hg)
    · intro g hg
      obtain ⟨id, hid, ng, -, rfl⟩ := (mem_data hnil).mp hg
      obtain ⟨m, hm⟩ := hmetaOf id hid
      exact ⟨ng, m, by rw [hm]⟩
    · intro g
      refine ⟨hmem g, ?_, ?_⟩
      · rw [← hmem]
        constructor
        · rintro ⟨m, hm, rfl⟩
          obtain ⟨id, hid, hmid⟩ := (mem_summary hnil).mp hm
          rw [mGroupId_of_grpMeta? hmid.symm]
          exact hid
        · intro hg
          obtain ⟨m, hm⟩ := hmetaOf g hg
          exact ⟨m, (mem_summary hnil).mpr ⟨g, hg, hm.symm⟩, mGroupId_of_grpMeta? hm⟩
      · rw [← hmem]
        constructor
        · rintro ⟨p, hp, rfl⟩
          obtain ⟨id, hid, ng, hng, hp⟩ := (mem_data hnil).mp hp
          rw [Option.some.inj hp, grpId_of_getGroup hng]
          exact hid
        · intro hg
          obtain ⟨ng, hng⟩ := Option.isSome_iff_exists.mp (hdata g ((hmem g).mp hg))
          exact ⟨_, (mem_data hnil).mpr ⟨g, hg, ng, hng, rfl⟩, grpId_of_getGroup hng⟩

/-- The requests for groups agree and meet no `NULL` exactly when the store knows all groups of the
request and can read the data of those that pass. -/
theorem groupsAgree_iff (store : RsDataService) (grpIds : List RsGxsGroupId)
    (opts : GrpTokReqOptions) :
  store.GroupsAgree grpIds opts ↔ store.Knows grpIds opts
  := by
  constructor
  · rintro ⟨ids, metas, datas, hids, -, hdatas, -, -, hset⟩
    constructor
    · intro g hg
      by_contra hnone
      rw [Option.not_isSome_iff_eq_none] at hnone
      have hlisted : store.Listed grpIds g := by
        rw [Listed, if_neg (List.ne_nil_of_mem hg)]
        exact hg
      have hsafe := (GrpTokReqOptions.mem_of_filterGrpList hids).1 g
        (mem_keys_retrieveGxsGrpMetaData.mpr hlisted)
      rw [keeps_retrieveGxsGrpMetaData hlisted, hnone, GrpTokReqOptions.checkGrpFilter] at hsafe
      split at hsafe
      case isTrue => cases hsafe
      case isFalse hmask =>
        -- without a mask the group is returned although the store does not know it
        have hmem : g ∈ ids := by
          rw [mem_of_getGroupList hids, hnone, GrpTokReqOptions.checkGrpFilter, if_neg hmask]
          exact ⟨hlisted, rfl⟩
        obtain ⟨-, m, hm, -⟩ := (hset g).1.mp hmem
        rw [hnone] at hm
        cases hm
    · intro g hg
      obtain ⟨p, hp, rfl⟩ := (hset g).2.2.mpr hg
      have hne : ids ≠ [] := List.ne_nil_of_mem ((hset _).1.mpr hg)
      simp only [getGroupData, hids, Option.bind_eq_bind, Option.bind_some, if_neg hne] at hdatas
      rw [← Option.some.inj hdatas] at hp
      obtain ⟨id, -, ng, hng, hp⟩ := (mem_data hne).mp hp
      rw [Option.some.inj hp, grpId_of_getGroup hng, hng]
      rfl
  · exact groupsAgree_of_knows

end RsDataService

/-- A store without groups. -/
def noGroups : RsDataService where
  grps := OrdMap.empty
  msgs := []
  nodup := List.nodup_nil

/-- A request for a group that the store does not know returns `NULL`. -/
theorem not_groupsAgree_unknown :
  ¬ ∀ (store : RsDataService) (grpIds : List RsGxsGroupId) (opts : GrpTokReqOptions),
    store.GroupsAgree grpIds opts
  := by
  intro h
  obtain ⟨ids, metas, datas, -, hmetas, -, hnull, -⟩ := h noGroups [1] ⟨⟨0, 0, 0, 0, 0⟩, 0, 0⟩
  have hsummary : noGroups.getGroupSummary [1] ⟨⟨0, 0, 0, 0, 0⟩, 0, 0⟩ = some [none] := by
    decide +kernel
  rw [hsummary, Option.some.injEq] at hmetas
  subst hmetas
  exact absurd (hnull none List.mem_cons_self) Bool.false_ne_true

end Gxs
