import RetroShare.Gxs.DataService

/-!
# Requests for messages

`RsGxsDataAccess` answers requests for the identifiers, the metadata and the data of messages.
All three select messages by the options of the request, and drop the ones that the masks do not
match; then the metadata and the data are retrieved by identifiers.

A list of identifiers that is empty stands for all messages of a group.  This also holds for a
list that has become empty since no selected message matches the masks, so that the requests for
metadata and data then answer with all messages of the group.
-/

namespace Gxs

/-- `RsTokReqOptions`, as far as it is read for messages. -/
structure RsTokReqOptions where
  mOptions : UInt32
  mStatusFilter : UInt32
  mStatusMask : UInt32
  mMsgFlagMask : UInt32
  mMsgFlagFilter : UInt32
  deriving DecidableEq

/-- `RS_TOKREQOPT_MSG_ORIGMSG`. -/
def tokreqoptMsgOrigmsg : UInt32 := 0x0002

/-- `RS_TOKREQOPT_MSG_LATEST`. -/
def tokreqoptMsgLatest : UInt32 := 0x0004

/-- `RS_TOKREQOPT_MSG_THREAD`. -/
def tokreqoptMsgThread : UInt32 := 0x0010

namespace RsTokReqOptions

variable (opts : RsTokReqOptions)

/-- `onlyOrigMsgs`. -/
def onlyOrigMsgs : Bool := opts.mOptions &&& tokreqoptMsgOrigmsg ≠ 0

/-- `onlyLatestMsgs`: of this option and the one before only one can be chosen. -/
def onlyLatestMsgs : Bool := !opts.onlyOrigMsgs && opts.mOptions &&& tokreqoptMsgLatest ≠ 0

/-- `onlyThreadHeadMsgs`. -/
def onlyThreadHeadMsgs : Bool := opts.mOptions &&& tokreqoptMsgThread ≠ 0

/-- `checkMsgFilter`. -/
def checkMsgFilter (msgMeta : RsGxsMsgMetaData) : Bool :=
  (opts.mStatusMask = 0 ||
    opts.mStatusMask &&& opts.mStatusFilter = opts.mStatusMask &&& msgMeta.mMsgStatus) &&
  (opts.mMsgFlagMask = 0 ||
    opts.mMsgFlagMask &&& opts.mMsgFlagFilter = opts.mMsgFlagMask &&& msgMeta.mMsgFlags)

end RsTokReqOptions

/-- `MsgMetaFilter`, for one group. -/
abbrev MsgMetaFilter := OrdMap RsGxsMessageId RsGxsMsgMetaData

/-- `std::map::insert`, which keeps an entry that exists. -/
def MsgMetaFilter.add (metaFilter : MsgMetaFilter) (msgMeta : RsGxsMsgMetaData) : MsgMetaFilter :=
  if (metaFilter.get? msgMeta.mMsgId).isSome then metaFilter
  else metaFilter.insert msgMeta.mMsgId msgMeta

/-- The messages of a group that are selected, and the metadata that is kept for the filter. -/
structure Selection where
  msgIds : List RsGxsMessageId
  metaFilter : MsgMetaFilter

/-- A message is skipped when only thread heads are asked for. -/
def RsTokReqOptions.skips (opts : RsTokReqOptions) (msgMeta : RsGxsMsgMetaData) : Bool :=
  opts.onlyThreadHeadMsgs && msgMeta.mParentId ≠ 0

/-- The body of the loop of `getMsgList` for `onlyLatestMsgs`, with `origMsgTs`. -/
def latestStep (opts : RsTokReqOptions)
    (r : OrdMap RsGxsMessageId (RsGxsMessageId × Int) × MsgMetaFilter)
    (msgMeta : RsGxsMsgMetaData) :
    OrdMap RsGxsMessageId (RsGxsMessageId × Int) × MsgMetaFilter :=
  if opts.skips msgMeta then
    r
  else
    let addMsg := (r.1.get? msgMeta.mOrigMsgId).all fun latest => latest.2 < msgMeta.mPublishTs
    if addMsg then
      (r.1.insert msgMeta.mOrigMsgId (msgMeta.mMsgId, msgMeta.mPublishTs), r.2.add msgMeta)
    else
      r

/-- The body of the loop of `getMsgList` for all other cases. -/
def otherStep (opts : RsTokReqOptions) (r : Selection) (msgMeta : RsGxsMsgMetaData) : Selection :=
  if opts.skips msgMeta then r
  else if opts.onlyOrigMsgs && msgMeta.mMsgId ≠ msgMeta.mOrigMsgId then r
  else ⟨r.msgIds ++ [msgMeta.mMsgId], r.metaFilter.add msgMeta⟩

/-- The messages of a group that `getMsgList` selects. -/
def select (opts : RsTokReqOptions) (metaV : List RsGxsMsgMetaData) : Selection :=
  if opts.onlyLatestMsgs then
    let r := metaV.foldl (latestStep opts) (OrdMap.empty, OrdMap.empty)
    ⟨r.1.toList.map fun e => e.2.1, r.2⟩
  else
    metaV.foldl (otherStep opts) ⟨[], OrdMap.empty⟩

/-- `filterMsgList`, for one group. -/
def Selection.filterMsgList (opts : RsTokReqOptions) (r : Selection) : List RsGxsMessageId :=
  r.msgIds.filter fun msgId => (r.metaFilter.get? msgId).any opts.checkMsgFilter

namespace RsDataService

variable (store : RsDataService)

/-- `getMsgList`, from which a group is missing when nothing is selected of it. -/
def getMsgList (msgIds : GxsMsgReq) (opts : RsTokReqOptions) : GxsMsgReq :=
  let selected := (store.retrieveGxsMsgMetaData msgIds).map fun _ metaV => select opts metaV
  (selected.filter fun _ r => r.msgIds ≠ []).map fun _ r => r.filterMsgList opts

/-- `getMsgList` for a `MsgIdReq`. -/
def getMsgIds (msgIds : GxsMsgReq) (opts : RsTokReqOptions) : GxsMsgReq :=
  let existing := (store.retrieveGxsMsgMetaData msgIds).map fun _ metaV => metaV.map (·.mMsgId)
  store.getMsgList (existing.filter fun _ msgIdV => msgIdV ≠ []) opts

/-- `getMsgSummary`. -/
def getMsgSummary (msgIds : GxsMsgReq) (opts : RsTokReqOptions) : GxsMsgMetaResult :=
  store.retrieveGxsMsgMetaData (store.getMsgList msgIds opts)

/-- `getMsgData`. -/
def getMsgData (msgIds : GxsMsgReq) (opts : RsTokReqOptions) : GxsMsgResult :=
  store.retrieveNxsMsgs (store.getMsgList msgIds opts) true

/-! ### What a request asks for -/

/-- The messages of a group that are requested and exist, in the order in which they are found. -/
def requested (grpId : RsGxsGroupId) (msgIdV : List RsGxsMessageId) : List RsGxsMsgMetaData :=
  (store.query grpId msgIdV).filterMap MsgRow.getMsgMeta

end RsDataService

/-- `msgMeta` is the latest version of its original message among `metaV`; of versions that were
published at the same time it is the first one. -/
def IsLatest (metaV : List RsGxsMsgMetaData) (msgMeta : RsGxsMsgMetaData) : Prop :=
  ∃ before after, metaV = before ++ msgMeta :: after ∧
    (∀ other ∈ before, other.mOrigMsgId = msgMeta.mOrigMsgId →
      other.mPublishTs < msgMeta.mPublishTs) ∧
    ∀ other ∈ after, other.mOrigMsgId = msgMeta.mOrigMsgId →
      other.mPublishTs ≤ msgMeta.mPublishTs

/-- `msgMeta` passes the options among the messages `metaV`. -/
def RsTokReqOptions.Passes (opts : RsTokReqOptions) (metaV : List RsGxsMsgMetaData)
    (msgMeta : RsGxsMsgMetaData) : Prop :=
  if opts.onlyLatestMsgs then
    IsLatest (metaV.filter fun m => !opts.skips m) msgMeta
  else
    msgMeta ∈ metaV ∧ opts.skips msgMeta = false ∧
      (opts.onlyOrigMsgs = true → msgMeta.mMsgId = msgMeta.mOrigMsgId)

/-! ### The selection of messages -/

theorem MsgMetaFilter.get?_add (metaFilter : MsgMetaFilter) (msgMeta : RsGxsMsgMetaData)
    (msgId : RsGxsMessageId) :
  (metaFilter.add msgMeta).get? msgId =
    if msgId = msgMeta.mMsgId ∧ metaFilter.get? msgId = none then some msgMeta
    else metaFilter.get? msgId
  := by
  rw [add]
  split
  case isTrue hsome =>
    split
    case isTrue hnone =>
      obtain ⟨rfl, hnone⟩ := hnone
      rw [hnone] at hsome
      cases hsome
    case isFalse => rfl
  case isFalse hnone =>
    rw [Option.not_isSome_iff_eq_none] at hnone
    rw [OrdMap.get?_insert]
    by_cases heq : msgId = msgMeta.mMsgId
    · subst heq
      simp [hnone]
    · simp [heq]

/-- The filter has metadata of the messages that it was given. -/
def MsgMetaFilter.Covers (metaFilter : MsgMetaFilter) (metaV : List RsGxsMsgMetaData)
    (msgIds : List RsGxsMessageId) : Prop :=
  (∀ msgId m, metaFilter.get? msgId = some m → m ∈ metaV ∧ m.mMsgId = msgId) ∧
    ∀ msgId ∈ msgIds, (metaFilter.get? msgId).isSome

theorem MsgMetaFilter.covers_empty :
  MsgMetaFilter.Covers OrdMap.empty [] []
  := by
  constructor
  · intro msgId m hm
    cases hm
  · intro msgId hmem
    cases hmem

variable {metaV : List RsGxsMsgMetaData} {x : RsGxsMsgMetaData} (opts : RsTokReqOptions)
  {msgIds : List RsGxsMessageId} {metaFilter : MsgMetaFilter}

theorem MsgMetaFilter.Covers.add (h : metaFilter.Covers metaV msgIds) (msgMeta : RsGxsMsgMetaData)
    {msgIds' : List RsGxsMessageId}
    (hsub : ∀ msgId ∈ msgIds', msgId = msgMeta.mMsgId ∨ msgId ∈ msgIds) :
  (metaFilter.add msgMeta).Covers (metaV ++ [msgMeta]) msgIds'
  := by
  constructor
  · intro msgId m hm
    rw [get?_add] at hm
    split at hm
    case isTrue heq =>
      obtain rfl := Option.some.inj hm
      exact ⟨List.mem_append_right _ List.mem_cons_self, heq.1.symm⟩
    case isFalse =>
      obtain ⟨hmem, hid⟩ := h.1 msgId m hm
      exact ⟨List.mem_append_left _ hmem, hid⟩
  · intro msgId hmem
    rw [get?_add]
    split
    case isTrue => rfl
    case isFalse hne =>
      rcases hsub msgId hmem with rfl | hold
      · rw [Option.isSome_iff_ne_none]
        exact fun hnone => hne ⟨rfl, hnone⟩
      · exact h.2 msgId hold

theorem MsgMetaFilter.Covers.mono {metaV' : List RsGxsMsgMetaData}
    (h : metaFilter.Covers metaV msgIds) (hsub : metaV ⊆ metaV') :
  metaFilter.Covers metaV' msgIds
  := ⟨fun msgId m hm => (h.1 msgId m hm).imp_left (hsub ·), h.2⟩

theorem not_isLatest_nil (x : RsGxsMsgMetaData) :
  ¬ IsLatest [] x
  := by
  rintro ⟨before, after, heq, -⟩
  simp at heq

theorem isLatest_concat {m : RsGxsMsgMetaData} :
  IsLatest (metaV ++ [m]) x ↔
    x = m ∧ (∀ y ∈ metaV, y.mOrigMsgId = m.mOrigMsgId → y.mPublishTs < m.mPublishTs) ∨
    IsLatest metaV x ∧ (m.mOrigMsgId = x.mOrigMsgId → m.mPublishTs ≤ x.mPublishTs)
  := by
  constructor
  · rintro ⟨before, after, heq, hbefore, hafter⟩
    rcases List.eq_nil_or_concat after with rfl | ⟨after, last, rfl⟩
    · obtain ⟨rfl, hlast⟩ := List.append_inj' heq rfl
      obtain rfl := List.singleton_inj.mp hlast
      exact .inl ⟨rfl, hbefore⟩
    · rw [List.concat_eq_append, ← List.cons_append, ← List.append_assoc] at heq
      obtain ⟨rfl, hlast⟩ := List.append_inj' heq rfl
      obtain rfl := List.singleton_inj.mp hlast
      refine .inr ⟨⟨before, after, rfl, hbefore, ?_⟩, ?_⟩
      · intro y hy
        exact hafter y (by simp [hy])
      · exact hafter m (by simp)
  · rintro (⟨rfl, hlater⟩ | ⟨⟨before, after, rfl, hbefore, hafter⟩, hle⟩)
    · exact ⟨metaV, [], rfl, hlater, by simp⟩
    · refine ⟨before, after ++ [m], by simp, hbefore, ?_⟩
      intro y hy
      rcases List.mem_append.mp hy with hy | hy
      · exact hafter y hy
      · obtain rfl := List.mem_singleton.mp hy
        exact hle

theorem IsLatest.mem (h : IsLatest metaV x) :
  x ∈ metaV
  := by
  obtain ⟨before, after, rfl, -⟩ := h
  simp

theorem IsLatest.le {y : RsGxsMsgMetaData} (h : IsLatest metaV x) (hy : y ∈ metaV)
    (horig : y.mOrigMsgId = x.mOrigMsgId) :
  y.mPublishTs ≤ x.mPublishTs
  := by
  obtain ⟨before, after, rfl, hbefore, hafter⟩ := h
  rw [List.mem_append, List.mem_cons] at hy
  rcases hy with hy | rfl | hy
  · exact (hbefore y hy horig).le
  · exact le_rfl
  · exact hafter y hy horig

/-- What holds in the loop for `onlyLatestMsgs` after the messages `metaV`. -/
structure LatestSoFar (opts : RsTokReqOptions) (metaV : List RsGxsMsgMetaData)
    (r : OrdMap RsGxsMessageId (RsGxsMessageId × Int) × MsgMetaFilter) : Prop where
  latest : ∀ origMsgId msgId ts, r.1.get? origMsgId = some (msgId, ts) →
    ∃ x, IsLatest (metaV.filter fun m => !opts.skips m) x ∧
      x.mOrigMsgId = origMsgId ∧ x.mMsgId = msgId ∧ x.mPublishTs = ts
  entry : ∀ x, IsLatest (metaV.filter fun m => !opts.skips m) x →
    r.1.get? x.mOrigMsgId = some (x.mMsgId, x.mPublishTs)
  isSome : ∀ y ∈ metaV, opts.skips y = false → (r.1.get? y.mOrigMsgId).isSome
  covers : r.2.Covers metaV (r.1.toList.map fun e => e.2.1)

theorem LatestSoFar.step {opts : RsTokReqOptions}
    {r : OrdMap RsGxsMessageId (RsGxsMessageId × Int) × MsgMetaFilter}
    (h : LatestSoFar opts metaV r) (m : RsGxsMsgMetaData) :
  LatestSoFar opts (metaV ++ [m]) (latestStep opts r m)
  := by
  rw [latestStep]
  split
  case isTrue hskips =>
    have hheads : (metaV ++ [m]).filter (fun m => !opts.skips m) =
        metaV.filter fun m => !opts.skips m := by simp [hskips]
    constructor
    case latest => rw [hheads]; exact h.latest
    case entry => rw [hheads]; exact h.entry
    case isSome =>
      intro y hy hnot
      rcases List.mem_append.mp hy with hy | hy
      · exact h.isSome y hy hnot
      · obtain rfl := List.mem_singleton.mp hy
        rw [hskips] at hnot
        cases hnot
    case covers => exact h.covers.mono (List.subset_append_left _ _)
  case isFalse hskips =>
    rw [Bool.not_eq_true] at hskips
    have hheads : (metaV ++ [m]).filter (fun m => !opts.skips m) =
        (metaV.filter fun m => !opts.skips m) ++ [m] := by simp [hskips]
    -- `m` is added when it is later than all versions before it
    have hadd : ((r.1.get? m.mOrigMsgId).all fun latest => decide (latest.2 < m.mPublishTs)) = true ↔
        ∀ y ∈ metaV.filter fun m => !opts.skips m, y.mOrigMsgId = m.mOrigMsgId →
          y.mPublishTs < m.mPublishTs := by
      constructor
      · intro hall y hy horig
        have hsome := h.isSome y (List.mem_filter.mp hy).1 (by simpa using (List.mem_filter.mp hy).2)
        rw [horig] at hsome
        obtain ⟨⟨msgId, ts⟩, hget⟩ := Option.isSome_iff_exists.mp hsome
        obtain ⟨x, hx, hxorig, -, rfl⟩ := h.latest _ _ _ hget
        rw [hget] at hall
        have hlt : x.mPublishTs < m.mPublishTs := by simpa using hall
        exact (hx.le hy (horig.trans hxorig.symm)).trans_lt hlt
      · intro hall
        cases hget : r.1.get? m.mOrigMsgId with
        | none => rfl
        | some e =>
          obtain ⟨x, hx, hxorig, -, hts⟩ := h.latest _ e.1 e.2 hget
          simpa [← hts] using hall x hx.mem hxorig
    dsimp only
    split
    case isTrue hlater =>
      rw [hadd] at hlater
      constructor
      case latest =>
        intro origMsgId msgId ts hget
        rw [OrdMap.get?_insert] at hget
        split at hget
        case isTrue heq =>
          obtain ⟨rfl, rfl⟩ := Prod.mk.inj (Option.some.inj hget)
          refine ⟨m, ?_, heq.symm, rfl, rfl⟩
          rw [hheads, isLatest_concat]
          exact .inl ⟨rfl, hlater⟩
        case isFalse hne =>
          obtain ⟨x, hx, hxorig, hid, hts⟩ := h.latest _ _ _ hget
          refine ⟨x, ?_, hxorig, hid, hts⟩
          rw [hheads, isLatest_concat]
          exact .inr ⟨hx, fun heq => absurd (hxorig.symm.trans heq.symm) hne⟩
      case entry =>
        intro x hx
        rw [hheads, isLatest_concat] at hx
        rw [OrdMap.get?_insert]
        rcases hx with ⟨rfl, -⟩ | ⟨hx, hle⟩
        · rw [if_pos rfl]
        · rw [if_neg, h.entry x hx]
          intro heq
          exact absurd (hle heq.symm) (hlater x hx.mem heq).not_ge
      case isSome =>
        intro y hy hnot
        rw [OrdMap.get?_insert]
        split
        case isTrue => rfl
        case isFalse hne =>
          rcases List.mem_append.mp hy with hy | hy
          · exact h.isSome y hy hnot
          · obtain rfl := List.mem_singleton.mp hy
            exact absurd rfl hne
      case covers =>
        apply h.covers.add
        intro msgId hmem
        obtain ⟨⟨o, id, ts⟩, he, rfl⟩ := List.mem_map.mp hmem
        rw [OrdMap.mem_toList, OrdMap.get?_insert] at he
        split at he
        case isTrue =>
          obtain ⟨rfl, -⟩ := Prod.mk.inj (Option.some.inj he)
          exact .inl rfl
        case isFalse =>
          exact .inr (List.mem_map.mpr ⟨(o, id, ts), OrdMap.mem_toList.mpr he, rfl⟩)
    case isFalse hlater =>
      rw [hadd] at hlater
      have hle : ∀ x, IsLatest (metaV.filter fun m => !opts.skips m) x →
          m.mOrigMsgId = x.mOrigMsgId → m.mPublishTs ≤ x.mPublishTs := by
        intro x hx horig
        by_contra hlt
        apply hlater
        intro y hy hyorig
        exact (hx.le hy (hyorig.trans horig)).trans_lt (not_le.mp hlt)
      constructor
      case latest =>
        intro origMsgId msgId ts hget
        obtain ⟨x, hx, hrest⟩ := h.latest _ _ _ hget
        refine ⟨x, ?_, hrest⟩
        rw [hheads, isLatest_concat]
        exact .inr ⟨hx, hle x hx⟩
      case entry =>
        intro x hx
        rw [hheads, isLatest_concat] at hx
        rcases hx with ⟨rfl, hall⟩ | ⟨hx, -⟩
        · exact absurd hall hlater
        · exact h.entry x hx
      case isSome =>
        intro y hy hnot
        rcases List.mem_append.mp hy with hy | hy
        · exact h.isSome y hy hnot
        · obtain rfl := List.mem_singleton.mp hy
          cases hget : r.1.get? y.mOrigMsgId with
          | none => exact absurd (hadd.mp (by rw [hget]; rfl)) hlater
          | some e => rfl
      case covers => exact h.covers.mono (List.subset_append_left _ _)

/-- The loop for `onlyLatestMsgs`. -/
theorem latestSoFar_foldl (metaV : List RsGxsMsgMetaData) :
  LatestSoFar opts metaV (metaV.foldl (latestStep opts) (OrdMap.empty, OrdMap.empty))
  := by
  induction metaV using List.reverseRecOn with
  | nil =>
    constructor
    case latest => exact fun _ _ _ h => by cases h
    case entry => exact fun x hx => absurd hx (not_isLatest_nil x)
    case isSome => exact fun y hy => by cases hy
    case covers => exact MsgMetaFilter.covers_empty
  | append_singleton metaV m ih =>
    rw [List.foldl_append]
    exact ih.step m

theorem otherStep_foldl (metaV : List RsGxsMsgMetaData) :
  (metaV.foldl (otherStep opts) ⟨[], OrdMap.empty⟩).msgIds =
      (metaV.filter fun m => !opts.skips m && (!opts.onlyOrigMsgs || m.mMsgId = m.mOrigMsgId)).map
        (·.mMsgId) ∧
    (metaV.foldl (otherStep opts) ⟨[], OrdMap.empty⟩).metaFilter.Covers metaV
      (metaV.foldl (otherStep opts) ⟨[], OrdMap.empty⟩).msgIds
  := by
  induction metaV using List.reverseRecOn with
  | nil => exact ⟨rfl, MsgMetaFilter.covers_empty⟩
  | append_singleton metaV m ih =>
    rw [List.foldl_append, List.foldl_cons, List.foldl_nil]
    generalize metaV.foldl (otherStep opts) ⟨[], OrdMap.empty⟩ = r at ih ⊢
    obtain ⟨hids, hcovers⟩ := ih
    rw [otherStep, List.filter_append, List.map_append, ← hids]
    split
    case isTrue hskips =>
      exact ⟨by simp [hskips], hcovers.mono (List.subset_append_left _ _)⟩
    case isFalse hskips =>
      rw [Bool.not_eq_true] at hskips
      split
      case isTrue horig =>
        rw [Bool.and_eq_true, decide_eq_true_iff] at horig
        exact ⟨by simp [horig], hcovers.mono (List.subset_append_left _ _)⟩
      case isFalse horig =>
        rw [Bool.and_eq_true, decide_eq_true_iff, not_and, not_not] at horig
        refine ⟨?_, hcovers.add m ?_⟩
        · cases hor : opts.onlyOrigMsgs with
          | false => simp [hskips]
          | true => simp [hskips, horig hor]
        · intro msgId hmem
          rcases List.mem_append.mp hmem with hmem | hmem
          · exact .inr hmem
          · exact .inl (List.mem_singleton.mp hmem)

/-- The messages that are selected are those that pass the options, and their metadata is kept
for the filter. -/
theorem select_spec (metaV : List RsGxsMsgMetaData) :
  (∀ msgId, msgId ∈ (select opts metaV).msgIds ↔
      ∃ x, opts.Passes metaV x ∧ x.mMsgId = msgId) ∧
    (select opts metaV).metaFilter.Covers metaV (select opts metaV).msgIds
  := by
  rw [select]
  split
  case isTrue hlatest =>
    have h := latestSoFar_foldl opts metaV
    refine ⟨?_, h.covers⟩
    intro msgId
    simp only [RsTokReqOptions.Passes, if_pos hlatest, List.mem_map]
    constructor
    · rintro ⟨⟨o, id, ts⟩, he, rfl⟩
      obtain ⟨x, hx, -, hid, -⟩ := h.latest o id ts (OrdMap.mem_toList.mp he)
      exact ⟨x, hx, hid⟩
    · rintro ⟨x, hx, rfl⟩
      exact ⟨_, OrdMap.mem_toList.mpr (h.entry x hx), rfl⟩
  case isFalse hlatest =>
    obtain ⟨hids, hcovers⟩ := otherStep_foldl opts metaV
    refine ⟨?_, hcovers⟩
    intro msgId
    simp only [RsTokReqOptions.Passes, if_neg hlatest, hids, List.mem_map, List.mem_filter,
      Bool.and_eq_true, Bool.not_eq_true', Bool.or_eq_true, decide_eq_true_eq]
    constructor
    · rintro ⟨x, ⟨hx, hskips, horig⟩, rfl⟩
      refine ⟨x, ⟨hx, hskips, ?_⟩, rfl⟩
      intro hor
      exact horig.resolve_left (by simp [hor])
    · rintro ⟨x, ⟨hx, hskips, horig⟩, rfl⟩
      refine ⟨x, ⟨hx, hskips, ?_⟩, rfl⟩
      cases hor : opts.onlyOrigMsgs with
      | false => exact .inl rfl
      | true => exact .inr (horig hor)

/-! ### Retrieval by identifiers -/

namespace RsDataService

variable {store : RsDataService} {grpId : RsGxsGroupId} {msgIdV : List RsGxsMessageId}
  {xs : List RsGxsMsgMetaData}

theorem mem_requested :
  x ∈ store.requested grpId msgIdV ↔
    (∃ row ∈ store.msgs, row.getMsgMeta = some x) ∧ x.mGroupId = grpId ∧
      (msgIdV = [] ∨ x.mMsgId ∈ msgIdV)
  := by
  have hmeta : ∀ row : MsgRow, row.getMsgMeta = some x → row.msgMeta = x := by
    intro row hrow
    rw [MsgRow.getMsgMeta] at hrow
    split at hrow
    · cases hrow
    · exact Option.some.inj hrow
  rw [requested, List.mem_filterMap, query]
  split
  case isTrue hnil =>
    subst hnil
    constructor
    · rintro ⟨row, hmem, hrow⟩
      obtain rfl := hmeta row hrow
      rw [sqlQuery, List.mem_filter] at hmem
      exact ⟨⟨row, hmem.1, hrow⟩, by simpa using hmem.2, .inl rfl⟩
    · rintro ⟨⟨row, hmem, hrow⟩, hgrp, -⟩
      obtain rfl := hmeta row hrow
      refine ⟨row, ?_, hrow⟩
      rw [sqlQuery, List.mem_filter]
      exact ⟨hmem, by simpa using hgrp⟩
  case isFalse hne =>
    constructor
    · rintro ⟨row, hmem, hrow⟩
      obtain rfl := hmeta row hrow
      obtain ⟨msgId, hid, hmem⟩ := List.mem_flatMap.mp hmem
      rw [sqlQuery, List.mem_filter] at hmem
      have hmatch : row.msgMeta.mGroupId = grpId ∧ row.msgMeta.mMsgId = msgId := by
        simpa using hmem.2
      exact ⟨⟨row, hmem.1, hrow⟩, hmatch.1, .inr (hmatch.2 ▸ hid)⟩
    · rintro ⟨⟨row, hmem, hrow⟩, hgrp, hid⟩
      obtain rfl := hmeta row hrow
      refine ⟨row, List.mem_flatMap.mpr ⟨_, hid.resolve_left hne, ?_⟩, hrow⟩
      rw [sqlQuery, List.mem_filter]
      exact ⟨hmem, by simpa using hgrp⟩

theorem sqlQuery_of_mem {row : MsgRow} (h : row ∈ store.msgs) :
  store.sqlQuery row.msgMeta.mGroupId (some row.msgMeta.mMsgId) = [row]
  := by
  have hnodup := store.nodup
  rw [sqlQuery]
  revert h hnodup
  induction store.msgs with
  | nil => exact fun h => by cases h
  | cons row' rows ih =>
    intro h hnodup
    rw [List.map_cons, List.nodup_cons] at hnodup
    rw [List.filter_cons]
    rcases List.mem_cons.mp h with rfl | h
    · have hrest : rows.filter (fun r => decide (r.msgMeta.mGroupId = row.msgMeta.mGroupId) &&
          (some row.msgMeta.mMsgId).all fun id => decide (r.msgMeta.mMsgId = id)) = [] := by
        rw [List.filter_eq_nil_iff]
        intro r hr hmatch
        have hid : r.msgMeta.mMsgId = row.msgMeta.mMsgId := by
          simpa using (Bool.and_eq_true_iff.mp hmatch).2
        exact hnodup.1 (List.mem_map.mpr ⟨r, hr, hid⟩)
      rw [hrest]
      simp
    · rw [if_neg, ih h hnodup.2]
      intro hmatch
      have hid : row'.msgMeta.mMsgId = row.msgMeta.mMsgId := by
        simpa using (Bool.and_eq_true_iff.mp hmatch).2
      exact hnodup.1 (List.mem_map.mpr ⟨row, h, hid.symm⟩)

theorem exists_row (hx : x ∈ store.requested grpId msgIdV) :
  ∃ row, store.sqlQuery grpId (some x.mMsgId) = [row] ∧ row.msgMeta = x ∧
    row.getMsgMeta = some x
  := by
  obtain ⟨⟨row, hmem, hrow⟩, rfl, -⟩ := mem_requested.mp hx
  have hmeta : row.msgMeta = x := by
    rw [MsgRow.getMsgMeta] at hrow
    split at hrow
    · cases hrow
    · exact Option.some.inj hrow
  refine ⟨row, ?_, hmeta, hrow⟩
  rw [← hmeta]
  exact sqlQuery_of_mem hmem

theorem requested_map (hxs : ∀ x ∈ xs, x ∈ store.requested grpId msgIdV) (hne : xs ≠ []) :
  store.requested grpId (xs.map (·.mMsgId)) = xs
  := by
  rw [requested, query, if_neg (by simpa using hne)]
  clear hne
  induction xs with
  | nil => rfl
  | cons x xs ih =>
    obtain ⟨row, hquery, -, hrow⟩ := exists_row (hxs x List.mem_cons_self)
    rw [List.map_cons, List.flatMap_cons, hquery, List.filterMap_append,
      ih fun y hy => hxs y (List.mem_cons_of_mem x hy)]
    simp [hrow]

/-- The data of a message can be read. -/
def readable (store : RsDataService) (grpId : RsGxsGroupId) (msgId : RsGxsMessageId) : Bool :=
  (store.sqlQuery grpId (some msgId)).any fun row => row.msg.isSome

/-- Retrieving the data of messages that exist by their identifiers finds those that can be
read. -/
theorem getMessage_map (hxs : ∀ x ∈ xs, x ∈ store.requested grpId msgIdV) (hne : xs ≠ []) :
  ((store.query grpId (xs.map (·.mMsgId))).filterMap MsgRow.getMessage).map (·.msgId) =
    (xs.map (·.mMsgId)).filter (store.readable grpId)
  := by
  rw [query, if_neg (by simpa using hne)]
  clear hne
  induction xs with
  | nil => rfl
  | cons x xs ih =>
    obtain ⟨row, hquery, hmeta, hrow⟩ := exists_row (hxs x List.mem_cons_self)
    rw [List.map_cons, List.flatMap_cons, hquery, List.filterMap_append, List.map_append,
      ih fun y hy => hxs y (List.mem_cons_of_mem x hy), List.filter_cons]
    have hnull : ¬ (row.msgMeta.mGroupId = 0 ∨ row.msgMeta.mMsgId = 0) := by
      intro hnull
      rw [MsgRow.getMsgMeta, if_pos hnull] at hrow
      cases hrow
    have hread : store.readable grpId x.mMsgId = row.msg.isSome := by
      rw [readable, hquery, List.any_cons, List.any_nil, Bool.or_false]
    have hmessage : row.getMessage =
        row.msg.map (⟨row.msgMeta.mGroupId, row.msgMeta.mMsgId, ·, none⟩) := by
      rw [MsgRow.getMessage, if_neg hnull]
    rw [hread]
    cases hmsg : row.msg with
    | none => simp [hmessage, hmsg]
    | some msg => simp [hmessage, hmsg, hmeta]

theorem map_attachMeta :
  ∀ (msgV : List RsNxsMsg) (msgMetaV : List RsGxsMsgMetaData),
    (attachMeta msgV msgMetaV).map (·.msgId) = msgV.map (·.msgId)
  | [], _ => rfl
  | msg :: msgV, msgMetaV => by
      rw [attachMeta, List.map_cons, List.map_cons, map_attachMeta msgV]

/-! ### The three kinds of requests -/

variable (store) (req : GxsMsgReq) (opts : RsTokReqOptions)

/-- The identifiers that a request for identifiers returns for a group. -/
def idsOf (grpId : RsGxsGroupId) : List RsGxsMessageId :=
  ((store.getMsgIds req opts).get? grpId).getD []

/-- The identifiers of the metadata that a request for metadata returns for a group. -/
def summaryIdsOf (grpId : RsGxsGroupId) : List RsGxsMessageId :=
  (((store.getMsgSummary req opts).get? grpId).getD []).map (·.mMsgId)

/-- The identifiers of the messages that a request for data returns for a group. -/
def dataIdsOf (grpId : RsGxsGroupId) : List RsGxsMessageId :=
  (((store.getMsgData req opts).get? grpId).getD []).map (·.msgId)

/-- The three kinds of requests return the same messages: the ones that are requested, exist, and
pass the options and the masks. -/
def Agree : Prop :=
  ∀ grpId, store.summaryIdsOf req opts grpId = store.idsOf req opts grpId ∧
    store.dataIdsOf req opts grpId = store.idsOf req opts grpId ∧
    ∀ msgId, msgId ∈ store.idsOf req opts grpId ↔
      ∃ msgIdV, req.get? grpId = some msgIdV ∧
        ∃ x, opts.Passes (store.requested grpId msgIdV) x ∧ opts.checkMsgFilter x = true ∧
          x.mMsgId = msgId

/-- The masks match a message of every group of which messages pass the options, and the data
of the messages that they match can be read. -/
def Matches : Prop :=
  ∀ grpId msgIdV, req.get? grpId = some msgIdV →
    ((∃ x, opts.Passes (store.requested grpId msgIdV) x) →
      ∃ x, opts.Passes (store.requested grpId msgIdV) x ∧ opts.checkMsgFilter x = true) ∧
    ∀ x, opts.Passes (store.requested grpId msgIdV) x → opts.checkMsgFilter x = true →
      store.readable grpId x.mMsgId = true

end RsDataService

theorem RsTokReqOptions.Passes.mem {opts : RsTokReqOptions} (h : opts.Passes metaV x) :
  x ∈ metaV
  := by
  rw [Passes] at h
  split at h
  · exact (List.mem_filter.mp h.mem).1
  · exact h.1

namespace RsDataService

variable {store : RsDataService} {grpId : RsGxsGroupId} {req : GxsMsgReq}
  {opts : RsTokReqOptions} {msgIdV : List RsGxsMessageId}

/-- The messages of a group are known by their identifiers. -/
theorem requested_unique {y : RsGxsMsgMetaData} (hx : x ∈ store.requested grpId msgIdV)
    (hy : y ∈ store.requested grpId msgIdV) (hid : x.mMsgId = y.mMsgId) :
  x = y
  := by
  obtain ⟨row, hquery, hmeta, -⟩ := exists_row hx
  obtain ⟨row', hquery', hmeta', -⟩ := exists_row hy
  rw [hid, hquery'] at hquery
  obtain rfl := List.singleton_inj.mp hquery
  exact hmeta.symm.trans hmeta'

/-- The messages of a group that are selected and match the masks. -/
theorem mem_filterMsgList {msgId : RsGxsMessageId} :
  msgId ∈ (select opts (store.requested grpId msgIdV)).filterMsgList opts ↔
    ∃ x, opts.Passes (store.requested grpId msgIdV) x ∧ opts.checkMsgFilter x = true ∧
      x.mMsgId = msgId
  := by
  obtain ⟨hids, hcovers⟩ := select_spec opts (store.requested grpId msgIdV)
  rw [Selection.filterMsgList, List.mem_filter, hids]
  constructor
  · rintro ⟨⟨x, hx, rfl⟩, hany⟩
    cases hm : (select opts (store.requested grpId msgIdV)).metaFilter.get? x.mMsgId with
    | none =>
      rw [hm] at hany
      cases hany
    | some m =>
      rw [hm, Option.any_some] at hany
      obtain ⟨hmem, hid⟩ := hcovers.1 _ m hm
      obtain rfl := requested_unique hmem hx.mem hid
      exact ⟨m, hx, hany, rfl⟩
  · rintro ⟨x, hx, hcheck, rfl⟩
    refine ⟨⟨x, hx, rfl⟩, ?_⟩
    obtain ⟨m, hm⟩ := Option.isSome_iff_exists.mp (hcovers.2 _ ((hids _).mpr ⟨x, hx, rfl⟩))
    obtain ⟨hmem, hid⟩ := hcovers.1 _ m hm
    obtain rfl := requested_unique hmem hx.mem hid
    rw [hm, Option.any_some]
    exact hcheck

/-- What a request selects of a group. -/
theorem get?_getMsgList :
  (store.getMsgList req opts).get? grpId = (req.get? grpId).bind fun msgIdV =>
    if (select opts (store.requested grpId msgIdV)).msgIds = [] then none
    else some ((select opts (store.requested grpId msgIdV)).filterMsgList opts)
  := by
  rw [getMsgList, OrdMap.get?_map, OrdMap.get?_filter, OrdMap.get?_map, retrieveGxsMsgMetaData,
    OrdMap.get?_map]
  cases req.get? grpId with
  | none => rfl
  | some msgIdV =>
    rw [Option.map_some, Option.map_some, ← requested, Option.bind_some]
    split
    case isTrue hnil => simp [hnil]
    case isFalse hne => simp [hne]

end RsDataService

theorem select_nil :
  select opts [] = ⟨[], OrdMap.empty⟩
  := by
  rw [select]
  split <;> rfl

namespace RsDataService

variable {store : RsDataService} {grpId : RsGxsGroupId} {req : GxsMsgReq}
  {opts : RsTokReqOptions} {msgIdV : List RsGxsMessageId}

/-- A request for identifiers selects the same as the other requests, although it retrieves the
metadata twice. -/
theorem get?_getMsgIds :
  (store.getMsgIds req opts).get? grpId = (store.getMsgList req opts).get? grpId
  := by
  rw [getMsgIds, get?_getMsgList, get?_getMsgList, OrdMap.get?_filter, OrdMap.get?_map,
    retrieveGxsMsgMetaData, OrdMap.get?_map]
  cases req.get? grpId with
  | none => rfl
  | some msgIdV =>
    rw [Option.map_some, Option.map_some, ← requested, Option.bind_some]
    cases hreq : store.requested grpId msgIdV with
    | nil => simp [select_nil]
    | cons x xs =>
      have hagain : store.requested grpId ((x :: xs).map (·.mMsgId)) = x :: xs := by
        rw [← hreq]
        exact requested_map (fun _ h => h) (by simp [hreq])
      rw [Option.filter_some, if_pos (by simp), Option.bind_some, hagain]

/-! #### What is retrieved by the identifiers that are selected -/

/-- The identifiers that are selected belong to messages that are requested. -/
theorem exists_filterMsgList_eq_map :
  ∃ xs : List RsGxsMsgMetaData, (∀ x ∈ xs, x ∈ store.requested grpId msgIdV) ∧
    (select opts (store.requested grpId msgIdV)).filterMsgList opts = xs.map (·.mMsgId)
  := by
  have hmem : ∀ msgId ∈ (select opts (store.requested grpId msgIdV)).filterMsgList opts,
      ∃ x ∈ store.requested grpId msgIdV, x.mMsgId = msgId := by
    intro msgId h
    obtain ⟨x, hx, -, hid⟩ := mem_filterMsgList.mp h
    exact ⟨x, hx.mem, hid⟩
  revert hmem
  induction (select opts (store.requested grpId msgIdV)).filterMsgList opts with
  | nil => exact fun _ => ⟨[], by simp, rfl⟩
  | cons msgId msgIds ih =>
    intro hmem
    obtain ⟨x, hx, rfl⟩ := hmem msgId List.mem_cons_self
    obtain ⟨xs, hxs, rfl⟩ := ih fun id hid => hmem id (List.mem_cons_of_mem _ hid)
    refine ⟨x :: xs, ?_, rfl⟩
    intro y hy
    rcases List.mem_cons.mp hy with rfl | hy
    · exact hx
    · exact hxs y hy

theorem idsOf_of_not_selected
    (h : ∀ msgIdV, req.get? grpId = some msgIdV →
      (select opts (store.requested grpId msgIdV)).msgIds = []) :
  store.idsOf req opts grpId = [] ∧ store.summaryIdsOf req opts grpId = [] ∧
    store.dataIdsOf req opts grpId = []
  := by
  have hnone : (store.getMsgList req opts).get? grpId = none := by
    rw [get?_getMsgList]
    cases hreq : req.get? grpId with
    | none => rfl
    | some msgIdV => rw [Option.bind_some, if_pos (h msgIdV hreq)]
  refine ⟨?_, ?_, ?_⟩
  · rw [idsOf, get?_getMsgIds, hnone]
    rfl
  · rw [summaryIdsOf, getMsgSummary, retrieveGxsMsgMetaData, OrdMap.get?_map, hnone]
    rfl
  · rw [dataIdsOf, getMsgData, retrieveNxsMsgs, if_pos rfl, OrdMap.get?_map, OrdMap.get?_map, hnone]
    rfl

theorem idsOf_of_selected (hreq : req.get? grpId = some msgIdV)
    (hsel : (select opts (store.requested grpId msgIdV)).msgIds ≠ []) :
  let msgIds := (select opts (store.requested grpId msgIdV)).filterMsgList opts
  store.idsOf req opts grpId = msgIds ∧
    store.summaryIdsOf req opts grpId = (store.requested grpId msgIds).map (·.mMsgId) ∧
    store.dataIdsOf req opts grpId =
      ((store.query grpId msgIds).filterMap MsgRow.getMessage).map (·.msgId)
  := by
  intro msgIds
  have hsome : (store.getMsgList req opts).get? grpId = some msgIds := by
    rw [get?_getMsgList, hreq, Option.bind_some, if_neg hsel]
  refine ⟨?_, ?_, ?_⟩
  · rw [idsOf, get?_getMsgIds, hsome]
    rfl
  · rw [summaryIdsOf, getMsgSummary, retrieveGxsMsgMetaData, OrdMap.get?_map, hsome]
    rfl
  · rw [dataIdsOf, getMsgData, retrieveNxsMsgs, if_pos rfl, OrdMap.get?_map, OrdMap.get?_map, hsome,
      Option.map_some, Option.map_some, Option.getD_some, map_attachMeta]

/-- When some of the selected messages match the masks, the other requests return these. -/
theorem retrieved_filterMsgList
    (hne : (select opts (store.requested grpId msgIdV)).filterMsgList opts ≠ []) :
  let msgIds := (select opts (store.requested grpId msgIdV)).filterMsgList opts
  (store.requested grpId msgIds).map (·.mMsgId) = msgIds ∧
    ((store.query grpId msgIds).filterMap MsgRow.getMessage).map (·.msgId) =
      msgIds.filter (store.readable grpId)
  := by
  intro msgIds
  obtain ⟨xs, hxs, heq⟩ : ∃ xs : List RsGxsMsgMetaData,
      (∀ x ∈ xs, x ∈ store.requested grpId msgIdV) ∧ msgIds = xs.map (·.mMsgId) :=
    exists_filterMsgList_eq_map
  have hnil : xs ≠ [] := by
    rintro rfl
    exact hne heq
  rw [heq, getMessage_map hxs hnil, requested_map hxs hnil]
  exact ⟨rfl, rfl⟩

/-- A list of identifiers that has become empty stands for all messages of the group. -/
theorem requested_nil_ne_nil
    (hsel : (select opts (store.requested grpId msgIdV)).msgIds ≠ []) :
  store.requested grpId [] ≠ []
  := by
  obtain ⟨msgId, hmem⟩ := List.exists_mem_of_ne_nil _ hsel
  obtain ⟨x, hx, -⟩ := ((select_spec opts _).1 msgId).mp hmem
  obtain ⟨hrow, hgrp, -⟩ := mem_requested.mp hx.mem
  exact List.ne_nil_of_mem (mem_requested.mpr ⟨hrow, hgrp, .inl rfl⟩)

theorem select_ne_nil_iff :
  (select opts metaV).msgIds ≠ [] ↔ ∃ x, opts.Passes metaV x
  := by
  constructor
  · intro hsel
    obtain ⟨msgId, hmem⟩ := List.exists_mem_of_ne_nil _ hsel
    obtain ⟨x, hx, -⟩ := ((select_spec opts metaV).1 msgId).mp hmem
    exact ⟨x, hx⟩
  · rintro ⟨x, hx⟩
    exact List.ne_nil_of_mem (((select_spec opts metaV).1 _).mpr ⟨x, hx, rfl⟩)

/-- The requests by identifiers, by metadata and by data agree exactly when the masks do not
leave a group without messages, and the data of the messages can be read. -/
theorem agree_iff :
  store.Agree req opts ↔ store.Matches req opts
  := by
  constructor
  · intro hagree grpId msgIdV hreq
    obtain ⟨hsummary, hdata, -⟩ := hagree grpId
    have hmatches : (∃ x, opts.Passes (store.requested grpId msgIdV) x) →
        (select opts (store.requested grpId msgIdV)).filterMsgList opts ≠ [] := by
      intro hpasses hnil
      have hsel := select_ne_nil_iff.mpr hpasses
      obtain ⟨hids, hsum, -⟩ := idsOf_of_selected hreq hsel
      rw [hsum, hids, hnil, List.map_eq_nil_iff] at hsummary
      exact requested_nil_ne_nil hsel hsummary
    constructor
    · intro hpasses
      obtain ⟨msgId, hmem⟩ := List.exists_mem_of_ne_nil _ (hmatches hpasses)
      obtain ⟨x, hx, hcheck, -⟩ := mem_filterMsgList.mp hmem
      exact ⟨x, hx, hcheck⟩
    · intro x hx hcheck
      have hne := hmatches ⟨x, hx⟩
      obtain ⟨hids, -, hdat⟩ := idsOf_of_selected hreq (select_ne_nil_iff.mpr ⟨x, hx⟩)
      rw [hids, hdat, (retrieved_filterMsgList hne).2, List.filter_eq_self] at hdata
      exact hdata _ (mem_filterMsgList.mpr ⟨x, hx, hcheck, rfl⟩)
  · intro hmatches grpId
    by_cases hsel : ∃ msgIdV, req.get? grpId = some msgIdV ∧
        (select opts (store.requested grpId msgIdV)).msgIds ≠ []
    case pos =>
      obtain ⟨msgIdV, hreq, hsel⟩ := hsel
      obtain ⟨hmatch, hread⟩ := hmatches grpId msgIdV hreq
      obtain ⟨x, hx, hcheck⟩ := hmatch (select_ne_nil_iff.mp hsel)
      have hne := List.ne_nil_of_mem
        (mem_filterMsgList.mpr ⟨x, hx, hcheck, rfl⟩)
      obtain ⟨hids, hsum, hdat⟩ := idsOf_of_selected hreq hsel
      obtain ⟨hsame, hreadable⟩ := retrieved_filterMsgList hne
      refine ⟨by rw [hsum, hids, hsame], ?_, ?_⟩
      · rw [hdat, hids, hreadable, List.filter_eq_self]
        intro msgId hmem
        obtain ⟨y, hy, hcheck, rfl⟩ := mem_filterMsgList.mp hmem
        exact hread y hy hcheck
      · intro msgId
        rw [hids, mem_filterMsgList, hreq]
        simp
    case neg =>
      have hnot : ∀ msgIdV, req.get? grpId = some msgIdV →
          (select opts (store.requested grpId msgIdV)).msgIds = [] := by
        intro msgIdV hreq
        by_contra hne
        exact hsel ⟨msgIdV, hreq, hne⟩
      obtain ⟨hids, hsum, hdat⟩ := idsOf_of_not_selected hnot
      refine ⟨by rw [hsum, hids], by rw [hdat, hids], ?_⟩
      intro msgId
      rw [hids]
      constructor
      · exact fun h => by cases h
      · rintro ⟨msgIdV, hreq, x, hx, -⟩
        exact absurd (hnot msgIdV hreq) (select_ne_nil_iff.mpr ⟨x, hx⟩)

end RsDataService

/-- A store with one group and one message, which is unread. -/
def oneMessage : RsDataService where
  grps := OrdMap.empty
  msgs := [⟨⟨1, 1, 0, 0, 1, 1, 100, 0, 1⟩, some [1, 2, 3]⟩]
  nodup := by decide

/-- When the only message of a group does not match the mask, no identifiers are returned, and
yet the metadata of the message is. -/
theorem not_agree_oneMessage :
  ¬ ∀ (store : RsDataService) (req : GxsMsgReq) (opts : RsTokReqOptions), store.Agree req opts
  := by
  intro h
  have hagree := (h oneMessage (OrdMap.empty.insert 1 []) ⟨0, 0, 1, 0, 0⟩ 1).1
  revert hagree
  decide

end Gxs
