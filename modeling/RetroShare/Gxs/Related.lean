import Mathlib.Data.Prod.Lex
import RetroShare.Gxs.DataAccess

/-!
# Requests for related messages

`getMsgRelatedInfo` looks for messages that are related to some given ones: the versions of a
message, the latest of them, or the latest versions of the messages below it.  It goes through the
metadata of the whole group of each message, and keeps the identifiers that the masks match.

All versions and the latest versions below a message are found.  The latest version of a message
alone is only found when one of its versions has a positive time stamp: the search starts at zero,
and the variable with the metadata is not initialised (`relatedRight_iff`).
-/

namespace Gxs

/-- `RsGxsGrpMsgIdPair`. -/
abbrev RsGxsGrpMsgIdPair := RsGxsGroupId ×ₗ RsGxsMessageId

/-- `RS_TOKREQOPT_MSG_VERSIONS`. -/
def tokreqoptMsgVersions : UInt32 := 0x0001

/-- `RS_TOKREQOPT_MSG_PARENT`. -/
def tokreqoptMsgParent : UInt32 := 0x0020

/-! ### Requests -/

/-- The types of requests for related messages. -/
inductive RelatedType where
  | msgRelatedIds
  | msgRelatedMeta
  | msgRelatedData

/-- `MsgRelatedInfoReq`. -/
structure MsgRelatedInfoReq where
  options : RsTokReqOptions
  mReqType : RelatedType
  mMsgIds : List RsGxsGrpMsgIdPair
  mMsgIdResult : OrdMap RsGxsGrpMsgIdPair (List RsGxsMessageId)
  mMsgMetaResult : OrdMap RsGxsGrpMsgIdPair (List RsGxsMsgMetaData)
  mMsgDataResult : OrdMap RsGxsGrpMsgIdPair (List RsNxsMsg)

/-- A request, as `requestMsgRelatedInfo` stores it. -/
def MsgRelatedInfoReq.new (options : RsTokReqOptions) (mReqType : RelatedType)
    (mMsgIds : List RsGxsGrpMsgIdPair) : MsgRelatedInfoReq :=
  ⟨options, mReqType, mMsgIds, OrdMap.empty, OrdMap.empty, OrdMap.empty⟩

/-- The flags that `getMsgRelatedInfo` sets by the options. -/
structure RelatedFlags where
  onlyLatestMsgs : Bool
  onlyAllVersions : Bool
  onlyChildMsgs : Bool
  onlyThreadMsgs : Bool
  deriving DecidableEq

/-- The flags of the options: the latest versions come before all versions. -/
def RsTokReqOptions.relatedFlags (opts : RsTokReqOptions) : RelatedFlags where
  onlyLatestMsgs := opts.mOptions &&& tokreqoptMsgLatest ≠ 0
  onlyAllVersions :=
    opts.mOptions &&& tokreqoptMsgLatest = 0 && opts.mOptions &&& tokreqoptMsgVersions ≠ 0
  onlyChildMsgs := opts.mOptions &&& tokreqoptMsgParent ≠ 0
  onlyThreadMsgs := opts.mOptions &&& tokreqoptMsgThread ≠ 0

namespace RelatedFlags

variable (flags : RelatedFlags)

/-- The flags exclude each other. -/
def isIncompatible : Bool :=
  flags.onlyAllVersions && flags.onlyChildMsgs || flags.onlyAllVersions && flags.onlyThreadMsgs ||
    !flags.onlyLatestMsgs && flags.onlyChildMsgs || !flags.onlyLatestMsgs && flags.onlyThreadMsgs ||
    flags.onlyChildMsgs && flags.onlyThreadMsgs

/-- No flag is set. -/
def isFallback : Bool :=
  !flags.onlyLatestMsgs && !flags.onlyAllVersions && !flags.onlyChildMsgs && !flags.onlyThreadMsgs

/-! ### The search in a group -/

/-- The message is neither a child of the message nor one of its thread. -/
def skips (origMeta msgMeta : RsGxsMsgMetaData) : Bool :=
  if flags.onlyChildMsgs then msgMeta.mParentId ≠ origMeta.mOrigMsgId
  else msgMeta.mThreadId ≠ origMeta.mMsgId

/-- The body of the loop for the latest versions below a message, with `origMsgTs`. -/
def belowStep (origMeta : RsGxsMsgMetaData)
    (r : OrdMap RsGxsMessageId (RsGxsMessageId × Int) × MsgMetaFilter)
    (msgMeta : RsGxsMsgMetaData) :
    OrdMap RsGxsMessageId (RsGxsMessageId × Int) × MsgMetaFilter :=
  if flags.skips origMeta msgMeta then
    r
  else
    let addMsg := (r.1.get? msgMeta.mOrigMsgId).all fun latest => latest.2 < msgMeta.mPublishTs
    if addMsg then
      (r.1.insert msgMeta.mOrigMsgId (msgMeta.mMsgId, msgMeta.mPublishTs), r.2.add msgMeta)
    else
      r

end RelatedFlags

/-- The variables of the loop for the latest version of a message; the metadata is not
initialised. -/
structure LatestMsg where
  latestTs : Int
  latestMsgId : RsGxsMessageId
  latestMeta : Option RsGxsMsgMetaData

/-- The body of the loop for the latest version of a message. -/
def newestStep (origMsgId : RsGxsMessageId) (r : LatestMsg) (msgMeta : RsGxsMsgMetaData) :
    LatestMsg :=
  if msgMeta.mOrigMsgId = origMsgId then
    if r.latestTs < msgMeta.mPublishTs then ⟨msgMeta.mPublishTs, msgMeta.mMsgId, some msgMeta⟩
    else r
  else r

/-- The body of the loop for all versions of a message. -/
def versionsStep (origMsgId : RsGxsMessageId) (r : Selection) (msgMeta : RsGxsMsgMetaData) :
    Selection :=
  if msgMeta.mOrigMsgId = origMsgId then ⟨r.msgIds ++ [msgMeta.mMsgId], r.metaFilter.add msgMeta⟩
  else r

/-- The messages of a group that are related to one of them.  There is no result when a variable is
read that is not initialised. -/
def RelatedFlags.select (flags : RelatedFlags) (metaV : List RsGxsMsgMetaData)
    (origMeta : RsGxsMsgMetaData) : Option Selection :=
  if flags.onlyLatestMsgs then
    if flags.onlyChildMsgs || flags.onlyThreadMsgs then
      let r := metaV.foldl (flags.belowStep origMeta) (OrdMap.empty, OrdMap.empty)
      some ⟨r.1.toList.map fun e => e.2.1, r.2⟩
    else
      let r := metaV.foldl (newestStep origMeta.mOrigMsgId) ⟨0, 0, none⟩
      r.latestMeta.map fun latestMeta =>
        ⟨[r.latestMsgId], OrdMap.empty.insert r.latestMsgId latestMeta⟩
  else if flags.onlyAllVersions then
    some (metaV.foldl (versionsStep origMeta.mOrigMsgId) ⟨[], OrdMap.empty⟩)
  else
    some ⟨[], OrdMap.empty⟩

/-! ### Answers -/

/-- The answer to a request for one message. -/
def MsgRelatedInfoReq.answer (req : MsgRelatedInfoReq) (store : RsDataService)
    (grpMsgIdPair : RsGxsGrpMsgIdPair) (msgIds : List RsGxsMessageId) : MsgRelatedInfoReq :=
  let grpId := (ofLex grpMsgIdPair).1
  let filteredOutMsgIds : GxsMsgReq := OrdMap.empty.insert grpId msgIds
  match req.mReqType with
  | .msgRelatedIds =>
      { req with mMsgIdResult := req.mMsgIdResult.insert grpMsgIdPair msgIds }
  | .msgRelatedMeta =>
      let metaResult := store.retrieveGxsMsgMetaData filteredOutMsgIds
      { req with
        mMsgMetaResult :=
          req.mMsgMetaResult.insert grpMsgIdPair ((metaResult.get? grpId).getD []) }
  | .msgRelatedData =>
      let msgResult := store.retrieveNxsMsgs filteredOutMsgIds true
      { req with
        mMsgDataResult := req.mMsgDataResult.insert grpMsgIdPair ((msgResult.get? grpId).getD []) }

namespace RsDataService

variable (store : RsDataService)

/-- The related messages of one message that match the masks, if the message exists. -/
def related (opts : RsTokReqOptions) (grpMsgIdPair : RsGxsGrpMsgIdPair) :
    Option (Option (List RsGxsMessageId)) :=
  let grpId := (ofLex grpMsgIdPair).1
  let result := store.retrieveGxsMsgMetaData (OrdMap.empty.insert grpId [])
  let metaV := (result.get? grpId).getD []
  match metaV.find? fun msgMeta => msgMeta.mMsgId = (ofLex grpMsgIdPair).2 with
  | none => some none
  | some origMeta =>
      (opts.relatedFlags.select metaV origMeta).map fun r => some (r.filterMsgList opts)

/-- The loop of `getMsgRelatedInfo` over the messages that are requested. -/
def relatedLoop (req : MsgRelatedInfoReq) :
    List RsGxsGrpMsgIdPair → Option (Bool × MsgRelatedInfoReq)
  | [] => some (true, req)
  | grpMsgIdPair :: mMsgIds =>
      match store.related req.options grpMsgIdPair with
      | none => none
      | some none => some (false, req)
      | some (some msgIds) =>
          relatedLoop (if msgIds.isEmpty then req else req.answer store grpMsgIdPair msgIds) mMsgIds

/-- `getMsgRelatedInfo`: whether it succeeds, and the request with its results. -/
def getMsgRelatedInfo (req : MsgRelatedInfoReq) : Option (Bool × MsgRelatedInfoReq) :=
  if req.options.relatedFlags.isIncompatible then some (false, req)
  else if req.options.relatedFlags.isFallback then some (true, req)
  else store.relatedLoop req req.mMsgIds

end RsDataService

/-! ### What is to be found -/

/-- Of each of the messages that have related versions, the identifiers hold that of one which is
latest among these, and no other. -/
def LatestOfEach (metaV : List RsGxsMsgMetaData) (isRelated : RsGxsMsgMetaData → Bool)
    (msgIds : List RsGxsMessageId) : Prop :=
  ∃ xs : List RsGxsMsgMetaData, msgIds = xs.map (·.mMsgId) ∧ (xs.map (·.mOrigMsgId)).Nodup ∧
    (∀ x ∈ xs, x ∈ metaV ∧ isRelated x ∧ ∀ y ∈ metaV, isRelated y →
      y.mOrigMsgId = x.mOrigMsgId → y.mPublishTs ≤ x.mPublishTs) ∧
    ∀ y ∈ metaV, isRelated y → ∃ x ∈ xs, x.mOrigMsgId = y.mOrigMsgId

/-- The identifiers of the messages that the flags ask for. -/
def RelatedFlags.Finds (flags : RelatedFlags) (metaV : List RsGxsMsgMetaData)
    (origMeta : RsGxsMsgMetaData) (msgIds : List RsGxsMessageId) : Prop :=
  if flags.onlyChildMsgs || flags.onlyThreadMsgs then
    LatestOfEach metaV (fun x => !flags.skips origMeta x) msgIds
  else if flags.onlyLatestMsgs then
    ∃ x ∈ metaV, x.mOrigMsgId = origMeta.mOrigMsgId ∧
      (∀ y ∈ metaV, y.mOrigMsgId = origMeta.mOrigMsgId → y.mPublishTs ≤ x.mPublishTs) ∧
      msgIds = [x.mMsgId]
  else
    msgIds.Nodup ∧ ∀ msgId, msgId ∈ msgIds ↔
      ∃ x ∈ metaV, x.mOrigMsgId = origMeta.mOrigMsgId ∧ x.mMsgId = msgId

/-- The flags ask for the latest version of a message alone. -/
def RelatedFlags.isNewest (flags : RelatedFlags) : Bool :=
  flags.onlyLatestMsgs && !(flags.onlyChildMsgs || flags.onlyThreadMsgs)

/-! ### The loops -/

theorem Selection.filterMsgList_eq {r : Selection} {metaV : List RsGxsMsgMetaData}
    (hcovers : r.metaFilter.Covers metaV r.msgIds) {opts : RsTokReqOptions}
    (hstatus : opts.mStatusMask = 0) (hflag : opts.mMsgFlagMask = 0) :
  r.filterMsgList opts = r.msgIds
  := by
  rw [filterMsgList, List.filter_eq_self]
  intro msgId hmem
  obtain ⟨m, hm⟩ := Option.isSome_iff_exists.1 (hcovers.2 msgId hmem)
  simp [hm, RsTokReqOptions.checkMsgFilter, hstatus, hflag]

/-- The options by which `getMsgList` looks for the latest versions. -/
private def latestOpts : RsTokReqOptions := ⟨tokreqoptMsgLatest, 0, 0, 0, 0⟩

/-- The options by which `getMsgList` looks for all messages. -/
private def allOpts : RsTokReqOptions := ⟨0, 0, 0, 0, 0⟩

variable (m : RsGxsMsgMetaData) (origMsgId : RsGxsMessageId) {α : Type} {P : α → Prop}

private theorem skips_latestOpts :
  latestOpts.skips m = false
  := by
  rw [RsTokReqOptions.skips, show latestOpts.onlyThreadHeadMsgs = false from by decide,
    Bool.false_and]

private theorem skips_allOpts :
  allOpts.skips m = false
  := by
  rw [RsTokReqOptions.skips, show allOpts.onlyThreadHeadMsgs = false from by decide,
    Bool.false_and]

private theorem foldl_belowStep (flags : RelatedFlags) (origMeta : RsGxsMsgMetaData)
    (metaV : List RsGxsMsgMetaData)
    (r : OrdMap RsGxsMessageId (RsGxsMessageId × Int) × MsgMetaFilter) :
  metaV.foldl (flags.belowStep origMeta) r =
    (metaV.filter fun x => !flags.skips origMeta x).foldl (latestStep latestOpts) r
  := by
  induction metaV generalizing r with
  | nil => rfl
  | cons m metaV ih =>
    rw [List.foldl_cons, ih]
    cases hskips : flags.skips origMeta m with
    | true =>
      rw [List.filter_cons_of_neg (by simp [hskips]), RelatedFlags.belowStep, if_pos hskips]
    | false =>
      rw [List.filter_cons_of_pos (by simp [hskips]), List.foldl_cons, RelatedFlags.belowStep,
        latestStep, hskips, skips_latestOpts]

private theorem foldl_versionsStep (metaV : List RsGxsMsgMetaData) (r : Selection) :
  metaV.foldl (versionsStep origMsgId) r =
    (metaV.filter fun x => x.mOrigMsgId = origMsgId).foldl (otherStep allOpts) r
  := by
  induction metaV generalizing r with
  | nil => rfl
  | cons m metaV ih =>
    rw [List.foldl_cons, ih]
    by_cases horig : m.mOrigMsgId = origMsgId
    · rw [List.filter_cons_of_pos (by simp [horig]), List.foldl_cons, versionsStep, if_pos horig,
        otherStep, skips_allOpts, if_neg Bool.false_ne_true,
        show allOpts.onlyOrigMsgs = false from by decide, Bool.false_and,
        if_neg Bool.false_ne_true]
    · rw [List.filter_cons_of_neg (by simp [horig]), versionsStep, if_neg horig]

private theorem forall_mem_concat {l : List α} {a : α} :
  (∀ x ∈ l ++ [a], P x) ↔ (∀ x ∈ l, P x) ∧ P a
  := by
  simp only [List.forall_mem_append, List.forall_mem_singleton]

/-- The search for the latest version finds it when its time stamp is positive, and finds nothing
when there is no such version. -/
theorem foldl_newestStep (metaV : List RsGxsMsgMetaData) :
  (metaV.foldl (newestStep origMsgId) ⟨0, 0, none⟩ = ⟨0, 0, none⟩ ∧
      ∀ y ∈ metaV, y.mOrigMsgId = origMsgId → y.mPublishTs ≤ 0) ∨
    ∃ x ∈ metaV, x.mOrigMsgId = origMsgId ∧ 0 < x.mPublishTs ∧
      (∀ y ∈ metaV, y.mOrigMsgId = origMsgId → y.mPublishTs ≤ x.mPublishTs) ∧
      metaV.foldl (newestStep origMsgId) ⟨0, 0, none⟩ = ⟨x.mPublishTs, x.mMsgId, some x⟩
  := by
  induction metaV using List.reverseRecOn with
  | nil => exact .inl ⟨rfl, by simp⟩
  | append_singleton metaV m ih =>
    rw [List.foldl_append, List.foldl_cons, List.foldl_nil]
    by_cases horig : m.mOrigMsgId = origMsgId
    · rw [newestStep, if_pos horig]
      obtain ⟨hfold, hall⟩ | ⟨x, hx, hxorig, hpos, hall, hfold⟩ := ih
      · rw [hfold]
        split
        case isTrue hlt =>
          refine .inr ⟨m, by simp, horig, hlt, ?_, rfl⟩
          refine forall_mem_concat.2 ⟨?_, fun _ => le_rfl⟩
          exact fun y hy hyorig => (hall y hy hyorig).trans hlt.le
        case isFalse hle =>
          exact .inl ⟨rfl, forall_mem_concat.2 ⟨hall, fun _ => not_lt.1 hle⟩⟩
      · rw [hfold]
        split
        case isTrue hlt =>
          refine .inr ⟨m, by simp, horig, hpos.trans hlt, ?_, rfl⟩
          refine forall_mem_concat.2 ⟨?_, fun _ => le_rfl⟩
          exact fun y hy hyorig => (hall y hy hyorig).trans hlt.le
        case isFalse hle =>
          refine .inr ⟨x, by simp [hx], hxorig, hpos, ?_, rfl⟩
          exact forall_mem_concat.2 ⟨hall, fun _ => not_lt.1 hle⟩
    · rw [newestStep, if_neg horig]
      obtain ⟨hfold, hall⟩ | ⟨x, hx, hxorig, hpos, hall, hfold⟩ := ih
      · exact .inl ⟨hfold, forall_mem_concat.2 ⟨hall, fun h => absurd h horig⟩⟩
      · refine .inr ⟨x, by simp [hx], hxorig, hpos, ?_, hfold⟩
        exact forall_mem_concat.2 ⟨hall, fun h => absurd h horig⟩

/-- The entries of a list that each belong to an element are those of a list of elements. -/
private theorem exists_map_eq {β γ : Type} {f : α → γ} {g : β → γ} {l : List β}
    (h : ∀ e ∈ l, ∃ x, P x ∧ f x = g e) :
  ∃ xs : List α, xs.map f = l.map g ∧ ∀ x ∈ xs, P x
  := by
  induction l with
  | nil => exact ⟨[], rfl, by simp⟩
  | cons e l ih =>
    obtain ⟨x, hx, heq⟩ := h e List.mem_cons_self
    obtain ⟨xs, hmap, hxs⟩ := ih fun e' he' => h e' (List.mem_cons_of_mem e he')
    exact ⟨x :: xs, by rw [List.map_cons, List.map_cons, heq, hmap],
      List.forall_mem_cons.2 ⟨hx, hxs⟩⟩

theorem latestOfEach_foldl (metaV : List RsGxsMsgMetaData) (isRelated : RsGxsMsgMetaData → Bool) :
  let r := (metaV.filter isRelated).foldl (latestStep latestOpts) (OrdMap.empty, OrdMap.empty)
  LatestOfEach metaV isRelated (r.1.toList.map fun e => e.2.1) ∧
    r.2.Covers metaV (r.1.toList.map fun e => e.2.1)
  := by
  intro r
  have h := latestSoFar_foldl latestOpts (metaV.filter isRelated)
  have hheads : (metaV.filter isRelated).filter (fun m => !latestOpts.skips m) =
      metaV.filter isRelated := by
    apply List.filter_eq_self.2
    intro m hm
    rw [skips_latestOpts]
    rfl
  refine ⟨?_, h.covers.mono (List.filter_subset_self _)⟩
  have hentry : ∀ e ∈ r.1.toList, ∃ x, IsLatest (metaV.filter isRelated) x ∧
      (x.mOrigMsgId, x.mMsgId) = (e.1, e.2.1) := by
    intro e he
    obtain ⟨x, hx, horig, hid, -⟩ := h.latest e.1 e.2.1 e.2.2 (OrdMap.mem_toList.1 he)
    rw [hheads] at hx
    exact ⟨x, hx, Prod.ext horig hid⟩
  obtain ⟨xs, hmap, hxs⟩ := exists_map_eq hentry
  have horigs : xs.map (·.mOrigMsgId) = r.1.toList.map Prod.fst := by
    simpa [List.map_map, Function.comp_def] using congrArg (List.map Prod.fst) hmap
  refine ⟨xs, ?_, ?_, ?_, ?_⟩
  · simpa [List.map_map, Function.comp_def] using (congrArg (List.map Prod.snd) hmap).symm
  · rw [horigs, List.nodup_iff_pairwise_ne, List.pairwise_map]
    exact r.1.sorted.imp fun hlt => hlt.ne
  · intro x hx
    obtain ⟨hmem, hrelated⟩ := List.mem_filter.1 (hxs x hx).mem
    refine ⟨hmem, hrelated, ?_⟩
    intro y hy hyrelated horig
    exact (hxs x hx).le (List.mem_filter.2 ⟨hy, hyrelated⟩) horig
  · intro y hy hrelated
    have hsome := h.isSome y (List.mem_filter.2 ⟨hy, hrelated⟩) (skips_latestOpts y)
    obtain ⟨e, he⟩ := Option.isSome_iff_exists.1 hsome
    have hmem : y.mOrigMsgId ∈ xs.map (·.mOrigMsgId) := by
      rw [horigs]
      exact List.mem_map_of_mem (OrdMap.mem_toList.2 he)
    obtain ⟨x, hx, heq⟩ := List.mem_map.1 hmem
    exact ⟨x, hx, heq⟩

/-! ### The search in a group -/

namespace RelatedFlags

variable {flags : RelatedFlags} {metaV : List RsGxsMsgMetaData} {origMeta : RsGxsMsgMetaData}

theorem select_of_onlyAllVersions
    (hbelow : (flags.onlyChildMsgs || flags.onlyThreadMsgs) = false)
    (hlatest : flags.onlyLatestMsgs = false) (hversions : flags.onlyAllVersions = true)
    (hnodup : (metaV.map (·.mMsgId)).Nodup) :
  ∃ r, flags.select metaV origMeta = some r ∧ flags.Finds metaV origMeta r.msgIds ∧
    r.metaFilter.Covers metaV r.msgIds
  := by
  obtain ⟨hids, hcovers⟩ := otherStep_foldl allOpts
    (metaV.filter fun x => x.mOrigMsgId = origMeta.mOrigMsgId)
  have hall : (metaV.filter fun x => x.mOrigMsgId = origMeta.mOrigMsgId).filter (fun m =>
      !allOpts.skips m && (!allOpts.onlyOrigMsgs || decide (m.mMsgId = m.mOrigMsgId))) =
      metaV.filter fun x => x.mOrigMsgId = origMeta.mOrigMsgId := by
    apply List.filter_eq_self.2
    intro m hm
    rw [skips_allOpts, show allOpts.onlyOrigMsgs = false from by decide]
    rfl
  rw [hall] at hids
  refine ⟨_, ?_, ?_, hcovers.mono (List.filter_subset_self _)⟩
  · rw [select, hlatest, if_neg Bool.false_ne_true, if_pos hversions, foldl_versionsStep]
  · rw [Finds, hbelow, if_neg Bool.false_ne_true, hlatest, if_neg Bool.false_ne_true, hids]
    refine ⟨hnodup.sublist (List.filter_sublist.map _), ?_⟩
    intro msgId
    simp [List.mem_map, List.mem_filter, and_assoc]

theorem select_of_below (hbelow : (flags.onlyChildMsgs || flags.onlyThreadMsgs) = true)
    (hlatest : flags.onlyLatestMsgs = true) :
  ∃ r, flags.select metaV origMeta = some r ∧ flags.Finds metaV origMeta r.msgIds ∧
    r.metaFilter.Covers metaV r.msgIds
  := by
  obtain ⟨hfinds, hcovers⟩ := latestOfEach_foldl metaV fun x => !flags.skips origMeta x
  rw [← foldl_belowStep] at hfinds hcovers
  refine ⟨⟨_, _⟩, ?_, ?_, hcovers⟩
  · rw [select, if_pos hlatest, if_pos hbelow]
  · rw [Finds, if_pos hbelow]
    exact hfinds

/-- The latest version of a message is found just when a version has a positive time stamp. -/
theorem select_of_newest (hbelow : (flags.onlyChildMsgs || flags.onlyThreadMsgs) = false)
    (hlatest : flags.onlyLatestMsgs = true) :
  (flags.select metaV origMeta = none ∧
      ∀ y ∈ metaV, y.mOrigMsgId = origMeta.mOrigMsgId → y.mPublishTs ≤ 0) ∨
    ((∃ x ∈ metaV, x.mOrigMsgId = origMeta.mOrigMsgId ∧ 0 < x.mPublishTs) ∧
      ∃ r, flags.select metaV origMeta = some r ∧ flags.Finds metaV origMeta r.msgIds ∧
        r.metaFilter.Covers metaV r.msgIds)
  := by
  rw [select, if_pos hlatest, hbelow, if_neg Bool.false_ne_true]
  dsimp only
  obtain ⟨hfold, hall⟩ | ⟨x, hx, horig, hpos, hall, hfold⟩ :=
    foldl_newestStep origMeta.mOrigMsgId metaV
  · rw [hfold]
    exact .inl ⟨rfl, hall⟩
  · rw [hfold]
    refine .inr ⟨⟨x, hx, horig, hpos⟩, _, rfl, ?_, ?_⟩
    · rw [Finds, hbelow, if_neg Bool.false_ne_true, if_pos hlatest]
      exact ⟨x, hx, horig, hall, rfl⟩
    · constructor
      · intro msgId m hm
        rw [OrdMap.get?_insert] at hm
        split at hm
        case isTrue heq =>
          obtain rfl := Option.some_inj.1 hm
          exact ⟨hx, heq.symm⟩
        case isFalse => simp at hm
      · intro msgId hmem
        rw [List.mem_singleton.1 hmem, OrdMap.get?_insert_self]
        rfl

/-- What the search finds is what the flags ask for, unless they ask for the latest version of a
message and none has a positive time stamp. -/
theorem select_cases (hcompatible : flags.isIncompatible = false)
    (hfallback : flags.isFallback = false) (hnodup : (metaV.map (·.mMsgId)).Nodup) :
  (flags.select metaV origMeta = none ∧ flags.isNewest = true ∧
      ∀ y ∈ metaV, y.mOrigMsgId = origMeta.mOrigMsgId → y.mPublishTs ≤ 0) ∨
    ((flags.isNewest = true →
        ∃ x ∈ metaV, x.mOrigMsgId = origMeta.mOrigMsgId ∧ 0 < x.mPublishTs) ∧
      ∃ r, flags.select metaV origMeta = some r ∧ flags.Finds metaV origMeta r.msgIds ∧
        r.metaFilter.Covers metaV r.msgIds)
  := by
  cases hlatest : flags.onlyLatestMsgs with
  | true =>
    cases hbelow : flags.onlyChildMsgs || flags.onlyThreadMsgs with
    | true =>
      refine .inr ⟨?_, select_of_below hbelow hlatest⟩
      simp [isNewest, hbelow]
    | false =>
      obtain ⟨hnone, hall⟩ | ⟨hpos, hfound⟩ : _ ∨ (∃ x ∈ metaV, _) ∧ _ :=
        select_of_newest hbelow hlatest
      · exact .inl ⟨hnone, by simp [isNewest, hbelow, hlatest], hall⟩
      · exact .inr ⟨fun _ => hpos, hfound⟩
  | false =>
    have hbelow : (flags.onlyChildMsgs || flags.onlyThreadMsgs) = false := by
      simp only [isIncompatible, hlatest, Bool.not_false, Bool.true_and, Bool.or_eq_false_iff]
        at hcompatible ⊢
      tauto
    have hversions : flags.onlyAllVersions = true := by
      simp only [isFallback, hlatest, Bool.not_false, Bool.true_and] at hfallback
      simp only [Bool.or_eq_false_iff] at hbelow
      simpa [hbelow] using hfallback
    refine .inr ⟨?_, select_of_onlyAllVersions hbelow hlatest hversions hnodup⟩
    simp [isNewest, hlatest]

end RelatedFlags

/-! ### Answers -/

/-- What of some messages a type of requests can show: the data of those that can be read. -/
def RelatedType.shown (mReqType : RelatedType) (store : RsDataService) (grpId : RsGxsGroupId)
    (msgIds : List RsGxsMessageId) : List RsGxsMessageId :=
  match mReqType with
  | .msgRelatedData => msgIds.filter (store.readable grpId)
  | _ => msgIds

/-- The identifiers of what a request returns for a message. -/
def MsgRelatedInfoReq.returned (req : MsgRelatedInfoReq) (grpMsgIdPair : RsGxsGrpMsgIdPair) :
    List RsGxsMessageId :=
  match req.mReqType with
  | .msgRelatedIds => (req.mMsgIdResult.get? grpMsgIdPair).getD []
  | .msgRelatedMeta => ((req.mMsgMetaResult.get? grpMsgIdPair).getD []).map (·.mMsgId)
  | .msgRelatedData => ((req.mMsgDataResult.get? grpMsgIdPair).getD []).map (·.msgId)

namespace RsDataService

variable {store : RsDataService} {grpId : RsGxsGroupId} (req : MsgRelatedInfoReq)
  (msgIds : List RsGxsMessageId) {xs : List RsGxsMsgMetaData} (grpMsgIdPair : RsGxsGrpMsgIdPair)
  {mMsgIds : List RsGxsGrpMsgIdPair}

theorem getMsgMeta_eq {row : MsgRow} {msgMeta : RsGxsMsgMetaData}
    (h : row.getMsgMeta = some msgMeta) :
  row.msgMeta = msgMeta
  := by
  rw [MsgRow.getMsgMeta] at h
  split at h
  · contradiction
  · exact Option.some_inj.1 h

private theorem sublist_filterMap (rows : List MsgRow) :
  ((rows.filterMap MsgRow.getMsgMeta).map (·.mMsgId)).Sublist
    (rows.map fun row => row.msgMeta.mMsgId)
  := by
  induction rows with
  | nil => exact List.Sublist.refl _
  | cons row rows ih =>
    cases hrow : row.getMsgMeta with
    | none =>
      rw [List.filterMap_cons_none hrow]
      exact ih.cons _
    | some msgMeta =>
      rw [List.filterMap_cons_some hrow, List.map_cons, List.map_cons, getMsgMeta_eq hrow]
      exact ih.cons_cons _

/-- The messages of a group have different identifiers. -/
theorem nodup_requested :
  ((store.requested grpId []).map (·.mMsgId)).Nodup
  := by
  have hrows : (((store.sqlQuery grpId none).filterMap MsgRow.getMsgMeta).map (·.mMsgId)).Nodup :=
    (store.nodup.sublist (List.filter_sublist.map _)).sublist (sublist_filterMap _)
  rwa [requested, query, if_pos rfl]

theorem get?_retrieveGxsMsgMetaData :
  (store.retrieveGxsMsgMetaData (OrdMap.empty.insert grpId msgIds)).get? grpId =
    some (store.requested grpId msgIds)
  := by
  rw [retrieveGxsMsgMetaData, OrdMap.get?_map, OrdMap.get?_insert_self, Option.map_some, requested]

theorem map_retrieveNxsMsgs :
  (((store.retrieveNxsMsgs (OrdMap.empty.insert grpId msgIds) true).get? grpId).getD []).map
      (·.msgId) =
    ((store.query grpId msgIds).filterMap MsgRow.getMessage).map (·.msgId)
  := by
  rw [retrieveNxsMsgs, if_pos rfl, OrdMap.get?_map, OrdMap.get?_map, OrdMap.get?_insert_self,
    Option.map_some, Option.map_some, Option.getD_some, map_attachMeta]

/-- The answer to a request for a message shows the messages that are found, and those for others
are as before. -/
theorem returned_answer (grpMsgIdPair pair : RsGxsGrpMsgIdPair) (hne : xs ≠ [])
    (hxs : ∀ x ∈ xs, x ∈ store.requested (ofLex grpMsgIdPair).1 []) :
  (req.answer store grpMsgIdPair (xs.map (·.mMsgId))).returned pair =
    if pair = grpMsgIdPair then
      req.mReqType.shown store (ofLex grpMsgIdPair).1 (xs.map (·.mMsgId))
    else req.returned pair
  := by
  obtain ⟨options, mReqType, mMsgIds, mMsgIdResult, mMsgMetaResult, mMsgDataResult⟩ := req
  cases mReqType with
  | msgRelatedIds =>
    simp only [MsgRelatedInfoReq.answer, MsgRelatedInfoReq.returned, RelatedType.shown,
      OrdMap.get?_insert]
    split <;> rfl
  | msgRelatedMeta =>
    simp only [MsgRelatedInfoReq.answer, MsgRelatedInfoReq.returned, RelatedType.shown,
      OrdMap.get?_insert]
    split
    · rw [get?_retrieveGxsMsgMetaData, Option.getD_some, Option.getD_some, requested_map hxs hne]
    · rfl
  | msgRelatedData =>
    simp only [MsgRelatedInfoReq.answer, MsgRelatedInfoReq.returned, RelatedType.shown,
      OrdMap.get?_insert]
    split
    · rw [Option.getD_some, map_retrieveNxsMsgs, getMessage_map hxs hne]
    · rfl

/-- The message of a pair is `origMeta`. -/
def IsMessage (store : RsDataService) (grpMsgIdPair : RsGxsGrpMsgIdPair)
    (origMeta : RsGxsMsgMetaData) : Prop :=
  origMeta ∈ store.requested (ofLex grpMsgIdPair).1 [] ∧
    origMeta.mMsgId = (ofLex grpMsgIdPair).2

section Related

variable {opts : RsTokReqOptions} {grpMsgIdPair : RsGxsGrpMsgIdPair}
    {origMeta : RsGxsMsgMetaData}

theorem related_eq (h : store.IsMessage grpMsgIdPair origMeta) :
  store.related opts grpMsgIdPair =
    (opts.relatedFlags.select (store.requested (ofLex grpMsgIdPair).1 []) origMeta).map fun r =>
      some (r.filterMsgList opts)
  := by
  have hfind : (store.requested (ofLex grpMsgIdPair).1 []).find?
      (fun msgMeta => msgMeta.mMsgId = (ofLex grpMsgIdPair).2) = some origMeta := by
    cases hfind : (store.requested (ofLex grpMsgIdPair).1 []).find?
        (fun msgMeta => msgMeta.mMsgId = (ofLex grpMsgIdPair).2) with
    | none =>
      have hnot := List.find?_eq_none.1 hfind origMeta h.1
      simp [h.2] at hnot
    | some found =>
      have hid : found.mMsgId = (ofLex grpMsgIdPair).2 := by simpa using List.find?_some hfind
      rw [requested_unique (List.mem_of_find?_eq_some hfind) h.1 (hid.trans h.2.symm)]
  simp only [related, get?_retrieveGxsMsgMetaData, Option.getD_some, hfind]

/-- What is found for a message that exists. -/
theorem related_cases (hstatus : opts.mStatusMask = 0) (hflag : opts.mMsgFlagMask = 0)
    (hcompatible : opts.relatedFlags.isIncompatible = false)
    (hfallback : opts.relatedFlags.isFallback = false)
    (h : store.IsMessage grpMsgIdPair origMeta) :
  (store.related opts grpMsgIdPair = none ∧ opts.relatedFlags.isNewest = true ∧
      ∀ y ∈ store.requested (ofLex grpMsgIdPair).1 [],
        y.mOrigMsgId = origMeta.mOrigMsgId → y.mPublishTs ≤ 0) ∨
    ((opts.relatedFlags.isNewest = true →
        ∃ x ∈ store.requested (ofLex grpMsgIdPair).1 [],
          x.mOrigMsgId = origMeta.mOrigMsgId ∧ 0 < x.mPublishTs) ∧
      ∃ xs : List RsGxsMsgMetaData,
        store.related opts grpMsgIdPair = some (some (xs.map (·.mMsgId))) ∧
        opts.relatedFlags.Finds (store.requested (ofLex grpMsgIdPair).1 []) origMeta
          (xs.map (·.mMsgId)) ∧
        ∀ x ∈ xs, x ∈ store.requested (ofLex grpMsgIdPair).1 [])
  := by
  have hnodup : ((store.requested (ofLex grpMsgIdPair).1 []).map (·.mMsgId)).Nodup :=
    nodup_requested
  rw [related_eq h]
  obtain ⟨hnone, hnewest, hall⟩ | ⟨hpos, r, hsome, hfinds, hcovers⟩ :=
    RelatedFlags.select_cases hcompatible hfallback hnodup
  · left
    rw [hnone]
    exact ⟨rfl, hnewest, hall⟩
  · refine .inr ⟨hpos, ?_⟩
    rw [hsome, Option.map_some, Selection.filterMsgList_eq hcovers hstatus hflag]
    have hentry : ∀ msgId ∈ r.msgIds, ∃ x, x ∈ store.requested (ofLex grpMsgIdPair).1 [] ∧
        x.mMsgId = id msgId := by
      intro msgId hmem
      obtain ⟨x, hx⟩ := Option.isSome_iff_exists.1 (hcovers.2 msgId hmem)
      exact ⟨x, hcovers.1 msgId x hx⟩
    obtain ⟨xs, hmap, hxs⟩ := exists_map_eq hentry
    rw [List.map_id] at hmap
    rw [← hmap] at hfinds ⊢
    exact ⟨xs, rfl, hfinds, hxs⟩

end Related

/-! ### Whole requests -/

theorem shown_nil (mReqType : RelatedType) :
  mReqType.shown store grpId [] = []
  := by
  cases mReqType <;> rfl

@[simp]
theorem options_answer (msgIds : List RsGxsMessageId) :
  (req.answer store grpMsgIdPair msgIds).options = req.options
  := by
  rw [MsgRelatedInfoReq.answer]
  split <;> rfl

@[simp]
theorem mReqType_answer (msgIds : List RsGxsMessageId) :
  (req.answer store grpMsgIdPair msgIds).mReqType = req.mReqType
  := by
  rw [MsgRelatedInfoReq.answer]
  split <;> simp [*]

/-- One message: its answer is stored, when messages are found. -/
private theorem returned_step (grpMsgIdPair pair : RsGxsGrpMsgIdPair)
    (hxs : ∀ x ∈ xs, x ∈ store.requested (ofLex grpMsgIdPair).1 []) :
  (if (xs.map (·.mMsgId)).isEmpty then req
    else req.answer store grpMsgIdPair (xs.map (·.mMsgId))).returned pair =
    if pair = grpMsgIdPair ∧ xs ≠ [] then
      req.mReqType.shown store (ofLex grpMsgIdPair).1 (xs.map (·.mMsgId))
    else req.returned pair
  := by
  by_cases hnil : xs = []
  · subst hnil
    simp
  · rw [if_neg (by simpa using hnil), returned_answer req grpMsgIdPair pair hnil hxs]
    simp [hnil]

/-- When something is found out for every message, the request is answered with it. -/
theorem relatedLoop_of_all {req : MsgRelatedInfoReq}
    (h : ∀ pair ∈ mMsgIds, ∃ xs : List RsGxsMsgMetaData, store.related req.options pair = some (some
      (xs.map (·.mMsgId))) ∧ ∀ x ∈ xs, x ∈ store.requested (ofLex pair).1 []) :
  ∃ req', store.relatedLoop req mMsgIds = some (true, req') ∧
    (∀ pair ∉ mMsgIds, req'.returned pair = req.returned pair) ∧
    ∀ pair ∈ mMsgIds, ∀ msgIds, store.related req.options pair = some (some msgIds) →
      req.returned pair = [] ∨
        req.returned pair = req.mReqType.shown store (ofLex pair).1 msgIds →
      req'.returned pair = req.mReqType.shown store (ofLex pair).1 msgIds
  := by
  induction mMsgIds generalizing req with
  | nil => exact ⟨req, rfl, fun _ _ => rfl, by simp⟩
  | cons first mMsgIds ih =>
    obtain ⟨⟨xs, hfirst, hxs⟩, h⟩ := List.forall_mem_cons.1 h
    have hstep := fun pair => returned_step req first pair hxs
    generalize hreq : (if (xs.map (·.mMsgId)).isEmpty then req
      else req.answer store first (xs.map (·.mMsgId))) = req₁ at hstep
    have hoptions : req₁.options = req.options := by
      rw [← hreq]
      split <;> simp
    have htype : req₁.mReqType = req.mReqType := by
      rw [← hreq]
      split <;> simp
    rw [← hoptions] at h
    obtain ⟨req', hloop, hothers, hall⟩ := ih h
    rw [hoptions, htype] at hall
    refine ⟨req', by rw [relatedLoop, hfirst]; dsimp only; rw [hreq, hloop], ?_, ?_⟩
    · intro pair hpair
      rw [hothers pair (List.not_mem_of_not_mem_cons hpair), hstep, if_neg]
      exact fun heq => hpair (heq.1 ▸ List.mem_cons_self)
    · intro pair hpair msgIds hrelated hbefore
      by_cases heq : pair = first
      · subst heq
        obtain rfl : xs.map (·.mMsgId) = msgIds := by
          simpa using hfirst.symm.trans hrelated
        have hafter : req₁.returned pair =
            req.mReqType.shown store (ofLex pair).1 (xs.map (·.mMsgId)) := by
          rw [hstep]
          by_cases hnil : xs = []
          · subst hnil
            rw [if_neg (by simp)]
            obtain hbefore | hbefore := hbefore
            · rw [hbefore, List.map_nil, shown_nil]
            · exact hbefore
          · rw [if_pos ⟨rfl, hnil⟩]
        by_cases hmem : pair ∈ mMsgIds
        · exact hall pair hmem _ hrelated (.inr hafter)
        · rw [hothers pair hmem, hafter]
      · have hmem : pair ∈ mMsgIds := List.mem_of_ne_of_mem heq hpair
        have hsame : req₁.returned pair = req.returned pair := by
          rw [hstep, if_neg fun h => heq h.1]
        rw [← hsame] at hbefore
        exact hall pair hmem msgIds hrelated hbefore

/-- When a variable is read that is not initialised for one of the messages, there is no answer. -/
theorem relatedLoop_of_none {req : MsgRelatedInfoReq}
    (h : ∀ pair ∈ mMsgIds, store.related req.options pair ≠ some none)
    (hnone : ∃ pair ∈ mMsgIds, store.related req.options pair = none) :
  store.relatedLoop req mMsgIds = none
  := by
  induction mMsgIds generalizing req with
  | nil => simp at hnone
  | cons first mMsgIds ih =>
    obtain ⟨hfirst, h⟩ := List.forall_mem_cons.1 h
    rw [relatedLoop]
    cases hrelated : store.related req.options first with
    | none => rfl
    | some found =>
      cases found with
      | none => contradiction
      | some msgIds =>
        dsimp only
        apply ih
        · intro pair hpair
          split
          · exact h pair hpair
          · rw [options_answer]
            exact h pair hpair
        · obtain ⟨pair, hpair, hnone⟩ := hnone
          obtain rfl | hpair := List.mem_cons.1 hpair
          · rw [hrelated] at hnone
            contradiction
          · refine ⟨pair, hpair, ?_⟩
            split
            · exact hnone
            · rw [options_answer]
              exact hnone

/-- A request for messages that exist reads no variable that is not initialised, and for each of
them it returns what its flags ask for. -/
def RelatedRight (store : RsDataService) (opts : RsTokReqOptions) (mReqType : RelatedType)
    (mMsgIds : List RsGxsGrpMsgIdPair) : Prop :=
  ∃ req, store.getMsgRelatedInfo (.new opts mReqType mMsgIds) = some (true, req) ∧
    ∀ pair ∈ mMsgIds, ∀ origMeta, store.IsMessage pair origMeta → ∃ msgIds,
      opts.relatedFlags.Finds (store.requested (ofLex pair).1 []) origMeta msgIds ∧
        req.returned pair = mReqType.shown store (ofLex pair).1 msgIds

/-- All versions of a message and the latest versions below it are returned as they should be; the
latest version of a message just when one of its versions has a positive time stamp. -/
theorem relatedRight_iff {opts : RsTokReqOptions} {mReqType : RelatedType}
    {mMsgIds : List RsGxsGrpMsgIdPair} (hstatus : opts.mStatusMask = 0)
    (hflag : opts.mMsgFlagMask = 0) (hcompatible : opts.relatedFlags.isIncompatible = false)
    (hfallback : opts.relatedFlags.isFallback = false)
    (hexists : ∀ pair ∈ mMsgIds, ∃ origMeta, store.IsMessage pair origMeta) :
  store.RelatedRight opts mReqType mMsgIds ↔
    (opts.relatedFlags.isNewest = true →
      ∀ pair ∈ mMsgIds, ∀ origMeta, store.IsMessage pair origMeta →
        ∃ x ∈ store.requested (ofLex pair).1 [],
          x.mOrigMsgId = origMeta.mOrigMsgId ∧ 0 < x.mPublishTs)
  := by
  have hcases {pair} (hpair : pair ∈ mMsgIds) := (hexists pair hpair).imp fun origMeta h =>
    And.intro h (related_cases hstatus hflag hcompatible hfallback h)
  have hloop : store.getMsgRelatedInfo (.new opts mReqType mMsgIds) =
      store.relatedLoop (.new opts mReqType mMsgIds) mMsgIds := by
    rw [getMsgRelatedInfo]
    simp only [MsgRelatedInfoReq.new, hcompatible, hfallback]
    rfl
  constructor
  · rintro ⟨req, hreq, -⟩ hnewest pair hpair origMeta hmessage
    obtain ⟨hnone, -, -⟩ | ⟨hpos, -⟩ :=
      related_cases hstatus hflag hcompatible hfallback hmessage
    · have hstuck : store.relatedLoop (.new opts mReqType mMsgIds) mMsgIds = none := by
        apply relatedLoop_of_none
        · intro other hother
          change store.related opts other ≠ some none
          obtain ⟨_, -, ⟨hnone, -, -⟩ | ⟨-, xs, hsome, -, -⟩⟩ := hcases hother
          · simp [hnone]
          · simp [hsome]
        · exact ⟨pair, hpair, hnone⟩
      rw [hloop, hstuck] at hreq
      contradiction
    · exact hpos hnewest
  · intro hpositive
    have hfound : ∀ pair ∈ mMsgIds, ∃ xs : List RsGxsMsgMetaData,
        store.related opts pair = some (some (xs.map (·.mMsgId))) ∧
          ∀ x ∈ xs, x ∈ store.requested (ofLex pair).1 [] := by
      intro pair hpair
      obtain ⟨origMeta, hmessage, ⟨-, hnewest, hall⟩ | ⟨-, xs, hsome, -, hxs⟩⟩ := hcases hpair
      · obtain ⟨x, hx, horig, hpos⟩ := hpositive hnewest pair hpair origMeta hmessage
        exact absurd (hall x hx horig) (not_le.2 hpos)
      · exact ⟨xs, hsome, hxs⟩
    obtain ⟨req, hreq, -, hall⟩ : ∃ req,
        store.relatedLoop (.new opts mReqType mMsgIds) mMsgIds = some (true, req) ∧ _ :=
      relatedLoop_of_all hfound
    refine ⟨req, hloop.trans hreq, ?_⟩
    intro pair hpair origMeta hmessage
    obtain ⟨-, hnewest, hle⟩ | ⟨-, xs, hsome, hfinds, -⟩ :=
      related_cases hstatus hflag hcompatible hfallback hmessage
    · obtain ⟨x, hx, horig, hpos⟩ := hpositive hnewest pair hpair origMeta hmessage
      exact absurd (hle x hx horig) (not_le.2 hpos)
    · refine ⟨_, hfinds, hall pair hpair _ hsome (.inl ?_)⟩
      cases mReqType <;> rfl

/-- Two versions of a message, and two versions of an answer to it. -/
def answered : RsDataService where
  grps := OrdMap.empty
  msgs := [⟨⟨1, 1, 0, 0, 1, 1, 100, 0, 1⟩, some [1]⟩, ⟨⟨1, 2, 0, 0, 1, 1, 200, 0, 1⟩, some [2]⟩,
    ⟨⟨1, 3, 1, 1, 3, 2, 150, 0, 1⟩, some [3]⟩, ⟨⟨1, 4, 1, 1, 3, 2, 250, 0, 1⟩, some [4]⟩]
  nodup := by decide

/-- The latest versions of both messages are returned, and the latest version below the first. -/
theorem relatedRight_iff_answered :
  answered.RelatedRight ⟨tokreqoptMsgLatest, 0, 0, 0, 0⟩ .msgRelatedMeta
      [toLex (1, 1), toLex (1, 3)] ∧
    answered.RelatedRight ⟨tokreqoptMsgLatest ||| tokreqoptMsgParent, 0, 0, 0, 0⟩ .msgRelatedMeta
      [toLex (1, 1)]
  := by
  have hfirst : answered.IsMessage (toLex (1, 1)) ⟨1, 1, 0, 0, 1, 1, 100, 0, 1⟩ := ⟨by decide, rfl⟩
  have hsecond : answered.IsMessage (toLex (1, 3)) ⟨1, 3, 1, 1, 3, 2, 150, 0, 1⟩ :=
    ⟨by decide, rfl⟩
  constructor
  · apply (relatedRight_iff rfl rfl (by decide) (by decide) _).mpr
    · rintro - pair hpair origMeta ⟨hmem, -⟩
      have hgroup : (ofLex pair).1 = 1 := by
        simp only [List.mem_cons, List.not_mem_nil, or_false] at hpair
        rcases hpair with rfl | rfl <;> rfl
      rw [hgroup] at hmem ⊢
      refine ⟨origMeta, hmem, rfl, ?_⟩
      exact (by decide : ∀ x ∈ answered.requested 1 [], 0 < x.mPublishTs) origMeta hmem
    · exact List.forall_mem_cons.mpr ⟨⟨_, hfirst⟩, List.forall_mem_singleton.mpr ⟨_, hsecond⟩⟩
  · apply (relatedRight_iff rfl rfl (by decide) (by decide) _).mpr
    · exact fun hnewest => absurd hnewest (by decide)
    · exact List.forall_mem_singleton.mpr ⟨_, hfirst⟩

/-- A store with one group and one message, whose time stamp is zero. -/
def undated : RsDataService where
  grps := OrdMap.empty
  msgs := [⟨⟨1, 1, 0, 0, 1, 1, 0, 0, 1⟩, some [1, 2, 3]⟩]
  nodup := by decide

/-- The latest version of a message whose time stamp is zero is not found. -/
theorem not_relatedRight_undated :
  undated.IsMessage (toLex (1, 1)) ⟨1, 1, 0, 0, 1, 1, 0, 0, 1⟩ ∧
    ¬ undated.RelatedRight ⟨tokreqoptMsgLatest, 0, 0, 0, 0⟩ .msgRelatedMeta [toLex (1, 1)]
  := by
  refine ⟨⟨by decide, rfl⟩, ?_⟩
  rintro ⟨req, hreq, -⟩
  have hnone : (undated.getMsgRelatedInfo
      (.new ⟨tokreqoptMsgLatest, 0, 0, 0, 0⟩ .msgRelatedMeta [toLex (1, 1)])).isNone := by
    decide
  simp [hreq] at hnone

end RsDataService

end Gxs
