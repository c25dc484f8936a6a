import RetroShare.Gxs.Faults

/-!
# The vetting of authors

A group or a message whose author has no reputation yet is not requested at once: it waits in the
queue of `runVetting`.  We compare what is requested from the queue, once the reputation is known,
with what would have been requested at once.  The two differ for groups of authors whose reputation
is the limit, and for messages where the list of requests is full or is about another group.
-/

namespace Gxs

/-! ### Reputations -/

/-- Where a reputation is known, it is the one that `rep` gives. -/
def NetEnv.Reports (rep : RsGxsId → Int) (env : NetEnv) : Prop :=
  ∀ authorId, env.haveReputation authorId = true → env.getReputation authorId = rep authorId

/-- A moment at which the reputations that become known later are known already. -/
def NetEnv.cached (env : NetEnv) (rep : RsGxsId → Int) (envs : List NetEnv) : NetEnv :=
  { env with
    haveReputation := fun authorId =>
      env.haveReputation authorId || envs.any (·.haveReputation authorId)
    getReputation := rep }

/-! ### Entries that wait -/

/-- `accepted`, for an entry of the queue: what its parts are after it. -/
def AuthorPending.vet (env : NetEnv) : AuthorPending → AuthorPending
  | .msg ts peerId entries cutOff =>
      .msg ts peerId (RsGxsNetService.vetMsgs env cutOff entries) cutOff
  | .grp ts peerId entries cutOff =>
      .grp ts peerId (RsGxsNetService.vetGrps env cutOff entries) cutOff

/-- All parts of an entry have passed, or it has waited too long. -/
def AuthorPending.settled (env : NetEnv) : AuthorPending → Bool
  | .msg ts _ entries _ =>
      entries.all (·.mPassedVetting) || env.now > ts + authorExpiryPeriodOffset
  | .grp ts _ entries _ =>
      entries.all (·.mPassedVetting) || env.now > ts + authorExpiryPeriodOffset

/-- The rounds of `runVetting` for an entry of its queue, of which the last one takes the entry from
the queue: what the entry is then. -/
def AuthorPending.settle : AuthorPending → List NetEnv → Option AuthorPending
  | _, [] => none
  | ap, env :: envs =>
      if (ap.vet env).settled env then
        if envs.isEmpty then some (ap.vet env) else none
      else
        (ap.vet env).settle envs

namespace RsGxsNetService

variable {cfg : NetConfig} {env : NetEnv} {svc : RsGxsNetService} {ap ap' : AuthorPending}
  {envs : List NetEnv}

/-- `locked_createTransactionFromPending`, for either kind of entry. -/
def createTransactionFromPending (cfg : NetConfig) (env : NetEnv) (svc : RsGxsNetService) :
    AuthorPending → RsGxsNetService
  | .msg _ peerId entries _ => svc.createMsgTransactionFromPending cfg env peerId entries
  | .grp _ peerId entries _ => svc.createGrpTransactionFromPending cfg env peerId entries

theorem vetAuthor_eq (ap : AuthorPending) :
  svc.vetAuthor cfg env ap =
    if (ap.vet env).settled env then
      svc.createTransactionFromPending cfg env (ap.vet env)
    else
      { svc with mPendingResp := svc.mPendingResp ++ [ap.vet env] }
  := by
  cases ap with
  | msg ts peerId entries cutOff => rfl
  | grp ts peerId entries cutOff => rfl

theorem pushTransaction_mPendingResp {type : UInt16} {items : List RsNxsItem} {peerId : RsPeerId}
    {transN : Nat} :
  (svc.pushTransaction cfg env type 0 items peerId transN).mPendingResp = svc.mPendingResp
  := by
  rw [pushTransaction, addTransaction]
  split <;> rfl

theorem mem_mPendingResp_vetAuthor (h : ap' ∈ svc.mPendingResp) (ap : AuthorPending) :
  ap' ∈ (svc.vetAuthor cfg env ap).mPendingResp
  := by
  rw [vetAuthor_eq]
  split
  · cases ap with
    | msg ts peerId entries cutOff =>
      rw [AuthorPending.vet, createTransactionFromPending, createMsgTransactionFromPending]
      split
      · rwa [pushMsgTransactionFromList, pushTransaction_mPendingResp]
      · exact h
    | grp ts peerId entries cutOff =>
      rw [AuthorPending.vet, createTransactionFromPending, createGrpTransactionFromPending]
      split
      · rwa [pushGrpTransactionFromList, pushTransaction_mPendingResp]
      · exact h
  · exact List.mem_append_left _ h

theorem vetCircle_mPendingResp (gcv : GrpCircleVetting) :
  (svc.vetCircle cfg env gcv).mPendingResp = svc.mPendingResp
  := by
  rw [vetCircle.eq_def]
  cases gcv with
  | grpId ts entries peerId =>
    dsimp only
    split
    · rw [createGrpListFromPending]
      split
      · exact pushTransaction_mPendingResp
      · rfl
    · rfl
  | msgId ts msgs grpId peerId circleId =>
    dsimp only
    split
    · split
      · rw [createMsgListFromPending]
        split
        · exact pushTransaction_mPendingResp
        · rfl
      · rfl
    · rfl

variable (cfg env svc)

/-- The first loop of `runVetting`, as far as some of its entries. -/
def vetAuthors (aps : List AuthorPending) : RsGxsNetService :=
  aps.foldl (fun svc ap => svc.vetAuthor cfg env ap) svc

/-- The second loop of `runVetting`. -/
def vetCirclesPending : RsGxsNetService :=
  svc.mPendingCircleVets.foldl (fun svc gcv => svc.vetCircle cfg env gcv)
    { svc with mPendingCircleVets := [] }

variable {cfg env svc}

/-- A round for an entry that is not taken from the queue. -/
theorem mem_mPendingResp_runVetting (hmem : ap ∈ svc.mPendingResp)
    (h : ¬ (ap.vet env).settled env = true) :
  ap.vet env ∈ (svc.runVetting cfg env).mPendingResp
  := by
  obtain ⟨l, l', hqueue⟩ := List.append_of_mem hmem
  have hauthors : ap.vet env ∈
      (vetAuthors cfg env { svc with mPendingResp := [] } svc.mPendingResp).mPendingResp := by
    rw [hqueue, vetAuthors, List.foldl_append, List.foldl_cons]
    refine List.foldlRecOn (motive := fun svc : RsGxsNetService => ap.vet env ∈ svc.mPendingResp)
      l' _ ?_ fun _ h' ap' _ => mem_mPendingResp_vetAuthor h' ap'
    rw [vetAuthor_eq, if_neg h]
    exact List.mem_append_right _ List.mem_cons_self
  change ap.vet env ∈ (vetCirclesPending cfg env
    (vetAuthors cfg env { svc with mPendingResp := [] } svc.mPendingResp)).mPendingResp
  refine List.foldlRecOn (motive := fun svc : RsGxsNetService => ap.vet env ∈ svc.mPendingResp)
    _ _ hauthors fun _ h' gcv _ => ?_
  rwa [vetCircle_mPendingResp]

/-- An entry of the queue stays there for the rounds of `settle`, and the last one starts the
transaction for what the entry is then. -/
theorem runVetting_of_settle (hmem : ap ∈ svc.mPendingResp)
    (h : ap.settle (envs ++ [env]) = some ap') :
  ∃ svc' l l', ∃ ap₀ : AuthorPending,
    svc' = envs.foldl (fun svc env => svc.runVetting cfg env) svc ∧
    svc'.mPendingResp = l ++ ap₀ :: l' ∧
    svc'.runVetting cfg env = vetCirclesPending cfg env (vetAuthors cfg env
      ((vetAuthors cfg env { svc' with mPendingResp := [] } l).createTransactionFromPending cfg env
        ap') l')
  := by
  induction envs generalizing ap svc with
  | nil =>
    obtain ⟨l, l', hqueue⟩ := List.append_of_mem hmem
    refine ⟨svc, l, l', ap, rfl, hqueue, ?_⟩
    rw [List.nil_append, AuthorPending.settle] at h
    split at h
    case isFalse => cases h
    case isTrue hsettled =>
      rw [List.isEmpty_nil, if_pos rfl] at h
      rw [← Option.some.inj h]
      change vetCirclesPending cfg env
        (vetAuthors cfg env { svc with mPendingResp := [] } svc.mPendingResp) = _
      rw [hqueue, vetAuthors, List.foldl_append, List.foldl_cons, vetAuthor_eq, if_pos hsettled]
      rfl
  | cons first envs ih =>
    rw [List.cons_append, AuthorPending.settle] at h
    split at h
    case isTrue =>
      rw [if_neg (by simp)] at h
      cases h
    case isFalse hsettled => exact ih (mem_mPendingResp_runVetting hmem hsettled) h

end RsGxsNetService

section

open RsGxsNetService

variable {ts : Nat} {peerId : RsPeerId} {cutOff : Int} {envs : List NetEnv} {ap : AuthorPending}

/-- The parts of an entry are vetted in every round. -/
theorem AuthorPending.eq_of_settle_grp {entries : List GrpAuthEntry}
    (h : settle (.grp ts peerId entries cutOff) envs = some ap) :
  ap = .grp ts peerId (entries.map fun entry => { entry with
    mPassedVetting := entry.mPassedVetting ||
      envs.any fun env => passesVetting env entry.mAuthorId cutOff }) cutOff
  := by
  induction envs generalizing entries with
  | nil => cases h
  | cons env envs ih =>
    rw [settle, vet, vetGrps] at h
    split at h
    case isTrue =>
      split at h
      case isTrue hnil =>
        rw [List.isEmpty_iff] at hnil
        rw [hnil, ← Option.some.inj h]
        simp only [List.any_cons, List.any_nil, Bool.or_false]
      case isFalse => cases h
    case isFalse =>
      rw [ih h, List.map_map]
      simp only [Function.comp_def, List.any_cons, Bool.or_assoc]

theorem AuthorPending.eq_of_settle_msg {entries : List MsgAuthEntry}
    (h : settle (.msg ts peerId entries cutOff) envs = some ap) :
  ap = .msg ts peerId (entries.map fun entry => { entry with
    mPassedVetting := entry.mPassedVetting ||
      envs.any fun env => passesVetting env entry.mAuthorId cutOff }) cutOff
  := by
  induction envs generalizing entries with
  | nil => cases h
  | cons env envs ih =>
    rw [settle, vet, vetMsgs] at h
    split at h
    case isTrue =>
      split at h
      case isTrue hnil =>
        rw [List.isEmpty_iff] at hnil
        rw [hnil, ← Option.some.inj h]
        simp only [List.any_cons, List.any_nil, Bool.or_false]
      case isFalse => cases h
    case isFalse =>
      rw [ih h, List.map_map]
      simp only [Function.comp_def, List.any_cons, Bool.or_assoc]

end

namespace RsGxsNetService

variable {cfg : NetConfig} {env : NetEnv} {svc : RsGxsNetService} {cutOff : Int}
  {envs : List NetEnv} {rep : RsGxsId → Int} {authorId : RsGxsId}

/-- An author whose reputation becomes known passes when the reputation is above the limit. -/
theorem any_passesVetting (hreports : ∀ e ∈ envs, e.Reports rep)
    (havail : ∃ e ∈ envs, e.haveReputation authorId = true) :
  (envs.any fun env => passesVetting env authorId cutOff) = true ↔ cutOff < rep authorId
  := by
  rw [List.any_eq_true]
  constructor
  · rintro ⟨e, he, hpass⟩
    rw [passesVetting, Bool.and_eq_true, decide_eq_true_eq] at hpass
    rw [← hreports e he authorId hpass.1]
    exact hpass.2
  · intro hlt
    obtain ⟨e, he, hhave⟩ := havail
    refine ⟨e, he, ?_⟩
    rw [passesVetting, hhave, hreports e he authorId hhave, Bool.true_and, decide_eq_true_eq]
    exact hlt

theorem cached_haveReputation (havail : ∃ e ∈ envs, e.haveReputation authorId = true) :
  (env.cached rep envs).haveReputation authorId = true
  := by
  rw [NetEnv.cached, Bool.or_eq_true, List.any_eq_true]
  exact .inr havail

/-! ### Groups -/

section Groups

variable (cfg env svc)

/-- The lists that `locked_genReqGrpTransaction` makes of a list of groups. -/
def offerGrps (items : List RsNxsSyncGrpItem) : ReqGrps :=
  items.foldl (svc.reqGrpStep cfg env) ⟨[], []⟩

/-- A group that is offered after others has to wait. -/
def GrpWaits (before : List RsNxsSyncGrpItem) (item : RsNxsSyncGrpItem) : Prop :=
  (svc.offerGrps cfg env (before ++ [item])).toVet ≠ (svc.offerGrps cfg env before).toVet

/-- A group that is offered after others is requested at once. -/
def GrpRequestedAtOnce (before : List RsNxsSyncGrpItem) (item : RsNxsSyncGrpItem) : Prop :=
  (svc.offerGrps cfg env (before ++ [item])).reqList ≠ (svc.offerGrps cfg env before).reqList

/-- The group is new, or in a new version. -/
def wantsGrp (item : RsNxsSyncGrpItem) : Bool :=
  let grpMeta := (svc.mDataStore.retrieveGxsGrpMetaData OrdMap.empty).get? item.grpId
  cfg.mGrpAutoSync && !grpMeta.isSome ||
    grpMeta.any fun grpMeta => grpMeta.any fun grpMeta => item.publishTs > grpMeta.mPublishTs

variable {cfg env svc} {before items : List RsNxsSyncGrpItem} {item : RsNxsSyncGrpItem}

theorem offerGrps_concat (before : List RsNxsSyncGrpItem) (item : RsNxsSyncGrpItem) :
  svc.offerGrps cfg env (before ++ [item]) =
    svc.reqGrpStep cfg env (svc.offerGrps cfg env before) item
  := by
  rw [offerGrps, offerGrps, List.foldl_append, List.foldl_cons, List.foldl_nil]

theorem reqGrpStep_eq (r : ReqGrps) (item : RsNxsSyncGrpItem) :
  svc.reqGrpStep cfg env r item =
    if svc.wantsGrp cfg item = true then
      if item.authorId ≠ 0 ∧ env.haveReputation item.authorId = false then
        { r with toVet := r.toVet ++ [⟨item.grpId, item.authorId, false⟩] }
      else if item.authorId = 0 ∨ gixsCutOff ≤ env.getReputation item.authorId then
        { r with reqList := r.reqList ++ [item.grpId] }
      else r
    else r
  := by
  have hwants : svc.wantsGrp cfg item = true ↔ (cfg.mGrpAutoSync = true ∧
      (!((svc.mDataStore.retrieveGxsGrpMetaData OrdMap.empty).get? item.grpId).isSome) = true) ∨
        (((svc.mDataStore.retrieveGxsGrpMetaData OrdMap.empty).get? item.grpId).any fun grpMeta =>
          grpMeta.any fun grpMeta => item.publishTs > grpMeta.mPublishTs) = true := by
    rw [wantsGrp, Bool.or_eq_true, Bool.and_eq_true]
  rw [reqGrpStep, if_congr hwants.symm rfl rfl]
  split
  case isFalse => rfl
  case isTrue =>
    by_cases hauthor : item.authorId = 0
    case pos => simp [hauthor]
    case neg =>
      cases hhave : env.haveReputation item.authorId with
      | false => simp [hauthor]
      | true => simp [hauthor]

theorem grpWaits_iff :
  svc.GrpWaits cfg env before item ↔
    svc.wantsGrp cfg item = true ∧ item.authorId ≠ 0 ∧ env.haveReputation item.authorId = false
  := by
  rw [GrpWaits, offerGrps_concat, reqGrpStep_eq]
  split_ifs with hwants hvet hreq
  · simp [hwants, hvet]
  · simp only [hwants, hvet, ne_eq, not_true_eq_false, and_false]
  · simp only [hwants, hvet, ne_eq, not_true_eq_false, and_false]
  · simp [hwants]

theorem grpRequestedAtOnce_iff (hwants : svc.wantsGrp cfg item = true) (hauthor : item.authorId ≠ 0)
    (hhave : env.haveReputation item.authorId = true) :
  svc.GrpRequestedAtOnce cfg env before item ↔ gixsCutOff ≤ env.getReputation item.authorId
  := by
  rw [GrpRequestedAtOnce, offerGrps_concat, reqGrpStep_eq, if_pos hwants,
    if_neg (by simp [hhave]), if_congr (or_iff_right hauthor) rfl rfl]
  split
  case isTrue h => simp [h]
  case isFalse h => simp [h]

theorem mem_toVet_of_grpWaits (h : svc.GrpWaits cfg env before item)
    (after : List RsNxsSyncGrpItem) :
  ⟨item.grpId, item.authorId, false⟩ ∈ (svc.offerGrps cfg env (before ++ item :: after)).toVet
  := by
  obtain ⟨hwants, hvet⟩ := grpWaits_iff.mp h
  induction after using List.reverseRecOn with
  | nil =>
    rw [offerGrps_concat, reqGrpStep_eq, if_pos hwants, if_pos hvet]
    exact List.mem_append_right _ List.mem_cons_self
  | append_singleton after i ih =>
    rw [← List.cons_append, ← List.append_assoc, offerGrps_concat, reqGrpStep_eq]
    split_ifs
    · exact List.mem_append_left _ ih
    · exact ih
    · exact ih
    · exact ih

theorem mPassedVetting_of_mem_toVet {entry : GrpAuthEntry}
    (h : entry ∈ (svc.offerGrps cfg env items).toVet) :
  entry.mPassedVetting = false
  := by
  induction items using List.reverseRecOn with
  | nil => cases h
  | append_singleton items i ih =>
    rw [offerGrps_concat, reqGrpStep_eq] at h
    split_ifs at h
    · rcases List.mem_append.mp h with h | h
      · exact ih h
      · rw [List.mem_singleton.mp h]
    · exact ih h
    · exact ih h
    · exact ih h

/-- A group that has waited, and whose author has become known, is requested exactly when it would
have been requested at once with the reputations known. -/
def GrpsAgree (cfg : NetConfig) (env : NetEnv) (svc : RsGxsNetService) (rep : RsGxsId → Int)
    (envs : List NetEnv) (items : List RsNxsSyncGrpItem) (entries : List GrpAuthEntry) : Prop :=
  ∀ before item after, items = before ++ item :: after → svc.GrpWaits cfg env before item →
    (∃ e ∈ envs, e.haveReputation item.authorId = true) →
    (⟨item.grpId, item.authorId, true⟩ ∈ entries ↔
      svc.GrpRequestedAtOnce cfg (env.cached rep envs) before item)

theorem grpsAgree_iff {peerId : RsPeerId} {entries : List GrpAuthEntry}
    (hreports : ∀ e ∈ envs, e.Reports rep)
    (hsettle : AuthorPending.settle
      (.grp env.now peerId (svc.offerGrps cfg env items).toVet 0) envs =
        some (.grp env.now peerId entries 0)) :
  svc.GrpsAgree cfg env rep envs items entries ↔
    ∀ before item after, items = before ++ item :: after → svc.GrpWaits cfg env before item →
      (∃ e ∈ envs, e.haveReputation item.authorId = true) → rep item.authorId ≠ gixsCutOff
  := by
  obtain ⟨-, -, hentries, -⟩ := AuthorPending.grp.inj (AuthorPending.eq_of_settle_grp hsettle)
  apply forall_congr'
  intro before
  apply forall_congr'
  intro item
  apply forall_congr'
  intro after
  apply imp_congr_right
  rintro rfl
  apply imp_congr_right
  intro hwaits
  apply imp_congr_right
  intro hknown
  obtain ⟨hwants, hauthor, -⟩ := grpWaits_iff.mp hwaits
  have hmem := mem_toVet_of_grpWaits hwaits after
  have hatOnce : svc.GrpRequestedAtOnce cfg (env.cached rep envs) before item ↔
      gixsCutOff ≤ rep item.authorId :=
    grpRequestedAtOnce_iff hwants hauthor (cached_haveReputation hknown)
  have hlater : ⟨item.grpId, item.authorId, true⟩ ∈ entries ↔ 0 < rep item.authorId := by
    rw [← any_passesVetting hreports hknown, hentries, List.mem_map]
    constructor
    · rintro ⟨e, he, heq⟩
      rw [mPassedVetting_of_mem_toVet he, Bool.false_or, GrpAuthEntry.mk.injEq] at heq
      rw [← heq.2.1]
      exact heq.2.2
    · intro hany
      refine ⟨_, hmem, ?_⟩
      rw [Bool.false_or, hany]
  rw [hatOnce, hlater, gixsCutOff]
  omega

end Groups

/-! ### Messages -/

section Messages

variable (env svc)

/-- The lists that `locked_genReqMsgTransaction` makes of a list of messages that begins with one of
the group. -/
def offerMsgs (grpId : RsGxsGroupId) (cutoff : Int) (items : List RsNxsSyncMsgItem) : ReqMsgs :=
  items.foldl (reqMsgStep env ((svc.msgMetasOf grpId).map fun m => m.mMsgId) cutoff) ⟨[], [], false⟩

/-- A message that is offered after others has to wait. -/
def MsgWaits (grpId : RsGxsGroupId) (cutoff : Int) (before : List RsNxsSyncMsgItem)
    (item : RsNxsSyncMsgItem) : Prop :=
  (svc.offerMsgs env grpId cutoff (before ++ [item])).toVet ≠
    (svc.offerMsgs env grpId cutoff before).toVet

/-- A message that is offered after others is requested at once. -/
def MsgRequestedAtOnce (grpId : RsGxsGroupId) (cutoff : Int) (before : List RsNxsSyncMsgItem)
    (item : RsNxsSyncMsgItem) : Prop :=
  (svc.offerMsgs env grpId cutoff (before ++ [item])).reqList ≠
    (svc.offerMsgs env grpId cutoff before).reqList

/-- The message is not in the store. -/
def isNewMsg (grpId : RsGxsGroupId) (item : RsNxsSyncMsgItem) : Bool :=
  item.msgId ∉ (svc.msgMetasOf grpId).map (fun m => m.mMsgId)

/-- The message is new, and has no author or one whose reputation is known and above the limit. -/
def wantsMsg (grpId : RsGxsGroupId) (cutoff : Int) (item : RsNxsSyncMsgItem) : Bool :=
  svc.isNewMsg grpId item && (item.authorId = 0 ||
    env.haveReputation item.authorId && cutoff < env.getReputation item.authorId)

variable {env svc} {grpId : RsGxsGroupId} {cutoff : Int} {item : RsNxsSyncMsgItem}
  {before items : List RsNxsSyncMsgItem}

theorem offerMsgs_concat (before : List RsNxsSyncMsgItem) (item : RsNxsSyncMsgItem) :
  svc.offerMsgs env grpId cutoff (before ++ [item]) =
    reqMsgStep env ((svc.msgMetasOf grpId).map fun m => m.mMsgId) cutoff
      (svc.offerMsgs env grpId cutoff before) item
  := by
  rw [offerMsgs, offerMsgs, List.foldl_append, List.foldl_cons, List.foldl_nil]

theorem reqMsgStep_eq (r : ReqMsgs) (item : RsNxsSyncMsgItem) :
  reqMsgStep env ((svc.msgMetasOf grpId).map fun m => m.mMsgId) cutoff r item =
    if maxReqListSize ≤ r.reqList.length then { r with reqListSizeExceeded := true }
    else if svc.wantsMsg env grpId cutoff item = true then
      { r with reqList := r.reqList ++ [item] }
    else if svc.isNewMsg grpId item = true ∧ item.authorId ≠ 0 ∧
        env.haveReputation item.authorId = false then
      { r with toVet := r.toVet ++ [⟨item.msgId, item.grpId, item.authorId, false⟩] }
    else r
  := by
  rw [reqMsgStep, wantsMsg, isNewMsg]
  apply if_congr Iff.rfl rfl
  by_cases hset : item.msgId ∈ (svc.msgMetasOf grpId).map fun m => m.mMsgId
  case pos => simp [hset]
  case neg =>
    by_cases hauthor : item.authorId = 0
    case pos => simp [hset, hauthor]
    case neg =>
      cases hhave : env.haveReputation item.authorId with
      | false => simp [hset, hauthor]
      | true => simp [hset, hauthor]

theorem msgWaits_iff :
  svc.MsgWaits env grpId cutoff before item ↔
    (svc.offerMsgs env grpId cutoff before).reqList.length < maxReqListSize ∧
      svc.isNewMsg grpId item = true ∧ item.authorId ≠ 0 ∧
      env.haveReputation item.authorId = false
  := by
  rw [MsgWaits, offerMsgs_concat, reqMsgStep_eq]
  split_ifs with hfull hwants hvet
  · exact iff_of_false (fun h => h rfl) fun h => absurd h.1 (Nat.not_lt.mpr hfull)
  · refine iff_of_false (fun h => h rfl) fun h => ?_
    simp [wantsMsg, h] at hwants
  · exact iff_of_true (by simp) ⟨Nat.not_le.mp hfull, hvet⟩
  · exact iff_of_false (fun h => h rfl) fun h => hvet h.2

theorem msgRequestedAtOnce_iff :
  svc.MsgRequestedAtOnce env grpId cutoff before item ↔
    (svc.offerMsgs env grpId cutoff before).reqList.length < maxReqListSize ∧
      svc.wantsMsg env grpId cutoff item = true
  := by
  rw [MsgRequestedAtOnce, offerMsgs_concat, reqMsgStep_eq]
  split_ifs with hfull hwants hvet
  · exact iff_of_false (fun h => h rfl) fun h => absurd h.1 (Nat.not_lt.mpr hfull)
  · exact iff_of_true (by simp) ⟨Nat.not_le.mp hfull, hwants⟩
  · exact iff_of_false (fun h => h rfl) fun h => hwants h.2
  · exact iff_of_false (fun h => h rfl) fun h => hwants h.2

theorem mem_toVet_of_msgWaits (h : svc.MsgWaits env grpId cutoff before item)
    (after : List RsNxsSyncMsgItem) :
  ⟨item.msgId, item.grpId, item.authorId, false⟩ ∈
    (svc.offerMsgs env grpId cutoff (before ++ item :: after)).toVet
  := by
  obtain ⟨hroom, hvet⟩ := msgWaits_iff.mp h
  induction after using List.reverseRecOn with
  | nil =>
    rw [offerMsgs_concat, reqMsgStep_eq, if_neg (Nat.not_le.mpr hroom),
      if_neg (by simp [wantsMsg, hvet]), if_pos hvet]
    exact List.mem_append_right _ List.mem_cons_self
  | append_singleton after i ih =>
    rw [← List.cons_append, ← List.append_assoc, offerMsgs_concat, reqMsgStep_eq]
    split_ifs
    · exact ih
    · exact ih
    · exact List.mem_append_left _ ih
    · exact ih

theorem length_reqList :
  (svc.offerMsgs env grpId cutoff items).reqList.length =
    min maxReqListSize (items.filter (svc.wantsMsg env grpId cutoff)).length
  := by
  induction items using List.reverseRecOn with
  | nil => rfl
  | append_singleton items i ih =>
    rw [offerMsgs_concat, List.filter_append, List.length_append, reqMsgStep_eq,
      List.filter_singleton]
    split_ifs with hfull hwants hvet
    · simp only
      omega
    · rw [hwants]
      simp only [List.length_append, List.length_singleton, cond_true]
      omega
    · rw [Bool.eq_false_of_not_eq_true hwants]
      simpa using ih
    · rw [Bool.eq_false_of_not_eq_true hwants]
      simpa using ih

theorem mPassedVetting_of_mem_toVet_msgs {entry : MsgAuthEntry}
    (h : entry ∈ (svc.offerMsgs env grpId cutoff items).toVet) :
  entry.mPassedVetting = false
  := by
  induction items using List.reverseRecOn with
  | nil => cases h
  | append_singleton items i ih =>
    rw [offerMsgs_concat, reqMsgStep_eq] at h
    split_ifs at h
    · exact ih h
    · exact ih h
    · rcases List.mem_append.mp h with h | h
      · exact ih h
      · rw [List.mem_singleton.mp h]
    · exact ih h

/-- A message that has waited, and whose author has become known, is requested exactly when it would
have been requested at once with the reputations known, and of the same group. -/
def MsgsAgree (env : NetEnv) (svc : RsGxsNetService) (rep : RsGxsId → Int) (envs : List NetEnv)
    (grpId : RsGxsGroupId) (cutoff : Int) (items : List RsNxsSyncMsgItem)
    (entries : List MsgAuthEntry) : Prop :=
  ∀ before item after, items = before ++ item :: after →
    svc.MsgWaits env grpId cutoff before item →
    (∃ e ∈ envs, e.haveReputation item.authorId = true) →
    (⟨item.msgId, item.grpId, item.authorId, true⟩ ∈ entries ↔
      svc.MsgRequestedAtOnce (env.cached rep envs) grpId cutoff before item) ∧
    (⟨item.msgId, item.grpId, item.authorId, true⟩ ∈ entries → item.grpId = grpId)

theorem msgsAgree_iff {peerId : RsPeerId} {entries : List MsgAuthEntry}
    (hreports : ∀ e ∈ envs, e.Reports rep)
    (hsettle : AuthorPending.settle
      (.msg env.now peerId (svc.offerMsgs env grpId cutoff items).toVet cutoff) envs =
        some (.msg env.now peerId entries cutoff)) :
  svc.MsgsAgree env rep envs grpId cutoff items entries ↔
    ∀ before item after, items = before ++ item :: after →
      svc.MsgWaits env grpId cutoff before item →
      (∃ e ∈ envs, e.haveReputation item.authorId = true) → cutoff < rep item.authorId →
        item.grpId = grpId ∧ (before.filter
          (svc.wantsMsg (env.cached rep envs) grpId cutoff)).length < maxReqListSize
  := by
  obtain ⟨-, -, hentries, -⟩ := AuthorPending.msg.inj (AuthorPending.eq_of_settle_msg hsettle)
  apply forall_congr'
  intro before
  apply forall_congr'
  intro item
  apply forall_congr'
  intro after
  apply imp_congr_right
  rintro rfl
  apply imp_congr_right
  intro hwaits
  apply imp_congr_right
  intro hknown
  obtain ⟨-, hnew, hauthor, -⟩ := msgWaits_iff.mp hwaits
  have hmem := mem_toVet_of_msgWaits hwaits after
  have hlater : ⟨item.msgId, item.grpId, item.authorId, true⟩ ∈ entries ↔
      cutoff < rep item.authorId := by
    rw [← any_passesVetting hreports hknown, hentries, List.mem_map]
    constructor
    · rintro ⟨e, he, heq⟩
      rw [mPassedVetting_of_mem_toVet_msgs he, Bool.false_or, MsgAuthEntry.mk.injEq] at heq
      rw [← heq.2.2.1]
      exact heq.2.2.2
    · intro hany
      refine ⟨_, hmem, ?_⟩
      rw [Bool.false_or, hany]
  have hwants : svc.wantsMsg (env.cached rep envs) grpId cutoff item = true ↔
      cutoff < rep item.authorId := by
    rw [wantsMsg, hnew, cached_haveReputation hknown, decide_eq_false hauthor, Bool.true_and,
      Bool.false_or, Bool.true_and, decide_eq_true_iff]
    rfl
  rw [hlater, msgRequestedAtOnce_iff, length_reqList, hwants, min_lt_iff,
    or_iff_right (lt_irrefl maxReqListSize)]
  constructor
  · rintro ⟨hroom, hgrp⟩ hlt
    exact ⟨hgrp hlt, (hroom.mp hlt).1⟩
  · intro h
    exact ⟨⟨fun hlt => ⟨(h hlt).2, hlt⟩, fun hand => hand.2⟩, fun hlt => (h hlt).1⟩

end Messages

/-! ### Both kinds of entries -/

/-- What is requested from the queue, of the items whose author becomes known before the entry
settles, is what would have been requested at once: for groups exactly when no such author has the
reputation that is the limit, and for messages exactly when those that pass are of the group of the
list, and come before the list of requests is full. -/
theorem vetting_agrees_iff (hreports : ∀ e ∈ env :: envs, e.Reports rep) :
  (∀ peerId items entries,
    AuthorPending.settle (.grp env.now peerId (svc.offerGrps cfg env items).toVet 0) envs =
      some (.grp env.now peerId entries 0) →
    (svc.GrpsAgree cfg env rep envs items entries ↔
      ∀ before item after, items = before ++ item :: after →
        svc.GrpWaits cfg env before item →
        (∃ e ∈ envs, e.haveReputation item.authorId = true) → rep item.authorId ≠ gixsCutOff)) ∧
  ∀ peerId grpId cutoff items entries,
    AuthorPending.settle (.msg env.now peerId (svc.offerMsgs env grpId cutoff items).toVet cutoff)
      envs = some (.msg env.now peerId entries cutoff) →
    (svc.MsgsAgree env rep envs grpId cutoff items entries ↔
      ∀ before item after, items = before ++ item :: after →
        svc.MsgWaits env grpId cutoff before item →
        (∃ e ∈ envs, e.haveReputation item.authorId = true) → cutoff < rep item.authorId →
          item.grpId = grpId ∧ (before.filter
            (svc.wantsMsg (env.cached rep envs) grpId cutoff)).length < maxReqListSize)
  := by
  rw [List.forall_mem_cons] at hreports
  constructor
  · intro peerId items entries
    exact grpsAgree_iff hreports.2
  · intro peerId grpId cutoff items entries
    exact msgsAgree_iff hreports.2

end RsGxsNetService

/-- A moment at which the reputations of the authors below `n` are known. -/
def ratedEnv (now : Nat) (n : RsGxsId) : NetEnv :=
  { plainEnv now with
    haveReputation := fun authorId => authorId < n
    getReputation := fun authorId => authorId - 5 }

theorem reports_ratedEnv (now : Nat) (n : RsGxsId) :
  (ratedEnv now n).Reports fun authorId => authorId - 5
  := fun _ _ => rfl

open RsGxsNetService in
/-- Three groups and four messages.  One author is never known, another one only when the entries
are too old, and some do not pass. -/
theorem vetting_agrees_iff_threeGroups :
  (init plainStart).GrpsAgree plainConfig (ratedEnv 100 0) (fun authorId => authorId - 5)
    [ratedEnv 110 5, ratedEnv 131 8] [⟨21, 0, 7⟩, ⟨22, 0, 4⟩, ⟨23, 0, 9⟩]
    [⟨21, 7, true⟩, ⟨22, 4, false⟩, ⟨23, 9, false⟩] ∧
  (init plainStart).MsgsAgree (ratedEnv 100 0) (fun authorId => authorId - 5)
    [ratedEnv 110 5, ratedEnv 131 8] 3 1 [⟨3, 31, 0⟩, ⟨3, 32, 7⟩, ⟨3, 33, 6⟩, ⟨3, 34, 9⟩]
    [⟨32, 3, 7, true⟩, ⟨33, 3, 6, false⟩, ⟨34, 3, 9, false⟩]
  := by
  have hreports : ∀ e ∈ [ratedEnv 100 0, ratedEnv 110 5, ratedEnv 131 8],
      e.Reports fun authorId => authorId - 5 := by
    simp [reports_ratedEnv]
  have hagrees := @vetting_agrees_iff plainConfig (ratedEnv 100 0) (init plainStart)
    [ratedEnv 110 5, ratedEnv 131 8] (fun authorId => authorId - 5) hreports
  constructor
  · apply (hagrees.1 2 _ _ (by decide +kernel)).mpr
    intro before item after hitems _ _
    have hmem : item ∈ before ++ item :: after := List.mem_append_right _ List.mem_cons_self
    rw [← hitems] at hmem
    exact (by decide : ∀ item ∈ ([⟨21, 0, 7⟩, ⟨22, 0, 4⟩, ⟨23, 0, 9⟩] : List RsNxsSyncGrpItem),
      ((item.authorId : Int) - 5) ≠ gixsCutOff) item hmem
  · apply (hagrees.2 2 3 1 _ _ (by decide +kernel)).mpr
    intro before item after hitems _ _ _
    have hmem : item ∈ before ++ item :: after := List.mem_append_right _ List.mem_cons_self
    have hlength := congrArg List.length hitems
    rw [List.length_append, List.length_cons] at hlength
    rw [← hitems] at hmem
    constructor
    · exact (by decide : ∀ item ∈ ([⟨3, 31, 0⟩, ⟨3, 32, 7⟩, ⟨3, 33, 6⟩, ⟨3, 34, 9⟩] :
        List RsNxsSyncMsgItem), item.grpId = 3) item hmem
    · apply lt_of_le_of_lt (List.length_filter_le _ _)
      rw [maxReqListSize]
      simp only [List.length_cons, List.length_nil] at hlength
      omega

open RsGxsNetService in
/-- A group whose author turns out to have the reputation `0` is not requested, although it would
have been requested at once. -/
theorem not_vetting_agrees_zero :
  ¬ ∀ (cfg : NetConfig) (env : NetEnv) (svc : RsGxsNetService) (rep : RsGxsId → Int)
    (envs : List NetEnv) (peerId : RsPeerId) (items : List RsNxsSyncGrpItem)
    (entries : List GrpAuthEntry),
    (∀ e ∈ env :: envs, e.Reports rep) →
    AuthorPending.settle (.grp env.now peerId (svc.offerGrps cfg env items).toVet 0) envs =
      some (.grp env.now peerId entries 0) →
    svc.GrpsAgree cfg env rep envs items entries
  := by
  intro h
  have hreports : ∀ e ∈ [ratedEnv 100 0, ratedEnv 101 6, ratedEnv 131 6],
      e.Reports fun authorId => authorId - 5 := by
    simp [reports_ratedEnv]
  have hagree := h plainConfig (ratedEnv 100 0) (init plainStart) (fun authorId => authorId - 5)
    [ratedEnv 101 6, ratedEnv 131 6] 2 [⟨21, 0, 5⟩] [⟨21, 5, false⟩] hreports (by decide +kernel)
    [] ⟨21, 0, 5⟩ [] rfl (by
      rw [GrpWaits]
      decide +kernel) ⟨_, List.mem_cons_self, by decide⟩
  have hatOnce : (init plainStart).GrpRequestedAtOnce plainConfig
      ((ratedEnv 100 0).cached (fun authorId => authorId - 5) [ratedEnv 101 6, ratedEnv 131 6]) []
      ⟨21, 0, 5⟩ := by
    rw [GrpRequestedAtOnce]
    decide +kernel
  exact absurd (hagree.mpr hatOnce) (by decide)

end Gxs
