import RetroShare.Gxs.NetService

/-!
# What stops the service

A peer chooses the type of a transaction and the classes of its items.  The loops over a
transaction of groups, or of messages, take an item from the front only when it has the class that
they look for, so that another item keeps them turning forever.

The metadata of a group that is not in the store is a null pointer.  It is dereferenced when a list
of messages of the group has come, and when a publish key of the group has come.
-/

namespace Gxs

namespace RsGxsNetService

variable {cfg : NetConfig} {env : NetEnv} {svc : RsGxsNetService}

/-! ### Loops -/

section Loops

variable {α : Type} {cast : RsNxsItem → Option α} {items : List RsNxsItem} {taken : List α}

theorem takeItems_of_forall (h : ∀ item ∈ items, (cast item).isSome) (fuel : Nat) (taken : List α) :
  (takeItems cast (items.length + 1 + fuel) items taken).isSome
  := by
  induction items generalizing taken with
  | nil =>
    rw [List.length_nil, Nat.zero_add, Nat.add_comm, takeItems]
    rfl
  | cons item items ih =>
    obtain ⟨value, hvalue⟩ := Option.isSome_iff_exists.mp (h item List.mem_cons_self)
    rw [List.length_cons, Nat.add_right_comm, takeItems, hvalue]
    exact ih (fun i hi => h i (List.mem_cons_of_mem item hi)) _

theorem takeItems_of_exists (h : ∃ item ∈ items, cast item = none) (fuel : Nat) (taken : List α) :
  takeItems cast fuel items taken = none
  := by
  induction fuel generalizing items taken with
  | zero => rfl
  | succ fuel ih =>
    cases items with
    | nil =>
      obtain ⟨item, hmem, -⟩ := h
      cases hmem
    | cons item items =>
      rw [takeItems]
      cases hcast : cast item with
      | none => exact ih h taken
      | some value =>
        obtain ⟨other, hmem, hnone⟩ := h
        rcases List.mem_cons.mp hmem with rfl | hmem
        · rw [hcast] at hnone
          cases hnone
        · exact ih ⟨other, hmem, hnone⟩ _

theorem exists_takeItems_iff :
  (∃ fuel, (takeItems cast fuel items taken).isSome) ↔ ∀ item ∈ items, (cast item).isSome
  := by
  constructor
  · rintro ⟨fuel, hends⟩ item hmem
    by_contra hnone
    rw [Option.not_isSome_iff_eq_none] at hnone
    rw [takeItems_of_exists ⟨item, hmem, hnone⟩] at hends
    cases hends
  · exact fun h => ⟨_, takeItems_of_forall h 0 taken⟩

theorem takeItems_length_iff :
  (takeItems cast (items.length + 1) items taken).isSome ↔ ∀ item ∈ items, (cast item).isSome
  := by
  constructor
  · exact fun hends => exists_takeItems_iff.mp ⟨_, hends⟩
  · exact fun h => takeItems_of_forall h 0 taken

end Loops

/-- The processing of a transaction ends. -/
def Terminates (cfg : NetConfig) (env : NetEnv) (svc : RsGxsNetService) (tr : NxsTransaction) :
    Prop :=
  ∃ fuel, (svc.processCompletedIncomingTransIn cfg env fuel tr).isSome

end RsGxsNetService

/-- The type of a transaction is looked for before the types of groups and messages. -/
def NxsTransaction.isList (tr : NxsTransaction) : Bool :=
  hasFlag tr.mTransaction.transactFlag flagTypeMsgListResp ||
    hasFlag tr.mTransaction.transactFlag flagTypeGrpListResp ||
    hasFlag tr.mTransaction.transactFlag flagTypeMsgListReq ||
    hasFlag tr.mTransaction.transactFlag flagTypeGrpListReq

/-- The items of a transaction have the class that the loops look for: a completed transaction of
groups has groups only, and one of messages has messages only. -/
def NxsTransaction.WellTyped (tr : NxsTransaction) : Prop :=
  tr.mFlag = .completed → tr.isList = false →
    if hasFlag tr.mTransaction.transactFlag flagTypeGrps then
      ∀ item ∈ tr.mItems, item.toGrp?.isSome
    else
      hasFlag tr.mTransaction.transactFlag flagTypeMsgs = true →
        ∀ item ∈ tr.mItems, item.toMsg?.isSome

namespace RsGxsNetService

variable {cfg : NetConfig} {env : NetEnv} {svc : RsGxsNetService} {tr : NxsTransaction} {fuel : Nat}

theorem isSome_processCompletedIncomingTransIn :
  (svc.processCompletedIncomingTransIn cfg env fuel tr).isSome ↔
    (tr.mFlag = .completed → tr.isList = false →
      if hasFlag tr.mTransaction.transactFlag flagTypeGrps then
        (takeItems RsNxsItem.toGrp? fuel tr.mItems []).isSome
      else
        hasFlag tr.mTransaction.transactFlag flagTypeMsgs = true →
          (takeItems RsNxsItem.toMsg? fuel tr.mItems []).isSome)
  := by
  rw [processCompletedIncomingTransIn, NxsTransaction.isList]
  dsimp only
  by_cases hflag : tr.mFlag = .completed
  case neg => simp [hflag]
  case pos =>
    rw [if_neg (not_not.mpr hflag)]
    split
    case isTrue h => simp [h]
    case isFalse hmsgResp =>
      split
      case isTrue h => simp [h]
      case isFalse hgrpResp =>
        split
        case isTrue h => simp [h]
        case isFalse hmsgReq =>
          split
          case isTrue h => simp [h]
          case isFalse hgrpReq =>
            rw [Bool.not_eq_true] at hmsgResp hgrpResp hmsgReq hgrpReq
            split
            case isTrue hgrps => simp [hflag, hmsgResp, hgrpResp, hmsgReq, hgrpReq]
            case isFalse hgrps =>
              split
              case isTrue hmsgs =>
                simp [hflag, hmsgResp, hgrpResp, hmsgReq, hgrpReq, hmsgs]
              case isFalse hmsgs => simp [hmsgs]

theorem wellTyped_of_isSome (h : (svc.processCompletedIncomingTransIn cfg env fuel tr).isSome) :
  tr.WellTyped
  := by
  rw [isSome_processCompletedIncomingTransIn] at h
  intro hflag hlist
  have hends := h hflag hlist
  split at hends
  case isTrue hgrps =>
    rw [if_pos hgrps]
    exact exists_takeItems_iff.mp ⟨fuel, hends⟩
  case isFalse hgrps =>
    rw [if_neg hgrps]
    exact fun hmsgs => exists_takeItems_iff.mp ⟨fuel, hends hmsgs⟩

/-- The turns that the model gives to the loops are enough. -/
theorem isSome_of_wellTyped (h : tr.WellTyped) :
  (svc.processCompletedIncomingTransIn cfg env (tr.mItems.length + 1) tr).isSome
  := by
  rw [isSome_processCompletedIncomingTransIn]
  intro hflag hlist
  have htyped := h hflag hlist
  split at htyped
  case isTrue hgrps =>
    rw [if_pos hgrps]
    exact takeItems_length_iff.mpr htyped
  case isFalse hgrps =>
    rw [if_neg hgrps]
    exact fun hmsgs => takeItems_length_iff.mpr (htyped hmsgs)

/-- The processing of a transaction ends exactly when its items have the class that the loop for
its type looks for. -/
theorem processCompletedTransactions_terminates_iff (cfg : NetConfig) (env : NetEnv)
    (svc : RsGxsNetService) (tr : NxsTransaction) :
  svc.Terminates cfg env tr ↔ tr.WellTyped
  := by
  constructor
  · rintro ⟨fuel, h⟩
    exact wellTyped_of_isSome h
  · exact fun h => ⟨_, isSome_of_wellTyped h⟩

end RsGxsNetService

/-! #### A transaction of groups with another item -/

/-- A node that asks nobody. -/
def plainConfig : NetConfig := ⟨1, true, true, fun _ _ => true, id⟩

/-- A moment at which nothing is known about circles and authors. -/
def plainEnv (now : Nat) : NetEnv :=
  ⟨now, fun _ => false, fun _ => false, fun _ => 0, [], fun _ _ => true⟩

/-- A node that has nothing. -/
def plainStart : NetStart :=
  ⟨OrdMap.empty, OrdMap.empty, OrdMap.empty, none, ⟨OrdMap.empty, [], by decide⟩⟩

/-- The peer `2` announces a transaction with one item, and sends it after the answer; the
transaction is completed and moves to the completed ones. -/
def oneItemInputs (transactFlag : UInt16) (body : NxsBody) : List NetInput :=
  [.recvItem ⟨2, 7, .transac transactFlag 1 0⟩ (plainEnv 100), .processTransactions (plainEnv 101),
    .recvItem ⟨2, 7, body⟩ (plainEnv 102), .processTransactions (plainEnv 103),
    .processTransactions (plainEnv 104)]

/-- A transaction of groups whose only item is a list item is completed, and its processing never
ends. -/
theorem not_terminates_listItem :
  ¬ ∀ (cfg : NetConfig) (env : NetEnv) (start : NetStart) (inputs : List NetInput),
    let svc := (RsGxsNetService.machine cfg).run (RsGxsNetService.init start) inputs
    ∀ tr ∈ svc.mComplTransactions, tr.mTransaction.peerId ≠ cfg.mOwnId → svc.Terminates cfg env tr
  := by
  intro h
  let item : RsNxsItem := ⟨2, 7, .syncGrpItem ⟨5, 0, 0⟩⟩
  let tr : NxsTransaction :=
    ⟨.completed, 2100, ⟨2, 7, flagBeginP1 ||| flagTypeGrps, 1, 0⟩, [item]⟩
  have hmem : tr ∈ ((RsGxsNetService.machine plainConfig).run (RsGxsNetService.init plainStart)
      (oneItemInputs (flagBeginP1 ||| flagTypeGrps) item.body)).mComplTransactions := by
    decide +kernel
  obtain ⟨fuel, hends⟩ := h plainConfig (plainEnv 105) plainStart
    (oneItemInputs (flagBeginP1 ||| flagTypeGrps) item.body) tr hmem (by decide)
  have hgrp := RsGxsNetService.wellTyped_of_isSome hends rfl (by decide)
  rw [if_pos (by decide)] at hgrp
  exact absurd (hgrp item List.mem_cons_self) (by decide)

/-! ### Null pointers -/

namespace RsGxsNetService

/-- The groups whose metadata an operation looks up are in the store: the group of a publish key
that has come, and the groups of the lists of messages that have come. -/
def KnownGroups (cfg : NetConfig) (svc : RsGxsNetService) : NetInput → Prop
  | .recvItem item _ =>
      ∀ grpId key, item.transactionNumber = 0 → item.body = .publishKey grpId key →
        publishPrivateKey key = true → (svc.mDataStore.grpMeta? grpId).isSome
  | .processCompletedTransactions _ =>
      ∀ tr ∈ svc.mComplTransactions, tr.mTransaction.peerId ≠ cfg.mOwnId → tr.mFlag = .completed →
        hasFlag tr.mTransaction.transactFlag flagTypeMsgListResp = true →
          ∀ first ∈ (tr.mItems.filterMap RsNxsItem.toSyncMsgItem?).head?,
            (svc.mDataStore.grpMeta? first.grpId).isSome
  | _ => True

variable {cfg : NetConfig} {env : NetEnv} {svc : RsGxsNetService} {store : RsDataService}
  {grpId : RsGxsGroupId} {tr : NxsTransaction}

/-- The service has not stopped at a null pointer, and its store has not changed. -/
structure Sound (store : RsDataService) (svc : RsGxsNetService) : Prop where
  fault : svc.fault ≠ some .nullPointer
  store : svc.mDataStore = store

section

variable (h : svc.Sound store)

include h

theorem Sound.congr {svc' : RsGxsNetService} (hfault : svc'.fault = svc.fault)
    (hstore : svc'.mDataStore = svc.mDataStore) :
  svc'.Sound store
  := by
  constructor
  case fault => rw [hfault]; exact h.fault
  case store => rw [hstore]; exact h.store

theorem Sound.pushTransaction {type : UInt16} {updateTS : Nat} {items : List RsNxsItem}
    {peerId : RsPeerId} {transN : Nat} :
  (svc.pushTransaction cfg env type updateTS items peerId transN).Sound store
  := h.congr pushTransaction_fault pushTransaction_mDataStore

theorem Sound.sendItem (item : RsNxsItem) :
  (svc.sendItem item).Sound store
  := h.congr rfl rfl

theorem Sound.markPartial {peer : RsPeerId} {exceeded : Bool} :
  (svc.markPartial peer grpId exceeded).Sound store
  := h.congr rfl rfl

theorem Sound.foldl {α : Type} {f : RsGxsNetService → α → RsGxsNetService} {l : List α}
    (hf : ∀ (svc : RsGxsNetService), ∀ a ∈ l, svc.Sound store → (f svc a).Sound store) :
  (l.foldl f svc).Sound store
  := by
  induction l generalizing svc with
  | nil => exact h
  | cons a l ih =>
    apply ih (hf svc a List.mem_cons_self h)
    exact fun svc b hb => hf svc b (List.mem_cons_of_mem a hb)

theorem Sound.processTransac (item : RsNxsTransac) :
  (svc.processTransac cfg env item).Sound store
  := by
  rw [RsGxsNetService.processTransac]
  repeat' split
  all_goals exact h.congr rfl rfl

theorem Sound.handleTransaction (item : RsNxsItem) :
  (svc.handleTransaction cfg env item).Sound store
  := by
  rw [RsGxsNetService.handleTransaction]
  split
  · apply h.processTransac
  · dsimp only
    split <;> exact h.congr rfl rfl

theorem Sound.handleRecvSyncGroup (peer : RsPeerId) (updateTS : Nat) :
  (svc.handleRecvSyncGroup cfg env peer updateTS).Sound store
  := by
  rw [RsGxsNetService.handleRecvSyncGroup]
  split
  · exact h
  · split
    · exact h
    · apply Sound.pushTransaction
      split <;> exact h.congr rfl rfl

theorem Sound.handleRecvSyncMessage (peer : RsPeerId) (grpId : RsGxsGroupId) (updateTS : Nat) :
  (svc.handleRecvSyncMessage cfg env peer grpId updateTS).Sound store
  := by
  rw [RsGxsNetService.handleRecvSyncMessage]
  split
  · exact h
  · dsimp only
    cases svc.mDataStore.grpMeta? grpId with
    | none => exact h
    | some grpMeta =>
      rw [if_neg (by simp)]
      simp only [deref]
      repeat' split
      · exact h
      · apply Sound.pushTransaction
        exact h.congr rfl rfl
      · exact h.congr rfl rfl

theorem fault_handleRecvPublishKeys {key : RsTlvSecurityKey}
    (hknown : publishPrivateKey key = true → (store.grpMeta? grpId).isSome) :
  (svc.handleRecvPublishKeys grpId key).fault ≠ some .nullPointer
  := by
  rw [handleRecvPublishKeys]
  dsimp only
  split
  case isTrue => exact h.fault
  case isFalse hkey =>
    rw [h.store]
    have hkey : publishPrivateKey key = true := by simpa using hkey
    obtain ⟨grpMeta, hmeta⟩ := Option.isSome_iff_exists.mp (hknown hkey)
    rw [hmeta]
    simp only [deref]
    repeat' split
    all_goals exact h.fault

/-- A packet does not make the service dereference a null pointer when its group is known. -/
theorem fault_recvNxsItem {item : RsNxsItem}
    (hknown : ∀ grpId key, item.transactionNumber = 0 → item.body = .publishKey grpId key →
      publishPrivateKey key = true → (store.grpMeta? grpId).isSome) :
  (svc.recvNxsItem cfg env item).fault ≠ some .nullPointer
  := by
  rw [recvNxsItem]
  split
  case isTrue => exact (h.handleTransaction item).fault
  case isFalse hnumber =>
    rw [not_not] at hnumber
    split
    case h_1 updateTS _ => exact (h.handleRecvSyncGroup _ updateTS).fault
    case h_2 grpId updateTS _ => exact (h.handleRecvSyncMessage _ grpId updateTS).fault
    case h_3 grpId key hbody =>
      exact fault_handleRecvPublishKeys h (hknown grpId key hnumber hbody)
    case h_4 => exact h.fault

theorem Sound.genReqMsgTransaction
    (hknown : ∀ first ∈ (tr.mItems.filterMap RsNxsItem.toSyncMsgItem?).head?, (store.grpMeta?
      first.grpId).isSome) :
  (svc.genReqMsgTransaction cfg env tr).Sound store
  := by
  have hfirst : (tr.mItems.filterMap RsNxsItem.toSyncMsgItem?) =
      (tr.mItems.filterMap fun item => item.toSyncMsgItem?.map (item.peerId, ·)).map Prod.snd := by
    rw [List.map_filterMap]
    congr 1
    funext item
    simp [Function.comp_def]
  rw [hfirst] at hknown
  rw [RsGxsNetService.genReqMsgTransaction]
  dsimp only
  split
  case h_1 => exact h
  case h_2 pid first rest hitems =>
    rw [hitems] at hknown
    have hsome : (svc.mDataStore.grpMeta? first.grpId).isSome := by
      rw [h.store]
      exact hknown first (by simp)
    obtain ⟨grpMeta, hmeta⟩ := Option.isSome_iff_exists.mp hsome
    rw [hmeta]
    simp only [deref]
    split
    · exact h.congr rfl rfl
    · split
      · apply Sound.markPartial
        apply Sound.pushTransaction
        split <;> exact h.congr rfl rfl
      · split <;> exact h.congr rfl rfl

theorem Sound.genReqGrpTransaction (tr : NxsTransaction) :
  (svc.genReqGrpTransaction cfg env tr).Sound store
  := by
  rw [RsGxsNetService.genReqGrpTransaction]
  dsimp only
  split
  · apply Sound.pushTransaction
    split <;> exact h.congr rfl rfl
  · split <;> exact h.congr rfl rfl

end

/-- A group that cannot be read is taken off before the pointers to groups are dereferenced. -/
theorem any_isNone_retrieveNxsGrps (grp : OrdMap RsGxsGroupId (Option RsNxsGrp)) :
  ((store.retrieveNxsGrps grp).toList.any fun e => e.2.isNone) = false
  := by
  rw [List.any_eq_false]
  rintro ⟨grpId, ng⟩ hmem
  rw [OrdMap.mem_toList, RsDataService.retrieveNxsGrps, OrdMap.get?_filter,
    Option.filter_eq_some_iff] at hmem
  simp [Option.isSome_iff_ne_none.mp hmem.2]

theorem Sound.genSendGrpsTransaction (h : svc.Sound store) (tr : NxsTransaction) :
  (svc.genSendGrpsTransaction cfg env tr).Sound store
  := by
  rw [RsGxsNetService.genSendGrpsTransaction]
  dsimp only
  split
  · exact h
  · rw [any_isNone_retrieveNxsGrps, if_neg Bool.false_ne_true]
    split
    · exact h.congr rfl rfl
    · apply Sound.pushTransaction
      exact h.congr rfl rfl

theorem Sound.genSendMsgsTransaction (h : svc.Sound store) (tr : NxsTransaction) :
  (svc.genSendMsgsTransaction cfg env tr).Sound store
  := by
  rw [RsGxsNetService.genSendMsgsTransaction]
  split
  · exact h
  · dsimp only
    split
    · exact h.congr rfl rfl
    · apply Sound.pushTransaction
      exact h.congr rfl rfl

/-- A completed transaction does not make the service dereference a null pointer when the group of
its list of messages is known. -/
theorem Sound.processCompletedIncomingTrans (h : svc.Sound store)
    (hknown : tr.mFlag = .completed → hasFlag tr.mTransaction.transactFlag flagTypeMsgListResp =
      true → ∀ first ∈ (tr.mItems.filterMap RsNxsItem.toSyncMsgItem?).head?, (store.grpMeta?
      first.grpId).isSome) :
  (svc.processCompletedIncomingTrans cfg env tr).Sound store
  := by
  have hloop : ({ svc with fault := some .endlessLoop } : RsGxsNetService).Sound store :=
    ⟨by simp, h.store⟩
  rw [RsGxsNetService.processCompletedIncomingTrans, processCompletedIncomingTransIn]
  dsimp only
  split
  case isTrue => exact h
  case isFalse hflag =>
    rw [not_not] at hflag
    split
    case isTrue hresp => exact h.genReqMsgTransaction (hknown hflag hresp)
    case isFalse =>
      split
      · exact h.genReqGrpTransaction tr
      · split
        · exact h.genSendMsgsTransaction tr
        · split
          · exact h.genSendGrpsTransaction tr
          · split
            · cases takeItems RsNxsItem.toGrp? (tr.mItems.length + 1) tr.mItems [] with
              | none => exact hloop
              | some grps => exact h.congr rfl rfl
            · split
              · cases takeItems RsNxsItem.toMsg? (tr.mItems.length + 1) tr.mItems [] with
                | none => exact hloop
                | some msgs => exact h.congr rfl rfl
              · exact h

theorem Sound.processCompletedTransactions (h : svc.Sound store)
    (hknown : ∀ tr ∈ svc.mComplTransactions, tr.mTransaction.peerId ≠ cfg.mOwnId →
      tr.mFlag = .completed → hasFlag tr.mTransaction.transactFlag flagTypeMsgListResp = true →
        ∀ first ∈ (tr.mItems.filterMap RsNxsItem.toSyncMsgItem?).head?,
          (store.grpMeta? first.grpId).isSome) :
  (svc.processCompletedTransactions cfg env).Sound store
  := by
  rw [RsGxsNetService.processCompletedTransactions]
  apply Sound.foldl
  · exact h.congr rfl rfl
  · intro svc' tr hmem h'
    rw [processCompletedTransaction]
    split
    · exact h'
    · split
      case isTrue => exact h'.congr rfl rfl
      case isFalse hpeer =>
        apply Sound.processCompletedIncomingTrans
        · exact h'.congr rfl rfl
        · exact hknown tr hmem hpeer

theorem Sound.vetAuthor (cfg : NetConfig) (env : NetEnv) (h : svc.Sound store)
    (ap : AuthorPending) :
  (svc.vetAuthor cfg env ap).Sound store
  := by
  rw [RsGxsNetService.vetAuthor.eq_def]
  cases ap with
  | msg ts peerId entries cutOff =>
    dsimp only
    split
    · rw [createMsgTransactionFromPending]
      split
      · apply Sound.pushTransaction
        exact h.congr rfl rfl
      · exact h.congr rfl rfl
    · exact h.congr rfl rfl
  | grp ts peerId entries cutOff =>
    dsimp only
    split
    · rw [createGrpTransactionFromPending]
      split
      · apply Sound.pushTransaction
        exact h.congr rfl rfl
      · exact h.congr rfl rfl
    · exact h.congr rfl rfl

theorem Sound.vetCircle (cfg : NetConfig) (env : NetEnv) (h : svc.Sound store)
    (gcv : GrpCircleVetting) :
  (svc.vetCircle cfg env gcv).Sound store
  := by
  rw [RsGxsNetService.vetCircle.eq_def]
  cases gcv with
  | grpId ts entries peerId =>
    dsimp only
    split
    · rw [createGrpListFromPending]
      split
      · apply Sound.pushTransaction
        exact h.congr rfl rfl
      · exact h.congr rfl rfl
    · exact h.congr rfl rfl
  | msgId ts msgs grpId peerId circleId =>
    dsimp only
    split
    · split
      · rw [createMsgListFromPending]
        split
        · apply Sound.pushTransaction
          exact h.congr rfl rfl
        · exact h.congr rfl rfl
      · exact h
    · exact h.congr rfl rfl

section

variable (h : svc.Sound store)

include h

theorem Sound.runVetting :
  (svc.runVetting cfg env).Sound store
  := by
  rw [RsGxsNetService.runVetting]
  have hstart : ({ svc with mPendingResp := [] } : RsGxsNetService).Sound store := h.congr rfl rfl
  have hauthors := hstart.foldl fun _ ap (_ : ap ∈ svc.mPendingResp) h' =>
    h'.vetAuthor cfg env ap
  apply Sound.foldl
  · exact hauthors.congr rfl rfl
  · exact fun _ gcv _ h' => h'.vetCircle cfg env gcv

theorem Sound.processExplicitGroupRequests :
  (svc.processExplicitGroupRequests cfg env).Sound store
  := by
  rw [RsGxsNetService.processExplicitGroupRequests]
  apply Sound.foldl
  · exact h.congr rfl rfl
  · intro svc' e _ h'
    rw [processExplicitGroupRequest]
    split
    · apply Sound.pushTransaction
      exact h'.congr rfl rfl
    · exact h'.congr rfl rfl

theorem Sound.syncWithPeers :
  (svc.syncWithPeers cfg env).Sound store
  := by
  have hgrps : (env.onlineList.foldl (fun svc peerId => svc.sendItem
      ⟨peerId, 0, .syncGrp ((svc.mClientGrpUpdateMap.get? peerId).getD 0)⟩) svc).Sound store :=
    h.foldl fun _ _ _ h' => h'.sendItem _
  rw [RsGxsNetService.syncWithPeers]
  dsimp only
  split
  · exact hgrps
  · apply hgrps.foldl
    intro svc' peerId _ h'
    apply h'.foldl
    intro svc'' grpMeta _ h''
    split <;> exact h''.congr rfl rfl

theorem Sound.sharePublishKeysPending :
  (svc.sharePublishKeysPending env).Sound store
  := by
  rw [RsGxsNetService.sharePublishKeysPending]
  apply h.foldl
  intro svc' e _ h'
  rw [sharePublishKeyPending]
  dsimp only
  split
  · exact h'
  · cases svc'.mDataStore.grpMeta? e.1 with
    | none => exact h'
    | some grpMeta =>
      rw [if_neg (by simp)]
      simp only [deref]
      split
      · exact h'
      · rename_i key _
        have hsent := h'.foldl fun _ peerId (_ : peerId ∈ e.2.filter (· ∈ env.onlineList)) h'' =>
          h''.sendItem ⟨peerId, 0, .publishKey e.1 key⟩
        exact hsent.congr rfl rfl

theorem Sound.updateServerSyncTS :
  svc.updateServerSyncTS.Sound store
  := by
  rw [RsGxsNetService.updateServerSyncTS]
  apply Sound.foldl
  · exact h.congr rfl rfl
  · exact fun _ _ _ h' => h'.congr rfl rfl

/-- An operation whose groups are known does not stop the service at a null pointer. -/
theorem fault_perform {input : NetInput} (hknown : KnownGroups cfg svc input) :
  (svc.perform cfg input).fault ≠ some .nullPointer
  := by
  cases input with
  | recvItem item env =>
    apply fault_recvNxsItem h
    rw [← h.store]
    exact hknown
  | updateServerSyncTS => exact h.updateServerSyncTS.fault
  | processTransactions env => exact h.fault
  | processCompletedTransactions env =>
    apply (h.processCompletedTransactions _).fault
    rw [← h.store]
    exact hknown
  | runVetting env => exact h.runVetting.fault
  | processExplicitGroupRequests env => exact h.processExplicitGroupRequests.fault
  | syncWithPeers env => exact h.syncWithPeers.fault
  | sharePublishKeysPending env => exact h.sharePublishKeysPending.fault
  | requestGrp grpId peerId => exact h.fault
  | sharePublishKey grpId peers => exact h.fault
  | subscribeStatusChanged grpId subscribed =>
    simp only [perform, subscribeStatusChanged]
    split <;> exact h.fault
  | changeStore store => exact h.fault

end

/-- In every run in which the groups whose metadata is looked up are in the store, the service
dereferences no null pointer. -/
theorem no_nullPointer (cfg : NetConfig) (start : NetStart) (inputs : List NetInput)
    (h : (machine cfg).Along (KnownGroups cfg) (init start) inputs) :
  ((machine cfg).run (init start) inputs).fault ≠ some .nullPointer
  := by
  have hstep : ∀ (svc : RsGxsNetService) (input : NetInput), svc.fault ≠ some .nullPointer →
      KnownGroups cfg svc input → ((machine cfg).next svc input).fault ≠ some .nullPointer := by
    intro svc input hfault hknown
    simp only [Machine.next, machine, step]
    split
    · exact hfault
    · have hsound : ({ svc with out := [] } : RsGxsNetService).Sound svc.mDataStore := ⟨hfault, rfl⟩
      apply fault_perform hsound
      cases input <;> exact hknown
  exact Machine.run_of_step hstep (by simp [init]) h

end RsGxsNetService

/-! #### A list of messages of an unknown group -/

/-- A peer sends a list of messages, in a transaction of its own, and the transaction is
processed. -/
def msgListInputs : List NetInput :=
  oneItemInputs (flagBeginP1 ||| flagTypeMsgListResp) (.syncMsgItem ⟨5, 6, 0⟩) ++
    [.processCompletedTransactions (plainEnv 105)]

/-- A node that has the group of the list, and is not subscribed to it. -/
def unsubscribedStart : NetStart :=
  { plainStart with
    mDataStore :=
      ⟨OrdMap.empty.insert 5 ⟨some ⟨5, 0, 0, 0, circleTypePublic, OrdMap.empty, 0, 0, 0, 0, 0, 0⟩,
        none⟩, [], by decide⟩ }

/-- The list is processed. -/
theorem no_nullPointer_unsubscribed :
  ((RsGxsNetService.machine plainConfig).run (RsGxsNetService.init unsubscribedStart)
    msgListInputs).fault ≠ some .nullPointer
  := by
  apply RsGxsNetService.no_nullPointer
  refine ⟨?_, trivial, ?_, trivial, trivial, ?_, trivial⟩
  · intro grpId key hnumber
    cases hnumber
  · intro grpId key hnumber
    cases hnumber
  · intro tr htr hpeer hflag htype first hfirst
    revert first tr
    decide +kernel

/-- A node that does not have the group of the list stops. -/
theorem not_no_nullPointer :
  ¬ ∀ (cfg : NetConfig) (start : NetStart) (inputs : List NetInput),
    ((RsGxsNetService.machine cfg).run (RsGxsNetService.init start) inputs).fault ≠
      some .nullPointer
  := by
  intro h
  apply h plainConfig plainStart msgListInputs
  decide +kernel

end Gxs
