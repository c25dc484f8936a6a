import RetroShare.Gxs.Operations

/-!
# What leaves the queues of requests alone

`requestGrp` and `sharePublishKey` put requests into two queues.  No operation of the service
touches these queues, apart from the two calls and the ticks that send what is in the queues.
-/

namespace Gxs

namespace RsGxsNetService

variable {cfg : NetConfig} {env : NetEnv} {svc svc' svc'' : RsGxsNetService} (item : RsNxsItem)
  (tr : NxsTransaction) {α : Type} (peer : RsPeerId)

/-! ### Operations that leave the queues alone -/

/-- The queues are the same. -/
structure KeepsQueues (svc svc' : RsGxsNetService) : Prop where
  mExplicitRequest : svc'.mExplicitRequest = svc.mExplicitRequest
  mPendingPublishKeyRecipients :
    svc'.mPendingPublishKeyRecipients = svc.mPendingPublishKeyRecipients

theorem KeepsQueues.trans (h : svc.KeepsQueues svc') (h' : svc'.KeepsQueues svc'') :
  svc.KeepsQueues svc''
  := by
  constructor
  · rw [h'.mExplicitRequest, h.mExplicitRequest]
  · rw [h'.mPendingPublishKeyRecipients, h.mPendingPublishKeyRecipients]

theorem KeepsQueues.rfl :
  svc.KeepsQueues svc
  := ⟨by rfl, by rfl⟩

theorem KeepsQueues.foldl {f : RsGxsNetService → α → RsGxsNetService}
    (hf : ∀ (svc : RsGxsNetService) (a : α), svc.KeepsQueues (f svc a)) (l : List α) :
  svc.KeepsQueues (l.foldl f svc)
  := by
  induction l generalizing svc with
  | nil => exact KeepsQueues.rfl
  | cons a l ih => exact (hf svc a).trans ih

theorem keepsQueues_sendItem :
  svc.KeepsQueues (svc.sendItem item)
  := ⟨by rfl, by rfl⟩

theorem keepsQueues_emit (event : NetEvent) :
  svc.KeepsQueues (svc.emit event)
  := ⟨by rfl, by rfl⟩

theorem keepsQueues_addTransaction (peerId : RsPeerId) (tr : NxsTransaction) :
  svc.KeepsQueues (svc.addTransaction peerId tr)
  := by
  rw [addTransaction]
  split <;> exact ⟨rfl, rfl⟩

/-- A transaction is started after other fields have changed. -/
theorem KeepsQueues.push {type : UInt16} {updateTS : Nat} {items : List RsNxsItem}
    {peerId : RsPeerId} {transN : Nat} (h : svc.KeepsQueues svc') :
  svc.KeepsQueues (svc'.pushTransaction cfg env type updateTS items peerId transN)
  := by
  rw [pushTransaction]
  apply h.trans
  apply (keepsQueues_sendItem _).trans
  apply keepsQueues_addTransaction

theorem KeepsQueues.deref {pointer : Option α} {f : α → RsGxsNetService}
    (h : ∀ value, svc.KeepsQueues (f value)) :
  svc.KeepsQueues (svc.deref pointer f)
  := by
  cases pointer with
  | none => exact ⟨by rfl, by rfl⟩
  | some value => exact h value

theorem keepsQueues_handleRecvSyncGroup (updateTS : Nat) :
  svc.KeepsQueues (svc.handleRecvSyncGroup cfg env peer updateTS)
  := by
  rw [handleRecvSyncGroup]
  split
  · apply KeepsQueues.rfl
  · split
    · apply KeepsQueues.rfl
    · apply KeepsQueues.push
      split <;> exact ⟨rfl, rfl⟩

theorem keepsQueues_handleRecvSyncMessage (grpId : RsGxsGroupId) (updateTS : Nat) :
  svc.KeepsQueues (svc.handleRecvSyncMessage cfg env peer grpId updateTS)
  := by
  rw [handleRecvSyncMessage]
  split
  · apply KeepsQueues.rfl
  · dsimp only
    split
    · apply KeepsQueues.rfl
    · apply KeepsQueues.deref
      intro grpMeta
      split
      · apply KeepsQueues.rfl
      · split
        · apply KeepsQueues.push
          exact ⟨rfl, rfl⟩
        · exact ⟨rfl, rfl⟩

theorem keepsQueues_handleRecvPublishKeys (grpId : RsGxsGroupId) (key : RsTlvSecurityKey) :
  svc.KeepsQueues (svc.handleRecvPublishKeys grpId key)
  := by
  rw [handleRecvPublishKeys]
  dsimp only
  split
  · apply KeepsQueues.rfl
  · apply KeepsQueues.deref
    intro grpMeta
    split
    · apply KeepsQueues.rfl
    · split
      · apply KeepsQueues.rfl
      · exact ⟨rfl, rfl⟩

theorem keepsQueues_processTransac (item : RsNxsTransac) :
  svc.KeepsQueues (svc.processTransac cfg env item)
  := by
  rw [processTransac, ← processTransacPeer]
  split
  · split <;> exact ⟨rfl, rfl⟩
  · split
    · split <;> exact ⟨rfl, rfl⟩
    · split
      · split <;> exact ⟨rfl, rfl⟩
      · apply KeepsQueues.rfl

theorem keepsQueues_handleTransaction :
  svc.KeepsQueues (svc.handleTransaction cfg env item)
  := by
  rw [handleTransaction]
  split
  · apply keepsQueues_processTransac
  · dsimp only
    split <;> exact ⟨rfl, rfl⟩

theorem keepsQueues_recvNxsItem :
  svc.KeepsQueues (svc.recvNxsItem cfg env item)
  := by
  rw [recvNxsItem]
  split
  · apply keepsQueues_handleTransaction
  · split
    · apply keepsQueues_handleRecvSyncGroup
    · apply keepsQueues_handleRecvSyncMessage
    · apply keepsQueues_handleRecvPublishKeys
    · apply KeepsQueues.rfl

theorem keepsQueues_markPartial {peer : RsPeerId} {grpId : RsGxsGroupId} {exceeded : Bool} :
  svc.KeepsQueues (svc.markPartial peer grpId exceeded)
  := ⟨by rfl, by rfl⟩

theorem keepsQueues_genReqMsgTransaction :
  svc.KeepsQueues (svc.genReqMsgTransaction cfg env tr)
  := by
  rw [genReqMsgTransaction]
  dsimp only
  split
  · apply KeepsQueues.rfl
  · apply KeepsQueues.deref
    intro grpMeta
    split
    · exact ⟨rfl, rfl⟩
    · split
      · apply KeepsQueues.trans ?_ keepsQueues_markPartial
        apply KeepsQueues.push
        split <;> exact ⟨rfl, rfl⟩
      · split <;> exact ⟨rfl, rfl⟩

theorem keepsQueues_genReqGrpTransaction :
  svc.KeepsQueues (svc.genReqGrpTransaction cfg env tr)
  := by
  rw [genReqGrpTransaction]
  dsimp only
  split
  · apply KeepsQueues.push
    split <;> exact ⟨rfl, rfl⟩
  · split <;> exact ⟨rfl, rfl⟩

theorem keepsQueues_genSendGrpsTransaction :
  svc.KeepsQueues (svc.genSendGrpsTransaction cfg env tr)
  := by
  rw [genSendGrpsTransaction]
  dsimp only
  split
  · apply KeepsQueues.rfl
  · split
    · exact ⟨rfl, rfl⟩
    · split
      · exact ⟨rfl, rfl⟩
      · apply KeepsQueues.push
        exact ⟨rfl, rfl⟩

theorem keepsQueues_genSendMsgsTransaction :
  svc.KeepsQueues (svc.genSendMsgsTransaction cfg env tr)
  := by
  rw [genSendMsgsTransaction]
  split
  · apply KeepsQueues.rfl
  · dsimp only
    split
    · exact ⟨rfl, rfl⟩
    · apply KeepsQueues.push
      exact ⟨rfl, rfl⟩

theorem keepsQueues_processCompletedIncomingTrans :
  svc.KeepsQueues (svc.processCompletedIncomingTrans cfg env tr)
  := by
  rw [processCompletedIncomingTrans, processCompletedIncomingTransIn]
  dsimp only
  split
  · apply KeepsQueues.rfl
  · split
    · apply keepsQueues_genReqMsgTransaction
    · split
      · apply keepsQueues_genReqGrpTransaction
      · split
        · apply keepsQueues_genSendMsgsTransaction
        · split
          · apply keepsQueues_genSendGrpsTransaction
          · split
            · cases takeItems RsNxsItem.toGrp? (tr.mItems.length + 1) tr.mItems [] with
              | none => exact ⟨rfl, rfl⟩
              | some grps => exact ⟨rfl, rfl⟩
            · split
              · cases takeItems RsNxsItem.toMsg? (tr.mItems.length + 1) tr.mItems [] with
                | none => exact ⟨rfl, rfl⟩
                | some msgs => exact ⟨rfl, rfl⟩
              · apply KeepsQueues.rfl

theorem keepsQueues_processCompletedTransactions :
  svc.KeepsQueues (svc.processCompletedTransactions cfg env)
  := by
  have hclear : svc.KeepsQueues { svc with mComplTransactions := [] } := ⟨by rfl, by rfl⟩
  rw [processCompletedTransactions]
  apply hclear.trans
  apply KeepsQueues.foldl
  intro svc tr
  rw [processCompletedTransaction]
  split
  · apply KeepsQueues.rfl
  · split
    · exact ⟨rfl, rfl⟩
    · apply (keepsQueues_emit _).trans
      apply keepsQueues_processCompletedIncomingTrans

theorem keepsQueues_vetAuthor (ap : AuthorPending) :
  svc.KeepsQueues (svc.vetAuthor cfg env ap)
  := by
  rw [vetAuthor.eq_def]
  cases ap with
  | msg ts peerId entries cutOff =>
    dsimp only
    split
    · rw [createMsgTransactionFromPending]
      split
      · apply KeepsQueues.push
        exact ⟨rfl, rfl⟩
      · exact ⟨rfl, rfl⟩
    · exact ⟨rfl, rfl⟩
  | grp ts peerId entries cutOff =>
    dsimp only
    split
    · rw [createGrpTransactionFromPending]
      split
      · apply KeepsQueues.push
        exact ⟨rfl, rfl⟩
      · exact ⟨rfl, rfl⟩
    · exact ⟨rfl, rfl⟩

theorem keepsQueues_vetCircle (gcv : GrpCircleVetting) :
  svc.KeepsQueues (svc.vetCircle cfg env gcv)
  := by
  rw [vetCircle.eq_def]
  cases gcv with
  | grpId ts entries peerId =>
    dsimp only
    split
    · rw [createGrpListFromPending]
      split
      · apply KeepsQueues.push
        exact ⟨rfl, rfl⟩
      · exact ⟨rfl, rfl⟩
    · exact ⟨rfl, rfl⟩
  | msgId ts msgs grpId peerId circleId =>
    dsimp only
    split
    · split
      · rw [createMsgListFromPending]
        split
        · apply KeepsQueues.push
          exact ⟨rfl, rfl⟩
        · exact ⟨rfl, rfl⟩
      · apply KeepsQueues.rfl
    · exact ⟨rfl, rfl⟩

theorem keepsQueues_runVetting :
  svc.KeepsQueues (svc.runVetting cfg env)
  := by
  have hauthors : svc.KeepsQueues (svc.mPendingResp.foldl (fun svc ap => svc.vetAuthor cfg env ap)
      { svc with mPendingResp := [] }) := by
    have hclear : svc.KeepsQueues { svc with mPendingResp := [] } := ⟨by rfl, by rfl⟩
    apply hclear.trans
    apply KeepsQueues.foldl
    exact fun svc ap => keepsQueues_vetAuthor ap
  rw [runVetting]
  apply hauthors.trans
  generalize svc.mPendingResp.foldl (fun svc ap => svc.vetAuthor cfg env ap)
    { svc with mPendingResp := [] } = svc'
  have hclear : svc'.KeepsQueues { svc' with mPendingCircleVets := [] } := ⟨by rfl, by rfl⟩
  apply hclear.trans
  apply KeepsQueues.foldl
  exact fun svc gcv => keepsQueues_vetCircle gcv

theorem keepsQueues_syncWithPeers :
  svc.KeepsQueues (svc.syncWithPeers cfg env)
  := by
  have hgrps : svc.KeepsQueues (env.onlineList.foldl (fun svc peerId => svc.sendItem
      ⟨peerId, 0, .syncGrp ((svc.mClientGrpUpdateMap.get? peerId).getD 0)⟩) svc) := by
    apply KeepsQueues.foldl
    exact fun svc peerId => ⟨by rfl, by rfl⟩
  rw [syncWithPeers]
  dsimp only
  split
  · exact hgrps
  · apply hgrps.trans
    apply KeepsQueues.foldl
    intro svc peerId
    apply KeepsQueues.foldl
    intro svc grpMeta
    split <;> exact ⟨by rfl, by rfl⟩

/-- The input calls for a change of the queues, or for what is in them to be sent. -/
def Queueing : NetInput → Prop
  | .requestGrp _ _ => True
  | .sharePublishKey _ _ => True
  | .processExplicitGroupRequests _ => True
  | .sharePublishKeysPending _ => True
  | _ => False

theorem keepsQueues_perform {input : NetInput} (h : ¬ Queueing input) :
  svc.KeepsQueues (svc.perform cfg input)
  := by
  cases input with
  | recvItem item env => exact keepsQueues_recvNxsItem item
  | updateServerSyncTS =>
    have hinit : svc.KeepsQueues
        { svc with mGrpServerUpdateItem := some (svc.mGrpServerUpdateItem.getD 0) } :=
      ⟨by rfl, by rfl⟩
    rw [perform, updateServerSyncTS]
    apply hinit.trans
    apply KeepsQueues.foldl
    exact fun svc grpMeta => ⟨by rfl, by rfl⟩
  | processTransactions env => exact ⟨rfl, rfl⟩
  | processCompletedTransactions env => exact keepsQueues_processCompletedTransactions
  | runVetting env => exact keepsQueues_runVetting
  | syncWithPeers env => exact keepsQueues_syncWithPeers
  | subscribeStatusChanged grpId subscribed =>
    rw [perform, subscribeStatusChanged]
    split <;> exact ⟨rfl, rfl⟩
  | changeStore store => exact ⟨rfl, rfl⟩
  | requestGrp | sharePublishKey | processExplicitGroupRequests | sharePublishKeysPending =>
    exact absurd trivial h

end RsGxsNetService

end Gxs
