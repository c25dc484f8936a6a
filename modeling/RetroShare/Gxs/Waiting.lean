import RetroShare.Gxs.Faults
import RetroShare.Gxs.Queues

/-!
# Requests that wait to be sent

Ticks of the service send what `requestGrp` and `sharePublishKey` have put into their queues, and
take from the queues only what they send.  A second call for the same peer, or for the same group,
overwrites what is queued.
-/

namespace Gxs

/-! ### What is sent -/

/-- A transaction that is announced to a peer has an item that requests a group. -/
def NetEvent.RequestsGrp (peerId : RsPeerId) (grpId : RsGxsGroupId) : NetEvent → Prop
  | .addTransaction peer tr =>
      peer = peerId ∧ ∃ transN, RsGxsNetService.grpReqItem peerId transN grpId 0 ∈ tr.mItems
  | _ => False

/-- A publish key of a group is sent to a peer. -/
def NetEvent.SharesKey (grpId : RsGxsGroupId) (peerId : RsPeerId) : NetEvent → Prop
  | .sendItem item => ∃ key, item = ⟨peerId, 0, .publishKey grpId key⟩
  | _ => False

namespace RsGxsNetService

variable {cfg : NetConfig} {env : NetEnv} {svc svc' : RsGxsNetService} {peerId : RsPeerId}
  {grpId : RsGxsGroupId} {input : NetInput}

/-- No own transaction has one of the next `k` numbers, and these do not come round. -/
def NumbersFree (cfg : NetConfig) (svc : RsGxsNetService) (k : Nat) : Prop :=
  k ≤ 2 ^ 32 ∧ ∀ i < k, svc.transaction? cfg.mOwnId ((svc.mTransactionN + i + 1) % 2 ^ 32) = none

/-- What `processExplicitGroupRequests` does for a peer when the next number is free. -/
theorem processExplicitGroupRequest_spec {groupIdList : List RsGxsGroupId}
    (h : svc.transaction? cfg.mOwnId ((svc.mTransactionN + 1) % 2 ^ 32) = none) :
  let svc' := svc.processExplicitGroupRequest cfg env peerId groupIdList
  svc'.mTransactionN = (svc.mTransactionN + 1) % 2 ^ 32 ∧
    (∀ n, n ≠ (svc.mTransactionN + 1) % 2 ^ 32 →
      svc'.transaction? cfg.mOwnId n = svc.transaction? cfg.mOwnId n) ∧
    ∃ events, svc'.out = svc.out ++ events ∧
      ∀ grpId ∈ groupIdList, ∃ event ∈ events, event.RequestsGrp peerId grpId
  := by
  intro svc'
  have hsvc' : svc' = svc.processExplicitGroupRequest cfg env peerId groupIdList := rfl
  rw [processExplicitGroupRequest] at hsvc'
  split at hsvc'
  case isTrue hne =>
    rw [hsvc', pushGrpTransactionFromList]
    refine ⟨mTransactionN_pushTransaction, ?_, ?_⟩
    · intro n hn
      rw [transaction?_pushTransaction, if_neg fun hand => hn hand.2.2]
      rfl
    · rw [out_pushTransaction]
      have hfree : svc.getTransactionId.transaction? cfg.mOwnId svc.getTransactionId.mTransactionN =
          none := h
      rw [if_pos hfree]
      refine ⟨_, List.append_assoc _ [_] _, ?_⟩
      intro grpId hgrp
      refine ⟨_, List.mem_append_right _ (List.mem_cons_of_mem _ List.mem_cons_self), rfl,
        svc.getTransactionId.mTransactionN, ?_⟩
      exact List.mem_map_of_mem hgrp
  case isFalse hnil =>
    rw [hsvc']
    have hlist : groupIdList = [] := by
      rw [not_not, List.map_eq_nil_iff] at hnil
      exact hnil
    refine ⟨rfl, fun n _ => rfl, [.getTransactionId], rfl, ?_⟩
    rw [hlist]
    exact List.forall_mem_nil _

theorem exists_requestsGrp_of_mem :
  ∀ {entries : List (RsPeerId × List RsGxsGroupId)} {svc : RsGxsNetService},
    svc.NumbersFree cfg entries.length →
    ∃ events, (entries.foldl (fun svc e => svc.processExplicitGroupRequest cfg env e.1 e.2) svc).out =
        svc.out ++ events ∧
      ∀ e ∈ entries, ∀ grpId ∈ e.2, ∃ event ∈ events, event.RequestsGrp e.1 grpId
  | [], svc, _ => ⟨[], by simp, by simp⟩
  | e :: entries, svc, ⟨hle, hfree⟩ => by
      rw [List.length_cons] at hle hfree
      obtain ⟨hnumber, hframe, events, hout, hsent⟩ :=
        @processExplicitGroupRequest_spec cfg env svc e.1 e.2 (hfree 0 (by omega))
      have hrest : (svc.processExplicitGroupRequest cfg env e.1 e.2).NumbersFree cfg
          entries.length := by
        refine ⟨by omega, ?_⟩
        intro i hi
        rw [hnumber, hframe _ (by omega)]
        have hnext := hfree (i + 1) (by omega)
        have hmod : ((svc.mTransactionN + 1) % 2 ^ 32 + i + 1) % 2 ^ 32 =
            (svc.mTransactionN + (i + 1) + 1) % 2 ^ 32 := by omega
        rw [hmod]
        exact hnext
      obtain ⟨events', hout', hsent'⟩ := exists_requestsGrp_of_mem hrest
      refine ⟨events ++ events', ?_, ?_⟩
      · rw [List.foldl_cons, hout', hout, List.append_assoc]
      · rw [List.forall_mem_cons]
        constructor
        · intro grpId hgrp
          obtain ⟨event, hevent, h⟩ := hsent grpId hgrp
          exact ⟨event, List.mem_append_left _ hevent, h⟩
        · intro e' he' grpId hgrp
          obtain ⟨event, hevent, h⟩ := hsent' e' he' grpId hgrp
          exact ⟨event, List.mem_append_right _ hevent, h⟩

theorem foldl_sendItem {α : Type} (item : α → RsNxsItem) (l : List α) :
  l.foldl (fun svc a => svc.sendItem (item a)) svc =
    { svc with out := svc.out ++ l.map fun a => .sendItem (item a) }
  := by
  induction l generalizing svc with
  | nil => simp
  | cons a l ih =>
    rw [List.foldl_cons, ih, sendItem]
    simp

/-- What a turn of the loop of `sharePublishKeysPending` does: it takes those peers from the queue
of the group that it sends the key to. -/
theorem sharePublishKeyPending_spec {peers : List RsPeerId}
    (h : svc.mPendingPublishKeyRecipients.get? grpId = some peers) :
  let svc' := svc.sharePublishKeyPending env grpId peers
  (∀ g ≠ grpId, svc'.mPendingPublishKeyRecipients.get? g =
      svc.mPendingPublishKeyRecipients.get? g) ∧
    ∃ events, svc'.out = svc.out ++ events ∧
      ∀ p ∈ peers, p ∈ (svc'.mPendingPublishKeyRecipients.get? grpId).getD [] ∨
        ∃ event ∈ events, event.SharesKey grpId p
  := by
  have hkept : ∀ p ∈ peers, p ∈ (svc.mPendingPublishKeyRecipients.get? grpId).getD [] := by
    intro p hp
    rw [h]
    exact hp
  have hnothing : (∀ g ≠ grpId, svc.mPendingPublishKeyRecipients.get? g =
      svc.mPendingPublishKeyRecipients.get? g) ∧
      ∃ events, svc.out = svc.out ++ events ∧
        ∀ p ∈ peers, p ∈ (svc.mPendingPublishKeyRecipients.get? grpId).getD [] ∨
          ∃ event ∈ events, event.SharesKey grpId p :=
    ⟨fun g _ => rfl, [], (List.append_nil _).symm, fun p hp => .inl (hkept p hp)⟩
  intro svc'
  have hsvc' : svc' = svc.sharePublishKeyPending env grpId peers := rfl
  rw [sharePublishKeyPending] at hsvc'
  dsimp only at hsvc'
  split at hsvc'
  case isTrue =>
    rw [hsvc']
    exact hnothing
  case isFalse =>
    cases hmeta : svc.mDataStore.grpMeta? grpId with
    | none =>
      rw [hmeta, if_pos rfl] at hsvc'
      rw [hsvc']
      exact hnothing
    | some grpMeta =>
      rw [hmeta, if_neg (by simp)] at hsvc'
      simp only [deref] at hsvc'
      cases hkey : publishKey grpMeta with
      | none =>
        rw [hkey] at hsvc'
        rw [hsvc']
        exact hnothing
      | some key =>
        rw [hkey] at hsvc'
        simp only [foldl_sendItem] at hsvc'
        rw [hsvc']
        refine ⟨?_, _, rfl, ?_⟩
        · intro g hg
          dsimp only
          split
          · rw [OrdMap.get?_erase, if_neg hg]
          · rw [OrdMap.get?_insert, if_neg hg]
        · intro p hp
          by_cases honline : p ∈ env.onlineList
          case pos =>
            right
            refine ⟨_, List.mem_map_of_mem (List.mem_filter.mpr ⟨hp, ?_⟩), key, rfl⟩
            exact decide_eq_true honline
          case neg =>
            left
            have hoffline : p ∈ peers.filter (· ∉ env.onlineList) := by
              rw [List.mem_filter]
              exact ⟨hp, decide_eq_true honline⟩
            rw [if_neg (List.ne_nil_of_mem hoffline), OrdMap.get?_insert_self]
            exact hoffline

/-- The keys of all groups in the queue are sent to the peers that they are taken from. -/
theorem foldl_sharePublishKeyPending_spec :
  ∀ {entries : List (RsGxsGroupId × List RsPeerId)} {svc : RsGxsNetService},
    entries.Pairwise (fun e e' => e.1 < e'.1) →
    (∀ e ∈ entries, svc.mPendingPublishKeyRecipients.get? e.1 = some e.2) →
    let svc' := entries.foldl (fun svc e => svc.sharePublishKeyPending env e.1 e.2) svc
    (∀ g, (∀ e ∈ entries, g ≠ e.1) → svc'.mPendingPublishKeyRecipients.get? g =
      svc.mPendingPublishKeyRecipients.get? g) ∧
    ∃ events, svc'.out = svc.out ++ events ∧
      ∀ e ∈ entries, ∀ p ∈ e.2,
        p ∈ (svc'.mPendingPublishKeyRecipients.get? e.1).getD [] ∨
          ∃ event ∈ events, event.SharesKey e.1 p
  | [], svc, _, _ => ⟨fun g _ => rfl, [], (List.append_nil _).symm, by simp⟩
  | e :: entries, svc, hsorted, hget => by
      rw [List.pairwise_cons] at hsorted
      rw [List.forall_mem_cons] at hget
      obtain ⟨hframe, events, hout, hsent⟩ := @sharePublishKeyPending_spec env svc e.1 e.2 hget.1
      have hrest : ∀ e' ∈ entries, (svc.sharePublishKeyPending env e.1
          e.2).mPendingPublishKeyRecipients.get? e'.1 = some e'.2 := by
        intro e' he'
        rw [hframe e'.1 (hsorted.1 e' he').ne', hget.2 e' he']
      obtain ⟨hframe', events', hout', hsent'⟩ := foldl_sharePublishKeyPending_spec hsorted.2 hrest
      refine ⟨?_, events ++ events', ?_, ?_⟩
      · intro g hg
        rw [List.forall_mem_cons] at hg
        rw [List.foldl_cons, hframe' g hg.2, hframe g hg.1]
      · rw [List.foldl_cons, hout', hout, List.append_assoc]
      · rw [List.forall_mem_cons]
        constructor
        · intro p hp
          rw [List.foldl_cons, hframe' e.1 fun e' he' => (hsorted.1 e' he').ne]
          rcases hsent p hp with hqueued | ⟨event, hevent, h⟩
          · exact .inl hqueued
          · exact .inr ⟨event, List.mem_append_left _ hevent, h⟩
        · intro e' he' p hp
          rcases hsent' e' he' p hp with hqueued | ⟨event, hevent, h⟩
          · exact .inl hqueued
          · exact .inr ⟨event, List.mem_append_right _ hevent, h⟩

/-! ### What stays queued -/

/-- A group is queued to be requested from a peer. -/
def GrpQueued (peerId : RsPeerId) (grpId : RsGxsGroupId) (svc : RsGxsNetService) : Prop :=
  grpId ∈ (svc.mExplicitRequest.get? peerId).getD []

/-- A peer is queued to be sent the publish key of a group. -/
def RecipientQueued (grpId : RsGxsGroupId) (peerId : RsPeerId) (svc : RsGxsNetService) : Prop :=
  peerId ∈ (svc.mPendingPublishKeyRecipients.get? grpId).getD []

theorem GrpQueued.keep (h : svc.cleared.KeepsQueues svc') (hqueued : svc.GrpQueued peerId grpId) :
  svc'.GrpQueued peerId grpId
  := by
  rw [GrpQueued, h.mExplicitRequest]
  exact hqueued

theorem RecipientQueued.keep (h : svc.cleared.KeepsQueues svc')
    (hqueued : svc.RecipientQueued grpId peerId) :
  svc'.RecipientQueued grpId peerId
  := by
  rw [RecipientQueued, h.mPendingPublishKeyRecipients]
  exact hqueued

/-- A tick puts the request for a group into a transaction with a peer. -/
def GrpRequested (cfg : NetConfig) (peerId : RsPeerId) (grpId : RsGxsGroupId)
    (svc : RsGxsNetService) (input : NetInput) : Prop :=
  (∃ env, input = .processExplicitGroupRequests env) ∧
    ∃ event ∈ (machine cfg).emit svc input, event.RequestsGrp peerId grpId

/-- A tick sends the publish key of a group to a peer. -/
def KeyShared (cfg : NetConfig) (grpId : RsGxsGroupId) (peerId : RsPeerId)
    (svc : RsGxsNetService) (input : NetInput) : Prop :=
  (∃ env, input = .sharePublishKeysPending env) ∧
    ∃ event ∈ (machine cfg).emit svc input, event.SharesKey grpId peerId

/-- A call repeats what it overwrites, and the numbers that a tick takes are free. -/
def OverwritesNothing (cfg : NetConfig) (svc : RsGxsNetService) : NetInput → Prop
  | .requestGrp grpIds peerId => ∀ grpId, svc.GrpQueued peerId grpId → grpId ∈ grpIds
  | .sharePublishKey grpId peers => ∀ peerId, svc.RecipientQueued grpId peerId → peerId ∈ peers
  | .processExplicitGroupRequests _ => svc.NumbersFree cfg svc.mExplicitRequest.toList.length
  | _ => True

/-- What is queued stays queued for every group and every recipient. -/
def StaysQueued (cfg : NetConfig) (svc : RsGxsNetService) (input : NetInput)
    (inputs : List NetInput) : Prop :=
  (∀ grpIds peerId, input = .requestGrp grpIds peerId → ∀ grpId ∈ grpIds,
    (machine cfg).Until (GrpQueued peerId grpId) (GrpRequested cfg peerId grpId)
      ((machine cfg).next svc input) inputs) ∧
  ∀ grpId peers, input = .sharePublishKey grpId peers → ∀ peerId ∈ peers,
    (machine cfg).Until (RecipientQueued grpId peerId) (KeyShared cfg grpId peerId)
      ((machine cfg).next svc input) inputs

theorem next_of_running (h : svc.fault = none) :
  (machine cfg).next svc input = svc.cleared.perform cfg input
  := by
  rw [Machine.next, step_of_running (by rw [h]; rfl)]

theorem emit_of_running (h : svc.fault = none) :
  (machine cfg).emit svc input = (svc.cleared.perform cfg input).out
  := by
  rw [Machine.emit, step_of_running (by rw [h]; rfl)]

theorem next_of_fault (h : svc.fault ≠ none) :
  (machine cfg).next svc input = svc
  := by
  rw [Machine.next, step_of_fault (Option.isSome_iff_ne_none.mpr h)]

theorem recipients_processExplicitGroupRequests :
  (svc.processExplicitGroupRequests cfg env).mPendingPublishKeyRecipients =
    svc.mPendingPublishKeyRecipients
  := by
  have hfold : KeepsQueues { svc with mExplicitRequest := OrdMap.empty }
      (svc.processExplicitGroupRequests cfg env) := by
    rw [processExplicitGroupRequests]
    apply KeepsQueues.foldl
    intro svc e
    rw [processExplicitGroupRequest]
    split
    · apply KeepsQueues.push
      exact ⟨rfl, rfl⟩
    · exact ⟨rfl, rfl⟩
  exact hfold.mPendingPublishKeyRecipients

theorem mExplicitRequest_sharePublishKeyPending (peers : List RsPeerId) :
  (svc.sharePublishKeyPending env grpId peers).mExplicitRequest = svc.mExplicitRequest
  := by
  rw [sharePublishKeyPending]
  dsimp only
  split
  · rfl
  · cases svc.mDataStore.grpMeta? grpId with
    | none => rfl
    | some grpMeta =>
      rw [if_neg (by simp)]
      simp only [deref]
      cases publishKey grpMeta with
      | none => rfl
      | some key => simp only [foldl_sendItem]

theorem mExplicitRequest_sharePublishKeysPending :
  (svc.sharePublishKeysPending env).mExplicitRequest = svc.mExplicitRequest
  := by
  rw [sharePublishKeysPending]
  generalize svc.mPendingPublishKeyRecipients.toList = entries
  induction entries generalizing svc with
  | nil => rfl
  | cons e entries ih => rw [List.foldl_cons, ih, mExplicitRequest_sharePublishKeyPending]

theorem grpQueued_next (hqueued : svc.GrpQueued peerId grpId)
    (h : OverwritesNothing cfg svc input) :
  GrpRequested cfg peerId grpId svc input ∨ ((machine cfg).next svc input).GrpQueued peerId grpId
  := by
  by_cases hfault : svc.fault = none
  case neg =>
    right
    rw [next_of_fault hfault]
    exact hqueued
  case pos =>
    rw [next_of_running hfault]
    cases input with
    | requestGrp grpIds peer =>
      right
      rw [GrpQueued, perform, OrdMap.get?_insert]
      split
      case isTrue heq =>
        subst heq
        exact h grpId hqueued
      case isFalse => exact hqueued
    | processExplicitGroupRequests env =>
      left
      refine ⟨⟨env, rfl⟩, ?_⟩
      rw [emit_of_running hfault]
      obtain ⟨l, hl, hmem⟩ : ∃ l, svc.mExplicitRequest.get? peerId = some l ∧ grpId ∈ l := by
        rw [GrpQueued] at hqueued
        cases hl : svc.mExplicitRequest.get? peerId with
        | none =>
          rw [hl] at hqueued
          cases hqueued
        | some l =>
          rw [hl] at hqueued
          exact ⟨l, rfl, hqueued⟩
      obtain ⟨events, hout, hsent⟩ := @exists_requestsGrp_of_mem cfg env
        svc.mExplicitRequest.toList { svc.cleared with mExplicitRequest := OrdMap.empty } h
      obtain ⟨event, hevent, hrequests⟩ := hsent (peerId, l) (OrdMap.mem_toList.mpr hl) grpId hmem
      refine ⟨event, ?_, hrequests⟩
      have hperform : (svc.cleared.perform cfg (.processExplicitGroupRequests env)).out =
          [] ++ events := hout
      rw [hperform, List.nil_append]
      exact hevent
    | sharePublishKeysPending env =>
      right
      rw [GrpQueued, perform, mExplicitRequest_sharePublishKeysPending]
      exact hqueued
    | sharePublishKey grpId' peers => exact .inr hqueued
    | recvItem | updateServerSyncTS | processTransactions | processCompletedTransactions | runVetting
    | syncWithPeers | subscribeStatusChanged | changeStore =>
      right
      exact GrpQueued.keep (keepsQueues_perform fun h => h) hqueued

theorem recipientQueued_next (hqueued : svc.RecipientQueued grpId peerId)
    (h : OverwritesNothing cfg svc input) :
  KeyShared cfg grpId peerId svc input ∨
    ((machine cfg).next svc input).RecipientQueued grpId peerId
  := by
  by_cases hfault : svc.fault = none
  case neg =>
    right
    rw [next_of_fault hfault]
    exact hqueued
  case pos =>
    rw [next_of_running hfault]
    cases input with
    | sharePublishKey grp peers =>
      right
      rw [RecipientQueued, perform, OrdMap.get?_insert]
      split
      case isTrue heq =>
        subst heq
        exact h peerId hqueued
      case isFalse => exact hqueued
    | sharePublishKeysPending env =>
      obtain ⟨peers, hpeers, hmem⟩ : ∃ peers,
          svc.mPendingPublishKeyRecipients.get? grpId = some peers ∧ peerId ∈ peers := by
        rw [RecipientQueued] at hqueued
        cases hpeers : svc.mPendingPublishKeyRecipients.get? grpId with
        | none =>
          rw [hpeers] at hqueued
          cases hqueued
        | some peers =>
          rw [hpeers] at hqueued
          exact ⟨peers, rfl, hqueued⟩
      obtain ⟨-, events, hout, hsent⟩ := @foldl_sharePublishKeyPending_spec env
        svc.mPendingPublishKeyRecipients.toList svc.cleared
        svc.mPendingPublishKeyRecipients.sorted fun e he => OrdMap.mem_toList.mp he
      rcases hsent (grpId, peers) (OrdMap.mem_toList.mpr hpeers) peerId hmem with
        hkept | ⟨event, hevent, hshares⟩
      · exact .inr hkept
      · left
        refine ⟨⟨env, rfl⟩, event, ?_, hshares⟩
        have hperform : (svc.cleared.perform cfg (.sharePublishKeysPending env)).out =
            [] ++ events := hout
        rw [emit_of_running hfault, hperform, List.nil_append]
        exact hevent
    | processExplicitGroupRequests env =>
      right
      rw [RecipientQueued, perform, recipients_processExplicitGroupRequests]
      exact hqueued
    | requestGrp grpIds peer => exact .inr hqueued
    | recvItem | updateServerSyncTS | processTransactions | processCompletedTransactions | runVetting
    | syncWithPeers | subscribeStatusChanged | changeStore =>
      right
      exact RecipientQueued.keep (keepsQueues_perform fun h => h) hqueued

/-- In a run in which no call overwrites a request that waits, what is queued stays queued until it
is sent. -/
theorem staysQueued_of_along {input : NetInput} {inputs : List NetInput}
    (hrunning : svc.fault = none)
    (h : (machine cfg).Along (OverwritesNothing cfg) ((machine cfg).next svc input) inputs) :
  StaysQueued cfg svc input inputs
  := by
  constructor
  · rintro grpIds peerId rfl grpId hmem
    apply Machine.until_of_step (fun _ _ => grpQueued_next) ?_ h
    rw [next_of_running hrunning, GrpQueued, perform, OrdMap.get?_insert_self]
    exact hmem
  · rintro grpId peers rfl peerId hmem
    apply Machine.until_of_step (fun _ _ => recipientQueued_next) ?_ h
    rw [next_of_running hrunning, RecipientQueued, perform, OrdMap.get?_insert_self]
    exact hmem

/-- A group is requested twice, and sent; a publish key is shared twice, with one more recipient. -/
theorem staysQueued_of_along_twice :
  StaysQueued plainConfig (init plainStart) (.requestGrp [5] 2)
      [.requestGrp [5, 6] 2, .processExplicitGroupRequests (plainEnv 1)] ∧
    StaysQueued plainConfig (init plainStart) (.sharePublishKey 4 [2])
      [.sharePublishKey 4 [3, 2], .sharePublishKeysPending (plainEnv 1)]
  := by
  constructor
  · apply staysQueued_of_along rfl
    refine ⟨?_, ⟨by decide, ?_⟩, trivial⟩
    · intro grpId hqueued
      have hgrp : grpId ∈ [5] := hqueued
      exact List.mem_cons.mpr (.inl (List.mem_singleton.mp hgrp))
    · intro i _
      rfl
  · apply staysQueued_of_along rfl
    refine ⟨?_, trivial, trivial⟩
    intro peerId hqueued
    have hpeer : peerId ∈ [2] := hqueued
    exact List.mem_cons_of_mem 3 hpeer

/-- The group `5` is requested, and then the group `6` from the same peer. -/
theorem not_staysQueued_overwritten :
  ¬ ∀ (cfg : NetConfig) (svc : RsGxsNetService) (input : NetInput) (inputs : List NetInput),
    svc.fault = none → StaysQueued cfg svc input inputs
  := by
  intro h
  obtain ⟨hgrps, -⟩ := h plainConfig (init plainStart) (.requestGrp [5] 2) [.requestGrp [6] 2] rfl
  obtain ⟨-, ⟨⟨env, hinput⟩, -⟩ | hqueued⟩ := hgrps [5] 2 rfl 5 List.mem_cons_self
  · cases hinput
  · have hgrp : 5 ∈ [6] := hqueued
    exact absurd hgrp (by decide)

end RsGxsNetService

end Gxs
