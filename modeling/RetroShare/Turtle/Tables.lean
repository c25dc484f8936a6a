import RetroShare.Turtle.Steps

/-!
# The tables of the turtle router agree

The virtual peers of the router, and the tunnels that are listed for the hashes it monitors, refer
to tunnels of `_local_tunnels` that start or end here.  Three steps break this: a request whose
tunnel id is that of a tunnel listed for a monitored hash, a result for a request of ours that
names a tunnel of something else or for which two hashes wait, and the closing of an ending tunnel
whose hash is gone from `_outgoing_file_hashes`, because another tunnel for the same hash was
closed before.  In every run without these steps the tables agree.
-/

namespace Turtle

namespace p3turtle

variable {own : Own} {router router' : p3turtle} {tid t : TurtleTunnelId} {tunnel : TurtleTunnel}
  {hash : TurtleFileHash} {tids : List TurtleTunnelId} {now : Nat}

/-- The virtual peers and the listed tunnels refer to tunnels that start or end here. -/
structure Agree (own : Own) (router : p3turtle) : Prop where
  virtualPeers : ∀ vpid tid, router.virtualPeers.get? vpid = some tid →
    ∃ tunnel, router.localTunnels.get? tid = some tunnel ∧ tunnel.vpid = vpid ∧
      (tunnel.localSrc = own.id ∨ tunnel.localDst = own.id)
  tunnels : ∀ hash tid, router.Listed hash tid →
    ∃ tunnel, router.localTunnels.get? tid = some tunnel ∧ tunnel.hash = hash ∧
      tunnel.localSrc = own.id

/-- Ending tunnels that are idle have their hashes in `_outgoing_file_hashes`, each a hash of its
own. -/
def ClosesServed (own : Own) (router : p3turtle) (now : Nat) : Prop :=
  ∀ tid tunnel, router.localTunnels.get? tid = some tunnel → Ending own tunnel →
    now > tunnel.timeStamp + maximumTunnelIdleTime →
    (router.outgoingFileHashes.get? tunnel.hash).isSome ∧
    ∀ tid' tunnel', router.localTunnels.get? tid' = some tunnel' → Ending own tunnel' →
      now > tunnel'.timeStamp + maximumTunnelIdleTime → tunnel'.hash = tunnel.hash → tid' = tid

/-- The tunnel ids that the router receives are not those of other tunnels, and ending tunnels are
closed while their hashes are served. -/
def KeepsApart (own : Own) (router : p3turtle) : Input own → Prop
  | .handleTunnelRequest item _ env =>
      router.Serves item env → ∀ hash, ¬router.Listed hash (requestedTunnel own item)
  | .handleTunnelResult item _ _ =>
      router.Answers own item → ∀ hash, router.Awaits item.requestId hash →
        (∀ hash', router.Awaits item.requestId hash' → hash' = hash) ∧
        (∀ hash', router.Listed hash' item.tunnelId → hash' = hash) ∧
        ∀ tunnel, router.localTunnels.get? item.tunnelId = some tunnel → tunnel.localSrc = own.id
  | .autoWash now => router.ClosesServed own now
  | _ => True

/-! ### Steps that keep the tables -/

/-- The agreement, and every virtual peer is named after its tunnel. -/
structure Inv (own : Own) (router : p3turtle) : Prop extends Agree own router where
  named : ∀ vpid tid, router.virtualPeers.get? vpid = some tid → vpid = virtualPeerId tid

theorem Inv.init :
  Inv own init
  := by
  constructor
  · constructor
    · intro vpid tid h
      cases h
    · rintro hash tid ⟨info, hinfo, -⟩
      cases hinfo
  · intro vpid tid h
    cases h

theorem Inv.keeps (h : Inv own router) (hkeeps : Keeps own router router') :
  Inv own router'
  := by
  constructor
  · constructor
    · intro vpid tid hvpid
      rw [hkeeps.virtualPeers] at hvpid
      obtain ⟨tunnel, htunnel, hv, hend⟩ := h.virtualPeers vpid tid hvpid
      obtain ⟨tunnel', htunnel', hsame⟩ := hkeeps.kept tid tunnel htunnel
      use tunnel', htunnel'
      rw [hsame.vpid, hsame.localSrc, hsame.localDst]
      use hv
    · intro hash tid hlisted
      obtain ⟨tunnel, htunnel, hhash, hsrc⟩ := h.tunnels hash tid (hkeeps.listed hash tid hlisted)
      obtain ⟨tunnel', htunnel', hsame⟩ := hkeeps.kept tid tunnel htunnel
      use tunnel', htunnel'
      rw [hsame.hash, hsame.localSrc]
      use hhash
  · intro vpid tid hvpid
    rw [hkeeps.virtualPeers] at hvpid
    apply h.named vpid tid hvpid

/-! ### Tunnels that are made here -/

theorem Inv.place (h : Inv own router) (hend : tunnel.localSrc = own.id ∨ tunnel.localDst = own.id)
    (hlisted : ∀ hash, router.Listed hash tid → tunnel.hash = hash ∧ tunnel.localSrc = own.id) :
  Inv own (router.place tid tunnel)
  := by
  constructor
  · constructor
    · intro vpid t hvpid
      rw [p3turtle.place, OrdMap.get?_insert]
      rw [p3turtle.place, OrdMap.get?_insert] at hvpid
      split at hvpid
      case isTrue heq =>
        cases hvpid
        rw [if_pos rfl]
        exact ⟨_, rfl, heq.symm, hend⟩
      case isFalse hne =>
        have ht : t ≠ tid := by
          rintro rfl
          exact hne (h.named vpid t hvpid)
        rw [if_neg ht]
        apply h.virtualPeers vpid t hvpid
    · intro hash t ht
      rw [p3turtle.place, OrdMap.get?_insert]
      split
      case isTrue heq =>
        subst heq
        exact ⟨_, rfl, hlisted hash ht⟩
      case isFalse => exact h.tunnels hash t ht
  · intro vpid t hvpid
    rw [p3turtle.place] at hvpid
    rcases OrdMap.get?_insert_iff.mp hvpid with ⟨heq, rfl⟩ | ⟨-, hvpid⟩
    · exact heq
    · exact h.named vpid t hvpid

theorem Inv.endTunnel {item : RsTurtleOpenTunnelItem} {service : RsTurtleClientService}
    (h : Inv own router) (hfree : ∀ hash, ¬router.Listed hash (requestedTunnel own item)) :
  Inv own (router.endTunnel own item now service).1
  := by
  rw [endTunnel_eq]
  have hplace : Inv own (router.place (requestedTunnel own item)
      ⟨item.peerId, own.id, now % 2 ^ 32, item.fileHash, 0⟩) := by
    apply h.place (Or.inr rfl)
    intro hash hlisted
    exact absurd hlisted (hfree hash)
  exact ⟨⟨hplace.virtualPeers, hplace.tunnels⟩, hplace.named⟩

theorem Inv.attachTunnel (h : Inv own router) (htunnel : router.localTunnels.get? tid = some tunnel)
    (hsrc : tunnel.localSrc = own.id) (hlisted : ∀ hash', router.Listed hash' tid → hash' = hash) :
  Inv own (router.attachTunnel tid hash)
  := by
  have hplace : Inv own (router.place tid { tunnel with hash }) := by
    have hsrc' : ({ tunnel with hash } : TurtleTunnel).localSrc = own.id := hsrc
    apply h.place (Or.inl hsrc')
    intro hash' hl
    exact ⟨(hlisted hash' hl).symm, hsrc⟩
  have heq := attachTunnel_eq hash htunnel
  constructor
  · constructor
    · rw [heq]
      exact hplace.virtualPeers
    · intro hash' t hl
      obtain hl | ⟨rfl, rfl⟩ := listed_attachTunnel hl
      · rw [heq]
        exact hplace.tunnels hash' t hl
      · rw [heq, p3turtle.place, OrdMap.get?_insert_self]
        exact ⟨_, rfl, rfl, hsrc⟩
  · rw [heq]
    exact hplace.named

/-- A result of ours is noted, and at most one hash waits for it. -/
theorem Inv.answer {item : RsTurtleTunnelOkItem} (friend : item.peerId ≠ own.id)
    {info : TurtleRequestInfo} (h : Inv own router) (horigin : info.origin = own.id)
    (hapart : ∀ hash, router.Awaits item.requestId hash → (∀ hash', router.Awaits item.requestId
      hash' → hash' = hash) ∧ (∀ hash', router.Listed hash' item.tunnelId → hash' = hash) ∧ ∀
      tunnel, router.localTunnels.get? item.tunnelId = some tunnel → tunnel.localSrc = own.id) :
  Inv own ((router.awaiting item.requestId).foldl
    (fun router => router.attachTunnel item.tunnelId) (router.recordResult item now info))
  := by
  have hrecorded : Inv own (router.recordResult item now info) :=
    h.keeps (keeps_recordResult friend now info)
  have hnodup := router.nodup_awaiting item.requestId
  cases hhashes : router.awaiting item.requestId with
  | nil => exact hrecorded
  | cons hash hashes =>
    have hawaits : router.Awaits item.requestId hash := by
      rw [← mem_awaiting, hhashes]
      apply List.mem_cons_self
    obtain ⟨hunique, hlisted, hsrc⟩ := hapart hash hawaits
    obtain rfl : hashes = [] := by
      rw [hhashes, List.nodup_cons] at hnodup
      apply List.eq_nil_iff_forall_not_mem.mpr
      intro hash' hmem
      obtain rfl : hash' = hash := by
        apply hunique
        rw [← mem_awaiting, hhashes]
        apply List.mem_cons_of_mem _ hmem
      exact hnodup.1 hmem
    apply hrecorded.attachTunnel (OrdMap.get?_insert_self _ _)
    · cases htunnel : router.localTunnels.get? item.tunnelId with
      | none => exact horigin
      | some tunnel => exact hsrc tunnel htunnel
    · exact hlisted

/-! ### Tunnels that are closed -/

section

variable (h : Inv own router)

include h

/-- What remains when a tunnel is gone that no virtual peer and no list refers to any more. -/
theorem Inv.of_closed (hlocal : router'.localTunnels = router.localTunnels.erase tid)
    (hvpids : ∀ vpid t, router'.virtualPeers.get? vpid = some t → router.virtualPeers.get? vpid =
      some t ∧ t ≠ tid)
    (hlisted : ∀ hash t, router'.Listed hash t → router.Listed hash t ∧ t ≠ tid) :
  Inv own router'
  := by
  constructor
  · constructor
    · intro vpid t hvpid
      obtain ⟨hvpid, hne⟩ := hvpids vpid t hvpid
      rw [hlocal, OrdMap.get?_erase, if_neg hne]
      apply h.virtualPeers vpid t hvpid
    · intro hash t hl
      obtain ⟨hl, hne⟩ := hlisted hash t hl
      rw [hlocal, OrdMap.get?_erase, if_neg hne]
      apply h.tunnels hash t hl
  · intro vpid t hvpid
    apply h.named vpid t (hvpids vpid t hvpid).1

/-- The virtual peers without the one of a tunnel do not refer to this tunnel. -/
theorem Inv.get?_erase {vpid : TurtleVirtualPeerId}
    (htunnel : router.localTunnels.get? tid = some tunnel)
    (hvpid : (router.virtualPeers.erase tunnel.vpid).get? vpid = some t) :
  router.virtualPeers.get? vpid = some t ∧ t ≠ tid
  := by
  rw [OrdMap.get?_erase] at hvpid
  split at hvpid
  case isTrue => cases hvpid
  case isFalse hne =>
    use hvpid
    rintro rfl
    obtain ⟨tunnel', htunnel', hv, -⟩ := h.virtualPeers vpid t hvpid
    rw [htunnel, Option.some_inj] at htunnel'
    rw [htunnel'] at hne
    exact hne hv.symm

theorem Inv.ne_of_listed (htunnel : router.localTunnels.get? tid = some tunnel)
    (hsrc : tunnel.localSrc ≠ own.id) (hl : router.Listed hash t) :
  t ≠ tid
  := by
  rintro rfl
  obtain ⟨tunnel', htunnel', -, hsrc'⟩ := h.tunnels hash t hl
  rw [htunnel, Option.some_inj] at htunnel'
  rw [htunnel'] at hsrc
  exact hsrc hsrc'

theorem Inv.closeStartingTunnel (htunnel : router.localTunnels.get? tid = some tunnel) :
  Inv own (router.closeStartingTunnel tid tunnel).1
  := by
  rw [p3turtle.closeStartingTunnel]
  -- a list that names the tunnel is that of its hash
  have hhash (hash : TurtleFileHash) (hl : router.Listed hash tid) : tunnel.hash = hash := by
    obtain ⟨tunnel', htunnel', hhash, -⟩ := h.tunnels hash tid hl
    rw [htunnel, Option.some_inj] at htunnel'
    rwa [htunnel']
  cases hinfo : router.incomingFileHashes.get? tunnel.hash with
  | none =>
    apply h.of_closed rfl (fun vpid t => h.get?_erase htunnel)
    intro hash t hl
    use hl
    rintro rfl
    rw [hhash hash hl] at hinfo
    obtain ⟨info, hinfo', -⟩ := hl
    rw [hinfo] at hinfo'
    cases hinfo'
  | some info =>
    apply h.of_closed rfl (fun vpid t => h.get?_erase htunnel)
    rintro hash t ⟨info', hinfo', ht⟩
    rcases OrdMap.get?_insert_iff.mp hinfo' with ⟨heq, rfl⟩ | ⟨hne, hinfo'⟩
    · obtain ⟨hmem, hne⟩ := mem_removeTunnel ht
      rw [heq]
      exact ⟨⟨info, hinfo, hmem⟩, hne⟩
    · have hl : router.Listed hash t := ⟨info', hinfo', ht⟩
      use hl
      rintro rfl
      exact hne (hhash hash hl).symm

theorem Inv.closeEndingTunnel (htunnel : router.localTunnels.get? tid = some tunnel)
    (hending : Ending own tunnel) (hserved : (router.outgoingFileHashes.get? tunnel.hash).isSome) :
  Inv own (router.closeEndingTunnel tid tunnel).1
  := by
  rw [p3turtle.closeEndingTunnel]
  obtain ⟨service, hservice⟩ := Option.isSome_iff_exists.mp hserved
  dsimp only
  rw [hservice]
  apply h.of_closed rfl (fun vpid t => h.get?_erase htunnel)
  intro hash t hl
  exact ⟨hl, h.ne_of_listed htunnel hending.2 hl⟩

theorem Inv.closeTunnel
    (hserved : ∀ tunnel, router.localTunnels.get? tid = some tunnel → Ending own tunnel →
      (router.outgoingFileHashes.get? tunnel.hash).isSome) :
  Inv own (router.closeTunnel own tid).1
  := by
  cases htunnel : router.localTunnels.get? tid with
  | none =>
    rw [closeTunnel_of_none htunnel]
    exact h
  | some tunnel =>
    obtain ⟨-, hclose⟩ | ⟨hending, hclose⟩ | ⟨hsrc, hdst, hclose⟩ :=
      closeTunnel_cases own htunnel
    · rw [hclose]
      apply h.closeStartingTunnel htunnel
    · rw [hclose]
      apply h.closeEndingTunnel htunnel hending (hserved tunnel htunnel hending)
    · rw [hclose]
      apply h.of_closed rfl
      · intro vpid t hvpid
        use hvpid
        rintro rfl
        obtain ⟨tunnel', htunnel', -, hend⟩ := h.virtualPeers vpid t hvpid
        rw [htunnel, Option.some_inj] at htunnel'
        rw [htunnel'] at hsrc hdst
        exact hend.elim hsrc hdst
      · intro hash t hl
        exact ⟨hl, h.ne_of_listed htunnel hsrc hl⟩

end

/-- Tunnels can be closed one after the other: the ending ones are served, each by itself. -/
def Closable (own : Own) (router : p3turtle) (tids : List TurtleTunnelId) : Prop :=
  ∀ tid ∈ tids, ∀ tunnel, router.localTunnels.get? tid = some tunnel → Ending own tunnel →
    (router.outgoingFileHashes.get? tunnel.hash).isSome ∧
    ∀ tid' ∈ tids, ∀ tunnel', router.localTunnels.get? tid' = some tunnel' → Ending own tunnel' →
      tunnel'.hash = tunnel.hash → tid' = tid

theorem Closable.closeTunnel (h : Closable own router (tid :: tids)) :
  Closable own (router.closeTunnel own tid).1 tids
  := by
  intro t ht tunnel htunnel hending
  rw [localTunnels_closeTunnel] at htunnel
  have hne : t ≠ tid := by
    rintro rfl
    rw [OrdMap.get?_erase_self] at htunnel
    cases htunnel
  obtain ⟨hserved, halone⟩ := h t (List.mem_cons_of_mem tid ht) tunnel
    (OrdMap.get?_of_get?_erase htunnel) hending
  constructor
  · obtain heq | ⟨tunnel', htunnel', hending', hhash⟩ :=
      get?_outgoing_closeTunnel own router tid tunnel.hash
    · rwa [heq]
    · exact absurd (halone tid List.mem_cons_self tunnel' htunnel' hending' hhash) hne.symm
  · intro t' ht' tunnel' htunnel'
    rw [localTunnels_closeTunnel] at htunnel'
    apply halone t' (List.mem_cons_of_mem tid ht') tunnel' (OrdMap.get?_of_get?_erase htunnel')

theorem Inv.closeTunnels (h : Inv own router) (hclosable : Closable own router tids) :
  Inv own (router.closeTunnels own tids).1
  := by
  induction tids generalizing router with
  | nil => exact h
  | cons tid tids ih =>
    rw [closeTunnels_cons]
    apply ih _ hclosable.closeTunnel
    apply h.closeTunnel
    intro tunnel htunnel hending
    apply (hclosable tid List.mem_cons_self tunnel htunnel hending).1

/-! ### Washing -/

theorem outgoing_closeTunnels
    (h : ∀ tid ∈ tids, ∀ tunnel, router.localTunnels.get? tid = some tunnel → ¬Ending own tunnel)
    (hash : TurtleFileHash) :
  (router.closeTunnels own tids).1.outgoingFileHashes.get? hash =
    router.outgoingFileHashes.get? hash
  := by
  induction tids generalizing router with
  | nil => rfl
  | cons tid tids ih =>
    rw [closeTunnels_cons]
    dsimp only
    rw [ih]
    · obtain heq | ⟨tunnel, htunnel, hending, -⟩ :=
        get?_outgoing_closeTunnel own router tid hash
      · exact heq
      · exact absurd hending (h tid List.mem_cons_self tunnel htunnel)
    · intro t ht tunnel htunnel
      rw [localTunnels_closeTunnel] at htunnel
      apply h t (List.mem_cons_of_mem tid ht) tunnel (OrdMap.get?_of_get?_erase htunnel)

section

variable (h : Inv own router)

include h

/-- The tunnels that are listed for a hash start here. -/
theorem Inv.not_ending {info : TurtleHashInfo}
    (hinfo : router.incomingFileHashes.get? hash = some info) :
  ∀ tid ∈ info.tunnels, ∀ tunnel, router.localTunnels.get? tid = some tunnel → ¬Ending own tunnel
  := by
  rintro tid htid tunnel htunnel ⟨-, hsrc⟩
  obtain ⟨tunnel', htunnel', -, hsrc'⟩ := h.tunnels hash tid ⟨info, hinfo, htid⟩
  rw [htunnel, Option.some_inj] at htunnel'
  rw [htunnel'] at hsrc
  exact hsrc hsrc'

theorem Inv.removeHash (hash : TurtleFileHash) :
  Inv own (router.removeHash own hash).1 ∧
    ∀ hash', (router.removeHash own hash).1.outgoingFileHashes.get? hash' =
      router.outgoingFileHashes.get? hash'
  := by
  cases hinfo : router.incomingFileHashes.get? hash with
  | none =>
    rw [removeHash_of_none hinfo]
    exact ⟨h, fun _ => rfl⟩
  | some info =>
    rw [removeHash_of_some hinfo]
    have hclosed : Inv own (router.closeTunnels own info.tunnels).1 := by
      apply h.closeTunnels
      intro tid htid tunnel htunnel hending
      exact absurd hending (h.not_ending hinfo tid htid tunnel htunnel)
    constructor
    · refine ⟨⟨hclosed.virtualPeers, ?_⟩, hclosed.named⟩
      rintro hash' t ⟨info', hinfo', ht⟩
      apply hclosed.tunnels hash' t
      exact ⟨info', OrdMap.get?_of_get?_erase hinfo', ht⟩
    · apply outgoing_closeTunnels (h.not_ending hinfo)

theorem Inv.removeHashes (hashes : List TurtleFileHash) :
  Inv own (router.removeHashes own hashes).1 ∧
    ∀ hash, (router.removeHashes own hashes).1.outgoingFileHashes.get? hash =
      router.outgoingFileHashes.get? hash
  := by
  induction hashes generalizing router with
  | nil => exact ⟨h, fun _ => rfl⟩
  | cons hash hashes ih =>
    obtain ⟨hremoved, houtgoing⟩ := h.removeHash hash
    obtain ⟨hinv, houtgoing'⟩ := ih hremoved
    rw [removeHashes_cons]
    use hinv
    intro hash'
    rw [houtgoing', houtgoing]

theorem Inv.autoWash (hserved : router.ClosesServed own now) :
  Inv own (router.autoWash own now).1
  := by
  obtain ⟨hinv, houtgoing⟩ := h.removeHashes router.hashesToRemove
  have hlocal (tid : TurtleTunnelId) (tunnel : TurtleTunnel)
      (h : (router.marked own now).localTunnels.get? tid = some tunnel) :
      router.localTunnels.get? tid = some tunnel := get?_of_removeHashes h
  have hmarked : Inv own (router.marked own now) := ⟨⟨hinv.virtualPeers, hinv.tunnels⟩, hinv.named⟩
  rw [autoWash_eq]
  apply hmarked.closeTunnels
  intro tid htid tunnel htunnel hending
  obtain ⟨tunnel', htunnel', hidle⟩ := mem_idleTunnels.mp htid
  rw [htunnel, Option.some_inj] at htunnel'
  subst htunnel'
  obtain ⟨hsome, halone⟩ := hserved tid tunnel (hlocal tid tunnel htunnel) hending hidle
  constructor
  · rw [← houtgoing] at hsome
    exact hsome
  · intro tid' htid' tunnel' htunnel' hending' hhash
    obtain ⟨tunnel'', htunnel'', hidle'⟩ := mem_idleTunnels.mp htid'
    rw [htunnel', Option.some_inj] at htunnel''
    subst htunnel''
    apply halone tid' tunnel' (hlocal tid' tunnel' htunnel') hending' hidle' hhash

/-! ### Runs -/

theorem Inv.effect {input : Input own} (heffect : Effect own router input router')
    (happart : KeepsApart own router input) :
  Inv own router'
  := by
  cases heffect with
  | keep keeps => exact h.keeps keeps
  | serve serves =>
    apply Inv.endTunnel (h.keeps (keeps_recordRequest _ _))
    exact happart serves
  | @answer item friend now info answers origin => exact h.answer friend origin (happart answers)
  | wash => exact h.autoWash happart

end

/-- In a run that keeps tunnels apart, the tables agree in every state. -/
theorem agree_run {inputs : List (Input own)} (h : (machine own).Along (KeepsApart own) init inputs) :
  Agree own ((machine own).run init inputs)
  := by
  have hinv : Inv own ((machine own).run init inputs) :=
    Machine.run_of_step (fun router input h hi => h.effect (effect_next router input) hi) Inv.init h
  exact hinv.toAgree

/-! ### Two tunnels for one hash -/

/-- Two friends ask for the same hash, and both tunnels become idle. -/
def idleTwins : List (Input sampleOwn) :=
  [.registerTunnelService 7,
    .handleTunnelRequest ⟨2, 5, 1, 0, 0⟩ two_ne_id (sampleSurroundings 1),
    .handleTunnelRequest ⟨3, 5, 2, 1, 0⟩ three_ne_id (sampleSurroundings 1),
    .autoWash 1000]

/-- The friends ask for a hash that is served, and nothing is monitored. -/
theorem agree_run_idleTwins :
  Agree sampleOwn ((machine sampleOwn).run init (idleTwins.take 3))
  := by
  apply agree_run
  refine ⟨trivial, ?_, ?_, trivial⟩
  · rintro - hash ⟨info, hinfo, -⟩
    cases hinfo
  · rintro - hash ⟨info, hinfo, -⟩
    cases hinfo

/-- A virtual peer outlives its tunnel. -/
theorem not_agree_idleTwins :
  ¬Agree sampleOwn ((machine sampleOwn).run init idleTwins)
  := by
  intro h
  have hvpid : ((machine sampleOwn).run init idleTwins).virtualPeers.get?
      (virtualPeerId 3277002381) = some 3277002381 := by decide +kernel
  have hlocal : ((machine sampleOwn).run init idleTwins).localTunnels.get? 3277002381 = none := by
    decide +kernel
  obtain ⟨tunnel, htunnel, -⟩ := h.virtualPeers _ _ hvpid
  rw [hlocal] at htunnel
  cases htunnel

end p3turtle

end Turtle
