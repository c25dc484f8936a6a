import RetroShare.Turtle.Steps

/-!
# Ending tunnels have a service

The service of an ending tunnel is found through the hash of the tunnel, in `_outgoing_file_hashes`.
All the ending tunnels for a hash share the entry, and the first of them that is closed takes it
away.  In every run that closes an ending tunnel only when it is the last one for its hash, and in
which the results for our requests do not name ending tunnels, every ending tunnel has a service,
which is told when the tunnel is closed.
-/

namespace Turtle

namespace p3turtle

variable {own : Own} {router router' : p3turtle} {tid : TurtleTunnelId}
  {service : RsTurtleClientService} {now : Nat} {hashes : List TurtleFileHash}
  {closings : List Closing} {hash : TurtleFileHash} {input : Input own}

/-- Every ending tunnel has a service, which is told when the tunnel is closed. -/
def Served (own : Own) (router : p3turtle) : Prop :=
  ∀ tid tunnel, router.localTunnels.get? tid = some tunnel → Ending own tunnel →
    (router.outgoingFileHashes.get? tunnel.hash).isSome ∧
    (router.getTunnelServiceInfo own tid).isSome ∧
    ∃ service, (router.closeTunnel own tid).2 =
      [⟨tid, tunnel, some (service, tunnel.hash, tunnel.vpid)⟩]

/-- The service of every ending tunnel that was closed has been told. -/
def Notified (own : Own) (events : List Event) : Prop :=
  ∀ closing, .closeTunnel closing ∈ events → Ending own closing.tunnel →
    ∃ service, .removeVirtualPeer service closing.tunnel.hash closing.tunnel.vpid ∈ events

/-- No other ending tunnel has the hash of a tunnel. -/
def Alone (own : Own) (router : p3turtle) (tid : TurtleTunnelId) : Prop :=
  ∀ tunnel, router.localTunnels.get? tid = some tunnel → Ending own tunnel →
    ∀ tid' tunnel', router.localTunnels.get? tid' = some tunnel' → Ending own tunnel' →
      tunnel'.hash = tunnel.hash → tid' = tid

/-- The tunnels that `autoWash` closes: those of hashes that are marked, and those that are idle. -/
def Closes (router : p3turtle) (now : Nat) (tid : TurtleTunnelId) : Prop :=
  (∃ hash ∈ router.hashesToRemove, router.Listed hash tid) ∨
    ∃ tunnel, router.localTunnels.get? tid = some tunnel ∧
      now > tunnel.timeStamp + maximumTunnelIdleTime

/-- An ending tunnel is closed as the last one for its hash, and it is not taken for a tunnel to
another hash. -/
def ClosesLast (own : Own) (router : p3turtle) : Input own → Prop
  | .handleTunnelResult item _ _ =>
      router.Answers own item → ∀ tunnel, router.localTunnels.get? item.tunnelId = some tunnel →
        Ending own tunnel → ∀ hash, router.Awaits item.requestId hash →
        (router.outgoingFileHashes.get? hash).isSome
  | .autoWash now => ∀ tid, router.Closes now tid → router.Alone own tid
  | _ => True

/-! ### What it takes to serve a tunnel -/

/-- The hash of every ending tunnel has a service. -/
def Outgoing (own : Own) (router : p3turtle) : Prop :=
  ∀ tid tunnel, router.localTunnels.get? tid = some tunnel → Ending own tunnel →
    (router.outgoingFileHashes.get? tunnel.hash).isSome

theorem closings_of_ending {tunnel : TurtleTunnel} (h : router.localTunnels.get? tid = some tunnel)
    (hending : Ending own tunnel) (hserved : (router.outgoingFileHashes.get? tunnel.hash).isSome) :
  ∃ service, (router.closeTunnel own tid).2 =
    [⟨tid, tunnel, some (service, tunnel.hash, tunnel.vpid)⟩]
  := by
  obtain ⟨service, hservice⟩ := Option.isSome_iff_exists.mp hserved
  use service
  rw [closeTunnel, h]
  dsimp only
  rw [if_neg hending.2, if_pos hending.1, closeEndingTunnel]
  dsimp only
  rw [hservice]

theorem Outgoing.served (h : Outgoing own router) :
  Served own router
  := by
  intro tid tunnel htunnel hending
  have hserved := h tid tunnel htunnel hending
  use hserved
  constructor
  · rw [getTunnelServiceInfo, htunnel]
    dsimp only
    rw [if_neg hending.2, if_pos hending.1, Option.isSome_map]
    exact hserved
  · apply closings_of_ending htunnel hending hserved

theorem Outgoing.init :
  Outgoing own init
  := by
  intro tid tunnel htunnel
  cases htunnel

theorem Outgoing.keeps (h : Outgoing own router) (hkeeps : Keeps own router router') :
  Outgoing own router'
  := by
  intro tid tunnel' htunnel' hending
  rw [hkeeps.outgoing]
  obtain ⟨tunnel, htunnel, hsame⟩ | hdst := hkeeps.fresh tid tunnel' htunnel'
  · rw [hsame.hash]
    apply h tid tunnel htunnel (hending.of_same hsame)
  · exact absurd hending.1 hdst

theorem Outgoing.endTunnel {item : RsTurtleOpenTunnelItem} (h : Outgoing own router) :
  Outgoing own (router.endTunnel own item now service).1
  := by
  rw [endTunnel_eq]
  intro tid tunnel htunnel hending
  dsimp only at htunnel ⊢
  rw [OrdMap.get?_insert]
  split
  · rfl
  · next hhash =>
      rw [place, OrdMap.get?_insert] at htunnel
      split at htunnel
      · rw [Option.some_inj] at htunnel
        rw [← htunnel] at hhash
        exact absurd rfl hhash
      · apply h tid tunnel htunnel hending

theorem Outgoing.answer {item : RsTurtleTunnelOkItem} {info : TurtleRequestInfo}
    (friend : item.peerId ≠ own.id) (h : Outgoing own router)
    (hserved : ∀ tunnel, router.localTunnels.get? item.tunnelId = some tunnel → Ending own tunnel →
      ∀ hash ∈ hashes, (router.outgoingFileHashes.get? hash).isSome) :
  Outgoing own (hashes.foldl (fun router => router.attachTunnel item.tunnelId)
    (router.recordResult item now info))
  := by
  have hkeeps : Keeps own router (router.recordResult item now info) :=
    keeps_recordResult friend now info
  have hrecorded := h.keeps hkeeps
  let tunnel := (router.localTunnels.get? item.tunnelId).getD
    ⟨info.origin, item.peerId, now % 2 ^ 32, 0, 0⟩
  have htunnel : (router.recordResult item now info).localTunnels.get? item.tunnelId = some tunnel :=
    OrdMap.get?_insert_self _ _
  intro t tunnel' htunnel' hending
  rw [outgoing_foldl_attachTunnel]
  obtain ⟨vpid, hlocal⟩ := get?_foldl_attachTunnel hashes htunnel
  rw [hlocal] at htunnel'
  split at htunnel'
  case isFalse => exact hrecorded t tunnel' htunnel' hending
  case isTrue heq =>
    rw [Option.some_inj] at htunnel'
    subst htunnel'
    have hending' : Ending own tunnel := hending
    cases hlast : hashes.getLast? with
    | none =>
      rw [Option.getD_none]
      exact hrecorded item.tunnelId tunnel htunnel hending'
    | some hash =>
      rw [Option.getD_some]
      obtain ⟨tunnel'', htunnel'', hsame⟩ | hdst := hkeeps.fresh item.tunnelId tunnel htunnel
      · exact hserved tunnel'' htunnel'' (hending'.of_same hsame) hash (List.mem_of_getLast? hlast)
      · exact absurd hending'.1 hdst

/-! ### Closing tunnels -/

/-- The ending tunnels that are closed have a source to be removed. -/
def Sourced (own : Own) (closings : List Closing) : Prop :=
  ∀ closing ∈ closings, Ending own closing.tunnel →
    ∃ service, closing.source = some (service, closing.tunnel.hash, closing.tunnel.vpid)

theorem Sourced.append {closings' : List Closing} (h : Sourced own closings)
    (h' : Sourced own closings') :
  Sourced own (closings ++ closings')
  := by
  intro closing hmem
  obtain hmem | hmem := List.mem_append.mp hmem
  · exact h closing hmem
  · exact h' closing hmem

/-- A tunnel that is alone stays so when tunnels are closed. -/
theorem Alone.mono (h : Alone own router tid)
    (hlocal : ∀ t tunnel, router'.localTunnels.get? t = some tunnel → router.localTunnels.get? t =
      some tunnel) :
  Alone own router' tid
  := by
  intro tunnel htunnel hending tid' tunnel' htunnel'
  apply h tunnel (hlocal tid tunnel htunnel) hending tid' tunnel' (hlocal tid' tunnel' htunnel')

section

variable (h : Outgoing own router)

include h

theorem Outgoing.closeTunnel (halone : Alone own router tid) :
  Outgoing own (router.closeTunnel own tid).1 ∧ Sourced own (router.closeTunnel own tid).2
  := by
  constructor
  · intro t tunnel htunnel hending
    rw [localTunnels_closeTunnel, OrdMap.get?_erase] at htunnel
    split at htunnel
    case isTrue => cases htunnel
    case isFalse hne =>
      obtain heq | ⟨tunnel', htunnel', hending', hhash⟩ :=
        get?_outgoing_closeTunnel own router tid tunnel.hash
      · rw [heq]
        apply h t tunnel htunnel hending
      · exact absurd (halone tunnel' htunnel' hending' t tunnel htunnel hending hhash.symm) hne
  · intro closing hmem hending
    cases htunnel : router.localTunnels.get? tid with
    | none =>
      rw [closeTunnel_of_none htunnel] at hmem
      cases hmem
    | some tunnel =>
      obtain ⟨source, hsource⟩ := closings_closeTunnel own htunnel
      rw [hsource, List.mem_singleton] at hmem
      rw [hmem] at hending
      obtain ⟨service, hservice⟩ :=
        closings_of_ending htunnel hending (h tid tunnel htunnel hending)
      rw [hservice] at hsource
      cases hsource
      subst hmem
      exact ⟨service, rfl⟩

theorem Outgoing.closeTunnels {tids : List TurtleTunnelId}
    (halone : ∀ tid ∈ tids, Alone own router tid) :
  Outgoing own (router.closeTunnels own tids).1 ∧ Sourced own (router.closeTunnels own tids).2
  := by
  induction tids generalizing router with
  | nil =>
    use h
    intro closing hmem
    cases hmem
  | cons tid tids ih =>
    obtain ⟨hclosed, hsourced⟩ := h.closeTunnel (halone tid List.mem_cons_self)
    have hrest (t : TurtleTunnelId) (ht : t ∈ tids) :
        Alone own (router.closeTunnel own tid).1 t := by
      apply (halone t (List.mem_cons_of_mem tid ht)).mono
      intro t' tunnel' htunnel'
      rw [localTunnels_closeTunnel] at htunnel'
      apply OrdMap.get?_of_get?_erase htunnel'
    obtain ⟨houtgoing, hsourced'⟩ := ih hclosed hrest
    rw [closeTunnels_cons]
    exact ⟨houtgoing, hsourced.append hsourced'⟩

theorem Outgoing.removeHash (halone : ∀ tid, router.Listed hash tid → Alone own router tid) :
  Outgoing own (router.removeHash own hash).1 ∧ Sourced own (router.removeHash own hash).2
  := by
  cases hinfo : router.incomingFileHashes.get? hash with
  | none =>
    rw [removeHash_of_none hinfo]
    use h
    intro closing hmem
    cases hmem
  | some info =>
    rw [removeHash_of_some hinfo]
    apply h.closeTunnels
    intro tid htid
    apply halone tid ⟨info, hinfo, htid⟩

theorem Outgoing.removeHashes
    (halone : ∀ hash ∈ hashes, ∀ tid, router.Listed hash tid → Alone own router tid) :
  Outgoing own (router.removeHashes own hashes).1 ∧ Sourced own (router.removeHashes own hashes).2
  := by
  induction hashes generalizing router with
  | nil =>
    use h
    intro closing hmem
    cases hmem
  | cons hash hashes ih =>
    obtain ⟨hremoved, hsourced⟩ := h.removeHash (halone hash List.mem_cons_self)
    have hrest (hash' : TurtleFileHash) (hhash' : hash' ∈ hashes) (tid : TurtleTunnelId)
        (hl : (router.removeHash own hash).1.Listed hash' tid) :
        Alone own (router.removeHash own hash).1 tid := by
      apply (halone hash' (List.mem_cons_of_mem hash hhash') tid (listed_of_removeHash hl)).mono
      intro t tunnel
      apply get?_of_removeHash
    obtain ⟨houtgoing, hsourced'⟩ := ih hremoved hrest
    rw [removeHashes_cons]
    exact ⟨houtgoing, hsourced.append hsourced'⟩

theorem Outgoing.autoWash (halone : ∀ tid, router.Closes now tid → router.Alone own tid) :
  Outgoing own (router.autoWash own now).1 ∧ Sourced own (router.washed own now)
  := by
  obtain ⟨hremoved, hsourced⟩ : Outgoing own (router.removeHashes own router.hashesToRemove).1 ∧
      Sourced own (router.removeHashes own router.hashesToRemove).2 := by
    apply h.removeHashes
    intro hash hhash tid hl
    apply halone tid (Or.inl ⟨hash, hhash, hl⟩)
  have hlocal (tid : TurtleTunnelId) (tunnel : TurtleTunnel)
      (h : (router.marked own now).localTunnels.get? tid = some tunnel) :
      router.localTunnels.get? tid = some tunnel := get?_of_removeHashes h
  have hmarked : Outgoing own (router.marked own now) := hremoved
  rw [autoWash_eq, washed]
  obtain ⟨hclosed, hsourced'⟩ : Outgoing own ((router.marked own now).closeTunnels own
        ((router.marked own now).idleTunnels now)).1 ∧
      Sourced own ((router.marked own now).closeTunnels own
        ((router.marked own now).idleTunnels now)).2 := by
    apply hmarked.closeTunnels
    intro tid htid
    obtain ⟨tunnel, htunnel, hidle⟩ := mem_idleTunnels.mp htid
    apply (halone tid (Or.inr ⟨tunnel, hlocal tid tunnel htunnel, hidle⟩)).mono hlocal
  exact ⟨hclosed, hsourced.append hsourced'⟩

/-! ### Runs -/

theorem Outgoing.effect (heffect : Effect own router input router')
    (hlast : ClosesLast own router input) :
  Outgoing own router'
  := by
  cases heffect with
  | keep keeps => exact h.keeps keeps
  | serve => exact (h.keeps (keeps_recordRequest _ _)).endTunnel
  | @answer item friend now info answers origin =>
    apply h.answer friend
    intro tunnel htunnel hending hash hhash
    apply hlast answers tunnel htunnel hending hash (mem_awaiting.mp hhash)
  | wash => exact (h.autoWash hlast).1

end

/-- The sources that `autoWash` collects are removed. -/
theorem removeVirtualPeer_mem_removals {closing : Closing} {vpid : TurtleVirtualPeerId}
    (h : closing ∈ closings) (hsource : closing.source = some (service, hash, vpid)) :
  .removeVirtualPeer service hash vpid ∈ removals closings
  := by
  rw [removals, List.mem_filterMap]
  use closing, h
  rw [hsource]
  rfl

theorem Notified.next {events : List Event} (h : Notified own events)
    (houtgoing : Outgoing own router) (hlast : ClosesLast own router input) :
  Notified own (events ++ (machine own).emit router input)
  := by
  intro closing hmem hending
  obtain hmem | hmem := List.mem_append.mp hmem
  · obtain ⟨service, hservice⟩ := h closing hmem hending
    use service
    apply List.mem_append_left _ hservice
  · obtain ⟨now, rfl, hwashed⟩ := closeTunnel_mem_emit hmem
    obtain ⟨service, hservice⟩ := (houtgoing.autoWash hlast).2 closing hwashed hending
    use service
    apply List.mem_append_right
    apply List.mem_append_right
    apply removeVirtualPeer_mem_removals hwashed hservice

/-- In a run that closes ending tunnels last, they all have services, which are told. -/
theorem served_run {inputs : List (Input own)} (h : (machine own).Along (ClosesLast own) init inputs) :
  Served own ((machine own).run init inputs) ∧ Notified own ((machine own).trace init inputs)
  := by
  have hstep (router : p3turtle) (input : Input own) (events : List Event)
      (h : Outgoing own router ∧ Notified own events) (hlast : ClosesLast own router input) :
      Outgoing own ((machine own).next router input) ∧
        Notified own (events ++ (machine own).emit router input) :=
    ⟨h.1.effect (effect_next router input) hlast, h.2.next h.1 hlast⟩
  have hinit : Outgoing own init ∧ Notified own [] := by
    use Outgoing.init
    intro closing hmem
    cases hmem
  obtain ⟨houtgoing, hnotified⟩ := Machine.run_trace_of_step hstep hinit h
  exact ⟨houtgoing.served, hnotified⟩

/-- A friend asks for a hash that is served, and the tunnel becomes idle. -/
def lastTunnel : List (Input sampleOwn) :=
  [.registerTunnelService 7,
    .handleTunnelRequest ⟨2, 5, 1, 0, 0⟩ two_ne_id (sampleSurroundings 1),
    .autoWash 70]

/-- There is only one tunnel. -/
theorem served_run_lastTunnel :
  Served sampleOwn ((machine sampleOwn).run init lastTunnel) ∧
    Notified sampleOwn ((machine sampleOwn).trace init lastTunnel)
  := by
  apply served_run
  refine ⟨trivial, trivial, ?_, trivial⟩
  have hone : ∀ e ∈ ((machine sampleOwn).run init (lastTunnel.take 2)).localTunnels.toList,
      e.1 = 3277002381 := by decide +kernel
  rintro tid - tunnel htunnel - tid' tunnel' htunnel' - -
  exact (hone _ (OrdMap.mem_toList.mpr htunnel')).trans
    (hone _ (OrdMap.mem_toList.mpr htunnel)).symm

/-- Two friends ask for the same hash, and the tunnel of the first becomes idle. -/
def idleTunnel : List (Input sampleOwn) :=
  [.registerTunnelService 7,
    .handleTunnelRequest ⟨2, 5, 1, 0, 0⟩ two_ne_id (sampleSurroundings 1),
    .handleTunnelRequest ⟨3, 5, 2, 1, 0⟩ three_ne_id (sampleSurroundings 50),
    .autoWash 70]

/-- The tunnel of the second has no service any more. -/
theorem not_served_idleTunnel :
  ¬Served sampleOwn ((machine sampleOwn).run init idleTunnel)
  := by
  intro h
  have hlocal : ((machine sampleOwn).run init idleTunnel).localTunnels.get? 3277002380 =
      some ⟨3, 1, 50, 5, virtualPeerId 3277002380⟩ := by decide +kernel
  have houtgoing : ((machine sampleOwn).run init idleTunnel).outgoingFileHashes.get? 5 = none := by
    decide +kernel
  obtain ⟨hsome, -⟩ := h _ _ hlocal ⟨rfl, by decide⟩
  rw [houtgoing] at hsome
  cases hsome

end p3turtle

end Turtle
