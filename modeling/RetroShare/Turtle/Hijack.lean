import RetroShare.Turtle.Steps

/-!
# Tunnels are hijacked

`handleTunnelResult` looks whether the tunnel of a result is there, and leaves its ends alone, but
gives it the hash that waits for the result; `handleTunnelRequest` does not look, and overwrites a
tunnel whose id comes out of the request.  Tunnels keep their ends and their hashes, until they are
closed, in exactly the runs whose requests and results do not name a tunnel of something else.
-/

namespace Turtle

namespace p3turtle

variable {own : Own} {router router' : p3turtle} {tunnel tunnel' : TurtleTunnel}
  {tid : TurtleTunnelId} {now : Nat} {input : Input own}

/-- The same ends, and the same hash once it is set. -/
structure SameEnds (tunnel tunnel' : TurtleTunnel) : Prop where
  localSrc : tunnel'.localSrc = tunnel.localSrc
  localDst : tunnel'.localDst = tunnel.localDst
  hash : tunnel.hash ≠ 0 → tunnel'.hash = tunnel.hash

/-- A tunnel that is there at some moment of the run keeps its ends and its hash, until it is
closed. -/
def NotHijacked (own : Own) (inputs : List (Input own)) : Prop :=
  ∀ before during after, inputs = before ++ during ++ after → ∀ tid tunnel,
    ((machine own).run init before).localTunnels.get? tid = some tunnel →
    (∀ closing, .closeTunnel closing ∈
      (machine own).trace ((machine own).run init before) during → closing.tid ≠ tid) →
    ∃ tunnel', ((machine own).run init (before ++ during)).localTunnels.get? tid = some tunnel' ∧
      SameEnds tunnel tunnel'

/-- A request that is served makes a tunnel that is not there, or the same one, and a result for a
request of ours names one that has no hash, or the last that waits for it. -/
def Honest (own : Own) (router : p3turtle) : Input own → Prop
  | .handleTunnelRequest item _ env =>
      router.Serves item env →
        ∀ tunnel, router.localTunnels.get? (requestedTunnel own item) = some tunnel →
          tunnel.localSrc = item.peerId ∧ tunnel.localDst = own.id ∧
            (tunnel.hash ≠ 0 → tunnel.hash = item.fileHash)
  | .handleTunnelResult item _ _ =>
      router.Answers own item →
        ∀ tunnel, router.localTunnels.get? item.tunnelId = some tunnel → tunnel.hash ≠ 0 →
          ∀ hash ∈ (router.awaiting item.requestId).getLast?, hash = tunnel.hash
  | _ => True

/-! ### One step -/

theorem SameEnds.refl (tunnel : TurtleTunnel) :
  SameEnds tunnel tunnel
  := ⟨rfl, rfl, fun _ => rfl⟩

theorem SameEnds.trans {tunnel'' : TurtleTunnel} (h : SameEnds tunnel tunnel')
    (h' : SameEnds tunnel' tunnel'') :
  SameEnds tunnel tunnel''
  := by
  constructor
  case localSrc => rw [h'.localSrc, h.localSrc]
  case localDst => rw [h'.localDst, h.localDst]
  case hash =>
    intro hset
    have hset' : tunnel'.hash ≠ 0 := by rwa [h.hash hset]
    rw [h'.hash hset', h.hash hset]

theorem SameEnds.of_same (h : SameTunnel tunnel tunnel') :
  SameEnds tunnel tunnel'
  := ⟨h.localSrc, h.localDst, fun _ => h.hash⟩

/-- The tunnels of a state are there in another one, with the same ends and hashes. -/
def KeepsEnds (router router' : p3turtle) : Prop :=
  ∀ tid tunnel, router.localTunnels.get? tid = some tunnel →
    ∃ tunnel', router'.localTunnels.get? tid = some tunnel' ∧ SameEnds tunnel tunnel'

theorem Keeps.keepsEnds (h : Keeps own router router') :
  KeepsEnds router router'
  := by
  intro tid tunnel htunnel
  obtain ⟨tunnel', htunnel', hsame⟩ := h.kept tid tunnel htunnel
  use tunnel', htunnel'
  apply SameEnds.of_same hsame

theorem keepsEnds_iff_of_insert
    (hlocal : ∀ t, router'.localTunnels.get? t = if t = tid then some tunnel else
      router.localTunnels.get? t) :
  KeepsEnds router router' ↔
    ∀ tunnel', router.localTunnels.get? tid = some tunnel' → SameEnds tunnel' tunnel
  := by
  constructor
  · intro h tunnel' htunnel'
    obtain ⟨tunnel'', htunnel'', hsame⟩ := h tid tunnel' htunnel'
    rw [hlocal, if_pos rfl, Option.some_inj] at htunnel''
    rwa [htunnel'']
  · intro h t tunnel' htunnel'
    rw [hlocal]
    split
    case isTrue heq =>
      rw [heq] at htunnel'
      exact ⟨tunnel, rfl, h tunnel' htunnel'⟩
    case isFalse => exact ⟨tunnel', htunnel', SameEnds.refl tunnel'⟩

theorem keepsEnds_endTunnel_iff {item : RsTurtleOpenTunnelItem} {service : RsTurtleClientService} :
  KeepsEnds router ((router.recordRequest item now).endTunnel own item now service).1 ↔
    ∀ tunnel, router.localTunnels.get? (requestedTunnel own item) = some tunnel →
      tunnel.localSrc = item.peerId ∧ tunnel.localDst = own.id ∧
        (tunnel.hash ≠ 0 → tunnel.hash = item.fileHash)
  := by
  have hlocal (t : TurtleTunnelId) :
      ((router.recordRequest item now).endTunnel own item now service).1.localTunnels.get? t =
      if t = requestedTunnel own item then
        some ⟨item.peerId, own.id, now % 2 ^ 32, item.fileHash,
          virtualPeerId (requestedTunnel own item)⟩
      else router.localTunnels.get? t := by
    rw [endTunnel_eq, place, OrdMap.get?_insert]
    rfl
  rw [keepsEnds_iff_of_insert hlocal]
  constructor
  · intro h tunnel htunnel
    obtain ⟨hsrc, hdst, hhash⟩ := h tunnel htunnel
    exact ⟨hsrc.symm, hdst.symm, fun hset => (hhash hset).symm⟩
  · intro h tunnel htunnel
    obtain ⟨hsrc, hdst, hhash⟩ := h tunnel htunnel
    exact ⟨hsrc.symm, hdst.symm, fun hset => (hhash hset).symm⟩

theorem keepsEnds_answer_iff {item : RsTurtleTunnelOkItem} {info : TurtleRequestInfo}
    (hashes : List TurtleFileHash) :
  KeepsEnds router (hashes.foldl (fun router => router.attachTunnel item.tunnelId)
      (router.recordResult item now info)) ↔
    ∀ tunnel, router.localTunnels.get? item.tunnelId = some tunnel → tunnel.hash ≠ 0 →
      ∀ hash ∈ hashes.getLast?, hash = tunnel.hash
  := by
  let new : TurtleTunnel := (router.localTunnels.get? item.tunnelId).getD
    ⟨info.origin, item.peerId, now % 2 ^ 32, 0, 0⟩
  have hnew : (router.recordResult item now info).localTunnels.get? item.tunnelId = some new :=
    OrdMap.get?_insert_self _ _
  obtain ⟨vpid, hattached⟩ := get?_foldl_attachTunnel hashes hnew
  have hlocal (t : TurtleTunnelId) :
      (hashes.foldl (fun router => router.attachTunnel item.tunnelId)
        (router.recordResult item now info)).localTunnels.get? t =
      if t = item.tunnelId then some { new with hash := hashes.getLast?.getD new.hash, vpid }
      else router.localTunnels.get? t := by
    rw [hattached]
    split
    case isTrue => rfl
    case isFalse hne => rw [recordResult, OrdMap.get?_insert, if_neg hne]
  rw [keepsEnds_iff_of_insert hlocal]
  have hthere (tunnel : TurtleTunnel)
      (htunnel : router.localTunnels.get? item.tunnelId = some tunnel) : new = tunnel := by
    rw [show new = (router.localTunnels.get? item.tunnelId).getD _ from rfl, htunnel,
      Option.getD_some]
  constructor
  · intro h tunnel htunnel hset hash hlast
    have hhash := (h tunnel htunnel).hash hset
    rw [Option.mem_def.mp hlast, Option.getD_some] at hhash
    exact hhash
  · intro h tunnel htunnel
    rw [hthere tunnel htunnel]
    refine ⟨rfl, rfl, ?_⟩
    intro hset
    cases hlast : hashes.getLast? with
    | none => rfl
    | some hash => exact h tunnel htunnel hset hash hlast

/-! ### Runs -/

/-- A step keeps the tunnels that it does not close. -/
def StepKeeps (own : Own) (router : p3turtle) (input : Input own) : Prop :=
  ∀ tid tunnel, router.localTunnels.get? tid = some tunnel →
    (∀ closing, .closeTunnel closing ∈ (machine own).emit router input → closing.tid ≠ tid) →
    ∃ tunnel', ((machine own).next router input).localTunnels.get? tid = some tunnel' ∧
      SameEnds tunnel tunnel'

/-- Only `autoWash` closes tunnels. -/
theorem stepKeeps_iff_keepsEnds (h : ∀ now, input ≠ .autoWash now) :
  StepKeeps own router input ↔ KeepsEnds router ((machine own).next router input)
  := by
  constructor
  · intro hstep tid tunnel htunnel
    apply hstep tid tunnel htunnel
    intro closing hmem
    obtain ⟨now, heq, -⟩ := closeTunnel_mem_emit hmem
    exact absurd heq (h now)
  · rintro hkeeps tid tunnel htunnel -
    apply hkeeps tid tunnel htunnel

theorem stepKeeps_of_keeps (h : Keeps own router ((machine own).next router input)) :
  StepKeeps own router input
  := fun tid tunnel htunnel _ => h.keepsEnds tid tunnel htunnel

/-- What `autoWash` does not close stays. -/
theorem stepKeeps_autoWash (now : Nat) :
  StepKeeps own router (.autoWash now)
  := by
  intro tid tunnel htunnel hopen
  obtain ⟨closing, hmem, heq⟩ | hstay := get?_autoWash own now htunnel
  · apply absurd heq (hopen closing _)
    apply List.mem_append_left
    apply List.mem_map_of_mem hmem
  · exact ⟨tunnel, hstay, SameEnds.refl tunnel⟩

theorem stepKeeps_iff (router : p3turtle) (input : Input own) :
  StepKeeps own router input ↔ Honest own router input
  := by
  cases input with
  | registerTunnelService => exact iff_of_true (stepKeeps_of_keeps (Keeps.of_eq rfl rfl rfl rfl)) trivial
  | monitorTunnels => exact iff_of_true (stepKeeps_of_keeps (keeps_monitorTunnels _ _ _)) trivial
  | stopMonitoringTunnels =>
    exact iff_of_true (stepKeeps_of_keeps (Keeps.of_eq rfl rfl rfl rfl)) trivial
  | diggTunnel => exact iff_of_true (stepKeeps_of_keeps (keeps_diggTunnel _ _ _)) trivial
  | forceReDiggTunnels =>
    exact iff_of_true (stepKeeps_of_keeps (keeps_forceReDiggTunnels _ _ _)) trivial
  | manageTunnels => exact iff_of_true (stepKeeps_of_keeps (keeps_manageTunnels _ _ _)) trivial
  | routeGenericTunnelItem =>
    exact iff_of_true (stepKeeps_of_keeps (keeps_routeGenericTunnelItem _ _ _ _)) trivial
  | sendTurtleData => exact iff_of_true (stepKeeps_of_keeps (keeps_sendTurtleData _ _ _)) trivial
  | autoWash now => exact iff_of_true (stepKeeps_autoWash now) trivial
  | handleTunnelRequest item friend env =>
    obtain ⟨hnot, hkeeps⟩ | ⟨hserves, service, heq⟩ :=
      handleTunnelRequest_cases router friend env
    · exact iff_of_true (stepKeeps_of_keeps hkeeps) (fun hserves => absurd hserves hnot)
    · rw [stepKeeps_iff_keepsEnds (by simp)]
      have hnext : (machine own).next router (.handleTunnelRequest item friend env) =
          ((router.recordRequest item env.now).endTunnel own item env.now service).1 := heq
      rw [hnext, keepsEnds_endTunnel_iff]
      exact ⟨fun h _ => h, fun h => h hserves⟩
  | handleTunnelResult item friend now =>
    obtain ⟨hnot, hkeeps⟩ | ⟨hanswers, info, -, heq⟩ :=
      handleTunnelResult_cases router friend now
    · exact iff_of_true (stepKeeps_of_keeps hkeeps) (fun hanswers => absurd hanswers hnot)
    · rw [stepKeeps_iff_keepsEnds (by simp)]
      have hnext : (machine own).next router (.handleTunnelResult item friend now) =
          (router.awaiting item.requestId).foldl (fun router => router.attachTunnel item.tunnelId)
            (router.recordResult item now info) := heq
      rw [hnext, keepsEnds_answer_iff]
      exact ⟨fun h _ => h, fun h => h hanswers⟩

/-- In a run whose steps keep the tunnels that they do not close, so does every part of it. -/
theorem keepsEnds_run {inputs : List (Input own)}
    (h : (machine own).Along (StepKeeps own) router inputs)
    (htunnel : router.localTunnels.get? tid = some tunnel)
    (hopen : ∀ closing, .closeTunnel closing ∈ (machine own).trace router inputs → closing.tid ≠
      tid) :
  ∃ tunnel', ((machine own).run router inputs).localTunnels.get? tid = some tunnel' ∧
    SameEnds tunnel tunnel'
  := by
  induction inputs generalizing router tunnel with
  | nil => exact ⟨tunnel, htunnel, SameEnds.refl tunnel⟩
  | cons input inputs ih =>
    obtain ⟨hstep, hrest⟩ := h
    obtain ⟨tunnel', htunnel', hsame⟩ := hstep tid tunnel htunnel
      (fun closing hmem => hopen closing (List.mem_append_left _ hmem))
    obtain ⟨tunnel'', htunnel'', hsame'⟩ := ih hrest htunnel'
      (fun closing hmem => hopen closing (List.mem_append_right _ hmem))
    use tunnel'', htunnel''
    apply hsame.trans hsame'

/-- The runs in which no tunnel is hijacked are those whose requests and results are honest. -/
theorem notHijacked_iff (own : Own) (inputs : List (Input own)) :
  NotHijacked own inputs ↔ (machine own).Along (Honest own) init inputs
  := by
  constructor
  · intro h
    rw [Machine.along_iff]
    rintro before input after rfl
    rw [← stepKeeps_iff]
    intro tid tunnel htunnel hopen
    have hstep := h before [input] after (by simp) tid tunnel htunnel
    simp only [Machine.trace_cons, Machine.trace_nil, List.append_nil, Machine.run_append,
      Machine.run_cons, Machine.run_nil] at hstep
    apply hstep hopen
  · rintro h before during after rfl tid tunnel htunnel hopen
    rw [Machine.along_append, Machine.along_append] at h
    rw [Machine.run_append]
    have hsteps := h.1.2.mono fun router input => (stepKeeps_iff router input).mpr
    apply keepsEnds_run hsteps htunnel hopen

/-- A friend asks for a hash that is served, and another one sends the same request. -/
def sameRequest : List (Input sampleOwn) :=
  [.registerTunnelService 7,
    .handleTunnelRequest ⟨2, 5, 1, 0, 0⟩ two_ne_id (sampleSurroundings 1),
    .handleTunnelRequest ⟨3, 5, 2, 0, 0⟩ three_ne_id (sampleSurroundings 2)]

/-- The tunnel of the first leads to the second. -/
theorem not_notHijacked_sameRequest :
  ¬NotHijacked sampleOwn sameRequest
  := by
  intro h
  have hbefore : ((machine sampleOwn).run init (sameRequest.take 2)).localTunnels.get? 3277002381 =
      some ⟨2, 1, 1, 5, virtualPeerId 3277002381⟩ := by decide +kernel
  have hafter : ((machine sampleOwn).run init sameRequest).localTunnels.get? 3277002381 =
      some ⟨3, 1, 2, 5, virtualPeerId 3277002381⟩ := by decide +kernel
  obtain ⟨tunnel, htunnel, hsame⟩ := h (sameRequest.take 2) (sameRequest.drop 2) [] rfl _ _ hbefore
    (fun closing hmem => by
      obtain hmem | hmem := List.mem_append.mp hmem
      · obtain ⟨now, heq, -⟩ := closeTunnel_mem_emit hmem
        cases heq
      · cases hmem)
  have heq : tunnel = ⟨3, 1, 2, 5, virtualPeerId 3277002381⟩ := by
    rw [List.take_append_drop, hafter, Option.some_inj] at htunnel
    exact htunnel.symm
  have hsrc := hsame.localSrc
  rw [heq] at hsrc
  cases hsrc

end p3turtle

end Turtle
