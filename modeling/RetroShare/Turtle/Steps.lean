import RetroShare.Turtle.Router

/-!
# What the steps of the turtle router do

A step of the router either keeps its tables, up to the times of tunnels and entries that refer to
nothing, or it ends a tunnel here, attaches a tunnel to the hashes that wait for it, or closes
tunnels.  `Effect` lists these four, and `effect_next` says that there are no others.  The lemmas on
closing tunnels say what remains of the tables.
-/

namespace Turtle

/-- The same tunnel at another time. -/
structure SameTunnel (tunnel tunnel' : TurtleTunnel) : Prop where
  localSrc : tunnel'.localSrc = tunnel.localSrc
  localDst : tunnel'.localDst = tunnel.localDst
  hash : tunnel'.hash = tunnel.hash
  vpid : tunnel'.vpid = tunnel.vpid

theorem SameTunnel.refl (tunnel : TurtleTunnel) :
  SameTunnel tunnel tunnel
  := ⟨rfl, rfl, rfl, rfl⟩

variable {tunnel' tunnel : TurtleTunnel}

theorem SameTunnel.trans {tunnel'' : TurtleTunnel} (h : SameTunnel tunnel tunnel')
    (h' : SameTunnel tunnel' tunnel'') :
  SameTunnel tunnel tunnel''
  := ⟨h'.localSrc.trans h.localSrc, h'.localDst.trans h.localDst, h'.hash.trans h.hash,
    h'.vpid.trans h.vpid⟩

/-- A tunnel that ends here and starts elsewhere. -/
def Ending (own : Own) (tunnel : TurtleTunnel) : Prop :=
  tunnel.localDst = own.id ∧ tunnel.localSrc ≠ own.id

instance (own : Own) (tunnel : TurtleTunnel) : Decidable (Ending own tunnel) :=
  inferInstanceAs (Decidable (_ ∧ _))

theorem Ending.of_same {own : Own} (h : Ending own tunnel') (hsame : SameTunnel tunnel tunnel') :
  Ending own tunnel
  := by
  rw [Ending, ← hsame.localDst, ← hsame.localSrc]
  exact h

/-- The id of the tunnel that `handleTunnelRequest` makes for a request that it can serve. -/
def requestedTunnel (own : Own) (item : RsTurtleOpenTunnelItem) : TurtleTunnelId :=
  item.partialTunnelId ^^^ generatePersonalFilePrint own item.fileHash own.randomBias false

namespace p3turtle

variable {own : Own} {router router' router'' : p3turtle} {hash hash' : TurtleFileHash}
  {tid t : TurtleTunnelId} {tunnel : TurtleTunnel} (item : RsTurtleOpenTunnelItem)
  {info : TurtleHashInfo} (peerId : GRouter.RsPeerId) (vpid : TurtleVirtualPeerId) (now : Nat)
  {tunnels tids : List TurtleTunnelId}

/-- A tunnel is listed for a monitored hash. -/
def Listed (router : p3turtle) (hash : TurtleFileHash) (tid : TurtleTunnelId) : Prop :=
  ∃ info, router.incomingFileHashes.get? hash = some info ∧ tid ∈ info.tunnels

/-- The last request for a monitored hash has the given id. -/
def Awaits (router : p3turtle) (requestId : TurtleTunnelRequestId) (hash : TurtleFileHash) : Prop :=
  ∃ info, router.incomingFileHashes.get? hash = some info ∧ info.lastRequest = requestId

/-- A request is new, and one of the services can serve it. -/
def Serves (router : p3turtle) (item : RsTurtleOpenTunnelItem) (env : Surroundings) : Prop :=
  router.tunnelRequestsOrigins.get? item.requestId = none ∧
    (router.performLocalHashSearch env item.fileHash item.peerId).isSome

/-- A result answers a request of ours, and was not received before. -/
def Answers (own : Own) (router : p3turtle) (item : RsTurtleTunnelOkItem) : Prop :=
  ∃ info, router.tunnelRequestsOrigins.get? item.requestId = some info ∧ info.origin = own.id ∧
    info.responses.get? item.tunnelId = none

theorem mem_awaiting {requestId : TurtleTunnelRequestId} :
  hash ∈ router.awaiting requestId ↔ router.Awaits requestId hash
  := by
  rw [awaiting, List.mem_map]
  constructor
  · rintro ⟨⟨hash', info⟩, hmem, rfl⟩
    rw [OrdMap.mem_toList, OrdMap.get?_filter, Option.filter_eq_some_iff] at hmem
    use info, hmem.1
    simpa using hmem.2
  · rintro ⟨info, hinfo, hlast⟩
    use (hash, info)
    rw [OrdMap.mem_toList, OrdMap.get?_filter, Option.filter_eq_some_iff]
    simp [hinfo, hlast]

theorem nodup_awaiting (router : p3turtle) (requestId : TurtleTunnelRequestId) :
  (router.awaiting requestId).Nodup
  := by
  rw [awaiting, List.nodup_iff_pairwise_ne, List.pairwise_map]
  apply (OrdMap.sorted _).imp
  intro e e' hlt
  exact hlt.ne

/-! ### Steps that keep the tables -/

/-- The tables are kept: tunnels up to their times, and what is new refers to nothing here. -/
structure Keeps (own : Own) (router router' : p3turtle) : Prop where
  virtualPeers : router'.virtualPeers = router.virtualPeers
  outgoing : router'.outgoingFileHashes = router.outgoingFileHashes
  listed : ∀ hash tid, router'.Listed hash tid → router.Listed hash tid
  kept : ∀ tid tunnel, router.localTunnels.get? tid = some tunnel →
    ∃ tunnel', router'.localTunnels.get? tid = some tunnel' ∧ SameTunnel tunnel tunnel'
  fresh : ∀ tid tunnel', router'.localTunnels.get? tid = some tunnel' →
    (∃ tunnel, router.localTunnels.get? tid = some tunnel ∧ SameTunnel tunnel tunnel') ∨
      tunnel'.localDst ≠ own.id

theorem Keeps.of_eq (hvpids : router'.virtualPeers = router.virtualPeers)
    (houtgoing : router'.outgoingFileHashes = router.outgoingFileHashes)
    (hincoming : router'.incomingFileHashes = router.incomingFileHashes)
    (hlocal : router'.localTunnels = router.localTunnels) :
  Keeps own router router'
  := by
  constructor
  case virtualPeers => exact hvpids
  case outgoing => exact houtgoing
  case listed =>
    rintro hash tid ⟨info, hinfo, htid⟩
    rw [hincoming] at hinfo
    use info, hinfo, htid
  case kept =>
    intro tid tunnel h
    rw [hlocal]
    use tunnel, h
    apply SameTunnel.refl
  case fresh =>
    intro tid tunnel h
    rw [hlocal] at h
    apply Or.inl
    use tunnel, h
    apply SameTunnel.refl

theorem Keeps.refl (router : p3turtle) :
  Keeps own router router
  := Keeps.of_eq rfl rfl rfl rfl

theorem Keeps.trans (h : Keeps own router router') (h' : Keeps own router' router'') :
  Keeps own router router''
  := by
  constructor
  case virtualPeers => rw [h'.virtualPeers, h.virtualPeers]
  case outgoing => rw [h'.outgoing, h.outgoing]
  case listed =>
    intro hash tid hlisted
    apply h.listed
    apply h'.listed hash tid hlisted
  case kept =>
    intro tid tunnel htunnel
    obtain ⟨tunnel', htunnel', hsame⟩ := h.kept tid tunnel htunnel
    obtain ⟨tunnel'', htunnel'', hsame'⟩ := h'.kept tid tunnel' htunnel'
    use tunnel'', htunnel''
    apply hsame.trans hsame'
  case fresh =>
    intro tid tunnel'' htunnel''
    obtain ⟨tunnel', htunnel', hsame'⟩ | hdst := h'.fresh tid tunnel'' htunnel''
    · obtain ⟨tunnel, htunnel, hsame⟩ | hdst := h.fresh tid tunnel' htunnel'
      · apply Or.inl
        use tunnel, htunnel
        apply hsame.trans hsame'
      · rw [← hsame'.localDst] at hdst
        exact Or.inr hdst
    · exact Or.inr hdst

theorem Keeps.of_incoming (h : ∀ tid ∈ info.tunnels, router.Listed hash tid) :
  Keeps own router { router with incomingFileHashes := router.incomingFileHashes.insert hash info }
  := by
  have hrefl : Keeps own router router := Keeps.refl router
  refine ⟨rfl, rfl, ?_, hrefl.kept, hrefl.fresh⟩
  rintro hash' tid ⟨info', hinfo', htid⟩
  rcases OrdMap.get?_insert_iff.mp hinfo' with ⟨heq, rfl⟩ | ⟨-, hinfo'⟩
  · rw [heq]
    apply h tid htid
  · exact ⟨info', hinfo', htid⟩

/-- A tunnel is put where there was none, or the same one. -/
theorem Keeps.of_local
    (h : (∃ tunnel, router.localTunnels.get? tid = some tunnel ∧ SameTunnel tunnel tunnel') ∨
      router.localTunnels.get? tid = none ∧ tunnel'.localDst ≠ own.id) :
  Keeps own router { router with localTunnels := router.localTunnels.insert tid tunnel' }
  := by
  have hrefl : Keeps own router router := Keeps.refl router
  refine ⟨rfl, rfl, hrefl.listed, ?_, ?_⟩
  · intro tid' tunnel htunnel
    rw [OrdMap.get?_insert]
    split
    case isTrue heq =>
      use tunnel', rfl
      rw [heq] at htunnel
      obtain ⟨tunnel'', htunnel'', hsame⟩ | ⟨hnone, -⟩ := h
      · rw [htunnel, Option.some_inj] at htunnel''
        rwa [htunnel'']
      · rw [htunnel] at hnone
        cases hnone
    case isFalse => exact hrefl.kept tid' tunnel htunnel
  · intro tid' tunnel htunnel
    rcases OrdMap.get?_insert_iff.mp htunnel with ⟨heq, rfl⟩ | ⟨-, htunnel⟩
    · subst heq
      apply h.imp_right And.right
    · exact hrefl.fresh tid' tunnel htunnel

/-- `operator[]` keeps the tunnel that is there. -/
theorem Keeps.of_getD {default : TurtleTunnel} (h : default.localDst ≠ own.id) :
  Keeps own router { router with
    localTunnels := router.localTunnels.insert tid ((router.localTunnels.get? tid).getD default) }
  := by
  apply Keeps.of_local
  cases htunnel : router.localTunnels.get? tid with
  | none => exact Or.inr ⟨rfl, h⟩
  | some tunnel => exact Or.inl ⟨tunnel, rfl, SameTunnel.refl tunnel⟩

theorem keeps_monitorTunnels (hash : TurtleFileHash) (service : RsTurtleClientService)
    (draw : Nat) :
  Keeps own router (router.monitorTunnels hash service draw)
  := by
  rw [monitorTunnels]
  dsimp only
  have hcancelled : Keeps own router { router with
      hashesToRemove :=
        cancelRemovalFrom hash router.hashesToRemove.length 0 router.hashesToRemove } :=
    Keeps.of_eq rfl rfl rfl rfl
  split
  · exact hcancelled
  · apply hcancelled.trans
    apply Keeps.of_incoming
    intro tid htid
    cases htid

theorem keeps_stampTunnel (own : Own) (stamps : Bool) (now : Nat)
    (h : router.localTunnels.get? tid = some tunnel) :
  Keeps own router (router.stampTunnel tid tunnel stamps now)
  := by
  apply Keeps.of_local
  apply Or.inl
  use tunnel, h
  cases stamps <;> exact ⟨rfl, rfl, rfl, rfl⟩

theorem keeps_touchTunnels (tids : List TurtleTunnelId) :
  Keeps own router (router.touchTunnels tids)
  := by
  rw [touchTunnels]
  induction tids generalizing router with
  | nil => exact Keeps.refl router
  | cons tid tids ih =>
    have htouch : Keeps own router { router with
        localTunnels := router.localTunnels.insert tid
          ((router.localTunnels.get? tid).getD .null) } :=
      Keeps.of_getD own.id_ne_zero.symm
    apply htouch.trans ih

theorem keeps_routeGenericTunnelItem (tid : TurtleTunnelId) (stamps : Bool) (now : Nat) :
  Keeps own router (router.routeGenericTunnelItem own peerId tid stamps now).1
  := by
  rw [routeGenericTunnelItem]
  cases htunnel : router.localTunnels.get? tid with
  | none => exact Keeps.refl router
  | some tunnel =>
    have hstamp := keeps_stampTunnel own stamps now htunnel
    dsimp only
    split_ifs <;> exact hstamp

theorem keeps_sendTurtleData (stamps : Bool) (now : Nat) :
  Keeps own router (router.sendTurtleData own vpid stamps now).1
  := by
  rw [sendTurtleData]
  cases router.virtualPeers.get? vpid with
  | none => exact Keeps.refl router
  | some tid =>
    dsimp only
    cases htunnel : router.localTunnels.get? tid with
    | none => exact Keeps.refl router
    | some tunnel =>
      have hstamp := keeps_stampTunnel own stamps now htunnel
      dsimp only
      split_ifs <;> exact hstamp

theorem keeps_recordRequest :
  Keeps own router (router.recordRequest item now)
  := Keeps.of_eq rfl rfl rfl rfl

theorem keeps_recordDigg (hash : TurtleFileHash) (draw : TurtleTunnelRequestId) (now : Nat) :
  Keeps own router (router.recordDigg hash draw now)
  := by
  apply Keeps.of_incoming
  intro tid htid
  cases hinfo : router.incomingFileHashes.get? hash with
  | none =>
    rw [hinfo] at htid
    cases htid
  | some info =>
    rw [hinfo] at htid
    use info, hinfo, htid

/-- A request of ours is not served here. -/
theorem keeps_diggTunnel (hash : TurtleFileHash) (draw : TurtleTunnelRequestId)
    (env : Surroundings) :
  Keeps own router (router.diggTunnel own hash draw env).1
  := by
  apply (keeps_recordDigg hash draw env.now).trans
  rw [diggTunnel, handleTunnelRequest]
  generalize router.recordDigg hash draw env.now = router
  dsimp only
  cases router.tunnelRequestsOrigins.get? draw with
  | some _ => exact Keeps.refl router
  | none =>
    dsimp only
    rw [if_neg (not_not.mpr rfl)]
    apply keeps_recordRequest

theorem keeps_manageTunnels (keepTime : TurtleFileHash → Nat) (draw : TurtleTunnelRequestId)
    (env : Surroundings) :
  Keeps own router (router.manageTunnels own keepTime draw env).1
  := by
  rw [manageTunnels]
  split
  · apply keeps_touchTunnels
  · apply (keeps_touchTunnels _).trans
    apply keeps_diggTunnel

theorem keeps_recordResult {item : RsTurtleTunnelOkItem} (friend : item.peerId ≠ own.id) (now : Nat)
    (info : TurtleRequestInfo) :
  Keeps own router (router.recordResult item now info)
  := by
  rw [recordResult]
  have hlocal : Keeps own router { router with
      localTunnels := router.localTunnels.insert item.tunnelId
        ((router.localTunnels.get? item.tunnelId).getD
          ⟨info.origin, item.peerId, now % 2 ^ 32, 0, 0⟩) } :=
    Keeps.of_getD friend
  apply hlocal.trans
  apply Keeps.of_eq <;> rfl

/-! ### The effects of a step -/

/-- What a step can do to the tables. -/
inductive Effect (own : Own) (router : p3turtle) : Input own → p3turtle → Prop
  | keep {input : Input own} {router' : p3turtle} (keeps : Keeps own router router') :
      Effect own router input router'
  | serve {item : RsTurtleOpenTunnelItem} {friend : item.peerId ≠ own.id} {env : Surroundings}
      {service : RsTurtleClientService} (serves : router.Serves item env) :
      Effect own router (.handleTunnelRequest item friend env)
        ((router.recordRequest item env.now).endTunnel own item env.now service).1
  | answer {item : RsTurtleTunnelOkItem} {friend : item.peerId ≠ own.id} {now : Nat}
      {info : TurtleRequestInfo} (answers : router.Answers own item) (origin : info.origin = own.id) :
      Effect own router (.handleTunnelResult item friend now)
        ((router.awaiting item.requestId).foldl (fun router => router.attachTunnel item.tunnelId)
          (router.recordResult item now info))
  | wash {now : Nat} : Effect own router (.autoWash now) (router.autoWash own now).1

theorem handleTunnelRequest_cases (router : p3turtle) {item : RsTurtleOpenTunnelItem}
    (friend : item.peerId ≠ own.id) (env : Surroundings) :
  (¬router.Serves item env ∧ Keeps own router (router.handleTunnelRequest own item env).1) ∨
    (router.Serves item env ∧ ∃ service, (router.handleTunnelRequest own item env).1 =
      ((router.recordRequest item env.now).endTunnel own item env.now service).1)
  := by
  rw [handleTunnelRequest, Serves]
  cases router.tunnelRequestsOrigins.get? item.requestId with
  | some _ =>
    apply Or.inl
    exact ⟨by simp, Keeps.refl router⟩
  | none =>
    dsimp only
    rw [if_pos friend]
    have hsearch : (router.recordRequest item env.now).performLocalHashSearch env item.fileHash
        item.peerId = router.performLocalHashSearch env item.fileHash item.peerId := rfl
    rw [hsearch]
    cases router.performLocalHashSearch env item.fileHash item.peerId with
    | none =>
      apply Or.inl
      exact ⟨by simp, keeps_recordRequest item env.now⟩
    | some service =>
      apply Or.inr
      exact ⟨by simp, service, rfl⟩

theorem handleTunnelResult_cases (router : p3turtle) {item : RsTurtleTunnelOkItem}
    (friend : item.peerId ≠ own.id) (now : Nat) :
  (¬router.Answers own item ∧ Keeps own router (router.handleTunnelResult own item now).1) ∨
    (router.Answers own item ∧ ∃ info, info.origin = own.id ∧
      (router.handleTunnelResult own item now).1 =
        (router.awaiting item.requestId).foldl (fun router => router.attachTunnel item.tunnelId)
          (router.recordResult item now info))
  := by
  rw [handleTunnelResult, Answers]
  cases router.tunnelRequestsOrigins.get? item.requestId with
  | none =>
    apply Or.inl
    exact ⟨by simp, Keeps.refl router⟩
  | some info =>
    dsimp only
    cases hresponse : info.responses.get? item.tunnelId with
    | some _ =>
      apply Or.inl
      exact ⟨by simp [hresponse], Keeps.refl router⟩
    | none =>
      rw [Option.isSome_none, if_neg Bool.false_ne_true]
      split
      case isTrue horigin =>
        apply Or.inr
        exact ⟨⟨info, rfl, horigin, hresponse⟩, info, horigin, rfl⟩
      case isFalse horigin =>
        apply Or.inl
        refine ⟨?_, keeps_recordResult friend now info⟩
        rintro ⟨info', hinfo', horigin', -⟩
        rw [Option.some_inj] at hinfo'
        rw [hinfo'] at horigin
        exact horigin horigin'

theorem keeps_forceReDiggTunnels (hash : TurtleFileHash) (draw : TurtleTunnelRequestId)
    (env : Surroundings) :
  Keeps own router ((machine own).next router (.forceReDiggTunnels hash draw env))
  := by
  change Keeps own router
    (if (router.incomingFileHashes.get? hash).isNone then (router, [])
      else router.diggTunnel own hash draw env).1
  split
  · exact Keeps.refl router
  · exact keeps_diggTunnel hash draw env

theorem effect_next (router : p3turtle) (input : Input own) :
  Effect own router input ((machine own).next router input)
  := by
  cases input with
  | registerTunnelService => exact .keep (Keeps.of_eq rfl rfl rfl rfl)
  | monitorTunnels => exact .keep (keeps_monitorTunnels _ _ _)
  | stopMonitoringTunnels => exact .keep (Keeps.of_eq rfl rfl rfl rfl)
  | diggTunnel => exact .keep (keeps_diggTunnel _ _ _)
  | forceReDiggTunnels => exact .keep (keeps_forceReDiggTunnels _ _ _)
  | manageTunnels => exact .keep (keeps_manageTunnels _ _ _)
  | handleTunnelRequest item friend env =>
    change Effect own router _ (router.handleTunnelRequest own item env).1
    obtain ⟨-, hkeeps⟩ | ⟨hserves, service, heq⟩ := handleTunnelRequest_cases router friend env
    · exact .keep hkeeps
    · rw [heq]
      exact .serve hserves
  | handleTunnelResult item friend now =>
    change Effect own router _ (router.handleTunnelResult own item now).1
    obtain ⟨-, hkeeps⟩ | ⟨hanswers, info, horigin, heq⟩ := handleTunnelResult_cases router friend now
    · exact .keep hkeeps
    · rw [heq]
      exact .answer hanswers horigin
  | routeGenericTunnelItem => exact .keep (keeps_routeGenericTunnelItem _ _ _ _)
  | sendTurtleData => exact .keep (keeps_sendTurtleData _ _ _)
  | autoWash => exact .wash

/-! ### Tunnels that are made here -/

/-- A tunnel is put under an id, with its virtual peer. -/
def place (router : p3turtle) (tid : TurtleTunnelId) (tunnel : TurtleTunnel) : p3turtle :=
  { router with
    localTunnels := router.localTunnels.insert tid { tunnel with vpid := virtualPeerId tid }
    virtualPeers := router.virtualPeers.insert (virtualPeerId tid) tid }

theorem endTunnel_eq (service : RsTurtleClientService) :
  (router.endTunnel own item now service).1 =
    { router.place (requestedTunnel own item)
        ⟨item.peerId, own.id, now % 2 ^ 32, item.fileHash, 0⟩ with
      outgoingFileHashes := router.outgoingFileHashes.insert item.fileHash service }
  := by
  rw [endTunnel, addDistantPeer, place, requestedTunnel]
  dsimp only
  rw [OrdMap.get?_insert_self, OrdMap.insert_insert_self]
  rfl

theorem attachTunnel_eq (hash : TurtleFileHash) (h : router.localTunnels.get? tid = some tunnel) :
  router.attachTunnel tid hash =
    { router.place tid { tunnel with hash } with
      incomingFileHashes := (router.attachTunnel tid hash).incomingFileHashes }
  := by
  rw [attachTunnel, addDistantPeer, place, h]
  dsimp only
  rw [OrdMap.get?_insert_self, OrdMap.insert_insert_self]
  rfl

theorem listed_attachTunnel (h : (router.attachTunnel tid hash).Listed hash' t) :
  router.Listed hash' t ∨ hash' = hash ∧ t = tid
  := by
  obtain ⟨info, hinfo, ht⟩ := h
  rw [attachTunnel, addDistantPeer] at hinfo
  dsimp only at hinfo
  rcases OrdMap.get?_insert_iff.mp hinfo with ⟨hhash, rfl⟩ | ⟨-, hinfo⟩
  · subst hhash
    cases hold : router.incomingFileHashes.get? hash' with
    | none =>
      rw [hold] at ht
      apply Or.inr
      simpa [TurtleHashInfo.null] using ht
    | some old =>
      rw [hold, Option.getD_some] at ht
      split at ht
      · exact Or.inl ⟨old, hold, ht⟩
      · obtain ht | ht := List.mem_append.mp ht
        · exact Or.inl ⟨old, hold, ht⟩
        · exact Or.inr ⟨rfl, List.mem_singleton.mp ht⟩
  · exact Or.inl ⟨info, hinfo, ht⟩

theorem get?_foldl_attachTunnel (hashes : List TurtleFileHash)
    (h : router.localTunnels.get? tid = some tunnel) :
  ∃ vpid, ∀ t,
    (hashes.foldl (fun router => router.attachTunnel tid) router).localTunnels.get? t =
      if t = tid then some { tunnel with hash := hashes.getLast?.getD tunnel.hash, vpid }
      else router.localTunnels.get? t
  := by
  induction hashes generalizing router tunnel with
  | nil =>
    use tunnel.vpid
    intro t
    split
    case isTrue heq =>
      rw [heq]
      exact h
    case isFalse => rfl
  | cons hash hashes ih =>
    have hlocal (t : TurtleTunnelId) : (router.attachTunnel tid hash).localTunnels.get? t =
        if t = tid then some { tunnel with hash, vpid := virtualPeerId tid }
        else router.localTunnels.get? t := by
      rw [attachTunnel_eq hash h, place, OrdMap.get?_insert]
    obtain ⟨vpid, hrest⟩ := ih (by rw [hlocal, if_pos rfl])
    use vpid
    intro t
    rw [List.foldl_cons, hrest, hlocal, List.getLast?_cons, Option.getD_some]
    split <;> rfl

theorem outgoing_foldl_attachTunnel (tid : TurtleTunnelId) (hashes : List TurtleFileHash) :
  (hashes.foldl (fun router => router.attachTunnel tid) router).outgoingFileHashes =
    router.outgoingFileHashes
  := by
  induction hashes generalizing router with
  | nil => rfl
  | cons hash hashes ih =>
    rw [List.foldl_cons, ih]
    rfl

/-! ### Closing tunnels -/

theorem mem_removeTunnelFrom {n i : Nat} (hlength : tunnels.length = i + n)
    (hbefore : ∀ j < i, tunnels[j]? ≠ some tid) (h : t ∈ removeTunnelFrom tid n i tunnels) :
  t ∈ tunnels ∧ t ≠ tid
  := by
  induction n generalizing i tunnels with
  | zero =>
    rw [removeTunnelFrom] at h
    obtain ⟨j, hj⟩ := List.mem_iff_getElem?.mp h
    obtain ⟨hlt, -⟩ := List.getElem?_eq_some_iff.mp hj
    use h
    rintro rfl
    apply hbefore j _ hj
    omega
  | succ n ih =>
    rw [removeTunnelFrom] at h
    split at h
    case isTrue htid =>
      have hlast : tunnels.getLastD tid ∈ tunnels := by
        have hne : tunnels ≠ [] := by
          rintro rfl
          cases htid
        rw [List.getLastD_eq_getLast?, List.getLast?_eq_some_getLast hne]
        apply List.getLast_mem
      obtain ⟨hmem, hne⟩ := ih (by simp; omega) (fun j hj => by
        rw [List.getElem?_dropLast, List.length_set, if_pos (by omega),
          List.getElem?_set_ne (by omega)]
        apply hbefore j hj) h
      obtain hmem | rfl := List.mem_or_eq_of_mem_set (List.mem_of_mem_dropLast hmem)
      · use hmem
      · use hlast
    case isFalse htid =>
      apply ih (by omega) _ h
      intro j hj
      obtain hlt | rfl := Nat.lt_succ_iff_lt_or_eq.mp hj
      · apply hbefore j hlt
      · exact htid

theorem mem_removeTunnel (h : t ∈ removeTunnel tid tunnels) :
  t ∈ tunnels ∧ t ≠ tid
  := by
  apply mem_removeTunnelFrom (Nat.zero_add _).symm _ h
  intro j hj
  cases hj

theorem closeTunnel_cases (own : Own) (h : router.localTunnels.get? tid = some tunnel) :
  (tunnel.localSrc = own.id ∧ router.closeTunnel own tid = router.closeStartingTunnel tid tunnel) ∨
    (Ending own tunnel ∧ router.closeTunnel own tid = router.closeEndingTunnel tid tunnel) ∨
    (tunnel.localSrc ≠ own.id ∧ tunnel.localDst ≠ own.id ∧ router.closeTunnel own tid =
      ({ router with localTunnels := router.localTunnels.erase tid }, [⟨tid, tunnel, none⟩]))
  := by
  rw [closeTunnel, h]
  dsimp only
  split_ifs with hsrc hdst
  · exact Or.inl ⟨hsrc, rfl⟩
  · exact Or.inr (Or.inl ⟨⟨hdst, hsrc⟩, rfl⟩)
  · exact Or.inr (Or.inr ⟨hsrc, hdst, rfl⟩)

theorem closeTunnel_of_none (h : router.localTunnels.get? tid = none) :
  router.closeTunnel own tid = (router, [])
  := by
  rw [closeTunnel, h]

theorem localTunnels_closeTunnel (tid : TurtleTunnelId) :
  (router.closeTunnel own tid).1.localTunnels = router.localTunnels.erase tid
  := by
  cases h : router.localTunnels.get? tid with
  | none => rw [closeTunnel_of_none h, OrdMap.erase_of_get?_eq_none h]
  | some tunnel =>
    obtain ⟨-, hclose⟩ | ⟨-, hclose⟩ | ⟨-, -, hclose⟩ := closeTunnel_cases own h
    · rw [hclose, closeStartingTunnel]
      cases router.incomingFileHashes.get? tunnel.hash <;> rfl
    · rw [hclose, closeEndingTunnel]
      cases router.outgoingFileHashes.get? tunnel.hash <;> rfl
    · rw [hclose]

theorem closings_closeTunnel (own : Own) (h : router.localTunnels.get? tid = some tunnel) :
  ∃ source, (router.closeTunnel own tid).2 = [⟨tid, tunnel, source⟩]
  := by
  obtain ⟨-, hclose⟩ | ⟨-, hclose⟩ | ⟨-, -, hclose⟩ := closeTunnel_cases own h
  · rw [hclose, closeStartingTunnel]
    cases router.incomingFileHashes.get? tunnel.hash <;> exact ⟨_, rfl⟩
  · rw [hclose, closeEndingTunnel]
    cases router.outgoingFileHashes.get? tunnel.hash <;> exact ⟨_, rfl⟩
  · rw [hclose]
    exact ⟨_, rfl⟩

theorem get?_outgoing_closeTunnel (own : Own) (router : p3turtle) (tid : TurtleTunnelId)
    (hash : TurtleFileHash) :
  (router.closeTunnel own tid).1.outgoingFileHashes.get? hash =
      router.outgoingFileHashes.get? hash ∨
    ∃ tunnel, router.localTunnels.get? tid = some tunnel ∧ Ending own tunnel ∧ tunnel.hash = hash
  := by
  cases h : router.localTunnels.get? tid with
  | none =>
    rw [closeTunnel_of_none h]
    exact Or.inl rfl
  | some tunnel =>
    obtain ⟨-, hclose⟩ | ⟨hending, hclose⟩ | ⟨-, -, hclose⟩ := closeTunnel_cases own h
    · rw [hclose, closeStartingTunnel]
      apply Or.inl
      cases router.incomingFileHashes.get? tunnel.hash <;> rfl
    · rw [hclose, closeEndingTunnel]
      cases router.outgoingFileHashes.get? tunnel.hash with
      | none => exact Or.inl rfl
      | some service =>
        by_cases hhash : tunnel.hash = hash
        · exact Or.inr ⟨tunnel, rfl, hending, hhash⟩
        · apply Or.inl
          rw [OrdMap.get?_erase, if_neg (Ne.symm hhash)]
    · rw [hclose]
      exact Or.inl rfl

/-! ### Closing several tunnels -/

theorem closeTunnels_cons (tid : TurtleTunnelId) (tids : List TurtleTunnelId) :
  router.closeTunnels own (tid :: tids) =
    (((router.closeTunnel own tid).1.closeTunnels own tids).1,
      (router.closeTunnel own tid).2 ++ ((router.closeTunnel own tid).1.closeTunnels own tids).2)
  := rfl

theorem removeHashes_cons (hash : TurtleFileHash) (hashes : List TurtleFileHash) :
  router.removeHashes own (hash :: hashes) =
    (((router.removeHash own hash).1.removeHashes own hashes).1,
      (router.removeHash own hash).2 ++ ((router.removeHash own hash).1.removeHashes own hashes).2)
  := rfl

/-- The state of `autoWash` when the marked hashes are removed, and requests have timed out. -/
def marked (own : Own) (router : p3turtle) (now : Nat) : p3turtle :=
  { (router.removeHashes own router.hashesToRemove).1 with
    hashesToRemove := []
    tunnelRequestsOrigins := (router.removeHashes own router.hashesToRemove).1.tunnelRequestsOrigins.filter
      fun _ info => !(now > info.timeStamp + tunnelRequestsLifeTime) }

/-- The tunnels that `autoWash` closes. -/
def washed (own : Own) (router : p3turtle) (now : Nat) : List Closing :=
  (router.removeHashes own router.hashesToRemove).2 ++
    ((router.marked own now).closeTunnels own ((router.marked own now).idleTunnels now)).2

theorem autoWash_eq :
  router.autoWash own now =
    (((router.marked own now).closeTunnels own ((router.marked own now).idleTunnels now)).1,
      (router.washed own now).map .closeTunnel ++ removals (router.washed own now))
  := rfl

theorem mem_idleTunnels {now : Nat} :
  tid ∈ router.idleTunnels now ↔ ∃ tunnel, router.localTunnels.get? tid = some tunnel ∧
    now > tunnel.timeStamp + maximumTunnelIdleTime
  := by
  rw [idleTunnels, List.mem_map]
  constructor
  · rintro ⟨⟨tid', tunnel⟩, hmem, rfl⟩
    rw [OrdMap.mem_toList, OrdMap.get?_filter, Option.filter_eq_some_iff] at hmem
    use tunnel, hmem.1
    simpa using hmem.2
  · rintro ⟨tunnel, htunnel, hidle⟩
    use (tid, tunnel)
    rw [OrdMap.mem_toList, OrdMap.get?_filter, Option.filter_eq_some_iff]
    simpa using ⟨htunnel, hidle⟩

theorem get?_of_closeTunnels
    (h : (router.closeTunnels own tids).1.localTunnels.get? tid = some tunnel) :
  router.localTunnels.get? tid = some tunnel
  := by
  induction tids generalizing router with
  | nil => exact h
  | cons tid' tids ih =>
    rw [closeTunnels_cons] at h
    have hrest := ih h
    rw [localTunnels_closeTunnel] at hrest
    apply OrdMap.get?_of_get?_erase hrest

theorem get?_closeTunnels (own : Own) (tids : List TurtleTunnelId)
    (h : router.localTunnels.get? tid = some tunnel) :
  (∃ closing ∈ (router.closeTunnels own tids).2, closing.tid = tid) ∨
    (router.closeTunnels own tids).1.localTunnels.get? tid = some tunnel
  := by
  induction tids generalizing router with
  | nil => exact Or.inr h
  | cons tid' tids ih =>
    rw [closeTunnels_cons]
    by_cases htid : tid = tid'
    · subst htid
      obtain ⟨source, hsource⟩ := closings_closeTunnel own h
      apply Or.inl
      use ⟨tid, tunnel, source⟩
      rw [hsource]
      exact ⟨List.mem_cons_self, rfl⟩
    · have hother : (router.closeTunnel own tid').1.localTunnels.get? tid = some tunnel := by
        rw [localTunnels_closeTunnel, OrdMap.get?_erase, if_neg htid]
        exact h
      obtain ⟨closing, hmem, heq⟩ | hstay := ih hother
      · exact Or.inl ⟨closing, List.mem_append_right _ hmem, heq⟩
      · exact Or.inr hstay

theorem listed_of_closeTunnel (h : (router.closeTunnel own tid).1.Listed hash t) :
  router.Listed hash t
  := by
  cases htunnel : router.localTunnels.get? tid with
  | none =>
    rw [closeTunnel_of_none htunnel] at h
    exact h
  | some tunnel =>
    obtain ⟨-, hclose⟩ | ⟨-, hclose⟩ | ⟨-, -, hclose⟩ := closeTunnel_cases own htunnel
    · rw [hclose, closeStartingTunnel] at h
      cases hinfo : router.incomingFileHashes.get? tunnel.hash with
      | none =>
        rw [hinfo] at h
        exact h
      | some info =>
        rw [hinfo] at h
        obtain ⟨info', hinfo', ht⟩ := h
        rcases OrdMap.get?_insert_iff.mp hinfo' with ⟨heq, rfl⟩ | ⟨-, hinfo'⟩
        · rw [heq]
          exact ⟨info, hinfo, (mem_removeTunnel ht).1⟩
        · exact ⟨info', hinfo', ht⟩
    · rw [hclose, closeEndingTunnel] at h
      cases hservice : router.outgoingFileHashes.get? tunnel.hash with
      | none =>
        rw [hservice] at h
        exact h
      | some service =>
        rw [hservice] at h
        exact h
    · rw [hclose] at h
      exact h

theorem listed_of_closeTunnels (h : (router.closeTunnels own tids).1.Listed hash t) :
  router.Listed hash t
  := by
  induction tids generalizing router with
  | nil => exact h
  | cons tid tids ih =>
    rw [closeTunnels_cons] at h
    apply listed_of_closeTunnel (ih h)

/-! ### Removing hashes -/

theorem removeHash_of_none (h : router.incomingFileHashes.get? hash = none) :
  router.removeHash own hash = (router, [])
  := by
  rw [removeHash, h]

theorem removeHash_of_some (h : router.incomingFileHashes.get? hash = some info) :
  router.removeHash own hash =
    ({ (router.closeTunnels own info.tunnels).1 with
        incomingFileHashes :=
          (router.closeTunnels own info.tunnels).1.incomingFileHashes.erase hash },
      (router.closeTunnels own info.tunnels).2)
  := by
  rw [removeHash, h]

theorem get?_of_removeHash
    (h : (router.removeHash own hash).1.localTunnels.get? tid = some tunnel) :
  router.localTunnels.get? tid = some tunnel
  := by
  cases hinfo : router.incomingFileHashes.get? hash with
  | none =>
    rw [removeHash_of_none hinfo] at h
    exact h
  | some info =>
    rw [removeHash_of_some hinfo] at h
    apply get?_of_closeTunnels h

theorem get?_of_removeHashes {hashes : List TurtleFileHash}
    (h : (router.removeHashes own hashes).1.localTunnels.get? tid = some tunnel) :
  router.localTunnels.get? tid = some tunnel
  := by
  induction hashes generalizing router with
  | nil => exact h
  | cons hash hashes ih =>
    rw [removeHashes_cons] at h
    apply get?_of_removeHash (ih h)

theorem listed_of_removeHash (h : (router.removeHash own hash).1.Listed hash' t) :
  router.Listed hash' t
  := by
  cases hinfo : router.incomingFileHashes.get? hash with
  | none =>
    rw [removeHash_of_none hinfo] at h
    exact h
  | some info =>
    rw [removeHash_of_some hinfo] at h
    obtain ⟨info', hinfo', ht⟩ := h
    apply listed_of_closeTunnels
    exact ⟨info', OrdMap.get?_of_get?_erase hinfo', ht⟩

/-- A tunnel is closed, or it stays. -/
theorem get?_removeHashes (own : Own) (hashes : List TurtleFileHash)
    (h : router.localTunnels.get? tid = some tunnel) :
  (∃ closing ∈ (router.removeHashes own hashes).2, closing.tid = tid) ∨
    (router.removeHashes own hashes).1.localTunnels.get? tid = some tunnel
  := by
  induction hashes generalizing router with
  | nil => exact Or.inr h
  | cons hash hashes ih =>
    rw [removeHashes_cons]
    have hone : (∃ closing ∈ (router.removeHash own hash).2, closing.tid = tid) ∨
        (router.removeHash own hash).1.localTunnels.get? tid = some tunnel := by
      cases hinfo : router.incomingFileHashes.get? hash with
      | none =>
        rw [removeHash_of_none hinfo]
        exact Or.inr h
      | some info =>
        rw [removeHash_of_some hinfo]
        apply get?_closeTunnels own info.tunnels h
    obtain ⟨closing, hmem, heq⟩ | hstay := hone
    · exact Or.inl ⟨closing, List.mem_append_left _ hmem, heq⟩
    · obtain ⟨closing, hmem, heq⟩ | hstay := ih hstay
      · exact Or.inl ⟨closing, List.mem_append_right _ hmem, heq⟩
      · exact Or.inr hstay

theorem get?_autoWash (own : Own) (now : Nat) (h : router.localTunnels.get? tid = some tunnel) :
  (∃ closing ∈ router.washed own now, closing.tid = tid) ∨
    (router.autoWash own now).1.localTunnels.get? tid = some tunnel
  := by
  rw [autoWash_eq]
  obtain ⟨closing, hmem, heq⟩ | hstay :=
    get?_removeHashes own router.hashesToRemove h
  · exact Or.inl ⟨closing, List.mem_append_left _ hmem, heq⟩
  · have hmarked : (router.marked own now).localTunnels.get? tid = some tunnel := hstay
    obtain ⟨closing, hmem, heq⟩ | hstay :=
      get?_closeTunnels own ((router.marked own now).idleTunnels now) hmarked
    · exact Or.inl ⟨closing, List.mem_append_right _ hmem, heq⟩
    · exact Or.inr hstay

/-! ### Events -/

theorem not_mem_handleTunnelRequest (env : Surroundings) (closing : Closing) :
  .closeTunnel closing ∉ (router.handleTunnelRequest own item env).2
  := by
  rw [handleTunnelRequest]
  cases router.tunnelRequestsOrigins.get? item.requestId with
  | some _ => simp
  | none =>
    dsimp only
    split
    · simp [endTunnel]
    · rw [forwardRequest]
      dsimp only
      split <;> simp

theorem not_mem_handleTunnelResult (item : RsTurtleTunnelOkItem) (now : Nat) (closing : Closing) :
  .closeTunnel closing ∉ (router.handleTunnelResult own item now).2
  := by
  rw [handleTunnelResult]
  cases router.tunnelRequestsOrigins.get? item.requestId with
  | none => simp
  | some info =>
    dsimp only
    split_ifs
    · simp
    · rw [newTunnel]
      split
      · simp
      · dsimp only
        split <;> simp
    · simp

theorem not_mem_handleRecvGenericTunnelItem (tid : TurtleTunnelId) (dir : Direction)
    (closing : Closing) :
  .closeTunnel closing ∉ router.handleRecvGenericTunnelItem own tid dir
  := by
  rw [handleRecvGenericTunnelItem]
  split <;> simp

theorem not_mem_routeGenericTunnelItem (tid : TurtleTunnelId) (stamps : Bool) (now : Nat)
    (closing : Closing) :
  .closeTunnel closing ∉ (router.routeGenericTunnelItem own peerId tid stamps now).2
  := by
  rw [routeGenericTunnelItem]
  cases router.localTunnels.get? tid with
  | none => simp
  | some tunnel =>
    dsimp only
    split_ifs <;> first | apply not_mem_handleRecvGenericTunnelItem | simp

theorem not_mem_sendTurtleData (stamps : Bool) (now : Nat) (closing : Closing) :
  .closeTunnel closing ∉ (router.sendTurtleData own vpid stamps now).2
  := by
  rw [sendTurtleData]
  cases router.virtualPeers.get? vpid with
  | none => simp
  | some tid =>
    dsimp only
    cases router.localTunnels.get? tid with
    | none => simp
    | some tunnel =>
      dsimp only
      split_ifs <;> simp

theorem not_mem_removals (closings : List Closing) (closing : Closing) :
  .closeTunnel closing ∉ removals closings
  := by
  simp [removals]

theorem closeTunnel_mem_emit {input : Input own} {closing : Closing}
    (h : .closeTunnel closing ∈ (machine own).emit router input) :
  ∃ now, input = .autoWash now ∧ closing ∈ router.washed own now
  := by
  cases input with
  | registerTunnelService => cases h
  | monitorTunnels => cases h
  | stopMonitoringTunnels => cases h
  | diggTunnel => exact absurd h (not_mem_handleTunnelRequest _ _ closing)
  | forceReDiggTunnels hash draw env =>
    change .closeTunnel closing ∈ (if (router.incomingFileHashes.get? hash).isNone then (router, [])
      else router.diggTunnel own hash draw env).2 at h
    split at h
    · cases h
    · exact absurd h (not_mem_handleTunnelRequest _ _ closing)
  | manageTunnels keepTime draw env =>
    change .closeTunnel closing ∈ (router.manageTunnels own keepTime draw env).2 at h
    rw [manageTunnels] at h
    split at h
    · cases h
    · exact absurd h (not_mem_handleTunnelRequest _ _ closing)
  | handleTunnelRequest => exact absurd h (not_mem_handleTunnelRequest _ _ closing)
  | handleTunnelResult => exact absurd h (not_mem_handleTunnelResult _ _ closing)
  | routeGenericTunnelItem => exact absurd h (not_mem_routeGenericTunnelItem _ _ _ _ closing)
  | sendTurtleData => exact absurd h (not_mem_sendTurtleData _ _ _ closing)
  | autoWash now =>
    use now, rfl
    obtain h | h := List.mem_append.mp h
    · obtain ⟨closing', hmem, heq⟩ := List.mem_map.mp h
      cases heq
      exact hmem
    · exact absurd h (not_mem_removals _ closing)

end p3turtle

end Turtle
