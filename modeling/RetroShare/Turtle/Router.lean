import RetroShare.GRouter.Router

/-!
# The turtle router

`p3turtle` of `p3turtle.cc` builds anonymous tunnels between friends: a request for a file travels
from friend to friend until one of them has the file, and the answers that come back leave a
tunnel behind.  The router is a machine.  Its inputs are the calls of its client services, the
items of friends, and the parts of a tick; its events are what it sends and what it tells the
services.

Identifiers are numbers.  The random numbers, the clock, the answers of the services, the friends
that are connected, and the choice of those a request is forwarded to are part of the inputs.
Searches, and the speed of tunnels and traffic, are not modelled.
-/

namespace Turtle

open GRouter (RsPeerId toStdString)

abbrev TurtleVirtualPeerId := RsPeerId

abbrev TurtleFileHash := Nat

abbrev TurtleTunnelId := Nat

abbrev TurtleTunnelRequestId := Nat

/-- A pointer to an `RsTurtleClientService`; zero is `NULL`. -/
abbrev RsTurtleClientService := Nat

/-! ### Items and tables -/

/-- `RsTurtleOpenTunnelItem`. -/
structure RsTurtleOpenTunnelItem where
  peerId : RsPeerId
  fileHash : TurtleFileHash
  requestId : TurtleTunnelRequestId
  partialTunnelId : Nat
  depth : Nat
  deriving DecidableEq

/-- `RsTurtleTunnelOkItem`. -/
structure RsTurtleTunnelOkItem where
  peerId : RsPeerId
  requestId : TurtleTunnelRequestId
  tunnelId : TurtleTunnelId
  deriving DecidableEq

/-- `TurtleRequestInfo`. -/
structure TurtleRequestInfo where
  origin : RsPeerId
  timeStamp : Nat
  depth : Nat
  responses : OrdMap TurtleTunnelId Unit
  deriving DecidableEq

/-- `TurtleTunnel`, less what is counted on it. -/
structure TurtleTunnel where
  localSrc : RsPeerId
  localDst : RsPeerId
  timeStamp : Nat
  hash : TurtleFileHash
  vpid : TurtleVirtualPeerId
  deriving DecidableEq

/-- The tunnel that `operator[]` makes. -/
def TurtleTunnel.null : TurtleTunnel := ⟨0, 0, 0, 0, 0⟩

/-- `TurtleHashInfo`. -/
structure TurtleHashInfo where
  tunnels : List TurtleTunnelId
  lastRequest : TurtleTunnelRequestId
  lastDiggTime : Nat
  service : RsTurtleClientService
  useAggressiveMode : Bool
  deriving DecidableEq

/-- The information that `operator[]` makes. -/
def TurtleHashInfo.null : TurtleHashInfo := ⟨[], 0, 0, 0, false⟩

/-- `p3turtle`. -/
structure p3turtle where
  tunnelRequestsOrigins : OrdMap TurtleTunnelRequestId TurtleRequestInfo
  incomingFileHashes : OrdMap TurtleFileHash TurtleHashInfo
  outgoingFileHashes : OrdMap TurtleFileHash RsTurtleClientService
  localTunnels : OrdMap TurtleTunnelId TurtleTunnel
  virtualPeers : OrdMap TurtleVirtualPeerId TurtleTunnelId
  hashesToRemove : List TurtleFileHash
  registeredServices : List RsTurtleClientService
  deriving DecidableEq

/-- The router after its construction. -/
def p3turtle.init : p3turtle :=
  ⟨OrdMap.empty, OrdMap.empty, OrdMap.empty, OrdMap.empty, OrdMap.empty, [], []⟩

/-- What is fixed at construction: `_own_id`, which the constructor insists is not null, and
`_random_bias`. -/
structure Own where
  id : RsPeerId
  randomBias : Nat
  id_ne_zero : id ≠ 0

def tunnelRequestsLifeTime : Nat := 240

def maximumTunnelIdleTime : Nat := 60

def emptyTunnelsDiggingTime : Nat := 50

def turtleMaxSearchDepth : Nat := 6

/-! ### Inputs and events -/

/-- What surrounds the handling of a request: the time, what the services answer, and, of the
friends that are connected, those with a slow link and those that the draw picks. -/
structure Surroundings where
  now : Nat
  handles : RsTurtleClientService → TurtleFileHash → RsPeerId → Bool
  peersConnected : List RsPeerId
  slow : RsPeerId → Bool
  drawn : RsPeerId → Bool

/-- The direction of a tunnel. -/
inductive Direction
  | client
  | server
  deriving DecidableEq

/-- What `locked_closeTunnel` closes: the tunnel, and the source that is to be removed at a
service. -/
structure Closing where
  tid : TurtleTunnelId
  tunnel : TurtleTunnel
  source : Option (RsTurtleClientService × TurtleFileHash × TurtleVirtualPeerId)
  deriving DecidableEq

/-- The inputs of the router.  Items come from friends, never from ourselves. -/
inductive Input (own : Own)
  | registerTunnelService (service : RsTurtleClientService)
  | monitorTunnels (hash : TurtleFileHash) (service : RsTurtleClientService) (draw : Nat)
  | stopMonitoringTunnels (hash : TurtleFileHash)
  | diggTunnel (hash : TurtleFileHash) (draw : TurtleTunnelRequestId) (env : Surroundings)
  | forceReDiggTunnels (hash : TurtleFileHash) (draw : TurtleTunnelRequestId) (env : Surroundings)
  | manageTunnels (keepTime : TurtleFileHash → Nat) (draw : TurtleTunnelRequestId)
      (env : Surroundings)
  | handleTunnelRequest (item : RsTurtleOpenTunnelItem) (friend : item.peerId ≠ own.id)
      (env : Surroundings)
  | handleTunnelResult (item : RsTurtleTunnelOkItem) (friend : item.peerId ≠ own.id) (now : Nat)
  | routeGenericTunnelItem (peerId : RsPeerId) (tunnelId : TurtleTunnelId) (stamps : Bool)
      (now : Nat)
  | sendTurtleData (vpid : TurtleVirtualPeerId) (stamps : Bool) (now : Nat)
  | autoWash (now : Nat)

/-- The events of the router. -/
inductive Event
  | sendOpenTunnel (item : RsTurtleOpenTunnelItem)
  | sendTunnelOk (item : RsTurtleTunnelOkItem)
  | sendGenericTunnelItem (peerId : RsPeerId) (tunnelId : TurtleTunnelId)
  | receiveTurtleData (service : RsTurtleClientService) (hash : TurtleFileHash)
      (vpid : TurtleVirtualPeerId) (dir : Direction)
  | addVirtualPeer (service : RsTurtleClientService) (hash : TurtleFileHash)
      (vpid : TurtleVirtualPeerId) (dir : Direction)
  | closeTunnel (closing : Closing)
  | removeVirtualPeer (service : RsTurtleClientService) (hash : TurtleFileHash)
      (vpid : TurtleVirtualPeerId)
  deriving DecidableEq

/-! ### Identifiers -/

/-- The body of the loop of `generatePersonalFilePrint`, on `res` and `decal`. -/
def filePrintStep (b : Bool) (print : Nat × Nat) (c : UInt8) : Nat × Nat :=
  let res := (print.1 + 7 * c.toNat + print.2) % 2 ^ 32
  (res,
    if b then (print.2 * 44497 + 15641 + res % 86243) % 2 ^ 32
    else (print.2 * 86243 + 15649 + res % 44497) % 2 ^ 32)

/-- `generatePersonalFilePrint`. -/
def generatePersonalFilePrint (own : Own) (hash : TurtleFileHash) (seed : Nat) (b : Bool) : Nat :=
  ((toStdString 40 hash ++ toStdString 32 own.id).foldl (filePrintStep b) (seed, 0)).1

/-- The virtual peer of a tunnel: the bytes of the tunnel id, the lowest first, and zeroes. -/
def virtualPeerId (tid : TurtleTunnelId) : TurtleVirtualPeerId :=
  (tid % 2 ^ 8 * 2 ^ 24 + tid / 2 ^ 8 % 2 ^ 8 * 2 ^ 16 + tid / 2 ^ 16 % 2 ^ 8 * 2 ^ 8 +
    tid / 2 ^ 24 % 2 ^ 8) * 2 ^ 96

namespace p3turtle

variable (own : Own) (router : p3turtle) (tid : TurtleTunnelId) (item : RsTurtleOpenTunnelItem)

/-! ### Closing tunnels -/

/-- The loop of `locked_closeTunnel` over the tunnels of a hash, `n` turns from position `i` on:
the last tunnel takes the place of one that is removed. -/
def removeTunnelFrom (tid : TurtleTunnelId) : Nat → Nat → List TurtleTunnelId → List TurtleTunnelId
  | 0, _, tunnels => tunnels
  | n + 1, i, tunnels =>
      if tunnels[i]? = some tid then
        removeTunnelFrom tid n i ((tunnels.set i (tunnels.getLastD tid)).dropLast)
      else
        removeTunnelFrom tid n (i + 1) tunnels

/-- The tunnels of a hash without `tid`; every turn of the loop handles one of them. -/
def removeTunnel (tunnels : List TurtleTunnelId) : List TurtleTunnelId :=
  removeTunnelFrom tid tunnels.length 0 tunnels

/-- `locked_closeTunnel`, of a starting tunnel. -/
def closeStartingTunnel (tunnel : TurtleTunnel) : p3turtle × List Closing :=
  let router := { router with
    localTunnels := router.localTunnels.erase tid
    virtualPeers := router.virtualPeers.erase tunnel.vpid }
  match router.incomingFileHashes.get? tunnel.hash with
  | none => (router, [⟨tid, tunnel, none⟩])
  | some info =>
      ({ router with
          incomingFileHashes := router.incomingFileHashes.insert tunnel.hash
            { info with tunnels := removeTunnel tid info.tunnels } },
        [⟨tid, tunnel, some (info.service, tunnel.hash, tunnel.vpid)⟩])

/-- `locked_closeTunnel`, of an ending tunnel. -/
def closeEndingTunnel (tunnel : TurtleTunnel) : p3turtle × List Closing :=
  let router := { router with localTunnels := router.localTunnels.erase tid }
  match router.outgoingFileHashes.get? tunnel.hash with
  | none => (router, [⟨tid, tunnel, none⟩])
  | some service =>
      ({ router with
          outgoingFileHashes := router.outgoingFileHashes.erase tunnel.hash
          virtualPeers := router.virtualPeers.erase tunnel.vpid },
        [⟨tid, tunnel, some (service, tunnel.hash, tunnel.vpid)⟩])

/-- `locked_closeTunnel`. -/
def closeTunnel : p3turtle × List Closing :=
  match router.localTunnels.get? tid with
  | none => (router, [])
  | some tunnel =>
      if tunnel.localSrc = own.id then router.closeStartingTunnel tid tunnel
      else if tunnel.localDst = own.id then router.closeEndingTunnel tid tunnel
      else ({ router with localTunnels := router.localTunnels.erase tid }, [⟨tid, tunnel, none⟩])

/-- `locked_closeTunnel` of one tunnel after the other. -/
def closeTunnels : p3turtle → List TurtleTunnelId → p3turtle × List Closing
  | router, [] => (router, [])
  | router, tid :: tids =>
      let (router', out) := router.closeTunnel own tid
      let (router'', out') := closeTunnels router' tids
      (router'', out ++ out')

/-! ### Washing -/

/-- The body of the loop of `autoWash` over the hashes that are marked. -/
def removeHash (hash : TurtleFileHash) : p3turtle × List Closing :=
  match router.incomingFileHashes.get? hash with
  | none => (router, [])
  | some info =>
      let (router', out) := router.closeTunnels own info.tunnels
      ({ router' with incomingFileHashes := router'.incomingFileHashes.erase hash }, out)

/-- The loop of `autoWash` over the hashes that are marked. -/
def removeHashes : p3turtle → List TurtleFileHash → p3turtle × List Closing
  | router, [] => (router, [])
  | router, hash :: hashes =>
      let (router', out) := router.removeHash own hash
      let (router'', out') := removeHashes router' hashes
      (router'', out ++ out')

/-- The tunnels that have not been used for a while. -/
def idleTunnels (now : Nat) : List TurtleTunnelId :=
  (router.localTunnels.filter fun _ tunnel =>
    now > tunnel.timeStamp + maximumTunnelIdleTime).toList.map Prod.fst

/-- What the services are told of the tunnels that `autoWash` has closed. -/
def removals (closings : List Closing) : List Event :=
  closings.filterMap fun closing => closing.source.map fun source =>
    .removeVirtualPeer source.1 source.2.1 source.2.2

/-- `autoWash`. -/
def autoWash (now : Nat) : p3turtle × List Event :=
  let (marked, out) := router.removeHashes own router.hashesToRemove
  let requests := { marked with
    hashesToRemove := []
    tunnelRequestsOrigins := marked.tunnelRequestsOrigins.filter fun _ info =>
      !(now > info.timeStamp + tunnelRequestsLifeTime) }
  let (router', out') := requests.closeTunnels own (requests.idleTunnels now)
  (router', (out ++ out').map .closeTunnel ++ removals (out ++ out'))

/-! ### Requests and results -/

/-- `locked_addDistantPeer`. -/
def addDistantPeer : p3turtle :=
  { router with
    virtualPeers := router.virtualPeers.insert (virtualPeerId tid) tid
    localTunnels := router.localTunnels.insert tid
      { (router.localTunnels.get? tid).getD .null with vpid := virtualPeerId tid } }

/-- `performLocalHashSearch`. -/
def performLocalHashSearch (env : Surroundings) (hash : TurtleFileHash) (peerId : RsPeerId) :
    Option RsTurtleClientService :=
  router.registeredServices.find? fun service => env.handles service hash peerId

/-- The end of `handleTunnelRequest`, for a hash that is found here. -/
def endTunnel (now : Nat) (service : RsTurtleClientService) :
    p3turtle × List Event :=
  let tid := item.partialTunnelId ^^^ generatePersonalFilePrint own item.fileHash own.randomBias false
  let tunnel : TurtleTunnel := ⟨item.peerId, own.id, now % 2 ^ 32, item.fileHash, 0⟩
  let router := { router with localTunnels := router.localTunnels.insert tid tunnel }.addDistantPeer tid
  ({ router with
      outgoingFileHashes := router.outgoingFileHashes.insert item.fileHash service },
    [.sendTunnelOk ⟨item.peerId, item.requestId, tid⟩,
      .addVirtualPeer service item.fileHash (virtualPeerId tid) .client])

/-- The end of `handleTunnelRequest`, for a hash that is not found here. -/
def forwardRequest (env : Surroundings) : List Event :=
  let bits := (own.randomBias ^^^ item.partialTunnelId) % 8
  let randomBypass := item.depth ≥ turtleMaxSearchDepth && bits = 2
  let randomDshift := item.depth = 1 && bits = 6
  let partialTunnelId :=
    generatePersonalFilePrint own item.fileHash (item.partialTunnelId ^^^ own.randomBias) true
  if item.depth < turtleMaxSearchDepth ∨ randomBypass then
    (env.peersConnected.filter fun peerId =>
      !env.slow peerId && peerId ≠ item.peerId && env.drawn peerId).map fun peerId =>
        .sendOpenTunnel { item with
          peerId, partialTunnelId
          depth := if randomDshift then item.depth else (item.depth + 1) % 2 ^ 16 }
  else
    []

/-- The request that `handleTunnelRequest` notes. -/
def recordRequest (now : Nat) : p3turtle :=
  { router with
    tunnelRequestsOrigins := router.tunnelRequestsOrigins.insert item.requestId
      ⟨item.peerId, now % 2 ^ 32, item.depth, OrdMap.empty⟩ }

/-- `handleTunnelRequest`. -/
def handleTunnelRequest (env : Surroundings) :
    p3turtle × List Event :=
  match router.tunnelRequestsOrigins.get? item.requestId with
  | some _ => (router, [])
  | none =>
      let router := router.recordRequest item env.now
      let found := if item.peerId ≠ own.id then
        router.performLocalHashSearch env item.fileHash item.peerId else none
      match found with
      | some service => router.endTunnel own item env.now service
      | none => (router, forwardRequest own item env)

/-- The request that `diggTunnel` notes for the hash. -/
def recordDigg (hash : TurtleFileHash) (draw : TurtleTunnelRequestId) (now : Nat) : p3turtle :=
  let info := (router.incomingFileHashes.get? hash).getD .null
  { router with
    incomingFileHashes := router.incomingFileHashes.insert hash
      { info with lastRequest := draw, lastDiggTime := now } }

/-- `diggTunnel`. -/
def diggTunnel (hash : TurtleFileHash) (draw : TurtleTunnelRequestId) (env : Surroundings) :
    p3turtle × List Event :=
  (router.recordDigg hash draw env.now).handleTunnelRequest own
    ⟨own.id, hash, draw, generatePersonalFilePrint own hash own.randomBias true, 0⟩ env

/-- The hashes whose last request has the given id, in the order of the map. -/
def awaiting (requestId : TurtleTunnelRequestId) : List TurtleFileHash :=
  (router.incomingFileHashes.filter fun _ info => info.lastRequest = requestId).toList.map Prod.fst

/-- The body of the loop of `handleTunnelResult`, for a hash whose last request is answered. -/
def attachTunnel (hash : TurtleFileHash) : p3turtle :=
  let info := (router.incomingFileHashes.get? hash).getD .null
  let tunnel := (router.localTunnels.get? tid).getD .null
  { router with
    incomingFileHashes := router.incomingFileHashes.insert hash
      { info with tunnels := if tid ∈ info.tunnels then info.tunnels else info.tunnels ++ [tid] }
    localTunnels := router.localTunnels.insert tid { tunnel with hash } }.addDistantPeer tid

/-- What `handleTunnelResult` tells the service of the last hash that it has found. -/
def newTunnel (hashes : List TurtleFileHash) : List Event :=
  match hashes.getLast? with
  | none => []
  | some hash =>
      let info := (router.incomingFileHashes.get? hash).getD .null
      if info.service = 0 then []
      else [.addVirtualPeer info.service hash (virtualPeerId tid) .server]

/-- The response and the tunnel that `handleTunnelResult` notes; a tunnel that is there stays. -/
def recordResult (item : RsTurtleTunnelOkItem) (now : Nat) (info : TurtleRequestInfo) : p3turtle :=
  let tunnel := (router.localTunnels.get? item.tunnelId).getD
    ⟨info.origin, item.peerId, now % 2 ^ 32, 0, 0⟩
  { router with
    tunnelRequestsOrigins := router.tunnelRequestsOrigins.insert item.requestId
      { info with responses := info.responses.insert item.tunnelId () }
    localTunnels := router.localTunnels.insert item.tunnelId tunnel }

/-- `handleTunnelResult`. -/
def handleTunnelResult (item : RsTurtleTunnelOkItem) (now : Nat) : p3turtle × List Event :=
  match router.tunnelRequestsOrigins.get? item.requestId with
  | none => (router, [])
  | some info =>
      if (info.responses.get? item.tunnelId).isSome then
        (router, [])
      else
        let router := router.recordResult item now info
        if info.origin = own.id then
          let hashes := router.awaiting item.requestId
          (hashes.foldl (fun router => router.attachTunnel item.tunnelId) router,
            router.newTunnel item.tunnelId hashes)
        else
          (router, [.sendTunnelOk { item with peerId := info.origin }])

/-! ### Monitoring -/

/-- The loop of `monitorTunnels` that cancels a removal, `n` turns from position `i` on. -/
def cancelRemovalFrom (hash : TurtleFileHash) : Nat → Nat → List TurtleFileHash → List TurtleFileHash
  | 0, _, hashes => hashes
  | n + 1, i, hashes =>
      if hashes[i]? = some hash then
        cancelRemovalFrom hash n (i + 1) ((hashes.set i (hashes.getLastD hash)).dropLast)
      else
        cancelRemovalFrom hash n (i + 1) hashes

/-- `monitorTunnels`. -/
def monitorTunnels (hash : TurtleFileHash) (service : RsTurtleClientService) (draw : Nat) :
    p3turtle :=
  let router := { router with
    hashesToRemove := cancelRemovalFrom hash router.hashesToRemove.length 0 router.hashesToRemove }
  if (router.incomingFileHashes.get? hash).isSome then
    router
  else
    { router with
      incomingFileHashes := router.incomingFileHashes.insert hash
        { TurtleHashInfo.null with lastDiggTime := draw % 10, service } }

/-- Whether `manageTunnels` wants a tunnel for a hash. -/
def wantsTunnel (now keepTime : Nat) (info : TurtleHashInfo) : Bool :=
  (info.tunnels.isEmpty && now ≥ info.lastDiggTime + emptyTunnelsDiggingTime) ||
    (info.useAggressiveMode && now ≥ info.lastDiggTime + keepTime)

/-- The tunnels that `manageTunnels` reads the speed of: `operator[]` makes those that are not
there. -/
def touchTunnels (tids : List TurtleTunnelId) : p3turtle :=
  { router with
    localTunnels := tids.foldl (fun tunnels tid =>
      tunnels.insert tid ((tunnels.get? tid).getD .null)) router.localTunnels }

/-- `manageTunnels`; `keepTime` is the time after which tunnels are dug again, by their speed. -/
def manageTunnels (keepTime : TurtleFileHash → Nat) (draw : TurtleTunnelRequestId)
    (env : Surroundings) : p3turtle × List Event :=
  let hashes := router.incomingFileHashes.toList
  let touched := router.touchTunnels (hashes.flatMap fun e => e.2.tunnels)
  let candidates := (hashes.filter fun e => wantsTunnel env.now (keepTime e.1) e.2).mergeSort
    fun e e' => e.2.lastDiggTime ≤ e'.2.lastDiggTime
  match candidates with
  | [] => (touched, [])
  | e :: _ => touched.diggTunnel own e.1 draw env

/-! ### Traffic -/

/-- `getTunnelServiceInfo`. -/
def getTunnelServiceInfo :
    Option (TurtleVirtualPeerId × TurtleFileHash × RsTurtleClientService) :=
  match router.localTunnels.get? tid with
  | none => none
  | some tunnel =>
      if tunnel.localSrc = own.id then
        (router.incomingFileHashes.get? tunnel.hash).map fun info =>
          (tunnel.vpid, tunnel.hash, info.service)
      else if tunnel.localDst = own.id then
        (router.outgoingFileHashes.get? tunnel.hash).map fun service =>
          (tunnel.vpid, tunnel.hash, service)
      else
        none

/-- The router after data has gone through a tunnel. -/
def stampTunnel (tunnel : TurtleTunnel) (stamps : Bool) (now : Nat) :
    p3turtle :=
  { router with
    localTunnels := router.localTunnels.insert tid
      (if stamps then { tunnel with timeStamp := now % 2 ^ 32 } else tunnel) }

/-- `handleRecvGenericTunnelItem`. -/
def handleRecvGenericTunnelItem (dir : Direction) : List Event :=
  match router.getTunnelServiceInfo own tid with
  | none => []
  | some (vpid, hash, service) => [.receiveTurtleData service hash vpid dir]

/-- `routeGenericTunnelItem`. -/
def routeGenericTunnelItem (peerId : RsPeerId) (tid : TurtleTunnelId) (stamps : Bool) (now : Nat) :
    p3turtle × List Event :=
  match router.localTunnels.get? tid with
  | none => (router, [])
  | some tunnel =>
      let router := router.stampTunnel tid tunnel stamps now
      if peerId = tunnel.localDst then
        if tunnel.localSrc ≠ own.id then (router, [.sendGenericTunnelItem tunnel.localSrc tid])
        else if peerId = tunnel.localSrc ∧ tunnel.localDst ≠ own.id then
          (router, [.sendGenericTunnelItem tunnel.localDst tid])
        else (router, router.handleRecvGenericTunnelItem own tid .client)
      else if peerId = tunnel.localSrc then
        if tunnel.localDst ≠ own.id then (router, [.sendGenericTunnelItem tunnel.localDst tid])
        else (router, router.handleRecvGenericTunnelItem own tid .server)
      else
        (router, [])

/-- `sendTurtleData`. -/
def sendTurtleData (vpid : TurtleVirtualPeerId) (stamps : Bool) (now : Nat) :
    p3turtle × List Event :=
  match router.virtualPeers.get? vpid with
  | none => (router, [])
  | some tid =>
      match router.localTunnels.get? tid with
      | none => (router, [])
      | some tunnel =>
          let router := router.stampTunnel tid tunnel stamps now
          if tunnel.localSrc = own.id then (router, [.sendGenericTunnelItem tunnel.localDst tid])
          else if tunnel.localDst = own.id then
            (router, [.sendGenericTunnelItem tunnel.localSrc tid])
          else (router, [])

/-! ### Runs -/

/-- One step of the router. -/
def step : Input own → p3turtle × List Event
  | .registerTunnelService service =>
      ({ router with registeredServices := router.registeredServices ++ [service] }, [])
  | .monitorTunnels hash service draw => (router.monitorTunnels hash service draw, [])
  | .stopMonitoringTunnels hash =>
      ({ router with hashesToRemove := router.hashesToRemove ++ [hash] }, [])
  | .diggTunnel hash draw env => router.diggTunnel own hash draw env
  | .forceReDiggTunnels hash draw env =>
      if (router.incomingFileHashes.get? hash).isNone then (router, [])
      else router.diggTunnel own hash draw env
  | .manageTunnels keepTime draw env => router.manageTunnels own keepTime draw env
  | .handleTunnelRequest item _ env => router.handleTunnelRequest own item env
  | .handleTunnelResult item _ now => router.handleTunnelResult own item now
  | .routeGenericTunnelItem peerId tid stamps now =>
      router.routeGenericTunnelItem own peerId tid stamps now
  | .sendTurtleData vpid stamps now => router.sendTurtleData own vpid stamps now
  | .autoWash now => router.autoWash own now

/-- The machine of the router. -/
def machine : Machine p3turtle (Input own) Event where
  step router input := router.step own input

end p3turtle

/-- A node, for the runs that serve as examples. -/
def sampleOwn : Own := ⟨1, 0, by decide⟩

theorem two_ne_id :
  2 ≠ sampleOwn.id
  := by decide

theorem three_ne_id :
  3 ≠ sampleOwn.id
  := by decide

/-- Every service serves every hash, and the friends `2` and `3` are connected. -/
def sampleSurroundings (now : Nat) : Surroundings :=
  ⟨now, fun _ _ _ => true, [2, 3], fun _ => false, fun _ => true⟩

end Turtle
