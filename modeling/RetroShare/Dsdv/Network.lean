import RetroShare.Dsdv.Node
import RetroShare.Lib.Machine

/-!
# Networks of routing tables

A network of nodes with a common clock, and the items that are on their way.  The routes of a node
are copies of what its peers announced some time ago; `careful` says which steps do not fall back
to a route that is not better than those that others have through the node.
-/

namespace Dsdv

/-! ### The network -/

/-- An item on its way. -/
structure Packet where
  src : RsPeerId
  dst : RsPeerId
  routes : List RsTlvDsdvEntry
  deriving DecidableEq

/-- The nodes, and the items that have been sent and not received. -/
structure Network where
  now : Nat
  nodes : OrdMap RsPeerId P3Dsdv
  packets : List Packet

/-- What happens in the network.  The peers that a node is connected to are those of the moment;
an item that is lost was on a link that failed. -/
inductive Input where
  | wait (seconds : Nat)
  | sendTables (node : RsPeerId) (connected : List RsPeerId)
  | receive (packet : Nat)
  | lose (packet : Nat)
  | addDsdvId (node : RsPeerId) (id : RsDsdvId)
  | dropDsdvId (node : RsPeerId) (hash : Nat)

namespace Network

/-- A node at the beginning: `mSignificantChanges` is not initialised. -/
def newNode (mSignificantChanges : Bool) : P3Dsdv :=
  ⟨OrdMap.empty, 0, 0, mSignificantChanges⟩

/-- The network at the beginning. -/
def start (now : Nat) (members : OrdMap RsPeerId Bool) : Network :=
  ⟨now, members.map fun _ mSignificantChanges => newNode mSignificantChanges, []⟩

variable (net : Network)

/-- The network with a node that is changed. -/
def update (id : RsPeerId) (f : P3Dsdv → P3Dsdv) : Network :=
  match net.nodes.get? id with
  | none => net
  | some node => { net with nodes := net.nodes.insert id (f node) }

/-- The items that a node sends to its peers. -/
def sent (id : RsPeerId) (connected : List RsPeerId) (items : List (List RsTlvDsdvEntry)) :
    List Packet :=
  (connected.filter fun peer => peer ≠ id).flatMap fun peer =>
    items.map fun routes => ⟨id, peer, routes⟩

/-- One step of the network. -/
def step : Input → Network
  | .wait seconds => { net with now := net.now + seconds }
  | .sendTables id connected =>
      match net.nodes.get? id with
      | none => net
      | some node =>
          let tables := node.sendTables net.now
          { net with
            nodes := net.nodes.insert id tables.1
            packets := net.packets ++ sent id connected tables.2 }
  | .receive k =>
      match net.packets[k]? with
      | none => net
      | some packet =>
          { net with packets := net.packets.eraseIdx k }.update packet.dst fun node =>
            node.handleDSDV net.now packet.src packet.routes
  | .lose k => { net with packets := net.packets.eraseIdx k }
  | .addDsdvId id service => net.update id fun node => node.addDsdvId id net.now service
  | .dropDsdvId id hash => net.update id fun node => node.dropDsdvId hash

/-- The network as a machine. -/
def machine : Machine Network Input Unit where
  step net input := (net.step input, [])

/-- The entry of a node for a service. -/
def known? (id : RsPeerId) (hash : Nat) : Option RsDsdvTableEntry :=
  (net.nodes.get? id).bind fun node => node.mTable.get? hash

/-- The stable route of the node `x` to a service leads to `y`. -/
def Hop (hash : Nat) (x y : RsPeerId) : Prop :=
  ∃ v, net.known? x hash = some v ∧ v.mIsStable ∧ v.mOwnSource = false ∧
    v.mStableRoute.mNextHop = y

/-- Following the stable routes to a service never leads back to a node. -/
def NoLoops : Prop := ∀ hash x, ¬ Relation.TransGen (net.Hop hash) x x

/-! ### Steps that do not fall back -/

/-- A route with the sequence number and distance `a` is better than one with `b`: it is newer, or
as new and shorter. -/
def beats (a b : Nat × Nat) : Bool := b.1 < a.1 || (a.1 = b.1 && a.2 < b.2)

/-- The sequence numbers and distances of the routes through the node `x` to a service that another
node has, or that are on their way. -/
def tellings (x : RsPeerId) (hash : Nat) : List (Nat × Nat) :=
  (net.packets.flatMap fun packet =>
    (packet.routes.filter fun entry => packet.src = x && entry.endPoint.mHash = hash).map
      fun entry => (entry.sequence, add32 entry.distance 1)) ++
  net.nodes.toList.filterMap fun e =>
    ((e.2.mTable.get? hash).bind fun v => v.mAllRoutes.get? x).map fun route =>
      (route.mSequence, route.mDistance)

/-- The sequence number and the distance of a route are better than those of all routes through
the node `x`. -/
def beatsTellings (x : RsPeerId) (hash : Nat) (a : Nat × Nat) : Bool :=
  (net.tellings x hash).all fun b => beats a b

/-- The routes that `selectStableRoutes` can select: those among the routes that are live and new
enough, and the newest, that are not longer than any live one that is new enough. -/
def candidates (now : Nat) (v : RsDsdvTableEntry) : List RsDsdvRoute :=
  let newest := (newestRoute now v.mAllRoutes.toList).newest
  let currseq := newest - newest % 2
  let live := (v.mAllRoutes.toList.map Prod.snd).filter fun route => route.isLive now
  live.filter fun route =>
    (route.isRecent currseq || route.mSequence = newest) &&
      live.all fun other => !other.isRecent currseq || route.mDistance ≤ other.mDistance

/-- When a node selects its stable routes, those that it can select are better than all routes
through it that others have, and its own sequence numbers do not wrap around; and so is the route of
sequence number and distance zero when a node becomes the source of a service. -/
def careful : Input → Bool
  | .sendTables id _ =>
      match net.nodes.get? id with
      | none => true
      | some node =>
          !(node.isBroadcastTime net.now || node.isIncrementTime net.now) ||
            node.mTable.toList.all fun e =>
              if e.2.mOwnSource then
                e.2.mStableRoute.mSequence + seqIncrement < 2 ^ 32
              else
                (candidates net.now e.2).all fun route =>
                  net.beatsTellings id e.1 (route.mSequence, route.mDistance)
  | .addDsdvId id service => net.beatsTellings id service.mHash (0, 0)
  | _ => true

end Network

end Dsdv
