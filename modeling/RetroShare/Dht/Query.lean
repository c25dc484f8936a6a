import Mathlib.Algebra.Group.Nat.Defs
import Mathlib.Data.List.Lex
import RetroShare.Dht.Peers
import RetroShare.Lib.MultiMap

/-!
# Queries of the DHT

`bdQuery` of `bdquery.cc` looks for a node id.  It keeps the closest peers that have answered, the
potential peers that others have named, and the peers that may serve as proxies.

A function that reads the first or last entry of an empty map has no result: its value is `none`.
The time is an argument of every function.
-/

namespace Dht

/-- The order of `operator<` of the ids. -/
instance : LinearOrder NodeId :=
  LinearOrder.lift' (fun id => id.data.toList.map UInt8.toNat) fun id id' h => by
    have hdata : id.data.toList = id'.data.toList :=
      List.map_injective_iff.mpr (fun _ _ => UInt8.toNat.inj) h
    exact NodeId.mk.injEq _ _ ▸ Vector.toList_inj.mp hdata

/-- `BITDHT_PEER_STATUS_DHT_ENGINE_VERSION`. -/
def dhtEngineVersion : UInt32 := 0x200

/-- The states of a query. -/
inductive QueryState where
  | querying
  | failure
  | foundClosest
  | peerUnreachable
  | success
  deriving DecidableEq

/-- `BITDHT_QFLAGS_DISGUISE`. -/
def qflagsDisguise : UInt32 := 1

/-- `BITDHT_QFLAGS_DO_IDLE`. -/
def qflagsDoIdle : UInt32 := 2

/-- `BITDHT_MIN_QUERY_AGE`. -/
def minQueryAge : Int := 10

/-- `BITDHT_MAX_QUERY_AGE`. -/
def maxQueryAge : Int := 300

/-- `EXPECTED_REPLY`. -/
def expectedReply : Int := 10

/-- `QUERY_IDLE_RETRY_PEER_PERIOD`. -/
def queryIdleRetryPeerPeriod : Int := 600

/-- `MAX_QUERY_IDLE_PERIOD`. -/
def maxQueryIdlePeriod : Int := 1200

/-- `MIN_PING_POTENTIAL_PERIOD`. -/
def minPingPotentialPeriod : Int := 300

/-- `POT_PEER_CLEAN_PERIOD`. -/
def potPeerCleanPeriod : Int := 60

/-- `MAX_POTENTIAL_PROXIES`. -/
def maxPotentialProxies : Nat := 10

/-- `bdStdDht::bdNumQueryNodes`. -/
def numQueryNodes : Nat := 10

/-- `mClosestListSize`. -/
def closestListSize : Nat := 3 * numQueryNodes / 2

/-- A value that is assigned to an `int32_t`. -/
def int32 (n : Int) : Int := n.bmod (2 ^ 32)

/-- `bdStdRandomMidId`, `rnd` being what `bdStdRandomNodeId` has drawn. -/
def randomMidId (target other rnd : NodeId) : NodeId where
  data := Vector.ofFn fun i =>
    if ∀ j < i, (distance target other).data[j] = 0 then target.data[i] else rnd.data[i]

/-- `bdQuery`. -/
structure Query where
  mId : NodeId
  mState : QueryState
  mQueryTS : Int
  mQueryFlags : UInt32
  mSearchTime : Int
  mQueryIdlePeerRetryPeriod : Int
  mClosest : MultiMap NodeId Peer
  mPotentialPeers : MultiMap NodeId Peer
  mPotPeerCleanTS : Int
  mRequiredPeerFlags : UInt32
  mProxiesUnknown : List Peer
  mProxiesFlagged : List Peer

namespace Query

variable (q : Query) (id : Id) (now : Int)

/-- An entry for a peer of the start list. -/
def startPeer (now : Int) (id : Id) : Peer where
  mPeerId := id
  mPeerFlags := 0
  mLastSendTime := 0
  mLastRecvTime := 0
  mFoundTime := now
  mExtraFlags := 0

/-- `bdQuery::bdQuery`. -/
def new (id : NodeId) (startList : List Id) (queryFlags : UInt32) (now : Int) : Query where
  mId := id
  mState := .querying
  mQueryTS := now
  mQueryFlags := queryFlags
  mSearchTime := 0
  mQueryIdlePeerRetryPeriod := queryIdleRetryPeerPeriod
  mClosest := startList.foldl
    (fun closest start => closest.insert (distance id start.id) (startPeer now start)) .empty
  mPotentialPeers := .empty
  mPotPeerCleanTS := now
  mRequiredPeerFlags := dhtEngineVersion
  mProxiesUnknown := []
  mProxiesFlagged := []

/-- The query runs in idle mode. -/
def idle : Bool := q.mQueryFlags &&& qflagsDoIdle ≠ 0

/-- An entry of a map is at the distance of an id and similar to it. -/
def isPeer (e : NodeId × Peer) : Bool :=
  e.1 = distance q.mId id.id && similarId id e.2.mPeerId

/-! ### Closest peers -/

/-- A peer that has been asked and has not answered in time. -/
def silent (ts : Int) (peer : Peer) : Bool :=
  peer.mLastSendTime ≠ 0 && !decide (peer.mLastSendTime ≤ peer.mLastRecvTime) &&
    expectedReply < ts - peer.mLastSendTime

/-- What a message does to an entry of its sender among the closest peers. -/
def heardClosest (mode : UInt32) (ts : Int) (peer : Peer) : Peer :=
  let peer := if mode ≠ 0 then peer.updateFrom id else peer
  if mode &&& recvNodes ≠ 0 then
    { peer with mLastRecvTime := ts, mPeerFlags := peer.mPeerFlags ||| mode }
  else peer

/-- A new entry of the closest peers. -/
def closestPeer (mode : UInt32) (ts : Int) : Peer where
  mPeerId := id
  mPeerFlags := mode
  mLastSendTime := 0
  mLastRecvTime := if mode &&& recvNodes ≠ 0 then ts else 0
  mFoundTime := ts
  mExtraFlags := 0

/-- The entries that are at most as far away as an id, those of `toDrop` being silent. -/
def closer : List (NodeId × Peer) :=
  q.mClosest.toList.takeWhile fun e => e.1 ≤ distance q.mId id.id

/-- `toDrop` of `addClosestPeer`. -/
def toDrop (ts : Int) : Nat := (q.closer id).countP fun e => silent ts e.2

/-- The closest peers without `n` silent ones. -/
def dropSilent (ts : Int) : Nat → MultiMap NodeId Peer → MultiMap NodeId Peer
  | 0, closest => closest
  | n + 1, closest => dropSilent ts n (closest.eraseP fun e => silent ts e.2)

/-- `addClosestPeer`. -/
def addClosestPeer (mode : UInt32) (ts : Int) : Bool × Query :=
  if closestListSize - 1 < (q.closer id).length - q.toDrop id ts then (false, q)
  else if q.mClosest.toList.any (q.isPeer id) then
    (true, { q with mClosest := q.mClosest.modifyFirst (q.isPeer id) (heardClosest id mode ts) })
  else
    (true, { q with
      mClosest := ((dropSilent ts (q.toDrop id ts) q.mClosest).take (closestListSize - 1)).insert
        (distance q.mId id.id) (closestPeer id mode ts) })

/-! ### Potential peers -/

/-- `PEER_MESSAGE` and `FIND_NODE_RESPONSE`. -/
inductive AddType where
  | peerMessage
  | findNodeResponse
  deriving DecidableEq

/-- `worthyPotentialPeer`. -/
def worthyPotentialPeer : Bool :=
  if q.mClosest.toList.all (fun e => e.1 < distance q.mId id.id) ∧
      numQueryNodes ≤ q.mClosest.toList.length then
    false
  else !q.mClosest.toList.any (q.isPeer id)

/-- `trimPotentialPeers_toClosest`. -/
def trimPotentialPeersToClosest : Option Query :=
  if q.mPotentialPeers.toList.length ≤ numQueryNodes then some q
  else
    match q.mClosest.toList.getLast? with
    | none => none
    | some (lastClosest, _) =>
        some { q with
          mPotentialPeers :=
            q.mPotentialPeers.dropLastWhile numQueryNodes fun e => lastClosest < e.1 }

/-- A ping is due to a potential peer that has been named again. -/
def pingPotential (addType : AddType) (now : Int) (peer : Peer) : Bool :=
  addType = .findNodeResponse && minPingPotentialPeriod < now - peer.mLastSendTime

/-- What a message or an answer does to an entry among the potential peers. -/
def heardPotential (mode : UInt32) (addType : AddType) (now : Int) (peer : Peer) : Peer :=
  let heard := { peer with mPeerFlags := peer.mPeerFlags ||| mode, mLastRecvTime := now }
  match addType with
  | .findNodeResponse =>
      if pingPotential addType now peer then { heard with mLastSendTime := now } else heard
  | .peerMessage => if mode ≠ 0 then heard.updateFrom id else heard

/-- A new entry of the potential peers. -/
def potentialPeer (mode : UInt32) (addType : AddType) (now : Int) : Peer where
  mPeerId := id
  mPeerFlags := mode
  mLastSendTime := if addType = .findNodeResponse then now else 0
  mLastRecvTime := now
  mFoundTime := now
  mExtraFlags := 0

/-- `updatePotentialPeer`, with what it returns. -/
def updatePotentialPeer (mode : UInt32) (addType : AddType) (now : Int) :
    Option (Bool × Query) :=
  match q.mPotentialPeers.toList.find? (q.isPeer id) with
  | some e =>
      some (pingPotential addType now e.2,
        { q with
          mPotentialPeers :=
            q.mPotentialPeers.modifyFirst (q.isPeer id) (heardPotential id mode addType now) })
  | none =>
      { q with
        mPotentialPeers := q.mPotentialPeers.insert (distance q.mId id.id)
          (potentialPeer id mode addType now) }.trimPotentialPeersToClosest.map (true, ·)

/-- A potential peer that `removeOldPotentialPeers` takes out. -/
def oldPotential (peer : Peer) : Bool :=
  q.mQueryIdlePeerRetryPeriod + expectedReply < now - peer.mLastRecvTime

/-- `removeOldPotentialPeers` goes through the potential peers. -/
def cleanDue : Bool := q.idle && potPeerCleanPeriod ≤ now - q.mPotPeerCleanTS

/-- `removeOldPotentialPeers`. -/
def removeOldPotentialPeers : Query :=
  if q.cleanDue now then
    { q with
      mPotPeerCleanTS := now
      mPotentialPeers := q.mPotentialPeers.filter fun e => !q.oldPotential now e.2 }
  else q

/-! ### Proxies -/

/-- The proxies that `updateProxyList` searches. -/
inductive ProxyList where
  | unknown
  | flagged

/-- A proxy that has been heard of. -/
def heardProxy (mode : UInt32) (now : Int) (peer : Peer) : Peer :=
  let peer := if mode ≠ 0 then peer.updateFrom id else peer
  { peer with mPeerFlags := peer.mPeerFlags ||| mode, mLastRecvTime := now }

/-- Puts a peer in front of the proxies that its flags say. -/
def pushProxy (peer : Peer) : Query :=
  if peer.mPeerFlags &&& q.mRequiredPeerFlags = q.mRequiredPeerFlags then
    { q with mProxiesFlagged := peer :: q.mProxiesFlagged }
  else { q with mProxiesUnknown := peer :: q.mProxiesUnknown }

/-- `updateProxyList`. -/
def updateProxyList (mode : UInt32) (now : Int) : ProxyList → Bool × Query
  | .unknown =>
      match q.mProxiesUnknown.find? fun peer => similarId id peer.mPeerId with
      | some peer =>
          (true, { q with
            mProxiesUnknown :=
              q.mProxiesUnknown.eraseP fun peer => similarId id peer.mPeerId }.pushProxy
                (heardProxy id mode now peer))
      | none => (false, q)
  | .flagged =>
      match q.mProxiesFlagged.find? fun peer => similarId id peer.mPeerId with
      | some peer =>
          (true, { q with
            mProxiesFlagged :=
              q.mProxiesFlagged.eraseP fun peer => similarId id peer.mPeerId }.pushProxy
                (heardProxy id mode now peer))
      | none => (false, q)

/-- `trimProxies`. -/
def trimProxies : Query :=
  { q with
    mProxiesUnknown := q.mProxiesUnknown.take maxPotentialProxies
    mProxiesFlagged := q.mProxiesFlagged.take maxPotentialProxies }

/-- The search of `updateProxy` and `addProxy` in both lists. -/
def updateProxyLists (mode : UInt32) (now : Int) : Bool × Query :=
  if (q.updateProxyList id mode now .unknown).1 then q.updateProxyList id mode now .unknown
  else q.updateProxyList id mode now .flagged

/-- `updateProxy`. -/
def updateProxy (mode : UInt32) (now : Int) : Query :=
  (q.updateProxyLists id mode now).2.trimProxies

/-- A new proxy. -/
def newProxy (src : Id) (srcmode : UInt32) (now : Int) : Peer where
  mPeerId := src
  mPeerFlags := srcmode
  mLastSendTime := 0
  mLastRecvTime := now
  mFoundTime := now
  mExtraFlags := 0

/-- `addProxy`. -/
def addProxy (src : Option Id) (srcmode : UInt32) (now : Int) : Query :=
  match src with
  | none => q
  | some src =>
      if bucketDistance (distance q.mId id.id) ≠ 0 then q
      else if (q.updateProxyLists src srcmode now).1 then
        (q.updateProxyLists src srcmode now).2.trimProxies
      else (q.pushProxy (newProxy src srcmode now)).trimProxies

/-! ### The calls -/

/-- `addPeer`. -/
def addPeer (mode : UInt32) (now : Int) : Option Query :=
  ((q.addClosestPeer id mode now).2.updatePotentialPeer id mode .peerMessage now).map
    fun r => r.2.updateProxy id mode now

/-- `addPotentialPeer`, with what it returns. -/
def addPotentialPeer (src : Option Id) (srcmode : UInt32) (now : Int) :
    Option (Bool × Query) :=
  if (q.addProxy id src srcmode now).worthyPotentialPeer id then
    (q.addProxy id src srcmode now).updatePotentialPeer id 0 .findNodeResponse now
  else some (false, q.addProxy id src srcmode now)

/-- Prolongs the period between two questions to a peer in idle mode. -/
def updateRetryPeriod : Query :=
  if q.mQueryIdlePeerRetryPeriod < (now - q.mQueryTS).tdiv 2 then
    { q with
      mQueryIdlePeerRetryPeriod := min (int32 ((now - q.mQueryTS).tdiv 2)) maxQueryIdlePeriod }
  else q

/-- `queryPeer` of `nextQuery`: the peer is to be asked. -/
def queryPeer (peer : Peer) : Bool :=
  peer.mLastSendTime = 0 ||
    (q.idle && q.mQueryIdlePeerRetryPeriod < now - peer.mLastSendTime)

/-- A peer whose answer has not come or is new. -/
def unanswered (peer : Peer) : Bool :=
  peer.mLastRecvTime = 0 || now - peer.mLastRecvTime < expectedReply

/-- `notFinished` of `nextQuery` after a loop that asks nobody. -/
def notFinished : Bool :=
  (q.mClosest.toList.take numQueryNodes).any fun e => unanswered now e.2

/-- The state in which a query ends. -/
def finalState : Option QueryState :=
  match q.mClosest.toList with
  | [] => some .failure
  | (_, first) :: _ =>
      if first.mPeerId.id = q.mId ∧ first.mLastRecvTime ≠ 0 then some .success
      else
        match q.mPotentialPeers.toList with
        | [] => none
        | (_, potential) :: _ =>
            if potential.mPeerId.id = q.mId then some .peerUnreachable else some .foundClosest

/-- The end of `nextQuery`. -/
def finish : Option Query :=
  let q := if q.mState = .querying then { q with mSearchTime := int32 (now - q.mQueryTS) } else q
  let q := q.removeOldPotentialPeers now
  q.finalState.map fun state => { q with mState := state }

/-- The age of the query and the closest peers allow to end it. -/
def finishable : Bool :=
  minQueryAge ≤ now - q.mQueryTS &&
    (maxQueryAge < now - q.mQueryTS ||
      (numQueryNodes ≤ q.mClosest.toList.length && !q.notFinished now))

/-- `nextQuery`, with the peer to ask and the id to ask it for; `rnd` is a random id. -/
def nextQuery (rnd : NodeId) (now : Int) : Option (Option (Id × NodeId) × Query) :=
  if q.mState ≠ .querying ∧ q.idle = false then some (none, q)
  else
    let q := q.updateRetryPeriod now
    match q.mClosest.toList.find? fun e => q.queryPeer now e.2 with
    | some e =>
        let targetNodeId :=
          if q.mQueryFlags &&& qflagsDisguise ≠ 0 then randomMidId q.mId e.2.mPeerId.id rnd
          else q.mId
        some (some (e.2.mPeerId, targetNodeId),
          { q with
            mClosest := q.mClosest.modifyFirst (fun e => q.queryPeer now e.2)
              fun peer => { peer with mLastSendTime := now } })
    | none =>
        if q.finishable now then (q.finish now).map (none, ·)
        else some (none, q)

/-- The calls, and the passing of time. -/
inductive Input where
  | addPeer (id : Id) (mode : UInt32)
  | addPotentialPeer (id : Id) (src : Option Id) (srcmode : UInt32)
  | nextQuery (rnd : NodeId)
  | wait (seconds : Nat)

/-- A query and the clock. -/
structure Timed where
  query : Query
  now : Int

/-- One call, or the passing of time; there is no state after a read of an empty map. -/
def Timed.step (s : Timed) : Input → Option Timed
  | .addPeer id mode => (s.query.addPeer id mode s.now).map (⟨·, s.now⟩)
  | .addPotentialPeer id src srcmode =>
      (s.query.addPotentialPeer id src srcmode s.now).map (⟨·.2, s.now⟩)
  | .nextQuery rnd => (s.query.nextQuery rnd s.now).map (⟨·.2, s.now⟩)
  | .wait seconds => some ⟨s.query, s.now + seconds⟩

/-- The state after a sequence of calls. -/
def Timed.run (s : Timed) (inputs : List Input) : Option Timed := inputs.foldlM Timed.step s

end Query

end Dht
