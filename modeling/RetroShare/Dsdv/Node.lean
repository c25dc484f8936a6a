import RetroShare.Lib.OrdMap

/-!
# Routing tables

The routing service `p3Dsdv` of `p3dsdv.cc`: every node announces the services that it knows to the
peers that are connected, with a sequence number and a distance, and keeps one route for each peer
that announces a service.  One of these is the stable route.

Peers and the hashes of services are numbers; sequence numbers and distances are 32-bit numbers.
The time is read once in an operation.
-/

namespace Dsdv

abbrev RsPeerId := Nat

/-- `RSDSDV_MAX_DISTANCE`. -/
def maxDistance : Nat := 3

/-- `RSDSDV_MAX_ROUTE_TABLE`. -/
def maxRouteTable : Nat := 1000

/-- `DSDV_BROADCAST_PERIOD`. -/
def broadcastPeriod : Nat := 60 * 10

/-- `DSDV_MIN_INCREMENT_PERIOD`. -/
def minIncrementPeriod : Nat := 5

/-- `DSDV_DISCARD_PERIOD`. -/
def discardPeriod : Nat := broadcastPeriod * 2

/-- `RSDSDV_SEQ_INCREMENT`. -/
def seqIncrement : Nat := 2

/-- `RSDSDV_FLAGS_SIGNIFICANT_CHANGE`. -/
def flagSignificantChange : UInt32 := 0x0001

/-- `RSDSDV_FLAGS_NEW_ROUTE`. -/
def flagNewRoute : UInt32 := 0x0004

/-- `RSDSDV_FLAGS_OWN_SERVICE`. -/
def flagOwnService : UInt32 := 0x0008

/-- The sum of `uint32_t` numbers. -/
def add32 (a b : Nat) : Nat := (a + b) % 2 ^ 32

/-- `RsDsdvId`. -/
structure RsDsdvId where
  mIdType : Nat
  mAnonChunk : List UInt8
  mHash : Nat
  deriving DecidableEq

/-- `RsDsdvRoute`. -/
structure RsDsdvRoute where
  mNextHop : RsPeerId
  mSequence : Nat
  mDistance : Nat
  mReceived : Nat
  mValidSince : Nat
  deriving DecidableEq, Inhabited

/-- `RsDsdvTableEntry`, less the hash that it is matched to. -/
structure RsDsdvTableEntry where
  mDest : RsDsdvId
  mIsStable : Bool
  mStableRoute : RsDsdvRoute
  mAllRoutes : OrdMap RsPeerId RsDsdvRoute
  mFlags : UInt32
  mOwnSource : Bool
  deriving DecidableEq

/-- `RsTlvDsdvEntry`. -/
structure RsTlvDsdvEntry where
  endPoint : RsDsdvId
  sequence : Nat
  distance : Nat
  deriving DecidableEq

/-- `p3Dsdv`. -/
structure P3Dsdv where
  mTable : OrdMap Nat RsDsdvTableEntry
  mSentTablesTime : Nat
  mSentIncrementTime : Nat
  mSignificantChanges : Bool
  deriving DecidableEq

/-! ### Announcements -/

/-- The route that an announcement of a peer gives. -/
def RsTlvDsdvEntry.route (entry : RsTlvDsdvEntry) (peerId : RsPeerId) (now : Nat) :
    RsDsdvRoute where
  mNextHop := peerId
  mSequence := entry.sequence
  mDistance := add32 entry.distance 1
  mReceived := now
  mValidSince := now

/-- A service that is announced for the first time; its stable route is not initialised. -/
def RsDsdvTableEntry.new (dest : RsDsdvId) (peerId : RsPeerId) (route : RsDsdvRoute) :
    RsDsdvTableEntry where
  mDest := dest
  mIsStable := false
  mStableRoute := default
  mAllRoutes := OrdMap.empty.insert peerId route
  mFlags := flagNewRoute
  mOwnSource := false

/-- A route with a newer announcement: when a sequence number was skipped, it is valid since now. -/
def RsDsdvRoute.update (route : RsDsdvRoute) (entry : RsTlvDsdvEntry) (now : Nat) :
    RsDsdvRoute where
  mNextHop := route.mNextHop
  mSequence := entry.sequence
  mDistance := add32 entry.distance 1
  mReceived := now
  mValidSince := if add32 route.mSequence 2 < entry.sequence then now else route.mValidSince

/-- What an announcement of a peer makes of the entry of its service. -/
def RsDsdvTableEntry.announced (v : RsDsdvTableEntry) (peerId : RsPeerId) (now : Nat)
    (entry : RsTlvDsdvEntry) : RsDsdvTableEntry :=
  if v.mOwnSource then
    v
  else
    match v.mAllRoutes.get? peerId with
    | none => { v with mAllRoutes := v.mAllRoutes.insert peerId (entry.route peerId now) }
    | some route =>
        if entry.sequence ≤ route.mSequence then
          v
        else
          let updated := route.update entry now
          { v with
            mAllRoutes := v.mAllRoutes.insert peerId updated
            mStableRoute :=
              if v.mIsStable ∧ updated.mNextHop = v.mStableRoute.mNextHop then updated
              else v.mStableRoute }

/-- The body of the loop of `handleDSDV`. -/
def handleEntry (peerId : RsPeerId) (now : Nat) (mTable : OrdMap Nat RsDsdvTableEntry)
    (entry : RsTlvDsdvEntry) : OrdMap Nat RsDsdvTableEntry :=
  match mTable.get? entry.endPoint.mHash with
  | none => mTable.insert entry.endPoint.mHash
      (.new entry.endPoint peerId (entry.route peerId now))
  | some v => mTable.insert entry.endPoint.mHash (v.announced peerId now entry)

variable (node : P3Dsdv)

/-- `p3Dsdv::handleDSDV`, of the entries that a peer sends. -/
def P3Dsdv.handleDSDV (now : Nat) (peerId : RsPeerId) (routes : List RsTlvDsdvEntry) : P3Dsdv :=
  { node with mTable := routes.foldl (handleEntry peerId now) node.mTable }

/-! ### Stable routes -/

/-- The variables of the loops of `selectStableRoutes`. -/
structure Selection where
  newest : Nat
  closest : Nat
  closestId : RsPeerId
  closestAge : Int

/-- The route has been received a short time ago. -/
def RsDsdvRoute.isLive (route : RsDsdvRoute) (now : Nat) : Bool :=
  now - route.mReceived ≤ discardPeriod

/-- The route becomes the closest one. -/
def Selection.take (sel : Selection) (now : Nat) (e : RsPeerId × RsDsdvRoute) : Selection :=
  { sel with
    closest := e.2.mDistance
    closestId := e.1
    closestAge := (now : Int) - e.2.mValidSince }

/-- The body of the loop that finds the newest sequence number. -/
def findNewest (now : Nat) (sel : Selection) (e : RsPeerId × RsDsdvRoute) : Selection :=
  if e.2.isLive now ∧ sel.newest ≤ e.2.mSequence then
    { sel with newest := e.2.mSequence }.take now e
  else
    sel

/-- The sequence number of a route is not too old for its distance. -/
def RsDsdvRoute.isRecent (route : RsDsdvRoute) (currseq : Nat) : Bool :=
  currseq ≤ add32 route.mSequence (route.mDistance * 2)

/-- The body of the loop that finds the closest route. -/
def findClosest (now currseq : Nat) (sel : Selection) (e : RsPeerId × RsDsdvRoute) : Selection :=
  if !e.2.isRecent currseq then
    sel
  else if !e.2.isLive now then
    sel
  else if e.2.mDistance < sel.closest then
    sel.take now e
  else if e.2.mDistance = sel.closest ∧ sel.closestAge < (now : Int) - e.2.mValidSince then
    sel.take now e
  else
    sel

/-- The newest of some routes. -/
def newestRoute (now : Nat) (routes : List (RsPeerId × RsDsdvRoute)) : Selection :=
  routes.foldl (findNewest now) ⟨0, maxDistance + 1, 0, 0⟩

/-- The newest sequence number less the bit that marks a service as gone. -/
def Selection.currseq (sel : Selection) : Nat := sel.newest - sel.newest % 2

/-- The closest of some routes. -/
def closestRoute (now : Nat) (routes : List (RsPeerId × RsDsdvRoute)) : Selection :=
  let sel := newestRoute now routes
  routes.foldl (findClosest now sel.currseq) sel

/-- The body of the loop of `selectStableRoutes`. -/
def RsDsdvTableEntry.selectStableRoute (now : Nat) (v : RsDsdvTableEntry) : RsDsdvTableEntry :=
  if v.mOwnSource then
    v
  else if maxDistance + 1 ≤ (newestRoute now v.mAllRoutes.toList).closest then
    { v with mIsStable := false }
  else
    { v with
      mIsStable := true
      mStableRoute :=
        (v.mAllRoutes.get? (closestRoute now v.mAllRoutes.toList).closestId).getD default
      mFlags := v.mFlags &&& ~~~flagNewRoute }

/-- `p3Dsdv::selectStableRoutes`. -/
def selectStableRoutes (now : Nat) (mTable : OrdMap Nat RsDsdvTableEntry) :
    OrdMap Nat RsDsdvTableEntry :=
  mTable.map fun _ v => v.selectStableRoute now

/-- What `p3Dsdv::clearOldRoutes` leaves of the table.  When the first entry goes, what the code does
is not defined, and `clear` has no result; here this entry goes like the others. -/
def clearOldRoutes (mTable : OrdMap Nat RsDsdvTableEntry) : OrdMap Nat RsDsdvTableEntry :=
  mTable.filter fun _ v => v.mOwnSource || v.mIsStable || v.mFlags &&& flagNewRoute ≠ 0

/-! ### Tables -/

/-- The body of the loop of `advanceLocalSequenceNumbers`. -/
def RsDsdvTableEntry.advance (now : Nat) (v : RsDsdvTableEntry) : RsDsdvTableEntry :=
  if v.mOwnSource then
    { v with
      mStableRoute := { v.mStableRoute with
        mSequence := add32 v.mStableRoute.mSequence seqIncrement
        mReceived := now } }
  else
    v

/-- `p3Dsdv::advanceLocalSequenceNumbers`. -/
def advanceLocalSequenceNumbers (now : Nat) (mTable : OrdMap Nat RsDsdvTableEntry) :
    OrdMap Nat RsDsdvTableEntry :=
  mTable.map fun _ v => v.advance now

/-- `p3Dsdv::clearSignificantChangesFlags`, of the table. -/
def clearSignificantChangesFlags (mTable : OrdMap Nat RsDsdvTableEntry) :
    OrdMap Nat RsDsdvTableEntry :=
  mTable.map fun _ v => { v with mFlags := v.mFlags &&& ~~~flagSignificantChange }

/-- What is announced of an entry. -/
def RsDsdvTableEntry.announcement (incremental : Bool) (v : RsDsdvTableEntry) :
    Option RsTlvDsdvEntry :=
  if !v.mIsStable then
    none
  else if maxDistance ≤ v.mStableRoute.mDistance then
    none
  else if incremental ∧ v.mFlags &&& flagSignificantChange = 0 then
    none
  else
    some ⟨v.mDest, v.mStableRoute.mSequence, v.mStableRoute.mDistance⟩

/-- The body of the loop of `generateRoutingTable`: the items that are sent, and the next one. -/
def pushEntry (acc : List (List RsTlvDsdvEntry) × List RsTlvDsdvEntry) (entry : RsTlvDsdvEntry) :
    List (List RsTlvDsdvEntry) × List RsTlvDsdvEntry :=
  let routes := acc.2 ++ [entry]
  if maxRouteTable < routes.length then (acc.1 ++ [routes], []) else (acc.1, routes)

/-- `p3Dsdv::generateRoutingTable`: the items that are sent to a peer. -/
def generateRoutingTable (mTable : OrdMap Nat RsDsdvTableEntry) (incremental : Bool) :
    List (List RsTlvDsdvEntry) :=
  let entries := mTable.toList.filterMap fun e => e.2.announcement incremental
  let sent := entries.foldl pushEntry ([], [])
  sent.1 ++ [sent.2]

/-- `p3Dsdv::generateRoutingTables`: the node, and the items that are sent to each of the peers. -/
def P3Dsdv.generateRoutingTables (now : Nat) (incremental : Bool) :
    P3Dsdv × List (List RsTlvDsdvEntry) :=
  let mTable :=
    if incremental then node.mTable else advanceLocalSequenceNumbers now node.mTable
  ({ node with mTable := clearSignificantChangesFlags mTable, mSignificantChanges := false },
    generateRoutingTable mTable incremental)

/-- `sendTables` announces the whole table. -/
def P3Dsdv.isBroadcastTime (now : Nat) : Bool :=
  broadcastPeriod < now - node.mSentTablesTime

/-- `sendTables` announces the significant changes. -/
def P3Dsdv.isIncrementTime (now : Nat) : Bool :=
  node.mSignificantChanges && minIncrementPeriod < now - node.mSentIncrementTime

/-- `p3Dsdv::sendTables`: the node, and the items that are sent to each of the peers. -/
def P3Dsdv.sendTables (now : Nat) : P3Dsdv × List (List RsTlvDsdvEntry) :=
  if node.isBroadcastTime now then
    let selected :=
      { node with mTable := clearOldRoutes (selectStableRoutes now node.mTable) }
    let sent := selected.generateRoutingTables now false
    ({ sent.1 with mSentTablesTime := now, mSentIncrementTime := now }, sent.2)
  else if node.isIncrementTime now then
    let selected := { node with mTable := selectStableRoutes now node.mTable }
    let sent := selected.generateRoutingTables now true
    ({ sent.1 with mSentIncrementTime := now }, sent.2)
  else
    (node, [])

/-! ### Services -/

/-- The entry of a service of the node. -/
def RsDsdvTableEntry.own (id : RsDsdvId) (ownId : RsPeerId) (now : Nat) : RsDsdvTableEntry where
  mDest := id
  mIsStable := true
  mStableRoute := ⟨ownId, 0, 0, now, now⟩
  mAllRoutes := OrdMap.empty
  mFlags := flagOwnService
  mOwnSource := true

/-- `p3Dsdv::addDsdvId`. -/
def P3Dsdv.addDsdvId (ownId : RsPeerId) (now : Nat) (id : RsDsdvId) : P3Dsdv :=
  match node.mTable.get? id.mHash with
  | some _ => node
  | none => { node with mTable := node.mTable.insert id.mHash (.own id ownId now) }

/-- `p3Dsdv::dropDsdvId`. -/
def P3Dsdv.dropDsdvId (hash : Nat) : P3Dsdv :=
  { node with mTable := node.mTable.erase hash }

end Dsdv
