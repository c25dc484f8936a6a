import Mathlib.Data.List.Defs
import Mathlib.Data.PNat.Defs
import RetroShare.Dht.Peers
import RetroShare.Lib.Machine

/-!
# The routing table `bdSpace`

`Space` of `bdpeer.cc` keeps the peers of the DHT in buckets by their distance to the own id.  The
time is kept beside the table by the machine of its calls, so that it never goes back.
`bdNodesPerBucket` is a positive number.
-/

namespace Dht

/-- `BITDHT_MAX_RESPONSE_PERIOD`. -/
def maxResponsePeriod : Int := 15

/-- `BITDHT_MAX_SEND_PERIOD`. -/
def maxSendPeriod : Int := 300

/-- `BITDHT_MAX_RECV_PERIOD`. -/
def maxRecvPeriod : Int := maxSendPeriod + maxResponsePeriod

/-- `BITDHT_DISCARD_PERIOD`. -/
def discardPeriod : Int := 2 * maxSendPeriod + maxResponsePeriod

/-- `BITDHT_ATTACHED_SEND_PERIOD`. -/
def attachedSendPeriod : Int := 17

/-- `ATTACH_UPDATE_PERIOD`. -/
def attachUpdatePeriod : Int := 600

/-- `bdSpace`. -/
structure Space where
  buckets : List (List Peer)
  mOwnId : NodeId
  mAttachedFlags : UInt32
  mAttachedCount : UInt32
  mAttachTS : Int
  deriving DecidableEq

namespace Space

/-- `bdSpace::bdSpace`, with `BITDHT_STANDARD_N_BUCKETS` buckets. -/
def new (ownId : NodeId) : Space where
  buckets := List.replicate keyBitLen []
  mOwnId := ownId
  mAttachedFlags := 0
  mAttachedCount := 0
  mAttachTS := 0

variable (space : Space)

/-- The bucket of a node id. -/
def bucketOf (id : NodeId) : Nat := bucketDistance (distance space.mOwnId id)

/-- `clear`. -/
def clear : Space := { space with buckets := space.buckets.map fun _ => [] }

/-- `setAttachedFlag`. -/
def setAttachedFlag (withflags count : UInt32) : Space :=
  { space with mAttachedFlags := withflags, mAttachedCount := count, mAttachTS := 0 }

/-- `clean_node_flags`, with the number of entries that had one of the flags. -/
def cleanNodeFlags (flags : UInt32) : Nat × Space :=
  (space.buckets.flatten.countP fun peer => flags &&& peer.mPeerFlags ≠ 0,
    { space with
      buckets := space.buckets.map fun entries => entries.map fun peer =>
        if flags &&& peer.mPeerFlags ≠ 0 then
          { peer with mPeerFlags := peer.mPeerFlags &&& ~~~flags }
        else peer })

/-- `flagpeer`. -/
def flagpeer (id : Id) (flags exFlags : UInt32) : Space :=
  { space with
    buckets := space.buckets.modify (space.bucketOf id.id) fun entries => entries.map fun peer =>
      if similarId id peer.mPeerId then
        { peer with
          mPeerFlags := peer.mPeerFlags ||| flags
          mExtraFlags := peer.mExtraFlags ||| exFlags }
      else peer }

/-! ### Lookups -/

/-- The test of the flags of an entry in a lookup. -/
def hasFlags (withFlags : UInt32) (peer : Peer) : Bool :=
  withFlags = 0 || withFlags &&& peer.mPeerFlags = withFlags

/-- The bucket that `find_node` and `find_exactnode` look in. -/
def lookedIn (id : NodeId) : List Peer :=
  space.buckets[bucketDistance (distance id space.mOwnId)]?.getD []

/-- `find_node`, which does not read its `number`. -/
def findNode (id : NodeId) (matchIds : List Id) (withFlags : UInt32) : Nat × List Id :=
  let found := (space.lookedIn id).filter fun peer =>
    hasFlags withFlags peer && id = peer.mPeerId.id
  (found.length, matchIds ++ found.map Peer.mPeerId)

/-- `find_exactnode`. -/
def findExactnode (id : Id) : Option Peer :=
  (space.lookedIn id.id).find? fun peer => id = peer.mPeerId

/-! ### `updateAttachedPeers` -/

/-- An iteration of `updateAttachedPeers`; its variables are `doAttached` and `attachedCount`. -/
def attachEntry (peer : Peer) (vars : Bool × UInt32) : (Bool × UInt32) × Peer :=
  if vars.1 ∧ peer.mPeerFlags &&& space.mAttachedFlags = space.mAttachedFlags then
    ((vars.2 + 1 < space.mAttachedCount, vars.2 + 1),
      { peer with mExtraFlags := peer.mExtraFlags ||| exflagAttached })
  else (vars, { peer with mExtraFlags := peer.mExtraFlags &&& ~~~exflagAttached })

/-- The loops of `updateAttachedPeers`, through the buckets from the back of each. -/
def attachBuckets (vars : Bool × UInt32) : List (List Peer) → List (List Peer)
  | [] => []
  | entries :: buckets =>
      (entries.mapAccumr space.attachEntry vars).2 ::
        attachBuckets (entries.mapAccumr space.attachEntry vars).1 buckets

/-- `updateAttachedPeers`; the first bucket is skipped. -/
def updateAttachedPeers : Space :=
  { space with
    buckets :=
      match space.buckets with
      | [] => []
      | first :: buckets => first :: space.attachBuckets (0 < space.mAttachedCount, 0) buckets }

/-! ### `scanOutOfDatePeers` -/

/-- An attached entry that has not been pinged recently. -/
def attachedDue (ts : Int) (peer : Peer) : Bool :=
  0 < space.mAttachedCount && peer.mExtraFlags &&& exflagAttached ≠ 0 &&
    attachedSendPeriod < ts - peer.mLastSendTime && attachedSendPeriod < ts - peer.mLastRecvTime

/-- An entry that is to be pinged. -/
def pingDue (ts : Int) (peer : Peer) : Bool :=
  space.attachedDue ts peer ||
    (maxSendPeriod < ts - peer.mLastSendTime &&
      (maxSendPeriod < ts - peer.mLastRecvTime || peer.mPeerFlags &&& recvPong = 0))

/-- An entry that is erased. -/
def discarded (ts : Int) (peer : Peer) : Bool :=
  discardPeriod < ts - peer.mLastRecvTime ||
    (maxResponsePeriod < ts - peer.mFoundTime && peer.mPeerFlags &&& recvPong = 0)

/-- An iteration of `scanOutOfDatePeers`. -/
def scanEntry (ts : Int) (peer : Peer) : Option Peer :=
  if discarded ts peer then none
  else some (if space.pingDue ts peer then { peer with mLastSendTime := ts } else peer)

/-- `attachedCount` after the loops of `scanOutOfDatePeers`. -/
def attachedSeen : UInt32 :=
  if 0 < space.mAttachedCount then
    .ofNat (space.buckets.flatten.countP fun peer => peer.mExtraFlags &&& exflagAttached ≠ 0)
  else 0

/-- The table after the loops of `scanOutOfDatePeers`. -/
def scanned (ts : Int) : Space :=
  { space with buckets := space.buckets.map fun entries => entries.filterMap (space.scanEntry ts) }

/-- `scanOutOfDatePeers`, with the ids that are to be pinged. -/
def scanOutOfDatePeers (ts : Int) : List Id × Space :=
  ((space.buckets.flatten.filter (space.pingDue ts)).map Peer.mPeerId,
    if attachUpdatePeriod < ts - space.mAttachTS ∨ space.attachedSeen ≠ space.mAttachedCount then
      { (space.scanned ts).updateAttachedPeers with mAttachTS := ts }
    else space.scanned ts)

/-! ### `add_peer` -/

/-- The entry of a peer that is new in the table. -/
def newPeer (id : Id) (peerflags : UInt32) (ts : Int) : Peer where
  mPeerId := id
  mPeerFlags := peerflags
  mLastSendTime := 0
  mLastRecvTime := ts
  mFoundTime := ts
  mExtraFlags := 0

/-- An entry that has been heard of. -/
def heardPeer (id : Id) (peerflags : UInt32) (ts : Int) (peer : Peer) : Peer :=
  { peer with mLastRecvTime := ts, mPeerFlags := peer.mPeerFlags ||| peerflags }.updateFrom id

/-- The lowest score of the entries and of the new peer. -/
def minScore (peerflags : UInt32) (entries : List Peer) : UInt32 :=
  entries.foldl (fun score peer => if peer.mPeerFlags < score then peer.mPeerFlags else score)
    peerflags

/-- What `add_peer` does to the bucket of the peer, and what it returns. -/
def addToBucket (nodesPerBucket : ℕ+) (id : Id) (peerflags : UInt32) (ts : Int)
    (entries : List Peer) : Bool × List Peer :=
  match entries.find? fun peer => similarId id peer.mPeerId with
  | some peer =>
      (true, entries.eraseP (fun peer => similarId id peer.mPeerId) ++
        [heardPeer id peerflags ts peer])
  | none =>
      if entries.length < nodesPerBucket then (true, entries ++ [newPeer id peerflags ts])
      else
        match entries with
        | [] => (false, entries)
        | peer :: rest =>
            if maxRecvPeriod < ts - peer.mLastRecvTime then
              (true, rest ++ [newPeer id peerflags ts])
            else if minScore peerflags entries < peerflags then
              if entries.any fun peer => peer.mPeerFlags = minScore peerflags entries then
                (true, entries.eraseP (fun peer => peer.mPeerFlags = minScore peerflags entries) ++
                  [newPeer id peerflags ts])
              else (false, entries)
            else (false, entries)

/-- `add_peer`. -/
def addPeer (nodesPerBucket : ℕ+) (id : Id) (peerflags : UInt32) (ts : Int) : Bool × Space :=
  ((addToBucket nodesPerBucket id peerflags ts
      (space.buckets.getD (space.bucketOf id.id) [])).1,
    { space with
      buckets := space.buckets.modify (space.bucketOf id.id) fun entries =>
        (addToBucket nodesPerBucket id peerflags ts entries).2 })

/-- The calls, and the passing of time. -/
inductive Input where
  | addPeer (id : Id) (peerflags : UInt32)
  | flagpeer (id : Id) (flags exFlags : UInt32)
  | cleanNodeFlags (flags : UInt32)
  | scanOutOfDatePeers
  | updateAttachedPeers
  | setAttachedFlag (withflags count : UInt32)
  | clear
  | wait (seconds : Nat)

/-- A table and the clock. -/
structure Timed where
  space : Space
  now : Int
  deriving DecidableEq

/-- The machine of the calls; its events are the ids that are to be pinged. -/
def machine (nodesPerBucket : ℕ+) : Machine Timed Input Id where
  step s input :=
    match input with
    | .addPeer id peerflags =>
        ({ s with space := (s.space.addPeer nodesPerBucket id peerflags s.now).2 }, [])
    | .flagpeer id flags exFlags => ({ s with space := s.space.flagpeer id flags exFlags }, [])
    | .cleanNodeFlags flags => ({ s with space := (s.space.cleanNodeFlags flags).2 }, [])
    | .scanOutOfDatePeers =>
        ({ s with space := (s.space.scanOutOfDatePeers s.now).2 },
          (s.space.scanOutOfDatePeers s.now).1)
    | .updateAttachedPeers => ({ s with space := s.space.updateAttachedPeers }, [])
    | .setAttachedFlag withflags count =>
        ({ s with space := s.space.setAttachedFlag withflags count }, [])
    | .clear => ({ s with space := s.space.clear }, [])
    | .wait seconds => ({ s with now := s.now + seconds }, [])

end Space

end Dht
