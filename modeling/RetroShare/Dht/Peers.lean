import Mathlib.Data.List.Basic

/-!
# Ids and peers of the DHT

The ids of `bdiface.h`, their distance and buckets as `bdstddht.cc` computes them, and the entry
`Peer` that the tables of the DHT keep for a peer.
-/

namespace Dht

/-- `BITDHT_KEY_LEN`. -/
def keyLen : Nat := 20

/-- `BITDHT_KEY_BITLEN`. -/
def keyBitLen : Nat := 160

/-- `bdNodeId`, and `bdMetric`. -/
structure NodeId where
  data : Vector UInt8 keyLen
  deriving DecidableEq

/-- `bdId`: a node id, and the address `s_addr` and the port of its `sockaddr_in`. -/
structure Id where
  id : NodeId
  sAddr : UInt32
  sinPort : UInt16
  deriving DecidableEq

/-- `bdZeroNodeId`. -/
def zeroNodeId : NodeId := ⟨Vector.replicate keyLen 0⟩

/-- `bdStdDistance`. -/
def distance (a b : NodeId) : NodeId := ⟨Vector.zipWith (· ^^^ ·) a.data b.data⟩

/-- The test of `bdStdBucketDistance`: bit `i` from the front is set. -/
def NodeId.bitSet (m : NodeId) (i : Nat) : Bool :=
  (1 <<< UInt8.ofNat (7 - i % 8) &&& m.data.toArray.getD (i / 8) 0) != 0

/-- `bdStdBucketDistance`. -/
def bucketDistance (m : NodeId) : Nat :=
  match (List.range keyBitLen).find? m.bitSet with
  | some i => keyBitLen - i - 1
  | none => 0

/-- `bdStdSimilarId`. -/
def similarId (n1 n2 : Id) : Bool := n1.id = n2.id && n1.sAddr = n2.sAddr

/-- `bdStdUpdateSimilarId`: whether there was something to update, and the updated id. -/
def updateSimilarId (dest src : Id) : Bool × Id :=
  if dest.sinPort = src.sinPort then (false, dest)
  else (true, { dest with sinPort := src.sinPort })

/-- `BITDHT_PEER_STATUS_RECV_PONG`. -/
def recvPong : UInt32 := 2

/-- `BITDHT_PEER_STATUS_RECV_NODES`. -/
def recvNodes : UInt32 := 4

/-- `BITDHT_PEER_EXFLAG_UNSTABLE`. -/
def exflagUnstable : UInt32 := 1

/-- `BITDHT_PEER_EXFLAG_ATTACHED`. -/
def exflagAttached : UInt32 := 2

/-- `bdPeer`. -/
structure Peer where
  mPeerId : Id
  mPeerFlags : UInt32
  mLastSendTime : Int
  mLastRecvTime : Int
  mFoundTime : Int
  mExtraFlags : UInt32
  deriving DecidableEq

/-- Takes the port of an id that has been received, which makes the peer unstable when it is a new
one. -/
def Peer.updateFrom (peer : Peer) (id : Id) : Peer :=
  if (updateSimilarId peer.mPeerId id).1 then
    { peer with
      mPeerId := (updateSimilarId peer.mPeerId id).2
      mExtraFlags := peer.mExtraFlags ||| exflagUnstable }
  else peer

theorem similarId_iff {n1 n2 : Id} :
  similarId n1 n2 ↔ n1.id = n2.id ∧ n1.sAddr = n2.sAddr
  := by
  rw [similarId, Bool.and_eq_true, decide_eq_true_eq, decide_eq_true_eq]

theorem distance_comm (n1 n2 : NodeId) :
  distance n1 n2 = distance n2 n1
  := by
  rw [distance, distance, Vector.zipWith_comm]
  simp only [UInt8.xor_comm]

theorem similarId_comm (n1 n2 : Id) :
  similarId n1 n2 = similarId n2 n1
  := by
  rw [Bool.eq_iff_iff, similarId_iff, similarId_iff]
  exact and_congr eq_comm eq_comm

@[simp]
theorem similarId_self (n : Id) :
  similarId n n
  := similarId_iff.mpr ⟨rfl, rfl⟩

theorem similarId_trans {n1 n2 n3 : Id} (h : similarId n1 n2) (h' : similarId n2 n3) :
  similarId n1 n3
  := by
  rw [similarId_iff] at *
  exact ⟨h.1.trans h'.1, h.2.trans h'.2⟩

theorem similarId_updateSimilarId (dest src : Id) :
  similarId dest (updateSimilarId dest src).2
  := by
  rw [updateSimilarId]
  split
  · exact similarId_self dest
  · exact similarId_iff.mpr ⟨rfl, rfl⟩

variable (peer : Peer)

theorem Peer.similarId_updateFrom (id : Id) :
  similarId peer.mPeerId (peer.updateFrom id).mPeerId
  := by
  rw [updateFrom]
  split
  · apply similarId_updateSimilarId
  · exact similarId_self _

@[simp]
theorem Peer.mLastRecvTime_updateFrom (id : Id) :
  (peer.updateFrom id).mLastRecvTime = peer.mLastRecvTime
  := by
  rw [updateFrom]
  split <;> rfl

end Dht
