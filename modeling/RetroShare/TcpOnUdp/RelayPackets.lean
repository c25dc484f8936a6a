import RetroShare.Lib.Bytes
import RetroShare.TcpOnUdp.UdpRelay

/-!
# The packets of UDP relays

The end points and the packets of `UdpRelayReceiver`, over the relays: a block that is sent to a
peer is wrapped into a packet with the addresses of both ends for a proxy, and a packet that arrives
is passed on by the relay for its addresses, or else given to the `UdpPeer` of its source.

The `UdpPeer`s are pointers, which are the parameter `π`.  The bytes of an address are those of a
machine with the low byte first; the packets carry them as they are in memory.
-/

namespace TcpOnUdp

/-- `AF_INET`. -/
def afInet : Nat := 2

/-- `MAX_RELAY_UDP_PACKET_SIZE`. -/
def maxRelayUdpPacketSize : Nat := 1400 + 20 + 16

/-- `UDP_RELAY_HEADER_SIZE`. -/
def udpRelayHeaderSize : Nat := 16

/-- `UDP_IDENTITY_STRING_V1`, which is `RLY1`. -/
def udpIdentityStringV1 : List UInt8 := [0x52, 0x4C, 0x59, 0x31]

/-- `STD_RELAY_TTL`. -/
def stdRelayTtl : Int := 64

/-- The number in some bytes, the low byte first. -/
def ofBytes : List UInt8 → Nat
  | [] => 0
  | byte :: bytes => byte.toNat + 2 ^ 8 * ofBytes bytes

/-- The bytes of a number, the low byte first. -/
def toBytes : Nat → Nat → List UInt8
  | 0, _ => []
  | n + 1, x => UInt8.ofNat x :: toBytes n (x / 2 ^ 8)

@[simp]
theorem length_toBytes (n x : Nat) :
  (toBytes n x).length = n
  := by
  induction n generalizing x with
  | zero => rfl
  | succ n ih => simp [toBytes, ih]

theorem ofBytes_toBytes (n x : Nat) (h : x < 2 ^ (8 * n)) :
  ofBytes (toBytes n x) = x
  := by
  induction n generalizing x with
  | zero =>
    have hx : x = 0 := by simpa using h
    rw [hx]
    rfl
  | succ n ih =>
    have hrest : x / 2 ^ 8 < 2 ^ (8 * n) := by
      apply Nat.div_lt_of_lt_mul
      rwa [← pow_add, Nat.add_comm, ← Nat.mul_succ]
    rw [toBytes, ofBytes, ih _ hrest, UInt8.toNat_ofNat']
    exact Nat.mod_add_div x (2 ^ 8)

/-- The address and the port as they are in memory. -/
def SockaddrIn.bytes (a : SockaddrIn) : List UInt8 := toBytes 4 a.s_addr ++ toBytes 2 a.sin_port

/-- An address of the internet, whose fields have their sizes. -/
structure SockaddrIn.IsInet (a : SockaddrIn) : Prop where
  family : a.sin_family = afInet
  addr : a.s_addr < 2 ^ 32
  port : a.sin_port < 2 ^ 16

/-- `UdpRelayEnd`. -/
structure UdpRelayEnd where
  mLocalAddr : SockaddrIn
  mProxyAddr : SockaddrIn
  mRemoteAddr : SockaddrIn
  deriving DecidableEq

/-- The constructor. -/
def UdpRelayEnd.new (endPoints : UdpRelayAddrSet) (proxyaddr : SockaddrIn) : UdpRelayEnd where
  mLocalAddr := endPoints.mSrcAddr
  mRemoteAddr := endPoints.mDestAddr
  mProxyAddr := proxyaddr

/-- `isUdpRelayPacket`. -/
def isUdpRelayPacket (data : List UInt8) : Bool :=
  if data.length < udpRelayHeaderSize then false
  else data.take udpIdentityStringV1.length = udpIdentityStringV1

/-- The address whose six bytes are at an offset. -/
def addrAt (data : List UInt8) (offset : Nat) : SockaddrIn where
  sin_family := afInet
  s_addr := ofBytes ((data.drop offset).take 4)
  sin_port := ofBytes ((data.drop (offset + 4)).take 2)

/-- `extractUdpRelayAddrSet`. -/
def extractUdpRelayAddrSet (data : List UInt8) : Option UdpRelayAddrSet :=
  if data.length < udpRelayHeaderSize then none
  else some { mSrcAddr := addrAt data 4, mDestAddr := addrAt data 10 }

/-- The packet for a block. -/
def relayPacket (data : List UInt8) (ure : UdpRelayEnd) : List UInt8 :=
  udpIdentityStringV1 ++ (ure.mLocalAddr.bytes ++ (ure.mRemoteAddr.bytes ++ data))

/-- `createRelayUdpPacket`, with the bytes of the new packet, whose number it returns.  The sum of
the sizes is an `int`: beyond its range the outcome is undefined. -/
def createRelayUdpPacket (data : List UInt8) (newsize : Nat) (ure : UdpRelayEnd) :
    Option (List UInt8) :=
  let pktsize := data.length + udpRelayHeaderSize
  if 2 ^ 31 ≤ pktsize then none
  else if newsize < pktsize then some []
  else some (relayPacket data ure)

/-- A datagram that is given to `mPublisher`. -/
structure Datagram where
  dest : SockaddrIn
  data : List UInt8
  ttl : Int
  deriving DecidableEq

/-- What a call does outside of the receiver. -/
inductive RelayEffect (π : Type) where
  | sendPkt (datagram : Datagram)
  | recvPkt (peer : π) (data : List UInt8)
  deriving DecidableEq

/-- `UdpRelayReceiver` with its end points. -/
structure RelayingReceiver (β π : Type) extends UdpRelayReceiver β where
  mPeers : OrdMap SockaddrIn π
  mReadBytes : Nat
  mStreams : OrdMap SockaddrIn UdpRelayEnd
  mWriteBytes : Nat
  mRelayBytes : Nat

namespace RelayingReceiver

variable {β π : Type} [DecidableEq π] (bandwidths : Bandwidths β)
  (receiver : RelayingReceiver β π)

/-- The constructor. -/
def new : RelayingReceiver β π where
  toUdpRelayReceiver := .new
  mPeers := .empty
  mReadBytes := 0
  mStreams := .empty
  mWriteBytes := 0
  mRelayBytes := 0

/-- `addUdpPeer`, with what it returns. -/
def addUdpPeer (peer : π) (endPoints : UdpRelayAddrSet) (proxyaddr : SockaddrIn) :
    RelayingReceiver β π × Int :=
  if (receiver.mStreams.get? endPoints.mDestAddr).isSome then (receiver, 0)
  else
    ({ receiver with
        mStreams := receiver.mStreams.insert endPoints.mDestAddr (.new endPoints proxyaddr)
        mPeers := receiver.mPeers.insert endPoints.mDestAddr peer }, 1)

/-- `removeUdpPeer`, with what it returns. -/
def removeUdpPeer (peer : π) : RelayingReceiver β π × Int :=
  match receiver.mPeers.toList.find? fun e => e.2 = peer with
  | none => (receiver, 0)
  | some (realPeerAddr, _) =>
      ({ receiver with
          mPeers := receiver.mPeers.erase realPeerAddr
          mStreams := receiver.mStreams.erase realPeerAddr }, 1)

/-- A counter of type `uint32_t` after adding `size`. -/
def counted (count size : Nat) : Nat := (count + size) % 2 ^ 32

/-- `recvPkt`, with what it returns and its effects. -/
def recvPkt (data : List UInt8) (now : Int) :
    RelayingReceiver β π × Int × List (RelayEffect π) :=
  if ¬isUdpRelayPacket data then (receiver, 0, [])
  else
    match extractUdpRelayAddrSet data with
    | none => (receiver, 0, [])
    | some addrSet =>
        if (receiver.mRelays.get? addrSet).isSome then
          ({ receiver with
              toUdpRelayReceiver :=
                receiver.toUdpRelayReceiver.relayPkt addrSet data.length now
              mRelayBytes := counted receiver.mRelayBytes data.length },
            1, [.sendPkt ⟨addrSet.mDestAddr, data, stdRelayTtl⟩])
        else
          match receiver.mPeers.get? addrSet.mSrcAddr with
          | none => (receiver, 0, [])
          | some peer =>
              ({ receiver with mReadBytes := counted receiver.mReadBytes data.length },
                1,
                if 0 < data.length - udpRelayHeaderSize then
                  [.recvPkt peer (data.drop udpRelayHeaderSize)]
                else [])

/-- `sendPkt`, with what it returns and its effects, when it is defined. -/
def sendPkt (data : List UInt8) (dest : SockaddrIn) :
    Option (RelayingReceiver β π × Int × List (RelayEffect π)) :=
  match receiver.mStreams.get? dest with
  | none => some (receiver, 0, [])
  | some ure =>
      (createRelayUdpPacket data maxRelayUdpPacketSize ure).map fun packet =>
        ({ receiver with mWriteBytes := counted receiver.mWriteBytes data.length },
          packet.length, [.sendPkt ⟨ure.mProxyAddr, packet, stdRelayTtl⟩])

/-- A call.  The calls for the relays are those of `UdpRelayReceiver`. -/
inductive Call (π : Type) where
  | addPeer (peer : π) (endPoints : UdpRelayAddrSet) (proxyaddr : SockaddrIn)
  | removePeer (peer : π)
  | relays (input : UdpRelayReceiver.Input)
  | recv (data : List UInt8) (now : Int)
  | send (data : List UInt8) (dest : SockaddrIn)

/-- The receiver as a machine.  A call of `sendPkt` that is not defined is no step. -/
def machine : Machine (RelayingReceiver β π) (Call π) (RelayEffect π) where
  step
    | receiver, .addPeer peer endPoints proxyaddr =>
        ((receiver.addUdpPeer peer endPoints proxyaddr).1, [])
    | receiver, .removePeer peer => ((receiver.removeUdpPeer peer).1, [])
    | receiver, .relays input =>
        ({ receiver with
            toUdpRelayReceiver :=
              (UdpRelayReceiver.machine bandwidths).next receiver.toUdpRelayReceiver input }, [])
    | receiver, .recv data now =>
        ((receiver.recvPkt data now).1, (receiver.recvPkt data now).2.2)
    | receiver, .send data dest =>
        match receiver.sendPkt data dest with
        | none => (receiver, [])
        | some (receiver, _, effects) => (receiver, effects)

end RelayingReceiver

end TcpOnUdp
