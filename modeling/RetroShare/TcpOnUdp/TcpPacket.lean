import RetroShare.TcpOnUdp.RelayPackets

/-!
# The packets of streams over UDP

`TcpPacket` of `tcppacket.cc`.  What is read from the bytes of a packet is the packet
(`readPacket_writePacket`), up to the count of its retransmissions, which stays with the sender.
-/

namespace TcpOnUdp

/-- `TCP_PSEUDO_HDR_SIZE`. -/
def tcpPseudoHdrSize : Nat := 20

/-- `TCP_ACK_BIT`. -/
def tcpAckBit : UInt16 := 0x0008

/-- `TCP_RST_BIT`. -/
def tcpRstBit : UInt16 := 0x0020

/-- `TCP_SYN_BIT`. -/
def tcpSynBit : UInt16 := 0x0040

/-- `TCP_FIN_BIT`. -/
def tcpFinBit : UInt16 := 0x0080

/-- `htons` and `htonl`, with the number of bytes. -/
def hton (n x : Nat) : List UInt8 := (toBytes n x).reverse

/-- `ntohs` and `ntohl`. -/
def ntoh (bytes : List UInt8) : Nat := ofBytes bytes.reverse

@[simp]
theorem length_hton (n x : Nat) :
  (hton n x).length = n
  := by
  simp [hton]

theorem ntoh_hton {n x : Nat} (h : x < 2 ^ (8 * n)) :
  ntoh (hton n x) = x
  := by
  rw [ntoh, hton, List.reverse_reverse]
  exact ofBytes_toBytes n x h

/-- `TcpPacket`, without the time at which it was sent. -/
structure TcpPacket where
  data : List UInt8 := []
  seqno : UInt32 := 0
  ackno : UInt32 := 0
  hlen_flags : UInt16 := 0
  winsize : UInt16 := 0
  retrans : UInt16 := 0
  deriving DecidableEq

namespace TcpPacket

/-- The constructor with data. -/
def new (ptr : List UInt8) : TcpPacket := { data := ptr }

/-- `datasize`. -/
abbrev datasize (pkt : TcpPacket) : Nat := pkt.data.length

variable (pkt : TcpPacket)

/-- `hasSyn`. -/
def hasSyn : Bool := pkt.hlen_flags &&& tcpSynBit != 0

/-- `hasFin`. -/
def hasFin : Bool := pkt.hlen_flags &&& tcpFinBit != 0

/-- `hasAck`. -/
def hasAck : Bool := pkt.hlen_flags &&& tcpAckBit != 0

/-- `hasRst`. -/
def hasRst : Bool := pkt.hlen_flags &&& tcpRstBit != 0

/-- `setSyn`. -/
def setSyn : TcpPacket :=
  { pkt with hlen_flags := pkt.hlen_flags ||| tcpSynBit }

/-- `setFin`. -/
def setFin : TcpPacket :=
  { pkt with hlen_flags := pkt.hlen_flags ||| tcpFinBit }

/-- `setAck`. -/
def setAck (val : UInt32) : TcpPacket :=
  { pkt with hlen_flags := pkt.hlen_flags ||| tcpAckBit, ackno := val }

/-- The header: the two ports, the checksum and the pointer to urgent data are `0`. -/
def header : List UInt8 :=
  hton 2 0 ++ hton 2 0 ++ hton 4 pkt.seqno.toNat ++ hton 4 pkt.ackno.toNat ++
    hton 2 pkt.hlen_flags.toNat ++ hton 2 pkt.winsize.toNat ++ hton 2 0 ++ hton 2 0

/-- `writePacket`, with the bytes that it leaves in a buffer of some size; there are none of a
packet that does not fit. -/
def writePacket (size : Nat) : List UInt8 :=
  if size < tcpPseudoHdrSize + pkt.datasize then [] else pkt.header ++ pkt.data

/-- `readPacket`, on a new packet. -/
def readPacket (buf : List UInt8) : Option TcpPacket :=
  if buf.length < tcpPseudoHdrSize then none
  else some
    { seqno := .ofNat (ntoh ((buf.drop 4).take 4))
      ackno := .ofNat (ntoh ((buf.drop 8).take 4))
      hlen_flags := .ofNat (ntoh ((buf.drop 12).take 2))
      winsize := .ofNat (ntoh ((buf.drop 14).take 2))
      data := buf.drop tcpPseudoHdrSize }

@[simp]
theorem length_header (pkt : TcpPacket) :
  pkt.header.length = tcpPseudoHdrSize
  := by
  simp [header, tcpPseudoHdrSize]

/-- The number that is read where it was written. -/
theorem ntoh_drop_take (front rest : List UInt8) {n x : Nat} (hx : x < 2 ^ (8 * n)) :
  ntoh (((front ++ (hton n x ++ rest)).drop front.length).take n) = x
  := by
  rw [List.drop_left, List.take_left' (length_hton n x), ntoh_hton hx]

theorem readPacket_writePacket {pkt : TcpPacket} {size : Nat}
    (h : tcpPseudoHdrSize + pkt.datasize ≤ size) :
  readPacket (pkt.writePacket size) = some { pkt with retrans := 0 }
  := by
  have hlen : ¬ (pkt.header ++ pkt.data).length < tcpPseudoHdrSize := by
    rw [List.length_append, length_header]
    exact Nat.not_lt.mpr (Nat.le_add_right _ _)
  have hseqno := ntoh_drop_take (hton 2 0 ++ hton 2 0)
    (hton 4 pkt.ackno.toNat ++ (hton 2 pkt.hlen_flags.toNat ++ (hton 2 pkt.winsize.toNat ++
      (hton 2 0 ++ (hton 2 0 ++ pkt.data))))) (n := 4) pkt.seqno.toNat_lt
  have hackno := ntoh_drop_take (hton 2 0 ++ (hton 2 0 ++ hton 4 pkt.seqno.toNat))
    (hton 2 pkt.hlen_flags.toNat ++ (hton 2 pkt.winsize.toNat ++
      (hton 2 0 ++ (hton 2 0 ++ pkt.data)))) (n := 4) pkt.ackno.toNat_lt
  have hflags := ntoh_drop_take
    (hton 2 0 ++ (hton 2 0 ++ (hton 4 pkt.seqno.toNat ++ hton 4 pkt.ackno.toNat)))
    (hton 2 pkt.winsize.toNat ++ (hton 2 0 ++ (hton 2 0 ++ pkt.data))) (n := 2)
    pkt.hlen_flags.toNat_lt
  have hwinsize := ntoh_drop_take
    (hton 2 0 ++ (hton 2 0 ++ (hton 4 pkt.seqno.toNat ++ (hton 4 pkt.ackno.toNat ++
      hton 2 pkt.hlen_flags.toNat))))
    (hton 2 0 ++ (hton 2 0 ++ pkt.data)) (n := 2) pkt.winsize.toNat_lt
  have hdata : (pkt.header ++ pkt.data).drop tcpPseudoHdrSize = pkt.data :=
    List.drop_left' (length_header pkt)
  rw [writePacket, if_neg (Nat.not_lt.mpr h), readPacket, if_neg hlen, hdata]
  simp only [List.append_assoc, List.length_append, length_hton] at hseqno hackno hflags hwinsize
  simp only [header, List.append_assoc]
  rw [hseqno, hackno, hflags, hwinsize]
  simp only [UInt32.ofNat_toNat, UInt16.ofNat_toNat]

end TcpPacket

end TcpOnUdp
