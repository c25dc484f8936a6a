import RetroShare.TcpOnUdp.TcpPacket

/-!
# Streams over UDP

`TcpStream` of `tcpstream.cc`: one end of a connection that carries a stream of bytes over UDP.

The time stamps and the estimates of the round trip time are `double`s.  They are only compared, and
a `Clock` is what these comparisons give at a tick, so that a run over all clocks is a run at any
speed.  The time to live of the packets only decides whether they arrive, and is left out.
-/

namespace TcpOnUdp

scoped instance lawfulBEq : LawfulBEq (List UInt8) := inferInstance

/-- `MAX_SEG`. -/
def maxSeg : Nat := 1000

/-- `TCP_MAX_SEQ`. -/
def tcpMaxSeq : UInt32 := 0xFFFFFFFF

/-- `TCP_MAX_WIN`, which `maxWinSize` stays at. -/
def tcpMaxWin : UInt32 := 65500

/-- `kMaxQueueSize`. -/
def kMaxQueueSize : Nat := 300

/-- `kMaxPktRetransmit`. -/
def kMaxPktRetransmit : UInt16 := 10

/-- `kMaxSynPktRetransmit`. -/
def kMaxSynPktRetransmit : UInt16 := 100

/-- The states of a stream, in the order of their numbers. -/
inductive TcpState
  | closed
  | listen
  | synSent
  | synRcvd
  | established
  | finWait1
  | finWait2
  | timedWait
  | closing
  | closeWait
  | lastAck
  deriving DecidableEq

/-- The number of a state. -/
def TcpState.num : TcpState → Nat
  | closed => 0
  | listen => 1
  | synSent => 2
  | synRcvd => 3
  | established => 4
  | finWait1 => 5
  | finWait2 => 6
  | timedWait => 7
  | closing => 8
  | closeWait => 9
  | lastAck => 10

/-- The values of `errorState`. -/
inductive Errno
  | ok
  | eagain
  | efault
  | ebadf
  deriving DecidableEq

/-- What a stream writes to the log when its state changes. -/
inductive StateLog
  | synSentConnect
  | synRcvdSyn
  | establishedSynAck
  | establishedAck
  | finWait1EndOfStream
  | lastAckEndOfStream
  | closeWaitFin
  | closingFin
  | timedWaitFin
  | finWait2Ack
  | closedAck
  | timedWaitAck
  | closedRst
  | closedTimedWait
  | closedNoPktTimeout
  | closedRetransmits
  | cleanup
  deriving DecidableEq

/-- `dataBuffer`. -/
abbrev DataBuffer : Type := { data : List UInt8 // data.length = maxSeg }

/-- The part in use of an array of `MAX_SEG` bytes, in which there is still room. -/
abbrev Partial : Type := { data : List UInt8 // data.length < maxSeg }

/-- An array of which nothing is in use. -/
def Partial.empty : Partial := ⟨[], Nat.succ_pos _⟩

instance : Inhabited Partial := ⟨Partial.empty⟩

/-- What is sent again and what decides when more is sent. -/
structure Transmission where
  outPkt : List TcpPacket := []
  outSeqno : UInt32 := 0
  lastSentAck : UInt32 := 0
  lastSentWinSize : UInt32 := 0
  retransTimerOn : Bool := false
  congestThreshold : UInt32 := tcpMaxWin
  congestWinSize : UInt32 := .ofNat maxSeg
  congestUpdate : UInt32 := 0
  /-- The packets that were handed to `udp`. -/
  udp : List (List UInt8) := []

/-- What the sending of packets leaves alone. -/
structure Connection where
  state : TcpState := .closed
  inStreamActive : Bool := false
  outStreamActive : Bool := false
  inData : Partial := .empty
  inQueue : List DataBuffer := []
  outDataRead : Partial := .empty
  outDataNet : Partial := .empty
  outQueue : List DataBuffer := []
  inPkt : List TcpPacket := []
  outAcked : UInt32 := 0
  outWinSize : UInt32 := 0
  inAckno : UInt32 := 0
  inWinSize : UInt32 := 0
  initOurSeqno : UInt32 := 0
  initPeerSeqno : UInt32 := 0
  errorState : Errno := .ok
  peerKnown : Bool := false
  /-- The log, from its first line on. -/
  rslog : List StateLog := []

/-- `TcpStream`; the defaults of its fields are what the constructor sets. -/
structure TcpStream extends Connection, Transmission

/-- What the comparisons of time stamps give at a tick. -/
structure Clock where
  /-- `cts - lastIncomingPkt > kNoPktTimeout` -/
  noPkt : Bool := false
  /-- `cts - retransTimerTs >= retransTimeout` -/
  retrans : Bool := false
  /-- `cts - keepAliveTimer > retransTimeout * 4` -/
  window : Bool := false
  /-- `cts - keepAliveTimer > keepAliveTimeout` -/
  keepAlive : Bool := false

/-- `isOldSequence`. -/
def isOldSequence (tst curr : UInt32) : Bool := (tst - curr).toInt32 < 0

namespace TcpStream

variable (s : TcpStream)

/-- A line of the log. -/
def log (line : StateLog) : TcpStream := { s with rslog := s.rslog ++ [line] }

/-- A change of the state, with its line of the log. -/
def enter (state : TcpState) (line : StateLog) : TcpStream :=
  ({ s with state := state } : TcpStream).log line

/-- `cleanup`. -/
def cleanup : TcpStream :=
  { s.log .cleanup with
    outStreamActive := false
    inStreamActive := false
    state := .closed
    inData := .empty
    inQueue := []
    outPkt := []
    outDataRead := .empty
    outDataNet := .empty
    outQueue := []
    inPkt := [] }

/-! ### Sending -/

/-- The packet as it is sent. -/
def stamp (pkt : TcpPacket) : TcpPacket :=
  let pkt := { pkt with winsize := s.inWinSize.toUInt16, seqno := s.outSeqno }
  if pkt.hasSyn then pkt else pkt.setAck s.inAckno

/-- `toSend`. -/
def toSend (pkt : TcpPacket) (retrans : Bool := true) : TcpStream :=
  if s.peerKnown then
    { s with
      outSeqno := s.outSeqno + .ofNat pkt.datasize + if pkt.hasSyn then 1 else 0
      lastSentAck := (s.stamp pkt).ackno
      lastSentWinSize := (s.stamp pkt).winsize.toUInt32
      udp := s.udp ++ [(s.stamp pkt).writePacket (maxSeg + tcpPseudoHdrSize)]
      retransTimerOn := s.retransTimerOn || retrans
      outPkt := if retrans then s.outPkt ++ [{ s.stamp pkt with retrans := 0 }] else s.outPkt }
  else s

/-- `sendAck`. -/
def sendAck : TcpStream := s.toSend {} false

/-- The congestion window after an acknowledgement. -/
def widen : TcpStream :=
  if isOldSequence s.outAcked s.congestUpdate then s
  else
    let size := if s.congestWinSize < s.congestThreshold then s.congestWinSize * 2
      else s.congestWinSize + .ofNat maxSeg
    let size := if tcpMaxWin < size then tcpMaxWin else size
    { s with congestWinSize := size, congestUpdate := s.outAcked + size }

/-- The loop of `acknowledge`, over the packets that wait for their acknowledgement. -/
def acknowledgePkts : List TcpPacket → TcpStream → TcpStream
  | [], s => { s with outPkt := [] }
  | pkt :: pkts, s =>
      if isOldSequence pkt.seqno s.outAcked then acknowledgePkts pkts s.widen
      else { s with outPkt := pkt :: pkts }

/-- `acknowledge`. -/
def acknowledge : TcpStream :=
  let s' := acknowledgePkts s.outPkt s
  { s' with
    retransTimerOn :=
      if s'.outPkt = [] then false
      else if s'.outPkt.length = s.outPkt.length then s.retransTimerOn
      else true }

/-- The packet that is sent again. -/
def restamp (pkt : TcpPacket) : TcpPacket :=
  let pkt := if pkt.hasSyn then pkt else pkt.setAck s.inAckno
  { pkt with winsize := s.inWinSize.toUInt16 }

/-- A packet has been sent too often. -/
def tooMany (pkt : TcpPacket) : Bool :=
  (pkt.hasSyn && kMaxSynPktRetransmit < pkt.retrans) ||
    (!pkt.hasSyn && kMaxPktRetransmit < pkt.retrans)

/-- What `retrans` does before it looks at how often the packet has been sent. -/
def slowDown (pkt : TcpPacket) : TcpStream :=
  { s with
    congestThreshold := s.congestWinSize / 2
    congestWinSize := .ofNat maxSeg
    congestUpdate := s.outAcked + UInt32.ofNat maxSeg
    lastSentAck := if pkt.hasSyn then s.lastSentAck else s.inAckno
    lastSentWinSize := (s.restamp pkt).winsize.toUInt32 }

/-- `retrans`. -/
def retrans (s : TcpStream) (clock : Clock) : TcpStream :=
  if !s.peerKnown then s
  else if !s.retransTimerOn then s
  else if !clock.retrans then s
  else
    match s.outPkt with
    | [] => { s with retransTimerOn := false }
    | pkt :: pkts =>
        if tooMany pkt then ((s.slowDown pkt).log .closedRetransmits).cleanup
        else
          { s.slowDown pkt with
            udp := s.udp ++ [(s.restamp pkt).writePacket (maxSeg + tcpPseudoHdrSize)]
            outPkt := { s.restamp pkt with retrans := pkt.retrans + 1 } :: pkts
            retransTimerOn := true }

/-- How much may be sent now. -/
def maxsend (s : TcpStream) : UInt32 :=
  let maxsend := if s.outWinSize < s.congestWinSize then s.outWinSize else s.congestWinSize
  let inTransit := if s.outSeqno < s.outAcked then (tcpMaxSeq - s.outAcked) + s.outSeqno
    else s.outSeqno - s.outAcked
  if inTransit < maxsend then maxsend - inTransit else 0

/-- The loop of `send` over `inQueue`, with what may be sent after it. -/
def sendSegments : List DataBuffer → UInt32 → TcpStream → TcpStream × UInt32
  | [], maxsend, s => (s, maxsend)
  | db :: inQueue, maxsend, s =>
      if .ofNat maxSeg ≤ maxsend then
        sendSegments inQueue (maxsend - .ofNat maxSeg)
          (({ s with inQueue } : TcpStream).toSend (.new db.1))
      else (s, maxsend)

/-- What `send` does when it has sent no data. -/
def sendControl (clock : Clock) : TcpStream :=
  let needsAck := isOldSequence s.lastSentAck s.inAckno ||
    (s.lastSentWinSize < .ofNat maxSeg && .ofNat maxSeg < s.inWinSize) ||
    (clock.window && s.lastSentWinSize + 4 * .ofNat maxSeg < s.inWinSize) || clock.keepAlive
  if !s.outStreamActive && s.inQueue.length + s.inData.1.length == 0 &&
      (s.state == .established || s.state == .closeWait) then
    let s' := s.toSend (TcpPacket.setFin {}) false
    if s.state = .established then s'.enter .finWait1 .finWait1EndOfStream
    else s'.enter .lastAck .lastAckEndOfStream
  else if needsAck then s.sendAck
  else s

/-- The part of `send` that sends data, or else what is due without. -/
def sendData (clock : Clock) : TcpStream :=
  let r := sendSegments s.inQueue s.maxsend s
  if s.inQueue ≠ [] ∧ .ofNat maxSeg ≤ s.maxsend then r.1
  else if s.inQueue = [] ∧ s.inData.1.length ≤ r.2.toNat ∧ s.inData.1 ≠ [] then
    ({ r.1 with inData := .empty } : TcpStream).toSend (.new s.inData.1)
  else r.1.sendControl clock

/-- `send`. -/
def send (clock : Clock) : TcpStream :=
  let s := s.acknowledge.retrans clock
  if s.state.num < TcpState.established.num then s else s.sendData clock

/-- `recv_check`. -/
def recv_check (clock : Clock) : TcpStream :=
  if TcpState.synRcvd.num < s.state.num ∧ clock.noPkt then (s.log .closedNoPktTimeout).cleanup
  else s

/-- `tick`. -/
def tick (clock : Clock) : TcpStream := (s.recv_check clock).send clock

/-! ### Reading and writing -/

/-- The number of bytes that wait to be read. -/
def pending : Nat :=
  s.outDataRead.1.length + s.outQueue.length * maxSeg + s.outDataNet.1.length

/-- `int_read_pending`, which is an `int`. -/
def int_read_pending : Int := Int.bmod s.pending (2 ^ 32)

/-- `UpdateInWinSize`. -/
def UpdateInWinSize : TcpStream :=
  let queuedData := UInt32.ofNat s.pending
  { s with
    inWinSize :=
      if queuedData < tcpMaxWin then tcpMaxWin
      else if queuedData < 2 * tcpMaxWin then 2 * tcpMaxWin - queuedData
      else 0 }

/-- Some bytes in full `dataBuffer`s, with the rest of them. -/
def fill (data : List UInt8) : List DataBuffer × Partial :=
  if h : data.length < maxSeg then ([], ⟨data, h⟩)
  else
    let r := fill (data.drop maxSeg)
    (⟨data.take maxSeg, List.length_take_of_le (Nat.not_lt.mp h)⟩ :: r.1, r.2)
  termination_by data.length
  decreasing_by
    rw [List.length_drop]
    exact Nat.sub_lt (Nat.lt_of_lt_of_le (Nat.succ_pos _) (Nat.not_lt.mp h)) (Nat.succ_pos _)

/-- A `dataBuffer` from the part of one that is in use, with enough bytes to fill it. -/
def fillUp (front : Partial) (data : List UInt8)
    (h : ¬ front.1.length + data.length < maxSeg) : DataBuffer :=
  ⟨front.1 ++ data.take (maxSeg - front.1.length), by
    have hfront := front.2
    rw [List.length_append, List.length_take_of_le] <;> omega⟩

/-- `write`, with the number of bytes, or `-1`. -/
def write (dta : List UInt8) : TcpStream × Int :=
  if s.state = .closed then ({ s with errorState := .ebadf }, -1)
  else if s.state.num < TcpState.established.num then ({ s with errorState := .eagain }, -1)
  else if kMaxQueueSize < s.inQueue.length then ({ s with errorState := .eagain }, -1)
  else if !s.outStreamActive then ({ s with errorState := .ebadf }, -1)
  else if h : s.inData.1.length + dta.length < maxSeg then
    ({ s with inData := ⟨s.inData.1 ++ dta, List.length_append ▸ h⟩ }, dta.length)
  else
    let r := fill (dta.drop (maxSeg - s.inData.1.length))
    ({ s with
        inQueue := s.inQueue ++ fillUp s.inData dta h :: r.1
        inData := r.2 }, dta.length)

/-- What the loop of `read` over `outQueue` leaves behind. -/
structure Taken where
  /-- What was copied. -/
  dta : List UInt8
  outQueue : List DataBuffer
  outDataRead : Partial
  /-- What is still asked for. -/
  remSize : Nat

/-- The loop of `read` over `outQueue`. -/
def takeSegments : List DataBuffer → Nat → Taken
  | [], remSize => ⟨[], [], .empty, remSize⟩
  | db :: outQueue, remSize =>
      if h₀ : remSize = 0 then ⟨[], db :: outQueue, .empty, 0⟩
      else if h : remSize < maxSeg then
        ⟨db.1.take remSize, outQueue, ⟨db.1.drop remSize, by
          have hdb := db.2
          rw [List.length_drop]
          omega⟩, 0⟩
      else
        let r := takeSegments outQueue (remSize - maxSeg)
        { r with dta := db.1 ++ r.dta }

/-- An array without its first bytes. -/
def dropFront (data : Partial) (size : Nat) : Partial :=
  ⟨data.1.drop size, by
    have hdata := data.2
    rw [List.length_drop]
    omega⟩

/-- The part of `read` that copies `size` bytes. -/
def readData (size : Nat) : TcpStream × List UInt8 :=
  if size < s.outDataRead.1.length then
    ({ s with outDataRead := dropFront s.outDataRead size }, s.outDataRead.1.take size)
  else
    let r := takeSegments s.outQueue (size - s.outDataRead.1.length)
    if r.remSize = 0 then
      ({ s with outDataRead := r.outDataRead, outQueue := r.outQueue }, s.outDataRead.1 ++ r.dta)
    else
      ({ s with
          outDataRead := dropFront s.outDataNet r.remSize
          outDataNet := .empty
          outQueue := r.outQueue },
        s.outDataRead.1 ++ r.dta ++ s.outDataNet.1.take r.remSize)

/-- `read`, with what it returns and the bytes that it copies.  When `int_read_pending` is negative
it drops `outDataRead` and returns this number. -/
def read (size : Nat) : TcpStream × Int × List UInt8 :=
  if s.state = .closed then ({ s with errorState := .ebadf }, -1, [])
  else if s.state.num < TcpState.established.num then ({ s with errorState := .eagain }, -1, [])
  else if !s.inStreamActive && s.int_read_pending == 0 then (s, 0, [])
  else if s.int_read_pending = 0 then ({ s with errorState := .eagain }, -1, [])
  else if s.int_read_pending < 0 then
    (({ s with outDataRead := .empty } : TcpStream).UpdateInWinSize, s.int_read_pending,
      s.outDataRead.1)
  else
    let size := min size s.int_read_pending.toNat
    ((s.readData size).1.UpdateInWinSize, size, (s.readData size).2)

/-! ### Receiving -/

/-- The `dataBuffer`s that the data of a packet fills behind `outDataNet`, with what `outDataNet` is
after it.  Of data that takes more than one `dataBuffer` beside what is there, the loop copies the
first `MAX_SEG` bytes into each. -/
def pushData (outDataNet : Partial) (pkt : TcpPacket) : List DataBuffer × Partial :=
  if h : outDataNet.1.length + pkt.datasize < maxSeg then
    ([], ⟨outDataNet.1 ++ pkt.data, List.length_append ▸ h⟩)
  else
    let remSpace := maxSeg - outDataNet.1.length
    let remData := pkt.datasize - remSpace
    (fillUp outDataNet pkt.data h ::
        if h : maxSeg ≤ (pkt.data.drop remSpace).length then
          .replicate (remData / maxSeg)
            ⟨(pkt.data.drop remSpace).take maxSeg, List.length_take_of_le h⟩
        else [],
      ⟨pkt.data.drop (pkt.datasize - remData % maxSeg), by
        have hmod : remData % maxSeg < maxSeg := Nat.mod_lt _ (Nat.succ_pos _)
        rw [List.length_drop]
        change pkt.data.length - (pkt.data.length - remData % maxSeg) < maxSeg
        omega⟩)

/-- The stream with the data of a packet. -/
def queueData (pkt : TcpPacket) : TcpStream :=
  { s with
    outQueue := s.outQueue ++ (pushData s.outDataNet pkt).1
    outDataNet := (pushData s.outDataNet pkt).2 }

/-- The acknowledgement of a packet, when it had not been used. -/
def useAck (pkt : TcpPacket) : TcpStream :=
  let unused := pkt.hasAck && isOldSequence s.outAcked pkt.ackno
  { s with
    outAcked := if unused then pkt.ackno else s.outAcked
    outWinSize := if unused then pkt.winsize.toUInt32 else s.outWinSize }

/-- What a packet with the FIN flag does. -/
def takeFin (pkt : TcpPacket) : TcpStream :=
  if pkt.hasFin then
    let s := { s.sendAck with inStreamActive := false }
    match s.state with
    | .established => s.enter .closeWait .closeWaitFin
    | .finWait1 => s.enter .closing .closingFin
    | .finWait2 => (s.enter .timedWait .timedWaitFin).cleanup
    | _ => s
  else s

/-- What an acknowledgement of all that was sent does after the end of the stream. -/
def takeFinAck (pkt : TcpPacket) : TcpStream :=
  if pkt.hasAck && !s.outStreamActive && pkt.ackno == s.outSeqno then
    match s.state with
    | .finWait1 => s.enter .finWait2 .finWait2Ack
    | .lastAck => (s.enter .closed .closedAck).cleanup
    | .closing => (s.enter .timedWait .timedWaitAck).cleanup
    | _ => s
  else s

/-- What the body of `check_InPkts` does with the acknowledgement and the data of a packet. -/
def absorb (pkt : TcpPacket) : TcpStream :=
  let s := { s with inAckno := pkt.seqno + UInt32.ofNat pkt.datasize }
  ((s.useAck pkt).queueData pkt).UpdateInWinSize

/-- The body of `check_InPkts`, for the packet that is next in order. -/
def takePkt (pkt : TcpPacket) : TcpStream :=
  ((s.absorb pkt).takeFin pkt).takeFinAck pkt

/-- The inner loop of `check_InPkts`: the packet that is next in order, and the packets without it
and the old ones before it. -/
def findPkt (inAckno : UInt32) : List TcpPacket → Option TcpPacket × List TcpPacket
  | [] => (none, [])
  | pkt :: pkts =>
      if pkt.seqno = inAckno then (some pkt, pkts)
      else if isOldSequence pkt.seqno inAckno then findPkt inAckno pkts
      else ((findPkt inAckno pkts).1, pkt :: (findPkt inAckno pkts).2)

/-- The packet that is next in order, with the stream without it. -/
def nextPkt : Option TcpPacket × TcpStream :=
  let r := findPkt s.inAckno s.inPkt
  (r.1, { s with inPkt := r.2 })

/-- At most `n` rounds of the loop of `check_InPkts`. -/
def takePkts : Nat → TcpStream → TcpStream
  | 0, s => s
  | n + 1, s =>
      match s.nextPkt with
      | (none, s) => s
      | (some pkt, s) => takePkts n (s.takePkt pkt)

/-- `check_InPkts`.  Every round takes a packet from `inPkt`, and none adds one. -/
def check_InPkts : TcpStream := takePkts s.inPkt.length s

/-- What `incoming_Established` does before it uses the packets. -/
def queuePkt (pkt : TcpPacket) : TcpStream :=
  let s :=
    if !isOldSequence pkt.seqno s.inAckno && isOldSequence pkt.seqno (s.inAckno + tcpMaxWin) then
      { s with
        outAcked := if pkt.hasAck then pkt.ackno else s.outAcked
        outWinSize := pkt.winsize.toUInt32 }
    else s.sendAck
  let inPkt := s.inPkt ++ [pkt]
  { s with inPkt := if kMaxQueueSize < inPkt.length then inPkt.tail else inPkt }

/-- `incoming_Established`. -/
def incoming_Established (pkt : TcpPacket) : TcpStream :=
  (s.queuePkt pkt).check_InPkts

/-- `incoming_Closed`, with the number that `genSequenceNo` gives. -/
def incoming_Closed (pkt : TcpPacket) (rand : UInt32) : TcpStream :=
  if pkt.hasSyn && !pkt.hasAck then
    let s := { s with
      initPeerSeqno := pkt.seqno
      inAckno := pkt.seqno + 1
      outWinSize := pkt.winsize.toUInt32
      inWinSize := tcpMaxWin }
    if s.state = .closed then
      let s := { s with
        outSeqno := rand
        initOurSeqno := rand
        outAcked := rand
        congestThreshold := tcpMaxWin
        congestWinSize := .ofNat maxSeg
        congestUpdate := rand + UInt32.ofNat maxSeg }
      (s.toSend ((TcpPacket.setSyn {}).setAck s.inAckno)).enter .synRcvd .synRcvdSyn
    else (s.toSend (TcpPacket.setAck {} s.inAckno)).enter .synRcvd .synRcvdSyn
  else s

/-- `incoming_SynSent`. -/
def incoming_SynSent (pkt : TcpPacket) (rand : UInt32) : TcpStream :=
  if pkt.hasSyn && pkt.hasAck then
    if pkt.ackno ≠ s.outSeqno then s
    else
      let s := { s with
        initPeerSeqno := pkt.seqno
        inAckno := pkt.seqno + 1
        outWinSize := pkt.winsize.toUInt32
        outAcked := pkt.ackno }
      ({ s.sendAck with outStreamActive := true, inStreamActive := true } : TcpStream).enter
        .established .establishedSynAck
  else s.incoming_Closed pkt rand

/-- The stream once the acknowledgement of its SYN has come. -/
def complete (pkt : TcpPacket) : TcpStream :=
  ({ s with
    inAckno := pkt.seqno
    outWinSize := pkt.winsize.toUInt32
    outAcked := pkt.ackno
    outStreamActive := true
    inStreamActive := true } : TcpStream).enter .established .establishedAck

/-- `incoming_SynRcvd`. -/
def incoming_SynRcvd (pkt : TcpPacket) : TcpStream :=
  if pkt.hasRst then s.enter .closed .closedRst
  else if !pkt.hasAck then s
  else if pkt.ackno ≠ s.outSeqno then s
  else if pkt.data = [] then s.complete pkt
  else (s.complete pkt).incoming_Established pkt

/-- `handleIncoming`. -/
def handleIncoming (pkt : TcpPacket) (rand : UInt32) : TcpStream :=
  match s.state with
  | .closed | .listen => s.incoming_Closed pkt rand
  | .synSent => s.incoming_SynSent pkt rand
  | .synRcvd => s.incoming_SynRcvd pkt
  | .timedWait => s.enter .closed .closedTimedWait
  | _ => s.incoming_Established pkt

/-- `recvPkt`. -/
def recvPkt (data : List UInt8) (rand : UInt32) : TcpStream :=
  match TcpPacket.readPacket data with
  | none => s
  | some pkt => s.handleIncoming pkt rand

/-! ### Opening and closing -/

/-- `connect`, with the number that `genSequenceNo` gives. -/
def connect (rand : UInt32) : TcpStream × Int :=
  let s := { s with peerKnown := true }
  if s.state ≠ .closed then
    if s.state = .established then (s, 0)
    else if s.state.num < TcpState.established.num then ({ s with errorState := .eagain }, -1)
    else ({ s with errorState := .efault }, -1)
  else
    let s := { s with
      outSeqno := rand
      initOurSeqno := rand
      outAcked := rand
      inWinSize := tcpMaxWin
      congestThreshold := tcpMaxWin
      congestWinSize := .ofNat maxSeg
      congestUpdate := rand + UInt32.ofNat maxSeg }
    ({ (s.toSend (TcpPacket.setSyn {})).enter .synSent .synSentConnect with
      errorState := .eagain }, -1)

/-- `listenfor`. -/
def listenfor : TcpStream × Int :=
  let s := { s with peerKnown := true }
  if s.state = .established then (s, 0)
  else if TcpState.established.num < s.state.num then ({ s with errorState := .efault }, -1)
  else ({ s with errorState := .eagain }, -1)

/-- `closeWrite`. -/
def closeWrite : TcpStream × Int :=
  let s := { s with outStreamActive := false }
  if s.state = .closed then (s, 0) else ({ s with errorState := .eagain }, -1)

/-- `close`. -/
def close : TcpStream × Int := (s.cleanup, 0)

end TcpStream

end TcpOnUdp
