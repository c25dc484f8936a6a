import Mathlib.Tactic.NormNum
import RetroShare.TcpOnUdp.TcpStream

/-!
# The steps of a stream

What the parts of a call of a `TcpStream` leave alone, what a tick does (`tick_cases`), and the rule
for the loop of `check_InPkts` (`takePkts_of_step`): what holds before every round in which a packet
is taken, and is kept by it, holds after the loop.
-/

namespace TcpOnUdp

/-- The bytes that have been accepted and wait to be read. -/
def Connection.unread (c : Connection) : List UInt8 :=
  c.outDataRead.1 ++ (c.outQueue.map Subtype.val).flatten ++ c.outDataNet.1

/-- The connection is established, and not closed. -/
def Connection.Live (c : Connection) : Prop := TcpState.established.num ≤ c.state.num

instance (c : Connection) : Decidable c.Live := inferInstanceAs (Decidable (_ ≤ _))

/-- The connection with other data that waits to be sent. -/
def Connection.input (c : Connection) (inQueue : List DataBuffer) (inData : Partial) : Connection :=
  { c with inQueue := inQueue, inData := inData }

/-- The connection in another state, with a line of the log. -/
def Connection.moveTo (c : Connection) (state : TcpState) (line : StateLog) : Connection :=
  { c with state := state, rslog := c.rslog ++ [line] }

/-- The state after the FIN of the peer, where the stream is not shut down. -/
def TcpState.afterFin : TcpState → TcpState
  | .established => .closeWait
  | .finWait1 => .closing
  | state => state

/-- The connection after the FIN of the peer, with some lines of the log. -/
def Connection.afterFin (c : Connection) (rslog : List StateLog) : Connection :=
  { c with inStreamActive := false, state := c.state.afterFin, rslog := c.rslog ++ rslog }

namespace TcpStream

variable (s : TcpStream) (pkt : TcpPacket) (clock : Clock) (retrans : Bool) (size : Nat)

/-! ### Sending -/

@[simp]
theorem toConnection_toSend :
  (s.toSend pkt retrans).toConnection = s.toConnection
  := by
  rw [toSend]
  split <;> rfl

@[simp]
theorem toConnection_sendAck :
  s.sendAck.toConnection = s.toConnection
  := s.toConnection_toSend {} false

@[simp]
theorem unread_toSend :
  (s.toSend pkt retrans).unread = s.unread
  := congrArg Connection.unread (s.toConnection_toSend pkt retrans)

@[simp]
theorem inPkt_toSend :
  (s.toSend pkt retrans).inPkt = s.inPkt
  := congrArg Connection.inPkt (s.toConnection_toSend pkt retrans)

@[simp]
theorem state_toSend :
  (s.toSend pkt retrans).state = s.state
  := congrArg Connection.state (s.toConnection_toSend pkt retrans)

@[simp]
theorem inStreamActive_toSend :
  (s.toSend pkt retrans).inStreamActive = s.inStreamActive
  := congrArg Connection.inStreamActive (s.toConnection_toSend pkt retrans)

@[simp]
theorem rslog_toSend :
  (s.toSend pkt retrans).rslog = s.rslog
  := congrArg Connection.rslog (s.toConnection_toSend pkt retrans)

@[simp]
theorem toConnection_widen :
  s.widen.toConnection = s.toConnection
  := by
  rw [widen]
  split <;> rfl

@[simp]
theorem toConnection_acknowledgePkts (pkts : List TcpPacket) :
  (acknowledgePkts pkts s).toConnection = s.toConnection
  := by
  induction pkts generalizing s with
  | nil => rfl
  | cons pkt pkts ih =>
    rw [acknowledgePkts]
    split
    · rw [ih, toConnection_widen]
    · rfl

@[simp]
theorem toConnection_acknowledge :
  s.acknowledge.toConnection = s.toConnection
  := s.toConnection_acknowledgePkts s.outPkt

/-- The packet that is due to be sent again has been sent too often. -/
def gaveUp : Bool :=
  s.peerKnown && s.retransTimerOn && clock.retrans && s.outPkt.head?.any tooMany

theorem retrans_cases :
  (s.gaveUp clock ∧
      ∃ pkt, s.retrans clock = ((s.slowDown pkt).log .closedRetransmits).cleanup) ∨
    (s.gaveUp clock = false ∧ (s.retrans clock).toConnection = s.toConnection)
  := by
  rw [retrans, gaveUp]
  cases s.peerKnown with
  | false => exact .inr ⟨rfl, rfl⟩
  | true =>
    cases s.retransTimerOn with
    | false => exact .inr ⟨rfl, rfl⟩
    | true =>
      cases clock.retrans with
      | false => exact .inr ⟨rfl, rfl⟩
      | true =>
        cases s.outPkt with
        | nil => exact .inr ⟨rfl, rfl⟩
        | cons pkt pkts =>
          by_cases htoo : tooMany pkt
          · left
            simp only [Bool.not_true, Bool.false_eq_true, if_false, htoo, if_true]
            exact ⟨by simp [htoo], pkt, rfl⟩
          · right
            simp [htoo, slowDown]

/-- The segments that are sent leave `inQueue`. -/
theorem sendSegments_cases (inQueue : List DataBuffer) (maxsend : UInt32) :
  ∃ inQueue', (sendSegments inQueue maxsend s).1.toConnection = s.input inQueue' s.inData
  := by
  induction inQueue generalizing s maxsend with
  | nil => exact ⟨s.inQueue, rfl⟩
  | cons db inQueue ih =>
    rw [sendSegments]
    split
    · obtain ⟨inQueue', h⟩ :=
        ih (({ s with inQueue } : TcpStream).toSend (.new db.1)) (maxsend - .ofNat maxSeg)
      rw [toConnection_toSend] at h
      exact ⟨inQueue', h⟩
    · exact ⟨s.inQueue, rfl⟩

/-- The FIN is sent, and `line` written, on the way to `state`. -/
def EndsStream (state : TcpState) (line : StateLog) : Prop :=
  (s.state = .established ∧ state = .finWait1 ∧ line = .finWait1EndOfStream) ∨
    (s.state = .closeWait ∧ state = .lastAck ∧ line = .lastAckEndOfStream)

theorem sendControl_cases :
  (s.sendControl clock).toConnection = s.toConnection ∨
    ∃ state line, s.EndsStream state line ∧ (s.sendControl clock).toConnection = s.moveTo state line
  := by
  have hlast : ∀ state line,
      ((s.toSend (TcpPacket.setFin {}) false).enter state line).toConnection =
        s.moveTo state line := by
    intro state line
    have h := s.toConnection_toSend (TcpPacket.setFin {}) false
    simp only [enter, log, Connection.moveTo, h]
  rw [sendControl]
  simp only []
  split
  case isTrue hfin =>
    right
    simp only [Bool.and_eq_true, Bool.or_eq_true, beq_iff_eq] at hfin
    split
    case isTrue hest => exact ⟨_, _, .inl ⟨hest, rfl, rfl⟩, hlast _ _⟩
    case isFalse hest =>
      exact ⟨_, _, .inr ⟨hfin.2.resolve_left hest, rfl, rfl⟩, hlast _ _⟩
  case isFalse =>
    left
    split
    · exact s.toConnection_sendAck
    · rfl

theorem sendData_cases :
  (∃ inQueue inData, (s.sendData clock).toConnection = s.input inQueue inData) ∨
    ∃ state line, s.EndsStream state line ∧ ∃ inQueue,
      (s.sendData clock).toConnection = (s.input inQueue s.inData).moveTo state line
  := by
  obtain ⟨inQueue, hsent⟩ := s.sendSegments_cases s.inQueue s.maxsend
  rw [sendData]
  simp only []
  split
  case isTrue => exact .inl ⟨inQueue, s.inData, hsent⟩
  case isFalse =>
    split
    case isTrue =>
      left
      use inQueue, .empty
      rw [toConnection_toSend, hsent]
      rfl
    case isFalse =>
      generalize (sendSegments s.inQueue s.maxsend s).1 = s' at hsent
      have hstate : s'.state = s.state := by
        rw [hsent]
        rfl
      rcases s'.sendControl_cases clock with h | ⟨state, line, hends, h⟩
      · exact .inl ⟨inQueue, s.inData, h.trans hsent⟩
      · right
        use state, line
        rw [EndsStream, hstate] at hends
        refine ⟨hends, inQueue, ?_⟩
        rw [h, hsent]

/-- The stream is shut down at a tick: nothing has come for too long, or no acknowledgement. -/
def timesOut : Bool :=
  (TcpState.synRcvd.num < s.state.num && clock.noPkt) || s.acknowledge.gaveUp clock

@[simp]
theorem outPkt_acknowledge (h : s.outPkt = []) :
  s.acknowledge.outPkt = []
  := by
  rw [acknowledge, h]
  rfl

theorem toConnection_send_cleanup :
  (s.cleanup.send clock).toConnection = s.cleanup.toConnection
  := by
  have hpkts : s.cleanup.acknowledge.outPkt = [] := s.cleanup.outPkt_acknowledge rfl
  have hgave : s.cleanup.acknowledge.gaveUp clock = false := by
    rw [gaveUp, hpkts]
    exact Bool.and_false _
  rw [send]
  rcases s.cleanup.acknowledge.retrans_cases clock with ⟨h, -⟩ | ⟨-, h⟩
  · rw [hgave] at h
    cases h
  · rw [toConnection_acknowledge] at h
    rw [if_pos]
    · exact h
    · rw [congrArg Connection.state h]
      exact Nat.succ_pos _

theorem tick_cases :
  (s.timesOut clock ∧ ∃ line, (line = .closedNoPktTimeout ∨ line = .closedRetransmits) ∧
      (s.tick clock).toConnection = (s.log line).cleanup.toConnection) ∨
    (s.timesOut clock = false ∧ ∃ inQueue inData,
      (s.tick clock).toConnection = s.input inQueue inData) ∨
    (s.timesOut clock = false ∧ ∃ state line, s.EndsStream state line ∧ ∃ inQueue,
      (s.tick clock).toConnection = (s.input inQueue s.inData).moveTo state line)
  := by
  rw [tick, recv_check, timesOut]
  by_cases hno : TcpState.synRcvd.num < s.state.num ∧ clock.noPkt
  · left
    rw [if_pos hno, toConnection_send_cleanup]
    exact ⟨by simp [hno], _, .inl rfl, rfl⟩
  · have hno' : (decide (TcpState.synRcvd.num < s.state.num) && clock.noPkt) = false := by
      simpa using hno
    rw [if_neg hno, hno', Bool.false_or, send]
    rcases s.acknowledge.retrans_cases clock with ⟨hgave, pkt, h⟩ | ⟨hgave, h⟩
    · left
      refine ⟨hgave, _, .inr rfl, ?_⟩
      rw [h, if_pos]
      · simp [cleanup, log, slowDown]
      · exact Nat.succ_pos _
    · right
      rw [toConnection_acknowledge] at h
      have hstate : (s.acknowledge.retrans clock).state = s.state := congrArg Connection.state h
      generalize s.acknowledge.retrans clock = s' at h hstate
      split
      · exact .inl ⟨hgave, s.inQueue, s.inData, h⟩
      · rcases s'.sendData_cases clock with ⟨inQueue, inData, h'⟩ |
          ⟨state, line, hends, inQueue, h'⟩
        · left
          refine ⟨hgave, inQueue, inData, ?_⟩
          rw [h', h]
        · right
          rw [EndsStream, hstate] at hends
          refine ⟨hgave, state, line, hends, inQueue, ?_⟩
          rw [h', h]

theorem not_live_cleanup :
  ¬ s.cleanup.Live
  := by
  change ¬ TcpState.established.num ≤ TcpState.closed.num
  decide

/-! ### Taking packets -/

/-- The bytes that `queueData` appends. -/
def appended : List UInt8 := (s.queueData pkt).unread.drop s.unread.length

theorem val_fillUp (front : Partial) (data : List UInt8)
    (h : ¬ front.1.length + data.length < maxSeg) :
  (fillUp front data h).1 = front.1 ++ data.take (maxSeg - front.1.length)
  := rfl

theorem unread_prefix_queueData :
  s.unread <+: (s.queueData pkt).unread
  := by
  rw [queueData, pushData]
  split
  case isTrue h =>
    simp only [Connection.unread, List.append_nil, ← List.append_assoc]
    exact List.prefix_append _ _
  case isFalse h =>
    simp only [Connection.unread, List.map_append, List.map_cons, List.flatten_append,
      List.flatten_cons, val_fillUp, List.append_assoc]
    rw [List.prefix_append_right_inj, List.prefix_append_right_inj]
    exact List.prefix_append _ _

theorem unread_queueData :
  (s.queueData pkt).unread = s.unread ++ s.appended pkt
  := (List.prefix_iff_eq_append.mp (s.unread_prefix_queueData pkt)).symm

/-- Of a packet that fits a `dataBuffer`, all data is appended. -/
theorem appended_of_le (h : pkt.datasize ≤ maxSeg) :
  s.appended pkt = pkt.data
  := by
  have hunread : (s.queueData pkt).unread = s.unread ++ pkt.data := by
    rw [queueData, pushData]
    split
    case isTrue => simp only [Connection.unread, List.append_nil, List.append_assoc]
    case isFalse hfull =>
      have hnet := s.outDataNet.2
      have hrem : pkt.datasize - (maxSeg - s.outDataNet.1.length) < maxSeg := by omega
      have hfits : pkt.datasize - (pkt.datasize - (maxSeg - s.outDataNet.1.length)) =
          maxSeg - s.outDataNet.1.length := by omega
      have hnone : ¬ maxSeg ≤ (pkt.data.drop (maxSeg - s.outDataNet.1.length)).length := by
        rw [List.length_drop]
        exact Nat.not_le.mpr hrem
      simp only [dif_neg hnone, Nat.mod_eq_of_lt hrem, hfits, Connection.unread, List.map_append,
        List.map_cons, List.map_nil, List.flatten_append, List.flatten_cons, List.flatten_nil,
        val_fillUp, List.append_assoc, List.nil_append, List.take_append_drop]
  rw [appended, hunread, List.drop_left]

@[simp]
theorem unread_absorb :
  (s.absorb pkt).unread = s.unread ++ s.appended pkt
  := s.unread_queueData pkt

@[simp]
theorem outSeqno_sendAck :
  s.sendAck.outSeqno = s.outSeqno
  := by
  have hsyn : ({} : TcpPacket).hasSyn = false := rfl
  rw [sendAck, toSend]
  split
  · simp [hsyn, TcpPacket.datasize]
  · rfl

/-- A packet acknowledges all that was sent, the writer having finished. -/
def acksAll : Bool := pkt.hasAck && !s.outStreamActive && pkt.ackno == s.outSeqno

/-- A packet is taken for the acknowledgement of the FIN. -/
def acksFin : Bool :=
  s.acksAll pkt && (s.state == .finWait1 || s.state == .lastAck || s.state == .closing)

/-- The round that takes a packet shuts the stream down. -/
def finishes : Bool :=
  (pkt.hasFin && s.state == .finWait2) ||
    (s.acksAll pkt &&
      (s.state == .lastAck || s.state == .closing || (s.state == .finWait1 && pkt.hasFin)))

/-- A FIN shuts the stream down in `FIN_WAIT_2`; elsewhere it keeps what has been accepted. -/
theorem takeFin_cases (h : pkt.hasFin) :
  (s.state = .finWait2 ∧
      ∃ s', s.takeFin pkt = cleanup s' ∧ s'.rslog = s.rslog ++ [.timedWaitFin]) ∨
    (s.state ≠ .finWait2 ∧ (s.takeFin pkt).outSeqno = s.outSeqno ∧
      ∃ rslog, (∀ line ∈ rslog, line = .closeWaitFin ∨ line = .closingFin) ∧
        (s.takeFin pkt).toConnection = s.afterFin rslog)
  := by
  have hsent := s.toConnection_sendAck
  have hstate : s.sendAck.state = s.state := congrArg Connection.state hsent
  have hlog : s.sendAck.rslog = s.rslog := congrArg Connection.rslog hsent
  rw [takeFin, if_pos h]
  simp only [hstate]
  cases hs : s.state
  case established =>
    right
    refine ⟨TcpState.noConfusion, s.outSeqno_sendAck, [.closeWaitFin], by simp, ?_⟩
    simp only [enter, log, Connection.afterFin, hs, TcpState.afterFin, hsent]
  case finWait1 =>
    right
    refine ⟨TcpState.noConfusion, s.outSeqno_sendAck, [.closingFin], by simp, ?_⟩
    simp only [enter, log, Connection.afterFin, hs, TcpState.afterFin, hsent]
  case finWait2 =>
    left
    refine ⟨rfl, _, rfl, ?_⟩
    simp only [enter, log, hlog]
  all_goals
    right
    refine ⟨TcpState.noConfusion, s.outSeqno_sendAck, [], by simp, ?_⟩
    simp only [Connection.afterFin, hs, TcpState.afterFin, hsent, List.append_nil]

theorem acksFin_takeFin :
  (s.takeFin pkt).acksFin pkt = s.acksFin pkt
  := by
  by_cases hfin : pkt.hasFin
  · rcases s.takeFin_cases pkt hfin with ⟨hstate, s', heq, -⟩ | ⟨hstate, hout, rslog, -, heq⟩
    · have hclosed : (s.takeFin pkt).state = .closed := by
        rw [heq]
        rfl
      rw [acksFin, acksFin, hclosed, hstate]
      exact (Bool.and_false _).trans (Bool.and_false _).symm
    · rw [acksFin, acksFin, acksAll, acksAll, hout, heq]
      simp only [Connection.afterFin]
      cases s.state <;> rfl
  · rw [takeFin, if_neg hfin]

theorem takeFinAck_of_not (h : s.acksFin pkt = false) :
  s.takeFinAck pkt = s
  := by
  rw [takeFinAck]
  split
  case isTrue hall =>
    rw [acksFin, acksAll, hall] at h
    cases hs : s.state <;> rw [hs] at h <;> first | rfl | cases h
  case isFalse => rfl

theorem takeFinAck_cases (h : s.acksFin pkt) :
  (s.state = .finWait1 ∧ s.takeFinAck pkt = s.enter .finWait2 .finWait2Ack) ∨
    ((s.state = .lastAck ∨ s.state = .closing) ∧
      ∃ s' line, s.takeFinAck pkt = cleanup s' ∧ s'.rslog = s.rslog ++ [line] ∧
        (line = .closedAck ∨ line = .timedWaitAck))
  := by
  rw [acksFin, Bool.and_eq_true, acksAll] at h
  rw [takeFinAck, if_pos h.1]
  cases hs : s.state
  case finWait1 => exact .inl ⟨rfl, rfl⟩
  case lastAck => exact .inr ⟨.inl rfl, _, _, rfl, rfl, .inl rfl⟩
  case closing => exact .inr ⟨.inr rfl, _, _, rfl, rfl, .inr rfl⟩
  all_goals
    rw [hs] at h
    cases h.2

theorem acksFin_absorb :
  (s.absorb pkt).acksFin pkt = s.acksFin pkt
  := rfl

theorem state_takeFin (h : s.state ≠ .finWait2) :
  (s.takeFin pkt).state = if pkt.hasFin then s.state.afterFin else s.state
  := by
  split
  case isTrue hfin =>
    rcases s.takeFin_cases pkt hfin with ⟨hstate, -⟩ | ⟨-, -, rslog, -, heq⟩
    · exact absurd hstate h
    · rw [heq]
      rfl
  case isFalse hfin => rw [takeFin, if_neg hfin]

theorem takePkt_of_not_acksFin (h : s.acksFin pkt = false) :
  s.takePkt pkt = (s.absorb pkt).takeFin pkt
  := by
  apply takeFinAck_of_not
  rw [acksFin_takeFin, acksFin_absorb, h]

theorem takePkt_of_finishes (h : s.finishes pkt) :
  ∃ s', s.takePkt pkt = cleanup s'
  := by
  have hstate : (s.absorb pkt).state = s.state := rfl
  rw [finishes, Bool.or_eq_true] at h
  rcases h with hfin | hack
  · obtain ⟨hfin, h2⟩ := by simpa using hfin
    have hnot : s.acksFin pkt = false := by
      rw [acksFin, h2]
      exact Bool.and_false _
    rw [s.takePkt_of_not_acksFin pkt hnot]
    rcases (s.absorb pkt).takeFin_cases pkt hfin with ⟨-, s', heq, -⟩ | ⟨hne, -⟩
    · exact ⟨s', heq⟩
    · exact absurd h2 hne
  · obtain ⟨hall, hwaits⟩ := by simpa using hack
    have hack' : ((s.absorb pkt).takeFin pkt).acksFin pkt := by
      rw [acksFin_takeFin, acksFin_absorb, acksFin, hall]
      rcases hwaits with (h | h) | h <;> simp [h]
    have hnot : (s.absorb pkt).state ≠ .finWait2 := by
      rw [hstate]
      rcases hwaits with (h | h) | ⟨h, -⟩ <;> rw [h] <;> exact TcpState.noConfusion
    rcases takeFinAck_cases _ pkt hack' with ⟨h1, -⟩ | ⟨-, s', -, heq, -⟩
    · rw [state_takeFin _ pkt hnot, hstate] at h1
      rcases hwaits with (h | h) | ⟨h, hfin⟩
      · rw [h] at h1
        split at h1 <;> cases h1
      · rw [h] at h1
        split at h1 <;> cases h1
      · rw [h, if_pos hfin] at h1
        cases h1
    · exact ⟨s', heq⟩

/-- The round of any other packet keeps what has been accepted. -/
theorem takePkt_of_not (h : s.finishes pkt = false) :
  (s.takePkt pkt).unread = s.unread ++ s.appended pkt ∧ (s.takePkt pkt).inPkt = s.inPkt ∧
    ((s.takePkt pkt).state = (if pkt.hasFin then s.state.afterFin else s.state) ∨
      (s.state = .finWait1 ∧ (s.takePkt pkt).state = .finWait2))
  := by
  have hstate : (s.absorb pkt).state = s.state := rfl
  rw [finishes, Bool.or_eq_false_iff] at h
  cases hack : s.acksFin pkt with
  | false =>
    rw [s.takePkt_of_not_acksFin pkt hack]
    by_cases hfin : pkt.hasFin
    · rcases (s.absorb pkt).takeFin_cases pkt hfin with ⟨h2, -⟩ | ⟨h2, -, rslog, -, heq⟩
      · rw [hstate] at h2
        simp [hfin, h2] at h
      · rw [heq, if_pos hfin]
        exact ⟨s.unread_absorb pkt, rfl, .inl rfl⟩
    · rw [takeFin, if_neg hfin, if_neg hfin]
      exact ⟨s.unread_absorb pkt, rfl, .inl rfl⟩
  | true =>
    have hack' : (s.absorb pkt).acksFin pkt := hack
    rw [acksFin, Bool.and_eq_true] at hack
    obtain ⟨hall, hwaits⟩ := hack
    simp only [hall, Bool.true_and, Bool.or_eq_false_iff, beq_eq_false_iff_ne] at h
    have h1 : s.state = .finWait1 := by simpa [h.2.1.1, h.2.1.2] using hwaits
    have hfin : pkt.hasFin = false := by simpa [h1] using h.2.2
    rw [takePkt, takeFin, if_neg (Bool.not_eq_true _ ▸ hfin)]
    rcases (s.absorb pkt).takeFinAck_cases pkt hack' with ⟨-, heq⟩ | ⟨hne, -⟩
    · rw [heq]
      exact ⟨s.unread_absorb pkt, rfl, .inr ⟨h1, rfl⟩⟩
    · rw [hstate, h1] at hne
      rcases hne with hne | hne <;> cases hne

/-! ### The loop of `check_InPkts` -/

theorem nextPkt_of_nil (h : s.inPkt = []) :
  s.nextPkt.1 = none
  := by
  rw [nextPkt, h]
  rfl

/-- The packets that at most `n` rounds take, each with the stream before it. -/
def rounds : Nat → TcpStream → List (TcpStream × TcpPacket)
  | 0, _ => []
  | n + 1, s =>
      match s.nextPkt with
      | (none, _) => []
      | (some pkt, s) => (s, pkt) :: rounds n (s.takePkt pkt)

/-- What holds before every round in which a packet is taken, and is kept by it, holds after the
loop. -/
theorem takePkts_of_step {P : TcpStream → Prop} {C : TcpStream → TcpPacket → Prop}
    (hdrop : ∀ (s : TcpStream) inPkt, P s → P { s with inPkt := inPkt })
    (hstep : ∀ s pkt, P s → C s pkt → P (s.takePkt pkt)) {n : Nat} {s : TcpStream} (hs : P s)
    (hC : ∀ r ∈ rounds n s, C r.1 r.2) :
  P (takePkts n s)
  := by
  induction n generalizing s with
  | zero => exact hs
  | succ n ih =>
    have hnext : P s.nextPkt.2 := hdrop s _ hs
    rw [rounds] at hC
    rw [takePkts]
    cases h : s.nextPkt with
    | mk pkt s' =>
      rw [h] at hnext hC
      cases pkt with
      | none => exact hnext
      | some pkt =>
        rw [List.forall_mem_cons] at hC
        exact ih (hstep s' pkt hnext hC.1) hC.2

/-! ### Reading -/

/-- What is in some `dataBuffer`s. -/
def bytesOf (segments : List DataBuffer) : List UInt8 := (segments.map Subtype.val).flatten

theorem length_bytesOf (segments : List DataBuffer) :
  (bytesOf segments).length = segments.length * maxSeg
  := by
  rw [bytesOf, List.length_flatten, List.map_map]
  have hconst : segments.map (List.length ∘ Subtype.val) = segments.map fun _ => maxSeg := by
    apply List.map_congr_left
    rintro db -
    exact db.2
  rw [hconst, List.map_const', List.sum_replicate_nat]

theorem length_unread :
  s.unread.length = s.pending
  := by
  have h := length_bytesOf s.outQueue
  rw [bytesOf] at h
  rw [Connection.unread, pending, List.length_append, List.length_append, h]

/-- What the loop over `outQueue` takes, and what it leaves. -/
theorem takeSegments_spec (outQueue : List DataBuffer) (remSize : Nat) :
  let r := takeSegments outQueue remSize
  r.dta = (bytesOf outQueue).take remSize ∧
    r.outDataRead.1 ++ bytesOf r.outQueue = (bytesOf outQueue).drop remSize ∧
    r.remSize = remSize - (bytesOf outQueue).length
  := by
  induction outQueue generalizing remSize with
  | nil =>
    simp [takeSegments, bytesOf, Partial.empty]
  | cons db outQueue ih =>
    have hcons : bytesOf (db :: outQueue) = db.1 ++ bytesOf outQueue := rfl
    have hdb := db.2
    rw [takeSegments]
    split
    case isTrue h0 =>
      simp [h0, Partial.empty]
    case isFalse h0 =>
      split
      case isTrue hlt =>
        have hle : remSize ≤ db.1.length := by omega
        simp only [hcons, List.take_append_of_le_length hle, List.drop_append_of_le_length hle,
          List.length_append, true_and]
        omega
      case isFalse hge =>
        obtain ⟨hdta, hrest, hrem⟩ := ih (remSize - maxSeg)
        have hle : db.1.length ≤ remSize := by omega
        simp only [hcons, List.take_append, List.drop_append, List.take_of_length_le hle,
          List.drop_eq_nil_of_le hle, hdb, hdta, hrest, hrem, List.length_append, List.nil_append,
          true_and]
        omega

theorem readData_spec :
  (s.readData size).2 = s.unread.take size ∧ (s.readData size).1.unread = s.unread.drop size
  := by
  have hunread : s.unread = s.outDataRead.1 ++ (bytesOf s.outQueue ++ s.outDataNet.1) :=
    List.append_assoc _ _ _
  rw [hunread, readData]
  split
  case isTrue hlt =>
    have hle : size ≤ s.outDataRead.1.length := Nat.le_of_lt hlt
    rw [List.take_append_of_le_length hle, List.drop_append_of_le_length hle]
    exact ⟨rfl, List.append_assoc _ _ _⟩
  case isFalse hge =>
    have hle : s.outDataRead.1.length ≤ size := Nat.not_lt.mp hge
    rw [List.take_append, List.take_of_length_le hle, List.drop_append, List.drop_eq_nil_of_le hle,
      List.nil_append]
    generalize hrem : size - s.outDataRead.1.length = remSize
    obtain ⟨hdta, hrest, hleft⟩ := takeSegments_spec s.outQueue remSize
    generalize takeSegments s.outQueue remSize = r at hdta hrest hleft
    simp only []
    split
    case isTrue h0 =>
      have hfits : remSize ≤ (bytesOf s.outQueue).length := by omega
      rw [List.take_append_of_le_length hfits, List.drop_append_of_le_length hfits, hdta, ← hrest]
      exact ⟨rfl, rfl⟩
    case isFalse h0 =>
      have hmore : (bytesOf s.outQueue).length ≤ remSize := by omega
      rw [List.drop_eq_nil_of_le hmore, List.append_eq_nil_iff] at hrest
      rw [List.take_append, List.take_of_length_le hmore, List.drop_append,
        List.drop_eq_nil_of_le hmore, hdta, hleft, List.take_of_length_le hmore, List.nil_append,
        List.append_assoc]
      refine ⟨rfl, ?_⟩
      have hempty : bytesOf r.outQueue = [] := hrest.2
      change s.outDataNet.1.drop (remSize - (bytesOf s.outQueue).length) ++ bytesOf r.outQueue ++
        [] = _
      rw [hempty, List.append_nil, List.append_nil]

theorem bmod_of_lt {n : Nat} (h : n < 2 ^ 31) :
  Int.bmod n (2 ^ 32) = n
  := by
  apply Int.bmod_eq_of_le
  · have hge : (0 : Int) ≤ n := Int.natCast_nonneg _
    exact le_trans (by decide) hge
  · calc
      (n : Int) < 2 ^ 31 := by exact_mod_cast h
      _ ≤ _ := by norm_num

/-- While the count of the bytes that wait is no more than an `int` holds, it is this count. -/
theorem int_read_pending_eq (h : s.pending < 2 ^ 31) :
  s.int_read_pending = s.pending
  := bmod_of_lt h

theorem int_read_pending_of_nil (h : s.unread = []) :
  s.int_read_pending = 0
  := by
  have hpending : s.pending = 0 := by
    rw [← length_unread, h, List.length_nil]
  rw [int_read_pending_eq, hpending, Nat.cast_zero]
  rw [hpending]
  exact Nat.two_pow_pos 31

theorem readData_eq :
  ∃ outDataRead outDataNet outQueue, (s.readData size).1 =
    { s with outDataRead := outDataRead, outDataNet := outDataNet, outQueue := outQueue }
  := by
  rw [readData]
  split
  · exact ⟨_, _, _, rfl⟩
  · simp only []
    split <;> exact ⟨_, _, _, rfl⟩

theorem state_readData :
  (s.readData size).1.state = s.state
  := by
  obtain ⟨outDataRead, outDataNet, outQueue, h⟩ := s.readData_eq size
  rw [h]

theorem read_of_live (hlive : s.Live) (hpending : s.pending < 2 ^ 31) (hsome : s.unread ≠ []) :
  (s.read size).2.1 = min size s.pending ∧ (s.read size).2.2 = s.unread.take size ∧
    (s.read size).1.unread = s.unread.drop size ∧ (s.read size).1.state = s.state
  := by
  have hint := s.int_read_pending_eq hpending
  have hpos : 0 < s.pending := by
    rw [← length_unread]
    exact List.length_pos_of_ne_nil hsome
  have hclosed : s.state ≠ .closed := by
    intro h
    rw [Connection.Live, h] at hlive
    exact absurd hlive (by decide)
  have hne : (s.pending : Int) ≠ 0 := by omega
  have hnonneg : ¬ (s.pending : Int) < 0 := by omega
  obtain ⟨hdta, hrest⟩ := s.readData_spec (min size s.pending)
  have htake : s.unread.take (min size s.pending) = s.unread.take size := by
    rw [List.take_eq_take_iff, length_unread, Nat.min_assoc, Nat.min_self]
  have hdrop : s.unread.drop (min size s.pending) = s.unread.drop size := by
    rw [← length_unread]
    rcases Nat.le_total size s.unread.length with h | h
    · rw [Nat.min_eq_left h]
    · rw [Nat.min_eq_right h, List.drop_length, List.drop_eq_nil_of_le h]
  rw [read, if_neg hclosed, if_neg (Nat.not_lt.mpr hlive), hint,
    if_neg (by simpa using fun _ => hne), if_neg hne, if_neg hnonneg, Int.toNat_natCast]
  exact ⟨by simp, hdta.trans htake, hrest.trans hdrop, s.state_readData _⟩

theorem read_of_not (h : ¬ s.Live ∨ s.unread = []) :
  (s.read size).2.1 ≤ 0 ∧ ∃ errorState, (s.read size).1 = { s with errorState := errorState }
  := by
  have hminus : (-1 : Int) ≤ 0 := by decide
  rw [read]
  split
  case isTrue => exact ⟨hminus, _, rfl⟩
  case isFalse =>
    split
    case isTrue => exact ⟨hminus, _, rfl⟩
    case isFalse hopen =>
      have hlive : s.Live := Nat.not_lt.mp hopen
      have hunread : s.unread = [] := by
        rcases h with h | h
        · exact absurd hlive h
        · exact h
      rw [if_pos (s.int_read_pending_of_nil hunread)]
      split
      case isTrue => exact ⟨le_refl _, s.errorState, rfl⟩
      case isFalse => exact ⟨hminus, _, rfl⟩

end TcpStream

end TcpOnUdp
