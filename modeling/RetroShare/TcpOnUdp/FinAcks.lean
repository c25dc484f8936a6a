import RetroShare.TcpOnUdp.HalfClose

/-!
# The acknowledgement of a FIN

Two streams that write, read and finish, and a network that loses, repeats and reorders what they
send.  A FIN takes no number of the sequence, and any packet with the acknowledgement of all data is
taken for the acknowledgement of the FIN.  When no such packet is taken before the peer has the FIN,
the peer has the FIN of every stream that believes so (`seen_run`).
-/

namespace TcpOnUdp

/-- The two ends of a connection. -/
inductive Side
  | a
  | b
  deriving DecidableEq

/-- The other end. -/
def Side.other : Side → Side
  | a => b
  | b => a

/-- What happens at an end: a call, or a packet of the other end arrives, with the number that
`genSequenceNo` would give. -/
inductive Move
  | write (side : Side) (dta : List UInt8)
  | read (side : Side) (size : Nat)
  | closeWrite (side : Side)
  | tick (side : Side) (clock : Clock)
  | deliver (side : Side) (data : List UInt8) (rand : UInt32)

/-- The log says that the FIN was acknowledged: in `FIN_WAIT_1`, `LAST_ACK` or `CLOSING`. -/
def StateLog.IsFinAck (line : StateLog) : Prop :=
  line = .finWait2Ack ∨ line = .closedAck ∨ line = .timedWaitAck

instance (line : StateLog) : Decidable line.IsFinAck := inferInstanceAs (Decidable (_ ∨ _ ∨ _))

/-- The log of a stream says that its FIN was acknowledged. -/
def Connection.LogsFinAck (c : Connection) : Prop := ∃ line ∈ c.rslog, line.IsFinAck

/-- A stream is in `FIN_WAIT_2`, or has been, or was closed through `LAST_ACK` or `CLOSING`. -/
def Connection.FinAcked (c : Connection) : Prop := c.state = .finWait2 ∨ c.LogsFinAck

instance (c : Connection) : Decidable c.FinAcked :=
  inferInstanceAs (Decidable (_ ∨ ∃ line ∈ _, _))

/-- The states from the establishment on, in which a call may leave a stream. -/
def TcpState.Opened : TcpState → Prop
  | .listen | .synSent | .synRcvd | .timedWait => False
  | _ => True

/-- A connection goes on: it is not opened anew, neither as a whole nor for what comes in. -/
structure Connection.GoesOn (c c' : Connection) : Prop where
  opened : c.state.Opened → c'.state.Opened
  active : c.inStreamActive = false → c'.inStreamActive = false

namespace Connection

variable {c c' c'' : Connection}

theorem GoesOn.trans (h : c.GoesOn c') (h' : c'.GoesOn c'') :
  c.GoesOn c''
  where
  opened hc := h'.opened (h.opened hc)
  active hc := h'.active (h.active hc)

theorem GoesOn.of_same (hstate : c'.state = c.state)
    (hactive : c'.inStreamActive = c.inStreamActive) :
  c.GoesOn c'
  where
  opened hc := hstate ▸ hc
  active hc := hactive.trans hc

/-- A connection with the state and the log of one before has no other acknowledgement. -/
theorem finAcked_of_same (hstate : c'.state = c.state) (hlog : c'.rslog = c.rslog)
    (h : c'.FinAcked) :
  c.FinAcked
  := by
  rw [FinAcked, LogsFinAck, hstate, hlog] at h
  exact h

/-- Neither has one with some other lines. -/
theorem finAcked_of_append {lines : List StateLog} (hstate : c'.state ≠ .finWait2)
    (hlog : c'.rslog = c.rslog ++ lines) (hlines : ∀ line ∈ lines, ¬ line.IsFinAck)
    (h : c'.FinAcked) :
  c.FinAcked
  := by
  rcases h with h | ⟨line, hline, hack⟩
  · exact absurd h hstate
  · rw [hlog, List.mem_append] at hline
    rcases hline with hline | hline
    · exact .inr ⟨line, hline, hack⟩
    · exact absurd hack (hlines line hline)

end Connection

namespace TcpStream

variable (s : TcpStream) (pkt : TcpPacket) {c : Connection}

theorem goesOn_cleanup :
  c.GoesOn s.cleanup.toConnection
  where
  opened _ := trivial
  active _ := rfl

/-- A stream that is shut down has no acknowledgement but those before. -/
theorem finAcked_of_cleanup {line : StateLog} (hlog : s.rslog = c.rslog ++ [line])
    (hline : ¬ line.IsFinAck) (h : s.cleanup.FinAcked) :
  c.FinAcked
  := by
  apply Connection.finAcked_of_append TcpState.noConfusion _ _ h
  · exact [line, .cleanup]
  · simp only [cleanup, log, hlog, List.append_assoc, List.cons_append, List.nil_append]
  · rw [List.forall_mem_cons, List.forall_mem_singleton]
    exact ⟨hline, by decide⟩

theorem goesOn_takeFin :
  s.GoesOn (s.takeFin pkt).toConnection
  := by
  by_cases hfin : pkt.hasFin
  · rcases s.takeFin_cases pkt hfin with ⟨-, s', heq, -⟩ | ⟨-, -, rslog, -, heq⟩
    · rw [heq]
      exact s'.goesOn_cleanup
    · rw [heq]
      constructor
      · intro hs
        change s.state.afterFin.Opened
        revert hs
        cases s.state <;> exact id
      · rintro -
        rfl
  · rw [takeFin, if_neg hfin]
    exact .of_same rfl rfl

theorem goesOn_takeFinAck :
  s.GoesOn (s.takeFinAck pkt).toConnection
  := by
  cases hack : s.acksFin pkt with
  | false =>
    rw [s.takeFinAck_of_not pkt hack]
    exact .of_same rfl rfl
  | true =>
    rcases s.takeFinAck_cases pkt hack with ⟨-, heq⟩ | ⟨-, s', line, heq, -⟩
    · rw [heq]
      exact ⟨fun _ => trivial, id⟩
    · rw [heq]
      exact s'.goesOn_cleanup

theorem goesOn_takePkt :
  s.GoesOn (s.takePkt pkt).toConnection
  := by
  have habsorb : s.GoesOn (s.absorb pkt).toConnection := .of_same rfl rfl
  exact (habsorb.trans ((s.absorb pkt).goesOn_takeFin pkt)).trans (goesOn_takeFinAck _ pkt)

theorem finAcked_of_takePkt (hack : s.acksFin pkt = false) (h : (s.takePkt pkt).FinAcked) :
  s.FinAcked
  := by
  have habsorb : (s.absorb pkt).FinAcked → s.FinAcked := id
  rw [s.takePkt_of_not_acksFin pkt hack] at h
  apply habsorb
  by_cases hfin : pkt.hasFin
  · rcases (s.absorb pkt).takeFin_cases pkt hfin with ⟨h2, s', heq, hlog⟩ |
      ⟨h2, -, rslog, hrslog, heq⟩
    · exact .inl h2
    · rw [heq] at h
      apply Connection.finAcked_of_append _ rfl _ h
      · revert h2
        change _ → (s.absorb pkt).state.afterFin ≠ .finWait2
        cases (s.absorb pkt).state <;> simp [TcpState.afterFin]
      · intro line hline
        rcases hrslog line hline with rfl | rfl <;> decide
  · rwa [takeFin, if_neg hfin] at h

/-! ### Calls -/

/-- A call that leaves the state, the log and the activity alone. -/
structure Quiet (s s' : TcpStream) : Prop where
  state : s'.state = s.state
  active : s'.inStreamActive = s.inStreamActive
  rslog : s'.rslog = s.rslog

theorem quiet_write (dta : List UInt8) :
  s.Quiet (s.write dta).1
  := by
  rw [write]
  repeat
    split
    case isTrue => exact ⟨rfl, rfl, rfl⟩
  exact ⟨rfl, rfl, rfl⟩

theorem quiet_read (size : Nat) :
  s.Quiet (s.read size).1
  := by
  rw [read]
  repeat
    split
    case isTrue => exact ⟨rfl, rfl, rfl⟩
  obtain ⟨outDataRead, outDataNet, outQueue, h⟩ :=
    s.readData_eq (min size s.int_read_pending.toNat)
  change s.Quiet (s.readData (min size s.int_read_pending.toNat)).1.UpdateInWinSize
  rw [h]
  exact ⟨rfl, rfl, rfl⟩

theorem quiet_closeWrite :
  s.Quiet s.closeWrite.1
  := by
  rw [closeWrite]
  simp only []
  split <;> exact ⟨rfl, rfl, rfl⟩

theorem quiet_queuePkt :
  s.Quiet (s.queuePkt pkt)
  := by
  rw [queuePkt]
  split
  · exact ⟨rfl, rfl, rfl⟩
  · exact ⟨s.state_toSend {} false, s.inStreamActive_toSend {} false, s.rslog_toSend {} false⟩

variable {s} {s' : TcpStream}

theorem Quiet.goesOn (h : s.Quiet s') :
  s.GoesOn s'.toConnection
  := .of_same h.state h.active

theorem Quiet.finAcked (h : s.Quiet s') (hack : s'.FinAcked) :
  s.FinAcked
  := Connection.finAcked_of_same h.state h.rslog hack

variable (s) (clock : Clock)

theorem goesOn_tick :
  s.GoesOn (s.tick clock).toConnection
  := by
  rcases s.tick_cases clock with ⟨-, line, -, heq⟩ | ⟨-, inQueue, inData, heq⟩ |
    ⟨-, state, line, hends, inQueue, heq⟩
  · rw [heq]
    exact (s.log line).goesOn_cleanup
  · rw [heq]
    exact .of_same rfl rfl
  · rw [heq]
    constructor
    · rintro -
      rcases hends with ⟨-, rfl, -⟩ | ⟨-, rfl, -⟩ <;> exact trivial
    · exact id

theorem finAcked_of_tick (h : (s.tick clock).FinAcked) :
  s.FinAcked
  := by
  rcases s.tick_cases clock with ⟨-, line, hline, heq⟩ | ⟨-, inQueue, inData, heq⟩ |
    ⟨-, state, line, hends, inQueue, heq⟩
  · rw [heq] at h
    apply finAcked_of_cleanup (s.log line) rfl _ h
    rcases hline with rfl | rfl <;> decide
  · rw [heq] at h
    exact h
  · rw [heq] at h
    apply Connection.finAcked_of_append _ rfl _ h
    · rcases hends with ⟨-, rfl, -⟩ | ⟨-, rfl, -⟩ <;> exact TcpState.noConfusion
    · rw [List.forall_mem_singleton]
      rcases hends with ⟨-, -, rfl⟩ | ⟨-, -, rfl⟩ <;> decide

/-- What a packet does to a stream that is not opened anew. -/
theorem handleIncoming_cases (rand : UInt32) (hopened : s.state.Opened)
    (hnew : s.state = .closed → pkt.hasSyn → pkt.hasAck) :
  s.handleIncoming pkt rand = s ∨
    (s.checked pkt = some (s.queuePkt pkt) ∧
      s.handleIncoming pkt rand = (s.queuePkt pkt).check_InPkts)
  := by
  by_cases hclosed : s.state = .closed
  · left
    have hsyn : (pkt.hasSyn && !pkt.hasAck) = false := by
      cases hs : pkt.hasSyn with
      | false => rfl
      | true => rw [hnew hclosed hs]; rfl
    rw [handleIncoming, hclosed]
    simp only []
    rw [incoming_Closed, hsyn]
    rfl
  · right
    have hchecked : s.checked pkt = some (s.queuePkt pkt) := by
      rw [checked]
      revert hopened hclosed
      cases s.state <;> intro hopened hclosed <;>
        first | rfl | exact hopened.elim | exact absurd rfl hclosed
    exact ⟨hchecked, handleIncoming_of_checked rand hchecked⟩

theorem goesOn_check_InPkts :
  s.GoesOn s.check_InPkts.toConnection
  := by
  apply takePkts_of_step (P := fun s' => s.GoesOn s'.toConnection) (C := fun _ _ => True)
  · rintro s' inPkt hs
    exact hs.trans (.of_same rfl rfl)
  · rintro s' pkt hs -
    exact hs.trans (s'.goesOn_takePkt pkt)
  · exact .of_same rfl rfl
  · rintro r -
    trivial

theorem finAcked_of_check_InPkts
    (hrounds : ∀ r ∈ rounds s.inPkt.length s, r.1.acksFin r.2 = false)
    (h : s.check_InPkts.FinAcked) :
  s.FinAcked
  := by
  revert h
  apply takePkts_of_step (P := fun s' => s'.FinAcked → s.FinAcked)
    (C := fun s' pkt => s'.acksFin pkt = false) _ _ id hrounds
  · rintro s' inPkt hs
    exact hs
  · rintro s' pkt hs hack hacked
    exact hs (s'.finAcked_of_takePkt pkt hack hacked)

end TcpStream

namespace Net

/-- The ends after a move.  What one end has handed to the network may arrive at the other at any
time, any number of times. -/
def move (net : Side → TcpStream) : Move → Side → TcpStream
  | .write side dta => Function.update net side ((net side).write dta).1
  | .read side size => Function.update net side ((net side).read size).1
  | .closeWrite side => Function.update net side (net side).closeWrite.1
  | .tick side clock => Function.update net side ((net side).tick clock)
  | .deliver side data rand =>
      if data ∈ (net side.other).udp then
        Function.update net side ((net side).recvPkt data rand)
      else net

/-- The two ends and the network. -/
def machine : Machine (Side → TcpStream) Move Empty where
  step net m := (move net m, [])

/-- Both ends are in `TCP_ESTABLISHED`, with nothing of a FIN in their logs. -/
def Established (net : Side → TcpStream) : Prop :=
  ∀ side, (net side).state = .established ∧ ∀ line ∈ (net side).rslog, ¬ line.IsFinAck

/-- A packet of the connection is taken for the acknowledgement of the FIN only when the peer has
the FIN. -/
def AcksSeen (net : Side → TcpStream) (side : Side) (data : List UInt8) : Prop :=
  ∀ pkt ∈ TcpPacket.readPacket data, ∀ s ∈ (net side).checked pkt,
    ∀ r ∈ TcpStream.rounds s.inPkt.length s, r.1.acksFin r.2 →
      (net side.other).inStreamActive = false

/-- A stream that has been closed is not opened anew. -/
def NotReopened (net : Side → TcpStream) (side : Side) (data : List UInt8) : Prop :=
  (net side).state = .closed → ∀ pkt ∈ TcpPacket.readPacket data, pkt.hasSyn → pkt.hasAck

/-- What a move has to meet. -/
def Meets (net : Side → TcpStream) : Move → Prop
  | .deliver side data _ => AcksSeen net side data ∧ NotReopened net side data
  | _ => True

/-! ### The FIN is seen before it is acknowledged -/

/-- Where a stream believes that its FIN was acknowledged, the peer has it. -/
def Seen (net : Side → TcpStream) (side : Side) : Prop :=
  (net side).FinAcked → (net side.other).inStreamActive = false

/-- No connection is opened anew, and the peers have what is acknowledged. -/
structure Sound (net : Side → TcpStream) : Prop where
  opened : ∀ side, (net side).state.Opened
  seen : ∀ side, Seen net side

theorem other_ne (side : Side) :
  side.other ≠ side
  := by
  cases side <;> exact Side.noConfusion

variable {net : Side → TcpStream}

theorem sound_of_established (h : Established net) :
  Sound net
  where
  opened side := by
    rw [(h side).1]
    trivial
  seen side := by
    rintro (hstate | ⟨line, hline, hack⟩)
    · rw [(h side).1] at hstate
      cases hstate
    · exact absurd hack ((h side).2 line hline)

/-- An end may go on when it finds the FIN acknowledged only if it did before, or the peer has the
FIN. -/
theorem Sound.update (hs : Sound net) {side : Side} {s : TcpStream}
    (hon : (net side).GoesOn s.toConnection)
    (hack : (net side.other).inStreamActive = true → s.FinAcked → (net side).FinAcked) :
  Sound (Function.update net side s)
  := by
  have hother : ∀ side', side' ≠ side → side' = side.other := by
    intro side' hne
    cases side <;> cases side' <;> first | rfl | exact absurd rfl hne
  constructor
  · intro side'
    by_cases hside : side' = side
    · subst hside
      rw [Function.update_self]
      exact hon.opened (hs.opened side')
    · rw [Function.update_of_ne hside]
      exact hs.opened side'
  · intro side'
    by_cases hside : side' = side
    · subst hside
      rw [Seen, Function.update_self, Function.update_of_ne (other_ne side')]
      intro hacked
      rw [Bool.eq_false_iff]
      intro hactive
      rw [hs.seen side' (hack hactive hacked)] at hactive
      cases hactive
    · have hback : side'.other = side := by
        rw [hother side' hside]
        cases side <;> rfl
      rw [Seen, Function.update_of_ne hside, hback, Function.update_self]
      intro hacked
      apply hon.active
      rw [← hback]
      exact hs.seen side' hacked

theorem Sound.move (hs : Sound net) {m : Move} (hmeets : Meets net m) :
  Sound (move net m)
  := by
  cases m
  case write side dta =>
    have hq := (net side).quiet_write dta
    exact hs.update hq.goesOn fun _ => hq.finAcked
  case read side size =>
    have hq := (net side).quiet_read size
    exact hs.update hq.goesOn fun _ => hq.finAcked
  case closeWrite side =>
    have hq := (net side).quiet_closeWrite
    exact hs.update hq.goesOn fun _ => hq.finAcked
  case tick side clock =>
    exact hs.update ((net side).goesOn_tick clock) fun _ => (net side).finAcked_of_tick clock
  case deliver side data rand =>
    obtain ⟨hseen, hnew⟩ := hmeets
    rw [Net.move]
    split
    case isFalse => exact hs
    case isTrue =>
      rw [TcpStream.recvPkt]
      cases hpkt : TcpPacket.readPacket data with
      | none =>
        rw [Function.update_eq_self]
        exact hs
      | some pkt =>
        simp only []
        rcases (net side).handleIncoming_cases pkt rand (hs.opened side)
          (fun hclosed => hnew hclosed pkt hpkt) with heq | ⟨hchecked, heq⟩
        · rw [heq, Function.update_eq_self]
          exact hs
        · rw [heq]
          have hq := (net side).quiet_queuePkt pkt
          apply hs.update (hq.goesOn.trans (TcpStream.goesOn_check_InPkts _))
          intro hactive hack
          apply hq.finAcked (TcpStream.finAcked_of_check_InPkts _ _ hack)
          intro r hr
          have hnot := hseen pkt hpkt _ hchecked r hr
          rw [hactive] at hnot
          rw [Bool.eq_false_iff]
          intro htrue
          cases hnot htrue

/-- In a run that meets the condition, the peer has the FIN of every stream that is, or has been, in
`FIN_WAIT_2`, or was closed through `LAST_ACK` or `CLOSING`. -/
theorem seen_run (h : Established net) {moves : List Move} (hmeets : machine.Along Meets net moves)
    (side : Side) :
  ((machine.run net moves) side).FinAcked →
    ((machine.run net moves) side.other).inStreamActive = false
  := by
  have hs : Sound (machine.run net moves) :=
    Machine.run_of_step (fun _ _ hs hm => hs.move hm) (sound_of_established h) hmeets
  exact hs.seen side

instance (net : Side → TcpStream) (side : Side) : Decidable (Seen net side) :=
  inferInstanceAs (Decidable (_ → _))

instance (net : Side → TcpStream) (side : Side) (data : List UInt8) :
    Decidable (AcksSeen net side data) :=
  inferInstanceAs (Decidable (∀ pkt ∈ TcpPacket.readPacket data, ∀ s ∈ (net side).checked pkt,
    ∀ r ∈ TcpStream.rounds s.inPkt.length s, _ → _))

instance (net : Side → TcpStream) (side : Side) (data : List UInt8) :
    Decidable (NotReopened net side data) :=
  inferInstanceAs (Decidable (_ → ∀ pkt ∈ TcpPacket.readPacket data, _ → _))

instance decidableMeets (net : Side → TcpStream) : ∀ m, Decidable (Meets net m)
  | .deliver _ _ _ => inferInstanceAs (Decidable (_ ∧ _))
  | .write _ _ | .read _ _ | .closeWrite _ | .tick _ _ => .isTrue trivial

/-- Two ends that agree on their numbers. -/
def connected (_ : Side) : TcpStream where
  state := .established
  inStreamActive := true
  outStreamActive := true
  peerKnown := true
  outSeqno := 1
  outAcked := 1
  inAckno := 1
  outWinSize := tcpMaxWin
  inWinSize := tcpMaxWin
  lastSentAck := 1
  lastSentWinSize := tcpMaxWin

theorem established_connected :
  Established connected
  := by
  intro side
  exact ⟨rfl, fun _ h => absurd h List.not_mem_nil⟩

/-- The FIN of an end that has written nothing. -/
def fin : List UInt8 :=
  ((TcpPacket.setFin { seqno := 1, winsize := 65500 }).setAck 1).writePacket 1020

/-- The acknowledgement of an end that has received nothing, or a FIN. -/
def ack : List UInt8 := (TcpPacket.setAck { seqno := 1, winsize := 65500 } 1).writePacket 1020

/-- The FIN arrives, and its acknowledgement. -/
theorem seen_run_fin :
  (machine.run connected [.closeWrite .a, .tick .a {}, .deliver .b fin 0, .deliver .a ack 0]
      .a).FinAcked ∧
    (machine.run connected [.closeWrite .a, .tick .a {}, .deliver .b fin 0, .deliver .a ack 0]
      .b).inStreamActive = false
  := by
  have hacked : (machine.run connected
      [.closeWrite .a, .tick .a {}, .deliver .b fin 0, .deliver .a ack 0] .a).FinAcked := by
    decide +kernel
  exact ⟨hacked, seen_run established_connected (by decide +kernel) .a hacked⟩

/-- The FIN is lost, and what keeps the connection alive is taken for its acknowledgement. -/
theorem not_seen_keepAlive :
  ¬ ∀ net moves side, Established net → Seen (machine.run net moves) side
  := by
  intro h
  have hseen := h connected [.closeWrite .a, .tick .a {}, .tick .b { keepAlive := true },
    .deliver .a ack 0] .a established_connected
  revert hseen
  decide +kernel

end Net

end TcpOnUdp
