import RetroShare.TcpOnUdp.StreamSteps

/-!
# What has been accepted when the peer finishes

A `History` keeps, beside a stream, the bytes that the connection has accepted in order and those
that `read` has returned.  After a `closeWrite`, all bytes from before the FIN of the peer are
returned before a read reports the end of the stream or an error, when nothing shuts the stream down
while it still has some of them (`late_run`).  In `FIN_WAIT_2` the FIN itself shuts it down,
elsewhere the acknowledgement of the own FIN.
-/

namespace TcpOnUdp

/-- The calls of a stream, with the numbers that `genSequenceNo` gives. -/
inductive Call
  | connect (rand : UInt32)
  | listenfor
  | write (dta : List UInt8)
  | read (size : Nat)
  | closeWrite
  | close
  | tick (clock : Clock)
  | recvPkt (data : List UInt8) (rand : UInt32)

namespace TcpStream

/-- The stream after a call. -/
def step (s : TcpStream) : Call → TcpStream
  | .connect rand => (s.connect rand).1
  | .listenfor => s.listenfor.1
  | .write dta => (s.write dta).1
  | .read size => (s.read size).1
  | .closeWrite => s.closeWrite.1
  | .close => s.close.1
  | .tick clock => s.tick clock
  | .recvPkt data rand => s.recvPkt data rand

/-- The stream on which `handleIncoming` calls `check_InPkts`, if it does. -/
def checked (s : TcpStream) (pkt : TcpPacket) : Option TcpStream :=
  match s.state with
  | .closed | .listen | .synSent | .timedWait => none
  | .synRcvd =>
      if pkt.hasRst || !pkt.hasAck || pkt.ackno != s.outSeqno || pkt.data == [] then none
      else some ((s.complete pkt).queuePkt pkt)
  | _ => some (s.queuePkt pkt)

theorem handleIncoming_of_checked {s s' : TcpStream} {pkt : TcpPacket} (rand : UInt32)
    (h : s.checked pkt = some s') :
  s.handleIncoming pkt rand = s'.check_InPkts
  := by
  rw [checked] at h
  rw [handleIncoming]
  cases hs : s.state <;> rw [hs] at h <;> simp only [] at h ⊢
  case synRcvd =>
    split at h
    case isTrue => cases h
    case isFalse hnot =>
      cases h
      simp only [Bool.or_eq_true, Bool.not_eq_true', bne_iff_ne, beq_iff_eq, not_or, ne_eq,
        Bool.not_eq_false, not_not, Bool.not_eq_true] at hnot
      obtain ⟨⟨⟨hrst, hack⟩, hackno⟩, hdata⟩ := hnot
      rw [incoming_SynRcvd, hrst, hack, hackno, if_neg hdata]
      simp [incoming_Established]
  all_goals
    cases h
    try rfl

end TcpStream

/-- A stream with what its connection has accepted and returned. -/
structure History where
  stream : TcpStream
  /-- The bytes that were accepted in order. -/
  accepted : List UInt8
  /-- The bytes that `read` has returned. -/
  returned : List UInt8
  /-- `closeWrite` has been called. -/
  closedWrite : Bool
  /-- What had been accepted when the peer finished after the `closeWrite`. -/
  finished : List UInt8

namespace History

/-- A stream that has not been used. -/
def new : History := ⟨{}, [], [], false, []⟩

/-- The history with a packet that the stream takes. -/
def takePkt (h : History) (pkt : TcpPacket) : History :=
  let accepted := h.accepted ++ h.stream.appended pkt
  { h with
    stream := h.stream.takePkt pkt
    accepted := accepted
    finished := if pkt.hasFin && h.closedWrite then accepted else h.finished }

/-- The history with the packets that at most `n` rounds of `check_InPkts` take. -/
def takePkts : Nat → History → History
  | 0, h => h
  | n + 1, h =>
      match h.stream.nextPkt with
      | (none, s) => { h with stream := s }
      | (some pkt, s) => takePkts n ({ h with stream := s }.takePkt pkt)

/-- The history with another stream; that of a connection begins when it is established. -/
def goOn (h : History) (s : TcpStream) : History :=
  if ¬ h.stream.Live ∧ s.Live then
    { stream := s, accepted := [], returned := [], closedWrite := h.closedWrite, finished := [] }
  else { h with stream := s }

/-- The history with a packet that has arrived. -/
def handleIncoming (h : History) (pkt : TcpPacket) (rand : UInt32) : History :=
  match h.stream.checked pkt with
  | none => h.goOn (h.stream.handleIncoming pkt rand)
  | some s => (h.goOn s).takePkts s.inPkt.length

/-- The history after a call. -/
def step (h : History) : Call → History
  | .read size =>
      let r := h.stream.read size
      { h with stream := r.1, returned := h.returned ++ if 0 < r.2.1 then r.2.2 else [] }
  | .closeWrite => { h with stream := h.stream.closeWrite.1, closedWrite := true }
  | .recvPkt data rand =>
      match TcpPacket.readPacket data with
      | none => h
      | some pkt => h.handleIncoming pkt rand
  | call => { h with stream := h.stream.step call }

/-- The histories of a stream. -/
def machine : Machine History Call Empty where
  step h call := (h.step call, [])

theorem stream_takePkts (n : Nat) (h : History) :
  (h.takePkts n).stream = TcpStream.takePkts n h.stream
  := by
  induction n generalizing h with
  | zero => rfl
  | succ n ih =>
    rw [takePkts, TcpStream.takePkts]
    cases h.stream.nextPkt with
    | mk pkt s =>
      cases pkt with
      | none => rfl
      | some pkt => exact ih _

@[simp]
theorem stream_goOn (h : History) (s : TcpStream) :
  (h.goOn s).stream = s
  := by
  rw [goOn]
  split <;> rfl

theorem stream_step (h : History) (call : Call) :
  (h.step call).stream = h.stream.step call
  := by
  cases call
  case recvPkt data rand =>
    rw [step, TcpStream.step, TcpStream.recvPkt]
    cases TcpPacket.readPacket data with
    | none => rfl
    | some pkt =>
      simp only [handleIncoming]
      cases hs : h.stream.checked pkt with
      | none => simp only [stream_goOn]
      | some s =>
        simp only [stream_takePkts, stream_goOn]
        exact (TcpStream.handleIncoming_of_checked rand hs).symm
  all_goals rfl

/-! ### What is accepted is returned, or waits -/

/-- What has been accepted waits while the connection lives; once it is over, what had been accepted
when the peer finished has been returned. -/
structure Sound (h : History) : Prop where
  notTimedWait : h.stream.state ≠ .timedWait
  finished : h.finished <+: h.accepted
  live : h.stream.Live → h.accepted = h.returned ++ h.stream.unread
  down : ¬ h.stream.Live →
    h.stream.unread = [] ∧ h.stream.inPkt = [] ∧ h.finished <+: h.returned

theorem sound_new :
  new.Sound
  where
  notTimedWait := TcpState.noConfusion
  finished := List.nil_prefix
  live hlive := absurd hlive (by decide)
  down _ := ⟨rfl, rfl, List.nil_prefix⟩

variable {h : History} {s : TcpStream} {pkt : TcpPacket} {call : Call}

theorem Sound.of_same (hs : h.Sound) (hstate : s.state ≠ .timedWait)
    (hlive : s.Live ↔ h.stream.Live) (hunread : s.unread = h.stream.unread)
    (hpkts : ¬ s.Live → s.inPkt = h.stream.inPkt) :
  Sound { h with stream := s }
  where
  notTimedWait := hstate
  finished := hs.finished
  live hl := hunread ▸ hs.live (hlive.mp hl)
  down hl := by
    obtain ⟨hnil, hnone, hfin⟩ := hs.down (mt hlive.mpr hl)
    exact ⟨hunread.trans hnil, (hpkts hl).trans hnone, hfin⟩

theorem Sound.of_toConnection (hs : h.Sound) {inQueue : List DataBuffer} {inData : Partial}
    (heq : s.toConnection = h.stream.input inQueue inData) :
  Sound { h with stream := s }
  := by
  apply hs.of_same
  · rw [heq]
    exact hs.notTimedWait
  · rw [heq]
    exact Iff.rfl
  · rw [heq]
    rfl
  · intro _
    rw [heq]
    rfl

/-- A stream may be shut down when what had been accepted as the peer finished has been returned. -/
theorem Sound.of_cleanup (hs : h.Sound) (hfin : h.finished <+: h.returned) (s : TcpStream) :
  Sound { h with stream := s.cleanup }
  where
  notTimedWait := TcpState.noConfusion
  finished := hs.finished
  live hlive := absurd hlive s.not_live_cleanup
  down _ := ⟨rfl, rfl, hfin⟩

/-- A packet does not shut the stream down before what had been accepted is returned. -/
def Drained (h : History) (pkt : TcpPacket) : Prop :=
  h.stream.finishes pkt → (h.takePkt pkt).finished <+: h.returned

theorem live_afterFin (state : TcpState) :
  TcpState.established.num ≤ state.afterFin.num ↔ TcpState.established.num ≤ state.num
  := by
  cases state <;> decide

theorem Sound.takePkt (hs : h.Sound) (hlive : h.stream.Live) (hdrained : h.Drained pkt) :
  (h.takePkt pkt).Sound
  := by
  have hacc := hs.live hlive
  have hfin : (h.takePkt pkt).finished <+: (h.takePkt pkt).accepted := by
    simp only [History.takePkt]
    split
    · exact List.prefix_refl _
    · exact hs.finished.trans (List.prefix_append _ _)
  cases hf : h.stream.finishes pkt with
  | true =>
    obtain ⟨s', heq⟩ := h.stream.takePkt_of_finishes pkt hf
    have heq' : (h.takePkt pkt).stream = s'.cleanup := heq
    constructor
    · rw [heq']
      exact TcpState.noConfusion
    · exact hfin
    · rw [heq']
      intro hl
      exact absurd hl s'.not_live_cleanup
    · rw [heq']
      rintro -
      exact ⟨rfl, rfl, hdrained hf⟩
  | false =>
    obtain ⟨hunread, -, hstate⟩ := h.stream.takePkt_of_not pkt hf
    have hlive' : (h.takePkt pkt).stream.Live := by
      simp only [History.takePkt, Connection.Live]
      rcases hstate with hstate | ⟨-, hstate⟩
      · rw [hstate]
        split
        · exact (live_afterFin _).mpr hlive
        · exact hlive
      · rw [hstate]
        decide
    constructor
    · simp only [History.takePkt]
      rcases hstate with hstate | ⟨-, hstate⟩
      · rw [hstate]
        split
        · have hnot := hs.notTimedWait
          revert hnot
          cases h.stream.state <;> simp [TcpState.afterFin]
        · exact hs.notTimedWait
      · rw [hstate]
        exact TcpState.noConfusion
    · exact hfin
    · rintro -
      simp only [History.takePkt]
      rw [hunread, hacc, List.append_assoc]
    · intro hl
      exact absurd hlive' hl

/-- Every packet that at most `n` rounds take satisfies `C`. -/
def Rounds (C : History → TcpPacket → Prop) : Nat → History → Prop
  | 0, _ => True
  | n + 1, h => ∀ pkt ∈ h.stream.nextPkt.1,
      C { h with stream := h.stream.nextPkt.2 } pkt ∧
        Rounds C n ({ h with stream := h.stream.nextPkt.2 }.takePkt pkt)

/-- A packet is only found while the connection lives. -/
theorem Sound.nextPkt (hs : h.Sound) {pkt : Option TcpPacket}
    (hnext : h.stream.nextPkt = (pkt, s)) :
  Sound { h with stream := s } ∧ (pkt.isSome → s.Live)
  := by
  have hpkt : h.stream.nextPkt.1 = pkt := congrArg Prod.fst hnext
  have hstream : h.stream.nextPkt.2 = s := congrArg Prod.snd hnext
  subst hpkt hstream
  constructor
  · apply hs.of_same (s := h.stream.nextPkt.2) hs.notTimedWait Iff.rfl rfl
    intro hl
    have hnil : h.stream.inPkt = [] := (hs.down hl).2.1
    simp only [TcpStream.nextPkt, hnil]
    rfl
  · intro hsome
    by_contra hl
    rw [TcpStream.nextPkt_of_nil _ (hs.down hl).2.1] at hsome
    cases hsome

theorem Sound.takePkts {n : Nat} (hs : h.Sound) (hdrained : h.Rounds Drained n) :
  (h.takePkts n).Sound
  := by
  induction n generalizing h with
  | zero => exact hs
  | succ n ih =>
    rw [Rounds] at hdrained
    rw [History.takePkts]
    cases hp : h.stream.nextPkt with
    | mk pkt s =>
      obtain ⟨hnext, hlive⟩ := hs.nextPkt hp
      rw [hp] at hdrained
      cases pkt with
      | none => exact hnext
      | some pkt =>
        obtain ⟨hpkt, hrest⟩ := hdrained pkt rfl
        exact ih (hnext.takePkt (hlive rfl) hpkt) hrest

/-! ### Calls -/

/-- What a call has to meet: it does not shut the stream down before what had been accepted as the
peer finished is returned, and a read finds less than `2 ^ 31` bytes. -/
def Meets (h : History) : Call → Prop
  | .read _ => h.stream.pending < 2 ^ 31
  | .close => h.finished <+: h.returned
  | .tick clock => h.stream.timesOut clock → h.finished <+: h.returned
  | .recvPkt data _ => ∀ pkt ∈ TcpPacket.readPacket data, ∀ s ∈ h.stream.checked pkt,
      (h.goOn s).Rounds Drained s.inPkt.length
  | _ => True

/-- A read that reports the end of the stream or an error comes when all that had been accepted as
the peer finished has been returned. -/
def Late (h : History) : Call → Prop
  | .read size => 0 < size → (h.stream.read size).2.1 ≤ 0 → h.finished <+: h.returned
  | _ => True

section

variable (hs : h.Sound)

include hs

theorem Sound.late (hmeets : h.Meets call) :
  h.Late call
  := by
  cases call
  case read size =>
    intro hsize hret
    by_cases hl : h.stream.Live
    · by_cases hnil : h.stream.unread = []
      · have hacc := hs.live hl
        rw [hnil, List.append_nil] at hacc
        exact hacc ▸ hs.finished
      · obtain ⟨hread, -⟩ := h.stream.read_of_live size hl hmeets hnil
        have hpos : 0 < h.stream.pending := by
          rw [← TcpStream.length_unread]
          exact List.length_pos_of_ne_nil hnil
        rw [hread] at hret
        omega
    · exact (hs.down hl).2.2
  all_goals exact trivial

theorem Sound.of_received
    (hstate : s.state = h.stream.state ∨ (h.stream.state = .closed ∧ s.state = .synSent))
    (hunread : s.unread = h.stream.unread) (hpkts : s.inPkt = h.stream.inPkt) :
  Sound { h with stream := s }
  := by
  rcases hstate with heq | ⟨hclosed, hsent⟩
  · apply hs.of_same _ _ hunread fun _ => hpkts
    · exact heq ▸ hs.notTimedWait
    · rw [Connection.Live, Connection.Live, heq]
  · apply hs.of_same _ _ hunread fun _ => hpkts
    · exact hsent ▸ TcpState.noConfusion
    · rw [Connection.Live, Connection.Live, hclosed, hsent]
      decide

theorem Sound.connect (rand : UInt32) :
  Sound { h with stream := (h.stream.connect rand).1 }
  := by
  rw [TcpStream.connect]
  simp only []
  split
  case isTrue =>
    split
    case isTrue => exact hs.of_received (.inl rfl) rfl rfl
    case isFalse => split <;> exact hs.of_received (.inl rfl) rfl rfl
  case isFalse hclosed =>
    rw [not_not] at hclosed
    apply hs.of_received
    · exact .inr ⟨hclosed, rfl⟩
    · exact TcpStream.unread_toSend _ _ _
    · exact TcpStream.inPkt_toSend _ _ _

theorem Sound.listenfor :
  Sound { h with stream := h.stream.listenfor.1 }
  := by
  rw [TcpStream.listenfor]
  simp only []
  split
  case isTrue => exact hs.of_received (.inl rfl) rfl rfl
  case isFalse => split <;> exact hs.of_received (.inl rfl) rfl rfl

theorem Sound.write (dta : List UInt8) :
  Sound { h with stream := (h.stream.write dta).1 }
  := by
  rw [TcpStream.write]
  repeat
    split
    case isTrue => exact hs.of_received (.inl rfl) rfl rfl
  exact hs.of_received (.inl rfl) rfl rfl

theorem Sound.closeWrite :
  Sound (h.step .closeWrite)
  := by
  have hreceived : Sound { h with stream := h.stream.closeWrite.1 } := by
    rw [TcpStream.closeWrite]
    simp only []
    split <;> exact hs.of_received (.inl rfl) rfl rfl
  exact ⟨hreceived.notTimedWait, hreceived.finished, hreceived.live, hreceived.down⟩

theorem Sound.read {size : Nat} (hpending : h.stream.pending < 2 ^ 31) :
  Sound (h.step (.read size))
  := by
  rw [step]
  by_cases hfound : h.stream.Live ∧ h.stream.unread ≠ []
  · obtain ⟨hlive, hsome⟩ := hfound
    obtain ⟨hret, hdta, hrest, hstate⟩ := h.stream.read_of_live size hlive hpending hsome
    have hpos : 0 < h.stream.pending := by
      rw [← TcpStream.length_unread]
      exact List.length_pos_of_ne_nil hsome
    have hreturned : (if 0 < (h.stream.read size).2.1 then (h.stream.read size).2.2 else []) =
        h.stream.unread.take size := by
      rw [hret, hdta]
      split
      case isTrue => rfl
      case isFalse hnot =>
        have hzero : size = 0 := by omega
        rw [hzero, List.take_zero]
    have hlive' : (h.stream.read size).1.Live := by
      rw [Connection.Live, hstate]
      exact hlive
    rw [hreturned]
    constructor
    · exact hstate ▸ hs.notTimedWait
    · exact hs.finished
    · rintro -
      rw [hrest, List.append_assoc, List.take_append_drop]
      exact hs.live hlive
    · intro hl
      exact absurd hlive' hl
  · have hnot : ¬ h.stream.Live ∨ h.stream.unread = [] := by
      rwa [not_and_or, not_not] at hfound
    obtain ⟨hret, errorState, hsame⟩ := h.stream.read_of_not size hnot
    rw [if_neg (not_lt.mpr hret), List.append_nil, hsame]
    exact hs.of_received (.inl rfl) rfl rfl

theorem Sound.tick {clock : Clock} (hdown : h.stream.timesOut clock → h.finished <+: h.returned) :
  Sound { h with stream := h.stream.tick clock }
  := by
  rcases h.stream.tick_cases clock with ⟨hout, line, -, heq⟩ | ⟨-, inQueue, inData, heq⟩ |
    ⟨-, state, line, hends, inQueue, heq⟩
  · have hclean := hs.of_cleanup (hdown hout) (h.stream.log line)
    exact hclean.of_received (.inl (congrArg Connection.state heq))
      (congrArg Connection.unread heq) (congrArg Connection.inPkt heq)
  · exact hs.of_toConnection heq
  · apply hs.of_same (s := h.stream.tick clock)
    · rw [heq]
      rcases hends with ⟨-, rfl, -⟩ | ⟨-, rfl, -⟩ <;> exact TcpState.noConfusion
    · rw [heq]
      rcases hends with ⟨hstate, rfl, -⟩ | ⟨hstate, rfl, -⟩ <;>
        simp [Connection.Live, Connection.moveTo, hstate, TcpState.num]
    · rw [heq]
      rfl
    · rintro -
      rw [heq]
      rfl

end

theorem queuePkt_same (s : TcpStream) (pkt : TcpPacket) :
  (s.queuePkt pkt).state = s.state ∧ (s.queuePkt pkt).unread = s.unread
  := by
  rw [TcpStream.queuePkt]
  simp only []
  split
  · exact ⟨rfl, rfl⟩
  · exact ⟨s.state_toSend {} false, s.unread_toSend {} false⟩

/-- A SYN changes nothing of what has been received. -/
theorem incoming_Closed_same (s : TcpStream) (pkt : TcpPacket) (rand : UInt32) :
  ((s.incoming_Closed pkt rand).state = s.state ∨ (s.incoming_Closed pkt rand).state = .synRcvd) ∧
    (s.incoming_Closed pkt rand).unread = s.unread ∧
    (s.incoming_Closed pkt rand).inPkt = s.inPkt
  := by
  rw [TcpStream.incoming_Closed]
  split
  case isTrue =>
    simp only []
    split
    · exact ⟨.inr rfl, TcpStream.unread_toSend _ _ _, TcpStream.inPkt_toSend _ _ _⟩
    · exact ⟨.inr rfl, TcpStream.unread_toSend _ _ _, TcpStream.inPkt_toSend _ _ _⟩
  case isFalse => exact ⟨.inl rfl, rfl, rfl⟩

/-- Neither does what comes before a connection is established. -/
theorem handleIncoming_same (rand : UInt32) (hlive : ¬ s.Live) (hnone : s.checked pkt = none) :
  (s.handleIncoming pkt rand).state ≠ .timedWait ∧
    (s.handleIncoming pkt rand).unread = s.unread ∧ (s.handleIncoming pkt rand).inPkt = s.inPkt
  := by
  rw [Connection.Live] at hlive
  rw [TcpStream.checked] at hnone
  rw [TcpStream.handleIncoming]
  have hclosed : s.state ≠ .timedWait → (s.incoming_Closed pkt rand).state ≠ .timedWait ∧
      (s.incoming_Closed pkt rand).unread = s.unread ∧
      (s.incoming_Closed pkt rand).inPkt = s.inPkt := by
    intro hs
    obtain ⟨hstate, hrest⟩ := incoming_Closed_same s pkt rand
    refine ⟨?_, hrest⟩
    rcases hstate with hstate | hstate <;> rw [hstate]
    · exact hs
    · exact TcpState.noConfusion
  cases hs : s.state
  case closed => exact hclosed (hs ▸ TcpState.noConfusion)
  case listen => exact hclosed (hs ▸ TcpState.noConfusion)
  case synSent =>
    simp only [TcpStream.incoming_SynSent]
    split
    case isTrue =>
      split
      · exact ⟨hs ▸ TcpState.noConfusion, rfl, rfl⟩
      · exact ⟨TcpState.noConfusion, TcpStream.unread_toSend _ _ _, TcpStream.inPkt_toSend _ _ _⟩
    case isFalse => exact hclosed (hs ▸ TcpState.noConfusion)
  case synRcvd =>
    simp only [hs] at hnone
    simp only [TcpStream.incoming_SynRcvd]
    split
    · exact ⟨TcpState.noConfusion, rfl, rfl⟩
    case isFalse hrst =>
      split
      · exact ⟨hs ▸ TcpState.noConfusion, rfl, rfl⟩
      case isFalse hack =>
        split
        · exact ⟨hs ▸ TcpState.noConfusion, rfl, rfl⟩
        case isFalse hackno =>
          split
          · exact ⟨TcpState.noConfusion, rfl, rfl⟩
          case isFalse hdata =>
            simp [hrst, hack, hackno, hdata] at hnone
  all_goals
    rw [hs] at hlive
    exact absurd (by decide) hlive

theorem live_of_checked {s' : TcpStream} (hs : s.state ≠ .timedWait) (h : s.checked pkt = some s') :
  s'.Live ∧ s'.state ≠ .timedWait ∧ s'.unread = s.unread
  := by
  rw [TcpStream.checked] at h
  have hlive : ∀ s₁ : TcpStream, s₁.Live → s₁.state ≠ .timedWait → s₁.unread = s.unread →
      (s₁.queuePkt pkt).Live ∧ (s₁.queuePkt pkt).state ≠ .timedWait ∧
        (s₁.queuePkt pkt).unread = s.unread := by
    intro s₁ hl hstate hunread
    obtain ⟨hsame, hunread'⟩ := queuePkt_same s₁ pkt
    rw [Connection.Live, hsame, hunread']
    exact ⟨hl, hstate, hunread⟩
  cases hstate : s.state <;> simp only [hstate] at h
  case synRcvd =>
    split at h
    case isTrue => cases h
    case isFalse =>
      cases h
      exact hlive _ (by change 4 ≤ 4; decide) TcpState.noConfusion rfl
  case timedWait => exact absurd hstate hs
  all_goals
    cases h
    try exact hlive s (by simp [Connection.Live, hstate, TcpState.num]) hs rfl

theorem checked_of_live (hlive : s.Live) (hs : s.state ≠ .timedWait) :
  s.checked pkt = some (s.queuePkt pkt)
  := by
  rw [TcpStream.checked]
  rw [Connection.Live] at hlive
  cases hstate : s.state <;> rw [hstate] at hlive hs
  case timedWait => exact absurd rfl hs
  all_goals first | rfl | exact absurd hlive (by decide)

/-- A connection that is established begins a history. -/
theorem Sound.goOn (hs : h.Sound) (hstate : s.state ≠ .timedWait)
    (hunread : s.unread = h.stream.unread)
    (hover : ¬ s.Live → ¬ h.stream.Live ∧ s.inPkt = h.stream.inPkt) :
  (h.goOn s).Sound
  := by
  rw [History.goOn]
  split
  case isTrue hopens =>
    obtain ⟨hdown, hlive⟩ := hopens
    constructor
    · exact hstate
    · exact List.prefix_refl _
    · rintro -
      exact (hunread.trans (hs.down hdown).1).symm
    · intro hl
      exact absurd hlive hl
  case isFalse hsame =>
    apply hs.of_same hstate _ hunread fun hl => (hover hl).2
    constructor
    · intro hl
      by_contra hdown
      exact hsame ⟨hdown, hl⟩
    · intro hl
      by_contra hdown
      exact (hover hdown).1 hl

theorem Sound.handleIncoming (hs : h.Sound) (rand : UInt32)
    (hdrained : ∀ s ∈ h.stream.checked pkt, (h.goOn s).Rounds Drained s.inPkt.length) :
  Sound (h.handleIncoming pkt rand)
  := by
  rw [History.handleIncoming]
  cases hchecked : h.stream.checked pkt with
  | none =>
    have hdown : ¬ h.stream.Live := by
      intro hl
      rw [checked_of_live hl hs.notTimedWait] at hchecked
      cases hchecked
    obtain ⟨hstate, hunread, hpkts⟩ := handleIncoming_same rand hdown hchecked
    exact hs.goOn hstate hunread fun _ => ⟨hdown, hpkts⟩
  | some s =>
    obtain ⟨hlive, hstate, hunread⟩ := live_of_checked hs.notTimedWait hchecked
    have hbegun : (h.goOn s).Sound := hs.goOn hstate hunread fun hl => absurd hlive hl
    exact hbegun.takePkts (hdrained s hchecked)

theorem Sound.step (hs : h.Sound) (hmeets : h.Meets call) :
  (h.step call).Sound
  := by
  cases call
  case connect rand => exact hs.connect rand
  case listenfor => exact hs.listenfor
  case write dta => exact hs.write dta
  case read size => exact hs.read hmeets
  case closeWrite => exact hs.closeWrite
  case close => exact hs.of_cleanup hmeets h.stream
  case tick clock => exact hs.tick hmeets
  case recvPkt data rand =>
    rw [History.step]
    cases hpkt : TcpPacket.readPacket data with
    | none => exact hs
    | some pkt => exact hs.handleIncoming rand (hmeets pkt hpkt)

end History

/-- In a run that shuts the stream down only when what had been accepted as the peer finished has
been returned, no read reports the end of the stream or an error before that. -/
theorem History.late_run {calls : List Call} (h : machine.Along Meets new calls) :
  machine.Along Late new calls
  := by
  apply Machine.along_of_step _ sound_new h
  intro h call hs hmeets
  exact ⟨hs.late hmeets, hs.step hmeets⟩

namespace History

instance decidableRounds (C : History → TcpPacket → Prop) [∀ h pkt, Decidable (C h pkt)] :
    ∀ n h, Decidable (Rounds C n h)
  | 0, _ => .isTrue trivial
  | n + 1, h =>
      @Option.decidableForallMem _ _ (fun _ =>
        @instDecidableAnd _ _ _ (decidableRounds C n _)) h.stream.nextPkt.1

instance (h : History) (pkt : TcpPacket) : Decidable (h.Drained pkt) :=
  inferInstanceAs (Decidable (_ → _))

instance decidableMeets (h : History) : ∀ call, Decidable (h.Meets call)
  | .read _ => inferInstanceAs (Decidable (_ < _))
  | .close => inferInstanceAs (Decidable (_ <+: _))
  | .tick _ => inferInstanceAs (Decidable (_ → _))
  | .recvPkt _ _ => inferInstanceAs (Decidable (∀ pkt ∈ _, ∀ s ∈ _, _))
  | .connect _ | .listenfor | .write _ | .closeWrite => .isTrue trivial

instance decidableLate (h : History) : ∀ call, Decidable (h.Late call)
  | .read _ => inferInstanceAs (Decidable (_ → _ → _))
  | .connect _ | .listenfor | .write _ | .closeWrite | .close | .tick _ | .recvPkt _ _ =>
      .isTrue trivial

/-- Packets of a peer whose SYN has the number `100`, as they arrive. -/
def arrives (pkt : TcpPacket) : Call := .recvPkt (pkt.writePacket 1020) 500

/-- A connection that is accepted, and the local side finishes; its FIN is acknowledged by a packet
with three bytes. -/
def halfClosed : List Call :=
  [.listenfor, arrives (TcpPacket.setSyn { seqno := 100 }),
    arrives (TcpPacket.setAck { seqno := 101 } 501), .closeWrite, .tick {},
    arrives (TcpPacket.setAck { seqno := 101, data := [1, 2, 3] } 501)]

/-- The FIN of the peer. -/
def peerFin : Call := arrives ((TcpPacket.setFin { seqno := 104 }).setAck 501)

/-- With the bytes read before it, the FIN loses nothing. -/
theorem late_run_read :
  machine.Along Late new (halfClosed ++ [.read 10, peerFin, .read 10])
  := late_run (by decide +kernel)

/-- With the bytes not yet read, the FIN loses them: the read after it reports an error. -/
theorem not_late_finWait2 :
  ¬ machine.Along Late new (halfClosed ++ [peerFin, .read 10])
  := by
  decide +kernel

end History

end TcpOnUdp
