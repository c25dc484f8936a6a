import RetroShare.TcpOnUdp.Retransmissions

/-!
# The acknowledged position

An `Exchange` is an established stream with the numbers that its peer has had.  The packets of the
peer arrive in any order, any number of times.  `check_InPkts` only takes an acknowledgement that is
newer than the last one, and `incoming_Established` any one whose packet lies in the window, so that
`outAcked` never moves back in a run in which no such packet acknowledges less than is acknowledged
(`advances_run`).
-/

namespace TcpOnUdp

/-- The position of a number in a sequence that begins at `base`. -/
def position (base x : UInt32) : Nat := (x - base).toNat

variable (base : UInt32)

theorem position_self :
  position base base = 0
  := by
  rw [position, UInt32.sub_self]
  rfl

/-- Of two numbers less than half of the sequence behind its beginning, the old one is before. -/
theorem isOldSequence_iff_position {base x y : UInt32} (hx : position base x < 2 ^ 31)
    (hy : position base y < 2 ^ 31) :
  isOldSequence x y ↔ position base x < position base y
  := by
  have hbase := base.toNat_lt
  have hx' := x.toNat_lt
  have hy' := y.toNat_lt
  rw [isOldSequence_iff]
  simp only [position, UInt32.toNat_sub] at *
  omega

/-- What is sent moves the end of a sequence on. -/
theorem position_add_ofNat {n : Nat} (h : n < 2 ^ 32) :
  position base (base + .ofNat n) = n
  := by
  rw [position, UInt32.add_comm, UInt32.add_sub_cancel, UInt32.toNat_ofNat_of_lt' h]

namespace TcpStream

variable (s : TcpStream) (pkt : TcpPacket)

/-- The first number after the SYN. -/
def start : UInt32 := s.initOurSeqno + 1

/-- A packet lies in the window: `incoming_Established` uses its acknowledgement. -/
def InWindow : Bool :=
  !isOldSequence pkt.seqno s.inAckno && isOldSequence pkt.seqno (s.inAckno + tcpMaxWin)

/-- The bytes that a call sends for the first time. -/
def sentBy : Call → Nat
  | .tick clock =>
      let s := (s.recv_check clock).acknowledge.retrans clock
      if TcpState.established.num ≤ s.state.num ∧ s.peerKnown then s.sentBytes else 0
  | _ => 0

/-- The numbers of what is sent stay. -/
structure SameNumbers (s s' : TcpStream) : Prop where
  outSeqno : s'.outSeqno = s.outSeqno
  outAcked : s'.outAcked = s.outAcked
  initOurSeqno : s'.initOurSeqno = s.initOurSeqno

variable {s} {s' s'' : TcpStream}

theorem SameNumbers.trans (h : s.SameNumbers s') (h' : s'.SameNumbers s'') :
  s.SameNumbers s''
  where
  outSeqno := h'.outSeqno.trans h.outSeqno
  outAcked := h'.outAcked.trans h.outAcked
  initOurSeqno := h'.initOurSeqno.trans h.initOurSeqno

variable (s)

theorem sameNumbers_sendAck :
  s.SameNumbers s.sendAck
  where
  outSeqno := s.outSeqno_sendAck
  outAcked := congrArg Connection.outAcked s.toConnection_sendAck
  initOurSeqno := congrArg Connection.initOurSeqno s.toConnection_sendAck

theorem sameNumbers_takeFin :
  s.SameNumbers (s.takeFin pkt)
  := by
  have hack := s.sameNumbers_sendAck
  rw [takeFin]
  split
  case isTrue =>
    simp only []
    split <;> exact ⟨hack.1, hack.2, hack.3⟩
  case isFalse => exact ⟨rfl, rfl, rfl⟩

theorem sameNumbers_takeFinAck :
  s.SameNumbers (s.takeFinAck pkt)
  := by
  rw [takeFinAck]
  split
  case isTrue => split <;> exact ⟨rfl, rfl, rfl⟩
  case isFalse => exact ⟨rfl, rfl, rfl⟩

/-- A packet that is taken changes no number but `outAcked`. -/
theorem sameNumbers_takePkt :
  (s.useAck pkt).SameNumbers (s.takePkt pkt)
  := by
  have habsorb : (s.useAck pkt).SameNumbers (s.absorb pkt) := ⟨rfl, rfl, rfl⟩
  exact (habsorb.trans ((s.absorb pkt).sameNumbers_takeFin pkt)).trans
    (sameNumbers_takeFinAck _ pkt)

/-- A queued packet changes no number but `outAcked`, which becomes its acknowledgement. -/
theorem queuePkt_numbers :
  (s.queuePkt pkt).outSeqno = s.outSeqno ∧ (s.queuePkt pkt).initOurSeqno = s.initOurSeqno ∧
    (s.queuePkt pkt).outAcked = if s.InWindow pkt && pkt.hasAck then pkt.ackno else s.outAcked
  := by
  have hack := s.sameNumbers_sendAck
  rw [queuePkt, InWindow]
  simp only []
  split
  case isTrue h =>
    rw [h, Bool.true_and]
    exact ⟨rfl, rfl, rfl⟩
  case isFalse h =>
    rw [Bool.not_eq_true] at h
    rw [h, Bool.false_and, if_neg Bool.false_ne_true]
    exact ⟨hack.outSeqno, hack.initOurSeqno, hack.outAcked⟩

theorem mem_queuePkt {pkt' : TcpPacket} (h : pkt' ∈ (s.queuePkt pkt).inPkt) :
  pkt' ∈ s.inPkt ∨ pkt' = pkt
  := by
  have hmem : pkt' ∈ s.inPkt ++ [pkt] := by
    rw [queuePkt] at h
    simp only [] at h
    have hsame : ∀ inPkt : List TcpPacket,
        pkt' ∈ (if kMaxQueueSize < inPkt.length then inPkt.tail else inPkt) → pkt' ∈ inPkt := by
      intro inPkt hmem
      split at hmem
      · exact List.mem_of_mem_tail hmem
      · exact hmem
    split at h
    · exact hsame _ h
    · have hall := hsame _ h
      rwa [sendAck, inPkt_toSend] at hall
  simpa using hmem

/-- The packets that are found, and those that are left, were queued. -/
theorem mem_findPkt {inAckno : UInt32} {pkts : List TcpPacket} :
  (∀ pkt ∈ (findPkt inAckno pkts).1, pkt ∈ pkts) ∧ (findPkt inAckno pkts).2 ⊆ pkts
  := by
  induction pkts with
  | nil =>
    constructor
    · intro pkt h
      cases h
    · exact List.Subset.refl _
  | cons pkt pkts ih =>
    rw [findPkt]
    split
    case isTrue =>
      constructor
      · rintro _ ⟨⟩
        exact List.mem_cons_self
      · exact List.subset_cons_self _ _
    case isFalse =>
      split
      case isTrue =>
        exact ⟨fun pkt h => List.mem_cons_of_mem _ (ih.1 pkt h),
          fun pkt h => List.mem_cons_of_mem _ (ih.2 h)⟩
      case isFalse =>
        exact ⟨fun pkt h => List.mem_cons_of_mem _ (ih.1 pkt h), List.cons_subset_cons _ ih.2⟩

theorem inPkt_takePkt_subset :
  (s.takePkt pkt).inPkt ⊆ s.inPkt
  := by
  cases h : s.finishes pkt with
  | true =>
    obtain ⟨s', heq⟩ := s.takePkt_of_finishes pkt h
    rw [heq]
    exact List.nil_subset _
  | false =>
    rw [(s.takePkt_of_not pkt h).2.1]
    exact List.Subset.refl _

/-- The packets that are taken were queued. -/
theorem mem_of_mem_rounds {n : Nat} {s : TcpStream} {r : TcpStream × TcpPacket}
    (h : r ∈ rounds n s) :
  r.2 ∈ s.inPkt
  := by
  induction n generalizing s with
  | zero => cases h
  | succ n ih =>
    have hfind := @mem_findPkt s.inAckno s.inPkt
    have hsame : s.nextPkt = ((findPkt s.inAckno s.inPkt).1,
      { s with inPkt := (findPkt s.inAckno s.inPkt).2 }) := rfl
    rw [rounds, hsame] at h
    cases hpkt : (findPkt s.inAckno s.inPkt).1 with
    | none =>
      rw [hpkt] at h
      cases h
    | some pkt =>
      rw [hpkt] at h hfind
      rcases List.mem_cons.1 h with rfl | h
      · exact hfind.1 pkt rfl
      · exact hfind.2 (inPkt_takePkt_subset _ pkt (ih h))

theorem inPkt_takePkts_subset {n : Nat} {s : TcpStream} :
  (takePkts n s).inPkt ⊆ s.inPkt
  := by
  induction n generalizing s with
  | zero => exact List.Subset.refl _
  | succ n ih =>
    have hfind := @mem_findPkt s.inAckno s.inPkt
    have hsame : s.nextPkt = ((findPkt s.inAckno s.inPkt).1,
      { s with inPkt := (findPkt s.inAckno s.inPkt).2 }) := rfl
    rw [takePkts, hsame]
    cases hpkt : (findPkt s.inAckno s.inPkt).1 with
    | none => exact hfind.2
    | some pkt =>
      exact fun pkt' h => hfind.2 (inPkt_takePkt_subset _ pkt (ih h))

end TcpStream

/-- An established stream, with the numbers that its peer has had: what it has sent up to, and what
it acknowledges. -/
structure Exchange where
  stream : TcpStream
  had : List (UInt32 × UInt32)
  /-- The bytes that the stream has sent. -/
  sent : Nat

/-- What happens: a call of the stream, or the peer goes on to other numbers. -/
inductive Progress
  | call (call : Call)
  | peer (seqno ackno : UInt32)

namespace Exchange

variable (x : Exchange)

/-- The exchange after an event. -/
def step : Progress → Exchange
  | .call call =>
      { x with stream := x.stream.step call, sent := x.sent + x.stream.sentBy call }
  | .peer seqno ackno => { x with had := x.had ++ [(seqno, ackno)] }

/-- The exchanges of a stream with its peer. -/
def machine : Machine Exchange Progress Empty where
  step x e := (x.step e, [])

/-- The position of a number in the sequence of the stream. -/
def pos (number : UInt32) : Nat := position x.stream.start number

/-- Less than `2 ^ 31` bytes have been sent, and what has been acknowledged is among them. -/
structure Valid : Prop where
  outSeqno : x.stream.outSeqno = x.stream.start + .ofNat x.sent
  sent : x.sent < 2 ^ 31
  outAcked : x.pos x.stream.outAcked ≤ x.sent
  had : ∀ numbers ∈ x.had, x.pos numbers.2 ≤ x.sent
  inPkt : ∀ pkt ∈ x.stream.inPkt, pkt.hasAck → x.pos pkt.ackno ≤ x.sent

/-- The connection is open, the packets that arrive have numbers that the peer has had, the peer
acknowledges what has been sent and does not go back, and less than `2 ^ 31` bytes are sent. -/
def Open : Progress → Prop
  | .call (.recvPkt data _) => x.stream.Live ∧
      ∀ pkt ∈ TcpPacket.readPacket data, pkt.hasAck → (pkt.seqno, pkt.ackno) ∈ x.had
  | .call call => x.stream.Live ∧ x.sent + x.stream.sentBy call < 2 ^ 31
  | .peer seqno ackno => x.pos ackno ≤ x.sent ∧
      ∀ numbers ∈ x.had, isOldSequence seqno numbers.1 = false ∧ x.pos numbers.2 ≤ x.pos ackno

/-- No packet in the window acknowledges less than is acknowledged. -/
def Newest : Progress → Prop
  | .call (.recvPkt data _) => ∀ pkt ∈ TcpPacket.readPacket data, x.stream.InWindow pkt →
      pkt.hasAck → isOldSequence pkt.ackno x.stream.outAcked = false
  | _ => True

/-- What is acknowledged does not move back, and lies between the beginning and `outSeqno`. -/
structure Advances (e : Progress) : Prop where
  notBack : isOldSequence (x.step e).stream.outAcked x.stream.outAcked = false
  start : isOldSequence (x.step e).stream.outAcked (x.step e).stream.start = false
  outSeqno : isOldSequence (x.step e).stream.outSeqno (x.step e).stream.outAcked = false

variable {x} {s : TcpStream} {call : Call}

/-- A stream with the same beginning, that has sent `n` bytes more and acknowledged no less. -/
structure Onward (x : Exchange) (s : TcpStream) (n : Nat) : Prop where
  initOurSeqno : s.initOurSeqno = x.stream.initOurSeqno
  outSeqno : s.outSeqno = x.stream.outSeqno + .ofNat n
  notBack : x.pos x.stream.outAcked ≤ x.pos s.outAcked
  outAcked : x.pos s.outAcked ≤ x.sent
  inPkt : ∀ pkt ∈ s.inPkt, pkt.hasAck → x.pos pkt.ackno ≤ x.sent

theorem Valid.onward (h : x.Valid) (hs : x.stream.SameNumbers s)
    (hpkts : s.inPkt ⊆ x.stream.inPkt) :
  x.Onward s 0
  where
  initOurSeqno := hs.initOurSeqno
  outSeqno := hs.outSeqno.trans (UInt32.add_zero _).symm
  notBack := by rw [hs.outAcked]
  outAcked := by
    rw [hs.outAcked]
    exact h.outAcked
  inPkt pkt hpkt := h.inPkt pkt (hpkts hpkt)

theorem Onward.valid {n : Nat} (h : x.Onward s n) (hx : x.Valid) (hn : x.sent + n < 2 ^ 31) :
  Valid { x with stream := s, sent := x.sent + n }
  := by
  have hsame : s.start = x.stream.start := congrArg (· + 1) h.initOurSeqno
  have hpos : ∀ number, Exchange.pos { x with stream := s, sent := x.sent + n } number =
      x.pos number := by
    intro number
    rw [Exchange.pos, Exchange.pos, hsame]
  constructor
  · change s.outSeqno = s.start + .ofNat (x.sent + n)
    rw [hsame, h.outSeqno, hx.outSeqno, UInt32.ofNat_add, UInt32.add_assoc]
  · exact hn
  · rw [hpos]
    exact le_trans h.outAcked (Nat.le_add_right _ _)
  · intro numbers hnumbers
    rw [hpos]
    exact le_trans (hx.had numbers hnumbers) (Nat.le_add_right _ _)
  · intro pkt hpkt hack
    rw [hpos]
    exact le_trans (h.inPkt pkt hpkt hack) (Nat.le_add_right _ _)

theorem Onward.advances {n : Nat} (h : x.Onward s n) (hx : x.Valid) (hn : x.sent + n < 2 ^ 31) :
  isOldSequence s.outAcked x.stream.outAcked = false ∧ isOldSequence s.outAcked s.start = false ∧
    isOldSequence s.outSeqno s.outAcked = false
  := by
  have hsame : s.start = x.stream.start := congrArg (· + 1) h.initOurSeqno
  have hsent := hx.sent
  have hacked := h.outAcked
  have hback := h.notBack
  have hpos : x.pos s.outSeqno = x.sent + n := by
    rw [Exchange.pos, h.outSeqno, hx.outSeqno, UInt32.add_assoc, ← UInt32.ofNat_add,
      position_add_ofNat _ (by omega)]
  have hstart : x.pos s.start = 0 := by
    rw [Exchange.pos, hsame, position_self]
  have hold : ∀ a b, x.pos a < 2 ^ 31 → x.pos b ≤ x.pos a → isOldSequence a b = false := by
    intro a b ha hle
    rw [Bool.eq_false_iff, Ne, isOldSequence_iff_position ha (lt_of_le_of_lt hle ha), Nat.not_lt]
    exact hle
  refine ⟨hold _ _ ?_ hback, hold _ _ ?_ ?_, hold _ _ ?_ ?_⟩ <;> omega

/-! ### Calls -/

theorem outSeqno_tick (s : TcpStream) (clock : Clock) :
  (s.tick clock).outSeqno = s.outSeqno + .ofNat (s.sentBy (.tick clock))
  := by
  have hsame : ((s.recv_check clock).acknowledge.retrans clock).outSeqno = s.outSeqno := by
    rw [TcpStream.outSeqno_retrans, TcpStream.outSeqno_acknowledge, TcpStream.recv_check]
    split <;> rfl
  rw [TcpStream.tick, TcpStream.send, TcpStream.sentBy]
  generalize (s.recv_check clock).acknowledge.retrans clock = s' at hsame
  split
  case isTrue hdown =>
    rw [if_neg fun h => Nat.not_lt.2 h.1 hdown, hsame]
    exact (UInt32.add_zero _).symm
  case isFalse hlive =>
    rw [(s'.sentMore_sendData clock).outSeqno, ← hsame]
    cases hpeer : s'.peerKnown with
    | true => rw [if_pos rfl, if_pos ⟨Nat.not_lt.1 hlive, rfl⟩]
    | false =>
      rw [if_neg Bool.false_ne_true, if_neg fun h => Bool.false_ne_true h.2]
      exact (UInt32.add_zero _).symm

theorem Valid.onward_tick (h : x.Valid) (clock : Clock) :
  x.Onward (x.stream.tick clock) (x.stream.sentBy (.tick clock))
  := by
  have hnumbers : (x.stream.tick clock).outAcked = x.stream.outAcked ∧
      (x.stream.tick clock).initOurSeqno = x.stream.initOurSeqno ∧
      (x.stream.tick clock).inPkt ⊆ x.stream.inPkt := by
    rcases x.stream.tick_cases clock with ⟨-, line, -, heq⟩ | ⟨-, inQueue, inData, heq⟩ |
      ⟨-, state, line, -, inQueue, heq⟩
    · rw [heq]
      exact ⟨rfl, rfl, List.nil_subset _⟩
    · rw [heq]
      exact ⟨rfl, rfl, List.Subset.refl _⟩
    · rw [heq]
      exact ⟨rfl, rfl, List.Subset.refl _⟩
  obtain ⟨hacked, hinit, hpkts⟩ := hnumbers
  constructor
  · exact hinit
  · exact outSeqno_tick x.stream clock
  · rw [hacked]
  · rw [hacked]
    exact h.outAcked
  · intro pkt hpkt
    exact h.inPkt pkt (hpkts hpkt)

/-- The packets that are taken do not move back what is acknowledged. -/
theorem Onward.check_InPkts (h : x.Onward s 0) (hx : x.Valid) :
  x.Onward s.check_InPkts 0
  := by
  have hsent := hx.sent
  have hrounds : s.check_InPkts.initOurSeqno = x.stream.initOurSeqno ∧
      s.check_InPkts.outSeqno = x.stream.outSeqno + .ofNat 0 ∧
      x.pos x.stream.outAcked ≤ x.pos s.check_InPkts.outAcked ∧
      x.pos s.check_InPkts.outAcked ≤ x.sent := by
    apply TcpStream.takePkts_of_step
      (P := fun s => s.initOurSeqno = x.stream.initOurSeqno ∧
        s.outSeqno = x.stream.outSeqno + .ofNat 0 ∧
        x.pos x.stream.outAcked ≤ x.pos s.outAcked ∧ x.pos s.outAcked ≤ x.sent)
      (C := fun _ pkt => pkt.hasAck → x.pos pkt.ackno ≤ x.sent)
    · intro s inPkt hs
      exact hs
    · rintro s pkt ⟨hinit, hseqno, hback, hacked⟩ hpkt
      have htaken := s.sameNumbers_takePkt pkt
      rw [htaken.initOurSeqno, htaken.outSeqno, htaken.outAcked]
      refine ⟨hinit, hseqno, ?_⟩
      rw [TcpStream.useAck]
      simp only []
      split
      case isTrue hnew =>
        rw [Bool.and_eq_true] at hnew
        obtain ⟨hack, hold⟩ := hnew
        have hle := hpkt hack
        have hlt := (isOldSequence_iff_position (lt_of_le_of_lt hacked hsent)
          (lt_of_le_of_lt hle hsent)).1 hold
        exact ⟨le_trans hback (Nat.le_of_lt hlt), hle⟩
      case isFalse => exact ⟨hback, hacked⟩
    · exact ⟨h.initOurSeqno, h.outSeqno, h.notBack, h.outAcked⟩
    · intro r hr
      exact h.inPkt r.2 (TcpStream.mem_of_mem_rounds hr)
  obtain ⟨hinit, hseqno, hback, hacked⟩ := hrounds
  exact ⟨hinit, hseqno, hback, hacked, fun pkt hpkt =>
    h.inPkt pkt (TcpStream.inPkt_takePkts_subset hpkt)⟩

/-- A packet that arrives does not move back what is acknowledged when it is not in the window with
an older acknowledgement. -/
theorem Valid.onward_handleIncoming (h : x.Valid) (hlive : x.stream.Live) {pkt : TcpPacket}
    (rand : UInt32) (hhad : pkt.hasAck → (pkt.seqno, pkt.ackno) ∈ x.had)
    (hnewest : x.stream.InWindow pkt → pkt.hasAck →
      isOldSequence pkt.ackno x.stream.outAcked = false) :
  x.Onward (x.stream.handleIncoming pkt rand) 0
  := by
  have hsent := h.sent
  have hacked := h.outAcked
  have hack : pkt.hasAck → x.pos pkt.ackno ≤ x.sent := fun hack => h.had (pkt.seqno, pkt.ackno) (hhad hack)
  obtain ⟨hseqno, hinit, hnew⟩ := x.stream.queuePkt_numbers pkt
  have hqueued : x.Onward (x.stream.queuePkt pkt) 0 := by
    constructor
    · exact hinit
    · exact hseqno.trans (UInt32.add_zero _).symm
    · rw [hnew]
      split
      case isTrue huse =>
        rw [Bool.and_eq_true] at huse
        have hle := hack huse.2
        have hold := hnewest huse.1 huse.2
        rw [Bool.eq_false_iff, Ne, isOldSequence_iff_position (lt_of_le_of_lt hle hsent)
          (lt_of_le_of_lt hacked hsent), Nat.not_lt] at hold
        exact hold
      case isFalse => exact le_refl _
    · rw [hnew]
      split
      case isTrue huse =>
        rw [Bool.and_eq_true] at huse
        exact hack huse.2
      case isFalse => exact hacked
    · intro pkt' hpkt
      rcases x.stream.mem_queuePkt pkt hpkt with hpkt | rfl
      · exact h.inPkt pkt' hpkt
      · exact hack
  have hestablished := hqueued.check_InPkts h
  rw [Connection.Live] at hlive
  rw [TcpStream.handleIncoming]
  cases hstate : x.stream.state <;> rw [hstate] at hlive <;> dsimp only
  case timedWait => exact h.onward ⟨rfl, rfl, rfl⟩ (List.Subset.refl _)
  all_goals first
    | exact absurd hlive (by decide)
    | exact hestablished

theorem sameNumbers_step (hlive : s.Live) (htick : ∀ clock, call ≠ .tick clock)
    (hrecv : ∀ data rand, call ≠ .recvPkt data rand) :
  s.SameNumbers (s.step call) ∧ (s.step call).inPkt ⊆ s.inPkt
  := by
  have hopen : s.state ≠ .closed := by
    intro hclosed
    rw [Connection.Live, hclosed] at hlive
    exact absurd hlive (by decide)
  cases call with
  | connect rand =>
    change s.SameNumbers (s.connect rand).1 ∧ (s.connect rand).1.inPkt ⊆ s.inPkt
    rw [TcpStream.connect]
    simp only []
    rw [if_pos hopen]
    split
    case isTrue => exact ⟨⟨rfl, rfl, rfl⟩, List.Subset.refl _⟩
    case isFalse => split <;> exact ⟨⟨rfl, rfl, rfl⟩, List.Subset.refl _⟩
  | listenfor =>
    change s.SameNumbers s.listenfor.1 ∧ s.listenfor.1.inPkt ⊆ s.inPkt
    rw [TcpStream.listenfor]
    simp only []
    split
    case isTrue => exact ⟨⟨rfl, rfl, rfl⟩, List.Subset.refl _⟩
    case isFalse => split <;> exact ⟨⟨rfl, rfl, rfl⟩, List.Subset.refl _⟩
  | write dta =>
    change s.SameNumbers (s.write dta).1 ∧ (s.write dta).1.inPkt ⊆ s.inPkt
    rw [TcpStream.write]
    repeat
      split
      case isTrue => exact ⟨⟨rfl, rfl, rfl⟩, List.Subset.refl _⟩
    exact ⟨⟨rfl, rfl, rfl⟩, List.Subset.refl _⟩
  | read size =>
    change s.SameNumbers (s.read size).1 ∧ (s.read size).1.inPkt ⊆ s.inPkt
    rw [TcpStream.read]
    repeat
      split
      case isTrue => exact ⟨⟨rfl, rfl, rfl⟩, List.Subset.refl _⟩
    obtain ⟨outDataRead, outDataNet, outQueue, heq⟩ :=
      s.readData_eq (min size s.int_read_pending.toNat)
    simp only [heq]
    exact ⟨⟨rfl, rfl, rfl⟩, List.Subset.refl _⟩
  | closeWrite =>
    change s.SameNumbers s.closeWrite.1 ∧ s.closeWrite.1.inPkt ⊆ s.inPkt
    rw [TcpStream.closeWrite]
    simp only []
    split <;> exact ⟨⟨rfl, rfl, rfl⟩, List.Subset.refl _⟩
  | close => exact ⟨⟨rfl, rfl, rfl⟩, List.nil_subset _⟩
  | tick clock => exact absurd rfl (htick clock)
  | recvPkt data rand => exact absurd rfl (hrecv data rand)

theorem Valid.onward_quiet (h : x.Valid) (hlive : x.stream.Live)
    (htick : ∀ clock, call ≠ .tick clock) (hrecv : ∀ data rand, call ≠ .recvPkt data rand)
    (hsent : x.stream.sentBy call = 0) :
  x.Onward (x.stream.step call) (x.stream.sentBy call)
  := by
  obtain ⟨hsame, hpkts⟩ := sameNumbers_step hlive htick hrecv
  rw [hsent]
  exact h.onward hsame hpkts

theorem Valid.onward_step (h : x.Valid) (hopen : x.Open (.call call))
    (hnewest : x.Newest (.call call)) :
  x.Onward (x.stream.step call) (x.stream.sentBy call) ∧ x.sent + x.stream.sentBy call < 2 ^ 31
  := by
  cases call
  case tick clock => exact ⟨h.onward_tick clock, hopen.2⟩
  case recvPkt data rand =>
    refine ⟨?_, h.sent⟩
    obtain ⟨hlive, hhad⟩ := hopen
    change x.Onward (x.stream.recvPkt data rand) 0
    rw [TcpStream.recvPkt]
    cases hpkt : TcpPacket.readPacket data with
    | none => exact h.onward ⟨rfl, rfl, rfl⟩ (List.Subset.refl _)
    | some pkt => exact h.onward_handleIncoming hlive rand (hhad pkt hpkt) (hnewest pkt hpkt)
  all_goals
    refine ⟨h.onward_quiet hopen.1 ?_ ?_ rfl, h.sent⟩
    · rintro _ ⟨⟩
    · rintro _ _ ⟨⟩

theorem Valid.advances (h : x.Valid) {e : Progress} (hopen : x.Open e) (hnewest : x.Newest e) :
  x.Advances e ∧ (x.step e).Valid
  := by
  cases e with
  | call call =>
    obtain ⟨honward, hsent⟩ := h.onward_step hopen hnewest
    obtain ⟨hback, hstart, hseqno⟩ := honward.advances h hsent
    exact ⟨⟨hback, hstart, hseqno⟩, honward.valid h hsent⟩
  | peer seqno ackno =>
    have honward := h.onward ⟨rfl, rfl, rfl⟩ (List.Subset.refl _)
    obtain ⟨hback, hstart, hseqno⟩ := honward.advances h h.sent
    refine ⟨⟨hback, hstart, hseqno⟩, h.outSeqno, h.sent, h.outAcked, ?_, h.inPkt⟩
    intro numbers hnumbers
    rcases List.mem_append.1 hnumbers with hnumbers | hnumbers
    · exact h.had numbers hnumbers
    · rw [List.mem_singleton] at hnumbers
      rw [hnumbers]
      exact hopen.1

end Exchange

/-- In a run in which no packet in the window acknowledges less than is acknowledged, what is
acknowledged never moves back, and lies between the beginning of the sequence and `outSeqno`. -/
theorem Exchange.advances_run {x : Exchange} (h : x.Valid) {events : List Progress}
    (hopen : machine.Along Open x events) (hnewest : machine.Along Newest x events) :
  machine.Along Advances x events
  := by
  apply Machine.along_of_step _ h (hopen.and hnewest)
  rintro x e hx ⟨hopen, hnewest⟩
  exact hx.advances hopen hnewest

namespace Exchange

instance decidableOpen (x : Exchange) : ∀ e, Decidable (x.Open e)
  | .call (.recvPkt _ _) => inferInstanceAs (Decidable (_ ∧ ∀ pkt ∈ TcpPacket.readPacket _, _ → _))
  -- The numbers that the peer had are looked through, and not all numbers there are.
  | .peer _ _ => @instDecidableAnd _ _ (Nat.decLe _ _) (List.decidableBAll _ _)
  | .call (.connect _) | .call .listenfor | .call (.write _) | .call (.read _)
  | .call .closeWrite | .call .close | .call (.tick _) => inferInstanceAs (Decidable (_ ∧ _))

instance decidableNewest (x : Exchange) : ∀ e, Decidable (x.Newest e)
  | .call (.recvPkt _ _) =>
      inferInstanceAs (Decidable (∀ pkt ∈ TcpPacket.readPacket _, _ → _ → _))
  | .peer _ _ | .call (.connect _) | .call .listenfor | .call (.write _) | .call (.read _)
  | .call .closeWrite | .call .close | .call (.tick _) => .isTrue trivial

/-- A connection that has been opened, with the largest windows. -/
def opened : Exchange where
  stream := { Net.connected .a with congestWinSize := tcpMaxWin }
  had := [(1, 1)]
  sent := 0

theorem valid_opened :
  opened.Valid
  where
  outSeqno := rfl
  sent := by decide
  outAcked := by decide +kernel
  had numbers hnumbers := by
    obtain rfl := List.mem_singleton.mp hnumbers
    decide +kernel
  inPkt _ hpkt := absurd hpkt List.not_mem_nil

/-- The acknowledgement `ackno` of a peer that has sent nothing. -/
def acknowledges (ackno : UInt32) : Progress :=
  .call (.recvPkt ((TcpPacket.setAck { seqno := 1, winsize := 65500 } ackno).writePacket 1020) 0)

/-- Two segments are sent, and the peer acknowledges the first one, and then both. -/
def twoSegments : List Progress :=
  [.call (.write (List.replicate 2000 0)), .call (.tick {}), .peer 1 1001, .peer 1 2001]

/-- The acknowledgements arrive in the order in which they were sent. -/
theorem advances_inOrder :
  machine.Along Advances opened (twoSegments ++ [acknowledges 1001, acknowledges 2001])
  := advances_run valid_opened (by decide +kernel) (by decide +kernel)

/-- They arrive in the other order. -/
theorem not_advances_reordered :
  ¬ ∀ x events, x.Valid → machine.Along Open x events → machine.Along Advances x events
  := by
  intro h
  have hback := h opened (twoSegments ++ [acknowledges 2001, acknowledges 1001]) valid_opened
    (by decide +kernel)
  rw [Machine.along_iff] at hback
  have hlast := hback (twoSegments ++ [acknowledges 2001]) (acknowledges 1001) [] rfl
  have hold := hlast.notBack
  revert hold
  decide +kernel

end Exchange

end TcpOnUdp
