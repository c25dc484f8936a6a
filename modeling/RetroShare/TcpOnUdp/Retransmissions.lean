import RetroShare.TcpOnUdp.FinAcks
import RetroShare.TcpOnUdp.ReceiveBuffer
import RetroShare.TcpOnUdp.SendWindow

/-!
# What is sent again

The packets that wait for an acknowledgement follow one another in the sequence up to `outSeqno`,
and take up some of its numbers each, as long as no SYN without an acknowledgement comes after the
own SYN (`idles_run`).  The acknowledgement that answers such a SYN takes up no number and is kept as
well: when all is acknowledged it still waits.
-/

namespace TcpOnUdp

variable {curr : UInt32} {pkts : List TcpPacket}

theorem isOldSequence_iff {tst : UInt32} :
  isOldSequence tst curr ↔ 2 ^ 31 ≤ (tst - curr).toNat
  := by
  have hint : (tst - curr).toInt32.toInt = (tst - curr).toBitVec.toInt := rfl
  rw [isOldSequence, decide_eq_true_iff, Int32.lt_iff_toInt_lt, hint, BitVec.toInt_eq_toNat_cond]
  have hlt := (tst - curr).toNat_lt
  change _ < (0 : Int) ↔ 2 ^ 31 ≤ (tst - curr).toBitVec.toNat
  change (tst - curr).toBitVec.toNat < _ at hlt
  split <;> omega

/-- The numbers of the sequence that a packet takes up. -/
def TcpPacket.space (pkt : TcpPacket) : Nat := pkt.datasize + if pkt.hasSyn then 1 else 0

/-- The numbers that some packets take up. -/
def space (pkts : List TcpPacket) : Nat := (pkts.map TcpPacket.space).sum

/-- The packets take up the numbers before `curr`, one after the other and some each. -/
def Chain (curr : UInt32) : List TcpPacket → Prop
  | [] => True
  | pkt :: pkts =>
      0 < pkt.space ∧ pkt.seqno + .ofNat (space (pkt :: pkts)) = curr ∧ Chain curr pkts

@[simp]
theorem space_nil :
  space [] = 0
  := rfl

@[simp]
theorem space_cons (pkt : TcpPacket) (pkts : List TcpPacket) :
  space (pkt :: pkts) = pkt.space + space pkts
  := rfl

@[simp]
theorem space_append (pkts pkts' : List TcpPacket) :
  space (pkts ++ pkts') = space pkts + space pkts'
  := by
  rw [space, List.map_append, List.sum_append, space, space]

/-- A packet may follow. -/
theorem Chain.append (h : Chain curr pkts) {pkt : TcpPacket} (hseqno : pkt.seqno = curr)
    (hpos : 0 < pkt.space) :
  Chain (curr + .ofNat pkt.space) (pkts ++ [pkt])
  := by
  induction pkts with
  | nil =>
    refine ⟨hpos, ?_, trivial⟩
    rw [space_cons, space_nil, Nat.add_zero, hseqno]
  | cons pkt' pkts ih =>
    obtain ⟨hpos', hcurr, hrest⟩ := h
    have hspace : space (pkt' :: (pkts ++ [pkt])) = space (pkt' :: pkts) + pkt.space := by
      rw [← List.cons_append, space_append, space_cons pkt [], space_nil, Nat.add_zero]
    refine ⟨hpos', ?_, ih hrest⟩
    change pkt'.seqno + .ofNat (space (pkt' :: (pkts ++ [pkt]))) = _
    rw [hspace, UInt32.ofNat_add, ← UInt32.add_assoc, hcurr]

theorem Chain.of_append {pkts' : List TcpPacket} (h : Chain curr (pkts ++ pkts')) :
  Chain curr pkts'
  := by
  induction pkts with
  | nil => exact h
  | cons pkt pkts ih => exact ih h.2.2

namespace TcpPacket

variable (pkt : TcpPacket) (val : UInt32)

theorem flag_setAck {bit : UInt16} (h : tcpAckBit &&& bit = 0) :
  (pkt.setAck val).hlen_flags &&& bit = pkt.hlen_flags &&& bit
  := by
  have hnat := congrArg UInt16.toNat h
  rw [UInt16.toNat_and] at hnat
  apply UInt16.toNat_inj.1
  change ((pkt.hlen_flags ||| tcpAckBit) &&& bit).toNat = _
  rw [UInt16.toNat_and, UInt16.toNat_or, Nat.and_or_distrib_right, hnat, UInt16.toNat_and]
  exact Nat.or_zero _

@[simp]
theorem hasSyn_setAck :
  (pkt.setAck val).hasSyn = pkt.hasSyn
  := by
  rw [hasSyn, pkt.flag_setAck val (by decide), hasSyn]

@[simp]
theorem hasRst_setAck :
  (pkt.setAck val).hasRst = pkt.hasRst
  := by
  rw [hasRst, pkt.flag_setAck val (by decide), hasRst]

theorem hasRst_of_readPacket {pkt pkt' : TcpPacket} {size : Nat}
    (h : pkt' ∈ readPacket (pkt.writePacket size)) :
  pkt'.hasRst = pkt.hasRst
  := by
  by_cases hfits : tcpPseudoHdrSize + pkt.datasize ≤ size
  · rw [readPacket_writePacket hfits] at h
    cases h
    rfl
  · rw [writePacket, if_pos (Nat.not_le.1 hfits)] at h
    cases h

end TcpPacket

/-- What waits for an acknowledgement is a chain up to `outSeqno` that takes up `room` numbers at
most, and no reset is ever sent. -/
structure Transmission.Kept (t : Transmission) (room : Nat) : Prop where
  chain : Chain t.outSeqno t.outPkt
  room : space t.outPkt ≤ room
  congest : t.congestWinSize ≤ tcpMaxWin
  noRst : ∀ pkt ∈ t.outPkt, pkt.hasRst = false
  udp : ∀ data ∈ t.udp, ∀ pkt ∈ TcpPacket.readPacket data, pkt.hasRst = false

theorem Transmission.Kept.mono {t : Transmission} {room room' : Nat} (h : t.Kept room)
    (hle : room ≤ room') :
  t.Kept room'
  := { h with room := le_trans h.room hle }

namespace TcpStream

variable (s : TcpStream) (pkt : TcpPacket)

/-! ### Sending -/

@[simp]
theorem seqno_stamp :
  (s.stamp pkt).seqno = s.outSeqno
  := by
  rw [stamp]
  split <;> rfl

@[simp]
theorem hasSyn_stamp :
  (s.stamp pkt).hasSyn = pkt.hasSyn
  := by
  rw [stamp]
  split
  · rfl
  · exact TcpPacket.hasSyn_setAck _ _

@[simp]
theorem hasRst_stamp :
  (s.stamp pkt).hasRst = pkt.hasRst
  := by
  rw [stamp]
  split
  · rfl
  · exact TcpPacket.hasRst_setAck _ _

@[simp]
theorem data_stamp :
  (s.stamp pkt).data = pkt.data
  := by
  rw [stamp]
  split <;> rfl

@[simp]
theorem space_stamp :
  (s.stamp pkt).space = pkt.space
  := by
  rw [TcpPacket.space, TcpPacket.space, TcpPacket.datasize, data_stamp, hasSyn_stamp]

variable {s pkt} {room : Nat} {s' : TcpStream} (ptr : List UInt8)

/-- What has been sent has no reset. -/
theorem udp_toSend (h : s.toTransmission.Kept room) (hrst : pkt.hasRst = false) :
  ∀ data ∈ s.udp ++ [(s.stamp pkt).writePacket (maxSeg + tcpPseudoHdrSize)],
    ∀ pkt ∈ TcpPacket.readPacket data, pkt.hasRst = false
  := by
  intro data hdata pkt' hpkt
  rcases List.mem_append.1 hdata with hdata | hdata
  · exact h.udp data hdata pkt' hpkt
  · rw [List.mem_singleton] at hdata
    rw [hdata] at hpkt
    rw [TcpPacket.hasRst_of_readPacket hpkt, hasRst_stamp, hrst]

theorem outSeqno_toSend_eq :
  s.outSeqno + .ofNat pkt.datasize + (if pkt.hasSyn then 1 else 0) = s.outSeqno + .ofNat pkt.space
  := by
  rw [TcpPacket.space, UInt32.ofNat_add, UInt32.add_assoc]
  cases pkt.hasSyn <;> rfl

/-- A packet that takes up no number may be sent, if it is not sent again. -/
theorem kept_toSend_of_space (h : s.toTransmission.Kept room) (hspace : pkt.space = 0)
    (hrst : pkt.hasRst = false) :
  (s.toSend pkt false).toTransmission.Kept room
  := by
  rw [toSend]
  split
  case isFalse => exact h
  case isTrue =>
    have hsame : s.outSeqno + .ofNat pkt.datasize + (if pkt.hasSyn then 1 else 0) = s.outSeqno := by
      rw [outSeqno_toSend_eq, hspace]
      exact UInt32.add_zero _
    refine ⟨?_, h.room, h.congest, h.noRst, udp_toSend h hrst⟩
    simp only [hsame]
    exact h.chain

/-- A packet that takes up some numbers joins those that wait. -/
theorem kept_toSend (h : s.toTransmission.Kept room) (hpos : 0 < pkt.space)
    (hrst : pkt.hasRst = false) :
  (s.toSend pkt).toTransmission.Kept (room + pkt.space)
  := by
  rw [toSend]
  split
  case isFalse => exact h.mono (Nat.le_add_right _ _)
  case isTrue =>
    have hspace : ({ s.stamp pkt with retrans := 0 } : TcpPacket).space = pkt.space :=
      s.space_stamp pkt
    have hroom := h.room
    constructor
    · simp only [outSeqno_toSend_eq, if_true, ← hspace]
      have hseqno : ({ s.stamp pkt with retrans := 0 } : TcpPacket).seqno = s.outSeqno :=
        s.seqno_stamp pkt
      apply h.chain.append hseqno
      rwa [hspace]
    · simp only [if_true, space_append, space_cons, space_nil, hspace]
      omega
    · exact h.congest
    · simp only [if_true, List.forall_mem_append, List.forall_mem_singleton]
      refine ⟨h.noRst, ?_⟩
      change (s.stamp pkt).hasRst = false
      rw [hasRst_stamp, hrst]
    · exact udp_toSend h hrst

/-- What waits is kept, a closed stream has nothing that waits, and none listens. -/
structure Kept (s : TcpStream) (room : Nat) : Prop where
  sent : s.toTransmission.Kept room
  notListen : s.state ≠ .listen
  closed : s.state = .closed → s.outPkt = []

theorem kept_cleanup (s : TcpStream) (h : s.toTransmission.Kept room) :
  s.cleanup.Kept room
  where
  sent :=
    ⟨trivial, Nat.zero_le room, h.congest, fun _ hpkt => absurd hpkt List.not_mem_nil, h.udp⟩
  notListen := TcpState.noConfusion
  closed _ := rfl

theorem Kept.mono {room' : Nat} (h : s.Kept room) (hle : room ≤ room') :
  s.Kept room'
  := { h with sent := h.sent.mono hle }

theorem Kept.of_same (h : s.Kept room) (hsent : s'.toTransmission = s.toTransmission)
    (hstate : s'.state = s.state) :
  s'.Kept room
  where
  sent := hsent ▸ h.sent
  notListen := hstate ▸ h.notListen
  closed hclosed := by
    rw [hsent]
    exact h.closed (hstate ▸ hclosed)

theorem Kept.enter (h : s.Kept room) {state : TcpState} (line : StateLog)
    (hlisten : state ≠ .listen) (hclosed : state ≠ .closed) :
  (s.enter state line).Kept room
  where
  sent := h.sent
  notListen := hlisten
  closed h := absurd h hclosed

theorem outPkt_toSend_false (s : TcpStream) (pkt : TcpPacket) :
  (s.toSend pkt false).outPkt = s.outPkt
  := by
  rw [toSend]
  split <;> rfl

section

variable (h : s.Kept room)

include h

theorem Kept.toSend_of_space (hspace : pkt.space = 0) (hrst : pkt.hasRst = false) :
  (s.toSend pkt false).Kept room
  where
  sent := kept_toSend_of_space h.sent hspace hrst
  notListen := by
    rw [state_toSend]
    exact h.notListen
  closed := by
    rw [state_toSend, outPkt_toSend_false]
    exact h.closed

theorem Kept.sendAck :
  s.sendAck.Kept room
  := h.toSend_of_space rfl rfl

/-! ### Taking packets -/

theorem Kept.takeFin (pkt : TcpPacket) :
  (s.takeFin pkt).Kept room
  := by
  have hfin : Kept { s.sendAck with inStreamActive := false } room := h.sendAck.of_same rfl rfl
  rw [TcpStream.takeFin]
  split
  case isTrue =>
    simp only []
    split
    case h_1 => exact hfin.enter _ TcpState.noConfusion TcpState.noConfusion
    case h_2 => exact hfin.enter _ TcpState.noConfusion TcpState.noConfusion
    case h_3 => exact kept_cleanup _ hfin.sent
    case h_4 => exact hfin
  case isFalse => exact h

theorem Kept.takeFinAck (pkt : TcpPacket) :
  (s.takeFinAck pkt).Kept room
  := by
  rw [TcpStream.takeFinAck]
  split
  case isTrue =>
    split
    case h_1 => exact h.enter _ TcpState.noConfusion TcpState.noConfusion
    case h_2 => exact kept_cleanup _ h.sent
    case h_3 => exact kept_cleanup _ h.sent
    case h_4 => exact h
  case isFalse => exact h

theorem Kept.takePkt (pkt : TcpPacket) :
  (s.takePkt pkt).Kept room
  := by
  have habsorb : (s.absorb pkt).Kept room := h.of_same rfl rfl
  exact (habsorb.takeFin pkt).takeFinAck pkt

theorem Kept.incoming_Established (pkt : TcpPacket) :
  (s.incoming_Established pkt).Kept room
  := by
  have hqueue : (s.queuePkt pkt).Kept room := by
    rw [queuePkt]
    split
    · exact h.of_same rfl rfl
    · exact h.sendAck.of_same rfl rfl
  apply takePkts_of_step (P := fun s => s.Kept room) (C := fun _ _ => True)
  · intro s inPkt hs
    exact hs.of_same rfl rfl
  · intro s pkt hs _
    exact hs.takePkt pkt
  · exact hqueue
  · intro r _
    trivial

/-! ### Opening -/

/-- A stream whose sequence begins anew, with nothing that waits. -/
theorem kept_renumbered (hclosed : s.state = .closed) {t : Transmission}
    (hpkts : t.outPkt = s.outPkt) (hudp : t.udp = s.udp)
    (hcongest : t.congestWinSize = .ofNat maxSeg) :
  t.Kept 0
  := by
  rw [h.closed hclosed] at hpkts
  constructor
  · rw [hpkts]
    trivial
  · rw [hpkts]
    exact le_refl 0
  · rw [hcongest]
    decide
  · rw [hpkts]
    intro pkt hpkt
    cases hpkt
  · rw [hudp]
    exact h.sent.udp

end

theorem kept_syn (h : s.toTransmission.Kept 0) (hroom : 1 ≤ room) {pkt : TcpPacket}
    (hspace : pkt.space = 1) (hrst : pkt.hasRst = false)
    (hsent : s'.toTransmission = (s.toSend pkt).toTransmission) (hlisten : s'.state ≠ .listen)
    (hclosed : s'.state ≠ .closed) :
  s'.Kept room
  where
  sent := by
    have hsyn := kept_toSend h (by rw [hspace]; exact Nat.one_pos) hrst
    rw [hspace] at hsyn
    rw [hsent]
    exact hsyn.mono hroom
  notListen := hlisten
  closed h := absurd h hclosed

theorem Kept.connect (h : s.Kept room) (hroom : 1 ≤ room) (rand : UInt32) :
  (s.connect rand).1.Kept room
  := by
  have hspace : (TcpPacket.setSyn {}).space = 1 := by decide
  rw [TcpStream.connect]
  simp only []
  split
  case isTrue =>
    split
    case isTrue => exact h.of_same rfl rfl
    case isFalse => split <;> exact h.of_same rfl rfl
  case isFalse hclosed =>
    rw [not_not] at hclosed
    refine kept_syn ?_ hroom hspace (by decide) rfl TcpState.noConfusion TcpState.noConfusion
    exact kept_renumbered h hclosed rfl rfl rfl

theorem Kept.incoming_Closed (h : s.Kept room) (hroom : 1 ≤ room) (pkt : TcpPacket) (rand : UInt32)
    (hmeets : s.state ≠ .closed → pkt.hasSyn → pkt.hasAck) :
  (s.incoming_Closed pkt rand).Kept room
  := by
  rw [TcpStream.incoming_Closed]
  split
  case isTrue hsyn =>
    simp only []
    split
    case isTrue hclosed =>
      have hspace : ((TcpPacket.setSyn {}).setAck (pkt.seqno + 1)).space = 1 := by
        rw [TcpPacket.space, TcpPacket.hasSyn_setAck]
        rfl
      have hrst : ((TcpPacket.setSyn {}).setAck (pkt.seqno + 1)).hasRst = false := by
        rw [TcpPacket.hasRst_setAck]
        decide
      refine kept_syn ?_ hroom hspace hrst rfl TcpState.noConfusion TcpState.noConfusion
      exact kept_renumbered h hclosed rfl rfl rfl
    case isFalse hopen =>
      rw [Bool.and_eq_true, Bool.not_eq_true'] at hsyn
      have hack := hmeets hopen hsyn.1
      rw [hsyn.2] at hack
      cases hack
  case isFalse => exact h

theorem Kept.incoming_SynSent (h : s.Kept room) (hroom : 1 ≤ room) (pkt : TcpPacket)
    (rand : UInt32) (hmeets : pkt.hasSyn → pkt.hasAck) :
  (s.incoming_SynSent pkt rand).Kept room
  := by
  rw [TcpStream.incoming_SynSent]
  split
  case isTrue =>
    split
    case isTrue => exact h
    case isFalse =>
      have hack : Kept (TcpStream.sendAck { s with
          initPeerSeqno := pkt.seqno
          inAckno := pkt.seqno + 1
          outWinSize := pkt.winsize.toUInt32
          outAcked := pkt.ackno }) room := Kept.sendAck (h.of_same rfl rfl)
      apply Kept.enter _ _ TcpState.noConfusion TcpState.noConfusion
      exact hack.of_same rfl rfl
  case isFalse => exact h.incoming_Closed hroom pkt rand fun _ => hmeets

theorem Kept.incoming_SynRcvd (h : s.Kept room) (pkt : TcpPacket) (hrst : pkt.hasRst = false) :
  (s.incoming_SynRcvd pkt).Kept room
  := by
  have hcomplete : (s.complete pkt).Kept room := by
    apply Kept.enter _ _ TcpState.noConfusion TcpState.noConfusion
    exact h.of_same rfl rfl
  rw [TcpStream.incoming_SynRcvd, hrst, if_neg Bool.false_ne_true]
  split
  case isTrue => exact h
  case isFalse =>
    split
    case isTrue => exact h
    case isFalse =>
      split
      case isTrue => exact hcomplete
      case isFalse => exact hcomplete.incoming_Established pkt

/-! ### Acknowledgements -/

theorem outAcked_widen (s : TcpStream) :
  s.widen.outAcked = s.outAcked
  := congrArg Connection.outAcked s.toConnection_widen

theorem outAcked_acknowledge (s : TcpStream) :
  s.acknowledge.outAcked = s.outAcked
  := congrArg Connection.outAcked s.toConnection_acknowledge

/-- What is left after an acknowledgement are the last packets, the first of them not old. -/
theorem acknowledgePkts_spec (pkts : List TcpPacket) (s : TcpStream) :
  ∃ old, pkts = old ++ (acknowledgePkts pkts s).outPkt ∧
    (∀ pkt ∈ old, isOldSequence pkt.seqno s.outAcked) ∧
    ∀ pkt ∈ (acknowledgePkts pkts s).outPkt.head?, isOldSequence pkt.seqno s.outAcked = false
  := by
  induction pkts generalizing s with
  | nil =>
    refine ⟨[], rfl, ?_, ?_⟩
    · intro pkt h
      cases h
    · intro pkt h
      cases h
  | cons pkt pkts ih =>
    rw [acknowledgePkts]
    split
    case isTrue hold =>
      obtain ⟨old, hpkts, hall, hfirst⟩ := ih s.widen
      rw [outAcked_widen] at hall hfirst
      refine ⟨pkt :: old, congrArg (List.cons pkt) hpkts, ?_, hfirst⟩
      rw [List.forall_mem_cons]
      exact ⟨hold, hall⟩
    case isFalse hnew =>
      refine ⟨[], rfl, ?_, ?_⟩
      · intro pkt h
        cases h
      · rintro _ ⟨⟩
        exact Bool.eq_false_iff.2 hnew

theorem congestWinSize_widen (h : s.congestWinSize ≤ tcpMaxWin) :
  s.widen.congestWinSize ≤ tcpMaxWin
  := by
  have hmin : ∀ size, (if tcpMaxWin < size then tcpMaxWin else size) ≤ tcpMaxWin := by
    intro size
    split
    case isTrue => exact UInt32.le_refl _
    case isFalse hle => exact UInt32.not_lt.1 hle
  rw [widen]
  split
  case isTrue => exact h
  case isFalse => exact hmin _

theorem acknowledgePkts_same (pkts : List TcpPacket) (s : TcpStream) :
  (acknowledgePkts pkts s).outSeqno = s.outSeqno ∧ (acknowledgePkts pkts s).udp = s.udp ∧
    (s.congestWinSize ≤ tcpMaxWin → (acknowledgePkts pkts s).congestWinSize ≤ tcpMaxWin)
  := by
  induction pkts generalizing s with
  | nil => exact ⟨rfl, rfl, id⟩
  | cons pkt pkts ih =>
    rw [acknowledgePkts]
    split
    case isTrue =>
      obtain ⟨hseqno, hudp, hcongest⟩ := ih s.widen
      have hwiden : s.widen.udp = s.udp := by
        rw [widen]
        split <;> rfl
      rw [hseqno, hudp, outSeqno_widen, hwiden]
      exact ⟨rfl, rfl, fun h => hcongest (congestWinSize_widen h)⟩
    case isFalse => exact ⟨rfl, rfl, id⟩

theorem Kept.acknowledge (h : s.Kept room) :
  s.acknowledge.Kept room
  := by
  obtain ⟨old, hpkts, -, -⟩ := acknowledgePkts_spec s.outPkt s
  obtain ⟨hseqno, hudp, hcongest⟩ := acknowledgePkts_same s.outPkt s
  have hstate : s.acknowledge.state = s.state :=
    congrArg Connection.state s.toConnection_acknowledge
  have hsent := h.sent
  constructor
  · constructor
    · change Chain (acknowledgePkts s.outPkt s).outSeqno (acknowledgePkts s.outPkt s).outPkt
      rw [hseqno]
      exact Chain.of_append (hpkts ▸ hsent.chain)
    · have hroom := hsent.room
      rw [hpkts, space_append] at hroom
      exact le_trans (Nat.le_add_left _ _) hroom
    · exact hcongest hsent.congest
    · intro pkt hpkt
      apply hsent.noRst
      rw [hpkts]
      exact List.mem_append_right _ hpkt
    · change ∀ data ∈ (acknowledgePkts s.outPkt s).udp, _
      rw [hudp]
      exact hsent.udp
  · rw [hstate]
    exact h.notListen
  · intro hclosed
    rw [hstate] at hclosed
    exact s.outPkt_acknowledge (h.closed hclosed)

/-- The first packet that waits is not old. -/
def First (s : TcpStream) : Prop :=
  ∀ pkt ∈ s.outPkt.head?, isOldSequence pkt.seqno s.outAcked = false

theorem first_acknowledge (s : TcpStream) :
  s.acknowledge.First
  := by
  obtain ⟨-, -, -, hfirst⟩ := acknowledgePkts_spec s.outPkt s
  rw [First, outAcked_acknowledge]
  exact hfirst

theorem Kept.space_le_inTransit (h : s.Kept room) (hroom : room ≤ 2 ^ 31) (hfirst : s.First) :
  space s.outPkt ≤ s.inTransit
  := by
  have hchain := h.sent.chain
  have hspace := h.sent.room
  rw [First] at hfirst
  cases hpkts : s.outPkt with
  | nil => exact Nat.zero_le _
  | cons pkt pkts =>
    rw [hpkts] at hfirst hchain hspace
    obtain ⟨-, hseqno, -⟩ := hchain
    have hnew := hfirst pkt rfl
    rw [Bool.eq_false_iff, Ne, isOldSequence_iff, Nat.not_le] at hnew
    have hsum : s.outSeqno - s.outAcked =
        (pkt.seqno - s.outAcked) + .ofNat (space (pkt :: pkts)) := by
      rw [← hseqno, UInt32.sub_eq_add_neg, UInt32.sub_eq_add_neg, UInt32.add_assoc,
        UInt32.add_assoc, UInt32.add_comm (UInt32.ofNat _)]
    rw [inTransit, hsum, UInt32.toNat_add, UInt32.toNat_ofNat']
    omega

theorem Kept.outPkt_acknowledge_eq_nil (h : s.Kept room) (hroom : room ≤ 2 ^ 31)
    (hall : s.outAcked = s.outSeqno) :
  s.acknowledge.outPkt = []
  := by
  have hkept := h.acknowledge
  have hle := hkept.space_le_inTransit hroom s.first_acknowledge
  have hchain := hkept.sent.chain
  rw [inTransit, outAcked_acknowledge, outSeqno_acknowledge, hall, UInt32.sub_self,
    UInt32.toNat_zero, Nat.le_zero] at hle
  cases hpkts : s.acknowledge.outPkt with
  | nil => rfl
  | cons pkt pkts =>
    rw [hpkts] at hchain hle
    have hpos := hchain.1
    rw [space_cons] at hle
    omega

/-! ### Ticks -/

theorem restamp_same (s : TcpStream) (pkt : TcpPacket) :
  (s.restamp pkt).seqno = pkt.seqno ∧ (s.restamp pkt).space = pkt.space ∧
    (s.restamp pkt).hasRst = pkt.hasRst
  := by
  rw [restamp]
  split
  case isTrue => exact ⟨rfl, rfl, rfl⟩
  case isFalse =>
    refine ⟨rfl, ?_, pkt.hasRst_setAck s.inAckno⟩
    change pkt.datasize + (if (pkt.setAck s.inAckno).hasSyn then 1 else 0) = _
    rw [TcpPacket.hasSyn_setAck]
    rfl

/-- The first packet may be sent again. -/
theorem Kept.retrans (h : s.Kept room) (clock : Clock) :
  (s.retrans clock).Kept room
  := by
  have hsent := h.sent
  rw [TcpStream.retrans]
  split
  case isTrue => exact h
  case isFalse =>
    split
    case isTrue => exact h
    case isFalse =>
      split
      case isTrue => exact h
      case isFalse =>
        split
        case h_1 hnil =>
          exact ⟨⟨hsent.chain, hsent.room, hsent.congest, hsent.noRst, hsent.udp⟩, h.notListen,
            h.closed⟩
        case h_2 pkt pkts hpkts =>
          split
          case isTrue =>
            have hcongest : (s.slowDown pkt).congestWinSize ≤ tcpMaxWin := by
              change UInt32.ofNat maxSeg ≤ tcpMaxWin
              decide
            exact kept_cleanup _ ⟨hsent.chain, hsent.room, hcongest, hsent.noRst, hsent.udp⟩
          case isFalse =>
            obtain ⟨hseqno, hspace, hrst⟩ := s.restamp_same pkt
            have hchain := hsent.chain
            have hroom := hsent.room
            have hnoRst := hsent.noRst
            rw [hpkts] at hchain hroom hnoRst
            rw [List.forall_mem_cons] at hnoRst
            obtain ⟨hpos, hcurr, hrest⟩ := hchain
            constructor
            · constructor
              · refine ⟨?_, ?_, hrest⟩
                · change 0 < (s.restamp pkt).space
                  rwa [hspace]
                · change (s.restamp pkt).seqno +
                    .ofNat ((s.restamp pkt).space + space pkts) = s.outSeqno
                  rw [hseqno, hspace]
                  exact hcurr
              · change (s.restamp pkt).space + space pkts ≤ room
                rw [hspace]
                exact hroom
              · change UInt32.ofNat maxSeg ≤ tcpMaxWin
                decide
              · rw [List.forall_mem_cons]
                exact ⟨hrst.trans hnoRst.1, hnoRst.2⟩
              · intro data hdata pkt' hpkt'
                rcases List.mem_append.1 hdata with hdata | hdata
                · exact hsent.udp data hdata pkt' hpkt'
                · rw [List.mem_singleton] at hdata
                  rw [hdata] at hpkt'
                  rw [TcpPacket.hasRst_of_readPacket hpkt', hrst, hnoRst.1]
            · exact h.notListen
            · intro hclosed
              rw [h.closed hclosed] at hpkts
              cases hpkts

theorem First.retrans (h : s.First) (clock : Clock) :
  (s.retrans clock).First
  := by
  rw [TcpStream.retrans]
  split
  case isTrue => exact h
  case isFalse =>
    split
    case isTrue => exact h
    case isFalse =>
      split
      case isTrue => exact h
      case isFalse =>
        split
        case h_1 hnil => exact h
        case h_2 pkt pkts hpkts =>
          split
          case isTrue =>
            intro pkt hpkt
            cases hpkt
          case isFalse =>
            rintro _ ⟨⟩
            have hfirst := h pkt (by rw [hpkts]; rfl)
            change isOldSequence (s.restamp pkt).seqno s.outAcked = false
            rwa [(s.restamp_same pkt).1]

theorem Kept.toSend (h : s.Kept room) (hopen : s.state ≠ .closed) {pkt : TcpPacket}
    (hpos : 0 < pkt.space) (hrst : pkt.hasRst = false) :
  (s.toSend pkt).Kept (room + pkt.space)
  where
  sent := kept_toSend h.sent hpos hrst
  notListen := by
    rw [state_toSend]
    exact h.notListen
  closed hclosed := by
    rw [state_toSend] at hclosed
    exact absurd hclosed hopen

theorem space_new :
  (TcpPacket.new ptr).space = ptr.length
  := by
  rw [TcpPacket.space, hasSyn_new]
  rfl

theorem hasRst_new :
  (TcpPacket.new ptr).hasRst = false
  := by
  have hflags : (TcpPacket.new ptr).hlen_flags = 0 := rfl
  rw [TcpPacket.hasRst, hflags]
  rfl

theorem Kept.sendSegments (h : s.Kept room) (hopen : s.state ≠ .closed)
    (inQueue : List DataBuffer) (maxsend : UInt32) :
  (sendSegments inQueue maxsend s).1.Kept
    (room + min inQueue.length (maxsend.toNat / maxSeg) * maxSeg)
  := by
  induction inQueue generalizing s room maxsend with
  | nil => exact h.mono (Nat.le_add_right _ _)
  | cons db inQueue ih =>
    have hseg : (UInt32.ofNat maxSeg).toNat = maxSeg := rfl
    rw [TcpStream.sendSegments]
    split
    case isTrue hle =>
      have hsame : Kept { s with inQueue } room := h.of_same rfl rfl
      have hspace : (TcpPacket.new db.1).space = maxSeg := (space_new db.1).trans db.2
      have hfirst := hsame.toSend hopen (by rw [hspace]; decide) (hasRst_new db.1)
      have hstate : (({ s with inQueue } : TcpStream).toSend (.new db.1)).state ≠ .closed := by
        rw [state_toSend]
        exact hopen
      apply (ih hfirst hstate (maxsend - .ofNat maxSeg)).mono
      rw [hspace, UInt32.toNat_sub_of_le _ _ hle, hseg, List.length_cons]
      rw [UInt32.le_iff_toNat_le, hseg] at hle
      simp only [maxSeg] at hle ⊢
      omega
    case isFalse => exact h.mono (Nat.le_add_right _ _)

theorem Kept.sendControl (h : s.Kept room) (clock : Clock) :
  (s.sendControl clock).Kept room
  := by
  have hfin : (s.toSend (TcpPacket.setFin {}) false).Kept room :=
    h.toSend_of_space (by decide) (by decide)
  rw [TcpStream.sendControl]
  simp only []
  split
  case isTrue =>
    split
    · exact hfin.enter _ TcpState.noConfusion TcpState.noConfusion
    · exact hfin.enter _ TcpState.noConfusion TcpState.noConfusion
  case isFalse =>
    split
    · exact h.sendAck
    · exact h

theorem Kept.sendData (h : s.Kept room) (hopen : s.state ≠ .closed) (clock : Clock) :
  (s.sendData clock).Kept (room + s.sentBytes)
  := by
  rw [TcpStream.sendData, sentBytes]
  simp only [segments_pos_iff]
  split
  case isTrue => exact h.sendSegments hopen s.inQueue s.maxsend
  case isFalse hnone =>
    rw [sendSegments_of_not hnone]
    simp only []
    split
    case isTrue hdata =>
      obtain ⟨hnil, hle, hsome⟩ := hdata
      have hsame : Kept { s with inData := .empty } room := h.of_same rfl rfl
      have hpos := List.length_pos_of_ne_nil hsome
      rw [if_pos ⟨hnil, hle⟩, ← space_new]
      exact hsame.toSend hopen (by rwa [space_new]) (hasRst_new _)
    case isFalse => exact (h.sendControl clock).mono (Nat.le_add_right _ _)

/-- The room that the windows leave for what waits. -/
def maxRoom : Nat := tcpMaxWin.toNat + 1

theorem Kept.tick (h : s.Kept maxRoom) (clock : Clock) :
  (s.tick clock).Kept maxRoom
  := by
  have hmax : maxRoom = 65501 := rfl
  have hchecked : (s.recv_check clock).Kept maxRoom := by
    rw [recv_check]
    split
    · exact kept_cleanup _ h.sent
    · exact h
  have hkept := hchecked.acknowledge.retrans clock
  have hfirst := (first_acknowledge (s.recv_check clock)).retrans clock
  rw [TcpStream.tick, send]
  generalize (s.recv_check clock).acknowledge.retrans clock = s' at hkept hfirst
  split
  case isTrue => exact hkept
  case isFalse hlive =>
    have hopen : s'.state ≠ .closed := by
      intro hclosed
      rw [hclosed] at hlive
      exact hlive (by decide)
    have hexact : s'.Kept (space s'.outPkt) := { hkept with sent := { hkept.sent with
      room := le_refl _ } }
    have hspace := hkept.space_le_inTransit (by rw [hmax]; decide) hfirst
    have hroom := hkept.sent.room
    have hcongest := hkept.sent.congest
    have hsent := s'.sentBytes_le
    have hwindow : s'.window ≤ 65500 := by
      rw [UInt32.le_iff_toNat_le] at hcongest
      exact le_trans (Nat.min_le_left _ _) hcongest
    apply (hexact.sendData hopen clock).mono
    rw [toNat_maxsend] at hsent
    split at hsent <;> omega

/-! ### Calls -/

theorem kept_new :
  Kept {} maxRoom
  where
  sent :=
    { chain := trivial
      room := Nat.zero_le _
      congest := by decide
      noRst := fun _ hpkt => absurd hpkt List.not_mem_nil
      udp := fun _ hdata => absurd hdata List.not_mem_nil }
  notListen := TcpState.noConfusion
  closed _ := rfl

section

variable (h : s.Kept room)

include h

/-- The calls that neither send nor receive leave alone what is sent. -/
theorem Kept.listenfor :
  s.listenfor.1.Kept room
  := by
  rw [TcpStream.listenfor]
  simp only []
  split
  case isTrue => exact h.of_same rfl rfl
  case isFalse => split <;> exact h.of_same rfl rfl

theorem Kept.write (dta : List UInt8) :
  (s.write dta).1.Kept room
  := by
  rw [TcpStream.write]
  repeat
    split
    case isTrue => exact h.of_same rfl rfl
  exact h.of_same rfl rfl

theorem Kept.read (size : Nat) :
  (s.read size).1.Kept room
  := by
  rw [TcpStream.read]
  repeat
    split
    case isTrue => exact h.of_same rfl rfl
  obtain ⟨outDataRead, outDataNet, outQueue, heq⟩ :=
    s.readData_eq (min size s.int_read_pending.toNat)
  change (s.readData (min size s.int_read_pending.toNat)).1.UpdateInWinSize.Kept room
  rw [heq]
  exact h.of_same rfl rfl

theorem Kept.closeWrite :
  s.closeWrite.1.Kept room
  := by
  rw [TcpStream.closeWrite]
  simp only []
  split <;> exact h.of_same rfl rfl

/-- A packet that is no reset, and no SYN without an acknowledgement after the own SYN. -/
theorem Kept.handleIncoming (hs : s.Settled) (hroom : 1 ≤ room) {pkt : TcpPacket} (rand : UInt32)
    (hrst : pkt.hasRst = false) (hmeets : s.state = .synSent → pkt.hasSyn → pkt.hasAck) :
  (s.handleIncoming pkt rand).Kept room
  := by
  rw [TcpStream.handleIncoming]
  split
  case h_1 hclosed => exact h.incoming_Closed hroom pkt rand fun hopen => absurd hclosed hopen
  case h_2 hlisten => exact absurd hlisten h.notListen
  case h_3 hsent => exact h.incoming_SynSent hroom pkt rand (hmeets hsent)
  case h_4 => exact h.incoming_SynRcvd pkt hrst
  case h_5 hwaits => exact absurd hwaits hs.notTimedWait
  case h_6 => exact h.incoming_Established pkt

end

/-- When all is acknowledged, nothing waits to be sent again, and the stream does not give up. -/
def Idles (s : TcpStream) : Prop :=
  s.Live → s.outAcked = s.outSeqno →
    s.acknowledge.outPkt = [] ∧ ∀ clock, s.acknowledge.gaveUp clock = false

theorem Kept.idles (h : s.Kept maxRoom) :
  s.Idles
  := by
  intro _ hall
  have hnil := h.outPkt_acknowledge_eq_nil (by decide) hall
  refine ⟨hnil, ?_⟩
  intro clock
  rw [gaveUp, hnil]
  exact Bool.and_false _

end TcpStream

/-! ### A simultaneous opening -/

namespace Ends

/-- The ends after a call at one of them.  What the other end has handed to the network may arrive
at any time, any number of times. -/
def step (net : Side → TcpStream) (side : Side) : Call → Side → TcpStream
  | .recvPkt data rand =>
      if data ∈ (net side.other).udp then
        Function.update net side ((net side).recvPkt data rand)
      else net
  | call => Function.update net side ((net side).step call)

/-- The two ends and the network. -/
def machine : Machine (Side → TcpStream) (Side × Call) Empty where
  step net call := (step net call.1 call.2, [])

/-- Two streams that have not been used. -/
def new (_ : Side) : TcpStream := {}

/-- No SYN without an acknowledgement arrives after the own SYN. -/
def Meets (net : Side → TcpStream) : Side × Call → Prop
  | (side, .recvPkt data _) =>
      (net side).state = .synSent → ∀ pkt ∈ TcpPacket.readPacket data, pkt.hasSyn → pkt.hasAck
  | _ => True

/-- What waits at the ends is kept. -/
structure Sound (net : Side → TcpStream) : Prop where
  kept : ∀ side, (net side).Kept TcpStream.maxRoom
  settled : ∀ side, (net side).Settled

variable {net : Side → TcpStream} {side : Side}

theorem sound_new :
  Sound new
  where
  kept _ := TcpStream.kept_new
  settled _ := TcpStream.settled_new

theorem Sound.update (hs : Sound net) {s : TcpStream} (hkept : s.Kept TcpStream.maxRoom)
    (hsettled : s.Settled) :
  Sound (Function.update net side s)
  := by
  constructor
  · intro side'
    by_cases hside : side' = side
    · rw [hside, Function.update_self]
      exact hkept
    · rw [Function.update_of_ne hside]
      exact hs.kept side'
  · intro side'
    by_cases hside : side' = side
    · rw [hside, Function.update_self]
      exact hsettled
    · rw [Function.update_of_ne hside]
      exact hs.settled side'

theorem Sound.step (hs : Sound net) {call : Call} (hmeets : Meets net (side, call)) :
  Sound (step net side call)
  := by
  have hkept := hs.kept side
  have hsettled := (hs.settled side).step call
  cases call
  case connect rand => exact hs.update (hkept.connect (by decide) rand) hsettled
  case listenfor => exact hs.update hkept.listenfor hsettled
  case write dta => exact hs.update (hkept.write dta) hsettled
  case read size => exact hs.update (hkept.read size) hsettled
  case closeWrite => exact hs.update hkept.closeWrite hsettled
  case close => exact hs.update (TcpStream.kept_cleanup _ hkept.sent) hsettled
  case tick clock => exact hs.update (hkept.tick clock) hsettled
  case recvPkt data rand =>
    rw [Ends.step]
    split
    case isFalse => exact hs
    case isTrue hsent =>
      refine hs.update ?_ hsettled
      rw [TcpStream.recvPkt]
      cases hpkt : TcpPacket.readPacket data with
      | none => exact hkept
      | some pkt =>
        have hrst := (hs.kept side.other).sent.udp data hsent pkt hpkt
        exact hkept.handleIncoming (hs.settled side) (by decide) rand hrst fun hstate =>
          hmeets hstate pkt hpkt

theorem sound_calls {calls : List (Side × Call)} (h : machine.Along Meets new calls) :
  Sound (machine.run new calls)
  := Machine.run_of_step (fun _ _ hs hmeets => hs.step hmeets) sound_new h

/-- In a run in which no SYN without an acknowledgement arrives after the own SYN, an end that has
the acknowledgement of all it has sent has nothing to send again. -/
theorem idles_run {calls : List (Side × Call)} (h : machine.Along Meets new calls) (side : Side) :
  (machine.run new calls side).Idles
  := ((sound_calls h).kept side).idles

instance decidableMeets (net : Side → TcpStream) : ∀ call, Decidable (Meets net call)
  | (_, .recvPkt _ _) => inferInstanceAs (Decidable (_ → ∀ pkt ∈ TcpPacket.readPacket _, _ → _))
  | (_, .connect _) | (_, .listenfor) | (_, .write _) | (_, .read _) | (_, .closeWrite)
  | (_, .close) | (_, .tick _) => .isTrue trivial

/-- A packet with the largest window, as it is sent. -/
def wire (pkt : TcpPacket) : List UInt8 :=
  ({ pkt with winsize := 65500 } : TcpPacket).writePacket 1020

/-- One end opens the connection, and the other one accepts it. -/
def activeOpen : List (Side × Call) :=
  [(.a, .connect 100), (.b, .listenfor),
    (.b, .recvPkt (wire (TcpPacket.setSyn { seqno := 100 })) 200),
    (.a, .recvPkt (wire ((TcpPacket.setSyn { seqno := 200 }).setAck 101)) 0),
    (.b, .recvPkt (wire (TcpPacket.setAck { seqno := 101 } 201)) 0)]

theorem idles_activeOpen :
  (machine.run new activeOpen .b).Live ∧
    (machine.run new activeOpen .b).outAcked = (machine.run new activeOpen .b).outSeqno ∧
    (machine.run new activeOpen .b).Idles
  := by
  refine ⟨by decide +kernel, by decide +kernel, ?_⟩
  exact idles_run (by decide +kernel) .b

/-- Both ends open the connection, and their SYNs cross. -/
def simultaneousOpen : List (Side × Call) :=
  [(.a, .connect 100), (.b, .connect 200),
    (.a, .recvPkt (wire (TcpPacket.setSyn { seqno := 200 })) 0),
    (.b, .recvPkt (wire (TcpPacket.setSyn { seqno := 100 })) 0),
    (.a, .recvPkt (wire (TcpPacket.setAck { seqno := 201 } 101)) 0)]

/-- The acknowledgement of the other SYN goes on waiting at `a`. -/
theorem not_idles_simultaneousOpen :
  ¬ ∀ calls side, (machine.run new calls side).Idles
  := by
  intro h
  obtain ⟨hnil, -⟩ := h simultaneousOpen .a (by decide +kernel) (by decide +kernel)
  revert hnil
  decide +kernel

end Ends

end TcpOnUdp
