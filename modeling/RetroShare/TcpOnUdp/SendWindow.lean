import RetroShare.TcpOnUdp.StreamSteps

/-!
# The window of what is sent

`send` sends as much as the two windows leave room for beside what is in transit.  It counts one
byte less in transit than there are when `outSeqno` has wrapped around and `outAcked` has not, and
exceeds the windows by this byte when what it sends fills them to the end.
-/

namespace TcpOnUdp

namespace TcpStream

variable (s : TcpStream) (clock : Clock)

/-- The bytes that were sent and are not acknowledged. -/
def inTransit : Nat := (s.outSeqno - s.outAcked).toNat

/-- What may be in transit: the smaller one of the two windows. -/
def window : Nat := min s.congestWinSize.toNat s.outWinSize.toNat

/-- `outSeqno` has wrapped around, and `outAcked` has not. -/
def Wrapped : Prop := s.outSeqno < s.outAcked

instance : Decidable s.Wrapped := inferInstanceAs (Decidable (_ < _))

/-- What is in transit in `s'` exceeds neither what was before, in `s`, nor the windows. -/
def WithinWindow (s' : TcpStream) : Prop := s'.inTransit ≤ max s.inTransit s'.window

instance (s' : TcpStream) : Decidable (s.WithinWindow s') := inferInstanceAs (Decidable (_ ≤ _))

/-- There is data to be sent that fills the windows and the byte that is not counted. -/
def Overruns : Prop :=
  s.peerKnown ∧ TcpState.established.num ≤ s.state.num ∧ s.Wrapped ∧ s.window ≠ tcpMaxSeq.toNat ∧
    ∃ room, s.inTransit + room = s.window + 1 ∧ 0 < room ∧
      ((s.inQueue ≠ [] ∧ maxSeg ∣ room ∧ room ≤ s.inQueue.length * maxSeg) ∨
        (s.inQueue = [] ∧ s.inData.1.length = room))

/-! ### What is sent -/

/-- How much `send` takes for allowed. -/
theorem toNat_maxsend :
  s.maxsend.toNat = if s.Wrapped then s.window + 1 - s.inTransit else s.window - s.inTransit
  := by
  have hseqno := s.outSeqno.toNat_lt
  have hacked := s.outAcked.toNat_lt
  have hmax : tcpMaxSeq.toNat = 2 ^ 32 - 1 := rfl
  have hwindow : (if s.outWinSize < s.congestWinSize then s.outWinSize
      else s.congestWinSize).toNat = s.window := by
    rw [window]
    split
    case isTrue h =>
      rw [UInt32.lt_iff_toNat_lt] at h
      omega
    case isFalse h =>
      rw [UInt32.lt_iff_toNat_lt] at h
      omega
  have htransit : (if s.outSeqno < s.outAcked then (tcpMaxSeq - s.outAcked) + s.outSeqno
      else s.outSeqno - s.outAcked).toNat =
        if s.Wrapped then s.inTransit - 1 else s.inTransit := by
    by_cases h : s.Wrapped
    · rw [if_pos h, if_pos (show s.outSeqno < s.outAcked from h), inTransit]
      rw [Wrapped, UInt32.lt_iff_toNat_lt] at h
      rw [UInt32.toNat_add, UInt32.toNat_sub, UInt32.toNat_sub, hmax]
      omega
    · rw [if_neg h, if_neg (show ¬ s.outSeqno < s.outAcked from h), inTransit]
  have hpos : s.Wrapped → 0 < s.inTransit := by
    intro h
    rw [Wrapped, UInt32.lt_iff_toNat_lt] at h
    rw [inTransit, UInt32.toNat_sub]
    omega
  rw [maxsend]
  generalize (if s.outWinSize < s.congestWinSize then s.outWinSize else s.congestWinSize) = w
    at hwindow
  generalize (if s.outSeqno < s.outAcked then (tcpMaxSeq - s.outAcked) + s.outSeqno
    else s.outSeqno - s.outAcked) = t at htransit
  split
  case isTrue h =>
    have hle : t ≤ w := UInt32.le_of_lt h
    rw [UInt32.lt_iff_toNat_lt] at h
    rw [UInt32.toNat_sub_of_le _ _ hle, hwindow, htransit]
    split
    case isTrue hwrapped =>
      have := hpos hwrapped
      omega
    case isFalse => rfl
  case isFalse h =>
    rw [UInt32.lt_iff_toNat_lt, htransit, hwindow] at h
    rw [UInt32.toNat_zero]
    split
    case isTrue hwrapped =>
      have := hpos hwrapped
      rw [if_pos hwrapped] at h
      omega
    case isFalse hwrapped =>
      rw [if_neg hwrapped] at h
      omega

/-- The number of segments that are sent. -/
def segments : Nat := min s.inQueue.length (s.maxsend.toNat / maxSeg)

/-- The number of bytes that are sent. -/
def sentBytes : Nat :=
  if 0 < s.segments then s.segments * maxSeg
  else if s.inQueue = [] ∧ s.inData.1.length ≤ s.maxsend.toNat then s.inData.1.length
  else 0

theorem segments_pos_iff :
  0 < s.segments ↔ s.inQueue ≠ [] ∧ .ofNat maxSeg ≤ s.maxsend
  := by
  have hseg : (UInt32.ofNat maxSeg).toNat = maxSeg := rfl
  rw [segments, UInt32.le_iff_toNat_le, hseg, ← List.length_pos_iff]
  simp only [maxSeg]
  omega

theorem sentBytes_le :
  s.sentBytes ≤ s.maxsend.toNat
  := by
  rw [sentBytes]
  split
  case isTrue =>
    calc
      s.segments * maxSeg ≤ s.maxsend.toNat / maxSeg * maxSeg :=
        Nat.mul_le_mul_right _ (Nat.min_le_right _ _)
      _ ≤ _ := Nat.div_mul_le_self _ _
  case isFalse =>
    split
    case isTrue h => exact h.2
    case isFalse => exact Nat.zero_le _

theorem sentBytes_eq_iff {room : Nat} (hroom : s.maxsend.toNat = room) (hpos : 0 < room) :
  s.sentBytes = room ↔
    (s.inQueue ≠ [] ∧ maxSeg ∣ room ∧ room ≤ s.inQueue.length * maxSeg) ∨
      (s.inQueue = [] ∧ s.inData.1.length = room)
  := by
  rw [sentBytes, segments, hroom]
  by_cases hnil : s.inQueue = []
  · rw [hnil, List.length_nil, Nat.zero_min, if_neg (Nat.lt_irrefl 0)]
    split
    case isTrue => simp
    case isFalse h =>
      simp only [true_and, ne_eq, not_true_eq_false, false_and, false_or] at h ⊢
      omega
  · have hlen : 0 < s.inQueue.length := List.length_pos_of_ne_nil hnil
    simp only [hnil, ne_eq, not_false_eq_true, true_and, false_and, or_false, if_false]
    by_cases hsome : 0 < min s.inQueue.length (room / maxSeg)
    · rw [if_pos hsome]
      constructor
      · intro h
        refine ⟨⟨_, h.symm.trans (Nat.mul_comm _ _)⟩, ?_⟩
        rw [← h]
        exact Nat.mul_le_mul_right _ (Nat.min_le_left _ _)
      · rintro ⟨⟨k, rfl⟩, hle⟩
        simp only [maxSeg] at hle ⊢
        omega
    · rw [if_neg hsome]
      constructor
      · intro h
        omega
      · rintro ⟨⟨k, rfl⟩, hle⟩
        simp only [maxSeg] at hsome hle ⊢
        omega

/-! ### The numbers after a send -/

/-- `n` bytes are sent; what else decides about the windows stays. -/
structure SentMore (s s' : TcpStream) (n : Nat) : Prop where
  outSeqno : s'.outSeqno = if s.peerKnown then s.outSeqno + .ofNat n else s.outSeqno
  outAcked : s'.outAcked = s.outAcked
  outWinSize : s'.outWinSize = s.outWinSize
  congestWinSize : s'.congestWinSize = s.congestWinSize
  peerKnown : s'.peerKnown = s.peerKnown

variable {s} {s' s'' : TcpStream} {n n' : Nat}

theorem SentMore.refl (s : TcpStream) :
  s.SentMore s 0
  where
  outSeqno := by
    split
    · exact (UInt32.add_zero _).symm
    · rfl
  outAcked := rfl
  outWinSize := rfl
  congestWinSize := rfl
  peerKnown := rfl

theorem SentMore.trans (h : s.SentMore s' n) (h' : s'.SentMore s'' n') :
  s.SentMore s'' (n + n')
  where
  outSeqno := by
    rw [h'.outSeqno, h.outSeqno, h.peerKnown]
    split
    · rw [UInt32.ofNat_add, UInt32.add_assoc]
    · rfl
  outAcked := h'.outAcked.trans h.outAcked
  outWinSize := h'.outWinSize.trans h.outWinSize
  congestWinSize := h'.congestWinSize.trans h.congestWinSize
  peerKnown := h'.peerKnown.trans h.peerKnown

theorem sentMore_toSend (s : TcpStream) {pkt : TcpPacket} (hsyn : pkt.hasSyn = false)
    (retrans : Bool) :
  s.SentMore (s.toSend pkt retrans) pkt.datasize
  := by
  rw [toSend]
  cases hpeer : s.peerKnown with
  | true =>
    rw [if_pos rfl, hsyn]
    refine ⟨?_, rfl, rfl, rfl, rfl⟩
    rw [hpeer, if_pos rfl]
    exact UInt32.add_zero _
  | false =>
    rw [if_neg Bool.false_ne_true]
    refine ⟨?_, rfl, rfl, rfl, rfl⟩
    rw [hpeer, if_neg Bool.false_ne_true]

theorem hasSyn_new (ptr : List UInt8) :
  (TcpPacket.new ptr).hasSyn = false
  := by
  have hflags : (TcpPacket.new ptr).hlen_flags = 0 := rfl
  rw [TcpPacket.hasSyn, hflags]
  rfl

theorem sentMore_sendSegments (inQueue : List DataBuffer) (maxsend : UInt32) (s : TcpStream) :
  s.SentMore (sendSegments inQueue maxsend s).1
    (min inQueue.length (maxsend.toNat / maxSeg) * maxSeg)
  := by
  induction inQueue generalizing s maxsend with
  | nil =>
    rw [List.length_nil, Nat.zero_min, Nat.zero_mul]
    exact .refl s
  | cons db inQueue ih =>
    have hseg : (UInt32.ofNat maxSeg).toNat = maxSeg := rfl
    rw [sendSegments]
    split
    case isTrue h =>
      have hfirst := sentMore_toSend ({ s with inQueue } : TcpStream)
        (hasSyn_new db.1) true
      have hrest := ih (maxsend - .ofNat maxSeg)
        (({ s with inQueue } : TcpStream).toSend (.new db.1))
      rw [UInt32.toNat_sub_of_le _ _ h, hseg] at hrest
      have hdata : TcpPacket.datasize (.new db.1) = maxSeg := db.2
      rw [UInt32.le_iff_toNat_le, hseg] at h
      rw [hdata] at hfirst
      have hcount : min (db :: inQueue).length (maxsend.toNat / maxSeg) * maxSeg =
          maxSeg + min inQueue.length ((maxsend.toNat - maxSeg) / maxSeg) * maxSeg := by
        rw [List.length_cons]
        simp only [maxSeg] at h ⊢
        omega
      rw [hcount]
      have hsame : s.SentMore ({ s with inQueue } : TcpStream) 0 :=
        ⟨(SentMore.refl s).outSeqno, rfl, rfl, rfl, rfl⟩
      have hall := (hsame.trans hfirst).trans hrest
      rwa [Nat.zero_add] at hall
    case isFalse h =>
      rw [UInt32.le_iff_toNat_le, hseg, Nat.not_le] at h
      rw [Nat.div_eq_of_lt h, Nat.min_zero, Nat.zero_mul]
      exact .refl s

theorem sentMore_sendControl (s : TcpStream) (clock : Clock) :
  s.SentMore (s.sendControl clock) 0
  := by
  have hfin := @sentMore_toSend s (TcpPacket.setFin {}) (by decide) false
  have hack := @sentMore_toSend s {} rfl false
  rw [sendControl]
  simp only []
  split
  case isTrue =>
    split
    case isTrue => exact ⟨hfin.1, hfin.2, hfin.3, hfin.4, hfin.5⟩
    case isFalse => exact ⟨hfin.1, hfin.2, hfin.3, hfin.4, hfin.5⟩
  case isFalse =>
    split
    case isTrue => exact hack
    case isFalse => exact .refl s

theorem sendSegments_of_not {inQueue : List DataBuffer} {maxsend : UInt32} {s : TcpStream}
    (h : ¬ (inQueue ≠ [] ∧ .ofNat maxSeg ≤ maxsend)) :
  sendSegments inQueue maxsend s = (s, maxsend)
  := by
  cases inQueue with
  | nil => rfl
  | cons db inQueue =>
    rw [sendSegments, if_neg]
    intro hle
    exact h ⟨List.cons_ne_nil _ _, hle⟩

theorem sentMore_sendData (s : TcpStream) (clock : Clock) :
  s.SentMore (s.sendData clock) s.sentBytes
  := by
  rw [sendData, sentBytes]
  simp only [segments_pos_iff]
  split
  case isTrue => exact sentMore_sendSegments s.inQueue s.maxsend s
  case isFalse h =>
    rw [sendSegments_of_not h]
    simp only []
    by_cases hdata : s.inQueue = [] ∧ s.inData.1.length ≤ s.maxsend.toNat
    · rw [if_pos hdata]
      by_cases hnil : s.inData.1 = []
      · rw [if_neg (fun h' => h'.2.2 hnil), hnil]
        exact s.sentMore_sendControl clock
      · rw [if_pos ⟨hdata.1, hdata.2, hnil⟩]
        have hsent := sentMore_toSend ({ s with inData := .empty } : TcpStream)
          (hasSyn_new s.inData.1) true
        exact ⟨hsent.1, hsent.2, hsent.3, hsent.4, hsent.5⟩
    · rw [if_neg hdata, if_neg fun h' => hdata ⟨h'.1, h'.2.1⟩]
      exact s.sentMore_sendControl clock

@[simp]
theorem outSeqno_widen (s : TcpStream) :
  s.widen.outSeqno = s.outSeqno
  := by
  rw [widen]
  split <;> rfl

@[simp]
theorem outSeqno_acknowledge (s : TcpStream) :
  s.acknowledge.outSeqno = s.outSeqno
  := by
  have hpkts : ∀ (pkts : List TcpPacket) (s : TcpStream),
      (acknowledgePkts pkts s).outSeqno = s.outSeqno := by
    intro pkts
    induction pkts with
    | nil => exact fun _ => rfl
    | cons pkt pkts ih =>
      intro s
      rw [acknowledgePkts]
      split
      · rw [ih, outSeqno_widen]
      · rfl
  exact hpkts s.outPkt s

@[simp]
theorem outSeqno_retrans (s : TcpStream) (clock : Clock) :
  (s.retrans clock).outSeqno = s.outSeqno
  := by
  rw [retrans]
  repeat
    split
    case isTrue => rfl
  split
  · rfl
  · split <;> rfl

theorem outAcked_retrans (s : TcpStream) (clock : Clock) :
  (s.retrans clock).outAcked = s.outAcked
  := by
  rcases s.retrans_cases clock with ⟨-, pkt, heq⟩ | ⟨-, heq⟩
  · rw [heq]
    rfl
  · rw [heq]

theorem inTransit_retrans (s : TcpStream) (clock : Clock) :
  (s.acknowledge.retrans clock).inTransit = s.inTransit
  := by
  rw [inTransit, outSeqno_retrans, outSeqno_acknowledge, outAcked_retrans,
    toConnection_acknowledge, inTransit]

/-! ### The windows -/

theorem window_lt (s : TcpStream) :
  s.window < 2 ^ 32
  := Nat.lt_of_le_of_lt (Nat.min_le_left _ _) s.congestWinSize.toNat_lt

theorem withinWindow_sendData_iff (s : TcpStream) (clock : Clock)
    (hlive : TcpState.established.num ≤ s.state.num) :
  s.WithinWindow (s.sendData clock) ↔ ¬ s.Overruns
  := by
  have hsent := s.sentMore_sendData clock
  have hle := s.sentBytes_le
  have hmaxsend := s.toNat_maxsend
  have hwindow := s.window_lt
  have htransit : s.inTransit < 2 ^ 32 := UInt32.toNat_lt _
  have hmax : tcpMaxSeq.toNat = 2 ^ 32 - 1 := rfl
  have hafter : (s.sendData clock).window = s.window := by
    rw [window, window, hsent.outWinSize, hsent.congestWinSize]
  have hmore : (s.sendData clock).inTransit =
      if s.peerKnown then (s.inTransit + s.sentBytes) % 2 ^ 32 else s.inTransit := by
    rw [inTransit, hsent.outSeqno, hsent.outAcked, inTransit]
    split
    · simp only [UInt32.toNat_sub, UInt32.toNat_add, UInt32.toNat_ofNat']
      omega
    · rfl
  rw [WithinWindow, hafter, hmore, Overruns]
  cases s.peerKnown with
  | false => simp
  | true =>
    simp only [if_true, true_and, hlive]
    by_cases hwrapped : s.Wrapped
    · rw [if_pos hwrapped] at hmaxsend
      simp only [hwrapped, true_and, hmax]
      constructor
      · rintro hwithin ⟨hne, room, hroom, hpos, hdata⟩
        have hall := (@sentBytes_eq_iff s room (by omega) hpos).2 hdata
        rw [hall] at hwithin
        omega
      · intro hnot
        by_contra hexceeds
        apply hnot
        have hall : s.sentBytes = s.maxsend.toNat := by omega
        have hpos : 0 < s.maxsend.toNat := by omega
        refine ⟨by omega, s.maxsend.toNat, by omega, hpos, ?_⟩
        exact (s.sentBytes_eq_iff rfl hpos).1 hall
    · rw [if_neg hwrapped] at hmaxsend
      simp only [hwrapped, false_and, not_false_eq_true, iff_true]
      omega

/-- A send keeps to the windows if and only if no data fills them, and the byte that is not counted,
when what was acknowledged and what has to be sent again has been seen to. -/
theorem withinWindow_send_iff (s : TcpStream) (clock : Clock) :
  s.WithinWindow (s.send clock) ↔ ¬ (s.acknowledge.retrans clock).Overruns
  := by
  have hsame := s.inTransit_retrans clock
  rw [send]
  generalize s.acknowledge.retrans clock = s' at hsame
  split
  case isTrue hdown =>
    constructor
    · rintro - ⟨-, hlive, -⟩
      omega
    · rintro -
      rw [WithinWindow, hsame]
      exact Nat.le_max_left _ _
  case isFalse hlive =>
    rw [← s'.withinWindow_sendData_iff clock (Nat.not_lt.mp hlive), WithinWindow, WithinWindow,
      hsame]

/-- A stream whose last byte before the numbers wrap around is not acknowledged. -/
def wrapped : TcpStream where
  state := .established
  inStreamActive := true
  outStreamActive := true
  peerKnown := true
  outSeqno := 0
  outAcked := tcpMaxSeq
  outWinSize := tcpMaxWin
  inWinSize := tcpMaxWin
  congestWinSize := .ofNat maxSeg
  inQueue := [⟨List.replicate maxSeg 0, List.length_replicate⟩]

/-- Beside the byte that is not counted, a whole segment is sent: 1001 bytes are in transit. -/
theorem not_withinWindow_wrapped :
  ¬ ∀ s : TcpStream, s.state = .established → isOldSequence s.outSeqno s.outAcked = false →
      ∀ clock, s.WithinWindow (s.send clock)
  := by
  intro h
  have hwithin := h wrapped rfl (by decide) {}
  revert hwithin
  decide +kernel

end TcpStream

end TcpOnUdp
