import RetroShare.TcpOnUdp.HalfClose

/-!
# The receive buffer

What a packet appends to the bytes that wait to be read, and what a read takes from them.  Both are
as of a queue of bytes except in three cases (`fifo_iff`): a packet shuts the stream down, its
data fills more than one `dataBuffer` beside the one that is begun and these are not all equal, or
so many bytes wait that their count is no `int`.
-/

namespace TcpOnUdp

/-- Pieces of length `n`, all equal to `c`, are the first ones of a list exactly when each of its
first pieces is `c`. -/
theorem flatten_replicate_append_drop_iff {α : Type*} {n : Nat} {c : List α} (hc : c.length = n)
    (k : Nat) (l : List α) :
  (List.replicate k c).flatten ++ l.drop (k * n) = l ↔ ∀ j < k, (l.drop (j * n)).take n = c
  := by
  induction k generalizing l with
  | zero => simp
  | succ k ih =>
    have hdrop : l.drop ((k + 1) * n) = (l.drop n).drop (k * n) := by
      rw [List.drop_drop, Nat.succ_mul, Nat.add_comm]
    have hsplit : (List.replicate (k + 1) c).flatten ++ l.drop ((k + 1) * n) = l ↔
        l.take n = c ∧ (List.replicate k c).flatten ++ (l.drop n).drop (k * n) = l.drop n := by
      rw [List.replicate_succ, List.flatten_cons, List.append_assoc, hdrop]
      constructor
      · intro h
        have htake := congrArg (List.take n) h
        have hrest := congrArg (List.drop n) h
        rw [List.take_left' hc] at htake
        rw [List.drop_left' hc] at hrest
        exact ⟨htake.symm, hrest⟩
      · rintro ⟨htake, hrest⟩
        rw [hrest, ← htake, List.take_append_drop]
    rw [hsplit, ih, Nat.forall_lt_succ_left]
    simp only [Nat.zero_mul, List.drop_zero, List.drop_drop, Nat.succ_mul, Nat.add_comm n]

namespace TcpStream

variable (s : TcpStream) (pkt : TcpPacket)

/-! ### A packet -/

/-- The data of a packet behind what fills the `dataBuffer` that is begun. -/
def overflow : List UInt8 := pkt.data.drop (maxSeg - s.outDataNet.1.length)

/-- The full `dataBuffer`s in the data of a packet behind the one that is begun are equal. -/
def Repeats : Prop :=
  ∀ j < (s.overflow pkt).length / maxSeg,
    ((s.overflow pkt).drop (j * maxSeg)).take maxSeg = (s.overflow pkt).take maxSeg

instance : Decidable (s.Repeats pkt) := Nat.decidableBallLT _ _

theorem bytesOf_replicate (k : Nat) (db : DataBuffer) :
  bytesOf (List.replicate k db) = (List.replicate k db.1).flatten
  := by
  rw [bytesOf, List.map_replicate]

theorem bytesOf_pushData (h : ¬ s.outDataNet.1.length + pkt.datasize < maxSeg) :
  bytesOf (pushData s.outDataNet pkt).1 ++ (pushData s.outDataNet pkt).2.1 =
    s.outDataNet.1 ++ pkt.data.take (maxSeg - s.outDataNet.1.length) ++
      ((List.replicate ((s.overflow pkt).length / maxSeg)
          ((s.overflow pkt).take maxSeg)).flatten ++
        (s.overflow pkt).drop ((s.overflow pkt).length / maxSeg * maxSeg))
  := by
  have hlen : (s.overflow pkt).length = pkt.datasize - (maxSeg - s.outDataNet.1.length) :=
    List.length_drop
  have hdiv := Nat.div_add_mod' (s.overflow pkt).length maxSeg
  have hcount := congrArg (· / maxSeg) hlen.symm
  have hlast : pkt.data.drop
        (pkt.datasize - (pkt.datasize - (maxSeg - s.outDataNet.1.length)) % maxSeg) =
      (s.overflow pkt).drop ((s.overflow pkt).length / maxSeg * maxSeg) := by
    rw [overflow, List.drop_drop, ← overflow, ← hlen]
    congr 1
    omega
  have hfull : ∀ k, k = (s.overflow pkt).length / maxSeg →
      bytesOf (if h : maxSeg ≤ (s.overflow pkt).length then
          List.replicate k ⟨(s.overflow pkt).take maxSeg, List.length_take_of_le h⟩ else []) =
        (List.replicate k ((s.overflow pkt).take maxSeg)).flatten := by
    intro k hk
    split
    case isTrue => exact bytesOf_replicate _ _
    case isFalse hlt =>
      rw [hk, Nat.div_eq_of_lt (Nat.not_le.1 hlt)]
      rfl
  rw [← hlast, ← hcount, ← hfull _ hcount, pushData, dif_neg h, ← List.append_assoc]
  rfl

/-- The data of a packet is appended as it is exactly when its full `dataBuffer`s are equal. -/
theorem appended_eq_iff :
  s.appended pkt = pkt.data ↔ s.Repeats pkt
  := by
  have hunread : s.appended pkt = pkt.data ↔ (s.queueData pkt).unread = s.unread ++ pkt.data := by
    rw [unread_queueData, List.append_cancel_left_eq]
  have hqueue : (s.queueData pkt).unread = s.outDataRead.1 ++ bytesOf s.outQueue ++
      (bytesOf (pushData s.outDataNet pkt).1 ++ (pushData s.outDataNet pkt).2.1) := by
    rw [queueData, Connection.unread, bytesOf, bytesOf]
    simp only [List.map_append, List.flatten_append, List.append_assoc]
  by_cases h : s.outDataNet.1.length + pkt.datasize < maxSeg
  · have hover : s.overflow pkt = [] := by
      apply List.drop_eq_nil_of_le
      change pkt.datasize ≤ _
      omega
    have hle : pkt.datasize ≤ maxSeg := by omega
    apply iff_of_true (s.appended_of_le pkt hle)
    intro j hj
    rw [hover] at hj
    exact absurd hj (Nat.not_lt_zero _)
  · have hfront : s.unread ++ pkt.data = s.outDataRead.1 ++ bytesOf s.outQueue ++
        (s.outDataNet.1 ++ pkt.data.take (maxSeg - s.outDataNet.1.length) ++
          s.overflow pkt) := by
      rw [List.append_assoc s.outDataNet.1, overflow, List.take_append_drop, Connection.unread,
        List.append_assoc, bytesOf]
    rw [hunread, hqueue, hfront, List.append_cancel_left_eq, s.bytesOf_pushData pkt h,
      List.append_cancel_left_eq]
    by_cases hfull : maxSeg ≤ (s.overflow pkt).length
    · exact flatten_replicate_append_drop_iff (List.length_take_of_le hfull) _ _
    · have hzero := Nat.div_eq_of_lt (Nat.not_le.1 hfull)
      rw [Repeats, hzero]
      simp

/-- A packet adds its data to what waits, and nothing else. -/
def Appends (s : TcpStream) (pkt : TcpPacket) : Prop :=
  (s.takePkt pkt).unread = s.unread ++ pkt.data

/-- A packet that shuts the stream down finds nothing that waits and brings nothing; any other one
brings full `dataBuffer`s that are equal, behind the one that is begun. -/
def Takes : Prop :=
  if s.finishes pkt then s.unread ++ pkt.data = [] else s.Repeats pkt

theorem appends_iff :
  s.Appends pkt ↔ s.Takes pkt
  := by
  rw [Appends, Takes]
  cases h : s.finishes pkt with
  | true =>
    obtain ⟨s', heq⟩ := s.takePkt_of_finishes pkt h
    have hnil : (s.takePkt pkt).unread = [] := by
      rw [heq]
      rfl
    rw [hnil, if_pos rfl, eq_comm]
  | false =>
    rw [(s.takePkt_of_not pkt h).1, List.append_cancel_left_eq, appended_eq_iff]
    simp

/-! ### A read -/

/-- A read returns and removes the first bytes that wait, at most `size` of them. -/
structure ReadsFirst (size : Nat) : Prop where
  count : (s.read size).2.1.toNat = min size s.unread.length
  bytes : (s.read size).2.2.take (s.read size).2.1.toNat = s.unread.take size
  left : (s.read size).1.unread = s.unread.drop size

/-- What is read is no more than the `int` that counts what waits; or nothing is to be read, and
`outDataRead` is empty. -/
def Counts (size : Nat) : Prop :=
  (min size s.pending : Nat) ≤ s.int_read_pending ∨ (size = 0 ∧ s.outDataRead.1 = [])

/-- The `int` is no more than the number that it counts. -/
theorem int_read_pending_le :
  s.int_read_pending ≤ s.pending
  := by
  have hmod : ∀ n m : Nat, Int.bmod n m ≤ n := by
    intro n m
    have hle : (n : Int) % m ≤ n := by
      rw [← Int.natCast_mod]
      exact Int.ofNat_le.2 (Nat.mod_le n m)
    have hm : (0 : Int) ≤ m := Int.natCast_nonneg m
    rw [Int.bmod_def]
    split <;> omega
  apply hmod

/-- A read that finds a number of bytes that is positive as an `int`. -/
theorem read_of_pos (hlive : s.Live) (hpos : 0 < s.int_read_pending) (size : Nat) :
  (s.read size).2.1 = (min size s.int_read_pending.toNat : Nat) ∧
    (s.read size).2.2 = s.unread.take (min size s.int_read_pending.toNat) ∧
    (s.read size).1.unread = s.unread.drop (min size s.int_read_pending.toNat)
  := by
  have hclosed : s.state ≠ .closed := by
    intro h
    rw [Connection.Live, h] at hlive
    exact absurd hlive (by decide)
  have hne : s.int_read_pending ≠ 0 := by omega
  have hnonneg : ¬ s.int_read_pending < 0 := by omega
  obtain ⟨hdta, hrest⟩ := s.readData_spec (min size s.int_read_pending.toNat)
  rw [read, if_neg hclosed, if_neg (Nat.not_lt.mpr hlive), if_neg (by simpa using fun _ => hne),
    if_neg hne, if_neg hnonneg]
  exact ⟨rfl, hdta, hrest⟩

/-- A read that finds a number of bytes that is negative as an `int` drops `outDataRead`. -/
theorem read_of_neg (hlive : s.Live) (hneg : s.int_read_pending < 0) (size : Nat) :
  (s.read size).2.1 = s.int_read_pending ∧
    s.outDataRead.1 ++ (s.read size).1.unread = s.unread
  := by
  have hclosed : s.state ≠ .closed := by
    intro h
    rw [Connection.Live, h] at hlive
    exact absurd hlive (by decide)
  have hne : s.int_read_pending ≠ 0 := by omega
  rw [read, if_neg hclosed, if_neg (Nat.not_lt.mpr hlive), if_neg (by simpa using fun _ => hne),
    if_neg hne, if_pos hneg]
  simp only [UpdateInWinSize, Connection.unread, Partial.empty, List.nil_append,
    List.append_assoc, and_self]

/-- A read that finds no bytes as an `int` changes nothing but `errorState`. -/
theorem read_of_zero (hlive : s.Live) (hint : s.int_read_pending = 0) (size : Nat) :
  (s.read size).2.1 ≤ 0 ∧ (s.read size).1.unread = s.unread
  := by
  have hclosed : s.state ≠ .closed := by
    intro h
    rw [Connection.Live, h] at hlive
    exact absurd hlive (by decide)
  have hminus : (-1 : Int) ≤ 0 := by decide
  rw [read, if_neg hclosed, if_neg (Nat.not_lt.mpr hlive), if_pos hint]
  split
  · exact ⟨le_refl 0, rfl⟩
  · exact ⟨hminus, rfl⟩

variable {s}

theorem readsFirst_iff_of_neg (hlive : s.Live) (hsome : s.unread ≠ [])
    (hint : s.int_read_pending < 0) (size : Nat) :
  s.ReadsFirst size ↔ s.Counts size
  := by
  have hpos := List.length_pos_of_ne_nil hsome
  obtain ⟨hret, hunread⟩ := s.read_of_neg hlive hint size
  have hnat : (s.read size).2.1.toNat = 0 := by
    rw [hret]
    exact Int.toNat_of_nonpos (le_of_lt hint)
  have hcounts : s.Counts size ↔ size = 0 ∧ s.outDataRead.1 = [] := by
    apply or_iff_right
    omega
  rw [hcounts]
  constructor
  · intro h
    have hcount := h.count
    have hzero : size = 0 := by omega
    have hleft := h.left
    rw [hzero, List.drop_zero] at hleft
    rw [hzero, hleft, List.append_left_eq_self] at hunread
    exact ⟨hzero, hunread⟩
  · rintro ⟨rfl, hnil⟩
    constructor
    · rw [hnat, Nat.zero_min]
    · rw [hnat, List.take_zero, List.take_zero]
    · rwa [hnil, List.nil_append] at hunread

theorem readsFirst_iff_of_zero (hlive : s.Live) (hsome : s.unread ≠ [])
    (hint : s.int_read_pending = 0) (size : Nat) :
  s.ReadsFirst size ↔ s.Counts size
  := by
  have hlen := s.length_unread
  have hpos := List.length_pos_of_ne_nil hsome
  obtain ⟨hret, hunread⟩ := s.read_of_zero hlive hint size
  have hnat : (s.read size).2.1.toNat = 0 := Int.toNat_of_nonpos hret
  constructor
  · intro h
    have hcount := h.count
    left
    omega
  · intro h
    have hzero : size = 0 := by
      rcases h with h | h
      · omega
      · exact h.1
    subst hzero
    constructor
    · rw [hnat, Nat.zero_min]
    · rw [hnat, List.take_zero, List.take_zero]
    · exact hunread

theorem readsFirst_iff_of_pos (hlive : s.Live) (hint : 0 < s.int_read_pending) (size : Nat) :
  s.ReadsFirst size ↔ s.Counts size
  := by
  have hlen := s.length_unread
  have hle := s.int_read_pending_le
  obtain ⟨hret, hdta, hrest⟩ := s.read_of_pos hlive hint size
  constructor
  · intro h
    have hcount := h.count
    left
    omega
  · intro h
    have hmin : min size s.int_read_pending.toNat = min size s.unread.length := by
      rcases h with h | ⟨rfl, -⟩ <;> omega
    rw [hmin] at hret hdta hrest
    constructor
    · rw [hret, Int.toNat_natCast]
    · rw [hret, hdta, Int.toNat_natCast, List.take_take, Nat.min_self, List.take_eq_take_iff,
        Nat.min_assoc, Nat.min_self]
    · rw [hrest]
      rcases Nat.le_total size s.unread.length with h | h
      · rw [Nat.min_eq_left h]
      · rw [Nat.min_eq_right h, List.drop_length, List.drop_eq_nil_of_le h]

/-- A stream that is not established, or no longer, has nothing that waits. -/
structure Settled (s : TcpStream) : Prop where
  notTimedWait : s.state ≠ .timedWait
  unread : ¬ s.Live → s.unread = []
  inPkt : ¬ s.Live → s.inPkt = []

theorem Settled.readsFirst_iff (hs : s.Settled) (size : Nat) :
  s.ReadsFirst size ↔ s.Counts size
  := by
  have hlen := s.length_unread
  by_cases hfound : s.Live ∧ s.unread ≠ []
  · obtain ⟨hlive, hsome⟩ := hfound
    have hpos := List.length_pos_of_ne_nil hsome
    rcases lt_trichotomy s.int_read_pending 0 with hint | hint | hint
    · exact readsFirst_iff_of_neg hlive hsome hint size
    · exact readsFirst_iff_of_zero hlive hsome hint size
    · exact readsFirst_iff_of_pos hlive hint size
  · have hnil : s.unread = [] := by
      by_contra hsome
      exact hfound ⟨by_contra fun hdown => hsome (hs.unread hdown), hsome⟩
    obtain ⟨hret, errorState, hsame⟩ := s.read_of_not size (.inr hnil)
    have hcounts : s.Counts size := by
      left
      rw [s.int_read_pending_of_nil hnil, ← hlen, hnil]
      simp
    apply iff_of_true _ hcounts
    constructor
    · rw [Int.toNat_of_nonpos hret, hnil, List.length_nil, Nat.min_zero]
    · rw [Int.toNat_of_nonpos hret, hnil, List.take_zero, List.take_nil]
    · rw [hsame]
      change s.unread = s.unread.drop size
      rw [hnil, List.drop_nil]

/-! ### Reachable streams -/

/-- The calls of a stream that has not been used. -/
def machine : Machine TcpStream Call Empty where
  step s call := (s.step call, [])

theorem settled_new :
  Settled {}
  where
  notTimedWait := TcpState.noConfusion
  unread _ := rfl
  inPkt _ := rfl

theorem Settled.read (hs : s.Settled) (size : Nat) :
  (s.read size).1.Settled
  := by
  by_cases hlive : s.Live
  · have hstate : (s.read size).1.state = s.state := by
      rw [TcpStream.read]
      repeat
        split
        case isTrue => rfl
      exact s.state_readData _
    constructor
    · rw [hstate]
      exact hs.notTimedWait
    · intro hdown
      rw [Connection.Live, hstate] at hdown
      exact absurd hlive hdown
    · intro hdown
      rw [Connection.Live, hstate] at hdown
      exact absurd hlive hdown
  · obtain ⟨-, errorState, hsame⟩ := s.read_of_not size (.inl hlive)
    rw [hsame]
    exact ⟨hs.notTimedWait, hs.unread, hs.inPkt⟩

/-- While the peer has not finished, no packet comes too early. -/
theorem rounds_drained (n : Nat) {h : History} (hopen : h.closedWrite = false)
    (hnone : h.finished = []) :
  h.Rounds History.Drained n
  := by
  induction n generalizing h with
  | zero => exact trivial
  | succ n ih =>
    have hfin : ∀ (h : History) (pkt : TcpPacket), h.closedWrite = false → h.finished = [] →
        (h.takePkt pkt).finished = [] := by
      intro h pkt hopen hnone
      rw [History.takePkt, hopen, hnone]
      simp
    intro pkt _
    constructor
    · rintro -
      rw [hfin { h with stream := h.stream.nextPkt.2 } pkt hopen hnone]
      exact List.nil_prefix
    · exact ih hopen (hfin _ pkt hopen hnone)

/-- A stream is settled after a call: its history is sound while the peer has not finished. -/
theorem Settled.step (hs : s.Settled) (call : Call) :
  (s.step call).Settled
  := by
  by_cases hread : ∃ size, call = .read size
  · obtain ⟨size, rfl⟩ := hread
    exact hs.read size
  · let h : History := ⟨s, s.unread, [], false, []⟩
    have hsound : h.Sound :=
      ⟨hs.notTimedWait, List.nil_prefix, fun _ => rfl,
        fun hdown => ⟨hs.unread hdown, hs.inPkt hdown, List.nil_prefix⟩⟩
    have hmeets : h.Meets call := by
      cases call
      case read size => exact absurd ⟨size, rfl⟩ hread
      case close => exact List.nil_prefix
      case tick clock =>
        rintro -
        exact List.nil_prefix
      case recvPkt data rand =>
        intro pkt _ s' _
        have hgoOn : (h.goOn s').closedWrite = false ∧ (h.goOn s').finished = [] := by
          rw [History.goOn]
          split <;> exact ⟨rfl, rfl⟩
        exact rounds_drained _ hgoOn.1 hgoOn.2
      all_goals exact trivial
    have hnext := hsound.step hmeets
    rw [← h.stream_step call]
    exact ⟨hnext.notTimedWait, fun hdown => (hnext.down hdown).1,
      fun hdown => (hnext.down hdown).2.1⟩

theorem settled_run (calls : List Call) :
  (machine.run {} calls).Settled
  := Machine.run_of_next (fun _ call hs => hs.step call) settled_new calls

/-- What waits is a queue of bytes exactly where the packets that are taken and the reads meet their
conditions. -/
theorem fifo_iff (s : TcpStream) (pkt : TcpPacket) (calls : List Call) (size : Nat) :
  (s.Appends pkt ↔ s.Takes pkt) ∧
    ((machine.run {} calls).ReadsFirst size ↔ (machine.run {} calls).Counts size)
  := by
  constructor
  · exact s.appends_iff pkt
  · exact (settled_run calls).readsFirst_iff size

/-- A connection that is accepted. -/
def accepts : List Call :=
  [.listenfor, History.arrives (TcpPacket.setSyn { seqno := 100 }),
    History.arrives (TcpPacket.setAck { seqno := 101 } 501)]

/-- The next packet, with three different segments. -/
def threeSegments : TcpPacket :=
  TcpPacket.setAck
    { seqno := 101, data := .replicate 1000 0 ++ .replicate 1000 1 ++ .replicate 1000 2 } 501

/-- The second segment is copied twice. -/
theorem not_appends_threeSegments :
  (machine.run {} accepts).state = .established ∧
    (machine.run {} accepts).inAckno = threeSegments.seqno ∧
    ¬ (machine.run {} accepts).Appends threeSegments
  := by
  refine ⟨by decide +kernel, by decide +kernel, ?_⟩
  rw [appends_iff]
  intro htakes
  have hrepeats : (machine.run {} accepts).Repeats threeSegments := htakes
  revert hrepeats
  decide +kernel

end TcpStream

end TcpOnUdp
