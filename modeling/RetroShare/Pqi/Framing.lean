import RetroShare.Pqi.Streamer

/-!
# The reader cuts the stream into its packets

A `Packet` carries its own length in its size field.  On a connection that stays active and
carries the packets `packets` one after the other, the reader hands over these packets in
order: `Framed` says how far it has come, and every read keeps it.
-/

namespace Pqi

/-- A packet whose size field is its length, which fits in the block of the reader. -/
structure Packet where
  bytes : List UInt8
  base_le : getRsPktBaseSize ≤ bytes.length
  le_max : bytes.length ≤ getRsPktMaxSize
  sizeField_eq : sizeField bytes = bytes.length

/-- The bytes of packets sent one after the other. -/
def wire (packets : List Packet) : List UInt8 := packets.flatMap Packet.bytes

/-- What an event hands to the deserialiser. -/
def Event.delivered : Event → Option (List UInt8)
  | .deserialise block pktlen _ => some (block.read 0 pktlen)
  | _ => none

/-- The packets handed to the deserialiser, in order. -/
def delivered (t : List Event) : List (List UInt8) := t.filterMap Event.delivered

/-- A tick of a connection that is active before and after reading. -/
def Input.Active : Input → Prop
  | .tickRecv k => k.active ∧ k.stillActive
  | .reconnect _ => False

/-- The trace has a run of more than `max_failed_read_attempts` failed reads. -/
def TooManyFailures (t : List Event) : Prop :=
  List.replicate (maxFailedReadAttempts + 1) Event.extraFailed <:+: t

variable {t : List Event} {p : Packet} {m : Memory} {done rest packets : List Packet} {s : Streamer}

theorem tooManyFailures_of_suffix {n : Nat} (h : List.replicate n Event.extraFailed <:+ t)
    (hn : maxFailedReadAttempts < n) :
  TooManyFailures t
  := by
  apply List.IsInfix.trans _ h.isInfix
  use List.replicate (n - (maxFailedReadAttempts + 1)) Event.extraFailed, []
  rw [List.append_nil, List.replicate_append_replicate]
  congr 1
  omega

theorem TooManyFailures.append {u : List Event} (h : TooManyFailures t) :
  TooManyFailures (t ++ u)
  := h.trans (List.prefix_append t u).isInfix

@[simp]
theorem delivered_append (t u : List Event) :
  delivered (t ++ u) = delivered t ++ delivered u
  := List.filterMap_append

theorem delivered_concat {e : Event} (t : List Event) (h : e.delivered = none) :
  delivered (t ++ [e]) = delivered t
  := by
  rw [delivered_append, delivered, delivered, List.filterMap_cons_none h, List.filterMap_nil,
    List.append_nil]

@[simp]
theorem wire_cons (p : Packet) (packets : List Packet) :
  wire (p :: packets) = p.bytes ++ wire packets
  := List.flatMap_cons

theorem wire_eq_nil (h : wire packets = []) :
  packets = []
  := by
  cases packets with
  | nil => rfl
  | cons p packets =>
    have hbase := p.base_le
    rw [wire_cons, List.append_eq_nil_iff] at h
    simp [h.1, getRsPktBaseSize] at hbase

/-! ### How far the reader has come -/

/-- The base packet of `p` is in the block; its other bytes and `rest` are in the stream. -/
structure Within (p : Packet) (rest : List Packet) (s : Streamer) : Prop where
  stream : s.stream = p.bytes.drop getRsPktBaseSize ++ wire rest
  isSome : s.mPktRpending.isSome
  block : ∀ k < getRsPktBaseSize, s.block k = p.bytes.getD k 0

/-- The reader has handed over `done`, and stands before or within the first packet of
`rest`. -/
structure Framed (done rest : List Packet) (s : Streamer) (t : List Event) : Prop where
  delivered_eq : delivered t = done.map Packet.bytes
  rpendSize : s.mPktRpending.isSome → s.mPktRpendSize = getRsPktMaxSize
  failed : List.replicate s.mFailedReadAttempts Event.extraFailed <:+ t
  initial : s.mReadingState = .initial → s.stream = wire rest
  started : s.mReadingState = .packetStarted → ∃ p rest', rest = p :: rest' ∧
    getRsPktBaseSize < p.bytes.length ∧ Within p rest' s

/-- The reader has come some way through `packets`. -/
def Underway (packets : List Packet) (s : Streamer) (t : List Event) : Prop :=
  ∃ done rest, packets = done ++ rest ∧ Framed done rest s t

section

variable (h : ∀ k < getRsPktBaseSize, m k = p.bytes.getD k 0)

include h

theorem getRsItemSize_of_base :
  getRsItemSize m = p.bytes.length
  := by
  rw [← p.sizeField_eq, sizeField]
  apply Memory.be32_congr
  intro k hk
  apply h
  simp only [getRsPktBaseSize]
  omega

theorem Packet.extralen_eq :
  Streamer.extralen m = p.bytes.length - getRsPktBaseSize
  := by
  have hfield := getRsItemSize_of_base h
  have hmax := p.le_max
  simp only [getRsPktMaxSize] at hmax
  rw [Streamer.extralen_of_lt (by omega), hfield]
  rfl

/-- A block with the base packet of `p` holds `p` once the other bytes are stored. -/
theorem Packet.store_body :
  ∀ k < p.bytes.length,
    m.store getRsPktBaseSize (p.bytes.drop getRsPktBaseSize) k = p.bytes.getD k 0
  := by
  intro k hk
  have hpacket : p.bytes.take getRsPktBaseSize ++ p.bytes.drop getRsPktBaseSize = p.bytes :=
    List.take_append_drop _ _
  have hhead : ∀ k < 8, m k = (p.bytes.take getRsPktBaseSize).getD k 0 := by
    intro k hk
    rw [h k hk, List.getD_eq_getElem?_getD, List.getD_eq_getElem?_getD,
      List.getElem?_take_of_lt (by exact hk)]
  have hstore := store_eq_append (List.length_take_of_le p.base_le) hhead
    (hk.trans_eq (congrArg List.length hpacket.symm))
  apply hstore.trans (congrArg (·.getD k 0) hpacket)

end

/-- Handing over a block that holds the packet `p` moves the reader past `p`. -/
theorem Framed.handOver (hdelivered : delivered t = done.map Packet.bytes)
    (hsize : s.mPktRpendSize = getRsPktMaxSize)
    (hblock : ∀ k < p.bytes.length, s.block k = p.bytes.getD k 0) (hstream : s.stream = wire rest) :
  Framed (done ++ [p]) rest s.handOver.1 (t ++ s.handOver.2)
  where
  delivered_eq := by
    have hfield : getRsItemSize s.block = p.bytes.length := by
      apply getRsItemSize_of_base
      intro k hk
      apply hblock k (hk.trans_le p.base_le)
    have hread : s.block.read 0 p.bytes.length = p.bytes := by
      apply Memory.read_eq
      intro k hk
      rw [Nat.zero_add]
      apply hblock k hk
    rw [delivered_append, hdelivered, List.map_append]
    simp [Streamer.handOver, delivered, Event.delivered, hfield, hread]
  rpendSize _ := hsize
  failed := List.nil_suffix
  initial _ := hstream
  started h := by cases h

/-- From `continue_packet` on, with the base packet of `p` in the block, the reader stays
within `p` or hands it over, unless it has failed too often. -/
theorem Within.continuePacket (extra : Bool) (h : Within p rest s)
    (hdelivered : delivered t = done.map Packet.bytes) (hsize : s.mPktRpendSize = getRsPktMaxSize)
    (hfailed : List.replicate s.mFailedReadAttempts Event.extraFailed <:+ t)
    (hstate : s.mReadingState = .packetStarted)
    (hfew : ¬ TooManyFailures (t ++ (s.continuePacket extra).2.1)) :
  Underway (done ++ p :: rest) (s.continuePacket extra).1 (t ++ (s.continuePacket extra).2.1)
  := by
  have hextra := Packet.extralen_eq h.block
  have hbase := p.base_le
  have hmax := p.le_max
  simp only [Streamer.continuePacket, hsize] at hfew ⊢
  rw [if_neg (by omega)] at hfew ⊢
  split at hfew
  case isTrue hpos =>
    rw [if_pos hpos]
    have hbody : (p.bytes.drop getRsPktBaseSize).length = (Streamer.extralen s.block).toNat := by
      rw [List.length_drop]
      omega
    cases hread : readdata s.stream (Streamer.extralen s.block).toNat extra with
    | none =>
      rw [hread] at hfew
      dsimp only at hfew ⊢
      have hfailed' : List.replicate (s.mFailedReadAttempts + 1) Event.extraFailed <:+
          t ++ [.extraFailed] := by
        rw [List.replicate_succ', List.suffix_append_self_iff]
        exact hfailed
      split at hfew
      case isTrue hmany =>
        refine absurd ?_ hfew
        have h := (tooManyFailures_of_suffix hfailed' hmany).append (u := [.closed])
        rwa [List.append_assoc] at h
      case isFalse hmany =>
        rw [if_neg hmany]
        refine ⟨done, p :: rest, rfl, ?_, fun _ => rfl, hfailed', ?_, ?_⟩
        · rw [delivered_concat t rfl, hdelivered]
        · intro hinitial
          simp [hstate] at hinitial
        · intro _
          exact ⟨p, rest, rfl, by omega, h.stream, h.isSome, h.block⟩
    | some read =>
      obtain ⟨bytes, rest'⟩ := read
      obtain ⟨hlen, hstream⟩ := readdata_eq_some hread
      rw [h.stream] at hstream
      obtain ⟨rfl, rfl⟩ := List.append_inj hstream (by rw [hbody, hlen])
      have hdelivered' : delivered (t ++ [.readExtra (p.bytes.drop getRsPktBaseSize)]) =
          done.map Packet.bytes := (delivered_concat t rfl).trans hdelivered
      have hhanded := Framed.handOver (p := p)
        (s := { s with
          mPktRpending := some (s.block.store getRsPktBaseSize
            (p.bytes.drop getRsPktBaseSize)),
          stream := wire rest })
        hdelivered' hsize (Packet.store_body h.block) rfl
      refine ⟨done ++ [p], rest, by simp, ?_⟩
      rw [List.append_assoc, List.singleton_append] at hhanded
      simpa only [hsize] using hhanded
  case isFalse hzero =>
    rw [if_neg hzero]
    refine ⟨done ++ [p], rest, by simp, Framed.handOver hdelivered hsize ?_ ?_⟩
    · intro k hk
      apply h.block k
      omega
    · rw [h.stream, List.drop_of_length_le (by omega), List.nil_append]

theorem Framed.readPacket (h : Framed done rest s t) (r : Round) (hsome : s.mPktRpending.isSome)
    (hfew : ¬ TooManyFailures (t ++ (s.readPacket r).2.1)) :
  Underway (done ++ rest) (s.readPacket r).1 (t ++ (s.readPacket r).2.1)
  := by
  have hsize := h.rpendSize hsome
  cases hstate : s.mReadingState with
  | initial =>
    have hstream := h.initial hstate
    rw [Streamer.readPacket_of_initial r hstate] at hfew ⊢
    cases hread : readdata s.stream getRsPktBaseSize r.base with
    | none =>
      rw [Streamer.startPacketRead_of_none r hread, List.append_nil]
      refine ⟨done, rest, rfl, h.delivered_eq, fun _ => hsize, h.failed, h.initial, ?_⟩
      intro hstarted
      simp [hstate] at hstarted
    | some read =>
      obtain ⟨bytes, tail⟩ := read
      obtain ⟨hlen, happend⟩ := readdata_eq_some hread
      rw [hstream] at happend
      rw [Streamer.startPacketRead_of_read r hread] at hfew ⊢
      cases rest with
      | nil =>
        have hempty := congrArg List.length happend
        simp only [wire, List.flatMap_nil, List.length_nil, List.length_append, hlen,
          getRsPktBaseSize] at hempty
        omega
      | cons p rest =>
        -- the bytes read are the base packet of the next packet
        have hsplit : p.bytes.take getRsPktBaseSize ++
            (p.bytes.drop getRsPktBaseSize ++ wire rest) = bytes ++ tail := by
          rw [← happend, ← List.append_assoc, List.take_append_drop, wire_cons]
        obtain ⟨rfl, rfl⟩ := List.append_inj hsplit
          (by rw [List.length_take_of_le p.base_le, hlen])
        have hwithin : Within p rest (s.started (p.bytes.take getRsPktBaseSize)
            (p.bytes.drop getRsPktBaseSize ++ wire rest)) := by
          refine ⟨rfl, rfl, ?_⟩
          intro k hk
          have hstore := Memory.store_add (p := 0) (m := s.block.store 0
            (List.replicate getRsPktBaseSize 0)) (hk.trans_eq hlen.symm)
          rw [Nat.zero_add, List.getD_eq_getElem?_getD,
            List.getElem?_take_of_lt hk] at hstore
          rw [List.getD_eq_getElem?_getD]
          exact hstore
        have hdelivered : delivered (t ++ [.readBase (p.bytes.take getRsPktBaseSize)]) =
            done.map Packet.bytes := by
          rw [delivered_concat t rfl, h.delivered_eq]
        have hcontinue := hwithin.continuePacket r.extra hdelivered hsize List.nil_suffix rfl
        obtain ⟨next, hnext⟩ : ∃ next, Streamer.continuePacket = next := ⟨_, rfl⟩
        rw [hnext] at hcontinue hfew ⊢
        rw [List.append_cons t] at hfew ⊢
        exact hcontinue hfew
  | packetStarted =>
    obtain ⟨p, rest, rfl, -, hwithin⟩ := h.started hstate
    rw [Streamer.readPacket_of_started r hstate] at hfew ⊢
    apply hwithin.continuePacket r.extra h.delivered_eq hsize h.failed hstate hfew

theorem Framed.allocateRpendLocked (h : Framed done rest s t) :
  Framed done rest s.allocateRpendLocked t
  := by
  cases hm : s.mPktRpending with
  | none =>
    simp only [Streamer.allocateRpendLocked, hm]
    refine ⟨h.delivered_eq, fun _ => rfl, h.failed, h.initial, ?_⟩
    intro hstate
    obtain ⟨p, rest, -, -, hwithin⟩ := h.started hstate
    have hsome := hwithin.isSome
    simp [hm] at hsome
  | some m => simpa [Streamer.allocateRpendLocked, hm] using h

theorem Framed.new (packets : List Packet) :
  Framed [] packets (Streamer.new (wire packets)) []
  where
  delivered_eq := rfl
  rpendSize h := by cases h
  failed := List.nil_suffix
  initial _ := rfl
  started h := by cases h

/-- A tick of an active connection moves the reader along, unless it has failed too often. -/
theorem Underway.step {i : Input} (hactive : i.Active)
    (h : ¬ TooManyFailures t → Underway packets s t) :
  ¬ TooManyFailures (t ++ reader.emit s i) →
    Underway packets (reader.next s i) (t ++ reader.emit s i)
  := by
  cases i with
  | reconnect stream => cases hactive
  | tickRecv k =>
    obtain ⟨hbefore, hafter⟩ := hactive
    simp only [reader, Machine.next, Machine.emit, Streamer.tickRecv, hbefore, hafter, if_true]
    split
    · apply Streamer.handleincoming_of_readPacket
        (P := fun s t => ¬ TooManyFailures t → Underway packets s t)
      · intro s r t hsome h hfew
        obtain ⟨done, rest, rfl, hframed⟩ := h fun hmany => hfew hmany.append
        apply hframed.readPacket r hsome hfew
      · intro hfew
        obtain ⟨done, rest, rfl, hframed⟩ := h hfew
        exact ⟨done, rest, rfl, hframed.allocateRpendLocked⟩
    · simpa using h

/-! ### Runs on an active connection -/

/-- The bytes of the packets `rest` that a streamer before or within the first of them has
not read. -/
def Streamer.unread (s : Streamer) (rest : List Packet) : List UInt8 :=
  (wire rest).drop (match s.mReadingState with
    | .initial => 0
    | .packetStarted => getRsPktBaseSize)

/-- On an active connection that carries `packets`, and with not too many failed reads in a
row, the packets handed to the deserialiser are the first ones of `packets`, in order; the
bytes of the others that are not read yet are still in the stream; and once everything is
read, all of `packets` are handed over. -/
theorem delivered_trace {packets : List Packet} {is : List Input}
    (hactive : ∀ i ∈ is, i.Active)
    (hfew : ¬ TooManyFailures (reader.trace (Streamer.new (wire packets)) is)) :
  ∃ done rest, packets = done ++ rest ∧
    delivered (reader.trace (Streamer.new (wire packets)) is) = done.map Packet.bytes ∧
    (reader.run (Streamer.new (wire packets)) is).stream =
      (reader.run (Streamer.new (wire packets)) is).unread rest ∧
    ((reader.run (Streamer.new (wire packets)) is).stream = [] → rest = [])
  := by
  have hrun := Machine.run_trace_of_step (m := reader)
    (P := fun s t => ¬ TooManyFailures t → Underway packets s t)
    (C := fun _ i => i.Active) (fun s i t h hi => Underway.step hi h)
    (s := Streamer.new (wire packets)) (t := [])
    (fun _ => ⟨[], packets, rfl, Framed.new packets⟩)
    (Machine.along_of_forall_mem hactive _)
  rw [List.nil_append] at hrun
  obtain ⟨done, rest, hpackets, hframed⟩ := hrun hfew
  refine ⟨done, rest, hpackets, hframed.delivered_eq, ?_⟩
  cases hstate : (reader.run (Streamer.new (wire packets)) is).mReadingState with
  | initial =>
    have hstream := hframed.initial hstate
    refine ⟨by simp only [Streamer.unread, hstate, hstream, List.drop_zero], ?_⟩
    intro hnil
    apply wire_eq_nil
    rw [← hstream, hnil]
  | packetStarted =>
    obtain ⟨p, rest, rfl, hlong, hwithin⟩ := hframed.started hstate
    have hstream := hwithin.stream
    refine ⟨?_, ?_⟩
    · simp only [Streamer.unread, hstate]
      rw [hstream, wire_cons, List.drop_append_of_le_length p.base_le]
    · intro hnil
      rw [hnil, eq_comm, List.append_eq_nil_iff, List.drop_eq_nil_iff] at hstream
      omega

theorem not_tooManyFailures_of_length (h : t.length ≤ maxFailedReadAttempts) :
  ¬ TooManyFailures t
  := by
  intro hmany
  have hlen := hmany.length_le
  rw [List.length_replicate] at hlen
  omega

/-- A packet of nine bytes. -/
def ninePacket : Packet where
  bytes := [0, 0, 0, 0, 0, 0, 0, 9, 7]
  base_le := by decide
  le_max := by decide
  sizeField_eq := by decide

/-- A tick of an active connection that reads one packet with these outcomes. -/
def activeTick (r : Round) : Input :=
  .tickRecv ⟨true, true, 1000, r, [], true⟩

/-- Three ticks: a failed read of a base packet, a failed read of a body, and full reads. -/
def nineTicks : List Input :=
  [activeTick ⟨false, true⟩, activeTick ⟨true, false⟩, activeTick ⟨true, true⟩]

/-- The reader on two copies of `ninePacket`. -/
theorem delivered_trace_ninePacket :
  ∃ done rest, [ninePacket, ninePacket] = done ++ rest ∧
    delivered (reader.trace (Streamer.new (wire [ninePacket, ninePacket])) nineTicks) =
      done.map Packet.bytes ∧
    (reader.run (Streamer.new (wire [ninePacket, ninePacket])) nineTicks).stream =
      (reader.run (Streamer.new (wire [ninePacket, ninePacket])) nineTicks).unread rest ∧
    ((reader.run (Streamer.new (wire [ninePacket, ninePacket])) nineTicks).stream = [] →
      rest = [])
  := by
  apply delivered_trace
  · simp [nineTicks, activeTick, Input.Active]
  · apply not_tooManyFailures_of_length
    decide

end Pqi
