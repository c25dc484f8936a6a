import RetroShare.Pqi.Streamer

/-!
# What is handed to the deserialiser

Every call `RsSerialiser::deserialise(block, &pktlen)` of the packet reader is made with
the size field of the current header as `pktlen`.  `CallsOk` says of a trace that every
such length fits in the block and that a length of at least `8` counts bytes that have
been read into the block.  It holds of a run exactly when no header with a size field of
`2 ^ 31 + 8` or more is read: for such a field the difference `extralen` is negative, so it
passes the check against the block size.
-/

namespace Pqi

/-- The bytes of the current packet that have been read, after one more event. -/
def Event.after (packet : List UInt8) : Event → List UInt8
  | .readBase bytes => bytes
  | .readExtra bytes => packet ++ bytes
  | _ => packet

/-- A call of the deserialiser is made with a length that fits in the block, and with at
least `8` only if exactly so many bytes of the current packet are in the block. -/
def CallOk (packet : List UInt8) : Event → Prop
  | .deserialise block pktlen rpendSize =>
      (pktlen : Int) ≤ rpendSize ∧
        (8 ≤ pktlen → packet.length = pktlen ∧ ∀ k < pktlen, block k = packet.getD k 0)
  | _ => True

/-- Every call of the deserialiser in a trace is fine, when `packet` has been read before. -/
def CallsOk : List UInt8 → List Event → Prop
  | _, [] => True
  | packet, e :: t => CallOk packet e ∧ CallsOk (e.after packet) t

/-- No base packet in the trace has a size field of `2 ^ 31 + 8` or more. -/
def HeadersSmall (t : List Event) : Prop :=
  ∀ bytes, .readBase bytes ∈ t → sizeField bytes < 2 ^ 31 + 8

theorem callsOk_append (packet : List UInt8) (t u : List Event) :
  CallsOk packet (t ++ u) ↔ CallsOk packet t ∧ CallsOk (t.foldl Event.after packet) u
  := by
  induction t generalizing packet with
  | nil => simp [CallsOk]
  | cons e t ih => simp [CallsOk, ih, and_assoc]

theorem headersSmall_append (t u : List Event) :
  HeadersSmall (t ++ u) ↔ HeadersSmall t ∧ HeadersSmall u
  := by
  simp only [HeadersSmall, List.mem_append]
  constructor
  · intro h
    exact ⟨fun b hb => h b (.inl hb), fun b hb => h b (.inr hb)⟩
  · rintro ⟨ht, hu⟩ b (hb | hb)
    · exact ht b hb
    · exact hu b hb

/-! ### The invariant of the reader -/

/-- What is in the block of a streamer when `packet` has been read of the current packet: a
started packet has its base packet in the block, and a size field that fits in the block;
the block of a packet whose connection was lost in between is cleared. -/
structure Pending (s : Streamer) (packet : List UInt8) : Prop where
  rpendSize : s.mPktRpending.isSome → s.mPktRpendSize = getRsPktMaxSize
  header : ∀ m, s.mPktRpending = some m → s.mReadingState = .packetStarted →
    getRsItemSize m = 0 ∨ packet.length = 8 ∧ (∀ k < 8, m k = packet.getD k 0) ∧
      getRsItemSize m ≤ getRsPktMaxSize

/-- The bytes of the current packet read so far. -/
def packetBytes (t : List Event) : List UInt8 := t.foldl Event.after []

variable {s : Streamer}

/-- A streamer that is not within a packet. -/
theorem Pending.of_initial (hsize : s.mPktRpendSize = getRsPktMaxSize)
    (hstate : s.mReadingState = .initial) (packet : List UInt8) :
  Pending s packet
  where
  rpendSize _ := hsize
  header _ _ h := by
    rw [hstate] at h
    cases h

theorem Pending.giveUp (hsize : s.mPktRpendSize = getRsPktMaxSize) (packet : List UInt8) :
  Pending s.giveUp packet
  := Pending.of_initial (s := s.giveUp) hsize rfl packet

/-- From `continue_packet` on, the calls are fine exactly when the size field is below
`2 ^ 31 + 8`. -/
theorem continuePacket_spec {m : Memory} {p : List UInt8} (extra : Bool)
    (hm : s.mPktRpending = some m) (hsize : s.mPktRpendSize = getRsPktMaxSize)
    (hhead : getRsItemSize m = 0 ∨ p.length = 8 ∧ ∀ k < 8, m k = p.getD k 0) :
  (CallsOk p (s.continuePacket extra).2.1 ↔ getRsItemSize m < 2 ^ 31 + 8) ∧
    HeadersSmall (s.continuePacket extra).2.1 ∧
    Pending (s.continuePacket extra).1 ((s.continuePacket extra).2.1.foldl Event.after p)
  := by
  have hblock : s.block = m := by simp [Streamer.block, hm]
  have hlt := getRsItemSize_lt m
  by_cases hsmall : getRsItemSize m < 2 ^ 31 + 8
  case neg =>
    rw [Streamer.continuePacket_of_neg extra hsize
      (by rw [hblock]; exact Streamer.extralen_neg (by omega))]
    simp only [hblock, Streamer.pktlen_eq, hsmall, iff_false]
    and_intros
    · rintro ⟨⟨hle, -⟩, -⟩
      simp only [getRsPktMaxSize] at hle
      omega
    · intro bytes hbytes
      simp at hbytes
    · apply Pending.giveUp hsize
  case pos =>
    have hextra := Streamer.extralen_of_lt hsmall
    simp only [Streamer.continuePacket, hblock, hsize, hsmall, iff_true]
    split
    case isTrue =>
      and_intros
      · trivial
      · trivial
      · intro bytes hbytes
        simp at hbytes
      · apply Pending.giveUp hsize
    case isFalse hfit =>
      simp only [hextra, getRsPktMaxSize, getRsPktBaseSize] at hfit
      split
      case isTrue hpos =>
        rw [hextra] at hpos
        have hhead' : p.length = 8 ∧ ∀ k < 8, m k = p.getD k 0 := by
          rcases hhead with h | h
          · omega
          · exact h
        split
        case h_1 =>
          split
          · and_intros
            · trivial
            · trivial
            · trivial
            · intro bytes hbytes
              simp at hbytes
            · apply Pending.giveUp hsize
          · and_intros
            · trivial
            · trivial
            · intro bytes hbytes
              simp at hbytes
            · constructor
              · exact fun _ => rfl
              · intro m' hm' _
                obtain rfl : m = m' := Option.some.inj (hm.symm.trans hm')
                right
                exact ⟨hhead'.1, hhead'.2, by simp only [getRsPktMaxSize]; omega⟩
        case h_2 bytes rest hread =>
          obtain ⟨hbytes, -⟩ := readdata_eq_some hread
          have hlen : (p ++ bytes).length = getRsItemSize m := by
            simp only [List.length_append, hhead'.1, hbytes]
            omega
          simp only [Streamer.handOver, Streamer.block, Option.getD_some,
            Streamer.pktlen_eq, getRsItemSize_store]
          and_intros
          · trivial
          · simp only [getRsPktMaxSize]
            omega
          · intro _
            use hlen
            intro k hk
            apply store_eq_append hhead'.1 hhead'.2 (by omega)
          · trivial
          · intro bytes hbytes
            simp at hbytes
          · apply Pending.giveUp
            rfl
      case isFalse hpos =>
        rw [hextra] at hpos
        simp only [Streamer.handOver, hblock, hsize, Streamer.pktlen_eq]
        and_intros
        · simp only [getRsPktMaxSize]
          omega
        · intro h8
          rcases hhead with h | ⟨hlen, hhead⟩
          · omega
          · use by omega
            intro k hk
            apply hhead k (by omega)
        · trivial
        · intro bytes hbytes
          simp at hbytes
        · apply Pending.giveUp hsize

theorem readPacket_spec {packet : List UInt8} (r : Round) (hsome : s.mPktRpending.isSome)
    (h : Pending s packet) :
  (CallsOk packet (s.readPacket r).2.1 ↔ HeadersSmall (s.readPacket r).2.1) ∧
    Pending (s.readPacket r).1 ((s.readPacket r).2.1.foldl Event.after packet)
  := by
  obtain ⟨m, hm⟩ := Option.isSome_iff_exists.mp hsome
  have hsize := h.rpendSize hsome
  cases hstate : s.mReadingState with
  | initial =>
    rw [Streamer.readPacket_of_initial r hstate]
    cases hread : readdata s.stream getRsPktBaseSize r.base with
    | none =>
      rw [Streamer.startPacketRead_of_none r hread]
      constructor
      · simp [CallsOk, HeadersSmall]
      · apply Pending.of_initial
        · exact hsize
        · exact hstate
    | some read =>
      obtain ⟨bytes, rest⟩ := read
      obtain ⟨hlen, -⟩ := readdata_eq_some hread
      have hbase : ∀ k < 8, (s.started bytes rest).block k = bytes.getD k 0 := by
        intro k hk
        have hstore := Memory.store_add (p := 0)
          (m := s.block.store 0 (List.replicate getRsPktBaseSize 0)) (hk.trans_eq hlen.symm)
        rwa [Nat.zero_add] at hstore
      obtain ⟨hcalls, hheaders, hpending⟩ := continuePacket_spec r.extra
        (s := s.started bytes rest) (p := bytes) rfl hsize (.inr ⟨hlen, hbase⟩)
      rw [getRsItemSize_store_zero _ hlen] at hcalls
      rw [Streamer.startPacketRead_of_read r hread]
      obtain ⟨next, hnext⟩ : ∃ next, Streamer.continuePacket = next := ⟨_, rfl⟩
      rw [hnext] at hcalls hheaders hpending ⊢
      refine ⟨?_, hpending⟩
      simp only [CallsOk, CallOk, true_and, Event.after, hcalls]
      constructor
      · intro hsmall b hb
        rcases List.mem_cons.mp hb with hb | hb
        · cases hb
          exact hsmall
        · apply hheaders b hb
      · intro hall
        apply hall bytes List.mem_cons_self
  | packetStarted =>
    rw [Streamer.readPacket_of_started r hstate]
    have hhead := h.header m hm hstate
    obtain ⟨hcalls, hheaders, hpending⟩ := continuePacket_spec r.extra hm hsize
      (hhead.imp_right fun hh => ⟨hh.1, hh.2.1⟩)
    refine ⟨?_, hpending⟩
    simp only [hcalls, hheaders, iff_true]
    rcases hhead with h0 | ⟨-, -, hmax⟩
    · omega
    · simp only [getRsPktMaxSize] at hmax
      omega

/-! ### Runs of the reader -/

/-- In every run, the deserialiser is called with a length that fits in the block, and with
a length of at least `8` only when exactly so many bytes of the packet are in the block, if
and only if no header with a size field of `2 ^ 31 + 8` or more was read. -/
theorem callsOk_trace_iff (stream : List UInt8) (is : List Input) :
  CallsOk [] (reader.trace (Streamer.new stream) is) ↔
    HeadersSmall (reader.trace (Streamer.new stream) is)
  := by
  apply And.left (b := Pending (reader.run (Streamer.new stream) is)
    (packetBytes (reader.trace (Streamer.new stream) is)))
  apply reader_run (P := fun s t =>
    (CallsOk [] t ↔ HeadersSmall t) ∧ Pending s (packetBytes t))
  · rintro s r t hsome ⟨hiff, h⟩
    obtain ⟨hcalls, hpending⟩ := readPacket_spec r hsome h
    constructor
    · rw [callsOk_append, headersSmall_append, hiff]
      exact and_congr_right fun _ => hcalls
    · simpa [packetBytes] using hpending
  · rintro s t ⟨hiff, h⟩
    refine ⟨hiff, ?_⟩
    cases hm : s.mPktRpending with
    | none =>
      constructor
      · intro _
        simp [Streamer.allocateRpendLocked, hm]
      · intro m hm' _
        left
        simp only [Streamer.allocateRpendLocked, hm, Option.some.injEq] at hm'
        subst hm'
        rfl
    | some m => simpa [Streamer.allocateRpendLocked, hm] using h
  · rintro s t ⟨hiff, h⟩
    refine ⟨hiff, ?_⟩
    cases hm : s.mPktRpending with
    | none => simpa [Streamer.freeRpendLocked, hm] using h
    | some m => constructor <;> simp [Streamer.freeRpendLocked, hm]
  · rintro s t ⟨hiff, h⟩
    exact ⟨hiff, h.rpendSize, by simp⟩
  · rintro s t stream ⟨hiff, h⟩
    exact ⟨hiff, h.rpendSize, h.header⟩
  · constructor
    · simp [CallsOk, HeadersSmall]
    · constructor <;> simp [Streamer.new]

/-- The size field of the only header of this stream is `2 ^ 32 - 16`. -/
def hugePacket : List UInt8 := [0, 0, 0, 0, 0xff, 0xff, 0xff, 0xf0]

/-- One tick that reads everything. -/
def fullTick : Tick where
  moretoread := true
  active := true
  maxin := 1000000
  round := ⟨true, true⟩
  more := []
  stillActive := true

theorem trace_fullTick (s : Streamer) :
  reader.trace s [.tickRecv fullTick] =
    (s.allocateRpendLocked.readPacket ⟨true, true⟩).2.1
  := by
  simp only [reader, Machine.trace_cons, Machine.trace_nil, Machine.emit, List.append_nil,
    Streamer.tickRecv, fullTick, Streamer.handleincomingLocked, if_true]
  rw [Streamer.readLoop_nil]

/-- The block after `hugePacket` has been read into a new one. -/
def hugeBlock : Memory :=
  (Memory.store (fun _ => 0) 0 (List.replicate getRsPktBaseSize 0)).store 0 hugePacket

theorem trace_hugePacket :
  reader.trace (Streamer.new hugePacket) [.tickRecv fullTick] =
    [.readBase hugePacket, .deserialise hugeBlock (2 ^ 32 - 16) getRsPktMaxSize]
  := by
  have hfield : getRsItemSize hugeBlock = 2 ^ 32 - 16 := by decide
  have hneg : Streamer.extralen hugeBlock < 0 := Streamer.extralen_neg (by rw [hfield]; omega)
  have hcont := Streamer.continuePacket_of_neg true
    (s := (Streamer.new hugePacket).allocateRpendLocked.started hugePacket []) rfl hneg
  have hpacket := Streamer.startPacketRead_of_read ⟨true, true⟩
    (s := (Streamer.new hugePacket).allocateRpendLocked)
    (show readdata hugePacket getRsPktBaseSize true = some (hugePacket, []) from rfl)
  rw [hcont, Streamer.pktlen_eq] at hpacket
  rw [trace_fullTick, Streamer.readPacket_of_initial _ rfl, hpacket]
  rw [← hfield]
  rfl

/-- A peer that sends `hugePacket` makes the reader hand over a block of `262143` bytes with
a length of `2 ^ 32 - 16`, and the deserialiser accepts this length. -/
theorem not_callsOk_hugePacket :
  ¬ CallsOk [] (reader.trace (Streamer.new hugePacket) [.tickRecv fullTick]) ∧
    ∃ block, .deserialise block (2 ^ 32 - 16) getRsPktMaxSize ∈
        reader.trace (Streamer.new hugePacket) [.tickRecv fullTick] ∧
      deserialiseAccepts block (2 ^ 32 - 16)
  := by
  rw [trace_hugePacket]
  constructor
  · rintro ⟨-, ⟨hle, -⟩, -⟩
    exact absurd hle (by decide)
  · use hugeBlock
    constructor
    · simp
    · decide

end Pqi
