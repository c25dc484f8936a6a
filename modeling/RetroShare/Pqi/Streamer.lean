import Mathlib.Data.List.GetD
import RetroShare.Lib.Bytes
import RetroShare.Lib.Machine

/-!
# The packet reader of `pqistreamer`

`Streamer` is the receiving half of a `pqistreamer`: the pending block, its reading state
and the bytes of the connection that `mBio` has not handed out yet.  `handleincomingLocked`
reads packets from the connection, jumping into the middle of a packet when its header has
been read by an earlier call.

What `mBio` and the bandwidth control answer is an input: every `Round` says whether the
two reads of a packet succeed, and a further round is the answer that there is more to
read.  A read returns all the requested bytes or consumes nothing.
-/

namespace Pqi

/-- `getRsPktMaxSize` of `rsserial.cc`. -/
def getRsPktMaxSize : Nat := 262143

/-- `getRsPktBaseSize` of `rsserial.cc`. -/
def getRsPktBaseSize : Nat := 8

/-- `getRsItemSize` of `rsserial.cc`: the size field of a packet header. -/
def getRsItemSize (block : Memory) : Nat := block.be32 4

/-- The size field of a base packet. -/
def sizeField (bytes : List UInt8) : Nat := getRsItemSize (Bytes.toMemory bytes)

/-- The header check of `RsSerialiser::deserialise`, before a serialiser is looked up. -/
def deserialiseAccepts (block : Memory) (size : Nat) : Bool :=
  decide (8 ≤ size) && decide (getRsItemSize block = size)

/-- `max_failed_read_attempts` of `handleincoming_locked`. -/
def maxFailedReadAttempts : Nat := 2000

/-- `mReading_state`. -/
inductive ReadingState where
  | initial
  | packetStarted
  deriving DecidableEq, Repr

/-- The receiving half of a `pqistreamer`. -/
structure Streamer where
  /-- `mPkt_rpending`, `none` for `NULL`. -/
  mPktRpending : Option Memory
  mPktRpendSize : Int
  mReadingState : ReadingState
  mFailedReadAttempts : Nat
  /-- The bytes of the connection that `mBio` has not handed out. -/
  stream : List UInt8

/-- A new streamer over a connection that carries `stream`. -/
def Streamer.new (stream : List UInt8) : Streamer where
  mPktRpending := none
  mPktRpendSize := 0
  mReadingState := .initial
  mFailedReadAttempts := 0
  stream := stream

/-- What the reader does to the outside. -/
inductive Event where
  /-- The base packet was read into the start of the block. -/
  | readBase (bytes : List UInt8)
  /-- The rest of the packet was read into the block, behind the base packet. -/
  | readExtra (bytes : List UInt8)
  /-- The read of the rest of a packet consumed nothing. -/
  | extraFailed
  /-- `RsSerialiser::deserialise(block, &pktlen)`, with `mPkt_rpend_size`. -/
  | deserialise (block : Memory) (pktlen : Nat) (rpendSize : Int)
  /-- `mBio->close()`. -/
  | closed

/-- Whether the reads of the base packet and of its rest return all requested bytes. -/
structure Round where
  base : Bool
  extra : Bool

/-- `mBio->readdata`: all `len` bytes and the remaining stream, or nothing. -/
def readdata (stream : List UInt8) (len : Nat) (full : Bool) :
    Option (List UInt8 × List UInt8) :=
  if full ∧ len ≤ stream.length then some (stream.take len, stream.drop len) else none

namespace Streamer

/-- The memory behind `mPkt_rpending`. -/
def block (s : Streamer) : Memory := s.mPktRpending.getD fun _ => 0

/-- `allocate_rpend_locked`. -/
def allocateRpendLocked (s : Streamer) : Streamer :=
  match s.mPktRpending with
  | some _ => s
  | none => { s with mPktRpendSize := getRsPktMaxSize, mPktRpending := some fun _ => 0 }

/-- `free_rpend_locked`. -/
def freeRpendLocked (s : Streamer) : Streamer :=
  match s.mPktRpending with
  | none => s
  | some _ => { s with mPktRpending := none, mPktRpendSize := 0 }

/-- `extralen`: an unsigned difference turned into an `int`. -/
def extralen (block : Memory) : Int :=
  Int.bmod ((getRsItemSize block : Int) - getRsPktBaseSize) (2 ^ 32)

/-- `pktlen`: the sum `blen + extralen` turned into an unsigned number. -/
def pktlen (block : Memory) : Nat :=
  ((getRsPktBaseSize + extralen block) % 2 ^ 32).toNat

/-- The state after the connection is given up. -/
def giveUp (s : Streamer) : Streamer :=
  { s with mReadingState := .initial, mFailedReadAttempts := 0 }

/-- The end of `continue_packet`: the block is handed over. -/
def handOver (s : Streamer) : Streamer × List Event :=
  (s.giveUp, [.deserialise s.block (pktlen s.block) s.mPktRpendSize])

/-- The part of `handleincoming_locked` from `continue_packet` on.  The last component is
the number of bytes read, `none` where the call returns. -/
def continuePacket (s : Streamer) (extra : Bool) : Streamer × List Event × Option Int :=
  if extralen s.block > s.mPktRpendSize - getRsPktBaseSize then
    (s.giveUp, [.closed], none)
  else if extralen s.block > 0 then
    match readdata s.stream (extralen s.block).toNat extra with
    | none =>
        if s.mFailedReadAttempts + 1 > maxFailedReadAttempts then
          (s.giveUp, [.extraFailed, .closed], none)
        else
          ({ s with mFailedReadAttempts := s.mFailedReadAttempts + 1 }, [.extraFailed], none)
    | some (bytes, rest) =>
        let s' := { s with
          mPktRpending := some (s.block.store getRsPktBaseSize bytes), stream := rest }
        (s'.handOver.1, .readExtra bytes :: s'.handOver.2, some (extralen s.block))
  else
    (s.handOver.1, s.handOver.2, some 0)

/-- The part of `handleincoming_locked` from `start_packet_read` on. -/
def startPacketRead (s : Streamer) (r : Round) : Streamer × List Event × Option Int :=
  let cleared := s.block.store 0 (List.replicate getRsPktBaseSize 0)
  match readdata s.stream getRsPktBaseSize r.base with
  | none => ({ s with mPktRpending := some cleared }, [], none)
  | some (bytes, rest) =>
      let s' := { s with
        mPktRpending := some (cleared.store 0 bytes), stream := rest,
        mReadingState := .packetStarted, mFailedReadAttempts := 0 }
      let (s'', events, n) := s'.continuePacket r.extra
      (s'', .readBase bytes :: events, n.map (getRsPktBaseSize + ·))

/-- One pass through `handleincoming_locked`, entered according to `mReading_state`. -/
def readPacket (s : Streamer) (r : Round) : Streamer × List Event × Option Int :=
  match s.mReadingState with
  | .initial => s.startPacketRead r
  | .packetStarted => s.continuePacket r.extra

/-- The loop of `handleincoming_locked`: a further round is a true answer of
`mBio->moretoread(0)`. -/
def readLoop (maxin : Int) : Int → Round → List Round → Streamer → Streamer × List Event
  | readbytes, r, rs, s =>
      let (s', events, n) := s.readPacket r
      match n, rs with
      | none, _ => (s', events)
      | some _, [] => (s', events)
      | some n, r' :: rs' =>
          if maxin > readbytes + n then
            let (s'', events') := readLoop maxin (readbytes + n) r' rs' s'
            (s'', events ++ events')
          else
            (s', events)

/-- `handleincoming_locked`. -/
def handleincomingLocked (s : Streamer) (active : Bool) (maxin : Int) (r : Round)
    (rs : List Round) : Streamer × List Event :=
  if active then
    readLoop maxin 0 r rs s.allocateRpendLocked
  else
    ({ s with mReadingState := .initial }.freeRpendLocked, [])

end Streamer

/-- The answers `tick_recv` gets: `moretoread`, `isactive` before and after reading, the
byte allowance, and the outcomes of the reads. -/
structure Tick where
  moretoread : Bool
  active : Bool
  maxin : Int
  round : Round
  more : List Round
  stillActive : Bool

/-- `tick_recv`. -/
def Streamer.tickRecv (s : Streamer) (t : Tick) : Streamer × List Event :=
  let (s', events) :=
    if t.moretoread then s.handleincomingLocked t.active t.maxin t.round t.more else (s, [])
  (if t.stillActive then s' else s'.freeRpendLocked, events)

/-- What happens to a streamer: a tick, or a new connection with the bytes it carries. -/
inductive Input where
  | tickRecv (t : Tick)
  | reconnect (stream : List UInt8)

/-- The reader as a machine. -/
def reader : Machine Streamer Input Event where
  step s
    | .tickRecv t => s.tickRecv t
    | .reconnect stream => ({ s with stream := stream }, [])

/-! ### The arithmetic of a header -/

variable (m : Memory) {bytes rest : List UInt8} {s : Streamer} (r : Round)
  {P : Streamer → List Event → Prop}

theorem getRsItemSize_lt (block : Memory) :
  getRsItemSize block < 2 ^ 32
  := block.be32_lt 4

/-- `pktlen` is the size field, whatever its value. -/
@[simp]
theorem Streamer.pktlen_eq (block : Memory) :
  pktlen block = getRsItemSize block
  := by
  have h := getRsItemSize_lt block
  simp only [pktlen, extralen, getRsPktBaseSize, Int.bmod_def]
  omega

theorem Streamer.extralen_of_lt {block : Memory} (h : getRsItemSize block < 2 ^ 31 + 8) :
  extralen block = getRsItemSize block - 8
  := by
  simp only [extralen, getRsPktBaseSize, Int.bmod_def]
  omega

/-- From `2 ^ 31 + 8` on the size field turns into a negative `extralen`. -/
theorem Streamer.extralen_neg {block : Memory} (h : 2 ^ 31 + 8 ≤ getRsItemSize block) :
  extralen block < 0
  := by
  have h' := getRsItemSize_lt block
  simp only [extralen, getRsPktBaseSize, Int.bmod_def]
  omega

theorem getRsItemSize_store (bytes : List UInt8) :
  getRsItemSize (m.store getRsPktBaseSize bytes) = getRsItemSize m
  := by
  apply Memory.be32_congr
  intro k hk
  apply Memory.store_of_lt
  simp only [getRsPktBaseSize]
  omega

/-- A block with the base packet and the rest of a packet behind it holds the packet. -/
theorem store_eq_append {m : Memory} {packet : List UInt8} (hlen : packet.length = 8)
    (hm : ∀ k < 8, m k = packet.getD k 0) {k : Nat} (hk : k < (packet ++ bytes).length) :
  m.store getRsPktBaseSize bytes k = (packet ++ bytes).getD k 0
  := by
  rw [List.length_append, hlen] at hk
  by_cases h : k < 8
  · rw [Memory.store_of_lt (by simpa [getRsPktBaseSize] using h), hm k h,
      List.getD_append _ _ _ _ (by omega)]
  · obtain ⟨j, rfl⟩ : ∃ j, k = getRsPktBaseSize + j := ⟨k - 8, by simp [getRsPktBaseSize]; omega⟩
    simp only [getRsPktBaseSize] at hk
    rw [Memory.store_add (by omega), List.getD_eq_getElem?_getD, List.getD_eq_getElem?_getD,
      List.getElem?_append_right (by simp [hlen, getRsPktBaseSize])]
    simp [hlen, getRsPktBaseSize]

theorem getRsItemSize_store_zero (h : bytes.length = 8) :
  getRsItemSize (m.store 0 bytes) = sizeField bytes
  := by
  apply Memory.be32_congr
  intro k hk
  rw [← Nat.zero_add (4 + k), Memory.store_add (by omega), Nat.zero_add, Bytes.toMemory]

theorem readdata_eq_some {stream : List UInt8} {len : Nat} {full : Bool}
    (h : readdata stream len full = some (bytes, rest)) :
  bytes.length = len ∧ stream = bytes ++ rest
  := by
  simp only [readdata] at h
  split at h
  case isTrue hlen =>
    obtain ⟨rfl, rfl⟩ := Prod.mk.inj (Option.some.inj h)
    constructor
    · simp [hlen.2]
    · simp
  case isFalse => cases h

/-! ### Reading one packet -/

theorem Streamer.readPacket_of_initial (h : s.mReadingState = .initial) :
  s.readPacket r = s.startPacketRead r
  := by
  rw [readPacket, h]

theorem Streamer.readPacket_of_started (h : s.mReadingState = .packetStarted) :
  s.readPacket r = s.continuePacket r.extra
  := by
  rw [readPacket, h]

theorem Streamer.startPacketRead_of_none (h : readdata s.stream getRsPktBaseSize r.base = none) :
  s.startPacketRead r =
    ({ s with mPktRpending := some (s.block.store 0 (List.replicate getRsPktBaseSize 0)) },
      [], none)
  := by
  simp only [startPacketRead, h]

/-- The streamer that has read `bytes` as a base packet, with `rest` behind it. -/
def Streamer.started (s : Streamer) (bytes rest : List UInt8) : Streamer :=
  { s with
    mPktRpending := some
      ((s.block.store 0 (List.replicate getRsPktBaseSize 0)).store 0 bytes)
    stream := rest
    mReadingState := .packetStarted
    mFailedReadAttempts := 0 }

theorem Streamer.startPacketRead_of_read
    (h : readdata s.stream getRsPktBaseSize r.base = some (bytes, rest)) :
  s.startPacketRead r =
    (((s.started bytes rest).continuePacket r.extra).1,
      .readBase bytes :: ((s.started bytes rest).continuePacket r.extra).2.1,
      ((s.started bytes rest).continuePacket r.extra).2.2.map ((getRsPktBaseSize : Int) + ·))
  := by
  -- what becomes of the packet then is not to be evaluated
  obtain ⟨next, hnext⟩ : ∃ next, continuePacket = next := ⟨_, rfl⟩
  rw [startPacketRead, started, hnext, h]

theorem Streamer.continuePacket_of_neg (extra : Bool) (hsize : s.mPktRpendSize = getRsPktMaxSize)
    (hneg : extralen s.block < 0) :
  s.continuePacket extra = (s.giveUp, [.deserialise s.block (pktlen s.block) getRsPktMaxSize],
    some 0)
  := by
  rw [continuePacket, if_neg (by simp only [hsize, getRsPktMaxSize, getRsPktBaseSize]; omega),
    if_neg (by omega), handOver, hsize]

/-! ### Induction on the calls of the reader -/

theorem Streamer.readLoop_nil (maxin readbytes : Int) (r : Round) (s : Streamer) :
  readLoop maxin readbytes r [] s = ((s.readPacket r).1, (s.readPacket r).2.1)
  := by
  rw [readLoop]
  rcases s.readPacket r with ⟨s', events, _ | n⟩ <;> rfl

/-- What reading one packet preserves, together with the events so far, the loop of
`handleincoming_locked` preserves. -/
theorem Streamer.readLoop_of_readPacket
    (hpacket : ∀ s r t, P s t → P (s.readPacket r).1 (t ++ (s.readPacket r).2.1)) (maxin : Int) :
  ∀ (rs : List Round) (readbytes : Int) (r : Round) (s : Streamer) (t : List Event), P s t →
    P (readLoop maxin readbytes r rs s).1 (t ++ (readLoop maxin readbytes r rs s).2)
  | [], readbytes, r, s, t, h => by
      rw [readLoop_nil]
      apply hpacket s r t h
  | r' :: rs, readbytes, r, s, t, h => by
      have h' := hpacket s r t h
      rw [readLoop]
      rcases hp : s.readPacket r with ⟨s', events, _ | n⟩
      · simpa [hp] using h'
      · rw [hp] at h'
        dsimp only at h' ⊢
        split
        · have := readLoop_of_readPacket hpacket maxin rs (readbytes + n) r' s' _ h'
          simpa using this
        · exact h'

theorem Streamer.isSome_readPacket (h : s.mPktRpending.isSome) :
  (s.readPacket r).1.mPktRpending.isSome
  := by
  have hcontinue {s : Streamer} (h : s.mPktRpending.isSome) (extra : Bool) :
      (s.continuePacket extra).1.mPktRpending.isSome := by
    rw [continuePacket]
    repeat' split
    all_goals first | exact h | rfl
  obtain ⟨next, hnext⟩ : ∃ next, continuePacket = next := ⟨_, rfl⟩
  rw [hnext] at hcontinue
  rw [readPacket]
  split
  · cases hread : readdata s.stream getRsPktBaseSize r.base with
    | none =>
      rw [startPacketRead_of_none r hread]
      rfl
    | some read =>
      rw [startPacketRead_of_read r hread, hnext]
      exact hcontinue rfl r.extra
  · rw [hnext]
    exact hcontinue h r.extra

/-- What reading one packet into a block preserves, a call of `handleincoming_locked` on an
active connection preserves. -/
theorem Streamer.handleincoming_of_readPacket
    (hpacket : ∀ s r t, s.mPktRpending.isSome → P s t → P (s.readPacket r).1 (t ++ (s.readPacket
      r).2.1)) {t : List Event} (h : P s.allocateRpendLocked t) (maxin : Int) (r : Round)
    (rs : List Round) :
  P (s.handleincomingLocked true maxin r rs).1
    (t ++ (s.handleincomingLocked true maxin r rs).2)
  := by
  have hsome : s.allocateRpendLocked.mPktRpending.isSome := by
    simp only [allocateRpendLocked]
    split
    · simp_all
    · rfl
  have hloop := readLoop_of_readPacket (P := fun s t => s.mPktRpending.isSome ∧ P s t)
    (fun s r t h => ⟨isSome_readPacket r h.1, hpacket s r t h.1 h.2⟩) maxin rs 0 r _ t
    ⟨hsome, h⟩
  apply hloop.2

/-- The rule for runs of the reader: an invariant of the state and the events so far has to
be kept by reading a packet, by allocating and freeing the block, by the reset of an
inactive connection and by a new connection. -/
theorem reader_run
    (hpacket : ∀ s r t, s.mPktRpending.isSome → P s t → P (s.readPacket r).1 (t ++ (s.readPacket
      r).2.1)) (hallocate : ∀ s t, P s t → P s.allocateRpendLocked t)
    (hfree : ∀ s t, P s t → P s.freeRpendLocked t)
    (hreset : ∀ (s : Streamer) t, P s t → P { s with mReadingState := .initial } t)
    (hconnect : ∀ (s : Streamer) t stream, P s t → P { s with stream := stream } t) (hs : P s [])
    (is : List Input) :
  P (reader.run s is) (reader.trace s is)
  := by
  have hin : ∀ (s : Streamer) (t : List Event) (active : Bool) (maxin : Int) (r : Round)
      (rs : List Round), P s t → P (s.handleincomingLocked active maxin r rs).1
        (t ++ (s.handleincomingLocked active maxin r rs).2) := by
    intro s t active maxin r rs h
    cases active with
    | true =>
      apply Streamer.handleincoming_of_readPacket hpacket
      apply hallocate s t h
    | false => simpa [Streamer.handleincomingLocked] using hfree _ t (hreset s t h)
  apply Machine.run_trace_of_next _ hs
  intro s i t h
  cases i with
  | tickRecv k =>
    have hread : P
        (if k.moretoread then s.handleincomingLocked k.active k.maxin k.round k.more
          else (s, [])).1
        (t ++ (if k.moretoread then
          s.handleincomingLocked k.active k.maxin k.round k.more else (s, [])).2) := by
      split
      · apply hin s t _ _ _ _ h
      · simpa using h
    simp only [reader, Machine.next, Machine.emit, Streamer.tickRecv]
    split
    · exact hread
    · apply hfree _ _ hread
  | reconnect stream => simpa [reader, Machine.next, Machine.emit] using hconnect s t stream h

end Pqi
