import RetroShare.Ft.Checksum
import RetroShare.Ft.Parts

/-!
# The chunks that are being checked

The responsibility for a chunk that is being checked moves from the queue of the chunk map to
`_to_ask`, and from there to `_received`.  `dispatchReceivedChunkCheckSum` takes a chunk off
`_received` also when `verifyChunk` returns `false` since the file cannot be opened; then the
chunk is in none of the queues, unless it is there for another reason.
-/

namespace Ft

/-! ### The operations of the chunk map -/

/-- Chunks that are to be checked after an operation were so before, or are in the queue, which
only grows. -/
structure ChunkMap.KeepsChecking {PeerId : Type} [LinearOrder PeerId]
    (m m' : ChunkMap PeerId) : Prop where
  fileSize : m'.fileSize = m.fileSize
  checking : ∀ c, m'.state c = .checking → m.state c = .checking ∨ c ∈ m'.chunksCheckingQueue
  queue : ∀ c ∈ m.chunksCheckingQueue, c ∈ m'.chunksCheckingQueue

namespace ChunkMap

variable {PeerId : Type} [LinearOrder PeerId] {m m' m₁ m₂ m₃ : ChunkMap PeerId}

theorem KeepsChecking.refl (m : ChunkMap PeerId) :
  m.KeepsChecking m
  := ⟨rfl, fun _ h => .inl h, fun _ h => h⟩

theorem KeepsChecking.trans (h₁ : m₁.KeepsChecking m₂) (h₂ : m₂.KeepsChecking m₃) :
  m₁.KeepsChecking m₃
  where
  fileSize := h₂.fileSize.trans h₁.fileSize
  checking c hc := by
    rcases h₂.checking c hc with hc | hc
    · exact (h₁.checking c hc).imp_right (h₂.queue c)
    · exact .inr hc
  queue c hc := h₂.queue c (h₁.queue c hc)

/-- An operation that changes neither the states of the chunks nor the queue. -/
theorem KeepsChecking.of_map (hsize : m'.fileSize = m.fileSize) (hmap : m'.map = m.map)
    (hqueue : m'.chunksCheckingQueue = m.chunksCheckingQueue) :
  m.KeepsChecking m'
  where
  fileSize := hsize
  checking c hc := .inl (by rwa [state, hmap] at hc)
  queue c hc := by rwa [hqueue]

/-- An operation that gives one chunk a state other than that of being checked. -/
theorem KeepsChecking.of_set {c : Nat} {s : ChunkState} (hs : s ≠ .checking)
    (hsize : m'.fileSize = m.fileSize) (hmap : m'.map = m.map.set c s)
    (hqueue : m'.chunksCheckingQueue = m.chunksCheckingQueue) :
  m.KeepsChecking m'
  where
  fileSize := hsize
  checking c' hc' := by
    rw [state, hmap, getD_set] at hc'
    split at hc'
    · exact absurd hc' hs
    · exact .inl hc'
  queue c' hc' := by rwa [hqueue]

theorem KeepsChecking.allocate (m : ChunkMap PeerId) (peerId : PeerId) (c : Nat) :
  m.KeepsChecking (m.allocate peerId c)
  := KeepsChecking.of_set (c := c) (s := .active) (by decide) rfl rfl rfl

theorem KeepsChecking.takeSlice (m : ChunkMap PeerId) (now : Int) (sizeHint : Nat)
    (peerId owner : PeerId) (feed : Chunk) :
  m.KeepsChecking (m.takeSlice now sizeHint peerId owner feed).1
  := KeepsChecking.of_map rfl rfl rfl

theorem KeepsChecking.getDataChunk (m : ChunkMap PeerId) (fits : Nat → Nat → Bool) (now : Int)
    (rand : Nat) (peerId : PeerId) (sizeHint : Nat) (needed : Bool) :
  m.KeepsChecking (m.getDataChunk fits now rand peerId sizeHint needed).chunkMap
  := by
  cases hfeed : m.activeChunksFeed.get? peerId with
  | some feed =>
    simp only [ChunkMap.getDataChunk, hfeed]
    apply KeepsChecking.takeSlice
  | none =>
    obtain ⟨sources, hsources⟩ := m.getSourceChunksInfo_fst peerId
    simp only [ChunkMap.getDataChunk, hfeed, hsources]
    generalize shareFeed fits sizeHint _ _ _ _ = share
    obtain ⟨slices, shared, falsafe⟩ := share
    dsimp only
    cases shared with
    | some e =>
      obtain ⟨owner, feed⟩ := e
      exact KeepsChecking.of_map rfl rfl rfl
    | none =>
      obtain ⟨⟨sources', hsources'⟩, -⟩ := getAvailableChunk_spec
        { m with peersChunksAvailability := sources, slicesToDownload := slices }
        now rand peerId
      dsimp only
      generalize ChunkMap.getAvailableChunk _ now rand peerId = available at hsources' ⊢
      obtain ⟨m', c, needed'⟩ := available
      dsimp only at hsources' ⊢
      have hkeeps : m.KeepsChecking m' := by
        subst hsources'
        exact KeepsChecking.of_map rfl rfl rfl
      split
      case isTrue =>
        cases falsafe with
        | none => exact hkeeps
        | some e =>
          obtain ⟨owner, feed⟩ := e
          exact hkeeps.trans (KeepsChecking.takeSlice m' now sizeHint peerId owner feed)
      case isFalse =>
        apply hkeeps.trans
        exact (KeepsChecking.allocate m' peerId c).trans
          (KeepsChecking.takeSlice _ now sizeHint peerId peerId _)

theorem KeepsChecking.retireChunk (m : ChunkMap PeerId) (n : Nat) :
  m.KeepsChecking (m.retireChunk n)
  := by
  rw [ChunkMap.retireChunk]
  split
  case isTrue =>
    constructor
    case fileSize => rfl
    case checking =>
      intro c hc
      rw [state, getD_set] at hc
      split at hc
      case isTrue heq => exact .inr (List.mem_append_right _ (by simp [heq.1]))
      case isFalse => exact .inl hc
    case queue => exact fun c hc => List.mem_append_left _ hc
  case isFalse => exact KeepsChecking.of_set (c := n) (s := .done) (by decide) rfl rfl rfl

theorem KeepsChecking.dataReceived (m : ChunkMap PeerId) (now : Int) (cid : Nat) :
  m.KeepsChecking (m.dataReceived now cid).1
  := by
  rw [ChunkMap.dataReceived]
  cases m.slicesToDownload.get? (cid / chunkSize % 2 ^ 32) with
  | none => exact KeepsChecking.refl m
  | some info =>
    dsimp only
    cases info.slices.get? cid with
    | none => exact KeepsChecking.refl m
    | some size =>
      have hreceive : m.KeepsChecking
          (m.receiveSlice now (cid / chunkSize % 2 ^ 32) info cid size) :=
        KeepsChecking.of_map rfl rfl rfl
      dsimp only
      split
      · apply hreceive.trans
        apply (KeepsChecking.retireChunk _ _).trans
        exact KeepsChecking.of_map rfl rfl rfl
      · exact hreceive

theorem KeepsChecking.forceCheck (m : ChunkMap PeerId) :
  m.KeepsChecking m.forceCheck
  where
  fileSize := rfl
  checking c hc := by
    by_cases hlt : c < m.map.length
    · exact .inr (List.mem_append_right _ (List.mem_range.mpr hlt))
    · rw [state, ChunkMap.forceCheck, updateTotalDownloaded, List.getD_eq_default _ _
        (by rw [List.length_map]; exact not_lt.mp hlt)] at hc
      cases hc
  queue c hc := List.mem_append_left _ hc

theorem KeepsChecking.removeInactiveChunks (m : ChunkMap PeerId) (now : Int) :
  m.KeepsChecking (m.removeInactiveChunks now).1
  := by
  apply removeInactiveChunks_induction (P := fun m' _ => m.KeepsChecking m')
    (KeepsChecking.refl m)
  intro m' ids c info h _ _
  apply h.trans
  exact KeepsChecking.of_set (c := c) (s := .outstanding) (by decide) rfl rfl rfl

theorem KeepsChecking.setPeerAvailabilityMap (m : ChunkMap PeerId) (now : Int) (peerId : PeerId)
    (cmap : CompressedChunkMap) :
  m.KeepsChecking (m.setPeerAvailabilityMap now peerId cmap)
  := by
  simp only [ChunkMap.setPeerAvailabilityMap]
  generalize (if m.map.length % 32 = 0 then 0 else 1) = extra
  split
  · exact KeepsChecking.refl m
  · exact KeepsChecking.of_map rfl rfl rfl

/-- Every chunk of the queue is asked for. -/
theorem mem_drain {c : Nat} :
  ∀ {queue : List Nat}, c ∈ drain queue ↔ c ∈ queue
  | [] => by rw [drain]
  | c' :: queue => by
      rw [drain, List.mem_cons, List.mem_cons, mem_drain]
      cases hlast : queue.getLast? with
      | none =>
        rw [List.getLast?_eq_none_iff] at hlast
        subst hlast
        simp
      | some last =>
        obtain ⟨init, rfl⟩ := List.getLast?_eq_some_iff.mp hlast
        simp [or_comm]
termination_by queue => queue.length
decreasing_by
  cases queue with
  | nil => simp
  | cons c queue => simp [List.getLast?_cons]

end ChunkMap

/-! ### The operations of the file creator -/

namespace FileCreator

variable {PeerId : Type} [LinearOrder PeerId] (s : FileCreator PeerId) (now : Int) {file : File}

theorem keepsChecking_receivePart (chunk : FtChunk PeerId) (size : Nat) :
  s.chunkMap.KeepsChecking (s.receivePart now chunk size).1.chunkMap
  := by
  rw [receivePart]
  dsimp only
  split
  · apply ChunkMap.KeepsChecking.refl
  · split
    · apply ChunkMap.KeepsChecking.dataReceived
    · apply ChunkMap.KeepsChecking.refl

theorem keepsChecking_notifyReceived (offset size : Nat) :
  s.chunkMap.KeepsChecking (s.notifyReceived now offset size).1.chunkMap
  := by
  rw [notifyReceived]
  cases s.mChunks.get? offset with
  | some chunk => apply keepsChecking_receivePart { s with mChunks := s.mChunks.erase offset }
  | none =>
    dsimp only
    cases s.findEnclosing offset size with
    | none => apply ChunkMap.KeepsChecking.refl
    | some chunk =>
      let part1 := { chunk with size := sub64 offset chunk.offset }
      apply keepsChecking_receivePart
        { s with
          mChunks := s.mChunks.insert part1.offset part1
          refCnt := s.refCnt.insert chunk.refCnt (s.count chunk.refCnt + 1) }

theorem keepsChecking_addFileData (hsize : s.chunkMap.fileSize = file.size) (now : Int)
    (io : WriteOutcome) (offset : UInt64) (chunkSize : UInt32) :
  s.chunkMap.KeepsChecking (s.addFileData now io offset chunkSize).1.chunkMap
  := by
  obtain ⟨fd, ns, heq⟩ | ⟨size, fd, -, -, -, heq⟩ :=
    addFileData_cases hsize now io offset chunkSize
  · rw [heq]
    apply ChunkMap.KeepsChecking.refl
  · rw [heq]
    apply keepsChecking_notifyReceived { s with fd := true }

theorem keepsChecking_getMissingChunk (fits : Nat → Nat → Bool) (now : Int) (rand : Nat)
    (peerId : PeerId) (sizeHint : Nat) :
  s.chunkMap.KeepsChecking (s.getMissingChunk fits now rand peerId sizeHint).creator.chunkMap
  := by
  obtain ⟨⟨sources, hsources⟩, -⟩ := findFaulting_spec now peerId s.mChunks.toList s.chunkMap
  rw [getMissingChunk]
  generalize findFaulting now peerId s.mChunks.toList s.chunkMap = r at hsources ⊢
  obtain ⟨m, e⟩ := r
  dsimp only at hsources ⊢
  have hkeeps : s.chunkMap.KeepsChecking m := by
    rw [hsources]
    exact ChunkMap.KeepsChecking.of_map rfl rfl rfl
  cases e with
  | some e => exact hkeeps
  | none =>
    apply hkeeps.trans
    dsimp only
    rw [handSlice]
    dsimp only
    split
    · apply ChunkMap.KeepsChecking.refl
    · have hget := ChunkMap.KeepsChecking.getDataChunk m fits now rand peerId sizeHint false
      generalize m.getDataChunk fits now rand peerId sizeHint false = r at hget ⊢
      obtain ⟨m', chunk, needed, events⟩ := r
      cases chunk with
      | none => exact hget
      | some chunk => exact hget

theorem keepsChecking_removeInactiveChunks :
  s.chunkMap.KeepsChecking (s.removeInactiveChunks now).1.chunkMap
  := by
  obtain ⟨hpurged, -⟩ := foldl_removeSlice (s.chunkMap.removeInactiveChunks now).2
    { s with chunkMap := (s.chunkMap.removeInactiveChunks now).1 }
  rw [removeInactiveChunks, hpurged.chunkMap]
  apply ChunkMap.KeepsChecking.removeInactiveChunks

/-- A call that neither empties the queue nor verifies a chunk, as `ftDataMultiplex` does. -/
def Call.Direct : Call PeerId → Prop
  | .getChunksToCheck => False
  | .verifyChunk _ _ => False
  | _ => True

theorem keepsChecking_next (hsize : s.chunkMap.fileSize = file.size) (fits : Nat → Nat → Bool)
    {call : Call PeerId} (hcall : call.Direct) :
  s.chunkMap.KeepsChecking ((machine fits).next s call).chunkMap
  := by
  cases call with
  | getMissingChunk now rand peerId sizeHint =>
    apply keepsChecking_getMissingChunk
  | addFileData now io offset chunkSize =>
    apply s.keepsChecking_addFileData hsize
  | removeInactiveChunks now =>
    apply keepsChecking_removeInactiveChunks
  | setSourceMap now peerId cmap =>
    apply ChunkMap.KeepsChecking.setPeerAvailabilityMap
  | removeFileSource peerId => exact ChunkMap.KeepsChecking.of_map rfl rfl rfl
  | forceCheck => apply ChunkMap.KeepsChecking.forceCheck
  | getChunksToCheck => exact hcall.elim
  | verifyChunk c io => exact hcall.elim

end FileCreator

/-! ### The multiplexer as a machine -/

namespace DataMultiplex

variable {PeerId CRC : Type} [LinearOrder PeerId] (s : DataMultiplex PeerId CRC)

/-- A multiplexer with a file creator that has just been registered. -/
def new (size : Nat) (availability : Bool) (lastRecvTime : Int) : DataMultiplex PeerId CRC :=
  ⟨some (FileCreator.new size availability lastRecvTime), newEntry⟩

/-- A call of the multiplexer, or of its file creator. -/
inductive Call (PeerId CRC : Type) [LinearOrder PeerId] where
  | creator (call : FileCreator.Call PeerId) (direct : call.Direct)
  | queryInactive
  | recvSingleChunkCRC (chunkNumber : UInt32) (crc : CRC)
  | dispatchReceivedChunkCheckSum (io : Nat → ChunkOutcome CRC)

/-- The multiplexer as a machine that is called. -/
def machine [Inhabited CRC] [DecidableEq CRC] (fits : Nat → Nat → Bool) :
    Machine (DataMultiplex PeerId CRC) (Call PeerId CRC) (FileEvent PeerId) where
  step s
    | .creator call _ =>
        match s.client with
        | none => (s, [])
        | some creator =>
            let r := (FileCreator.machine fits).step creator call
            ({ s with client := some r.1 }, r.2)
    | .queryInactive => (s.queryInactive, [])
    | .recvSingleChunkCRC chunkNumber crc => ((s.recvSingleChunkCRC chunkNumber crc).1, [])
    | .dispatchReceivedChunkCheckSum io => (s.dispatchReceivedChunkCheckSum io, [])

/-- The chunk `c` is in the queue of the chunk map, or it is asked for, or its checksum has been
received. -/
def Waits (creator : FileCreator PeerId) (c : Nat) : Prop :=
  c ∈ creator.chunkMap.chunksCheckingQueue ∨ c ∈ s.sha1cache.toAsk ∨
    c ∈ s.sha1cache.received ∧ s.sha1cache.map.isSet c = true

instance (s : DataMultiplex PeerId CRC) (creator : FileCreator PeerId) (c : Nat) :
    Decidable (s.Waits creator c) :=
  inferInstanceAs (Decidable (_ ∨ _ ∨ _ ∧ _))

/-- Every chunk that is to be checked waits. -/
def AllWait : Prop :=
  ∀ creator, s.client = some creator → ∀ c, creator.chunkMap.state c = .checking →
    s.Waits creator c

/-- When the chunk `c` is taken off `_received` as the `n`-th one, the file is open, or has been
opened for this chunk or one before it, or there is another reason why the chunk waits. -/
def Dispatched (creator : FileCreator PeerId) (io : Nat → ChunkOutcome CRC) (n c : Nat) : Prop :=
  creator.fd = true ∨
  (∃ k ≤ n, (io k).opens = true ∧
    ∃ c', s.sha1cache.received[k]? = some c' ∧ s.sha1cache.map.isSet c' = true) ∨
  c ∈ creator.chunkMap.chunksCheckingQueue ∨ c ∈ s.sha1cache.toAsk ∨
  c ∈ s.sha1cache.received.drop (n + 1)

/-- A checksum that is received is one of a chunk of the file, and a chunk that is to be checked
is taken off `_received` only when it can be verified or waits all the same. -/
def Call.Verifies : Call PeerId CRC → Prop
  | .recvSingleChunkCRC chunkNumber _ => ∀ creator, s.client = some creator →
      chunkNumber.toNat < CRCMap.chunks creator.chunkMap.fileSize
  | .dispatchReceivedChunkCheckSum io => ∀ creator, s.client = some creator →
      ∀ n < maxChecksumCheckPerFile, ∀ c, s.sha1cache.received[n]? = some c →
        s.sha1cache.map.isSet c = true → creator.chunkMap.state c = .checking →
        s.Dispatched creator io n c
  | _ => True

end DataMultiplex

namespace CRCMap

variable {CRC : Type} {map : CRCMap CRC} {file : File}

theorem chunks_size (file : File) :
  chunks file.size = file.chunks
  := rfl

/-- The map of a file that is not empty is not made again. -/
theorem Sized.size_ne_zero (h : map.Sized file.size) :
  map.size ≠ 0
  := by
  have hpos : 0 < file.chunks := (file.lt_chunks_iff).mpr (by rw [Nat.zero_mul]; exact file.pos)
  have hle := file.chunks_le
  rw [size, h.crcs, chunks_size, Nat.mod_eq_of_lt (by omega)]
  exact hpos.ne'

theorem isSet_empty (i : Nat) :
  (empty : CRCMap CRC).isSet i = false
  := by
  rw [← Bool.not_eq_true, isSet, CompressedChunkMap.get_iff]
  simp [empty]

/-- The bit of a chunk of the file exists. -/
theorem Sized.div_lt (h : map.Sized file.size) {i : Nat} (hi : i < chunks file.size) :
  i / 32 < map.ccmap.map.length
  := by
  rw [chunks_size] at hi
  have hle := file.chunks_le
  rw [h.ccmap, chunks_size, CompressedChunkMap.getCompressedSize, Nat.mod_eq_of_lt (by omega)]
  split <;> omega

end CRCMap

namespace DataMultiplex

variable {PeerId CRC : Type} [LinearOrder PeerId] {file : File} {s : DataMultiplex PeerId CRC}
  {creator creator' : FileCreator PeerId}

/-- What holds of the multiplexer of a file in the runs of the machine. -/
structure Checks (file : File) (s : DataMultiplex PeerId CRC) : Prop where
  fileSize : ∀ creator, s.client = some creator → creator.chunkMap.fileSize = file.size
  map : s.sha1cache.map = CRCMap.empty ∨ s.sha1cache.map.Sized file.size
  wait : s.AllWait

/-- A multiplexer without a file creator. -/
theorem checks_of_client_none (hclient : s.client = none)
    (hmap : s.sha1cache.map = CRCMap.empty ∨ s.sha1cache.map.Sized file.size) :
  s.Checks file
  where
  fileSize creator hsome := by
    rw [hclient] at hsome
    cases hsome
  map := hmap
  wait creator hsome := by
    rw [hclient] at hsome
    cases hsome

/-- An operation of the file creator keeps what waits. -/
theorem Checks.withClient (h : s.Checks file) (hclient : s.client = some creator)
    (hkeeps : creator.chunkMap.KeepsChecking creator'.chunkMap) :
  Checks file { s with client := some creator' }
  where
  fileSize := by
    rintro _ ⟨⟩
    exact hkeeps.fileSize.trans (h.fileSize creator hclient)
  map := h.map
  wait := by
    rintro _ ⟨⟩ c hc
    rcases hkeeps.checking c hc with hc | hc
    · exact (h.wait creator hclient c hc).imp_left (hkeeps.queue c)
    · exact .inl hc

/-- A chunk is taken off `_received`, and the file creator may verify it. -/
theorem Checks.take (h : s.Checks file) (hclient : s.client = some creator) {c : Nat}
    {received : List Nat} (hreceived : s.sha1cache.received = c :: received)
    (hkeeps : creator.chunkMap.KeepsChecking creator'.chunkMap)
    (hwait : s.sha1cache.map.isSet c = true → creator'.chunkMap.state c = .checking → c ∈
      creator'.chunkMap.chunksCheckingQueue ∨ c ∈ s.sha1cache.toAsk ∨ c ∈ received) :
  Checks file ⟨some creator', { s.sha1cache with received := received }⟩
  where
  fileSize := (h.withClient hclient hkeeps).fileSize
  map := h.map
  wait := by
    rintro _ ⟨⟩ c' hc'
    rcases (h.withClient hclient hkeeps).wait creator' rfl c' hc' with
      hwaits | hwaits | ⟨hwaits, hset⟩
    · exact .inl hwaits
    · exact .inr (.inl hwaits)
    · dsimp only at hwaits
      rw [hreceived, List.mem_cons] at hwaits
      rcases hwaits with rfl | hwaits
      · exact (hwait hset hc').imp_right (Or.imp_right fun hmem => ⟨hmem, hset⟩)
      · exact .inr (.inr ⟨hwaits, hset⟩)

/-- The chunks of the queue are asked for. -/
theorem Checks.queryInactive (h : s.Checks file) :
  s.queryInactive.Checks file
  := by
  rw [DataMultiplex.queryInactive]
  cases hclient : s.client with
  | none => exact h
  | some creator =>
    constructor
    case fileSize =>
      rintro _ ⟨⟩
      exact h.fileSize creator hclient
    case map => exact h.map
    case wait =>
      rintro _ ⟨⟩ c hc
      right
      rcases h.wait creator hclient c hc with hwaits | hwaits | hwaits
      · left
        apply Finset.mem_union_right
        rw [List.mem_toFinset]
        exact ChunkMap.mem_drain.mpr hwaits
      · exact .inl (Finset.mem_union_left _ hwaits)
      · exact .inr hwaits

variable [Inhabited CRC]

theorem Checks.mapFor (h : s.Checks file) :
  (s.mapFor file.size).Sized file.size ∧
    ∀ c, s.sha1cache.map.isSet c = true → (s.mapFor file.size).isSet c = true
  := by
  rw [DataMultiplex.mapFor]
  rcases h.map with hmap | hmap
  · rw [hmap, if_pos (show (CRCMap.empty : CRCMap CRC).size = 0 from rfl)]
    refine ⟨CRCMap.sized_ofFile _, ?_⟩
    intro c hc
    rw [CRCMap.isSet_empty] at hc
    cases hc
  · rw [if_neg hmap.size_ne_zero]
    exact ⟨hmap, fun _ hc => hc⟩

/-- A chunk whose checksum is received is not asked for any more, but is in `_received`. -/
theorem Checks.recvSingleChunkCRC (h : s.Checks file) (hclient : s.client = some creator)
    {chunkNumber : UInt32} (hlt : chunkNumber.toNat < CRCMap.chunks creator.chunkMap.fileSize)
    (crc : CRC) :
  (s.recvSingleChunkCRC chunkNumber crc).1.Checks file
  := by
  obtain ⟨hsized, hset⟩ := h.mapFor
  have hsize := h.fileSize creator hclient
  rw [hsize] at hlt
  simp only [DataMultiplex.recvSingleChunkCRC, hclient, hsize]
  constructor
  case fileSize =>
    rintro _ ⟨⟩
    exact hsize
  case map => exact .inr (hsized.set _ crc)
  case wait =>
    rintro _ ⟨⟩ c hc
    rcases h.wait creator hclient c hc with hwaits | hwaits | ⟨hwaits, hisSet⟩
    · exact .inl hwaits
    · by_cases heq : c = chunkNumber.toNat
      · subst heq
        refine .inr (.inr ⟨List.mem_cons_self, ?_⟩)
        apply CompressedChunkMap.get_set_self (hsized.div_lt hlt)
      · exact .inr (.inl (Finset.mem_erase.mpr ⟨heq, hwaits⟩))
    · refine .inr (.inr ⟨List.mem_cons_of_mem _ hwaits, ?_⟩)
      apply CompressedChunkMap.get_set_of_get (hset c hisSet)

/-! ### Taking chunks off `_received` -/

variable [DecidableEq CRC] {s₀ : DataMultiplex PeerId CRC} {creator₀ : FileCreator PeerId}
  {io : Nat → ChunkOutcome CRC} {n : Nat} (m : ChunkMap PeerId)

/-- The chunk `c` of `_received` is not to be checked once it has been verified. -/
theorem not_checking_setChunkCheckingResult (c : Nat) (r : Bool) :
  (m.setChunkCheckingResult c r).state c ≠ .checking
  := by
  simp only [ChunkMap.setChunkCheckingResult]
  split
  case isTrue hne => exact hne
  case isFalse heq =>
    rw [not_not] at heq
    have hlt : c < m.map.length := by
      by_contra hle
      rw [ChunkMap.state, List.getD_eq_default _ _ (not_lt.mp hle)] at heq
      cases heq
    cases r <;> simp [ChunkMap.state, hlt]

theorem keepsChecking_setChunkCheckingResult (c : Nat) (r : Bool) :
  m.KeepsChecking (m.setChunkCheckingResult c r)
  := by
  simp only [ChunkMap.setChunkCheckingResult]
  split
  case isTrue => exact ChunkMap.KeepsChecking.refl m
  case isFalse =>
    cases r with
    | true => exact ChunkMap.KeepsChecking.of_set (c := c) (s := .done) (by decide) rfl rfl rfl
    | false =>
      exact ChunkMap.KeepsChecking.of_set (c := c) (s := .outstanding) (by decide) rfl rfl rfl

/-- The dispatch that starts in the state `s₀`, after `n` chunks: the file is open, or nothing
could open it. -/
structure Dispatching (file : File) (s₀ : DataMultiplex PeerId CRC)
    (creator₀ : FileCreator PeerId) (io : Nat → ChunkOutcome CRC) (n : Nat)
    (s : DataMultiplex PeerId CRC) : Prop where
  checks : s.Checks file
  received : s.sha1cache.received = s₀.sha1cache.received.drop n
  toAsk : s.sha1cache.toAsk = s₀.sha1cache.toAsk
  map : s.sha1cache.map = s₀.sha1cache.map
  client : ∃ creator, s.client = some creator ∧
    (creator = creator₀ ∧ creator₀.fd = false ∧
      (∀ k < n, ∀ c, s₀.sha1cache.received[k]? = some c → s₀.sha1cache.map.isSet c = true →
        (io k).opens = false) ∨
    creator.fd = true)

/-- One more chunk is taken off. -/
theorem Dispatching.next (h : Dispatching file s₀ creator₀ io n s)
    (hdispatched : ∀ c, s₀.sha1cache.received[n]? = some c → s₀.sha1cache.map.isSet c = true →
      creator₀.chunkMap.state c = .checking → s₀.Dispatched creator₀ io n c) :
  Dispatching file s₀ creator₀ io (n + 1) (s.dispatchChunk (io n))
  := by
  obtain ⟨creator, hclient, hfile⟩ := h.client
  have hdrop := h.received
  cases hreceived : s.sha1cache.received with
  | nil =>
    rw [hreceived] at hdrop
    have hnone : s₀.sha1cache.received.length ≤ n := List.drop_eq_nil_iff.mp hdrop.symm
    simp only [dispatchChunk, hclient, hreceived]
    constructor
    case checks => exact h.checks
    case received => rw [hreceived, List.drop_eq_nil_iff.mpr (by omega)]
    case toAsk => exact h.toAsk
    case map => exact h.map
    case client =>
      refine ⟨creator, hclient, hfile.imp_left ?_⟩
      rintro ⟨heq, hfd, hclosed⟩
      refine ⟨heq, hfd, ?_⟩
      intro k hk c hc
      apply hclosed k _ c hc
      have := (List.getElem?_eq_some_iff.mp hc).1
      omega
  | cons c received =>
    rw [hreceived] at hdrop
    have hc : s₀.sha1cache.received[n]? = some c := by
      rw [← Nat.add_zero n, ← List.getElem?_drop, ← hdrop, List.getElem?_cons_zero]
    have hrest : received = s₀.sha1cache.received.drop (n + 1) := by
      rw [← List.drop_drop, ← hdrop, List.drop_one, List.tail_cons]
    -- nothing has been opened for the chunks before, nor for this one
    have hclosed : ∀ {k c'}, k ≤ n →
        (∀ k < n, ∀ c, s₀.sha1cache.received[k]? = some c → s₀.sha1cache.map.isSet c = true →
          (io k).opens = false) →
        (s₀.sha1cache.map.isSet c = true → (io n).opens = false) →
        s₀.sha1cache.received[k]? = some c' → s₀.sha1cache.map.isSet c' = true →
        (io k).opens = false := by
      intro k c' hk hbefore hnow hc' hset
      rcases hk.lt_or_eq with hk | rfl
      · exact hbefore k hk c' hc' hset
      · rw [hc] at hc'
        obtain rfl := Option.some.inj hc'
        exact hnow hset
    by_cases hset : s.sha1cache.map.isSet c = true
    · simp only [dispatchChunk, hclient, hreceived, hset, if_true, FileCreator.verifyChunk]
      have hset₀ : s₀.sha1cache.map.isSet c = true := by rwa [← h.map]
      split
      case isTrue hcannot =>
        rw [Bool.and_eq_true, Bool.not_eq_true', Bool.not_eq_true'] at hcannot
        obtain ⟨hfd, hopens⟩ := hcannot
        obtain ⟨rfl, -, hbefore⟩ | hopen := hfile
        case inr => exact absurd (hfd.symm.trans hopen) Bool.false_ne_true
        constructor
        case checks =>
          apply h.checks.take hclient hreceived (ChunkMap.KeepsChecking.refl _)
          intro _ hchecking
          rcases hdispatched c hc hset₀ hchecking with
            hopen | ⟨k, hk, hopen, c', hc', hset'⟩ | hwaits | hwaits | hwaits
          · exact absurd (hfd.symm.trans hopen) Bool.false_ne_true
          · have := hclosed hk hbefore (fun _ => hopens) hc' hset'
            exact absurd (this.symm.trans hopen) Bool.false_ne_true
          · exact .inl hwaits
          · exact .inr (.inl (by rwa [h.toAsk]))
          · exact .inr (.inr (by rwa [hrest]))
        case received => exact hrest
        case toAsk => exact h.toAsk
        case map => exact h.map
        case client =>
          refine ⟨creator, rfl, .inl ⟨rfl, hfd, ?_⟩⟩
          intro k hk c' hc' hset'
          exact hclosed (Nat.le_of_lt_succ hk) hbefore (fun _ => hopens) hc' hset'
      case isFalse =>
        constructor
        case checks =>
          apply h.checks.take hclient hreceived
          · apply keepsChecking_setChunkCheckingResult
          · intro _ hchecking
            exact absurd hchecking (not_checking_setChunkCheckingResult _ _ _)
        case received => exact hrest
        case toAsk => exact h.toAsk
        case map => exact h.map
        case client => exact ⟨_, rfl, .inr rfl⟩
    · simp only [dispatchChunk, hclient, hreceived, if_neg hset]
      constructor
      case checks =>
        apply h.checks.take hclient hreceived (ChunkMap.KeepsChecking.refl _)
        exact fun hset' => absurd hset' hset
      case received => exact hrest
      case toAsk => exact h.toAsk
      case map => exact h.map
      case client =>
        refine ⟨creator, rfl, hfile.imp_left ?_⟩
        rintro ⟨heq, hfd, hbefore⟩
        refine ⟨heq, hfd, ?_⟩
        intro k hk c' hc' hset'
        apply hclosed (Nat.le_of_lt_succ hk) hbefore _ hc' hset'
        exact fun hset₀ => absurd (by rwa [h.map]) hset

theorem Checks.dispatchChunks (h : s.Checks file) (hclient : s.client = some creator) :
  ∀ n, (∀ k < n, ∀ c, s.sha1cache.received[k]? = some c → s.sha1cache.map.isSet c = true →
      creator.chunkMap.state c = .checking → s.Dispatched creator io k c) →
    Dispatching file s creator io n (s.dispatchChunks io n)
  | 0, _ => by
      refine ⟨h, rfl, rfl, rfl, creator, hclient, ?_⟩
      cases hfd : creator.fd with
      | false => exact .inl ⟨rfl, rfl, fun k hk => absurd hk (Nat.not_lt_zero k)⟩
      | true => exact .inr rfl
  | n + 1, hdispatched => by
      have ih := h.dispatchChunks hclient n fun k hk =>
        hdispatched k (hk.trans (Nat.lt_succ_self n))
      exact ih.next (hdispatched n (Nat.lt_succ_self n))

theorem Checks.dispatchReceivedChunkCheckSum (h : s.Checks file)
    (hverifies : Call.Verifies s (.dispatchReceivedChunkCheckSum io)) :
  (s.dispatchReceivedChunkCheckSum io).Checks file
  := by
  rw [DataMultiplex.dispatchReceivedChunkCheckSum]
  cases hclient : s.client with
  | none => exact checks_of_client_none rfl (.inl rfl)
  | some creator =>
    exact (h.dispatchChunks hclient _ (hverifies creator hclient)).checks

/-! ### The runs of the machine -/

theorem Checks.step (h : s.Checks file) (fits : Nat → Nat → Bool) {call : Call PeerId CRC}
    (hcall : call.Verifies s) :
  ((machine fits).next s call).Checks file
  := by
  cases call with
  | creator call direct =>
    cases hclient : s.client with
    | none =>
      simp only [Machine.next, machine, hclient]
      exact h
    | some creator =>
      simp only [Machine.next, machine, hclient]
      apply h.withClient hclient
      exact creator.keepsChecking_next (h.fileSize creator hclient) fits direct
  | queryInactive => exact h.queryInactive
  | recvSingleChunkCRC chunkNumber crc =>
    cases hclient : s.client with
    | none =>
      simp only [Machine.next, machine, DataMultiplex.recvSingleChunkCRC, hclient]
      exact checks_of_client_none rfl h.map
    | some creator => exact h.recvSingleChunkCRC hclient (hcall creator hclient) crc
  | dispatchReceivedChunkCheckSum io => exact h.dispatchReceivedChunkCheckSum hcall

omit [Inhabited CRC] [DecidableEq CRC] in
theorem checks_new (file : File) (availability : Bool) (lastRecvTime : Int) :
  (new file.size availability lastRecvTime : DataMultiplex PeerId CRC).Checks file
  where
  fileSize := by
    rintro _ ⟨⟩
    rfl
  map := .inl rfl
  wait := by
    rintro _ ⟨⟩ c hc
    change (List.replicate _ ChunkState.outstanding).getD c .outstanding = .checking at hc
    rw [List.getD_eq_getElem?_getD, List.getElem?_getD_replicate_default_eq] at hc
    cases hc

/-- In a run in which every chunk that is to be checked is verified, or waits for another reason,
when it is taken off `_received`, the chunks that are to be checked wait in one of the queues. -/
theorem allWait_run (fits : Nat → Nat → Bool) (file : File) (availability : Bool)
    (lastRecvTime : Int) {calls : List (Call PeerId CRC)}
    (h : (machine fits).Along (fun s call => call.Verifies s)
      (new file.size availability lastRecvTime) calls) :
  ((machine fits).run (new file.size availability lastRecvTime) calls).AllWait
  := by
  have hchecks := Machine.run_of_step (fun s call (hs : s.Checks file) hcall => hs.step fits hcall)
    (checks_new file availability lastRecvTime) h
  exact hchecks.wait

/-- What the file system does when a chunk is verified, where `opens` tells whether the file can
be opened. -/
def chunkOutcome (opens : Bool) : ChunkOutcome Nat := ⟨opens, true, true, 0⟩

/-- The only chunk of a file is checked again. -/
def checkAgain (opens : Bool) : List (Call Nat Nat) :=
  [.creator .forceCheck trivial, .queryInactive, .recvSingleChunkCRC 0 0,
    .dispatchReceivedChunkCheckSum fun _ => chunkOutcome opens]

theorem allWait_run_checkAgain :
  ((machine fun _ _ => true).run (new FileCreator.tenByteFile.size true 0) (checkAgain true)).AllWait
  := by
  apply allWait_run
  refine ⟨trivial, trivial, ?_, ?_, trivial⟩
  · rintro _ ⟨⟩
    decide
  · rintro _ ⟨⟩ n - c hc hset -
    exact .inr (.inl ⟨0, Nat.zero_le n, rfl, 0, rfl, by decide +kernel⟩)

/-- A chunk is stuck when the file cannot be opened: it is to be checked, but waits nowhere. -/
theorem not_allWait_checkAgain :
  ¬ ((machine fun _ _ => true).run (new FileCreator.tenByteFile.size true 0) (checkAgain false)).AllWait
  := by
  intro h
  have hwaits := h _ rfl 0 (by decide +kernel)
  revert hwaits
  decide +kernel

end DataMultiplex

end Ft
