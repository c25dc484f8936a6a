import Mathlib.Data.Nat.Bitwise
import RetroShare.Ft.DataMultiplex

/-!
# Indices that peers send

The numbers of chunks, the offsets and the sizes that peers send are used as indices into the
maps of checksums and into the states of the chunks, and are not compared to the sizes of these.
A request is harmless when its numbers are those of chunks that exist, or when an earlier test
happens to stop it.
-/

namespace Ft

@[simp]
theorem Access.inRange_mk {index size : Nat} :
  Access.InRange ⟨index, size⟩ ↔ index < size
  := Iff.rfl

/-! ### Bits -/

variable {i : Nat} {w : UInt32} {PeerId : Type}

/-- The word whose only bit is `i`. -/
theorem toNat_shiftLeft_one (hi : i < 32) :
  ((1 : UInt32) <<< UInt32.ofNat i).toNat = 2 ^ i
  := by
  have hpow : 2 ^ i < 2 ^ 32 := Nat.pow_lt_pow_right (by decide) hi
  have hlt : i < 2 ^ 32 := by omega
  rw [UInt32.toNat_shiftLeft, UInt32.toNat_ofNat', Nat.mod_eq_of_lt hlt, Nat.mod_eq_of_lt hi,
    UInt32.toNat_one, Nat.shiftLeft_eq, Nat.one_mul, Nat.mod_eq_of_lt hpow]

/-- Testing the bit `i` of a word. -/
theorem uint32_and_pos (hi : i < 32) :
  0 < (w &&& (1 : UInt32) <<< UInt32.ofNat i) ↔ w.toNat.testBit i = true
  := by
  rw [UInt32.lt_iff_toNat_lt, UInt32.toNat_and, toNat_shiftLeft_one hi, Nat.and_two_pow]
  cases w.toNat.testBit i with
  | true => simp
  | false => simp

/-- Setting the bit `i` of a word. -/
theorem testBit_uint32_or {j : Nat} (hi : i < 32) :
  (w ||| (1 : UInt32) <<< UInt32.ofNat i).toNat.testBit j = (w.toNat.testBit j || decide (i = j))
  := by
  rw [UInt32.toNat_or, toNat_shiftLeft_one hi, Nat.testBit_or, Nat.testBit_two_pow]

namespace CompressedChunkMap

variable {cmap : CompressedChunkMap}

theorem get_iff (i : Nat) :
  cmap.get i = true ↔ (cmap.map.getD (i / 32) 0).toNat.testBit (i % 32) = true
  := by
  rw [get, decide_eq_true_iff]
  apply uint32_and_pos (Nat.mod_lt i (by decide))

theorem get_set_iff {j : Nat} :
  (cmap.set i).get j = true ↔ j = i ∧ i / 32 < cmap.map.length ∨ cmap.get j = true
  := by
  rw [get_iff, get_iff, set]
  simp only [List.getD_eq_getElem?_getD, List.getElem?_set]
  by_cases hword : i / 32 = j / 32
  · have hbit : i % 32 = j % 32 ↔ j = i := by omega
    rw [if_pos hword, ← hword]
    by_cases hlt : i / 32 < cmap.map.length
    · rw [if_pos hlt, Option.getD_some, testBit_uint32_or (Nat.mod_lt i (by decide)),
        Bool.or_eq_true, decide_eq_true_iff, hbit, or_comm, and_iff_left hlt]
    · rw [if_neg hlt, List.getElem?_eq_none (not_lt.mp hlt), or_iff_right fun h => hlt h.2]
  · rw [if_neg hword, or_iff_right]
    rintro ⟨rfl, -⟩
    exact hword rfl

theorem get_set_self (hi : i / 32 < cmap.map.length) :
  (cmap.set i).get i = true
  := get_set_iff.mpr (.inl ⟨rfl, hi⟩)

theorem get_set_of_get {j : Nat} (hj : cmap.get j = true) :
  (cmap.set i).get j = true
  := get_set_iff.mpr (.inr hj)

@[simp]
theorem length_set (i : Nat) :
  (cmap.set i).map.length = cmap.map.length
  := List.length_set

end CompressedChunkMap

/-- The vectors of the map have the sizes that the constructor for a file gives them. -/
structure CRCMap.Sized {CRC : Type} (map : CRCMap CRC) (fileSize : Nat) : Prop where
  crcs : map.crcs.length = CRCMap.chunks fileSize
  ccmap : map.ccmap.map.length =
    CompressedChunkMap.getCompressedSize (CRCMap.chunks fileSize % 2 ^ 32)

namespace CRCMap

variable {CRC : Type} {map : CRCMap CRC} {fileSize : Nat}

theorem sized_ofFile [Inhabited CRC] (fileSize : Nat) :
  (ofFile fileSize : CRCMap CRC).Sized fileSize
  := ⟨List.length_replicate, List.length_replicate⟩

theorem Sized.set (h : map.Sized fileSize) (i : Nat) (crc : CRC) :
  (map.set i crc).Sized fileSize
  := ⟨List.length_set.trans h.crcs, (CompressedChunkMap.length_set i).trans h.ccmap⟩

theorem Sized.length_ccmap (h : map.Sized fileSize) :
  map.ccmap.map.length = CompressedChunkMap.getCompressedSize map.size
  := by
  rw [h.ccmap, size, h.crcs]

/-- A map of checksums is empty or the map of a file. -/
def WellFormed (map : CRCMap CRC) : Prop :=
  map = empty ∨ ∃ fileSize : UInt64, map.Sized fileSize.toNat

theorem WellFormed.length_ccmap (h : map.WellFormed) :
  map.ccmap.map.length = CompressedChunkMap.getCompressedSize map.size
  := by
  rcases h with rfl | ⟨fileSize, h⟩
  · simp [empty, size, CompressedChunkMap.getCompressedSize]
  · exact h.length_ccmap

theorem WellFormed.length_crcs_le (h : map.WellFormed) :
  map.crcs.length ≤ 2 ^ 44
  := by
  rcases h with rfl | ⟨fileSize, h⟩
  · exact Nat.zero_le _
  · have hlt := fileSize.toNat_lt
    rw [h.crcs, chunks]
    generalize hrem : (if fileSize.toNat % chunkSize = 0 then 0 else 1) = extra
    have hextra : extra ≤ 1 := by
      rw [← hrem]
      split <;> decide
    simp only [chunkSize]
    omega

/-- The chunk `c` is one of the map.  From `2 ^ 32` chunks on, the bits are those of a smaller
file. -/
def Holds (map : CRCMap CRC) (c : Nat) : Prop :=
  c < map.crcs.length ∧
    (map.crcs.length < 2 ^ 32 ∨ c / 32 < CompressedChunkMap.getCompressedSize map.size)

/-- `set` accesses elements that exist for the chunks of the map. -/
theorem setAccesses_inRange {c : Nat}
    (h : map.ccmap.map.length = CompressedChunkMap.getCompressedSize map.size) :
  (∀ a ∈ map.setAccesses c, a.InRange) ↔ map.Holds c
  := by
  simp only [setAccesses, CompressedChunkMap.access, List.forall_mem_cons, Access.inRange_mk,
    List.not_mem_nil, false_imp_iff, implies_true, and_true, h]
  constructor
  · rintro ⟨hcrcs, hccmap⟩
    exact ⟨hcrcs, .inr hccmap⟩
  · rintro ⟨hcrcs, hlt | hccmap⟩
    · refine ⟨hcrcs, ?_⟩
      rw [size, Nat.mod_eq_of_lt hlt, CompressedChunkMap.getCompressedSize]
      split <;> omega
    · exact ⟨hcrcs, hccmap⟩

/-- `operator[]` takes the number of a chunk for a signed number. -/
theorem WellFormed.getAccess_inRange (h : map.WellFormed) {c : Nat} :
  (map.getAccess c).InRange ↔ c < map.crcs.length ∧ c < 2 ^ 31
  := by
  have hle := h.length_crcs_le
  rw [getAccess, Access.inRange_mk]
  split <;> omega

end CRCMap

theorem ChunkMap.hasChunkStateFrom_inRange [LinearOrder PeerId] (m : ChunkMap PeerId)
    (state : ChunkState) (n i : Nat) :
  (∀ a ∈ (m.hasChunkStateFrom state n i).2, a.InRange) ↔
    n = 0 ∨ i + n ≤ m.map.length ∨
      ∃ c, i ≤ c ∧ c < i + n ∧ c < m.map.length ∧ m.state c ≠ state
  := by
  induction n generalizing i with
  | zero => simp [hasChunkStateFrom]
  | succ n ih =>
    rw [hasChunkStateFrom]
    split
    case isTrue hne =>
      simp only [List.forall_mem_singleton, Access.inRange_mk]
      constructor
      · intro hlt
        exact .inr (.inr ⟨i, le_rfl, by omega, hlt, hne⟩)
      · rintro (hzero | hle | ⟨c, hic, -, hc, -⟩) <;> omega
    case isFalse heq =>
      rw [not_not] at heq
      rw [List.forall_mem_cons, ih, Access.inRange_mk]
      constructor
      · rintro ⟨hi, hzero | hle | ⟨c, hic, hcn, hc, hne⟩⟩
        · exact .inr (.inl (by omega))
        · exact .inr (.inl (by omega))
        · exact .inr (.inr ⟨c, by omega, by omega, hc, hne⟩)
      · rintro (hzero | hle | ⟨c, hic, hcn, hc, hne⟩)
        · omega
        · exact ⟨by omega, .inr (.inl (by omega))⟩
        · have hne' : c ≠ i := by
            rintro rfl
            exact hne heq
          exact ⟨by omega, .inr (.inr ⟨c, by omega, by omega, hc, hne⟩)⟩

theorem FileCreator.getFileData_accesses [LinearOrder PeerId] (s : FileCreator PeerId)
    (io : ReadOutcome) (offset size : Nat) :
  (s.getFileData io offset size false).2 = (s.chunkMap.hasChunkState offset size .done).2
  := by
  simp only [getFileData, Bool.false_eq_true, if_false]
  split <;> rfl

/-! ### The requests of peers -/

/-- What a peer sends about a file: a checksum, or a request for a checksum or for data. -/
inductive PeerRequest (CRC : Type) where
  | crcAnswer (chunkNumber : UInt32) (crc : CRC)
  | crcRequest (chunkNumber : UInt32) (served : DataMultiplex.ServedChunk CRC)
  | dataRequest (io : FileCreator.ReadOutcome) (offset : UInt64) (chunkSize : UInt32)

namespace DataMultiplex

variable {PeerId CRC : Type} [LinearOrder PeerId] [Inhabited CRC] [DecidableEq CRC]
  (s : DataMultiplex PeerId CRC)

/-- The accesses of a request. -/
def accesses : PeerRequest CRC → List Access
  | .crcAnswer chunkNumber crc => (s.recvSingleChunkCRC chunkNumber crc).2
  | .crcRequest chunkNumber served => (s.handleRecvChunkCrcRequest chunkNumber served).2.2
  | .dataRequest io offset chunkSize =>
      match s.client with
      | none => []
      | some creator => (creator.lockedHandleServerRequest io offset chunkSize).2

/-- A request whose numbers are those of chunks that exist, or that is stopped by a test. -/
def Harmless : PeerRequest CRC → Prop
  | .crcAnswer chunkNumber _ => ∀ creator, s.client = some creator →
      (s.mapFor creator.chunkMap.fileSize).Holds chunkNumber.toNat
  | .crcRequest chunkNumber served =>
      let map := s.sha1cache.map
      let c := chunkNumber.toNat
      (0 < map.size → c / 32 < CompressedChunkMap.getCompressedSize map.size) ∧
      (0 < map.size → map.isSet c = true → c < map.crcs.length ∧ c < 2 ^ 31) ∧
      (¬ (0 < map.size ∧ map.isSet c = true) → ∀ fileSize, served.server = some fileSize →
        served.opens = true → served.reads = true → (s.mapFor fileSize.toNat).Holds c)
  | .dataRequest _ offset chunkSize => ∀ creator, s.client = some creator →
      let start := chunkNumberStart offset.toNat
      let stop := chunkNumberEnd offset.toNat chunkSize.toNat
      10 * 1024 * 1024 < chunkSize.toNat ∨ stop ≤ start ∨
      stop ≤ creator.chunkMap.map.length ∨
      ∃ c, start ≤ c ∧ c < creator.chunkMap.map.length ∧ creator.chunkMap.state c ≠ .done

variable {s}

omit [DecidableEq CRC] in
theorem length_ccmap_mapFor (h : s.sha1cache.map.WellFormed) (fileSize : Nat) :
  (s.mapFor fileSize).ccmap.map.length =
    CompressedChunkMap.getCompressedSize (s.mapFor fileSize).size
  := by
  rw [mapFor]
  split
  · exact (CRCMap.sized_ofFile fileSize).length_ccmap
  · exact h.length_ccmap

omit [DecidableEq CRC] in
/-- The accesses of a request for a checksum: the bit is looked up in a map that is not empty,
and a checksum that is not found there is set. -/
theorem crcRequest_inRange_iff (h : s.sha1cache.map.WellFormed) (chunkNumber : UInt32)
    (served : ServedChunk CRC) :
  (∀ a ∈ (s.handleRecvChunkCrcRequest chunkNumber served).2.2, a.InRange) ↔
    s.Harmless (.crcRequest chunkNumber served)
  := by
  simp only [handleRecvChunkCrcRequest, Harmless]
  generalize hlooked : (if 0 < s.sha1cache.map.size then
    [s.sha1cache.map.ccmap.access chunkNumber.toNat] else []) = looked
  have hlookup : (∀ a ∈ looked, a.InRange) ↔ (0 < s.sha1cache.map.size →
      chunkNumber.toNat / 32 < CompressedChunkMap.getCompressedSize s.sha1cache.map.size) := by
    subst hlooked
    split
    case isTrue hcached =>
      simp [hcached, CompressedChunkMap.access, h.length_ccmap]
    case isFalse hcached => simp [hcached]
  rw [← hlookup]
  by_cases hfound : 0 < s.sha1cache.map.size ∧ s.sha1cache.map.isSet chunkNumber.toNat = true
  · rw [if_pos hfound, List.forall_mem_append, List.forall_mem_singleton, h.getAccess_inRange]
    simp [hfound]
  · rw [if_neg hfound]
    have hnot : 0 < s.sha1cache.map.size → s.sha1cache.map.isSet chunkNumber.toNat = true →
        chunkNumber.toNat < s.sha1cache.map.crcs.length ∧ chunkNumber.toNat < 2 ^ 31 :=
      fun hcached hset => absurd ⟨hcached, hset⟩ hfound
    cases hserver : served.server with
    | none => simpa [hnot] using fun _ hcached hset => hnot hcached hset
    | some fileSize =>
      dsimp only
      split
      case isTrue hfails =>
        simp only [Bool.or_eq_true, Bool.not_eq_true'] at hfails
        constructor
        · intro hlooked
          refine ⟨hlooked, hnot, ?_⟩
          intro _ _ _ hopens hreads
          rcases hfails with hfails | hfails
          · exact absurd (hfails.symm.trans hopens) Bool.false_ne_true
          · exact absurd (hfails.symm.trans hreads) Bool.false_ne_true
        · exact And.left
      case isFalse hsent =>
        simp only [Bool.or_eq_true, Bool.not_eq_true', not_or, Bool.not_eq_false] at hsent
        rw [List.forall_mem_append, CRCMap.setAccesses_inRange (length_ccmap_mapFor h _)]
        simpa [hfound, hsent] using fun _ _ => hnot

omit [DecidableEq CRC] in
/-- The accesses of a request are to elements that exist exactly when it is harmless. -/
theorem accesses_inRange_iff (h : s.sha1cache.map.WellFormed) (request : PeerRequest CRC) :
  (∀ a ∈ s.accesses request, a.InRange) ↔ s.Harmless request
  := by
  cases request with
  | crcAnswer chunkNumber crc =>
    simp only [accesses, Harmless, recvSingleChunkCRC]
    cases hclient : s.client with
    | none => simp
    | some creator =>
      simp only [Option.some.injEq, forall_eq']
      exact CRCMap.setAccesses_inRange (length_ccmap_mapFor h _)
  | crcRequest chunkNumber served => exact crcRequest_inRange_iff h chunkNumber served
  | dataRequest io offset chunkSize =>
    simp only [accesses, Harmless]
    cases hclient : s.client with
    | none => simp
    | some creator =>
      simp only [Option.some.injEq, forall_eq']
      rw [FileCreator.lockedHandleServerRequest]
      split
      case isTrue hlarge => simp [hlarge]
      case isFalse hsmall =>
        rw [FileCreator.getFileData_accesses, ChunkMap.hasChunkState,
          ChunkMap.hasChunkStateFrom_inRange]
        generalize chunkNumberStart offset.toNat = start
        generalize chunkNumberEnd offset.toNat chunkSize.toNat = stop
        constructor
        · rintro (hzero | hle | ⟨c, hstart, -, hc, hne⟩)
          · exact .inr (.inl (by omega))
          · exact .inr (.inr (.inl (by omega)))
          · exact .inr (.inr (.inr ⟨c, hstart, hc, hne⟩))
        · rintro (hlarge | hempty | hle | ⟨c, hstart, hc, hne⟩)
          · exact absurd hlarge hsmall
          · exact .inl (by omega)
          · by_cases hempty : stop ≤ start
            · exact .inl (by omega)
            · exact .inr (.inl (by omega))
          · by_cases hstop : c < stop
            · exact .inr (.inr ⟨c, hstart, by omega, hc, hne⟩)
            · by_cases hempty : stop ≤ start
              · exact .inl (by omega)
              · exact .inr (.inl (by omega))

/-- A download of a file with one chunk. -/
def oneChunk : DataMultiplex Nat Nat := ⟨some (FileCreator.new 10 true 0), newEntry⟩

theorem accesses_inRange_oneChunk :
  (∀ a ∈ oneChunk.accesses (.crcAnswer 0 0), a.InRange) ↔ oneChunk.Harmless (.crcAnswer 0 0)
  := accesses_inRange_iff (.inl rfl) _

/-- The checksum of the chunk `5` of a file with one chunk is written beyond the vectors' end. -/
theorem not_accesses_inRange_oneChunk :
  ¬ ∀ a ∈ oneChunk.accesses (.crcAnswer 5 0), a.InRange
  := by
  decide

end DataMultiplex

end Ft
