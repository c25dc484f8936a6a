import RetroShare.Ft.Checksum
import RetroShare.Lib.Pieces

/-!
# Sizes of chunks and progress

The size of the last chunk is the difference of the 64-bit size of the file and a 32-bit product,
which wraps around for files of 4 GB and more; as the difference is cut to 32 bits again, the sizes
are right (`partition_new`).  `computeProgress` multiplies the number of chunks by their size in 32
bits as well, and adds this product up without cutting it: it is right as long as the full chunks
that are there have less than 4 GB (`computeProgress_eq_iff`).
-/

namespace Ft

/-- The number of chunks of a file. -/
def chunksOf (size : Nat) : Nat := Pieces.count size chunkSize

/-! ### Sizes of chunks -/

namespace ChunkMap

variable {PeerId : Type} [LinearOrder PeerId]

theorem length_new (size : Nat) (availability : Bool) :
  (new size availability : ChunkMap PeerId).map.length = chunksOf size
  := List.length_replicate

/-- The product wraps around, and the difference with it. -/
theorem sizeOfChunk_new {size : Nat} (availability : Bool) (hsize : chunksOf size < 2 ^ 32) {c : Nat}
    (hc : c < chunksOf size) :
  (new size availability : ChunkMap PeerId).sizeOfChunk c = Pieces.size size chunkSize c
  := by
  have hlt := (Pieces.lt_count_iff (by decide)).mp hc
  have hbound : ¬2 ^ 32 < chunksOf size := by omega
  rw [chunksOf, Pieces.lt_count_iff (by decide)] at hbound
  rw [sizeOfChunk, length_new, Pieces.size]
  by_cases hlast : c + 1 = chunksOf size
  · have hend : ¬c + 1 < chunksOf size := by omega
    rw [chunksOf, Pieces.lt_count_iff (by decide)] at hend
    rw [if_pos hlast, new, sub64]
    simp only [chunkSize] at hlt hend hbound ⊢
    omega
  · have hend : c + 1 < chunksOf size := by omega
    rw [chunksOf, Pieces.lt_count_iff (by decide)] at hend
    rw [if_neg hlast]
    simp only [chunkSize] at hend ⊢
    omega

/-- The chunks partition the file: none is empty or too large, they make up the file, and every byte
lies in the chunk of its number. -/
theorem partition_new (size : Nat) (availability : Bool) (hsize : chunksOf size < 2 ^ 32) :
  let m : ChunkMap PeerId := new size availability
  (∀ c < m.map.length, 1 ≤ m.sizeOfChunk c ∧ m.sizeOfChunk c ≤ chunkSize) ∧
    ((List.range m.map.length).map m.sizeOfChunk).sum = size ∧
    ∀ offset < size, offset / chunkSize < m.map.length ∧
      offset / chunkSize * chunkSize ≤ offset ∧
      offset < offset / chunkSize * chunkSize + m.sizeOfChunk (offset / chunkSize)
  := by
  intro m
  have hsizes : ∀ c < chunksOf size, m.sizeOfChunk c = Pieces.size size chunkSize c :=
    fun c => sizeOfChunk_new availability hsize
  rw [length_new]
  refine ⟨?_, ?_, ?_⟩
  · intro c hc
    rw [hsizes c hc]
    exact ⟨Pieces.size_pos (by decide) hc, Pieces.size_le⟩
  · calc ((List.range (chunksOf size)).map m.sizeOfChunk).sum
        = ((List.range (chunksOf size)).map (Pieces.size size chunkSize)).sum := by
          congr 1
          apply List.map_congr_left
          intro c hc
          exact hsizes c (List.mem_range.mp hc)
      _ = size := Pieces.sum_size (by decide)
  · intro offset hoffset
    obtain ⟨hc, hle, hlt⟩ := Pieces.lt_of_lt (k := chunkSize) (by decide) hoffset
    rw [hsizes _ hc]
    exact ⟨hc, hle, hlt⟩

end ChunkMap

/-- A file of one byte more than 4 GB. -/
theorem ChunkMap.partition_new_large :
  chunksOf (2 ^ 32 + 1) < 2 ^ 32 ∧
    ((List.range (new (2 ^ 32 + 1) false : ChunkMap Nat).map.length).map
      (new (2 ^ 32 + 1) false : ChunkMap Nat).sizeOfChunk).sum = 2 ^ 32 + 1
  := by
  have hsize : chunksOf (2 ^ 32 + 1) < 2 ^ 32 := by decide
  exact ⟨hsize, (partition_new (2 ^ 32 + 1) false hsize).2.1⟩

/-! ### Progress -/

namespace CompressedChunkMap

variable (cmap : CompressedChunkMap)

/-- `filledChunks`. -/
def filledChunks (nbchks : Nat) : Nat :=
  (List.range (min nbchks (cmap.map.length % 2 ^ 32 * 32 % 2 ^ 32))).foldl
    (fun res i => (res + if cmap.get i then 1 else 0) % 2 ^ 32) 0

/-- `computeProgress`. -/
def computeProgress (totalSize chunkSize : Nat) : Nat :=
  if totalSize = 0 then 0
  else
    let nbchks := sub64 (add64 totalSize chunkSize) 1 / chunkSize % 2 ^ 32
    let residue := totalSize % chunkSize
    if residue ≠ 0 ∧ cmap.get (sub32 nbchks 1) then
      add64 (sub32 (cmap.filledChunks nbchks) 1 * chunkSize % 2 ^ 32) (totalSize % chunkSize)
    else cmap.filledChunks nbchks * chunkSize % 2 ^ 32

/-- The bit of a chunk is set. -/
def HasBit (c : Nat) : Prop := (cmap.map.getD (c / 32) 0).toNat.testBit (c % 32)

instance (c : Nat) : Decidable (cmap.HasBit c) := inferInstanceAs (Decidable (_ = _))

/-- The chunks of a file whose bits are set. -/
def present (totalSize : Nat) : List Nat :=
  (List.range (chunksOf totalSize)).filter fun c => cmap.HasBit c

/-- The chunks of full size whose bits are set. -/
def presentFull (totalSize : Nat) : List Nat :=
  (List.range (totalSize / chunkSize)).filter fun c => cmap.HasBit c

/-- The last chunk is smaller than the others, and its bit is set. -/
def LastPresent (totalSize : Nat) : Prop :=
  totalSize % chunkSize ≠ 0 ∧ cmap.HasBit (totalSize / chunkSize)

instance (totalSize : Nat) : Decidable (cmap.LastPresent totalSize) :=
  inferInstanceAs (Decidable (_ ∧ _))

/-- The full chunks have less than 4 GB.  Beyond `2 ^ 32 - 32` chunks the number of bits of the map
wraps around to zero and none is counted: then the progress is `0`, or that of `2 ^ 32 - 1` full
chunks in 32 bits when the last chunk is there. -/
def Counted (totalSize : Nat) : Prop :=
  if chunksOf totalSize ≤ 2 ^ 32 - 32 then (cmap.presentFull totalSize).length < 2 ^ 12
  else
    (cmap.presentFull totalSize).length = if cmap.LastPresent totalSize then 2 ^ 12 - 1 else 0

variable {cmap} {totalSize : Nat}

theorem chunksOf_eq (totalSize : Nat) :
  chunksOf totalSize = totalSize / chunkSize + if totalSize % chunkSize = 0 then 0 else 1
  := rfl

/-- The chunks that are there are the full ones and perhaps the last one. -/
theorem present_eq (cmap : CompressedChunkMap) (totalSize : Nat) :
  cmap.present totalSize = cmap.presentFull totalSize ++
    if cmap.LastPresent totalSize then [totalSize / chunkSize] else []
  := by
  rw [present, presentFull, chunksOf_eq]
  by_cases hrem : totalSize % chunkSize = 0
  · have hlast : ¬cmap.LastPresent totalSize := fun h => h.1 hrem
    rw [if_pos hrem, if_neg hlast, Nat.add_zero, List.append_nil]
  · rw [if_neg hrem, List.range_succ, List.filter_append]
    congr 1
    by_cases hbit : cmap.HasBit (totalSize / chunkSize)
    · simp [LastPresent, hrem, hbit]
    · simp [LastPresent, hbit]

/-- What the chunks that are there have together. -/
theorem sum_present (cmap : CompressedChunkMap) (totalSize : Nat) :
  ((cmap.present totalSize).map (Pieces.size totalSize chunkSize)).sum =
    (cmap.presentFull totalSize).length * chunkSize +
      if cmap.LastPresent totalSize then totalSize % chunkSize else 0
  := by
  have hfull : (cmap.presentFull totalSize).map (Pieces.size totalSize chunkSize) =
      (cmap.presentFull totalSize).map fun _ => chunkSize := by
    apply List.map_congr_left
    intro c hc
    have hlt := List.mem_range.mp (List.mem_filter.mp hc).1
    exact Pieces.size_of_le ((Nat.le_div_iff_mul_le (by decide)).mp hlt)
  rw [present_eq, List.map_append, List.sum_append, hfull, List.map_const',
    List.sum_replicate_nat]
  congr 1
  split
  · rw [List.map_singleton, List.sum_singleton, Pieces.size_div (by decide)]
  · rfl

theorem foldl_count (cmap : CompressedChunkMap) {n : Nat} (hn : n < 2 ^ 32) :
  (List.range n).foldl (fun res i => (res + if cmap.get i then 1 else 0) % 2 ^ 32) 0 =
    ((List.range n).filter fun c => cmap.HasBit c).length
  := by
  induction n with
  | zero => rfl
  | succ n ih =>
    have hle := List.length_filter_le (fun c => decide (cmap.HasBit c)) (List.range n)
    rw [List.length_range] at hle
    rw [List.range_succ, List.foldl_append, ih (by omega), List.filter_append, List.length_append,
      List.foldl_cons, List.foldl_nil]
    by_cases hbit : cmap.HasBit n
    · rw [if_pos ((get_iff n).mpr hbit)]
      simp only [List.filter_cons, hbit, decide_true, if_true, List.filter_nil,
        List.length_singleton]
      omega
    · rw [if_neg fun h => hbit ((get_iff n).mp h)]
      simp only [List.filter_cons, hbit, decide_false, Bool.false_eq_true, if_false,
        List.filter_nil, List.length_nil]
      omega

/-- The number of bits of a map is a 32-bit number, except for the largest files. -/
theorem filledChunks_eq (hsize : chunksOf totalSize < 2 ^ 32)
    (hlength : cmap.map.length = getCompressedSize (chunksOf totalSize)) :
  cmap.filledChunks (chunksOf totalSize) =
    if chunksOf totalSize ≤ 2 ^ 32 - 32 then (cmap.present totalSize).length else 0
  := by
  have hbits : min (chunksOf totalSize) (cmap.map.length % 2 ^ 32 * 32 % 2 ^ 32) =
      if chunksOf totalSize ≤ 2 ^ 32 - 32 then chunksOf totalSize else 0 := by
    rw [hlength, getCompressedSize]
    split <;> split <;> omega
  rw [filledChunks, hbits]
  split
  case isTrue => rw [foldl_count cmap hsize, present]
  case isFalse => rfl

theorem length_present (cmap : CompressedChunkMap) (totalSize : Nat) :
  (cmap.present totalSize).length =
    (cmap.presentFull totalSize).length + if cmap.LastPresent totalSize then 1 else 0
  := by
  rw [present_eq, List.length_append]
  split <;> rfl

/-- The number of chunks that `computeProgress` works out. -/
theorem nbchks_eq (hsize : chunksOf totalSize < 2 ^ 32) :
  sub64 (add64 totalSize chunkSize) 1 / chunkSize % 2 ^ 32 = chunksOf totalSize
  := by
  rw [chunksOf_eq] at hsize ⊢
  by_cases hrem : totalSize % chunkSize = 0
  · rw [if_pos hrem] at hsize ⊢
    simp only [sub64, add64, chunkSize] at hrem hsize ⊢
    omega
  · rw [if_neg hrem] at hsize ⊢
    simp only [sub64, add64, chunkSize] at hrem hsize ⊢
    omega

/-- The progress is what the chunks that are there have together, exactly when the full chunks are
counted right. -/
theorem computeProgress_eq_iff (cmap : CompressedChunkMap) (totalSize : Nat)
    (hsize : chunksOf totalSize < 2 ^ 32)
    (hlength : cmap.map.length = getCompressedSize (chunksOf totalSize)) :
  cmap.computeProgress totalSize chunkSize =
      ((cmap.present totalSize).map (Pieces.size totalSize chunkSize)).sum ↔
    cmap.Counted totalSize
  := by
  have hfilled := filledChunks_eq hsize hlength
  have hpresent := cmap.length_present totalSize
  have hfull : (cmap.presentFull totalSize).length ≤ totalSize / chunkSize := by
    have hle := List.length_filter_le (fun c => decide (cmap.HasBit c))
      (List.range (totalSize / chunkSize))
    rwa [List.length_range] at hle
  have hchunks := chunksOf_eq totalSize
  rw [sum_present, computeProgress, Counted]
  dsimp only
  rw [nbchks_eq hsize, hfilled, hpresent]
  by_cases hzero : totalSize = 0
  · subst hzero
    have hlast : ¬cmap.LastPresent 0 := fun h => h.1 rfl
    simp [presentFull, chunksOf, Pieces.count, hlast]
  have hcond : totalSize % chunkSize ≠ 0 ∧ cmap.get (sub32 (chunksOf totalSize) 1) = true ↔
      cmap.LastPresent totalSize := by
    apply and_congr_right
    intro hrem
    rw [if_neg hrem] at hchunks
    have hlast : sub32 (chunksOf totalSize) 1 = totalSize / chunkSize := by
      simp only [sub32]
      omega
    rw [hlast, get_iff]
    rfl
  have hlt : totalSize % chunkSize < chunkSize := Nat.mod_lt _ (by decide)
  have hle : totalSize / chunkSize ≤ chunksOf totalSize := hchunks ▸ Nat.le_add_right _ _
  rw [if_neg hzero, if_congr hcond rfl rfl]
  by_cases hlast : cmap.LastPresent totalSize
  · rw [if_neg hlast.1] at hchunks
    rw [if_pos hlast, if_pos hlast, if_pos hlast, if_pos hlast]
    simp only [sub32, add64, chunkSize] at hlt ⊢
    split <;> omega
  · rw [if_neg hlast, if_neg hlast, if_neg hlast, if_neg hlast]
    simp only [chunkSize] at hle ⊢
    split <;> omega

/-- A map with one word. -/
def oneWord (word : UInt32) : CompressedChunkMap := ⟨[word]⟩

/-- A file of a little more than two chunks. -/
theorem computeProgress_eq_iff_threeChunks :
  (oneWord 5).computeProgress (2 ^ 21 + 7) chunkSize =
      (((oneWord 5).present (2 ^ 21 + 7)).map (Pieces.size (2 ^ 21 + 7) chunkSize)).sum ↔
    (oneWord 5).Counted (2 ^ 21 + 7)
  := computeProgress_eq_iff (oneWord 5) (2 ^ 21 + 7) (by decide) (by decide)

/-- A file of 4 GB that is there. -/
def wholeMap : CompressedChunkMap := ⟨List.replicate 128 0xffffffff⟩

theorem present_wholeMap :
  wholeMap.present (2 ^ 32) = List.range 4096
  := by
  apply List.filter_eq_self.mpr
  intro c hc
  have hlt : c < 4096 := List.mem_range.mp hc
  have hword : wholeMap.map.getD (c / 32) 0 = 0xffffffff := List.getD_replicate _ (by omega)
  have hbit : (2 ^ 32 - 1).testBit (c % 32) = true := by
    rw [Nat.testBit_two_pow_sub_one, decide_eq_true_iff]
    exact Nat.mod_lt c (by decide)
  rw [decide_eq_true_iff, HasBit, hword]
  exact hbit

/-- Of the file of 4 GB nothing is counted. -/
theorem not_computeProgress_eq_whole :
  ¬∀ (cmap : CompressedChunkMap) (totalSize : Nat), chunksOf totalSize < 2 ^ 32 →
    cmap.map.length = getCompressedSize (chunksOf totalSize) →
    cmap.computeProgress totalSize chunkSize =
      ((cmap.present totalSize).map (Pieces.size totalSize chunkSize)).sum
  := by
  intro h
  have hsize : chunksOf (2 ^ 32) = 4096 := by decide
  have hlength : wholeMap.map.length = getCompressedSize (chunksOf (2 ^ 32)) := List.length_replicate
  have hwhole := h wholeMap (2 ^ 32) (by decide) hlength
  have hfilled : wholeMap.filledChunks (chunksOf (2 ^ 32)) = 4096 := by
    rw [filledChunks_eq (by decide) hlength, if_pos (by decide), present_wholeMap, List.length_range]
  have hsum := Pieces.sum_size (n := 2 ^ 32) (k := chunkSize) (by decide)
  rw [present_wholeMap, ← hsize, chunksOf, hsum, computeProgress, if_neg (by decide)] at hwhole
  dsimp only at hwhole
  rw [if_neg fun h => h.1 (by decide), nbchks_eq (by decide), hfilled] at hwhole
  revert hwhole
  decide

end CompressedChunkMap

end Ft
