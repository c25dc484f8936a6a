import RetroShare.Util.SmallObject

/-!
# The free lists of chunks

`Chunk.Linked` says that the free list of a chunk consists of the blocks that are not in use, once
each.  It is kept by what the operations do to chunks.
-/

namespace RsMemoryManagement

namespace Chunk

variable {chunk : Chunk} {blockSize i : Nat} {addresses addresses' : List Nat}
  (memory : Nat → UInt8)

/-- The blocks that are not in use. -/
def free (chunk : Chunk) (blockSize : Nat) (addresses : List Nat) : List Nat :=
  (List.range blocksPerChunk).filter fun i => chunk.block blockSize i ∉ addresses

/-- The free list links the blocks that are not in use, once each. -/
def Linked (chunk : Chunk) (blockSize : Nat) (addresses : List Nat) : Prop :=
  (chunk.freeList blockSize).Perm (chunk.free blockSize addresses)

theorem block_inj {j : Nat} (hsize : 0 < blockSize) :
  chunk.block blockSize i = chunk.block blockSize j ↔ i = j
  := by
  rw [block, block, Nat.add_left_cancel_iff, Nat.mul_left_inj hsize.ne']

theorem nodup_free (chunk : Chunk) (blockSize : Nat) (addresses : List Nat) :
  (chunk.free blockSize addresses).Nodup
  := List.nodup_range.filter _

theorem mem_free :
  i ∈ chunk.free blockSize addresses ↔ i < blocksPerChunk ∧ chunk.block blockSize i ∉ addresses
  := by
  rw [free, List.mem_filter, List.mem_range, decide_eq_true_iff]

theorem length_linked (n : Nat) (block : UInt8) :
  (linked memory blockSize n block).length = n
  := by
  induction n generalizing block with
  | zero => rfl
  | succ n ih => rw [linked, List.length_cons, ih]

theorem linked_congr {memory memory' : Nat → UInt8} {n : Nat} {block : UInt8}
    (h : ∀ i ∈ linked memory blockSize n block, memory' (i * blockSize) = memory (i * blockSize)) :
  linked memory' blockSize n block = linked memory blockSize n block
  := by
  induction n generalizing block with
  | zero => rfl
  | succ n ih =>
    rw [linked, linked, h block.toNat List.mem_cons_self]
    congr 1
    apply ih
    intro i hi
    apply h i (List.mem_cons_of_mem _ hi)

theorem linked_iff :
  chunk.Linked blockSize addresses ↔ (chunk.freeList blockSize).Nodup ∧
    ∀ i, i ∈ chunk.freeList blockSize ↔
      i < blocksPerChunk ∧ chunk.block blockSize i ∉ addresses
  := by
  constructor
  · intro h
    refine ⟨h.symm.nodup (nodup_free chunk blockSize addresses), ?_⟩
    intro i
    rw [List.Perm.mem_iff h, mem_free]
  · rintro ⟨hnodup, hmem⟩
    rw [Linked, List.perm_ext_iff_of_nodup hnodup (nodup_free chunk blockSize addresses)]
    intro i
    rw [hmem, mem_free]

section

variable (h : chunk.Linked blockSize addresses)

include h

theorem Linked.congr
    (haddresses : ∀ i < blocksPerChunk, chunk.block blockSize i ∈ addresses' ↔ chunk.block blockSize
      i ∈ addresses) :
  chunk.Linked blockSize addresses'
  := by
  obtain ⟨hnodup, hmem⟩ := linked_iff.1 h
  rw [linked_iff]
  refine ⟨hnodup, ?_⟩
  intro i
  rw [hmem]
  apply and_congr_right
  intro hi
  rw [haddresses i hi]

theorem Linked.length_eq :
  chunk.blocksAvailable.toNat = (chunk.free blockSize addresses).length
  := by
  rw [← List.Perm.length_eq h, freeList, length_linked]

/-- When all blocks are available, none is in use. -/
theorem Linked.not_mem_of_all (hall : chunk.blocksAvailable.toNat = blocksPerChunk)
    (hi : i < blocksPerChunk) :
  chunk.block blockSize i ∉ addresses
  := by
  rw [h.length_eq] at hall
  have hlength : (chunk.free blockSize addresses).length = (List.range blocksPerChunk).length := by
    rw [hall, List.length_range]
  have hin := List.length_filter_eq_length_iff.1 hlength i (List.mem_range.2 hi)
  exact of_decide_eq_true hin

end

/-! ### `init` -/

theorem init_memory (n data : Nat) (memory : Nat → UInt8) (hsize : 0 < blockSize) (hi : i < n) :
  (init blockSize n data memory).memory (i * blockSize) = UInt8.ofNat (i + 1)
  := by
  change (List.range n).foldl
      (fun memory i => Function.update memory (i * blockSize) (UInt8.ofNat (i + 1))) memory
      (i * blockSize) = _
  induction n with
  | zero => cases hi
  | succ n ih =>
    rw [List.range_succ, List.foldl_append, List.foldl_cons, List.foldl_nil]
    by_cases hlast : i = n
    · rw [hlast, Function.update_self]
    · rw [Function.update_of_ne]
      · exact ih (by omega)
      · rw [Ne, Nat.mul_left_inj hsize.ne']
        exact hlast

theorem linked_eq_range' {memory : Nat → UInt8}
    (hmemory : ∀ i < blocksPerChunk, memory (i * blockSize) = UInt8.ofNat (i + 1)) (n i : Nat)
    (hn : i + n = blocksPerChunk) :
  linked memory blockSize n (UInt8.ofNat i) = List.range' i n
  := by
  induction n generalizing i with
  | zero => rfl
  | succ n ih =>
    have hi : i < blocksPerChunk := by omega
    have htoNat : (UInt8.ofNat i).toNat = i := by
      apply Nat.mod_eq_of_lt
      rw [blocksPerChunk] at hi
      omega
    rw [linked, htoNat, hmemory i hi, ih (i + 1) (by omega), List.range'_succ]

/-- In a new chunk, no block is in use. -/
theorem linked_init {data : Nat} (hsize : 0 < blockSize)
    (hfree : ∀ i < blocksPerChunk, data + i * blockSize ∉ addresses) :
  (init blockSize blocksPerChunk data memory).Linked blockSize addresses
  := by
  have hrange : (init blockSize blocksPerChunk data memory).free blockSize addresses =
      List.range blocksPerChunk := by
    apply List.filter_eq_self.2
    intro i hi
    rw [decide_eq_true_iff]
    apply hfree i (List.mem_range.1 hi)
  have hlist : (init blockSize blocksPerChunk data memory).freeList blockSize =
      List.range' 0 blocksPerChunk := by
    have hmemory : ∀ i < blocksPerChunk,
        (init blockSize blocksPerChunk data memory).memory (i * blockSize) =
          UInt8.ofNat (i + 1) :=
      fun i hi => init_memory blocksPerChunk data memory hsize hi
    have hcount : (init blockSize blocksPerChunk data memory).blocksAvailable.toNat =
        blocksPerChunk := rfl
    rw [freeList, hcount]
    exact linked_eq_range' hmemory blocksPerChunk 0 (Nat.zero_add _)
  rw [Linked, hrange, hlist, List.range_eq_range']

/-! ### `allocate` -/

theorem freeList_eq_cons (chunk : Chunk) (blockSize : Nat) (h : chunk.blocksAvailable ≠ 0) :
  chunk.freeList blockSize =
    chunk.firstAvailableBlock.toNat :: (chunk.pop blockSize).freeList blockSize
  := by
  have hle : (1 : UInt8) ≤ chunk.blocksAvailable := by
    rw [UInt8.le_iff_toNat_le]
    apply Nat.pos_of_ne_zero
    intro hzero
    exact h (UInt8.toNat_inj.1 hzero)
  have hcount : chunk.blocksAvailable.toNat = (chunk.blocksAvailable - 1).toNat + 1 := by
    rw [UInt8.toNat_sub_of_le _ _ hle]
    exact (Nat.sub_add_cancel (UInt8.le_iff_toNat_le.1 hle)).symm
  rw [freeList, hcount, linked]
  rfl

theorem allocate_eq (hsize : 2 ≤ blockSize) (h : chunk.blocksAvailable ≠ 0) :
  chunk.allocate blockSize = some (chunk.pop blockSize,
    some (chunk.block blockSize chunk.firstAvailableBlock.toNat))
  := by
  rw [allocate, if_neg h, if_neg (not_lt.2 hsize)]

theorem Linked.first (h : chunk.Linked blockSize addresses)
    (havailable : chunk.blocksAvailable ≠ 0) :
  chunk.firstAvailableBlock.toNat < blocksPerChunk ∧
    chunk.block blockSize chunk.firstAvailableBlock.toNat ∉ addresses
  := by
  apply ((linked_iff.1 h).2 _).1
  rw [freeList_eq_cons chunk blockSize havailable]
  apply List.mem_cons_self

/-- A block that is allocated leaves the free list. -/
theorem Linked.pop (h : chunk.Linked blockSize addresses) (hsize : 0 < blockSize)
    (havailable : chunk.blocksAvailable ≠ 0) :
  (chunk.pop blockSize).Linked blockSize
    (chunk.block blockSize chunk.firstAvailableBlock.toNat :: addresses)
  := by
  obtain ⟨hnodup, hmem⟩ := linked_iff.1 h
  rw [freeList_eq_cons chunk blockSize havailable] at hnodup hmem
  rw [linked_iff]
  refine ⟨hnodup.of_cons, ?_⟩
  intro i
  have hblock : (chunk.pop blockSize).block blockSize i = chunk.block blockSize i := rfl
  rw [hblock, List.mem_cons, not_or, block_inj hsize]
  constructor
  · intro hi
    have hin := (hmem i).1 (List.mem_cons_of_mem _ hi)
    refine ⟨hin.1, ?_, hin.2⟩
    rintro rfl
    exact (List.nodup_cons.1 hnodup).1 hi
  · rintro ⟨hi, hne, hnot⟩
    exact List.mem_of_ne_of_mem hne ((hmem i).2 ⟨hi, hnot⟩)

/-! ### `deallocate` -/

theorem toNat_ofNat_of_lt (hi : i < blocksPerChunk) :
  (UInt8.ofNat i).toNat = i
  := by
  apply Nat.mod_eq_of_lt
  rw [blocksPerChunk] at hi
  omega

theorem deallocate_eq (hsize : 0 < blockSize) (hi : i < blocksPerChunk) :
  chunk.deallocate (chunk.block blockSize i) blockSize =
    some (chunk.push (i * blockSize) (UInt8.ofNat i))
  := by
  have hle : ¬chunk.block blockSize i < chunk.data := not_lt.2 (Nat.le_add_right ..)
  have hoffset : chunk.block blockSize i - chunk.data = i * blockSize := Nat.add_sub_cancel_left ..
  have hindex : i * blockSize / blockSize = i := Nat.mul_div_cancel i hsize
  have haligned : i * blockSize % blockSize = 0 := Nat.mul_mod_left i blockSize
  rw [deallocate, if_neg hle, hoffset, hindex, if_neg (not_not.2 haligned)]
  simp only
  rw [if_neg (not_not.2 (toNat_ofNat_of_lt hi))]

variable (h : chunk.Linked blockSize addresses)

include h

/-- When a block is in use, the blocks that are not can be counted by a byte with one more. -/
theorem Linked.blocksAvailable_lt (hi : i < blocksPerChunk)
    (hlive : chunk.block blockSize i ∈ addresses) :
  chunk.blocksAvailable.toNat < blocksPerChunk
  := by
  have hlt : (chunk.free blockSize addresses).length < (List.range blocksPerChunk).length := by
    apply List.length_filter_lt_length_iff_exists.2
    refine ⟨i, List.mem_range.2 hi, ?_⟩
    simpa using hlive
  rw [List.length_range, ← h.length_eq] at hlt
  exact hlt

/-- A block that is given back becomes the first of the free list. -/
theorem Linked.push (hsize : 0 < blockSize) (hi : i < blocksPerChunk)
    (hlive : chunk.block blockSize i ∈ addresses)
    (haddresses : ∀ p, p ∈ addresses' ↔ p ∈ addresses ∧ p ≠ chunk.block blockSize i) :
  (chunk.push (i * blockSize) (UInt8.ofNat i)).Linked blockSize addresses'
  := by
  obtain ⟨hnodup, hmem⟩ := linked_iff.1 h
  have hlist : (chunk.push (i * blockSize) (UInt8.ofNat i)).freeList blockSize =
      i :: chunk.freeList blockSize := by
    have hlt := h.blocksAvailable_lt hi hlive
    have hcount : (chunk.blocksAvailable + 1).toNat = chunk.blocksAvailable.toNat + 1 := by
      rw [UInt8.toNat_add]
      apply Nat.mod_eq_of_lt
      rw [blocksPerChunk] at hlt
      change chunk.blocksAvailable.toNat + 1 < 256
      omega
    have hlink : Function.update chunk.memory (i * blockSize) chunk.firstAvailableBlock
        (i * blockSize) = chunk.firstAvailableBlock := Function.update_self ..
    rw [freeList, Chunk.push, hcount, linked, toNat_ofNat_of_lt hi]
    simp only [hlink]
    congr 1
    apply linked_congr
    intro j hj
    apply Function.update_of_ne
    rw [Ne, Nat.mul_left_inj hsize.ne']
    rintro rfl
    exact ((hmem j).1 hj).2 hlive
  rw [linked_iff, hlist]
  constructor
  · apply List.nodup_cons.2 ⟨_, hnodup⟩
    intro hin
    exact ((hmem i).1 hin).2 hlive
  · intro j
    have hblock : (chunk.push (i * blockSize) (UInt8.ofNat i)).block blockSize j =
        chunk.block blockSize j := rfl
    rw [hblock, haddresses, List.mem_cons, hmem, Ne, block_inj hsize]
    by_cases hj : j = i
    · simp [hj, hi]
    · simp [hj]

/-! ### Bytes that the program writes -/

/-- A byte that is not in a block of the free list does not matter. -/
theorem Linked.write (hsize : 0 < blockSize) (address : Nat) (byte : UInt8)
    (hlive : chunk.data ≤ address → address < chunk.data + blockSize * blocksPerChunk → chunk.block
      blockSize ((address - chunk.data) / blockSize) ∈ addresses) :
  (chunk.write blockSize address byte).Linked blockSize addresses
  := by
  rw [Chunk.write]
  split
  case isFalse => exact h
  case isTrue hin =>
    obtain ⟨hnodup, hmem⟩ := linked_iff.1 h
    have hlist : freeList
        { chunk with memory := Function.update chunk.memory (address - chunk.data) byte }
        blockSize = chunk.freeList blockSize := by
      apply linked_congr
      intro j hj
      apply Function.update_of_ne
      intro heq
      apply ((hmem j).1 hj).2
      have hlive' := hlive hin.1 hin.2
      rw [← heq, Nat.mul_div_cancel j hsize] at hlive'
      exact hlive'
    rw [linked_iff, hlist]
    exact ⟨hnodup, hmem⟩

end Chunk

end RsMemoryManagement
