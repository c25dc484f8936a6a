import RetroShare.Util.FixedAllocator

/-!
# The blocks in use

`Heap.Sound` says that the blocks in use are distinct and that the free lists of all chunks link
the others.  It holds after every run in which blocks of at least two bytes are allocated from the
pool, and no assertion of such a run fails.
-/

namespace RsMemoryManagement

/-- Two pieces of memory do not overlap. -/
def Apart (r r' : Nat × Nat) : Prop := r.1 + r.2 ≤ r'.1 ∨ r'.1 + r'.2 ≤ r.1

/-- An address is in a piece of memory. -/
def Within (r : Nat × Nat) (address : Nat) : Prop := r.1 ≤ address ∧ address < r.1 + r.2

instance decidableApart (r r' : Nat × Nat) : Decidable (Apart r r') :=
  inferInstanceAs (Decidable (_ ∨ _))

instance decidableWithin (r : Nat × Nat) (address : Nat) : Decidable (Within r address) :=
  inferInstanceAs (Decidable (_ ∧ _))

instance : Std.Symm Apart where
  symm _ _ h := Or.symm h

variable {r' r : Nat × Nat} {address : Nat}

theorem Apart.not_within (h : Apart r r') (hr : Within r address) :
  ¬Within r' address
  := by
  intro hr'
  rcases h with h | h
  · exact absurd (hr.2.trans_le (h.trans hr'.1)) (lt_irrefl _)
  · exact absurd (hr'.2.trans_le (h.trans hr.1)) (lt_irrefl _)

/-- An address is in one piece of memory only. -/
theorem eq_of_within {regions : List (Nat × Nat)} (h : regions.Pairwise Apart) (hr : r ∈ regions)
    (hr' : r' ∈ regions) (hin : Within r address) (hin' : Within r' address) :
  r = r'
  := by
  by_contra hne
  exact (h.forall hr hr' hne).not_within hin hin'

namespace Chunk

variable {chunk : Chunk} {blockSize : Nat}

theorem within_block (hsize : 0 < blockSize) {i : Nat} (hi : i < blocksPerChunk) :
  Within (chunk.region blockSize) (chunk.block blockSize i)
  := by
  refine ⟨Nat.le_add_right .., ?_⟩
  apply Nat.add_lt_add_left
  rw [Nat.mul_comm]
  exact Nat.mul_lt_mul_of_pos_left hi hsize

theorem owns_iff (hsize : 0 < blockSize) {p : Nat} :
  chunk.owns blockSize p ↔ Within (chunk.region blockSize) p
  := by
  rw [owns, Bool.and_eq_true, decide_eq_true_iff, decide_eq_true_iff,
    Nat.div_lt_iff_lt_mul hsize, Within, region]
  apply and_congr_right
  intro hle
  rw [Nat.mul_comm blocksPerChunk]
  omega

end Chunk

namespace Heap

variable (heap : Heap)

/-- The blocks in use are distinct, the free lists link the blocks that are not in use, which are
counted, and the chunks that are used first are there. -/
structure Sound : Prop where
  distinct : heap.addresses.Nodup
  linked : ∀ key fixed, heap.allocator.pool.get? key = some fixed → ∀ chunk ∈ fixed.chunks,
    chunk.Linked fixed.blockSize heap.addresses
  available : ∀ key fixed, heap.allocator.pool.get? key = some fixed → ∀ chunk ∈ fixed.chunks,
    chunk.blocksAvailable.toNat = (chunk.free fixed.blockSize heap.addresses).length
  indexed : ∀ key fixed, heap.allocator.pool.get? key = some fixed → fixed.Indexed

/-- `malloc` and `new` give memory that is not in use, blocks in use are given back with their
sizes, and the program writes to blocks in use. -/
def Proper : Input → Prop
  | .allocate bytes data _ => ∀ r ∈ heap.regions, Apart (data, heap.request bytes) r
  | .deallocate p bytes => (p, bytes) ∈ heap.live
  | .write address _ => ∃ block ∈ heap.live, Within block address

/-- A block from the pool has at least two bytes. -/
def AtLeastTwo : Input → Prop
  | .allocate bytes _ _ => bytes ≤ heap.allocator.maxObjectSize → 2 ≤ bytes
  | _ => True

instance decidableProper : ∀ input, Decidable (heap.Proper input)
  | .allocate bytes data _ =>
      inferInstanceAs (Decidable (∀ r ∈ heap.regions, Apart (data, heap.request bytes) r))
  | .deallocate p bytes => inferInstanceAs (Decidable ((p, bytes) ∈ heap.live))
  | .write address _ => inferInstanceAs (Decidable (∃ block ∈ heap.live, Within block address))

instance decidableAtLeastTwo : ∀ input, Decidable (heap.AtLeastTwo input)
  | .allocate bytes _ _ =>
      inferInstanceAs (Decidable (bytes ≤ heap.allocator.maxObjectSize → 2 ≤ bytes))
  | .deallocate _ _ => .isTrue trivial
  | .write _ _ => .isTrue trivial

/-- The invariant: the allocators of the pool are sound, the memory in use does not overlap, and the
small blocks in use are blocks of chunks. -/
structure WellFormed : Prop where
  distinct : heap.addresses.Nodup
  size : ∀ key fixed, heap.allocator.pool.get? key = some fixed →
    fixed.blockSize = key ∧ 2 ≤ key
  indexed : ∀ key fixed, heap.allocator.pool.get? key = some fixed → fixed.Indexed
  linked : ∀ key fixed, heap.allocator.pool.get? key = some fixed → ∀ chunk ∈ fixed.chunks,
    chunk.Linked key heap.addresses
  apart : heap.regions.Pairwise Apart
  owned : ∀ block ∈ heap.live, block.2 ≤ heap.allocator.maxObjectSize →
    ∃ fixed, heap.allocator.pool.get? block.2 = some fixed ∧
      ∃ chunk ∈ fixed.chunks, ∃ i < blocksPerChunk, block.1 = chunk.block block.2 i

/-- The memory in use that does not belong to the allocator of a size. -/
def others (key : Nat) : List (Nat × Nat) :=
  (heap.live.filter fun block => heap.allocator.maxObjectSize < block.2) ++
    (heap.allocator.pool.erase key).toList.flatMap fun e => e.2.regions

/-- The allocator of a size, which may be new. -/
def fixedOf (key : Nat) : FixedAllocator := (heap.allocator.pool.get? key).getD (.new key)

variable {heap} {fixed : FixedAllocator} {chunk : Chunk} {key address bytes data : Nat}
  {heap' : Heap} {block : Nat × Nat} {before after : List Chunk} {byte : UInt8}

theorem WellFormed.sound (h : heap.WellFormed) :
  heap.Sound
  := by
  refine ⟨h.distinct, ?_, ?_, h.indexed⟩
  · intro key fixed hget chunk hchunk
    rw [(h.size key fixed hget).1]
    exact h.linked key fixed hget chunk hchunk
  · intro key fixed hget chunk hchunk
    rw [(h.size key fixed hget).1]
    exact (h.linked key fixed hget chunk hchunk).length_eq

theorem wellFormed_new (maxObjectSize : Nat) (h : maxObjectSize < 2 ^ 31) :
  (new maxObjectSize h).WellFormed
  := by
  refine ⟨List.nodup_nil, ?_, ?_, ?_, List.Pairwise.nil, ?_⟩
  · rintro key fixed ⟨⟩
  · rintro key fixed ⟨⟩
  · rintro key fixed ⟨⟩
  · rintro block ⟨⟩

/-! ### The memory in use -/

theorem region_mem_regions (hget : heap.allocator.pool.get? key = some fixed)
    (hchunk : chunk ∈ fixed.chunks) :
  chunk.region fixed.blockSize ∈ heap.regions
  := by
  apply List.mem_append_right
  rw [List.mem_flatMap]
  exact ⟨(key, fixed), OrdMap.mem_toList.2 hget, List.mem_map_of_mem hchunk⟩

theorem region_mem_others {key' : Nat} (hget : heap.allocator.pool.get? key' = some fixed)
    (hkey : key' ≠ key) (hchunk : chunk ∈ fixed.chunks) :
  chunk.region fixed.blockSize ∈ heap.others key
  := by
  apply List.mem_append_right
  rw [List.mem_flatMap]
  refine ⟨(key', fixed), OrdMap.mem_toList.2 ?_, List.mem_map_of_mem hchunk⟩
  rw [OrdMap.get?_erase, if_neg hkey, hget]

theorem regions_perm (heap : Heap) (key : Nat) :
  heap.regions.Perm ((heap.fixedOf key).regions ++ heap.others key)
  := by
  have hperm : (heap.allocator.pool.toList.flatMap fun e => e.2.regions).Perm
      ((heap.fixedOf key).regions ++
        (heap.allocator.pool.erase key).toList.flatMap fun e => e.2.regions) := by
    rw [fixedOf]
    cases hget : heap.allocator.pool.get? key with
    | none => rw [OrdMap.erase_of_get?_eq_none hget]; rfl
    | some fixed => exact (OrdMap.toList_perm_of_get?_eq_some hget).flatMap_right _
  apply (hperm.append_left _).trans
  rw [others, ← List.append_assoc, ← List.append_assoc]
  apply List.Perm.append_right
  exact List.perm_append_comm

/-- The memory in use after the allocator of a size has changed. -/
theorem regions_insert_perm (hpool : heap'.allocator.pool = heap.allocator.pool.insert key fixed)
    (hmax : heap'.allocator.maxObjectSize = heap.allocator.maxObjectSize)
    (hlive : (heap'.live.filter fun block => heap.allocator.maxObjectSize < block.2).Perm
      (heap.live.filter fun block => heap.allocator.maxObjectSize < block.2)) :
  heap'.regions.Perm (fixed.regions ++ heap.others key)
  := by
  have hperm := (OrdMap.toList_insert_perm (m := heap.allocator.pool) key fixed).flatMap_right
    fun e => e.2.regions
  rw [← hpool] at hperm
  rw [regions, hmax]
  apply (hlive.append hperm).trans
  rw [List.flatMap_cons, others, ← List.append_assoc, ← List.append_assoc]
  apply List.Perm.append_right
  exact List.perm_append_comm

section

variable (h : heap.WellFormed)

include h

/-- A block in use is in the memory in use. -/
theorem WellFormed.exists_within (hblock : block ∈ heap.live) :
  ∃ r ∈ heap.regions, Within r block.1
  := by
  by_cases hbig : heap.allocator.maxObjectSize < block.2
  · refine ⟨block, ?_, le_rfl, ?_⟩
    · apply List.mem_append_left
      exact List.mem_filter.2 ⟨hblock, decide_eq_true hbig⟩
    · exact Nat.lt_add_of_pos_right (Nat.zero_lt_of_lt hbig)
  · obtain ⟨fixed, hget, chunk, hchunk, i, hi, heq⟩ := h.owned block hblock (not_lt.1 hbig)
    obtain ⟨hsize, htwo⟩ := h.size block.2 fixed hget
    refine ⟨chunk.region fixed.blockSize, region_mem_regions hget hchunk, ?_⟩
    rw [hsize, heq]
    exact Chunk.within_block (Nat.zero_lt_of_lt htwo) hi

theorem WellFormed.not_mem_addresses (hfresh : ∀ r' ∈ heap.regions, Apart r r')
    (hin : Within r address) :
  address ∉ heap.addresses
  := by
  intro hmem
  obtain ⟨block, hblock, rfl⟩ := List.mem_map.1 hmem
  obtain ⟨r', hr', hin'⟩ := h.exists_within hblock
  exact (hfresh r' hr').not_within hin hin'

/-! ### The allocator of a size changes -/

/-- The allocator of a size changes, and with it blocks of its chunks. -/
theorem WellFormed.update (hpool : heap'.allocator.pool = heap.allocator.pool.insert key fixed)
    (hmax : heap'.allocator.maxObjectSize = heap.allocator.maxObjectSize)
    (hlive : (heap'.live.filter fun block => heap.allocator.maxObjectSize < block.2).Perm
      (heap.live.filter fun block => heap.allocator.maxObjectSize < block.2))
    (hdistinct : heap'.addresses.Nodup) (hsize : fixed.blockSize = key) (htwo : 2 ≤ key)
    (hindexed : fixed.Indexed) (hlinked : ∀ chunk ∈ fixed.chunks, chunk.Linked key heap'.addresses)
    (hothers : ∀ r ∈ heap.others key, ∀ address, Within r address → (address ∈ heap'.addresses ↔
      address ∈ heap.addresses)) (hapart : (fixed.regions ++ heap.others key).Pairwise Apart)
    (howned : ∀ block ∈ heap'.live, block.2 ≤ heap.allocator.maxObjectSize → block.2 ≠ key ∧ block ∈
      heap.live ∨ block.2 = key ∧ ∃ chunk ∈ fixed.chunks, ∃ i < blocksPerChunk, block.1 =
      chunk.block key i) :
  heap'.WellFormed
  := by
  refine ⟨hdistinct, ?_, ?_, ?_, ?_, ?_⟩
  · intro key' fixed' hget
    rw [hpool, OrdMap.get?_insert] at hget
    split at hget
    · rename_i hkey
      cases hget
      rw [hkey]
      exact ⟨hsize, htwo⟩
    · exact h.size key' fixed' hget
  · intro key' fixed' hget
    rw [hpool, OrdMap.get?_insert] at hget
    split at hget
    · cases hget
      exact hindexed
    · exact h.indexed key' fixed' hget
  · intro key' fixed' hget chunk hchunk
    rw [hpool, OrdMap.get?_insert] at hget
    split at hget
    · rename_i hkey
      cases hget
      rw [hkey]
      exact hlinked chunk hchunk
    · rename_i hkey
      apply (h.linked key' fixed' hget chunk hchunk).congr
      intro i hi
      obtain ⟨hsize', htwo'⟩ := h.size key' fixed' hget
      have hregion := region_mem_others hget hkey hchunk
      rw [hsize'] at hregion
      exact hothers _ hregion _ (Chunk.within_block (Nat.zero_lt_of_lt htwo') hi)
  · exact ((regions_insert_perm hpool hmax hlive).pairwise_iff symm).2 hapart
  · intro block hblock hle
    rw [hmax] at hle
    rw [hpool]
    rcases howned block hblock hle with ⟨hkey, hold⟩ | ⟨hkey, hchunk⟩
    · rw [OrdMap.get?_insert, if_neg hkey]
      exact h.owned block hold hle
    · refine ⟨fixed, ?_, ?_⟩
      · rw [hkey, OrdMap.get?_insert_self]
      · rw [hkey]
        exact hchunk

theorem WellFormed.fixedOf_valid (key : Nat) :
  (heap.fixedOf key).blockSize = key ∧ (heap.fixedOf key).Indexed ∧
    ∀ chunk ∈ (heap.fixedOf key).chunks, chunk.Linked key heap.addresses
  := by
  rw [Heap.fixedOf]
  cases hget : heap.allocator.pool.get? key with
  | none =>
    refine ⟨rfl, ⟨.inl rfl, .inl rfl⟩, ?_⟩
    rintro chunk ⟨⟩
  | some fixed =>
    exact ⟨(h.size key fixed hget).1, h.indexed key fixed hget, h.linked key fixed hget⟩

theorem WellFormed.owned_fixedOf (hblock : block ∈ heap.live)
    (hle : block.2 ≤ heap.allocator.maxObjectSize) :
  ∃ chunk ∈ (heap.fixedOf block.2).chunks, ∃ i < blocksPerChunk,
    block.1 = chunk.block block.2 i
  := by
  obtain ⟨fixed, hget, hchunk⟩ := h.owned block hblock hle
  rw [Heap.fixedOf, hget]
  exact hchunk

/-- The allocator that was used last is one of the pool. -/
theorem WellFormed.fixedFor (last : Option Nat) (bytes : Nat) :
  heap.allocator.fixedFor last bytes = (bytes, heap.fixedOf bytes)
  := by
  rw [SmallObjectAllocator.fixedFor]
  split
  · rfl
  · rename_i key fixed hlast
    rw [Option.bind_eq_some_iff] at hlast
    obtain ⟨key', -, hget⟩ := hlast
    obtain ⟨fixed', hget, heq⟩ := Option.map_eq_some_iff.1 hget
    cases heq
    split
    · rename_i hsize
      rw [(h.size key fixed hget).1] at hsize
      rw [Heap.fixedOf, ← hsize, hget]
      rfl
    · rfl

/-! ### `allocate` -/

theorem WellFormed.malloc (hbig : heap.allocator.maxObjectSize < bytes)
    (hfresh : ∀ r ∈ heap.regions, Apart (data, bytes) r) :
  WellFormed { heap with live := (data, bytes) :: heap.live }
  := by
  have hwithin : Within (data, bytes) data :=
    ⟨le_rfl, Nat.lt_add_of_pos_right (Nat.zero_lt_of_lt hbig)⟩
  refine ⟨?_, h.size, h.indexed, ?_, ?_, ?_⟩
  · exact List.nodup_cons.2 ⟨h.not_mem_addresses hfresh hwithin, h.distinct⟩
  · intro key fixed hget chunk hchunk
    apply (h.linked key fixed hget chunk hchunk).congr
    intro i hi
    obtain ⟨hsize, htwo⟩ := h.size key fixed hget
    have hregion : chunk.region fixed.blockSize ∈ heap.regions := region_mem_regions hget hchunk
    rw [hsize] at hregion
    have hne : chunk.block key i ≠ data := by
      intro heq
      have hblock := @Chunk.within_block chunk key (Nat.zero_lt_of_lt htwo) i hi
      rw [heq] at hblock
      exact (hfresh _ hregion).not_within hwithin hblock
    change chunk.block key i ∈ data :: heap.addresses ↔ _
    rw [List.mem_cons, or_iff_right hne]
  · have hregions : regions { heap with live := (data, bytes) :: heap.live } =
        (data, bytes) :: heap.regions := by
      have hfilter :
          ((data, bytes) :: heap.live).filter (heap.allocator.maxObjectSize < ·.2) =
            (data, bytes) :: heap.live.filter (heap.allocator.maxObjectSize < ·.2) :=
        List.filter_cons_of_pos (decide_eq_true hbig)
      simp only [regions]
      rw [hfilter, List.cons_append]
    rw [hregions]
    exact List.pairwise_cons.2 ⟨hfresh, h.apart⟩
  · intro block hblock hle
    rcases List.mem_cons.1 hblock with rfl | hblock
    · exact absurd hbig (not_lt.2 hle)
    · exact h.owned block hblock hle

end

/-- A chunk among those of an allocator, with the memory of the others. -/
theorem regions_split_perm (hchunks : fixed.chunks.Perm (before ++ chunk :: after))
    (rest : List (Nat × Nat)) :
  (fixed.regions ++ rest).Perm
    (chunk.region fixed.blockSize ::
      ((before ++ after).map (fun chunk => chunk.region fixed.blockSize) ++ rest))
  := by
  have hperm := hchunks.trans List.perm_middle
  exact (hperm.map fun chunk => chunk.region fixed.blockSize).append_right rest

section

variable (h : heap.WellFormed)

include h

/-- A chunk of the allocator of a size, which may be new, gives a block. -/
theorem WellFormed.take (htwo : 2 ≤ bytes) (hsmall : bytes ≤ heap.allocator.maxObjectSize)
    (hlinked : ∀ chunk ∈ before ++ after, chunk.Linked bytes heap.addresses)
    (hchunk : chunk.Linked bytes heap.addresses)
    (hapart : List.Pairwise Apart (chunk.region bytes :: ((before ++ after).map (fun chunk =>
      chunk.region bytes) ++ heap.others bytes)))
    (hold : ∀ chunk' ∈ (heap.fixedOf bytes).chunks, chunk' ∈ before ++ chunk :: after)
    (havailable : chunk.blocksAvailable ≠ 0) (hsize : fixed.blockSize = bytes)
    (hindexed : fixed.Indexed) (hchunks : fixed.chunks = before ++ chunk.pop bytes :: after)
    (hpool : heap'.allocator.pool = heap.allocator.pool.insert bytes fixed)
    (hmax : heap'.allocator.maxObjectSize = heap.allocator.maxObjectSize)
    (hlive : heap'.live = (chunk.block bytes chunk.firstAvailableBlock.toNat, bytes) :: heap.live) :
  heap'.WellFormed
  := by
  have hpos : 0 < bytes := Nat.zero_lt_of_lt htwo
  obtain ⟨hfirst, hnew⟩ := hchunk.first havailable
  have hin : Within (chunk.region bytes) (chunk.block bytes chunk.firstAvailableBlock.toNat) :=
    Chunk.within_block hpos hfirst
  have hne : ∀ r ∈ (before ++ after).map (fun chunk => chunk.region bytes) ++ heap.others bytes,
      ∀ address, Within r address →
        address ≠ chunk.block bytes chunk.firstAvailableBlock.toNat := by
    rintro r hr address hwithin rfl
    exact ((List.pairwise_cons.1 hapart).1 r hr).not_within hin hwithin
  have haddresses : heap'.addresses =
      chunk.block bytes chunk.firstAvailableBlock.toNat :: heap.addresses := by
    rw [addresses, hlive]
    rfl
  apply h.update hpool hmax _ _ hsize htwo hindexed
  · intro chunk' hchunk'
    rw [haddresses]
    rw [hchunks, List.mem_append, List.mem_cons, or_left_comm] at hchunk'
    rcases hchunk' with rfl | hchunk'
    · exact hchunk.pop hpos havailable
    · have hmem := List.mem_append.2 hchunk'
      apply (hlinked chunk' hmem).congr
      intro i hi
      apply List.mem_cons.trans
      apply or_iff_right
      apply hne (chunk'.region bytes) _ _ (Chunk.within_block hpos hi)
      exact List.mem_append_left _ (List.mem_map_of_mem hmem)
  · intro r hr address hwithin
    rw [haddresses]
    apply List.mem_cons.trans
    apply or_iff_right
    exact hne r (List.mem_append_right _ hr) address hwithin
  · have hperm := regions_split_perm (.of_eq hchunks) (heap.others bytes)
    rw [hsize] at hperm
    exact (hperm.pairwise_iff symm).2 hapart
  · intro block hblock hle
    rw [hlive] at hblock
    rcases List.mem_cons.1 hblock with rfl | hblock
    · right
      refine ⟨rfl, chunk.pop bytes, ?_, chunk.firstAvailableBlock.toNat, hfirst, rfl⟩
      rw [hchunks]
      exact List.mem_append_right _ List.mem_cons_self
    · by_cases hbytes : block.2 = bytes
      · right
        refine ⟨hbytes, ?_⟩
        obtain ⟨chunk', hchunk', i, hi, heq⟩ := h.owned_fixedOf hblock hle
        rw [hbytes] at hchunk' heq
        have hmem := hold chunk' hchunk'
        rw [List.mem_append, List.mem_cons, or_left_comm] at hmem
        rw [hchunks]
        rcases hmem with hsame | hmem
        · rw [hsame] at heq
          exact ⟨chunk.pop bytes, List.mem_append_right _ List.mem_cons_self, i, hi, heq⟩
        · refine ⟨chunk', ?_, i, hi, heq⟩
          rw [List.mem_append, List.mem_cons]
          rcases hmem with hmem | hmem
          · exact .inl hmem
          · exact .inr (.inr hmem)
      · exact .inl ⟨hbytes, hblock⟩
  · have hfilter : ((chunk.block bytes chunk.firstAvailableBlock.toNat, bytes) ::
        heap.live).filter (heap.allocator.maxObjectSize < ·.2) =
        heap.live.filter (heap.allocator.maxObjectSize < ·.2) := by
      apply List.filter_cons_of_neg
      simpa using hsmall
    rw [hlive, hfilter]
  · rw [haddresses]
    exact List.nodup_cons.2 ⟨hnew, h.distinct⟩

theorem WellFormed.allocate {memory : Nat → UInt8}
    (hproper : heap.Proper (.allocate bytes data memory))
    (htwo : heap.AtLeastTwo (.allocate bytes data memory)) :
  ∃ heap', heap.apply (.allocate bytes data memory) = some heap' ∧ heap'.WellFormed
  := by
  by_cases hbig : heap.allocator.maxObjectSize < bytes
  · have hrequest : heap.request bytes = bytes := if_pos hbig
    rw [Proper, hrequest] at hproper
    refine ⟨_, ?_, h.malloc hbig hproper⟩
    rw [apply, SmallObjectAllocator.allocate, if_pos hbig]
    rfl
  · have hrequest : heap.request bytes = bytes * blocksPerChunk := if_neg hbig
    rw [Proper, hrequest] at hproper
    have hsmall := not_lt.1 hbig
    have htwo := htwo hsmall
    obtain ⟨hsize, hindexed, hlinked⟩ := h.fixedOf_valid bytes
    have hallocate := FixedAllocator.allocate_spec hindexed (by rw [hsize]; exact htwo) data memory
    rw [hsize] at hallocate
    obtain ⟨before, chunk, after, fixed, hchunks, havailable, heq, hsize', hchunks', hindexed'⟩ :=
      hallocate
    have hapart := ((regions_perm heap bytes).pairwise_iff symm).1 h.apart
    refine ⟨
      { allocator :=
          { heap.allocator with
            pool := heap.allocator.pool.insert bytes fixed
            lastAlloc := some bytes }
        live := (chunk.block bytes chunk.firstAvailableBlock.toNat, bytes) :: heap.live },
      ?_, ?_⟩
    · rw [apply, SmallObjectAllocator.allocate, if_neg hbig, h.fixedFor]
      simp only [heq, Option.map_some]
      rfl
    · rcases hchunks with hchunks | ⟨hchunks, rfl, rfl⟩
      · have hperm := regions_split_perm (.of_eq hchunks) (heap.others bytes)
        rw [hsize] at hperm
        rw [hchunks] at hlinked
        refine h.take htwo hsmall ?_ ?_ ((hperm.pairwise_iff symm).1 hapart) ?_ havailable hsize'
          hindexed' hchunks' rfl rfl rfl
        · intro chunk' hchunk'
          apply hlinked
          rw [List.mem_append, List.mem_cons, or_left_comm]
          exact .inr (List.mem_append.1 hchunk')
        · exact hlinked chunk (List.mem_append_right _ List.mem_cons_self)
        · rw [hchunks]
          exact fun chunk' hchunk' => hchunk'
      · have hfresh : ∀ r ∈ (heap.fixedOf bytes).regions ++ heap.others bytes,
            Apart (data, bytes * blocksPerChunk) r :=
          fun r hr => hproper r ((regions_perm heap bytes).mem_iff.2 hr)
        rw [FixedAllocator.regions, hchunks, hsize] at hapart hfresh
        refine h.take htwo hsmall ?_ ?_ ?_ ?_ havailable hsize' hindexed' hchunks' rfl rfl rfl
        · rw [List.append_nil, ← hchunks]
          exact hlinked
        · apply Chunk.linked_init memory (Nat.zero_lt_of_lt htwo)
          intro i hi
          apply h.not_mem_addresses hproper
          exact @Chunk.within_block (Chunk.init bytes blocksPerChunk data memory) bytes
            (Nat.zero_lt_of_lt htwo) i hi
        · rw [List.append_nil]
          exact List.pairwise_cons.2 ⟨hfresh, hapart⟩
        · rw [hchunks]
          exact fun chunk' hchunk' => List.mem_append_left _ hchunk'

/-! ### `deallocate` -/

/-- The addresses that are left when a block is given back. -/
theorem WellFormed.mem_erase (hblock : block ∈ heap.live) (address : Nat) :
  address ∈ (heap.live.erase block).map Prod.fst ↔ address ∈ heap.addresses ∧ address ≠ block.1
  := by
  have hperm := (List.perm_cons_erase hblock).map Prod.fst
  have hnodup := hperm.nodup_iff.1 h.distinct
  rw [List.map_cons, List.nodup_cons] at hnodup
  rw [addresses, hperm.mem_iff, List.map_cons, List.mem_cons]
  constructor
  · intro haddress
    refine ⟨.inr haddress, ?_⟩
    rintro rfl
    exact hnodup.1 haddress
  · rintro ⟨rfl | haddress, hne⟩
    · exact absurd rfl hne
    · exact haddress

theorem WellFormed.nodup_erase (block : Nat × Nat) :
  ((heap.live.erase block).map Prod.fst).Nodup
  := h.distinct.sublist (List.erase_sublist.map Prod.fst)

theorem WellFormed.free {p : Nat} (hbig : heap.allocator.maxObjectSize < bytes)
    (hlive : (p, bytes) ∈ heap.live) :
  WellFormed { heap with live := heap.live.erase (p, bytes) }
  := by
  have hwithin : Within (p, bytes) p :=
    ⟨le_rfl, Nat.lt_add_of_pos_right (Nat.zero_lt_of_lt hbig)⟩
  have hfilter : (heap.live.filter (heap.allocator.maxObjectSize < ·.2)).Perm
      ((p, bytes) :: (heap.live.erase (p, bytes)).filter
        (heap.allocator.maxObjectSize < ·.2)) := by
    have hperm := (List.perm_cons_erase hlive).filter (heap.allocator.maxObjectSize < ·.2)
    have hcons : ((p, bytes) :: heap.live.erase (p, bytes)).filter
        (heap.allocator.maxObjectSize < ·.2) = (p, bytes) ::
          (heap.live.erase (p, bytes)).filter (heap.allocator.maxObjectSize < ·.2) :=
      List.filter_cons_of_pos (decide_eq_true hbig)
    rw [hcons] at hperm
    exact hperm
  have hregions : heap.regions.Perm
      ((p, bytes) :: regions { heap with live := heap.live.erase (p, bytes) }) :=
    hfilter.append_right _
  have hapart := List.pairwise_cons.1 ((hregions.pairwise_iff symm).1 h.apart)
  refine ⟨h.nodup_erase _, h.size, h.indexed, ?_, hapart.2, ?_⟩
  · intro key fixed hget chunk hchunk
    apply (h.linked key fixed hget chunk hchunk).congr
    intro i hi
    obtain ⟨hsize, htwo⟩ := h.size key fixed hget
    have hregion : chunk.region fixed.blockSize ∈
        regions { heap with live := heap.live.erase (p, bytes) } := region_mem_regions hget hchunk
    rw [hsize] at hregion
    apply (h.mem_erase hlive _).trans
    apply and_iff_left
    rintro heq
    have hblock := @Chunk.within_block chunk key (Nat.zero_lt_of_lt htwo) i hi
    rw [heq] at hblock
    exact (hapart.1 _ hregion).not_within hwithin hblock
  · intro block hblock hle
    exact h.owned block (List.mem_of_mem_erase hblock) hle

theorem WellFormed.giveBack {i : Nat} (htwo : 2 ≤ bytes)
    (hsmall : bytes ≤ heap.allocator.maxObjectSize)
    (hold : (heap.fixedOf bytes).chunks = before ++ chunk :: after) (hi : i < blocksPerChunk)
    (hblock : (chunk.block bytes i, bytes) ∈ heap.live) (hsize : fixed.blockSize = bytes)
    (hindexed : fixed.Indexed)
    (hchunks : fixed.chunks.Perm (before ++ chunk.push (i * bytes) (UInt8.ofNat i) :: after) ∨
      fixed.chunks.Perm (before ++ after) ∧ (chunk.push (i * bytes) (UInt8.ofNat
      i)).blocksAvailable.toNat = blocksPerChunk)
    (hpool : heap'.allocator.pool = heap.allocator.pool.insert bytes fixed)
    (hmax : heap'.allocator.maxObjectSize = heap.allocator.maxObjectSize)
    (hlive : heap'.live = heap.live.erase (chunk.block bytes i, bytes)) :
  heap'.WellFormed
  := by
  have hpos : 0 < bytes := Nat.zero_lt_of_lt htwo
  obtain ⟨hsizeOf, -, hlinked⟩ := h.fixedOf_valid bytes
  rw [hold] at hlinked
  have hapart := ((regions_perm heap bytes).pairwise_iff symm).1 h.apart
  rw [(regions_split_perm (.of_eq hold) (heap.others bytes)).pairwise_iff symm, hsizeOf,
    List.pairwise_cons] at hapart
  have hmem : ∀ address, address ∈ heap'.addresses ↔
      address ∈ heap.addresses ∧ address ≠ chunk.block bytes i := by
    intro address
    rw [addresses, hlive]
    exact h.mem_erase hblock address
  have hin : Within (chunk.region bytes) (chunk.block bytes i) := Chunk.within_block hpos hi
  have hpush := (hlinked chunk (List.mem_append_right _ List.mem_cons_self)).push hpos hi
    (List.mem_map_of_mem hblock) hmem
  have hkept : ∀ r ∈ (before ++ after).map (fun chunk => chunk.region bytes) ++ heap.others bytes,
      ∀ address, Within r address →
        (address ∈ heap'.addresses ↔ address ∈ heap.addresses) := by
    intro r hr address hwithin
    rw [hmem]
    apply and_iff_left
    rintro rfl
    exact (hapart.1 r hr).not_within hin hwithin
  have hrest : ∀ chunk' ∈ before ++ after, chunk'.Linked bytes heap'.addresses := by
    intro chunk' hchunk'
    have hlinked' : chunk'.Linked bytes heap.addresses := by
      apply hlinked
      rw [List.mem_append, List.mem_cons, or_left_comm]
      exact .inr (List.mem_append.1 hchunk')
    apply hlinked'.congr
    intro j hj
    apply hkept (chunk'.region bytes) _ _ (Chunk.within_block hpos hj)
    exact List.mem_append_left _ (List.mem_map_of_mem hchunk')
  apply h.update hpool hmax _ _ hsize htwo hindexed
  · intro chunk' hchunk'
    rcases hchunks with hperm | ⟨hperm, -⟩
    · rw [hperm.mem_iff, List.mem_append, List.mem_cons, or_left_comm, ← List.mem_append] at hchunk'
      rcases hchunk' with rfl | hchunk'
      · exact hpush
      · exact hrest chunk' hchunk'
    · exact hrest chunk' (hperm.mem_iff.1 hchunk')
  · intro r hr address hwithin
    exact hkept r (List.mem_append_right _ hr) address hwithin
  · rcases hchunks with hperm | ⟨hperm, -⟩
    · rw [(regions_split_perm hperm (heap.others bytes)).pairwise_iff symm, hsize]
      exact List.pairwise_cons.2 hapart
    · have hregions := (hperm.map fun chunk => chunk.region fixed.blockSize).append_right
        (heap.others bytes)
      rw [hsize] at hregions
      rw [FixedAllocator.regions, hsize, hregions.pairwise_iff symm]
      exact hapart.2
  · intro block hblock' hle
    have haddress : block.1 ∈ heap'.addresses := List.mem_map_of_mem hblock'
    rw [hlive] at hblock'
    have hmem' := List.mem_of_mem_erase hblock'
    by_cases hbytes : block.2 = bytes
    · right
      refine ⟨hbytes, ?_⟩
      obtain ⟨chunk', hchunk', j, hj, heq⟩ := h.owned_fixedOf hmem' hle
      rw [hbytes, hold, List.mem_append, List.mem_cons, or_left_comm, ← List.mem_append]
        at hchunk'
      rw [hbytes] at heq
      rcases hchunks with hperm | ⟨hperm, hall⟩
      · rcases hchunk' with rfl | hchunk'
        · refine ⟨chunk'.push (i * bytes) (UInt8.ofNat i), ?_, j, hj, heq⟩
          rw [hperm.mem_iff]
          exact List.mem_append_right _ List.mem_cons_self
        · refine ⟨chunk', ?_, j, hj, heq⟩
          rw [hperm.mem_iff, List.mem_append, List.mem_cons, or_left_comm, ← List.mem_append]
          exact .inr hchunk'
      · rcases hchunk' with rfl | hchunk'
        · rw [heq] at haddress
          exact absurd haddress (hpush.not_mem_of_all hall hj)
        · exact ⟨chunk', hperm.mem_iff.2 hchunk', j, hj, heq⟩
    · exact .inl ⟨hbytes, hmem'⟩
  · have hperm := (List.perm_cons_erase hblock).filter (heap.allocator.maxObjectSize < ·.2)
    have hcons : ((chunk.block bytes i, bytes) ::
        heap.live.erase (chunk.block bytes i, bytes)).filter
          (heap.allocator.maxObjectSize < ·.2) =
          (heap.live.erase (chunk.block bytes i, bytes)).filter
            (heap.allocator.maxObjectSize < ·.2) := by
      apply List.filter_cons_of_neg
      simpa using hsmall
    rw [hcons] at hperm
    rw [hlive]
    exact hperm.symm
  · rw [addresses, hlive]
    exact h.nodup_erase _

/-- A block in use is given back with its size. -/
theorem WellFormed.deallocate {p : Nat} (hproper : heap.Proper (.deallocate p bytes)) :
  ∃ heap', heap.apply (.deallocate p bytes) = some heap' ∧ heap'.WellFormed
  := by
  have hlive : (p, bytes) ∈ heap.live := hproper
  by_cases hbig : heap.allocator.maxObjectSize < bytes
  · refine ⟨_, ?_, h.free hbig hlive⟩
    rw [apply, SmallObjectAllocator.deallocate, if_pos hbig]
    rfl
  · have hsmall := not_lt.1 hbig
    obtain ⟨hsize, hindexed, -⟩ := h.fixedOf_valid bytes
    obtain ⟨owner, howner, i, hi, hp⟩ := h.owned_fixedOf hlive hsmall
    have htwo : 2 ≤ bytes := by
      obtain ⟨fixed, hget, -⟩ := h.owned (p, bytes) hlive hsmall
      exact (h.size bytes fixed hget).2
    have hpos : 0 < bytes := Nat.zero_lt_of_lt htwo
    have hin : Within (owner.region bytes) p := by
      change p = owner.block bytes i at hp
      rw [hp]
      exact Chunk.within_block hpos hi
    have hregion : ∀ chunk ∈ (heap.fixedOf bytes).chunks, chunk.region bytes ∈ heap.regions := by
      intro chunk hchunk
      rw [(regions_perm heap bytes).mem_iff, FixedAllocator.regions, hsize]
      exact List.mem_append_left _ (List.mem_map_of_mem hchunk)
    have hblock : ∀ chunk ∈ (heap.fixedOf bytes).chunks, chunk.owns bytes p →
        ∃ i < blocksPerChunk, p = chunk.block bytes i := by
      intro chunk hchunk howns
      have heq := eq_of_within h.apart (hregion chunk hchunk) (hregion owner howner)
        ((Chunk.owns_iff hpos).1 howns) hin
      refine ⟨i, hi, ?_⟩
      rw [Chunk.block, (Prod.mk.inj heq).1]
      exact hp
    have hdeallocate := FixedAllocator.deallocate_spec hindexed (by rw [hsize]; exact hpos)
      (by rw [hsize]; exact ⟨owner, howner, (Chunk.owns_iff hpos).2 hin⟩)
      (by rw [hsize]; exact hblock)
    rw [hsize] at hdeallocate
    obtain ⟨before, chunk, after, j, fixed, hchunks, hj, rfl, heq, hsize', hchunks', hindexed'⟩ :=
      hdeallocate
    refine ⟨
      { allocator :=
          { heap.allocator with
            pool := heap.allocator.pool.insert bytes fixed
            lastDealloc := some bytes }
        live := heap.live.erase (chunk.block bytes j, bytes) },
      ?_, h.giveBack htwo hsmall hchunks hj hlive hsize' hindexed' hchunks' rfl rfl rfl⟩
    rw [apply, SmallObjectAllocator.deallocate, if_neg hbig, h.fixedFor]
    simp only [heq, Option.map_some]

end

/-! ### Bytes that the program writes -/

@[simp]
theorem write_data (chunk : Chunk) (blockSize address : Nat) (byte : UInt8) :
  (chunk.write blockSize address byte).data = chunk.data
  := by
  rw [Chunk.write]
  split <;> rfl

theorem block_write (chunk : Chunk) (blockSize address i : Nat) (byte : UInt8) :
  (chunk.write blockSize address byte).block blockSize i = chunk.block blockSize i
  := by
  rw [Chunk.block, write_data, Chunk.block]

theorem regions_write (fixed : FixedAllocator) (address : Nat) (byte : UInt8) :
  (fixed.write address byte).regions = fixed.regions
  := by
  rw [FixedAllocator.regions, FixedAllocator.write, List.map_map]
  apply List.map_congr_left
  intro chunk _
  change ((chunk.write fixed.blockSize address byte).data, _) = _
  rw [write_data]
  rfl

theorem get?_write {heap : Heap} :
  (heap.allocator.write address byte).pool.get? key = some fixed ↔
    ∃ fixed', heap.allocator.pool.get? key = some fixed' ∧ fixed'.write address byte = fixed
  := by
  rw [SmallObjectAllocator.write, OrdMap.get?_map, Option.map_eq_some_iff]

theorem WellFormed.block_mem_addresses (h : heap.WellFormed)
    (hproper : ∃ block ∈ heap.live, Within block address)
    (hget : heap.allocator.pool.get? key = some fixed) (hchunk : chunk ∈ fixed.chunks)
    (hin : Within (chunk.region key) address) :
  chunk.block key ((address - chunk.data) / key) ∈ heap.addresses
  := by
  obtain ⟨block, hblock, hwithin⟩ := hproper
  obtain ⟨hsize, htwo⟩ := h.size key fixed hget
  by_cases hbig : heap.allocator.maxObjectSize < block.2
  · have hmem : chunk.region fixed.blockSize ∈
        heap.allocator.pool.toList.flatMap fun e => e.2.regions :=
      List.mem_flatMap.2 ⟨(key, fixed), OrdMap.mem_toList.2 hget, List.mem_map_of_mem hchunk⟩
    rw [hsize] at hmem
    have happart := (List.pairwise_append.1 h.apart).2.2 block
      (List.mem_filter.2 ⟨hblock, decide_eq_true hbig⟩) _ hmem
    exact absurd hin (happart.not_within hwithin)
  · obtain ⟨fixed', hget', owner, howner, i, hi, heq⟩ := h.owned block hblock (not_lt.1 hbig)
    obtain ⟨hsize', htwo'⟩ := h.size block.2 fixed' hget'
    have hregion := region_mem_regions hget hchunk
    have hregion' := region_mem_regions hget' howner
    rw [hsize] at hregion
    rw [hsize'] at hregion'
    have hpos : 0 < block.2 := Nat.zero_lt_of_lt htwo'
    have hfirst := @Chunk.within_block owner block.2 hpos i hi
    have hlast : i * block.2 + block.2 ≤ block.2 * blocksPerChunk := by
      rw [← Nat.succ_mul, Nat.mul_comm]
      exact Nat.mul_le_mul_left _ hi
    rw [Within, heq, Chunk.block] at hwithin
    have hin' : Within (owner.region block.2) address := by
      refine ⟨(Nat.le_add_right _ _).trans hwithin.1, hwithin.2.trans_le ?_⟩
      rw [Nat.add_assoc]
      exact Nat.add_le_add_left hlast _
    have hsame := eq_of_within h.apart hregion hregion' hin hin'
    obtain ⟨hdata, hkey⟩ := Prod.mk.inj hsame
    have hkey : key = block.2 := Nat.eq_of_mul_eq_mul_right (by decide) hkey
    have hindex : (address - chunk.data) / key = i := by
      rw [hdata, hkey]
      apply Nat.div_eq_of_lt_le
      · omega
      · rw [Nat.succ_mul]
        omega
    rw [hindex, Chunk.block, hdata, hkey]
    rw [Chunk.block] at heq
    rw [← heq]
    exact List.mem_map_of_mem hblock

theorem WellFormed.write (h : heap.WellFormed) (hproper : heap.Proper (.write address byte)) :
  WellFormed { heap with allocator := heap.allocator.write address byte }
  := by
  refine ⟨h.distinct, ?_, ?_, ?_, ?_, ?_⟩
  · intro key fixed hwrite
    obtain ⟨fixed, hget, rfl⟩ := get?_write.1 hwrite
    exact h.size key fixed hget
  · intro key fixed hwrite
    obtain ⟨fixed, hget, rfl⟩ := get?_write.1 hwrite
    have hlength : (fixed.write address byte).chunks.length = fixed.chunks.length :=
      List.length_map _
    have hindexed := h.indexed key fixed hget
    exact ⟨FixedAllocator.validIndex_of_length_eq hindexed.alloc hlength,
      FixedAllocator.validIndex_of_length_eq hindexed.dealloc hlength⟩
  · intro key fixed hwrite chunk hmem
    obtain ⟨fixed, hget, rfl⟩ := get?_write.1 hwrite
    obtain ⟨chunk, hchunk, rfl⟩ := List.mem_map.1 hmem
    obtain ⟨hsize, htwo⟩ := h.size key fixed hget
    rw [hsize]
    apply (h.linked key fixed hget chunk hchunk).write (Nat.zero_lt_of_lt htwo)
    intro hle hlt
    exact h.block_mem_addresses hproper hget hchunk ⟨hle, hlt⟩
  · have hregions : regions { heap with allocator := heap.allocator.write address byte } =
        heap.regions := by
      simp only [regions, SmallObjectAllocator.write, OrdMap.map, List.flatMap_map, regions_write]
      rfl
    rw [hregions]
    exact h.apart
  · intro block hblock hle
    obtain ⟨fixed, hget, chunk, hchunk, i, hi, heq⟩ := h.owned block hblock hle
    refine ⟨fixed.write address byte, get?_write.2 ⟨fixed, hget, rfl⟩,
      chunk.write fixed.blockSize address byte, List.mem_map_of_mem hchunk, i, hi, ?_⟩
    rw [(h.size block.2 fixed hget).1, block_write]
    exact heq

/-! ### Runs -/

/-- A condition on the inputs, unless an assertion has failed. -/
def OnHeap (C : Heap → Input → Prop) : Option Heap → Input → Prop
  | none, _ => True
  | some heap, input => C heap input

instance decidableOnHeap (C : Heap → Input → Prop) [∀ heap input, Decidable (C heap input)] :
    ∀ heap input, Decidable (OnHeap C heap input)
  | none, _ => .isTrue trivial
  | some heap, input => inferInstanceAs (Decidable (C heap input))

theorem WellFormed.next (h : heap.WellFormed) {input : Input} (hproper : heap.Proper input)
    (htwo : heap.AtLeastTwo input) :
  ∃ heap', heap.apply input = some heap' ∧ heap'.WellFormed
  := by
  cases input with
  | allocate bytes data memory => exact h.allocate hproper htwo
  | deallocate p bytes => exact h.deallocate hproper
  | write address byte => exact ⟨_, rfl, h.write hproper⟩

/-- In a run of proper calls that take blocks of at least two bytes from the pool, no assertion
fails, and the blocks in use and the free lists stay sound. -/
theorem exists_sound_run (maxObjectSize : Nat) (h : maxObjectSize < 2 ^ 31) {inputs : List Input}
    (hproper : machine.Along (OnHeap Proper) (some (new maxObjectSize h)) inputs)
    (htwo : machine.Along (OnHeap AtLeastTwo) (some (new maxObjectSize h)) inputs) :
  ∃ heap, machine.run (some (new maxObjectSize h)) inputs = some heap ∧ heap.Sound
  := by
  have hrun := Machine.run_of_step (m := machine)
    (C := fun heap input => OnHeap Proper heap input ∧ OnHeap AtLeastTwo heap input)
    (P := fun heap => ∃ heap', heap = some heap' ∧ heap'.WellFormed)
    (by
      rintro _ input ⟨heap, rfl, hheap⟩ ⟨hinput, hsize⟩
      exact hheap.next hinput hsize)
    ⟨_, rfl, wellFormed_new maxObjectSize h⟩ (hproper.and htwo)
  obtain ⟨heap, heq, hheap⟩ := hrun
  exact ⟨heap, heq, hheap.sound⟩

/-- Two objects of one size and one of another are in use, and the first is given back and its block
taken again, before the others are given back. -/
theorem exists_sound_run_threeObjects :
  ∃ heap, machine.run (some (new maxSmallObjectSize (by decide)))
    [.allocate 8 4096 fun _ => 0, .allocate 8 0 fun _ => 0, .allocate 16 8192 fun _ => 0,
      .write 4104 1, .deallocate 4096 8, .allocate 8 0 fun _ => 0, .deallocate 8192 16,
      .deallocate 4104 8] = some heap ∧ heap.Sound
  := by
  apply exists_sound_run
  · decide +kernel
  · decide +kernel

/-- A block of one byte. -/
theorem not_sound_oneByte :
  ¬∀ (maxObjectSize : Nat) (h : maxObjectSize < 2 ^ 31) (inputs : List Input),
    machine.Along (OnHeap Proper) (some (new maxObjectSize h)) inputs →
      ∃ heap, machine.run (some (new maxObjectSize h)) inputs = some heap ∧ heap.Sound
  := by
  intro h
  have hproper : machine.Along (OnHeap Proper) (some (new maxSmallObjectSize (by decide)))
      [.allocate 1 4096 fun _ => 0] := by
    decide
  obtain ⟨heap, hrun, -⟩ := h maxSmallObjectSize (by decide) _ hproper
  have hnone : machine.run (some (new maxSmallObjectSize (by decide)))
      [.allocate 1 4096 fun _ => 0] = none := rfl
  rw [hnone] at hrun
  cases hrun

end Heap

end RsMemoryManagement
