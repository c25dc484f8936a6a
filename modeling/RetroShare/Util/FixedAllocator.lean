import RetroShare.Util.Chunks

/-!
# Fixed allocators

What `FixedAllocator::allocate` and `FixedAllocator::deallocate` do to the chunks, and that the
indices of the chunks that are used first stay valid.
-/

namespace RsMemoryManagement

namespace FixedAllocator

variable {allocator : FixedAllocator} {α : Type} {before after : List Chunk} {chunk : Chunk}

/-- An index is `-1`, or that of a chunk. -/
def ValidIndex (allocator : FixedAllocator) (i : Int) : Prop :=
  i = -1 ∨ ∃ n : Nat, i = n ∧ n < allocator.chunks.length

/-- The indices of the chunks that are used first are valid. -/
structure Indexed (allocator : FixedAllocator) : Prop where
  alloc : allocator.ValidIndex allocator.allocChunk
  dealloc : allocator.ValidIndex allocator.deallocChunk

theorem validIndex_of_length_eq {allocator' : FixedAllocator} {i : Int}
    (h : allocator.ValidIndex i) (hlength : allocator'.chunks.length = allocator.chunks.length) :
  allocator'.ValidIndex i
  := by
  rw [ValidIndex, hlength]
  exact h

theorem chunkAt_natCast (n : Nat) :
  allocator.chunkAt n = allocator.chunks[n]?
  := by
  rw [chunkAt, if_neg (by omega), Int.toNat_natCast]

theorem exists_eq_append_of_getElem? {l : List α} {n : Nat} {a : α} (h : l[n]? = some a) :
  ∃ before after, l = before ++ a :: after ∧ before.length = n
  := by
  obtain ⟨hn, rfl⟩ := List.getElem?_eq_some_iff.1 h
  refine ⟨l.take n, l.drop (n + 1), ?_, ?_⟩
  · rw [← List.drop_eq_getElem_cons, List.take_append_drop]
  · rw [List.length_take, min_eq_left hn.le]

/-! ### Searching a chunk -/

theorem search_cases (allocator : FixedAllocator) (q : Chunk → Bool) :
  (∃ (n : Nat) (chunk : Chunk), allocator.search q = n ∧ allocator.chunks[n]? = some chunk ∧
      q chunk) ∨
    allocator.search q = -1 ∧ ∀ chunk ∈ allocator.chunks, ¬q chunk
  := by
  rw [search]
  cases hfind : allocator.chunks.findIdx? q with
  | none =>
    right
    refine ⟨rfl, ?_⟩
    intro chunk hchunk
    simpa using List.findIdx?_eq_none_iff.1 hfind chunk hchunk
  | some n =>
    left
    obtain ⟨hn, hq, -⟩ := List.findIdx?_eq_some_iff_getElem.1 hfind
    exact ⟨n, allocator.chunks[n], rfl, List.getElem?_eq_getElem hn, hq⟩

/-- From a valid index, a chunk that satisfies `q` is found if there is one. -/
theorem cached_cases {i : Int} (hi : allocator.ValidIndex i) (q : Chunk → Bool) :
  (∃ (n : Nat) (chunk : Chunk), allocator.cached i q = some (n : Int) ∧
      allocator.chunks[n]? = some chunk ∧ q chunk) ∨
    allocator.cached i q = some (-1) ∧ ∀ chunk ∈ allocator.chunks, ¬q chunk
  := by
  have hsearch : allocator.cached i q = some (allocator.search q) →
      (∃ (n : Nat) (chunk : Chunk), allocator.cached i q = some (n : Int) ∧
          allocator.chunks[n]? = some chunk ∧ q chunk) ∨
        allocator.cached i q = some (-1) ∧ ∀ chunk ∈ allocator.chunks, ¬q chunk := by
    intro heq
    rw [heq]
    rcases allocator.search_cases q with ⟨n, chunk, hn, hget, hq⟩ | ⟨hnone, hall⟩
    · exact .inl ⟨n, chunk, by rw [hn], hget, hq⟩
    · exact .inr ⟨by rw [hnone], hall⟩
  rcases hi with rfl | ⟨n, rfl, hn⟩
  · exact hsearch rfl
  · have hget := List.getElem?_eq_getElem hn
    have hcached : allocator.cached n q =
        some (if q allocator.chunks[n] then (n : Int) else allocator.search q) := by
      rw [cached, if_neg (by omega), chunkAt_natCast, hget, Option.map_some]
    by_cases hq : q allocator.chunks[n]
    · rw [if_pos hq] at hcached
      exact .inl ⟨n, allocator.chunks[n], hcached, hget, hq⟩
    · rw [if_neg hq] at hcached
      exact hsearch hcached

/-! ### `allocate` -/

/-- A chunk that may be a new one gives its first block. -/
theorem allocate_spec (h : allocator.Indexed) (hsize : 2 ≤ allocator.blockSize) (data : Nat)
    (memory : Nat → UInt8) :
  ∃ before chunk after allocator',
    (allocator.chunks = before ++ chunk :: after ∨
      allocator.chunks = before ∧ after = [] ∧
        chunk = Chunk.init allocator.blockSize blocksPerChunk data memory) ∧
    chunk.blocksAvailable ≠ 0 ∧
    allocator.allocate data memory = some (allocator',
      some (chunk.block allocator.blockSize chunk.firstAvailableBlock.toNat)) ∧
    allocator'.blockSize = allocator.blockSize ∧
    allocator'.chunks = before ++ chunk.pop allocator.blockSize :: after ∧ allocator'.Indexed
  := by
  rcases cached_cases h.alloc fun chunk => chunk.blocksAvailable ≠ 0 with
    ⟨n, chunk, hcached, hget, hq⟩ | ⟨hcached, -⟩
  · have havailable : chunk.blocksAvailable ≠ 0 := of_decide_eq_true hq
    obtain ⟨before, after, hchunks, rfl⟩ := exists_eq_append_of_getElem? hget
    have hspace : allocator.withSpace data memory =
        some { allocator with allocChunk := before.length } := by
      rw [withSpace, hcached, Option.map_some, if_neg (by omega)]
    refine ⟨before, chunk, after,
      { allocator with
        chunks := before ++ chunk.pop allocator.blockSize :: after
        allocChunk := before.length },
      .inl hchunks, havailable, ?_, rfl, rfl, ?_, ?_⟩
    · simp only [allocate, hspace, Option.bind_eq_bind, Option.bind_some]
      rw [chunkAt_natCast, hget, Option.bind_some, if_neg havailable,
        Chunk.allocate_eq hsize havailable, Option.bind_some]
      simp [hchunks]
    · right
      exact ⟨before.length, rfl, by simp⟩
    · apply validIndex_of_length_eq h.dealloc
      simp [hchunks]
  · have havailable : (Chunk.init allocator.blockSize blocksPerChunk data memory).blocksAvailable ≠
        0 := by
      change UInt8.ofNat blocksPerChunk ≠ 0
      decide
    have hspace : allocator.withSpace data memory =
        some
          { allocator with
            chunks :=
              allocator.chunks ++ [Chunk.init allocator.blockSize blocksPerChunk data memory]
            allocChunk := allocator.chunks.length
            deallocChunk := allocator.chunks.length } := by
      rw [withSpace, hcached, Option.map_some, if_pos (by omega)]
    refine ⟨allocator.chunks, Chunk.init allocator.blockSize blocksPerChunk data memory, [],
      { allocator with
        chunks := allocator.chunks ++
          [(Chunk.init allocator.blockSize blocksPerChunk data memory).pop allocator.blockSize]
        allocChunk := allocator.chunks.length
        deallocChunk := allocator.chunks.length },
      .inr ⟨rfl, rfl, rfl⟩, havailable, ?_, rfl, rfl, ?_, ?_⟩
    · have hget : (allocator.chunks ++
          [Chunk.init allocator.blockSize blocksPerChunk data memory])[allocator.chunks.length]? =
          some (Chunk.init allocator.blockSize blocksPerChunk data memory) := by
        rw [List.getElem?_append_right le_rfl, Nat.sub_self]
        rfl
      simp only [allocate, hspace, Option.bind_eq_bind, Option.bind_some]
      rw [chunkAt_natCast, hget, Option.bind_some, if_neg havailable,
        Chunk.allocate_eq hsize havailable, Option.bind_some]
      simp
    · right
      exact ⟨allocator.chunks.length, rfl, by simp⟩
    · right
      exact ⟨allocator.chunks.length, rfl, by simp⟩

/-! ### `deallocate` -/

theorem dropLast_set_perm {before after : List α} {a last : α}
    (h : (before ++ a :: after).getLast? = some last) :
  ((before ++ a :: after).set before.length last).dropLast.Perm (before ++ after)
  := by
  rcases List.eq_nil_or_concat after with rfl | ⟨init, last', rfl⟩
  · simp
  · have hlast : last' = last := by
      rw [List.concat_eq_append, ← List.cons_append, ← List.append_assoc,
        List.getLast?_concat] at h
      exact Option.some.inj h
    have hset : (before ++ a :: init.concat last').set before.length last =
        (before ++ last :: init) ++ [last] := by
      simp [hlast]
    rw [hset, List.dropLast_concat, List.concat_eq_append, hlast]
    apply List.Perm.append_left
    exact (List.perm_append_singleton last init).symm

theorem removeChunk_chunks_perm (h : allocator.chunks = before ++ chunk :: after) :
  (allocator.removeChunk before.length).chunks.Perm (before ++ after)
  := by
  have hsome : (before ++ chunk :: after).getLast?.isSome := by simp
  obtain ⟨last, hlast⟩ := Option.isSome_iff_exists.1 hsome
  rw [removeChunk, h, hlast]
  exact dropLast_set_perm hlast

theorem removeChunk_indexed (h : allocator.chunks = before ++ chunk :: after)
    (halloc : allocator.ValidIndex allocator.allocChunk) :
  (allocator.removeChunk before.length).Indexed
  := by
  have hlength := (removeChunk_chunks_perm h).length_eq
  have hold : allocator.chunks.length = before.length + after.length + 1 := by
    rw [h, List.length_append, List.length_cons]
    rfl
  rw [List.length_append] at hlength
  refine ⟨?_, .inl rfl⟩
  rw [ValidIndex, hlength]
  simp only [removeChunk, hold]
  rcases halloc with halloc | ⟨n, halloc, hn⟩
  · rw [halloc, if_neg (by omega), if_neg (by omega)]
    exact .inl rfl
  · rw [halloc]
    rw [hold] at hn
    by_cases hsame : (n : Int) = before.length
    · rw [if_pos hsame, if_neg (by omega)]
      exact .inl rfl
    · rw [if_neg hsame]
      by_cases hlast : (n : Int) = ((before.length + after.length + 1 : Nat) : Int) - 1
      · rw [if_pos hlast]
        exact .inr ⟨before.length, rfl, by omega⟩
      · rw [if_neg hlast]
        exact .inr ⟨n, rfl, by omega⟩

/-- A chunk that owns the pointer takes its block back, and is removed when no block of it is in
use. -/
theorem deallocate_spec (h : allocator.Indexed) (hsize : 0 < allocator.blockSize) {p : Nat}
    (howner : ∃ chunk ∈ allocator.chunks, chunk.owns allocator.blockSize p)
    (hblock : ∀ chunk ∈ allocator.chunks, chunk.owns allocator.blockSize p →
      ∃ i < blocksPerChunk, p = chunk.block allocator.blockSize i) :
  ∃ before chunk after i allocator',
    allocator.chunks = before ++ chunk :: after ∧ i < blocksPerChunk ∧
    p = chunk.block allocator.blockSize i ∧ allocator.deallocate p = some allocator' ∧
    allocator'.blockSize = allocator.blockSize ∧
    (allocator'.chunks.Perm
        (before ++ chunk.push (i * allocator.blockSize) (UInt8.ofNat i) :: after) ∨
      allocator'.chunks.Perm (before ++ after) ∧
        (chunk.push (i * allocator.blockSize) (UInt8.ofNat i)).blocksAvailable.toNat =
          blocksPerChunk) ∧
    allocator'.Indexed
  := by
  rcases cached_cases h.dealloc fun chunk => chunk.owns allocator.blockSize p with
    ⟨n, chunk, hcached, hget, howns⟩ | ⟨-, hnone⟩
  · obtain ⟨i, hi, hp⟩ := hblock chunk (List.mem_of_getElem? hget) howns
    obtain ⟨before, after, hchunks, rfl⟩ := exists_eq_append_of_getElem? hget
    have hset : allocator.chunks.set before.length
        (chunk.push (i * allocator.blockSize) (UInt8.ofNat i)) =
        before ++ chunk.push (i * allocator.blockSize) (UInt8.ofNat i) :: after := by
      rw [hchunks]
      simp
    have hdeallocate : allocator.deallocate p =
        if (chunk.push (i * allocator.blockSize) (UInt8.ofNat i)).blocksAvailable.toNat =
            blocksPerChunk then
          some (removeChunk
            { allocator with
              chunks := before ++
                chunk.push (i * allocator.blockSize) (UInt8.ofNat i) :: after
              deallocChunk := before.length } before.length)
        else
          some
            { allocator with
              chunks := before ++
                chunk.push (i * allocator.blockSize) (UInt8.ofNat i) :: after
              deallocChunk := before.length } := by
      simp only [deallocate, hcached, Option.bind_eq_bind, Option.bind_some]
      rw [chunkAt_natCast, hget, Option.bind_some, hp, Chunk.deallocate_eq hsize hi,
        Option.bind_some, Int.toNat_natCast, hset]
    rw [hdeallocate]
    split
    · rename_i hall
      refine ⟨before, chunk, after, i, _, hchunks, hi, hp, rfl, rfl, .inr ⟨?_, hall⟩, ?_⟩
      · exact removeChunk_chunks_perm rfl
      · apply removeChunk_indexed rfl
        apply validIndex_of_length_eq h.alloc
        simp [hchunks]
    · refine ⟨before, chunk, after, i, _, hchunks, hi, hp, rfl, rfl, .inl (List.Perm.refl _), ?_⟩
      constructor
      · apply validIndex_of_length_eq h.alloc
        simp [hchunks]
      · exact .inr ⟨before.length, rfl, by simp⟩
  · obtain ⟨chunk, hchunk, howns⟩ := howner
    exact absurd howns (hnone chunk hchunk)

end FixedAllocator

end RsMemoryManagement
