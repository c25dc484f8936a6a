import RetroShare.Lib.Machine
import RetroShare.Lib.OrdMap

/-!
# Small objects

`Chunk`, `FixedAllocator` and `SmallObjectAllocator` of `smallobject.cc`, together with the blocks
that are in use.

Addresses are natural numbers.  The memory that `new` and `malloc` give is an input of a call, as
its address and the bytes that are found in it.  `none` stands for a failed assertion, and for an
access to a chunk that is not there.
-/

namespace RsMemoryManagement

/-- `BLOCKS_PER_CHUNK`. -/
def blocksPerChunk : Nat := 255

/-- `MAX_SMALL_OBJECT_SIZE`. -/
def maxSmallObjectSize : Nat := 128

/-- `Chunk`, with the bytes of its memory behind `data`. -/
structure Chunk where
  data : Nat
  memory : Nat → UInt8
  firstAvailableBlock : UInt8
  blocksAvailable : UInt8

namespace Chunk

/-- `init`, with memory at `data`. -/
def init (blockSize blocks data : Nat) (memory : Nat → UInt8) : Chunk where
  data := data
  memory :=
    (List.range blocks).foldl
      (fun memory i => Function.update memory (i * blockSize) (UInt8.ofNat (i + 1))) memory
  firstAvailableBlock := 0
  blocksAvailable := UInt8.ofNat blocks

variable (chunk : Chunk)

/-- The address of a block. -/
def block (blockSize i : Nat) : Nat := chunk.data + i * blockSize

/-- The chunk without the first block of the free list. -/
def pop (blockSize : Nat) : Chunk :=
  { chunk with
    firstAvailableBlock := chunk.memory (chunk.firstAvailableBlock.toNat * blockSize)
    blocksAvailable := chunk.blocksAvailable - 1 }

/-- `allocate`, with the address of the block unless it is `NULL`. -/
def allocate (blockSize : Nat) : Option (Chunk × Option Nat) :=
  if chunk.blocksAvailable = 0 then some (chunk, none)
  else if blockSize < 2 then none
  else
    some (chunk.pop blockSize, some (chunk.block blockSize chunk.firstAvailableBlock.toNat))

/-- The chunk with a block in front of the free list. -/
def push (offset : Nat) (block : UInt8) : Chunk :=
  { chunk with
    memory := Function.update chunk.memory offset chunk.firstAvailableBlock
    firstAvailableBlock := block
    blocksAvailable := chunk.blocksAvailable + 1 }

/-- `deallocate`. -/
def deallocate (p blockSize : Nat) : Option Chunk :=
  if p < chunk.data then none
  else if (p - chunk.data) % blockSize ≠ 0 then none
  else
    let firstAvailableBlock := UInt8.ofNat ((p - chunk.data) / blockSize)
    if firstAvailableBlock.toNat ≠ (p - chunk.data) / blockSize then none
    else some (chunk.push (p - chunk.data) firstAvailableBlock)

/-- `chunkOwnsPointer`. -/
def owns (blockSize p : Nat) : Bool :=
  chunk.data ≤ p && (p - chunk.data) / blockSize < blocksPerChunk

/-- The memory of the chunk, with its size. -/
def region (blockSize : Nat) : Nat × Nat := (chunk.data, blockSize * blocksPerChunk)

/-- A byte is written by the program, in the memory of the chunk or somewhere else. -/
def write (blockSize address : Nat) (byte : UInt8) : Chunk :=
  if chunk.data ≤ address ∧ address < chunk.data + blockSize * blocksPerChunk then
    { chunk with memory := Function.update chunk.memory (address - chunk.data) byte }
  else chunk

/-- The blocks that are linked from a block on. -/
def linked (memory : Nat → UInt8) (blockSize : Nat) : Nat → UInt8 → List Nat
  | 0, _ => []
  | n + 1, block => block.toNat :: linked memory blockSize n (memory (block.toNat * blockSize))

/-- The free list. -/
def freeList (blockSize : Nat) : List Nat :=
  linked chunk.memory blockSize chunk.blocksAvailable.toNat chunk.firstAvailableBlock

end Chunk

/-- `FixedAllocator`. -/
structure FixedAllocator where
  blockSize : Nat
  chunks : List Chunk
  allocChunk : Int
  deallocChunk : Int

namespace FixedAllocator

/-- The constructor. -/
def new (bytes : Nat) : FixedAllocator where
  blockSize := bytes
  chunks := []
  allocChunk := -1
  deallocChunk := -1

variable (allocator : FixedAllocator)

/-- The chunk at an index. -/
def chunkAt (i : Int) : Option Chunk :=
  if i < 0 then none else allocator.chunks[i.toNat]?

/-- The index of the first chunk that satisfies `q`, or `-1`. -/
def search (q : Chunk → Bool) : Int :=
  match allocator.chunks.findIdx? q with
  | none => -1
  | some i => i

/-- The index `i`, if there is a chunk at it that satisfies `q`, or else that of the first chunk
that does. -/
def cached (i : Int) (q : Chunk → Bool) : Option Int :=
  if i < 0 then some (allocator.search q)
  else (allocator.chunkAt i).map fun chunk => if q chunk then i else allocator.search q

/-- The allocator with a chunk for `allocate`, which is a new one if no other has a block. -/
def withSpace (data : Nat) (memory : Nat → UInt8) : Option FixedAllocator :=
  (allocator.cached allocator.allocChunk fun chunk => chunk.blocksAvailable ≠ 0).map
    fun allocChunk =>
      if allocChunk < 0 then
        { allocator with
          chunks :=
            allocator.chunks ++ [Chunk.init allocator.blockSize blocksPerChunk data memory]
          allocChunk := allocator.chunks.length
          deallocChunk := allocator.chunks.length }
      else { allocator with allocChunk := allocChunk }

/-- `allocate`. -/
def allocate (data : Nat) (memory : Nat → UInt8) : Option (FixedAllocator × Option Nat) := do
  let allocator ← allocator.withSpace data memory
  let chunk ← allocator.chunkAt allocator.allocChunk
  if chunk.blocksAvailable = 0 then none
  else
    let (chunk, result) ← chunk.allocate allocator.blockSize
    some
      ({ allocator with chunks := allocator.chunks.set allocator.allocChunk.toNat chunk }, result)

/-- The allocator without the chunk at `i`, in whose place the last one comes. -/
def removeChunk (i : Int) : FixedAllocator :=
  let chunks :=
    match allocator.chunks.getLast? with
    | none => allocator.chunks
    | some last => allocator.chunks.set i.toNat last
  let allocChunk := if allocator.allocChunk = i then -1 else allocator.allocChunk
  let allocChunk := if allocChunk = (allocator.chunks.length : Int) - 1 then i else allocChunk
  { allocator with
    chunks := chunks.dropLast
    allocChunk := allocChunk
    deallocChunk := -1 }

/-- `deallocate`. -/
def deallocate (p : Nat) : Option FixedAllocator := do
  let deallocChunk ←
    allocator.cached allocator.deallocChunk fun chunk => chunk.owns allocator.blockSize p
  let chunk ← allocator.chunkAt deallocChunk
  let chunk ← chunk.deallocate p allocator.blockSize
  let allocator :=
    { allocator with
      chunks := allocator.chunks.set deallocChunk.toNat chunk
      deallocChunk := deallocChunk }
  if chunk.blocksAvailable.toNat = blocksPerChunk then some (allocator.removeChunk deallocChunk)
  else some allocator

/-- The memory of the chunks. -/
def regions : List (Nat × Nat) := allocator.chunks.map fun chunk => chunk.region allocator.blockSize

/-- A byte is written by the program. -/
def write (address : Nat) (byte : UInt8) : FixedAllocator :=
  { allocator with
    chunks := allocator.chunks.map fun chunk => chunk.write allocator.blockSize address byte }

end FixedAllocator

/-- `SmallObjectAllocator`.  The allocators of the pool are found by an `int`, so that the sizes of
the small objects are below `2 ^ 31`. -/
structure SmallObjectAllocator where
  pool : OrdMap Nat FixedAllocator
  lastAlloc : Option Nat
  lastDealloc : Option Nat
  maxObjectSize : Nat
  maxObjectSize_lt : maxObjectSize < 2 ^ 31

namespace SmallObjectAllocator

/-- The constructor. -/
def new (maxObjectSize : Nat) (h : maxObjectSize < 2 ^ 31) : SmallObjectAllocator where
  pool := .empty
  lastAlloc := none
  lastDealloc := none
  maxObjectSize := maxObjectSize
  maxObjectSize_lt := h

variable (allocator : SmallObjectAllocator)

/-- The allocator for blocks of this size, with its key: the one that was used last, or the one of
the pool, which may be new. -/
def fixedFor (last : Option Nat) (bytes : Nat) : Nat × FixedAllocator :=
  match last.bind fun key => (allocator.pool.get? key).map fun fixed => (key, fixed) with
  | none => (bytes, (allocator.pool.get? bytes).getD (.new bytes))
  | some (key, fixed) =>
      if fixed.blockSize = bytes then (key, fixed)
      else (bytes, (allocator.pool.get? bytes).getD (.new bytes))

/-- `allocate`. -/
def allocate (bytes data : Nat) (memory : Nat → UInt8) :
    Option (SmallObjectAllocator × Option Nat) :=
  if allocator.maxObjectSize < bytes then some (allocator, some data)
  else
    let (key, fixed) := allocator.fixedFor allocator.lastAlloc bytes
    (fixed.allocate data memory).map fun (fixed, result) =>
      ({ allocator with pool := allocator.pool.insert key fixed, lastAlloc := some key }, result)

/-- `deallocate`. -/
def deallocate (p bytes : Nat) : Option SmallObjectAllocator :=
  if allocator.maxObjectSize < bytes then some allocator
  else
    let (key, fixed) := allocator.fixedFor allocator.lastDealloc bytes
    (fixed.deallocate p).map fun fixed =>
      { allocator with pool := allocator.pool.insert key fixed, lastDealloc := some key }

/-- A byte is written by the program. -/
def write (address : Nat) (byte : UInt8) : SmallObjectAllocator :=
  { allocator with pool := allocator.pool.map fun _ fixed => fixed.write address byte }

end SmallObjectAllocator

/-- The allocator together with the blocks that are in use, with their sizes. -/
structure Heap where
  allocator : SmallObjectAllocator
  live : List (Nat × Nat)

namespace Heap

/-- A new allocator. -/
def new (maxObjectSize : Nat) (h : maxObjectSize < 2 ^ 31) : Heap where
  allocator := .new maxObjectSize h
  live := []

variable (heap : Heap)

/-- The addresses of the blocks in use. -/
def addresses : List Nat := heap.live.map Prod.fst

/-- The memory in use. -/
def regions : List (Nat × Nat) :=
  (heap.live.filter fun block => heap.allocator.maxObjectSize < block.2) ++
    heap.allocator.pool.toList.flatMap fun e => e.2.regions

/-- The size of the memory that a call of `allocate` asks for, if any. -/
def request (bytes : Nat) : Nat :=
  if heap.allocator.maxObjectSize < bytes then bytes else bytes * blocksPerChunk

/-- A call, or a byte that the program writes. -/
inductive Input where
  | allocate (bytes data : Nat) (memory : Nat → UInt8)
  | deallocate (p bytes : Nat)
  | write (address : Nat) (byte : UInt8)

/-- What an input does, unless an assertion fails. -/
def apply : Input → Option Heap
  | .allocate bytes data memory =>
      (heap.allocator.allocate bytes data memory).map fun (allocator, result) =>
        { allocator := allocator
          live := (result.map fun p => (p, bytes)).toList ++ heap.live }
  | .deallocate p bytes =>
      (heap.allocator.deallocate p bytes).map fun allocator =>
        { allocator := allocator, live := heap.live.erase (p, bytes) }
  | .write address byte =>
      some { heap with allocator := heap.allocator.write address byte }

/-- The allocator as a machine. -/
def machine : Machine (Option Heap) Input Empty where
  step heap input := (heap.bind fun heap => heap.apply input, [])

end Heap

end RsMemoryManagement
