import RetroShare.Ft.FileCreator

/-!
# The data multiplexer, for one file

`ftDataMultiplex` keeps a `Sha1CacheEntry` for each hash.  A chunk that is to be checked goes
from the queue of the chunk map to `_to_ask`, and to `_received` when a peer has sent its
checksum; then `dispatchReceivedChunkCheckSum` has the file creator verify it.

Numbers that peers send are used as indices.  `Access` records an access to the element `index`
of a vector of `size` elements; a write beyond the end of a vector is left out, and a read
there finds a default value.
-/

namespace Ft

/-- An access to an element of a vector. -/
structure Access where
  index : Nat
  size : Nat
  deriving DecidableEq, Repr

/-- The access is to an element that exists. -/
def Access.InRange (a : Access) : Prop := a.index < a.size

instance (a : Access) : Decidable a.InRange := inferInstanceAs (Decidable (_ < _))

/-! ### Maps of checksums -/

/-- `CompressedChunkMap::set`. -/
def CompressedChunkMap.set (cmap : CompressedChunkMap) (i : Nat) : CompressedChunkMap :=
  ⟨cmap.map.set (i / 32) (cmap.map.getD (i / 32) 0 ||| (1 : UInt32) <<< UInt32.ofNat (i % 32))⟩

/-- The access of `CompressedChunkMap::operator[]` and of `CompressedChunkMap::set`. -/
def CompressedChunkMap.access (cmap : CompressedChunkMap) (i : Nat) : Access :=
  ⟨i / 32, cmap.map.length⟩

/-- `t_CRCMap`. -/
structure CRCMap (CRC : Type) where
  crcs : List CRC
  ccmap : CompressedChunkMap
  deriving DecidableEq

namespace CRCMap

variable {CRC : Type} [Inhabited CRC] (map : CRCMap CRC)

/-- The number of chunks of a file. -/
def chunks (fileSize : Nat) : Nat :=
  fileSize / chunkSize + if fileSize % chunkSize = 0 then 0 else 1

/-- The constructor without arguments. -/
def empty : CRCMap CRC := ⟨[], ⟨[]⟩⟩

/-- The constructor for a file. -/
def ofFile (fileSize : Nat) : CRCMap CRC where
  crcs := List.replicate (chunks fileSize) default
  ccmap :=
    ⟨List.replicate (CompressedChunkMap.getCompressedSize (chunks fileSize % 2 ^ 32)) 0⟩

/-- `size`. -/
def size : Nat := map.crcs.length % 2 ^ 32

/-- `set`. -/
def set (i : Nat) (val : CRC) : CRCMap CRC := ⟨map.crcs.set i val, map.ccmap.set i⟩

/-- The accesses of `set`. -/
def setAccesses (i : Nat) : List Access := [⟨i, map.crcs.length⟩, map.ccmap.access i]

/-- `isSet`. -/
def isSet (i : Nat) : Bool := map.ccmap.get i

/-- `operator[]`. -/
def get (i : Nat) : CRC := map.crcs.getD i default

/-- The access of `operator[]`, whose argument is an `int`: from `2 ^ 31` on it is negative. -/
def getAccess (i : Nat) : Access :=
  ⟨if i < 2 ^ 31 then i else 2 ^ 64 - 2 ^ 32 + i, map.crcs.length⟩

end CRCMap

/-! ### The multiplexer -/

/-- `Sha1CacheEntry`, less the times of requests.  The back of `_received` is the head of
`received`. -/
structure Sha1CacheEntry (CRC : Type) where
  map : CRCMap CRC
  received : List Nat
  toAsk : Finset Nat

/-- What `ftDataMultiplex` keeps for a hash. -/
structure DataMultiplex (PeerId CRC : Type) [LinearOrder PeerId] where
  client : Option (FileCreator PeerId)
  sha1cache : Sha1CacheEntry CRC

/-- What the file system does when a chunk is verified, and the checksum of what is read. -/
structure ChunkOutcome (CRC : Type) where
  opens : Bool
  seeks : Bool
  reads : Bool
  sum : CRC

namespace DataMultiplex

variable {PeerId CRC : Type} [LinearOrder PeerId] [Inhabited CRC] [DecidableEq CRC]
  (s : DataMultiplex PeerId CRC)

/-- An entry of the cache that has just been made. -/
def newEntry : Sha1CacheEntry CRC := ⟨CRCMap.empty, [], ∅⟩

/-- `sendSingleChunkCRCRequests`. -/
def sendSingleChunkCRCRequests (toAsk : List Nat) : DataMultiplex PeerId CRC :=
  { s with sha1cache := { s.sha1cache with toAsk := s.sha1cache.toAsk ∪ toAsk.toFinset } }

/-- The end of `ftTransferModule::queryInactive`. -/
def queryInactive : DataMultiplex PeerId CRC :=
  match s.client with
  | none => s
  | some creator =>
      let r := creator.chunkMap.getChunksToCheck
      { s with client := some { creator with chunkMap := r.1 } }.sendSingleChunkCRCRequests r.2

/-- The map of the cache, which is made when it is empty. -/
def mapFor (fileSize : Nat) : CRCMap CRC :=
  if s.sha1cache.map.size = 0 then CRCMap.ofFile fileSize else s.sha1cache.map

/-- `recvSingleChunkCRC`, and the accesses to vectors. -/
def recvSingleChunkCRC (chunkNumber : UInt32) (crc : CRC) :
    DataMultiplex PeerId CRC × List Access :=
  let c := chunkNumber.toNat
  let toAsk := s.sha1cache.toAsk.erase c
  match s.client with
  | none => ({ s with sha1cache := { s.sha1cache with toAsk := toAsk } }, [])
  | some creator =>
      let map := s.mapFor creator.chunkMap.fileSize
      ({ s with sha1cache := ⟨map.set c crc, c :: s.sha1cache.received, toAsk⟩ },
        map.setAccesses c)

/-- The body of the loop of `dispatchReceivedChunkCheckSum`. -/
def dispatchChunk (io : ChunkOutcome CRC) : DataMultiplex PeerId CRC :=
  match s.client, s.sha1cache.received with
  | some creator, c :: received =>
      let cache := { s.sha1cache with received := received }
      if s.sha1cache.map.isSet c then
        let sumAgrees := s.sha1cache.map.get c = io.sum
        ⟨some (creator.verifyChunk c ⟨io.opens, io.seeks, io.reads, sumAgrees⟩), cache⟩
      else
        { s with sha1cache := cache }
  | _, _ => s

/-- The loop of `dispatchReceivedChunkCheckSum`, `n` times; `io` tells what the file system does
each time. -/
def dispatchChunks (io : Nat → ChunkOutcome CRC) : Nat → DataMultiplex PeerId CRC
  | 0 => s
  | n + 1 => (dispatchChunks io n).dispatchChunk (io n)

/-- `MAX_CHECKSUM_CHECK_PER_FILE`. -/
def maxChecksumCheckPerFile : Nat := 25

/-- `dispatchReceivedChunkCheckSum`. -/
def dispatchReceivedChunkCheckSum (io : Nat → ChunkOutcome CRC) : DataMultiplex PeerId CRC :=
  match s.client with
  | none => { s with sha1cache := newEntry }
  | some _ => s.dispatchChunks io maxChecksumCheckPerFile

/-! ### Requests of peers -/

/-- What `handleRecvChunkCrcRequest` finds outside the cache: the size of the file of the server
for the hash, whether the chunk can be read, and the checksum of what is read. -/
structure ServedChunk (CRC : Type) where
  server : Option UInt64
  opens : Bool
  reads : Bool
  sum : CRC

/-- `handleRecvChunkCrcRequest`: the checksum that is sent, and the accesses to vectors. -/
def handleRecvChunkCrcRequest (chunkNumber : UInt32) (served : ServedChunk CRC) :
    DataMultiplex PeerId CRC × Option CRC × List Access :=
  let c := chunkNumber.toNat
  let cached := s.sha1cache.map.size > 0
  let looked := if cached then [s.sha1cache.map.ccmap.access c] else []
  if cached ∧ s.sha1cache.map.isSet c then
    (s, some (s.sha1cache.map.get c), looked ++ [s.sha1cache.map.getAccess c])
  else
    match served.server with
    | none => (s, none, looked)
    | some fileSize =>
        if !served.opens || !served.reads then
          (s, none, looked)
        else
          let map := s.mapFor fileSize.toNat
          ({ s with sha1cache := { s.sha1cache with map := map.set c served.sum } },
            some served.sum, looked ++ map.setAccesses c)

end DataMultiplex

/-- The loop of `ChunkMap::hasChunkState`, over the `n` chunks from `i` on. -/
def ChunkMap.hasChunkStateFrom {PeerId : Type} [LinearOrder PeerId] (m : ChunkMap PeerId)
    (state : ChunkState) : Nat → Nat → Bool × List Access
  | 0, _ => (true, [])
  | n + 1, i =>
      if m.state i ≠ state then
        (false, [⟨i, m.map.length⟩])
      else
        let r := m.hasChunkStateFrom state n (i + 1)
        (r.1, ⟨i, m.map.length⟩ :: r.2)

/-- `chunk_number_start` of `ChunkMap::hasChunkState`. -/
def chunkNumberStart (offset : Nat) : Nat := offset / chunkSize % 2 ^ 32

/-- `chunk_number_end` of `ChunkMap::hasChunkState`. -/
def chunkNumberEnd (offset size : Nat) : Nat :=
  (add64 offset size / chunkSize % 2 ^ 32 +
    if add64 offset size % chunkSize = 0 then 0 else 1) % 2 ^ 32

/-- `ChunkMap::hasChunkState`, and the accesses to `_map`. -/
def ChunkMap.hasChunkState {PeerId : Type} [LinearOrder PeerId] (m : ChunkMap PeerId)
    (offset size : Nat) (state : ChunkState) : Bool × List Access :=
  m.hasChunkStateFrom state (chunkNumberEnd offset size - chunkNumberStart offset)
    (chunkNumberStart offset)

namespace FileCreator

variable {PeerId : Type} [LinearOrder PeerId] (s : FileCreator PeerId)

/-- What the file system does when data is read. -/
structure ReadOutcome where
  opens : Bool
  seeks : Bool
  reads : Bool

/-- `ftFileProvider::getFileData`: the size of the data that is read, unless `false` is
returned. -/
def provideFileData (io : ReadOutcome) (offset size : Nat) : Option Nat :=
  let fileSize := s.chunkMap.fileSize
  if !s.fd && !io.opens || fileSize ≤ offset then
    none
  else
    let size := if fileSize < add64 offset size then sub64 fileSize offset % 2 ^ 32 else size
    if size = 0 || !io.seeks || !io.reads then none else some size

/-- The loop of `getFileData` over the parts that are missing, for requests that may be served
from chunks that have not been verified: the size of the request is reduced. -/
def unverifiedSize (offset size : Nat) : Nat × Bool :=
  s.mChunks.toList.foldl (fun r e =>
    let size :=
      if offset ≤ e.2.offset ∧ e.2.offset < add64 offset r.1 then
        sub64 e.2.offset offset % 2 ^ 32
      else
        r.1
    let stop := add64 e.2.offset e.2.size
    (size, r.2 && !decide (offset ≤ stop ∧ stop < add64 offset size))) (size, true)

/-- `getFileData`, and the accesses to the states of the chunks. -/
def getFileData (io : ReadOutcome) (offset size : Nat) (allowUnverified : Bool) :
    Option Nat × List Access :=
  let available := s.chunkMap.hasChunkState offset size .done
  if available.1 then
    (s.provideFileData io offset size, available.2)
  else if allowUnverified then
    let r := s.unverifiedSize offset size
    let outstanding := s.chunkMap.hasChunkState offset r.1 .outstanding
    (if r.2 && !outstanding.1 then s.provideFileData io offset r.1 else none,
      available.2 ++ outstanding.2)
  else
    (none, available.2)

/-- `ftDataMultiplex::locked_handleServerRequest`, for a file creator. -/
def lockedHandleServerRequest (io : ReadOutcome) (offset : UInt64) (chunkSize : UInt32) :
    Option Nat × List Access :=
  if 10 * 1024 * 1024 < chunkSize.toNat then (none, [])
  else s.getFileData io offset.toNat chunkSize.toNat false

end FileCreator

end Ft
