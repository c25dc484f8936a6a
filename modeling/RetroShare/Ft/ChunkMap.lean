import RetroShare.Lib.OrdMap

/-!
# The chunk map of a download

`ChunkMap` of `ftchunkmap.cc` splits a file into chunks of 1 MB, and the chunks that are being
downloaded into slices.  A peer that downloads takes slices from the feed of a chunk, its own
or that of another peer.

The chunk map reads the clock, rolls dice and compares sizes in floating point: `now` is the
time, which an operation reads once, `rand` is what `rand()` returns, and `fits s h` the
outcome of `s * 0.7 <= (float) h`.
Numbers of chunks are 32-bit numbers and sizes of files 64-bit numbers; the 32 bits of an
`int` that holds the number of a chunk are taken as unsigned, as they are for fewer than
`2 ^ 31` chunks.
-/

namespace Ft

/-- The difference of `uint32_t` numbers. -/
def sub32 (a b : Nat) : Nat := (a + 2 ^ 32 - b) % 2 ^ 32

/-- The sum of `uint64_t` numbers. -/
def add64 (a b : Nat) : Nat := (a + b) % 2 ^ 64

/-- The difference of `uint64_t` numbers. -/
def sub64 (a b : Nat) : Nat := (a + 2 ^ 64 - b) % 2 ^ 64

/-! ### Chunks -/

/-- `FileChunksInfo::ChunkState`. -/
inductive ChunkState where
  | outstanding
  | active
  | done
  | checking
  deriving DecidableEq, Repr

/-- `FileChunksInfo::ChunkStrategy`. -/
inductive ChunkStrategy where
  | streaming
  | random
  | progressive
  deriving DecidableEq, Repr

/-- `CompressedChunkMap`, with one bit for each chunk. -/
structure CompressedChunkMap where
  map : List UInt32
  deriving DecidableEq, Repr

/-- `CompressedChunkMap::getCompressedSize`. -/
def CompressedChunkMap.getCompressedSize (size : Nat) : Nat :=
  size / 32 + if size % 32 = 0 then 0 else 1

/-- `CompressedChunkMap::operator[]`. -/
def CompressedChunkMap.get (cmap : CompressedChunkMap) (i : Nat) : Bool :=
  0 < (cmap.map.getD (i / 32) 0 &&& (1 : UInt32) <<< UInt32.ofNat (i % 32))

/-- `CHUNKMAP_FIXED_CHUNK_SIZE`. -/
def chunkSize : Nat := 1024 * 1024

/-- `Chunk`: what is left to ask of a chunk that is being downloaded. -/
structure Chunk where
  start : Nat
  offset : Nat
  endOffset : Nat
  deriving DecidableEq, Repr

/-- `ChunkDownloadInfo`: the slices of a chunk that have been asked for, by their offset. -/
structure ChunkDownloadInfo where
  slices : OrdMap Nat Nat
  remains : Nat
  lastDataReceived : Int
  deriving DecidableEq

/-- `SourceChunksInfo`. -/
structure SourceChunksInfo where
  cmap : CompressedChunkMap
  ts : Int
  isFull : Bool
  deriving DecidableEq, Repr

/-- `SourceChunksInfo::hasData`. -/
def SourceChunksInfo.hasData (sci : SourceChunksInfo) (offset : Nat) : Bool :=
  sci.isFull || sci.cmap.get (offset / chunkSize % 2 ^ 32)

/-- `ftChunk`: a part of a slice that has been asked for.  The counter that the parts of a
slice share is known by its address `refCnt`. -/
structure FtChunk (PeerId : Type) where
  offset : Nat
  size : Nat
  id : Nat
  ts : Int
  refCnt : Nat
  peerId : PeerId
  deriving DecidableEq

/-- What happens to the chunks of a file. -/
inductive Event where
  /-- `getDataChunk` allocates a chunk. -/
  | allocated (c : Nat)
  /-- `size` bytes are written to the file. -/
  | wrote (offset size : Nat)
  /-- All slices of a chunk have been received. -/
  | completed (c : Nat)
  deriving DecidableEq, Repr

/-- `ChunkMap`, less the debugging output. -/
structure ChunkMap (PeerId : Type) [LinearOrder PeerId] where
  fileSize : Nat
  strategy : ChunkStrategy
  activeChunksFeed : OrdMap PeerId Chunk
  slicesToDownload : OrdMap Nat ChunkDownloadInfo
  map : List ChunkState
  peersChunksAvailability : OrdMap PeerId SourceChunksInfo
  totalDownloaded : Nat
  fileIsComplete : Bool
  assumeAvailability : Bool
  chunksCheckingQueue : List Nat
  deriving DecidableEq

namespace ChunkMap

variable {PeerId : Type} [LinearOrder PeerId] (m : ChunkMap PeerId)

/-- The constructor. -/
def new (size : Nat) (availability : Bool) : ChunkMap PeerId where
  fileSize := size
  strategy := .progressive
  activeChunksFeed := OrdMap.empty
  slicesToDownload := OrdMap.empty
  map := List.replicate (size / chunkSize + if size % chunkSize = 0 then 0 else 1) .outstanding
  peersChunksAvailability := OrdMap.empty
  totalDownloaded := 0
  fileIsComplete := false
  assumeAvailability := availability
  chunksCheckingQueue := []

/-- The state of a chunk. -/
def state (c : Nat) : ChunkState := m.map.getD c .outstanding

/-- `sizeOfChunk`. -/
def sizeOfChunk (c : Nat) : Nat :=
  if c + 1 = m.map.length then sub64 m.fileSize (c * chunkSize % 2 ^ 32) % 2 ^ 32 else chunkSize

/-! ### Completion -/

/-- `updateTotalDownloaded`. -/
def updateTotalDownloaded : ChunkMap PeerId :=
  -- the chunks by their state
  let total := (List.range m.map.length).foldl (fun total c =>
    if m.state c = .checking ∨ m.state c = .done then add64 total (m.sizeOfChunk c)
    else total) 0
  -- the chunks that are being downloaded
  let total := m.slicesToDownload.toList.foldl (fun total e =>
    let total := if m.state e.1 = .checking then sub64 total (m.sizeOfChunk e.1) else total
    add64 total (sub32 (m.sizeOfChunk e.1) e.2.remains)) total
  { m with totalDownloaded := total, fileIsComplete := m.map.all (· = .done) }

/-- The chunk `n`, of which nothing remains, is marked and is not downloaded any more. -/
def retireChunk (n : Nat) : ChunkMap PeerId :=
  let m :=
    if 0 < n ∨ chunkSize < m.fileSize then
      { m with
        map := m.map.set n .checking
        chunksCheckingQueue := m.chunksCheckingQueue ++ [n] }
    else
      { m with map := m.map.set n .done }
  { m with slicesToDownload := m.slicesToDownload.erase n }

/-- The end of `dataReceived`, when nothing of the chunk `n` remains. -/
def completeChunk (n : Nat) : ChunkMap PeerId :=
  (m.retireChunk n).updateTotalDownloaded

/-- The slice `cid` of the chunk `n` is taken off the list. -/
def receiveSlice (now : Int) (n : Nat) (info : ChunkDownloadInfo) (cid size : Nat) :
    ChunkMap PeerId :=
  { m with
    totalDownloaded := add64 m.totalDownloaded size
    slicesToDownload := m.slicesToDownload.insert n
      ⟨info.slices.erase cid, sub32 info.remains size, now⟩ }

/-- `dataReceived`. -/
def dataReceived (now : Int) (cid : Nat) : ChunkMap PeerId × List Event :=
  let n := cid / chunkSize % 2 ^ 32
  match m.slicesToDownload.get? n with
  | none => (m, [])
  | some info =>
      match info.slices.get? cid with
      | none => (m, [])
      | some size =>
          let m := m.receiveSlice now n info cid size
          if sub32 info.remains size = 0 then (m.completeChunk n, [.completed n]) else (m, [])

/-- The order in which `getChunksToCheck` empties the queue: the first element is taken, and
the last one is moved in its place. -/
def drain : List Nat → List Nat
  | [] => []
  | c :: queue => c :: drain (queue.getLast?.toList ++ queue.dropLast)
termination_by queue => queue.length
decreasing_by
  cases queue with
  | nil => simp
  | cons c queue => simp [List.getLast?_cons]

/-- `getChunksToCheck`. -/
def getChunksToCheck : ChunkMap PeerId × List Nat :=
  ({ m with chunksCheckingQueue := [] }, drain m.chunksCheckingQueue)

/-- `setChunkCheckingResult`. -/
def setChunkCheckingResult (c : Nat) (checkSucceeded : Bool) : ChunkMap PeerId :=
  if m.state c ≠ .checking then
    m
  else if checkSucceeded then
    { m with
      map := m.map.set c .done
      fileIsComplete := (m.map.set c .done).all (· = .done) }
  else
    { m with
      totalDownloaded := sub64 m.totalDownloaded (m.sizeOfChunk c)
      map := m.map.set c .outstanding }

/-- `forceCheck`. -/
def forceCheck : ChunkMap PeerId :=
  { m with
    map := m.map.map fun _ => .checking
    chunksCheckingQueue := m.chunksCheckingQueue ++ List.range m.map.length
  }.updateTotalDownloaded

/-! ### Sources -/

/-- `getSourceChunksInfo`, which makes up a record for a source that has none. -/
def getSourceChunksInfo (peerId : PeerId) : ChunkMap PeerId × SourceChunksInfo :=
  match m.peersChunksAvailability.get? peerId with
  | some sci => (m, sci)
  | none =>
      let size := CompressedChunkMap.getCompressedSize m.map.length
      let sci : SourceChunksInfo :=
        if m.assumeAvailability then ⟨⟨List.replicate size 0xffffffff⟩, 0, true⟩
        else ⟨⟨List.replicate size 0⟩, 0, false⟩
      ({ m with peersChunksAvailability := m.peersChunksAvailability.insert peerId sci }, sci)

/-- `setPeerAvailabilityMap`. -/
def setPeerAvailabilityMap (now : Int) (peerId : PeerId) (cmap : CompressedChunkMap) :
    ChunkMap PeerId :=
  if cmap.map.length ≠ m.map.length / 32 + (if m.map.length % 32 = 0 then 0 else 1) then
    m
  else
    { m with
      peersChunksAvailability := m.peersChunksAvailability.insert peerId
        ⟨cmap, now, (List.range m.map.length).all cmap.get⟩ }

/-- `removeFileSource`. -/
def removeFileSource (peerId : PeerId) : ChunkMap PeerId :=
  { m with peersChunksAvailability := m.peersChunksAvailability.erase peerId }

/-! ### Taking slices -/

/-- `SOURCE_CHUNK_MAP_UPDATE_PERIOD`. -/
def sourceChunkMapUpdatePeriod : Int := 60

/-- `FT_CHUNKMAP_MAX_CHUNK_JUMP`. -/
def ftChunkmapMaxChunkJump : Nat := 50

/-- A chunk that a source has, and that nobody downloads. -/
def isAvailable (sci : SourceChunksInfo) (c : Nat) : Bool :=
  m.state c = .outstanding && (sci.isFull || sci.cmap.get c)

/-- `available_chunks` and `available_chunks_before_max_dist` of `getAvailableChunk`. -/
def countAvailable (sci : SourceChunksInfo) : Nat × Nat :=
  (List.range m.map.length).foldl (fun n c =>
    if m.state c = .outstanding then
      if sci.isFull || sci.cmap.get c then (n.1 + 1, n.2) else n
    else
      (n.1, n.1)) (0, 0)

/-- `chosen_chunk_number` of `getAvailableChunk`. -/
def chooseChunk (rand : Nat) (available beforeMaxDist : Nat) : Nat :=
  match m.strategy with
  | .streaming => 0
  | .random => rand % available
  | .progressive => rand % min available (beforeMaxDist + ftChunkmapMaxChunkJump)

/-- `getAvailableChunk`: the number of a chunk, or the number of chunks, and whether the map of
the source is too old. -/
def getAvailableChunk (now : Int) (rand : Nat) (peerId : PeerId) : ChunkMap PeerId × Nat × Bool :=
  let r := m.getSourceChunksInfo peerId
  let m := r.1
  let sci := r.2
  let tooOld := !sci.isFull &&
    sourceChunkMapUpdatePeriod < Int.bmod now (2 ^ 32) - Int.bmod sci.ts (2 ^ 32)
  let m :=
    if tooOld then
      { m with
        peersChunksAvailability :=
          m.peersChunksAvailability.insert peerId { sci with ts := now } }
    else
      m
  let available := m.countAvailable sci
  if 0 < available.1 then
    let chosen := m.chooseChunk rand available.1 available.2
    (m, ((List.range m.map.length).filter (m.isAvailable sci)).getD chosen m.map.length, tooOld)
  else
    (m, m.map.length, tooOld)

/-- The loop of `getDataChunk` over the feeds of other peers: the first one that `peerId` can
share, and the last one before that has the chunk, which is the `falsafe` case. -/
def shareFeed (fits : Nat → Nat → Bool) (sizeHint : Nat) (sci : SourceChunksInfo) :
    List (PeerId × Chunk) → OrdMap Nat ChunkDownloadInfo → Option (PeerId × Chunk) →
      OrdMap Nat ChunkDownloadInfo × Option (PeerId × Chunk) × Option (PeerId × Chunk)
  | [], slices, falsafe => (slices, none, falsafe)
  | e :: feeds, slices, falsafe =>
      let c := e.2.start / chunkSize % 2 ^ 32
      if sci.isFull || sci.cmap.get c then
        let cdi := (slices.get? c).getD ⟨OrdMap.empty, 0, 0⟩
        -- `operator[]` inserts what it does not find
        let slices := slices.insert c cdi
        if cdi.slices.toList.getLast?.any fun s => fits s.2 sizeHint then (slices, some e, some e)
        else shareFeed fits sizeHint sci feeds slices (some e)
      else
        shareFeed fits sizeHint sci feeds slices falsafe

/-- The chunk `c` is allocated to a peer. -/
def allocate (peerId : PeerId) (c : Nat) : ChunkMap PeerId :=
  let cdi := (m.slicesToDownload.get? c).getD ⟨OrdMap.empty, 0, 0⟩
  { m with
    activeChunksFeed := m.activeChunksFeed.insert peerId
      ⟨c * chunkSize, c * chunkSize, c * chunkSize + m.sizeOfChunk c⟩
    map := m.map.set c .active
    slicesToDownload := m.slicesToDownload.insert c { cdi with remains := m.sizeOfChunk c } }

/-- The end of `getDataChunk`: a slice of the feed `feed` of the peer `owner`, for the peer
`peerId`. -/
def takeSlice (now : Int) (sizeHint : Nat) (peerId owner : PeerId) (feed : Chunk) :
    ChunkMap PeerId × FtChunk PeerId :=
  -- `Chunk::getSlice`
  let size := min sizeHint (sub64 feed.endOffset feed.offset % 2 ^ 32)
  let feed' := { feed with offset := feed.offset + size }
  let c := feed.offset / chunkSize % 2 ^ 32
  let cdi := (m.slicesToDownload.get? c).getD ⟨OrdMap.empty, 0, 0⟩
  ({ m with
      slicesToDownload := m.slicesToDownload.insert c
        { cdi with slices := cdi.slices.insert feed.offset size, lastDataReceived := now }
      activeChunksFeed :=
        if feed'.offset = feed'.endOffset then m.activeChunksFeed.erase owner
        else m.activeChunksFeed.insert owner feed' },
    ⟨feed.offset, size, feed.offset, now, 0, peerId⟩)

/-- What `getDataChunk` returns. -/
structure DataChunk (PeerId : Type) [LinearOrder PeerId] where
  chunkMap : ChunkMap PeerId
  /-- The slice, unless `false` is returned. -/
  chunk : Option (FtChunk PeerId)
  sourceChunkMapNeeded : Bool
  events : List Event

/-- `getDataChunk`. -/
def getDataChunk (fits : Nat → Nat → Bool) (now : Int) (rand : Nat) (peerId : PeerId)
    (sizeHint : Nat) (needed : Bool) : DataChunk PeerId :=
  match m.activeChunksFeed.get? peerId with
  | some feed =>
      let r := m.takeSlice now sizeHint peerId peerId feed
      ⟨r.1, some r.2, needed, []⟩
  | none =>
      let r := m.getSourceChunksInfo peerId
      let m := r.1
      let (slices, shared, falsafe) := shareFeed fits sizeHint r.2 m.activeChunksFeed.toList
        m.slicesToDownload none
      let m := { m with slicesToDownload := slices }
      match shared with
      | some (owner, feed) =>
          let r := m.takeSlice now sizeHint peerId owner feed
          ⟨r.1, some r.2, needed, []⟩
      | none =>
          let (m, c, needed) := m.getAvailableChunk now rand peerId
          if m.map.length ≤ c then
            match falsafe with
            | some (owner, feed) =>
                let r := m.takeSlice now sizeHint peerId owner feed
                ⟨r.1, some r.2, needed, []⟩
            | none => ⟨m, none, needed, []⟩
          else
            let r := (m.allocate peerId c).takeSlice now sizeHint peerId peerId
              ⟨c * chunkSize, c * chunkSize, c * chunkSize + m.sizeOfChunk c⟩
            ⟨r.1, some r.2, needed, [.allocated c]⟩

/-! ### Giving up -/

/-- `INACTIVE_CHUNK_TIME_LAPSE`. -/
def inactiveChunkTimeLapse : Int := 3600

/-- The body of the loop of `removeInactiveChunks` for an inactive chunk. -/
def removeChunk (c : Nat) (info : ChunkDownloadInfo) : ChunkMap PeerId :=
  { m with
    map := m.map.set c .outstanding
    totalDownloaded := sub64 m.totalDownloaded (sub32 (m.sizeOfChunk c) info.remains)
    activeChunksFeed := m.activeChunksFeed.filter fun _ feed => feed.start ≠ chunkSize * c
    slicesToDownload := m.slicesToDownload.erase c }

/-- `removeInactiveChunks`: the slices of the chunks that are removed are returned. -/
def removeInactiveChunks (now : Int) : ChunkMap PeerId × List Nat :=
  m.slicesToDownload.toList.foldl (fun r e =>
    if inactiveChunkTimeLapse < now - e.2.lastDataReceived then
      (r.1.removeChunk e.1 e.2, r.2 ++ e.2.slices.toList.map Prod.fst)
    else
      r) (m, [])

end ChunkMap

end Ft
