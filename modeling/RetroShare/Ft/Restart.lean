import RetroShare.Ft.Checksum
import RetroShare.Ft.DownloadQueue
import RetroShare.Util.Paths

/-!
# Restarts

`ftController` of `ftcontroller.cc`, as far as its downloads are saved by `saveList`, loaded by
`loadList` and requested again by `handleAPendingRequest`.  In contrast to the controller of the
queue, a download has its name, its destination, its sources and its chunk map here; the queue is
there as far as `FileRequest` looks at it.
-/

namespace Ft

open RsDirUtil (slash removeTopDir)

/-! ### Availability maps -/

/-- The constructor of `CompressedChunkMap` from the states of the chunks. -/
def CompressedChunkMap.ofStates (states : List ChunkState) : CompressedChunkMap :=
  (List.range states.length).foldl
    (fun cmap i => if states[i]? = some .done then cmap.set i else cmap)
    ⟨List.replicate (getCompressedSize states.length) 0⟩

namespace ChunkMap

variable {PeerId : Type} [LinearOrder PeerId] (m : ChunkMap PeerId)

/-- `getAvailabilityMap`. -/
def getAvailabilityMap : CompressedChunkMap := .ofStates m.map

/-- The check of `setAvailabilityMap`.  The number of chunks is taken as an `int`, and what is
worked out from it is compared as a number without sign. -/
def TooSmall (cmap : CompressedChunkMap) : Prop :=
  let last := (FtController.asInt m.map.length - 1) / 32
  last < 0 ∨ (cmap.map.length : Int) ≤ last

instance (cmap : CompressedChunkMap) : Decidable (m.TooSmall cmap) :=
  inferInstanceAs (Decidable (_ ∨ _))

/-- `setAvailabilityMap`. -/
def setAvailabilityMap (cmap : CompressedChunkMap) : ChunkMap PeerId :=
  if m.TooSmall cmap then m
  else
    let chunks := List.range m.map.length
    { m with
      map := chunks.map fun i => if cmap.get i then .done else .outstanding
      totalDownloaded :=
        chunks.foldl (fun total i => if cmap.get i then add64 total (m.sizeOfChunk i) else total) 0
      fileIsComplete := chunks.all cmap.get }

end ChunkMap

namespace Restart

/-- `RS_FILE_REQ_NO_SEARCH`. -/
def rsFileReqNoSearch : Nat := 0x02000000

/-- `ftFileControl`, with the chunk map of its file creator and the sources of its transfer
module. -/
structure FtFileControl (Hash PeerId : Type) [LinearOrder PeerId] where
  mName : List UInt8
  mDestination : List UInt8
  mState : ControlState
  mHash : Hash
  mSize : Nat
  mFlags : Nat
  chunkMap : ChunkMap PeerId
  mFileSources : List PeerId
  deriving DecidableEq

/-- `ftPendingRequest`, which is also what `FileRequest` is called with. -/
structure FtPendingRequest (Hash PeerId : Type) where
  mName : List UInt8
  mHash : Hash
  mSize : Nat
  mDest : List UInt8
  mFlags : Nat
  mSrcIds : List PeerId
  mState : ControlState
  deriving DecidableEq

/-- `RsFileTransfer`, with the fields that are loaded again. -/
structure RsFileTransfer (Hash PeerId : Type) where
  name : List UInt8
  hash : Hash
  filesize : Nat
  path : List UInt8
  allPeerIds : List PeerId
  state : ControlState
  flags : Nat
  chunkStrategy : ChunkStrategy
  compressedChunkMap : CompressedChunkMap
  deriving DecidableEq

/-- What the controller finds around it: the settings, which another item of the list brings from
one controller to the next, the answers of the search, of the turtle router and of the service that
knows the permissions, and whether `alreadyHaveFile` finds a file. -/
structure Surroundings (Hash PeerId : Type) where
  mDownloadPath : List UInt8
  mDefaultChunkStrategy : ChunkStrategy
  maxActiveDownloads : Nat
  alreadyHaveFile : Hash → Bool
  search : Hash → List PeerId
  isTurtlePeer : PeerId → Bool
  mayDownload : PeerId → Bool

/-- `ftController`.  The queue holds the downloads by their hashes. -/
structure FtController (Hash PeerId : Type) [LinearOrder Hash] [LinearOrder PeerId] where
  mFtActive : Bool
  queue : List Hash
  mDownloads : OrdMap Hash (FtFileControl Hash PeerId)
  mPendingRequests : List (FtPendingRequest Hash PeerId)
  mPendingChunkMaps : OrdMap Hash (RsFileTransfer Hash PeerId)

variable {Hash PeerId : Type} [LinearOrder Hash] [LinearOrder PeerId]
  (env : Surroundings Hash PeerId)

/-- The directory that a file goes to, when `dest` is asked for. -/
def Surroundings.directory (dest : List UInt8) : List UInt8 :=
  if dest = [] then env.mDownloadPath else dest

/-- Where a file goes to. -/
def Surroundings.destination (dest fname : List UInt8) : List UInt8 :=
  env.directory dest ++ slash :: fname

/-- The sources that a search adds, whatever the sources so far are. -/
def Surroundings.found (hash : Hash) (flags : Nat) : List PeerId :=
  if flags &&& rsFileReqNoSearch = 0 then (env.search hash).filter env.mayDownload else []

/-- The sources of a request that are not taken out of its list. -/
def FtPendingRequest.permitted (req : FtPendingRequest Hash PeerId) : List PeerId :=
  if isCache req.mFlags then req.mSrcIds else req.mSrcIds.filter env.mayDownload

/-- `setAvailabilityMap` and `setChunkStrategy`. -/
def FtFileControl.withMap (f : FtFileControl Hash PeerId) (cmap : CompressedChunkMap)
    (strategy : ChunkStrategy) : FtFileControl Hash PeerId :=
  { f with chunkMap := { f.chunkMap.setAvailabilityMap cmap with strategy } }

/-- The item of a download in `saveList`. -/
def FtFileControl.save (f : FtFileControl Hash PeerId) : RsFileTransfer Hash PeerId where
  name := f.mName
  hash := f.mHash
  filesize := f.mSize
  path := removeTopDir f.mDestination
  allPeerIds := f.mFileSources.filter fun id => !env.isTurtlePeer id
  state := f.mState
  flags := f.mFlags
  chunkStrategy := f.chunkMap.strategy
  compressedChunkMap := f.chunkMap.getAvailabilityMap

/-- The new item of a request in `saveList`.  Its last two fields are left as the constructor sets
them. -/
def FtPendingRequest.newItem (req : FtPendingRequest Hash PeerId) : RsFileTransfer Hash PeerId where
  name := req.mName
  hash := req.mHash
  filesize := req.mSize
  path := removeTopDir req.mDest
  allPeerIds := req.mSrcIds.dedup
  state := req.mState
  flags := req.mFlags
  chunkStrategy := .streaming
  compressedChunkMap := ⟨[]⟩

/-- The item with the flag of previous versions replaced. -/
def RsFileTransfer.compatible (rsft : RsFileTransfer Hash PeerId) : RsFileTransfer Hash PeerId :=
  { rsft with flags := Ft.FtController.compatibleFlags rsft.flags }

/-- The request of an item in `loadList`. -/
def RsFileTransfer.request (rsft : RsFileTransfer Hash PeerId) : FtPendingRequest Hash PeerId where
  mName := rsft.name
  mHash := rsft.hash
  mSize := rsft.filesize
  mDest := rsft.path
  mFlags := rsft.flags
  mSrcIds := rsft.allPeerIds
  mState := rsft.state

namespace FtController

/-- The constructor. -/
def new : FtController Hash PeerId where
  mFtActive := false
  queue := []
  mDownloads := .empty
  mPendingRequests := []
  mPendingChunkMaps := .empty

variable (c : FtController Hash PeerId)

/-- The `ftFileControl` that the last part of `FileRequest` makes, and that `locked_addToQueue` puts
at the end of the queue. -/
def newDownload (req : FtPendingRequest Hash PeerId) : FtFileControl Hash PeerId where
  mName := req.mName
  mDestination := env.destination req.mDest req.mName
  mState := if c.queue.length < env.maxActiveDownloads then .downloading else .queued
  mHash := req.mHash
  mSize := req.mSize
  mFlags := req.mFlags
  chunkMap :=
    { ChunkMap.new req.mSize (isCache req.mFlags) with strategy := env.mDefaultChunkStrategy }
  mFileSources := (req.permitted env ++ env.found req.mHash req.mFlags).dedup

/-- A size that `FileRequest` goes on with. -/
def ValidSize (size : Nat) : Prop := 0 < size ∧ size < 1024 * 1024 * (2 ^ 32 - 1)

instance (size : Nat) : Decidable (ValidSize size) := inferInstanceAs (Decidable (_ ∧ _))

/-- `FileRequest`. -/
def fileRequest (req : FtPendingRequest Hash PeerId) : FtController Hash PeerId :=
  if env.alreadyHaveFile req.mHash ∨ ¬ValidSize req.mSize then c
  else if ¬c.mFtActive then { c with mPendingRequests := c.mPendingRequests ++ [req] }
  else
    match c.mDownloads.get? req.mHash with
    | some f =>
        let added := (req.permitted env).filter env.mayDownload
        { c with
          mDownloads := c.mDownloads.insert req.mHash
            { f with mFileSources := (f.mFileSources ++ added).dedup } }
    | none =>
        { c with
          queue := c.queue ++ [req.mHash]
          mDownloads := c.mDownloads.insert req.mHash (c.newDownload env req) }

/-- `activate`. -/
def activate : FtController Hash PeerId := { c with mFtActive := true }

/-- The last part of `handleAPendingRequest`, for a request that was loaded. -/
def restoreChunkMap (hash : Hash) : FtController Hash PeerId :=
  match c.mPendingChunkMaps.get? hash with
  | none => c
  | some rsft =>
      let mDownloads :=
        match c.mDownloads.get? rsft.hash with
        | none => c.mDownloads
        | some f =>
            c.mDownloads.insert rsft.hash
              { f.withMap rsft.compressedChunkMap rsft.chunkStrategy with mState := rsft.state }
      { c with mDownloads, mPendingChunkMaps := c.mPendingChunkMaps.erase hash }

/-- `handleAPendingRequest`. -/
def handleAPendingRequest : FtController Hash PeerId :=
  match c.mPendingRequests with
  | [] => c
  | req :: reqs =>
      ({ c with mPendingRequests := reqs }.fileRequest env req).restoreChunkMap req.mHash

/-- All requests that are pending are handled. -/
def handlePendingRequests : FtController Hash PeerId :=
  c.mPendingRequests.foldl (fun c _ => c.handleAPendingRequest env) c

/-- The item of a request that is pending: that of its chunk map or a new one, without the turtle
peers. -/
def savePending (req : FtPendingRequest Hash PeerId) : RsFileTransfer Hash PeerId :=
  let rft := (c.mPendingChunkMaps.get? req.mHash).getD req.newItem
  { rft with allPeerIds := rft.allPeerIds.filter fun id => !env.isTurtlePeer id }

/-- The downloads that `saveList` writes, and the requests that are pending. -/
def saveList : List (RsFileTransfer Hash PeerId) :=
  ((c.mDownloads.toList.map Prod.snd).filter fun f => !isCache f.mFlags).map (·.save env) ++
    c.mPendingRequests.map (c.savePending env)

/-- What `loadList` does with an item. -/
def loadTransfer (item : RsFileTransfer Hash PeerId) : FtController Hash PeerId :=
  let rsft := item.compatible
  let c := c.fileRequest env rsft.request
  match c.mDownloads.get? rsft.hash with
  | none => { c with mPendingChunkMaps := c.mPendingChunkMaps.insert rsft.hash rsft }
  | some f =>
      { c with
        mDownloads := c.mDownloads.insert rsft.hash
          (f.withMap rsft.compressedChunkMap rsft.chunkStrategy) }

/-- `loadList`. -/
def loadList (items : List (RsFileTransfer Hash PeerId)) : FtController Hash PeerId :=
  items.foldl (loadTransfer env) c

/-- A new controller that has loaded what this one saves. -/
def restart : FtController Hash PeerId := new.loadList env (c.saveList env)

end FtController

end Restart

end Ft
