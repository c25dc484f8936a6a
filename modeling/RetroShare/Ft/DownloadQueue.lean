import RetroShare.Lib.OrdMap

/-!
# The queue of downloads

`ftController` of `ftcontroller.cc`, as far as the queue of the downloads goes: `_queue` is a vector
of pointers to the `ftFileControl`s of `mDownloads`, each of which keeps its position in it.

An `ftFileControl` is known by its address: `objects` maps the addresses of those that are allocated
to their contents, and `fresh` is an address that has not been used.  What depends on the transfer
modules, the file creators and the search, such as whether a file is finished, is an input.
-/

namespace Ft

/-- The states of an `ftFileControl`. -/
inductive ControlState where
  | downloading
  | completed
  | errorCompletion
  | queued
  | paused
  | checkingHash
  deriving DecidableEq

/-- `RS_FILE_REQ_CACHE`. -/
def rsFileReqCache : Nat := 0x00000400

/-- `RS_FILE_REQ_ANONYMOUS_ROUTING`. -/
def rsFileReqAnonymousRouting : Nat := 0x00000040

/-- `RS_FILE_HINTS_NETWORK_WIDE`. -/
def rsFileHintsNetworkWide : Nat := 0x00000080

/-- The file is a cache file. -/
def isCache (flags : Nat) : Bool := flags &&& rsFileReqCache != 0

/-- `ftFileControl`. -/
structure FtFileControl (Hash : Type) where
  mState : ControlState
  mHash : Hash
  mSize : Nat
  mFlags : Nat
  mQueuePosition : Nat
  deriving DecidableEq

/-- `ftPendingRequest`, which is also what `FileRequest` is called with. -/
structure FtPendingRequest (Hash : Type) where
  mHash : Hash
  mSize : Nat
  mFlags : Nat
  mState : ControlState
  deriving DecidableEq

/-- `RsFileTransfer`. -/
structure RsFileTransfer (Hash : Type) where
  hash : Hash
  filesize : Nat
  flags : Nat
  state : ControlState
  deriving DecidableEq

/-- Why a call does not come to its end. -/
inductive Fault where
  /-- `_queue` is accessed out of its range. -/
  | outOfRange
  /-- An `ftFileControl` is accessed that is not allocated. -/
  | dangling
  /-- A loop does not end. -/
  | endless
  deriving DecidableEq

/-- `QueueMove`. -/
inductive QueueMove where
  | top
  | up
  | down
  | bottom

/-- The flags of `FileControl`. -/
inductive ControlFlag where
  | pause
  | start
  | forceCheck
  | other

/-- `ftController`. -/
structure FtController (Hash : Type) [LinearOrder Hash] where
  objects : Nat → Option (FtFileControl Hash)
  fresh : Nat
  queue : List Nat
  mDownloads : OrdMap Hash Nat
  mCompleted : OrdMap Hash Nat
  maxActiveDownloads : Nat
  minPrioritizedTransfers : Nat
  mFtActive : Bool
  mPendingRequests : List (FtPendingRequest Hash)
  mPendingChunkMaps : OrdMap Hash (RsFileTransfer Hash)

/-- The `ftFileControl` after `locked_checkQueueElement` at `pos`. -/
def FtFileControl.checked {Hash : Type} (fc : FtFileControl Hash) (maxActiveDownloads pos : Nat) :
    FtFileControl Hash :=
  { fc with
    mQueuePosition := pos
    mState :=
      if pos < maxActiveDownloads ∧ fc.mState ≠ .paused then .downloading
      else if maxActiveDownloads ≤ pos ∧ fc.mState ≠ .queued ∧ fc.mState ≠ .paused then .queued
      else fc.mState }

namespace FtController

variable {Hash : Type} [LinearOrder Hash] (c : FtController Hash) (req : FtPendingRequest Hash)

/-- The constructor.  The address `0` is `NULL`. -/
def new : FtController Hash where
  objects := fun _ => none
  fresh := 1
  queue := []
  mDownloads := .empty
  mCompleted := .empty
  maxActiveDownloads := 5
  minPrioritizedTransfers := 3
  mFtActive := false
  mPendingRequests := []
  mPendingChunkMaps := .empty

/-! ### The vector -/

/-- The `ftFileControl` at an address. -/
def object (fc : Nat) : Except Fault (FtFileControl Hash) :=
  match c.objects fc with
  | none => .error .dangling
  | some control => .ok control

/-- `_queue[pos]`. -/
def element (pos : Nat) : Except Fault Nat :=
  match c.queue[pos]? with
  | none => .error .outOfRange
  | some fc => .ok fc

/-- The controller after `_queue[pos] = fc`. -/
def setElement (pos fc : Nat) : Except Fault (FtController Hash) :=
  if pos < c.queue.length then .ok { c with queue := c.queue.set pos fc }
  else .error .outOfRange

/-- The controller whose `ftFileControl` at `fc` is replaced. -/
def setObject (fc : Nat) (control : FtFileControl Hash) : FtController Hash :=
  { c with objects := Function.update c.objects fc (some control) }

/-- `locked_checkQueueElement`. -/
def checkQueueElement (pos : Nat) : Except Fault (FtController Hash) := do
  let fc ← c.element pos
  let control ← c.object fc
  .ok (c.setObject fc (control.checked c.maxActiveDownloads pos))

/-- The loop that moves the `n` elements behind `pos` forwards by one. -/
def moveForwards (c : FtController Hash) : Nat → Nat → Except Fault (FtController Hash)
  | _, 0 => .ok c
  | pos, n + 1 => do
      let next ← c.element (pos + 1)
      let c ← c.setElement pos next
      let c ← c.checkQueueElement pos
      moveForwards c (pos + 1) n

/-- The loop that moves the `n` elements from `pos` on backwards by one, the last one first. -/
def moveBackwards (c : FtController Hash) (pos : Nat) : Nat → Except Fault (FtController Hash)
  | 0 => .ok c
  | n + 1 => do
      let previous ← c.element (pos + n)
      let c ← c.setElement (pos + n + 1) previous
      let c ← c.checkQueueElement (pos + n + 1)
      moveBackwards c pos n

/-- `locked_queueRemove`.  In an empty queue the bound of the loop wraps around. -/
def queueRemove (pos : Nat) : Except Fault (FtController Hash) :=
  if c.queue.length = 0 then .error .outOfRange
  else do
    let c ← c.moveForwards pos (c.queue.length - 1 - pos)
    .ok { c with queue := c.queue.dropLast }

/-- `locked_topQueue`. -/
def topQueue (pos : Nat) : Except Fault (FtController Hash) := do
  let tmp ← c.element pos
  let c ← c.moveBackwards 0 pos
  let c ← c.setElement 0 tmp
  c.checkQueueElement 0

/-- `locked_bottomQueue`. -/
def bottomQueue (pos : Nat) : Except Fault (FtController Hash) := do
  let tmp ← c.element pos
  let c ← c.moveForwards pos (c.queue.length - 1 - pos)
  let c ← c.setElement (c.queue.length - 1) tmp
  c.checkQueueElement (c.queue.length - 1)

/-- `locked_swapQueue`. -/
def swapQueue (pos1 pos2 : Nat) : Except Fault (FtController Hash) :=
  if pos1 = pos2 then .ok c
  else do
    let tmp ← c.element pos1
    let other ← c.element pos2
    let c ← c.setElement pos1 other
    let c ← c.setElement pos2 tmp
    let c ← c.checkQueueElement pos1
    c.checkQueueElement pos2

/-- The first position behind the ones of cache files and the prioritized ones, from `pos` on. -/
def positionAfterCache (pos : Nat) : Nat → Except Fault Nat
  | 0 => .ok pos
  | n + 1 => do
      if pos < c.minPrioritizedTransfers then positionAfterCache (pos + 1) n
      else
        let control ← c.object (← c.element pos)
        if isCache control.mFlags then positionAfterCache (pos + 1) n
        else .ok pos

/-- The strategies of `locked_addToQueue`. -/
inductive AddStrategy where
  | atEnd
  | afterCache

/-- `locked_addToQueue`. -/
def addToQueue (fc : Nat) : AddStrategy → Except Fault (FtController Hash)
  | .atEnd =>
      let c := { c with queue := c.queue ++ [fc] }
      c.checkQueueElement (c.queue.length - 1)
  | .afterCache => do
      let pos ← c.positionAfterCache 0 c.queue.length
      let c := { c with queue := c.queue ++ [0] }
      let c ← c.moveBackwards pos (c.queue.length - 1 - pos)
      let c ← c.setElement pos fc
      c.checkQueueElement pos

/-! ### The calls about the queue -/

/-- `locked_checkQueueElement` for the positions that exist among `n` from `pos` on. -/
def checkFrom (c : FtController Hash) : Nat → Nat → Except Fault (FtController Hash)
  | _, 0 => .ok c
  | pos, n + 1 => do
      let c ← if pos < c.queue.length then c.checkQueueElement pos else .ok c
      checkFrom c (pos + 1) n

/-- `setQueueSize`.  The loop does not end when its bound is the largest number of its type. -/
def setQueueSize (s : Nat) : Except Fault (FtController Hash) :=
  if 0 < s then
    let old := c.maxActiveDownloads
    let c := { c with maxActiveDownloads := s }
    if max s old = 2 ^ 32 - 1 then .error .endless
    else c.checkFrom (min s old) (max s old + 1 - min s old)
  else .ok c

/-- `setMinPrioritizedTransfers`. -/
def setMinPrioritizedTransfers (s : Nat) : FtController Hash :=
  { c with minPrioritizedTransfers := s }

/-- `moveInQueue`. -/
def moveInQueue (hash : Hash) (move : QueueMove) : Except Fault (FtController Hash) :=
  match c.mDownloads.get? hash with
  | none => .ok c
  | some fc => do
      let pos := (← c.object fc).mQueuePosition
      match move with
      | .top => c.topQueue pos
      | .bottom => c.bottomQueue pos
      | .up => if 0 < pos then c.swapQueue pos (pos - 1) else .ok c
      | .down =>
          -- The bound wraps around in an empty queue.
          if c.queue.length = 0 ∨ pos < c.queue.length - 1 then c.swapQueue pos (pos + 1)
          else .ok c

/-- The first loop of `checkDownloadQueue`, over the downloads: those that are paused or inactive go
to the end, as long as not too many have gone there. -/
def requeueInactive (inactive : Nat → Bool) (c : FtController Hash) :
    List (Hash × Nat) → Nat → Except Fault (FtController Hash)
  | [], _ => .ok c
  | (_, fc) :: downloads, nbMoved => do
      if c.maxActiveDownloads < nbMoved then .ok c
      else
        let control ← c.object fc
        if control.mState ≠ .queued ∧ (control.mState = .paused ∨ inactive fc) then
          let c ← c.bottomQueue control.mQueuePosition
          requeueInactive inactive c downloads (nbMoved + 1)
        else requeueInactive inactive c downloads nbMoved

/-- What the second loop of `checkDownloadQueue` collects. -/
structure Transfers where
  userTransfers : Nat
  toMoveBefore : List Nat
  toMoveAfter : List Nat

/-- The second loop of `checkDownloadQueue`, over `n` positions from `p` on. -/
def collectTransfers : Nat → Nat → Transfers → Except Fault Transfers
  | _, 0, transfers => .ok transfers
  | p, n + 1, transfers => do
      let control ← c.object (← c.element p)
      if p < c.minPrioritizedTransfers then
        if isCache control.mFlags then
          collectTransfers (p + 1) n
            { transfers with toMoveBefore := transfers.toMoveBefore ++ [p] }
        else
          collectTransfers (p + 1) n
            { transfers with userTransfers := transfers.userTransfers + 1 }
      else if c.minPrioritizedTransfers ≤
          transfers.toMoveAfter.length + transfers.userTransfers then .ok transfers
      else if isCache control.mFlags then collectTransfers (p + 1) n transfers
      else
        collectTransfers (p + 1) n { transfers with toMoveAfter := transfers.toMoveAfter ++ [p] }

/-- A `uint32_t` as an `int`. -/
def asInt (x : Nat) : Int := if x < 2 ^ 31 then x else (x : Int) - 2 ^ 32

/-- The swaps of some pairs of positions. -/
def swapAll (c : FtController Hash) : List (Nat × Nat) → Except Fault (FtController Hash)
  | [] => .ok c
  | (pos1, pos2) :: pairs => do
      let c ← c.swapQueue pos1 pos2
      swapAll c pairs

/-- `checkDownloadQueue`, with the transfers for which there was no traffic. -/
def checkDownloadQueue (inactive : Nat → Bool) : Except Fault (FtController Hash) :=
  if c.mDownloads.toList.length ≤ c.maxActiveDownloads then .ok c
  else do
    let c ← requeueInactive inactive c c.mDownloads.toList 0
    let transfers ← c.collectTransfers 0 c.queue.length ⟨0, [], []⟩
    let toMove := (asInt c.minPrioritizedTransfers - transfers.userTransfers).toNat
    c.swapAll ((transfers.toMoveBefore.zip transfers.toMoveAfter).take toMove)

/-! ### The calls about downloads -/

/-- The request comes to its end before it locks the controller: the file is there already, or it
is empty, or its size is not possible. -/
def refuses (alreadyHave : Bool) : Bool :=
  alreadyHave || req.mSize == 0 || decide (1024 * 1024 * (2 ^ 32 - 1) ≤ req.mSize)

/-- The controller after it stored a request for later. -/
def storeRequest : FtController Hash :=
  { c with mPendingRequests := c.mPendingRequests ++ [req] }

/-- The file is being downloaded already. -/
def isDownloading (hash : Hash) : Bool := (c.mDownloads.get? hash).isSome

/-- The last part of `FileRequest`: a new `ftFileControl` is put into the queue and the map. -/
def addDownload : Except Fault (FtController Hash) := do
  let fc := c.fresh
  let control : FtFileControl Hash :=
    { mState := .downloading, mHash := req.mHash, mSize := req.mSize, mFlags := req.mFlags,
      mQueuePosition := 0 }
  let c ← ({ c with fresh := c.fresh + 1 }.setObject fc control).addToQueue fc .atEnd
  .ok { c with mDownloads := c.mDownloads.insert req.mHash fc }

/-- `FileRequest`, when nothing comes in between. -/
def fileRequest (alreadyHave : Bool) :
    Except Fault (FtController Hash) :=
  if refuses req alreadyHave then .ok c
  else if ¬c.mFtActive then .ok (c.storeRequest req)
  else if c.isDownloading req.mHash then .ok c
  else c.addDownload req

/-- The controller without an `ftFileControl`. -/
def deleteObject (fc : Nat) : FtController Hash :=
  { c with objects := Function.update c.objects fc none }

/-- The part of `completeFile` that locks the controller, for a file that is finished or not, and
is moved to its place or not. -/
def completeFile (hash : Hash) (finished moved : Bool) : Except Fault (FtController Hash) :=
  match c.mDownloads.get? hash with
  | none => .ok c
  | some fc =>
      if ¬finished then .ok c
      else do
        let control ← c.object fc
        let control :=
          { control with
            mState := if 0 < control.mSize ∧ moved then .completed else .errorCompletion }
        let c ← (c.setObject fc control).queueRemove control.mQueuePosition
        let c :=
          if ¬isCache control.mFlags then
            { c with mCompleted := c.mCompleted.insert control.mHash fc }
          else c.deleteObject fc
        .ok { c with mDownloads := c.mDownloads.erase hash }

/-- `FileCancel`. -/
def fileCancel (hash : Hash) (finished : Bool) : Except Fault (FtController Hash) :=
  match c.mDownloads.get? hash with
  | none => .ok c
  | some fc =>
      if finished then .ok c
      else do
        let control ← c.object fc
        let c ← c.queueRemove control.mQueuePosition
        .ok { c.deleteObject fc with mDownloads := c.mDownloads.erase hash }

/-- `FileControl`. -/
def fileControl (hash : Hash) (flag : ControlFlag) : Except Fault (FtController Hash) :=
  match c.mDownloads.get? hash with
  | none => .ok c
  | some fc => do
      let control ← c.object fc
      match flag with
      | .pause => .ok (c.setObject fc { control with mState := .paused })
      | .start => .ok (c.setObject fc { control with mState := .downloading })
      | .forceCheck => .ok c
      | .other => .ok c

/-! ### Restarts -/

/-- `activate`. -/
def activate : FtController Hash := { c with mFtActive := true }

/-- The last part of `handleAPendingRequest`: the state that was saved with the chunk map. -/
def restoreChunkMap (hash : Hash) : Except Fault (FtController Hash) :=
  match c.mPendingChunkMaps.get? hash with
  | none => .ok c
  | some rsft => do
      let c ←
        match c.mDownloads.get? rsft.hash with
        | none => .ok c
        | some fc => do
            let control ← c.object fc
            .ok (c.setObject fc { control with mState := rsft.state })
      .ok { c with mPendingChunkMaps := c.mPendingChunkMaps.erase hash }

/-- `handleAPendingRequest`, when nothing comes in between. -/
def handleAPendingRequest (alreadyHave : Bool) : Except Fault (FtController Hash) :=
  match c.mPendingRequests with
  | [] => .ok c
  | req :: reqs => do
      let c ← { c with mPendingRequests := reqs }.fileRequest req alreadyHave
      c.restoreChunkMap req.mHash

/-- What `saveList` writes: the numbers of active and of prioritized downloads, and the files. -/
structure Saved (Hash : Type) where
  activeDownloadsSize : Nat
  minPrioritizedDownl : Nat
  transfers : List (RsFileTransfer Hash)

/-- `FileDownloads`. -/
def fileDownloads : Except Fault (List Hash) :=
  (c.mDownloads.toList ++ c.mCompleted.toList).mapM fun entry => do
    .ok (← c.object entry.2).mHash

/-- The item of a file that is being downloaded. -/
def saveDownload (hash : Hash) : Except Fault (Option (RsFileTransfer Hash)) :=
  match c.mDownloads.get? hash with
  | none => .ok none
  | some fc => do
      let control ← c.object fc
      if isCache control.mFlags then .ok none
      else
        .ok (some
          { hash := control.mHash, filesize := control.mSize, flags := control.mFlags,
            state := control.mState })

/-- The item of a pending request. -/
def savePending : RsFileTransfer Hash :=
  match c.mPendingChunkMaps.get? req.mHash with
  | some rsft => rsft
  | none =>
      { hash := req.mHash, filesize := req.mSize, flags := req.mFlags, state := req.mState }

/-- `saveList`. -/
def saveList : Except Fault (Saved Hash) := do
  let hashs ← c.fileDownloads
  let downloads ← hashs.mapM c.saveDownload
  .ok { activeDownloadsSize := c.maxActiveDownloads
        minPrioritizedDownl := c.minPrioritizedTransfers
        transfers := downloads.reduceOption ++ c.mPendingRequests.map c.savePending }

/-- The flags of an item, with the one of previous versions replaced. -/
def compatibleFlags (flags : Nat) : Nat :=
  if flags &&& rsFileHintsNetworkWide ≠ 0 then
    (flags ^^^ rsFileHintsNetworkWide) ||| rsFileReqAnonymousRouting
  else flags

/-- What `loadList` does with a file, which may be there already. -/
def loadTransfer (alreadyHave : Hash → Bool) (c : FtController Hash)
    (item : RsFileTransfer Hash) : Except Fault (FtController Hash) := do
  let rsft := { item with flags := compatibleFlags item.flags }
  let c ← c.fileRequest ⟨rsft.hash, rsft.filesize, rsft.flags, rsft.state⟩ (alreadyHave rsft.hash)
  if c.isDownloading rsft.hash then .ok c
  else .ok { c with mPendingChunkMaps := c.mPendingChunkMaps.insert rsft.hash rsft }

/-- `loadList`. -/
def loadList (saved : Saved Hash) (alreadyHave : Hash → Bool) :
    Except Fault (FtController Hash) := do
  let c ← c.setQueueSize saved.activeDownloadsSize
  let c := c.setMinPrioritizedTransfers saved.minPrioritizedDownl
  saved.transfers.foldlM (loadTransfer alreadyHave) c

/-- A new controller that loads what this one saves. -/
def restart (alreadyHave : Hash → Bool) : Except Fault (FtController Hash) := do
  let saved ← c.saveList
  new.loadList saved alreadyHave

end FtController

end Ft
