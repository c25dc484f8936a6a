import RetroShare.Ft.ChunkMap
import RetroShare.Lib.Machine

/-!
# The creator of a file

`ftFileCreator` of `ftfilecreator.cc` hands the slices of a chunk map to peers and writes the
data that comes back.  `mChunks` holds what is missing of the slices, by offset; when data
arrives in the middle of an entry, the entry is split, and the parts of a slice share a
counter.

A counter is known by its address: `refCnt` maps the addresses of the counters that are
allocated to their values, and `fresh` is an address that has not been used.  What the file
system does is an input.
-/

namespace Ft

/-- `CHUNK_MAX_AGE`. -/
def chunkMaxAge : Int := 120

/-- `MAX_FTCHUNKS_PER_PEER`. -/
def maxFtchunksPerPeer : Nat := 20

/-- What the file system does when data is written; `writes` is how many bytes are written before
the writing fails. -/
structure WriteOutcome where
  checkForDiscSpace : Bool
  opens : Bool
  seeks : Bool
  writes : Nat

/-- What the file system does when a chunk is verified, and whether the checksum of what is
read is the one that is expected. -/
structure VerifyOutcome where
  opens : Bool
  seeks : Bool
  reads : Bool
  sumAgrees : Bool

/-- What a file creator does. -/
inductive FileEvent (PeerId : Type) where
  /-- Something happens to a chunk of the file. -/
  | chunk (e : Event)
  /-- A new slice is handed to a peer. -/
  | handed (peerId : PeerId) (id : Nat)
  /-- A slice is complete. -/
  | finished (id : Nat)
  /-- A slice is given up. -/
  | purged (id : Nat)
  deriving DecidableEq

/-- `ftFileCreator`, with the part of `ftFileProvider` that it uses. -/
structure FileCreator (PeerId : Type) [LinearOrder PeerId] where
  chunkMap : ChunkMap PeerId
  mChunks : OrdMap Nat (FtChunk PeerId)
  mChunksPerPeer : OrdMap PeerId Nat
  refCnt : OrdMap Nat Int
  fresh : Nat
  fd : Bool
  lastRecvTime : Int

namespace FileCreator

variable {PeerId : Type} [LinearOrder PeerId] (s : FileCreator PeerId)

/-- The constructor; `lastRecvTime` is the time of the last change of the file, or the current
time. -/
def new (size : Nat) (availability : Bool) (lastRecvTime : Int) : FileCreator PeerId where
  chunkMap := ChunkMap.new size availability
  mChunks := OrdMap.empty
  mChunksPerPeer := OrdMap.empty
  refCnt := OrdMap.empty
  fresh := 0
  fd := false
  lastRecvTime := lastRecvTime

/-- `mChunksPerPeer[peerId].cnt`. -/
def cnt (peerId : PeerId) : Nat := (s.mChunksPerPeer.get? peerId).getD 0

/-- The value of a counter. -/
def count (p : Nat) : Int := (s.refCnt.get? p).getD 0

/-- `--mChunksPerPeer[peerId].cnt`. -/
def decrementCnt (peerId : PeerId) : FileCreator PeerId :=
  { s with mChunksPerPeer := s.mChunksPerPeer.insert peerId (sub32 (s.cnt peerId) 1) }

/-- `--*ref_cnt`, after which a counter that has become `0` is deleted. -/
def decrementRef (p : Nat) : FileCreator PeerId :=
  { s with
    refCnt :=
      if s.count p - 1 = 0 then s.refCnt.erase p else s.refCnt.insert p (s.count p - 1) }

/-! ### Receiving data -/

/-- The end of `locked_notifyReceived`, for the part `chunk` of a slice that the data belongs
to. -/
def receivePart (now : Int) (chunk : FtChunk PeerId) (size : Nat) :
    FileCreator PeerId × List (FileEvent PeerId) :=
  let s := { s with lastRecvTime := now }
  if chunk.size ≠ size then
    let rest :=
      { chunk with size := sub64 chunk.size size, offset := add64 chunk.offset size }
    ({ s with mChunks := s.mChunks.insert rest.offset rest }, [])
  else if s.count chunk.refCnt - 1 = 0 then
    let r := s.chunkMap.dataReceived now chunk.id
    (({ s with chunkMap := r.1 }.decrementCnt chunk.peerId).decrementRef chunk.refCnt,
      .finished chunk.id :: r.2.map .chunk)
  else
    (s.decrementRef chunk.refCnt, [])

/-- The entry of `mChunks` in the middle of which data starts, and which it does not exceed. -/
def findEnclosing (offset size : Nat) : Option (FtChunk PeerId) :=
  (s.mChunks.toList.find? fun e =>
    e.2.offset < offset ∧ add64 size offset ≤ add64 e.2.size e.2.offset).map Prod.snd

/-- `locked_notifyReceived`. -/
def notifyReceived (now : Int) (offset size : Nat) :
    FileCreator PeerId × List (FileEvent PeerId) :=
  match s.mChunks.get? offset with
  | some chunk => { s with mChunks := s.mChunks.erase offset }.receivePart now chunk size
  | none =>
      match s.findEnclosing offset size with
      | none => (s, [])
      | some chunk =>
          let part1 := { chunk with size := sub64 offset chunk.offset }
          let part2 := { chunk with offset := offset, size := sub64 chunk.size part1.size }
          { s with
            mChunks := s.mChunks.insert part1.offset part1
            refCnt := s.refCnt.insert chunk.refCnt (s.count chunk.refCnt + 1)
          }.receivePart now part2 size

/-- `addFileData`.  When not all is written, what is written stays in the file, but is not noted.
Nothing is written before the start of a file: offsets of `2 ^ 63` and more are negative numbers for
`fseeko64`. -/
def addFileData (now : Int) (io : WriteOutcome) (offset : UInt64) (chunkSize : UInt32) :
    FileCreator PeerId × List (FileEvent PeerId) :=
  if !io.checkForDiscSpace then
    (s, [])
  else if !s.fd && !io.opens then
    (s, [])
  else
    let s := { s with fd := true }
    let offset := offset.toNat
    let size :=
      if s.chunkMap.fileSize < add64 offset chunkSize.toNat then
        sub64 s.chunkMap.fileSize offset % 2 ^ 32
      else
        chunkSize.toNat
    let written := min io.writes size
    if 2 ^ 63 ≤ offset || !io.seeks then
      (s, [])
    else if written = 0 then
      (s, [])
    else if written < size then
      (s, [.chunk (.wrote offset written)])
    else
      let r := s.notifyReceived now offset size
      (if r.1.chunkMap.fileIsComplete then { r.1 with fd := false } else r.1,
        .chunk (.wrote offset size) :: r.2)

/-! ### Asking for data -/

/-- What `getMissingChunk` returns. -/
structure MissingChunk (PeerId : Type) [LinearOrder PeerId] where
  creator : FileCreator PeerId
  /-- The offset and the size of what is asked for, unless `false` is returned. -/
  request : Option (Nat × Nat)
  sourceChunkMapNeeded : Bool
  events : List (FileEvent PeerId)

/-- The first loop of `getMissingChunk`: an entry that has been asked for a long time ago and
that the source has. -/
def findFaulting (now : Int) (peerId : PeerId) :
    List (Nat × FtChunk PeerId) → ChunkMap PeerId →
      ChunkMap PeerId × Option (Nat × FtChunk PeerId)
  | [], m => (m, none)
  | e :: entries, m =>
      if e.2.ts + chunkMaxAge < now then
        let r := m.getSourceChunksInfo peerId
        if r.2.hasData e.2.offset then (r.1, some e) else findFaulting now peerId entries r.1
      else
        findFaulting now peerId entries m

/-- The end of `getMissingChunk`: a new slice is taken. -/
def handSlice (fits : Nat → Nat → Bool) (now : Int) (rand : Nat) (peerId : PeerId)
    (sizeHint : Nat) : MissingChunk PeerId :=
  let s := { s with mChunksPerPeer := s.mChunksPerPeer.insert peerId (s.cnt peerId) }
  if maxFtchunksPerPeer ≤ s.cnt peerId then
    ⟨s, none, false, []⟩
  else
    let r := s.chunkMap.getDataChunk fits now rand peerId sizeHint false
    let s := { s with chunkMap := r.chunkMap }
    match r.chunk with
    | none => ⟨s, none, r.sourceChunkMapNeeded, r.events.map .chunk⟩
    | some chunk =>
        ⟨{ s with
            mChunks := s.mChunks.insert chunk.offset { chunk with refCnt := s.fresh }
            mChunksPerPeer := s.mChunksPerPeer.insert peerId (s.cnt peerId + 1)
            refCnt := s.refCnt.insert s.fresh 1
            fresh := s.fresh + 1 },
          some (chunk.offset, chunk.size), r.sourceChunkMapNeeded,
          r.events.map .chunk ++ [.handed peerId chunk.id]⟩

/-- `getMissingChunk`. -/
def getMissingChunk (fits : Nat → Nat → Bool) (now : Int) (rand : Nat) (peerId : PeerId)
    (sizeHint : Nat) : MissingChunk PeerId :=
  let r := findFaulting now peerId s.mChunks.toList s.chunkMap
  let s := { s with chunkMap := r.1 }
  match r.2 with
  | some e =>
      ⟨{ s with mChunks := s.mChunks.insert e.1 { e.2 with ts := now } },
        some (e.2.offset, e.2.size % 2 ^ 32), false, []⟩
  | none => s.handSlice fits now rand peerId sizeHint

/-! ### Giving up, and checks -/

/-- An entry of `mChunks` is removed. -/
def removePart (e : Nat × FtChunk PeerId) : FileCreator PeerId :=
  { (s.decrementRef e.2.refCnt).decrementCnt e.2.peerId with mChunks := s.mChunks.erase e.1 }

/-- The inner loop of `removeInactiveChunks`, which removes the parts of a slice. -/
def removeSlice (id : Nat) : FileCreator PeerId :=
  s.mChunks.toList.foldl (fun s e => if e.2.id = id then s.removePart e else s) s

/-- `removeInactiveChunks`. -/
def removeInactiveChunks (now : Int) : FileCreator PeerId × List (FileEvent PeerId) :=
  let r := s.chunkMap.removeInactiveChunks now
  (r.2.foldl removeSlice { s with chunkMap := r.1 }, r.2.map .purged)

/-- `verifyChunk`. -/
def verifyChunk (c : Nat) (io : VerifyOutcome) : FileCreator PeerId :=
  if !s.fd && !io.opens then
    s
  else
    { s with
      fd := true
      chunkMap := s.chunkMap.setChunkCheckingResult c (io.seeks && io.reads && io.sumAgrees) }

/-! ### The creator as a machine -/

/-- A call of an operation of the file creator. -/
inductive Call (PeerId : Type) where
  | getMissingChunk (now : Int) (rand : Nat) (peerId : PeerId) (sizeHint : Nat)
  | addFileData (now : Int) (io : WriteOutcome) (offset : UInt64) (chunkSize : UInt32)
  | removeInactiveChunks (now : Int)
  | setSourceMap (now : Int) (peerId : PeerId) (cmap : CompressedChunkMap)
  | removeFileSource (peerId : PeerId)
  | forceCheck
  | getChunksToCheck
  | verifyChunk (c : Nat) (io : VerifyOutcome)

/-- The file creator as a machine that is called. -/
def machine (fits : Nat → Nat → Bool) :
    Machine (FileCreator PeerId) (Call PeerId) (FileEvent PeerId) where
  step s
    | .getMissingChunk now rand peerId sizeHint =>
        let r := s.getMissingChunk fits now rand peerId sizeHint
        (r.creator, r.events)
    | .addFileData now io offset chunkSize => s.addFileData now io offset chunkSize
    | .removeInactiveChunks now => s.removeInactiveChunks now
    | .setSourceMap now peerId cmap =>
        ({ s with chunkMap := s.chunkMap.setPeerAvailabilityMap now peerId cmap }, [])
    | .removeFileSource peerId => ({ s with chunkMap := s.chunkMap.removeFileSource peerId }, [])
    | .forceCheck => ({ s with chunkMap := s.chunkMap.forceCheck }, [])
    | .getChunksToCheck => ({ s with chunkMap := s.chunkMap.getChunksToCheck.1 }, [])
    | .verifyChunk c io => (s.verifyChunk c io, [])

end FileCreator

end Ft
