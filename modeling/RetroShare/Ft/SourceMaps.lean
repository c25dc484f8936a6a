import RetroShare.Ft.Soundness
import RetroShare.Lib.Machine

/-!
# The chunk maps of the sources

`getDataChunk` takes a slice for a peer from the peer's own feed, from the feed of another peer or
from a chunk that it allocates.  In the last two cases it looks at the chunk map of the peer; that
the peer still has the chunk of its own feed is not checked.  So every slice lies in a chunk of the
last map of its peer exactly when no peer is asked that has a feed in a chunk which this map does
not have (`respects_run_iff`).
-/

namespace Ft

variable {PeerId : Type} [LinearOrder PeerId]

namespace ChunkMap

variable {file : File} {m : ChunkMap PeerId}

/-! ### The sources along the operations -/

theorem sameSources_receiveSlice (m : ChunkMap PeerId) (now : Int) (c : Nat)
    (info : ChunkDownloadInfo) (cid size : Nat) :
  m.SameSources (m.receiveSlice now c info cid size)
  := sameSources_of_eq rfl rfl rfl

theorem sameSources_completeChunk (m : ChunkMap PeerId) (c : Nat) :
  m.SameSources (m.completeChunk c)
  := by
  obtain ⟨s, queue, -, heq⟩ := m.retireChunk_eq c
  rw [completeChunk, heq]
  apply sameSources_of_eq
  · rfl
  · apply List.length_set
  · rfl

theorem Sound.sameSources_dataReceived (h : m.Sound file) (now : Int) (cid : Nat) :
  m.SameSources (m.dataReceived now cid).1
  := by
  rcases h.dataReceived_cases now cid with
    ⟨heq, -⟩ | ⟨c, info, size, -, -, ⟨-, heq⟩ | ⟨-, heq⟩⟩
  · rw [heq]
    exact .refl m
  · rw [heq]
    apply sameSources_receiveSlice
  · rw [heq]
    apply (m.sameSources_receiveSlice now c info cid size).trans
    apply sameSources_completeChunk

theorem sameSources_removeInactiveChunks (m : ChunkMap PeerId) (now : Int) :
  m.SameSources (m.removeInactiveChunks now).1
  := by
  apply removeInactiveChunks_induction (P := fun m' _ => m.SameSources m') (.refl m)
  intro m' ids c info h _ _
  apply h.trans
  apply sameSources_of_eq
  · rfl
  · apply List.length_set
  · rfl

/-! ### The chunk of a slice -/

theorem Sound.takeSlice_chunk (h : m.Sound file) {owner : PeerId} {feed : Chunk}
    (hfeed : m.activeChunksFeed.get? owner = some feed) (now : Int) (sizeHint : Nat)
    (peerId : PeerId) {slice : FtChunk PeerId}
    (hslice : (m.takeSlice now sizeHint peerId owner feed).2 = slice) :
  slice.offset / chunkSize = feed.start / chunkSize ∧ feed.start / chunkSize < file.chunks ∧
    slice.offset + slice.size ≤ (slice.offset / chunkSize + 1) * chunkSize
  := by
  obtain ⟨c, info, hinfo, hc, hof, -⟩ := h.of_feed hfeed
  have hoffset : feed.offset / chunkSize = c :=
    File.div_chunkSize hof.start_le (hof.lt_end.trans_eq hof.endOffset)
  have hstart : feed.start / chunkSize = c := by
    rw [hof.start, Nat.mul_div_cancel _ (by decide)]
  rw [takeSlice_of_isFeed hc hof hinfo] at hslice
  subst hslice
  refine ⟨hoffset.trans hstart.symm, hstart.trans_lt hc, ?_⟩
  dsimp only
  have hsize := file.sizeOf_le (c := c)
  have hend := hof.endOffset
  have hlt := hof.lt_end
  rw [hoffset, Nat.add_mul, Nat.one_mul]
  simp only [sliceSize, File.chunkEnd] at hend ⊢
  omega

/-- Where the slice comes from that `getDataChunk` returns: its chunk is the one of the peer's feed,
or the peer has none and has the chunk. -/
theorem Sound.getDataChunk_chunk (h : m.Sound file) (fits : Nat → Nat → Bool) (now : Int)
    (rand : Nat) (peerId : PeerId) (sizeHint : Nat) (needed : Bool) :
  m.SameSources (m.getDataChunk fits now rand peerId sizeHint needed).chunkMap ∧
    match (m.getDataChunk fits now rand peerId sizeHint needed).chunk with
    | none => m.activeChunksFeed.get? peerId = none
    | some slice =>
      slice.offset / chunkSize < file.chunks ∧
        slice.offset + slice.size ≤ (slice.offset / chunkSize + 1) * chunkSize ∧
        ((∃ feed, m.activeChunksFeed.get? peerId = some feed ∧
            feed.start / chunkSize = slice.offset / chunkSize) ∨
          m.activeChunksFeed.get? peerId = none ∧ m.Has peerId (slice.offset / chunkSize))
  := by
  obtain ⟨m', hm', hsame, ⟨hmap, hchunk, hnone⟩ | ⟨owner, feed, hfeed, hmap, hchunk, hsource⟩⟩ :=
    h.getDataChunk_sources fits now rand peerId sizeHint needed rfl
  · rw [hmap, hchunk]
    exact ⟨hsame, hnone⟩
  · obtain ⟨hoffset, hlt, hend⟩ := (hm'.sound h).takeSlice_chunk hfeed now sizeHint peerId rfl
    rw [hmap, hchunk]
    refine ⟨hsame.trans (m'.sameSources_takeSlice now sizeHint peerId owner feed), ?_, hend, ?_⟩
    · rwa [hoffset]
    · rw [hoffset]
      rcases hsource with hown | ⟨hnone, hhas⟩
      · exact .inl ⟨feed, hown, rfl⟩
      · rw [File.mod_of_lt hlt] at hhas
        exact .inr ⟨hnone, hhas⟩

end ChunkMap

/-! ### The last map of every peer -/

/-- A call that hands out slices, or comes between. -/
inductive SourceCall (PeerId : Type) where
  | setPeerAvailabilityMap (now : Int) (peerId : PeerId) (cmap : CompressedChunkMap)
  | getDataChunk (now : Int) (rand : Nat) (peerId : PeerId) (sizeHint : Nat) (needed : Bool)
  | dataReceived (now : Int) (cid : Nat)
  | removeInactiveChunks (now : Int)

/-- A chunk map, and the last map of the right size that was set for every peer. -/
structure Sources (PeerId : Type) [LinearOrder PeerId] where
  chunkMap : ChunkMap PeerId
  last : OrdMap PeerId CompressedChunkMap

namespace Sources

/-- A chunk map without assumed availability, before any map has been set. -/
def new (size : Nat) : Sources PeerId where
  chunkMap := ChunkMap.new size false
  last := OrdMap.empty

/-- The chunk map is called. -/
def machine (fits : Nat → Nat → Bool) : Machine (Sources PeerId) (SourceCall PeerId) Unit where
  step s
    | .setPeerAvailabilityMap now peerId cmap =>
        ({ chunkMap := s.chunkMap.setPeerAvailabilityMap now peerId cmap
           last :=
            if cmap.map.length = CompressedChunkMap.getCompressedSize s.chunkMap.map.length then
              s.last.insert peerId cmap
            else s.last }, [])
    | .getDataChunk now rand peerId sizeHint needed =>
        ({ s with
          chunkMap := (s.chunkMap.getDataChunk fits now rand peerId sizeHint needed).chunkMap }, [])
    | .dataReceived now cid => ({ s with chunkMap := (s.chunkMap.dataReceived now cid).1 }, [])
    | .removeInactiveChunks now =>
        ({ s with chunkMap := (s.chunkMap.removeInactiveChunks now).1 }, [])

/-- The last map that was set for a peer marks a chunk as available. -/
def Marks (s : Sources PeerId) (peerId : PeerId) (c : Nat) : Prop :=
  (s.last.get? peerId).any fun cmap => cmap.get c

/-- A slice that is returned lies in a single chunk, which the last map of the peer marks. -/
def Respects (fits : Nat → Nat → Bool) (s : Sources PeerId) : SourceCall PeerId → Prop
  | .getDataChunk now rand peerId sizeHint needed =>
      ∀ slice ∈ (s.chunkMap.getDataChunk fits now rand peerId sizeHint needed).chunk,
        slice.offset + slice.size ≤ (slice.offset / chunkSize + 1) * chunkSize ∧
          s.Marks peerId (slice.offset / chunkSize)
  | _ => True

instance decidableRespects (fits : Nat → Nat → Bool) (s : Sources PeerId) :
    ∀ call, Decidable (s.Respects fits call)
  | .getDataChunk now rand peerId sizeHint needed =>
      inferInstanceAs (Decidable (∀ slice ∈
        (s.chunkMap.getDataChunk fits now rand peerId sizeHint needed).chunk,
        slice.offset + slice.size ≤ (slice.offset / chunkSize + 1) * chunkSize ∧
          (s.last.get? peerId).any fun cmap => cmap.get (slice.offset / chunkSize)))
  | .setPeerAvailabilityMap _ _ _ => .isTrue trivial
  | .dataReceived _ _ => .isTrue trivial
  | .removeInactiveChunks _ => .isTrue trivial

/-- A peer that is asked for a slice has no feed, or its last map marks the chunk of its feed. -/
def Meets (s : Sources PeerId) : SourceCall PeerId → Prop
  | .getDataChunk _ _ peerId _ _ =>
      ∀ feed ∈ s.chunkMap.activeChunksFeed.get? peerId, s.Marks peerId (feed.start / chunkSize)
  | _ => True

/-- What the chunk map records about the peers is in their last maps. -/
structure Known (file : File) (s : Sources PeerId) : Prop where
  sound : s.chunkMap.Sound file
  assumeAvailability : s.chunkMap.assumeAvailability = false
  marks : ∀ peerId, ∀ c < file.chunks, s.chunkMap.Has peerId c → s.Marks peerId c

variable {file : File} {s : Sources PeerId} {m : ChunkMap PeerId} {peerId : PeerId}
  {cmap : CompressedChunkMap}

/-- A peer without a record has no chunk, unless availability is assumed. -/
theorem not_has_of_get?_eq_none (hassume : m.assumeAvailability = false)
    (hget : m.peersChunksAvailability.get? peerId = none) (c : Nat) :
  ¬ m.Has peerId c
  := by
  have hzero : ∀ n i, (List.replicate n (0 : UInt32)).getD i 0 = 0 := by
    intro n i
    rw [List.getD_eq_getElem?_getD, List.getElem?_replicate]
    split <;> rfl
  simp [ChunkMap.Has, ChunkMap.getSourceChunksInfo, hget, hassume, SourceChunksInfo.Holds,
    CompressedChunkMap.get, hzero, -List.getD_eq_getElem?_getD]

theorem Known.new (file : File) :
  (new file.size : Sources PeerId).Known file
  where
  sound := .new file false
  assumeAvailability := rfl
  marks _ c _ h := absurd h (not_has_of_get?_eq_none rfl rfl c)

/-- An operation that keeps what is recorded about the peers. -/
theorem Known.of_sameSources (h : s.Known file) {m' : ChunkMap PeerId} (hsound : m'.Sound file)
    (hsame : s.chunkMap.SameSources m') :
  Known file { s with chunkMap := m' }
  where
  sound := hsound
  assumeAvailability := hsame.assumeAvailability.trans h.assumeAvailability
  marks peerId c hc hhas := h.marks peerId c hc (hsame.has_iff.mp hhas)

theorem setPeerAvailabilityMap_eq (now : Int) (peerId : PeerId)
    (hright : cmap.map.length = CompressedChunkMap.getCompressedSize m.map.length) :
  m.setPeerAvailabilityMap now peerId cmap =
    { m with
      peersChunksAvailability := m.peersChunksAvailability.insert peerId
        ⟨cmap, now, (List.range m.map.length).all cmap.get⟩ }
  := if_neg (not_not.mpr hright)

theorem has_setPeerAvailabilityMap {now : Int} {peerId' : PeerId}
    (hright : cmap.map.length = CompressedChunkMap.getCompressedSize m.map.length) {c : Nat}
    (hc : c < m.map.length) (h : (m.setPeerAvailabilityMap now peerId cmap).Has peerId' c) :
  if peerId' = peerId then cmap.get c else m.Has peerId' c
  := by
  rw [setPeerAvailabilityMap_eq now peerId hright, ChunkMap.Has, ChunkMap.getSourceChunksInfo] at h
  simp only [OrdMap.get?_insert] at h
  by_cases heq : peerId' = peerId
  · simp only [if_pos heq] at h ⊢
    rw [SourceChunksInfo.Holds, Bool.or_eq_true, List.all_eq_true] at h
    rcases h with hall | hget
    · exact hall c (List.mem_range.mpr hc)
    · exact hget
  · simp only [if_neg heq] at h ⊢
    rw [ChunkMap.Has, ChunkMap.getSourceChunksInfo]
    cases hget : m.peersChunksAvailability.get? peerId' with
    | none => simpa only [hget] using h
    | some sci => simpa only [hget] using h

theorem Known.setPeerAvailabilityMap (h : s.Known file) (fits : Nat → Nat → Bool) (now : Int)
    (peerId : PeerId) (cmap : CompressedChunkMap) :
  ((machine fits).next s (.setPeerAvailabilityMap now peerId cmap)).Known file
  := by
  by_cases hright : cmap.map.length =
    CompressedChunkMap.getCompressedSize s.chunkMap.map.length
  · simp only [Machine.next, machine, if_pos hright]
    constructor
    case sound => exact h.sound.setPeerAvailabilityMap now peerId cmap
    case assumeAvailability =>
      rw [setPeerAvailabilityMap_eq now peerId hright]
      exact h.assumeAvailability
    case marks =>
      intro peerId' c hc hhas
      have hhas' := has_setPeerAvailabilityMap hright (hc.trans_eq h.sound.length.symm) hhas
      simp only [Marks, OrdMap.get?_insert]
      split at hhas'
      case isTrue heq => rwa [if_pos heq]
      case isFalse hne =>
        rw [if_neg hne]
        apply h.marks peerId' c hc hhas'
  · have hsame : s.chunkMap.setPeerAvailabilityMap now peerId cmap = s.chunkMap := by
      rw [ChunkMap.setPeerAvailabilityMap]
      exact if_pos hright
    simp only [Machine.next, machine, if_neg hright, hsame]
    exact h

theorem Known.step (h : s.Known file) (fits : Nat → Nat → Bool) (call : SourceCall PeerId) :
  ((machine fits).next s call).Known file
  := by
  cases call with
  | setPeerAvailabilityMap now peerId cmap => exact h.setPeerAvailabilityMap fits now peerId cmap
  | getDataChunk now rand peerId sizeHint needed =>
    apply h.of_sameSources
    · exact h.sound.getDataChunk fits now rand peerId sizeHint needed
    · exact (h.sound.getDataChunk_chunk fits now rand peerId sizeHint needed).1
  | dataReceived now cid =>
    apply h.of_sameSources
    · exact h.sound.dataReceived now cid
    · exact h.sound.sameSources_dataReceived now cid
  | removeInactiveChunks now =>
    apply h.of_sameSources
    · exact h.sound.removeInactiveChunks now
    · exact s.chunkMap.sameSources_removeInactiveChunks now

/-- A slice of the peer's own feed is where its feed is; every other slice is in a chunk that the
peer has. -/
theorem Known.respects_iff (h : s.Known file) (fits : Nat → Nat → Bool)
    (call : SourceCall PeerId) :
  s.Respects fits call ↔ s.Meets call
  := by
  cases call with
  | setPeerAvailabilityMap now peerId cmap => exact Iff.rfl
  | dataReceived now cid => exact Iff.rfl
  | removeInactiveChunks now => exact Iff.rfl
  | getDataChunk now rand peerId sizeHint needed =>
    have hchunk := (h.sound.getDataChunk_chunk fits now rand peerId sizeHint needed).2
    rw [Respects, Meets]
    cases hr : (s.chunkMap.getDataChunk fits now rand peerId sizeHint needed).chunk with
    | none =>
      rw [hr] at hchunk
      rw [hchunk]
      simp
    | some slice =>
      rw [hr] at hchunk
      obtain ⟨hc, hend, ⟨feed, hfeed, hstart⟩ | ⟨hnone, hhas⟩⟩ := hchunk
      · simp [hfeed, hstart, hend]
      · simp [hnone, hend, h.marks peerId _ hc hhas]

end Sources

/-- In a run on a chunk map without assumed availability, every slice lies in a chunk of the last
map of its peer exactly when, whenever a peer is asked that has a feed, its last map has the chunk
of this feed. -/
theorem respects_run_iff (file : File) (fits : Nat → Nat → Bool)
    (calls : List (SourceCall PeerId)) :
  (Sources.machine fits).Along (fun s call => s.Respects fits call) (Sources.new file.size) calls ↔
    (Sources.machine fits).Along (fun s call => s.Meets call) (Sources.new file.size) calls
  := by
  apply Machine.along_congr (P := fun s => s.Known file) (D := fun _ => True)
  · intro s call h _
    exact h.step fits call
  · intro s call h _
    exact h.respects_iff fits call
  · exact .new file
  · intro call _
    trivial

/-- A file of two chunks. -/
def twoChunks : File where
  size := 2 * chunkSize
  pos := by decide
  le := by decide

/-- A peer that has both chunks is asked, and loses the first one before it is asked again. -/
def chunkLost : List (SourceCall Nat) :=
  [.setPeerAvailabilityMap 0 7 ⟨[3]⟩, .getDataChunk 0 0 7 1000 false,
    .setPeerAvailabilityMap 1 7 ⟨[2]⟩, .getDataChunk 1 0 7 1000 false]

/-- The second slice is asked of the chunk that the peer has lost. -/
theorem not_respects_chunkLost :
  ¬ (Sources.machine fun _ _ => true).Along (fun s call => s.Respects (fun _ _ => true) call)
    (Sources.new twoChunks.size) chunkLost
  := by
  decide +kernel

end Ft
