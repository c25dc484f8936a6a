import RetroShare.Ft.Sources
import RetroShare.Lib.Pieces

/-!
# The feeds and the slices of a chunk map

A chunk that is being downloaded is cut into slices from its start on.  `Sound` says that the
slices, the feeds and `_remains` of a chunk map belong together: what remains of a chunk is
the total size of the slices that have been asked for and have not arrived, and the bytes that
no slice has been taken of.
-/

namespace Ft

/-- The size of a file that is not empty and has at most `2 ^ 31` chunks. -/
structure File where
  size : Nat
  pos : 0 < size
  le : size ≤ 2 ^ 31 * chunkSize

namespace File

variable (file : File)

/-- The number of chunks. -/
def chunks : Nat := file.size / chunkSize + if file.size % chunkSize = 0 then 0 else 1

/-- The size of a chunk: only the last one can be smaller than the others. -/
def sizeOf (c : Nat) : Nat := min chunkSize (file.size - c * chunkSize)

/-- The offset at which a chunk ends. -/
def chunkEnd (c : Nat) : Nat := c * chunkSize + file.sizeOf c

theorem lt_chunks_iff {c : Nat} :
  c < file.chunks ↔ c * chunkSize < file.size
  := Pieces.lt_count_iff (by decide)

theorem chunks_le :
  file.chunks ≤ 2 ^ 31
  := by
  by_contra hlt
  have hlast := (file.lt_chunks_iff (c := 2 ^ 31)).mp (by omega)
  have hle := file.le
  omega

variable {file} {c : Nat}

theorem sizeOf_pos (hc : c < file.chunks) :
  0 < file.sizeOf c
  := by
  rw [lt_chunks_iff] at hc
  simp only [sizeOf, chunkSize] at hc ⊢
  omega

theorem sizeOf_le :
  file.sizeOf c ≤ chunkSize
  := min_le_left _ _

theorem chunkEnd_le (hc : c < file.chunks) :
  file.chunkEnd c ≤ file.size
  := by
  rw [lt_chunks_iff] at hc
  simp only [chunkEnd, sizeOf, chunkSize] at hc ⊢
  omega

theorem div_chunkSize {b : Nat} (hle : c * chunkSize ≤ b) (hlt : b < file.chunkEnd c) :
  b / chunkSize = c
  := by
  have hsize := file.sizeOf_le (c := c)
  simp only [chunkEnd, chunkSize] at hle hlt hsize ⊢
  omega

theorem mod_of_lt (hc : c < file.chunks) :
  c % 2 ^ 32 = c
  := by
  have hle := file.chunks_le
  apply Nat.mod_eq_of_lt
  omega

end File

variable {a b : Nat}

theorem sub32_of_le (hle : b ≤ a) (hlt : a < 2 ^ 32) :
  sub32 a b = a - b
  := by
  simp only [sub32]
  omega

theorem add64_of_lt (hlt : a + b < 2 ^ 64) :
  add64 a b = a + b
  := Nat.mod_eq_of_lt hlt

theorem sub64_of_le (hle : b ≤ a) (hlt : a < 2 ^ 64) :
  sub64 a b = a - b
  := by
  simp only [sub64]
  omega

/-! ### Soundness -/

/-- A feed of the chunk `c`, which still has bytes to take. -/
structure Chunk.IsFeed (file : File) (c : Nat) (feed : Chunk) : Prop where
  start : feed.start = c * chunkSize
  endOffset : feed.endOffset = file.chunkEnd c
  start_le : c * chunkSize ≤ feed.offset
  lt_end : feed.offset < feed.endOffset

/-- The slices of the chunk `c` have been taken up to the offset `o`. -/
structure ChunkDownloadInfo.TakenTo (file : File) (c o : Nat) (info : ChunkDownloadInfo) :
    Prop where
  remains : info.remains = info.slices.sum (fun _ s => s) + (file.chunkEnd c - o)
  remains_le : info.remains ≤ file.sizeOf c
  start_le : c * chunkSize ≤ o
  le_end : o ≤ file.chunkEnd c
  slice : ∀ k s, info.slices.get? k = some s →
    c * chunkSize ≤ k ∧ k < file.chunkEnd c ∧ k + s ≤ o ∧ (s = 0 → k = o)
  disjoint : ∀ k s k' s', info.slices.get? k = some s → info.slices.get? k' = some s' → k < k' →
    k + s ≤ k'

section TakenTo

variable {file : File} {c o : Nat} {info : ChunkDownloadInfo}

theorem ChunkDownloadInfo.TakenTo.takeSlice (h : info.TakenTo file c o) (now : Int) {s : Nat}
    (ho : o < file.chunkEnd c) (hs : o + s ≤ file.chunkEnd c) :
  ChunkDownloadInfo.TakenTo file c (o + s)
    { info with slices := info.slices.insert o s, lastDataReceived := now }
  := by
  -- only an empty slice can be where the next one is taken
  have hempty : ∀ s', info.slices.get? o = some s' → s' = 0 := by
    intro s' hs'
    obtain ⟨-, -, hle, -⟩ := h.slice o s' hs'
    omega
  have hsum : (info.slices.erase o).sum (fun _ s => s) = info.slices.sum (fun _ s => s) := by
    cases hget : info.slices.get? o with
    | none => rw [OrdMap.erase_of_get?_eq_none hget]
    | some s' => rw [OrdMap.sum_of_get?_eq_some _ hget, hempty s' hget, Nat.zero_add]
  have hslice : ∀ k s', (info.slices.insert o s).get? k = some s' →
      k = o ∧ s' = s ∨ k ≠ o ∧ info.slices.get? k = some s' := by
    intro k s' hk
    rw [OrdMap.get?_insert] at hk
    split at hk
    case isTrue heq => exact .inl ⟨heq, (Option.some.inj hk).symm⟩
    case isFalse hne => exact .inr ⟨hne, hk⟩
  have hstart := h.start_le
  constructor
  case remains =>
    have hremains := h.remains
    rw [OrdMap.sum_insert, hsum]
    dsimp only
    omega
  case remains_le => exact h.remains_le
  case start_le => omega
  case le_end => exact hs
  case slice =>
    intro k s' hk
    rcases hslice k s' hk with ⟨rfl, rfl⟩ | ⟨hne, hk⟩
    · exact ⟨hstart, ho, le_rfl, by omega⟩
    · obtain ⟨hkstart, hkend, hkle, hkempty⟩ := h.slice k s' hk
      exact ⟨hkstart, hkend, by omega, fun hzero => absurd (hkempty hzero) hne⟩
  case disjoint =>
    intro k s₁ k' s₂ hk hk' hlt
    rcases hslice k s₁ hk with ⟨rfl, rfl⟩ | ⟨hne, hold⟩ <;>
      rcases hslice k' s₂ hk' with ⟨rfl, rfl⟩ | ⟨hne', hold'⟩
    · omega
    · have hle := (h.slice k' s₂ hold').2.2.1
      omega
    · exact (h.slice k s₁ hold).2.2.1
    · exact h.disjoint k s₁ k' s₂ hold hold' hlt

theorem ChunkDownloadInfo.TakenTo.erase (h : info.TakenTo file c o) (now : Int) {k s : Nat}
    (hk : info.slices.get? k = some s) :
  ChunkDownloadInfo.TakenTo file c o ⟨info.slices.erase k, sub32 info.remains s, now⟩
  := by
  have hremains := h.remains
  have hle := h.remains_le
  have hsize := file.sizeOf_le (c := c)
  rw [OrdMap.sum_of_get?_eq_some _ hk] at hremains
  have hsub : sub32 info.remains s = info.remains - s := by
    simp only [chunkSize] at hsize
    exact sub32_of_le (by omega) (by omega)
  have hslice : ∀ k' s', (info.slices.erase k).get? k' = some s' →
      info.slices.get? k' = some s' := by
    intro k' s' hk'
    rw [OrdMap.get?_erase] at hk'
    split at hk'
    case isTrue => cases hk'
    case isFalse => exact hk'
  constructor
  case remains => dsimp only; omega
  case remains_le => dsimp only; omega
  case start_le => exact h.start_le
  case le_end => exact h.le_end
  case slice => exact fun k' s' hk' => h.slice k' s' (hslice k' s' hk')
  case disjoint =>
    exact fun k₁ s₁ k₂ s₂ h₁ h₂ => h.disjoint k₁ s₁ k₂ s₂ (hslice k₁ s₁ h₁) (hslice k₂ s₂ h₂)

end TakenTo

namespace ChunkMap

variable {PeerId : Type} [LinearOrder PeerId] {file : File} {m m' : ChunkMap PeerId} {c : Nat}
  {r : DataChunk PeerId}

/-- The offset at which the feed of the chunk `c` stands, or the end of `c` when it has no
feed. -/
def FeedAt (file : File) (m : ChunkMap PeerId) (c o : Nat) : Prop :=
  (∃ peerId feed, m.activeChunksFeed.get? peerId = some feed ∧ feed.start = c * chunkSize ∧
    feed.offset = o) ∨
  (∀ peerId feed, m.activeChunksFeed.get? peerId = some feed → feed.start ≠ c * chunkSize) ∧
    o = file.chunkEnd c

/-- The feeds, the slices and what remains of every chunk belong together. -/
structure Sound (file : File) (m : ChunkMap PeerId) : Prop where
  fileSize : m.fileSize = file.size
  length : m.map.length = file.chunks
  /-- Only chunks that are not outstanding are being downloaded. -/
  entry : ∀ c info, m.slicesToDownload.get? c = some info →
    c < file.chunks ∧ m.state c ≠ .outstanding
  feed : ∀ peerId feed, m.activeChunksFeed.get? peerId = some feed →
    ∃ c info, m.slicesToDownload.get? c = some info ∧ feed.IsFeed file c
  /-- A chunk has at most one feed. -/
  feed_unique : ∀ peerId feed peerId' feed', m.activeChunksFeed.get? peerId = some feed →
    m.activeChunksFeed.get? peerId' = some feed' → feed.start = feed'.start → peerId = peerId'
  taken : ∀ c info, m.slicesToDownload.get? c = some info →
    ∃ o, FeedAt file m c o ∧ info.TakenTo file c o

theorem Sound.new (file : File) (availability : Bool) :
  (ChunkMap.new file.size availability : ChunkMap PeerId).Sound file
  where
  fileSize := rfl
  length := List.length_replicate
  entry c info h := by cases h
  feed peerId feed h := by cases h
  feed_unique peerId feed peerId' feed' h := by cases h
  taken c info h := by cases h

theorem Sound.sizeOfChunk (h : m.Sound file) (hc : c < file.chunks) :
  m.sizeOfChunk c = file.sizeOf c
  := by
  have hle := file.le
  have hlt := (file.lt_chunks_iff).mp hc
  rw [ChunkMap.sizeOfChunk, h.length, h.fileSize]
  by_cases hlast : c + 1 = file.chunks
  · have hend : ¬ c + 1 < file.chunks := by omega
    rw [file.lt_chunks_iff] at hend
    rw [if_pos hlast]
    simp only [sub64, File.sizeOf, chunkSize] at hle hlt hend ⊢
    omega
  · have hend : c + 1 < file.chunks := by omega
    rw [file.lt_chunks_iff] at hend
    rw [if_neg hlast]
    simp only [File.sizeOf, chunkSize] at hend ⊢
    omega

/-- Only the feeds and the slices, and the states of the chunks that are being downloaded,
matter. -/
theorem Sound.congr (h : m.Sound file) (hsize : m'.fileSize = m.fileSize)
    (hlength : m'.map.length = m.map.length) (hfeeds : m'.activeChunksFeed = m.activeChunksFeed)
    (hslices : m'.slicesToDownload = m.slicesToDownload)
    (hstate : ∀ c info, m.slicesToDownload.get? c = some info → m'.state c ≠ .outstanding) :
  m'.Sound file
  where
  fileSize := hsize.trans h.fileSize
  length := hlength.trans h.length
  entry c info hinfo := by
    rw [hslices] at hinfo
    exact ⟨(h.entry c info hinfo).1, hstate c info hinfo⟩
  feed := by
    rw [hfeeds, hslices]
    exact h.feed
  feed_unique := by
    rw [hfeeds]
    exact h.feed_unique
  taken := by
    simp only [hslices, FeedAt, hfeeds]
    exact h.taken

theorem Sound.withSources (h : m.Sound file) (sources : OrdMap PeerId SourceChunksInfo) :
  Sound file { m with peersChunksAvailability := sources }
  := h.congr rfl rfl rfl rfl fun c info hinfo => (h.entry c info hinfo).2

theorem FeedAt.congr {o : Nat} (h : FeedAt file m c o)
    (hfeeds : ∀ peerId feed, feed.start = c * chunkSize → (m'.activeChunksFeed.get? peerId = some
      feed ↔ m.activeChunksFeed.get? peerId = some feed)) :
  FeedAt file m' c o
  := by
  obtain ⟨peerId, feed, hfeed, hstart, ho⟩ | ⟨hnone, ho⟩ := h
  · exact .inl ⟨peerId, feed, (hfeeds peerId feed hstart).mpr hfeed, hstart, ho⟩
  · refine .inr ⟨?_, ho⟩
    intro peerId feed hfeed hstart
    exact hnone peerId feed ((hfeeds peerId feed hstart).mp hfeed) hstart

theorem getD_set {l : List ChunkState} {c' : Nat} {s : ChunkState} :
  (l.set c s).getD c' .outstanding = if c = c' ∧ c < l.length then s else l.getD c' .outstanding
  := by
  simp only [List.getD_eq_getElem?_getD, List.getElem?_set]
  by_cases hc : c = c'
  · subst hc
    by_cases hlt : c < l.length <;> simp [hlt]
  · simp [hc]

theorem Sound.of_feed (h : m.Sound file) {peerId : PeerId} {feed : Chunk}
    (hfeed : m.activeChunksFeed.get? peerId = some feed) :
  ∃ c info, m.slicesToDownload.get? c = some info ∧ c < file.chunks ∧ feed.IsFeed file c ∧
    info.TakenTo file c feed.offset
  := by
  obtain ⟨c, info, hinfo, hc⟩ := h.feed _ _ hfeed
  obtain ⟨o, ⟨peerId', feed', hfeed', hstart, rfl⟩ | ⟨hnone, -⟩, htaken⟩ := h.taken c info hinfo
  · obtain rfl := h.feed_unique _ _ _ _ hfeed hfeed' (hc.start.trans hstart.symm)
    obtain rfl : feed = feed' := by simpa [hfeed] using hfeed'
    exact ⟨c, info, hinfo, (h.entry c info hinfo).1, hc, htaken⟩
  · exact absurd hc.start (hnone _ _ hfeed)

/-! ### Sources and checks -/

omit [LinearOrder PeerId] in
/-- Sharing looks for a feed among those of the chunks that are being downloaded, and that the
source has. -/
theorem shareFeed_spec (fits : Nat → Nat → Bool) (sizeHint : Nat) (sci : SourceChunksInfo) :
  ∀ (feeds : List (PeerId × Chunk)) {slices : OrdMap Nat ChunkDownloadInfo}
    (falsafe : Option (PeerId × Chunk)),
    (∀ e ∈ feeds, (slices.get? (e.2.start / chunkSize % 2 ^ 32)).isSome) →
    (shareFeed fits sizeHint sci feeds slices falsafe).1 = slices ∧
      (∀ e, (shareFeed fits sizeHint sci feeds slices falsafe).2.1 = some e →
        e ∈ feeds ∧ sci.Holds (e.2.start / chunkSize % 2 ^ 32)) ∧
      (∀ e, (shareFeed fits sizeHint sci feeds slices falsafe).2.2 = some e →
        e ∈ feeds ∧ sci.Holds (e.2.start / chunkSize % 2 ^ 32) ∨ falsafe = some e)
  | [], slices, falsafe, _ => ⟨rfl, fun e he => (by cases he), fun e he => .inr he⟩
  | e :: feeds, slices, falsafe, h => by
      obtain ⟨info, hinfo⟩ := Option.isSome_iff_exists.mp (h e List.mem_cons_self)
      have hrest := fun falsafe => shareFeed_spec fits sizeHint sci feeds falsafe
        fun e he => h e (List.mem_cons_of_mem _ he)
      simp only [shareFeed, hinfo, Option.getD_some, OrdMap.insert_of_get?_eq_some hinfo]
      split
      case isTrue hholds =>
        have hself : ∀ e', some e = some e' →
            e' ∈ e :: feeds ∧ sci.Holds (e'.2.start / chunkSize % 2 ^ 32) := by
          intro e' he'
          rw [← Option.some.inj he']
          exact ⟨List.mem_cons_self, hholds⟩
        split
        case isTrue => exact ⟨rfl, hself, fun e' he' => .inl (hself e' he')⟩
        case isFalse =>
          obtain ⟨hslices, hshared, hfalsafe⟩ := hrest (some e)
          refine ⟨hslices, fun e' he' => (hshared e' he').imp_left (List.mem_cons_of_mem _), ?_⟩
          intro e' he'
          left
          rcases hfalsafe e' he' with hmem | heq
          · exact hmem.imp_left (List.mem_cons_of_mem _)
          · apply hself e' heq
      case isFalse =>
        obtain ⟨hslices, hshared, hfalsafe⟩ := hrest falsafe
        refine ⟨hslices, fun e' he' => (hshared e' he').imp_left (List.mem_cons_of_mem _), ?_⟩
        intro e' he'
        apply (hfalsafe e' he').imp_left
        exact And.imp_left (List.mem_cons_of_mem _)

/-! ### Data chunks -/

/-- What `getDataChunk` does before it takes a slice: it may allocate a chunk that nobody
downloads. -/
def Prepared (m : ChunkMap PeerId) (peerId : PeerId) (m' : ChunkMap PeerId)
    (events : List Event) : Prop :=
  ∃ sources,
    m' = { m with peersChunksAvailability := sources } ∧ events = [] ∨
    ∃ c, c < m.map.length ∧ m.state c = .outstanding ∧ m.activeChunksFeed.get? peerId = none ∧
      m' = { m with peersChunksAvailability := sources }.allocate peerId c ∧
      events = [.allocated c]

/-- `getDataChunk` takes a slice of a feed, after it may have allocated a chunk.  The feed is the
one of the peer, or one of a chunk that the peer has. -/
theorem Sound.getDataChunk_sources (h : m.Sound file) (fits : Nat → Nat → Bool) (now : Int)
    (rand : Nat) (peerId : PeerId) (sizeHint : Nat) (needed : Bool)
    (hr : m.getDataChunk fits now rand peerId sizeHint needed = r) :
  ∃ m', m.Prepared peerId m' r.events ∧ m.SameSources m' ∧
    (r.chunkMap = m' ∧ r.chunk = none ∧ m.activeChunksFeed.get? peerId = none ∨
      ∃ owner feed, m'.activeChunksFeed.get? owner = some feed ∧
        r.chunkMap = (m'.takeSlice now sizeHint peerId owner feed).1 ∧
        r.chunk = some (m'.takeSlice now sizeHint peerId owner feed).2 ∧
        (m.activeChunksFeed.get? peerId = some feed ∨ m.activeChunksFeed.get? peerId = none ∧
          m.Has peerId (feed.start / chunkSize % 2 ^ 32)))
  := by
  cases hfeed : m.activeChunksFeed.get? peerId with
  | some feed =>
    simp only [getDataChunk, hfeed] at hr
    subst hr
    exact ⟨m, ⟨m.peersChunksAvailability, .inl ⟨rfl, rfl⟩⟩, .refl m,
      .inr ⟨peerId, feed, hfeed, rfl, rfl, .inl rfl⟩⟩
  | none =>
    have hsame := m.sameSources_getSourceChunksInfo peerId
    obtain ⟨sources, hsources⟩ := m.getSourceChunksInfo_fst peerId
    have hentries : ∀ e ∈ m.activeChunksFeed.toList,
        (m.slicesToDownload.get? (e.2.start / chunkSize % 2 ^ 32)).isSome := by
      rintro ⟨owner, feed⟩ he
      obtain ⟨c, info, hinfo, hc, hof, -⟩ := h.of_feed (OrdMap.mem_toList.mp he)
      rw [hof.start, Nat.mul_div_cancel _ (by decide), File.mod_of_lt hc, hinfo]
      rfl
    obtain ⟨hslices, hshared, hfalsafe⟩ := shareFeed_spec fits sizeHint
      (m.getSourceChunksInfo peerId).2 _ none hentries
    rw [hsources] at hsame
    simp only [getDataChunk, hfeed, hsources] at hr
    generalize shareFeed fits sizeHint _ _ _ _ = share at hslices hshared hfalsafe hr
    obtain ⟨slices, shared, falsafe⟩ := share
    dsimp only at hslices hshared hfalsafe hr
    subst hslices
    have hmem : ∀ {owner : PeerId} {feed : Chunk}, (owner, feed) ∈ m.activeChunksFeed.toList →
        m.activeChunksFeed.get? owner = some feed := OrdMap.mem_toList.mp
    cases hshare : shared with
    | some e =>
      obtain ⟨owner, feed⟩ := e
      obtain ⟨hin, hholds⟩ := hshared _ hshare
      simp only [hshare] at hr
      subst hr
      refine ⟨_, ⟨sources, .inl ⟨rfl, rfl⟩⟩, hsame,
        .inr ⟨owner, feed, ?_, rfl, rfl, .inr ⟨rfl, hholds⟩⟩⟩
      apply hmem hin
    | none =>
      obtain ⟨⟨sources', hsources'⟩, hsame', havailable⟩ :=
        getAvailableChunk_spec { m with peersChunksAvailability := sources } now rand peerId
      simp only [hshare] at hr
      generalize getAvailableChunk _ now rand peerId = available
        at hr hsources' hsame' havailable
      obtain ⟨m', c, needed'⟩ := available
      dsimp only at hr hsources' hsame' havailable
      subst hsources'
      split at hr
      case isFalse hlt =>
        subst hr
        dsimp only at hlt
        obtain ⟨hstate, hhas⟩ := havailable (by omega)
        have hlt' : c < file.chunks := by
          rw [← h.length]
          omega
        have hc : c * chunkSize / chunkSize % 2 ^ 32 = c := by
          rw [Nat.mul_div_cancel _ (by decide), File.mod_of_lt hlt']
        refine ⟨_, ⟨sources', .inr ⟨c, by omega, hstate, hfeed, rfl, rfl⟩⟩, ?_,
          .inr ⟨peerId, _, OrdMap.get?_insert_self _ _, rfl, rfl, .inr ⟨rfl, ?_⟩⟩⟩
        · exact (hsame.trans hsame').trans (sameSources_allocate _ _ _)
        · dsimp only
          rw [hc]
          exact hsame.has_iff.mp hhas
      case isTrue hle =>
        cases hfall : falsafe with
        | none =>
          simp only [hfall] at hr
          subst hr
          exact ⟨_, ⟨sources', .inl ⟨rfl, rfl⟩⟩, hsame.trans hsame', .inl ⟨rfl, rfl, rfl⟩⟩
        | some e =>
          obtain ⟨owner, feed⟩ := e
          simp only [hfall] at hr
          subst hr
          rcases hfalsafe _ hfall with ⟨hin, hholds⟩ | heq
          · refine ⟨_, ⟨sources', .inl ⟨rfl, rfl⟩⟩, hsame.trans hsame',
              .inr ⟨owner, feed, ?_, rfl, rfl, .inr ⟨rfl, hholds⟩⟩⟩
            apply hmem hin
          · cases heq

/-- `getDataChunk` takes a slice of a feed, whoever has its chunk. -/
theorem Sound.getDataChunk_cases (h : m.Sound file) (fits : Nat → Nat → Bool) (now : Int)
    (rand : Nat) (peerId : PeerId) (sizeHint : Nat) (needed : Bool)
    (hr : m.getDataChunk fits now rand peerId sizeHint needed = r) :
  ∃ m', m.Prepared peerId m' r.events ∧
    (r.chunkMap = m' ∧ r.chunk = none ∨
      ∃ owner feed, m'.activeChunksFeed.get? owner = some feed ∧
        r.chunkMap = (m'.takeSlice now sizeHint peerId owner feed).1 ∧
        r.chunk = some (m'.takeSlice now sizeHint peerId owner feed).2)
  := by
  obtain ⟨m', hm', -, ⟨hmap, hnone, -⟩ | ⟨owner, feed, hfeed, hmap, hchunk, -⟩⟩ :=
    h.getDataChunk_sources fits now rand peerId sizeHint needed hr
  · exact ⟨m', hm', .inl ⟨hmap, hnone⟩⟩
  · exact ⟨m', hm', .inr ⟨owner, feed, hfeed, hmap, hchunk⟩⟩

end ChunkMap

end Ft
