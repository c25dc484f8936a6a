import RetroShare.Ft.Feeds

/-!
# The operations keep a chunk map sound

Every operation of the chunk map keeps it `Sound`, but for one case: when the check of a chunk
fails while the chunk is being downloaded, the chunk becomes outstanding although it has
slices.
-/

namespace Ft

namespace ChunkMap

variable {PeerId : Type} [LinearOrder PeerId] {file : File} {m m' : ChunkMap PeerId}
  {c size id sizeHint cid size' : Nat} {peerId owner : PeerId} {info : ChunkDownloadInfo}
  {feed : Chunk} {now : Int} {events : List Event} (h : m.Sound file)

/-! ### Allocating chunks and taking slices -/

theorem mul_chunkSize_inj {c' : Nat} (h : c * chunkSize = c' * chunkSize) :
  c = c'
  := Nat.eq_of_mul_eq_mul_right (by decide) h

theorem Sound.get?_of_outstanding (h : m.Sound file) (hc : m.state c = .outstanding) :
  m.slicesToDownload.get? c = none
  := by
  cases hinfo : m.slicesToDownload.get? c with
  | none => rfl
  | some info => exact absurd hc (h.entry c info hinfo).2

theorem Sound.allocate_eq (h : m.Sound file) (hc : c < file.chunks)
    (hstate : m.state c = .outstanding) (peerId : PeerId) :
  m.allocate peerId c =
    { m with
      activeChunksFeed := m.activeChunksFeed.insert peerId
        ⟨c * chunkSize, c * chunkSize, file.chunkEnd c⟩
      map := m.map.set c .active
      slicesToDownload := m.slicesToDownload.insert c ⟨OrdMap.empty, file.sizeOf c, 0⟩ }
  := by
  simp only [ChunkMap.allocate, h.get?_of_outstanding hstate, h.sizeOfChunk hc, File.chunkEnd]
  rfl

theorem Sound.allocate (h : m.Sound file) (hc : c < file.chunks) (hstate : m.state c = .outstanding)
    (hpeer : m.activeChunksFeed.get? peerId = none) :
  (m.allocate peerId c).Sound file
  := by
  have hnone := h.get?_of_outstanding hstate
  have hsize := File.sizeOf_pos hc
  -- the chunk has no feed, since it has no slices
  have hnofeed : ∀ peerId feed, m.activeChunksFeed.get? peerId = some feed →
      feed.start ≠ c * chunkSize := by
    intro peerId feed hfeed hstart
    obtain ⟨c', info, hinfo, -, hof, -⟩ := h.of_feed hfeed
    rw [← mul_chunkSize_inj (hstart.symm.trans hof.start), hnone] at hinfo
    cases hinfo
  have hfeeds : ∀ peerId' feed, (m.allocate peerId c).activeChunksFeed.get? peerId' = some feed →
      peerId' = peerId ∧ feed = ⟨c * chunkSize, c * chunkSize, file.chunkEnd c⟩ ∨
      m.activeChunksFeed.get? peerId' = some feed := by
    intro peerId' feed hfeed
    simp only [h.allocate_eq hc hstate, OrdMap.get?_insert] at hfeed
    split at hfeed
    case isTrue heq => exact .inl ⟨heq, (Option.some.inj hfeed).symm⟩
    case isFalse => exact .inr hfeed
  have hslices : ∀ c' info, (m.allocate peerId c).slicesToDownload.get? c' = some info ↔
      c' = c ∧ info = ⟨OrdMap.empty, file.sizeOf c, 0⟩ ∨
      c' ≠ c ∧ m.slicesToDownload.get? c' = some info := by
    intro c' info
    simp only [h.allocate_eq hc hstate, OrdMap.get?_insert]
    by_cases heq : c' = c <;> simp [heq, eq_comm]
  constructor
  case fileSize => exact h.fileSize
  case length => simp only [ChunkMap.allocate, List.length_set, h.length]
  case entry =>
    intro c' info hinfo
    simp only [state, ChunkMap.allocate, getD_set, h.length]
    rcases (hslices c' info).mp hinfo with ⟨rfl, -⟩ | ⟨hne, hinfo⟩
    · simp [hc]
    · rw [if_neg (by rintro ⟨rfl, -⟩; exact hne rfl)]
      exact h.entry c' info hinfo
  case feed =>
    intro peerId' feed hfeed
    rcases hfeeds peerId' feed hfeed with ⟨-, rfl⟩ | hold
    · refine ⟨c, _, (hslices c _).mpr (.inl ⟨rfl, rfl⟩), rfl, rfl, le_rfl, ?_⟩
      simp only [File.chunkEnd]
      omega
    · obtain ⟨c', info, hinfo, hof⟩ := h.feed _ _ hold
      refine ⟨c', info, (hslices c' info).mpr (.inr ⟨?_, hinfo⟩), hof⟩
      rintro rfl
      exact hnofeed _ _ hold hof.start
  case feed_unique =>
    intro peerId₁ feed₁ peerId₂ feed₂ hfeed₁ hfeed₂ hstart
    rcases hfeeds _ _ hfeed₁ with ⟨rfl, rfl⟩ | hold₁ <;>
      rcases hfeeds _ _ hfeed₂ with ⟨rfl, rfl⟩ | hold₂
    · rfl
    · exact absurd hstart.symm (hnofeed _ _ hold₂)
    · exact absurd hstart (hnofeed _ _ hold₁)
    · exact h.feed_unique _ _ _ _ hold₁ hold₂ hstart
  case taken =>
    intro c' info hinfo
    rcases (hslices c' info).mp hinfo with ⟨rfl, rfl⟩ | ⟨hne, hinfo⟩
    · refine ⟨c' * chunkSize, .inl ⟨peerId, ⟨c' * chunkSize, c' * chunkSize, file.chunkEnd c'⟩,
        ?_, rfl, rfl⟩, ?_⟩
      · rw [h.allocate_eq hc hstate]
        apply OrdMap.get?_insert_self
      · refine ⟨?_, le_rfl, le_rfl, ?_, ?_, ?_⟩
        · rw [File.chunkEnd, Nat.add_sub_cancel_left, OrdMap.sum_empty, Nat.zero_add]
        · simp only [File.chunkEnd]
          omega
        · intro k s hk
          cases hk
        · intro k s k' s' hk
          cases hk
    · obtain ⟨o, hat, htaken⟩ := h.taken c' info hinfo
      refine ⟨o, hat.congr ?_, htaken⟩
      intro peerId' feed hstart
      constructor
      · intro hfeed
        rcases hfeeds _ _ hfeed with ⟨-, rfl⟩ | hfeed
        · exact absurd (mul_chunkSize_inj hstart).symm hne
        · exact hfeed
      · intro hfeed
        simp only [h.allocate_eq hc hstate, OrdMap.get?_insert]
        rw [if_neg (by rintro rfl; rw [hpeer] at hfeed; cases hfeed)]
        exact hfeed

/-- The size of the next slice of a feed. -/
def sliceSize (feed : Chunk) (sizeHint : Nat) : Nat :=
  min sizeHint (feed.endOffset - feed.offset)

/-- The feeds after a slice has been taken. -/
def advanceFeed (feeds : OrdMap PeerId Chunk) (owner : PeerId) (feed : Chunk) (sizeHint : Nat) :
    OrdMap PeerId Chunk :=
  if feed.offset + sliceSize feed sizeHint = feed.endOffset then feeds.erase owner
  else feeds.insert owner { feed with offset := feed.offset + sliceSize feed sizeHint }

/-- Taking a slice of a feed of the chunk `c`, whose entry is `info`. -/
theorem takeSlice_of_isFeed (hc : c < file.chunks) (hof : feed.IsFeed file c)
    (hinfo : m.slicesToDownload.get? c = some info) :
  m.takeSlice now sizeHint peerId owner feed =
    ({ m with
        slicesToDownload := m.slicesToDownload.insert c
          { info with
            slices := info.slices.insert feed.offset (sliceSize feed sizeHint)
            lastDataReceived := now }
        activeChunksFeed := advanceFeed m.activeChunksFeed owner feed sizeHint },
      ⟨feed.offset, sliceSize feed sizeHint, feed.offset, now, 0, peerId⟩)
  := by
  have hdiv : feed.offset / chunkSize = c :=
    File.div_chunkSize hof.start_le (hof.lt_end.trans_eq hof.endOffset)
  have hsub : sub64 feed.endOffset feed.offset % 2 ^ 32 = feed.endOffset - feed.offset := by
    have hend := File.chunkEnd_le hc
    have hle := file.le
    have hsize := file.sizeOf_le (c := c)
    have hstart := hof.start_le
    have hlt := hof.lt_end
    rw [← hof.endOffset] at hend
    have hend' := hof.endOffset
    simp only [File.chunkEnd, chunkSize] at *
    rw [sub64_of_le (by omega) (by omega), Nat.mod_eq_of_lt (by omega)]
  simp only [takeSlice, hdiv, File.mod_of_lt hc, hinfo, hsub]
  rfl

theorem get?_advanceFeed {feeds : OrdMap PeerId Chunk} {feed' : Chunk} :
  (advanceFeed feeds owner feed sizeHint).get? peerId = some feed' ↔
    peerId = owner ∧ feed.offset + sliceSize feed sizeHint ≠ feed.endOffset ∧
      feed' = { feed with offset := feed.offset + sliceSize feed sizeHint } ∨
    peerId ≠ owner ∧ feeds.get? peerId = some feed'
  := by
  simp only [advanceFeed]
  by_cases hend : feed.offset + sliceSize feed sizeHint = feed.endOffset
  · rw [if_pos hend, OrdMap.get?_erase]
    by_cases heq : peerId = owner <;> simp [heq, hend]
  · rw [if_neg hend, OrdMap.get?_insert]
    by_cases heq : peerId = owner <;> simp [heq, hend, eq_comm]

section

variable (h : m.Sound file)

include h

theorem Sound.takeSlice (hfeed : m.activeChunksFeed.get? owner = some feed) (now : Int)
    (sizeHint : Nat) (peerId : PeerId) :
  (m.takeSlice now sizeHint peerId owner feed).1.Sound file
  := by
  obtain ⟨c, info, hinfo, hc, hof, htaken⟩ := h.of_feed hfeed
  have hsize : feed.offset + sliceSize feed sizeHint ≤ feed.endOffset := by
    have hlt := hof.lt_end
    simp only [sliceSize]
    omega
  rw [takeSlice_of_isFeed hc hof hinfo]
  have hslices : ∀ {c' info'}, (m.slicesToDownload.insert c
      { info with
        slices := info.slices.insert feed.offset (sliceSize feed sizeHint)
        lastDataReceived := now }).get? c' = some info' →
      ∃ old, m.slicesToDownload.get? c' = some old := by
    intro c' info' hinfo'
    rw [OrdMap.get?_insert] at hinfo'
    split at hinfo'
    case isTrue heq => exact ⟨info, heq ▸ hinfo⟩
    case isFalse => exact ⟨info', hinfo'⟩
  constructor
  case fileSize => exact h.fileSize
  case length => exact h.length
  case entry =>
    intro c' info' hinfo'
    obtain ⟨old, hold⟩ := hslices hinfo'
    exact h.entry c' old hold
  case feed =>
    intro peerId' feed' hfeed'
    have hentry : ∀ c' old, m.slicesToDownload.get? c' = some old → ∃ info',
        (m.slicesToDownload.insert c
          { info with
            slices := info.slices.insert feed.offset (sliceSize feed sizeHint)
            lastDataReceived := now }).get? c' = some info' := by
      intro c' old hold
      rw [OrdMap.get?_insert]
      split
      · exact ⟨_, rfl⟩
      · exact ⟨old, hold⟩
    rcases get?_advanceFeed.mp hfeed' with ⟨-, hend, rfl⟩ | ⟨-, hold⟩
    · obtain ⟨info', hinfo'⟩ := hentry c info hinfo
      refine ⟨c, info', hinfo', hof.start, hof.endOffset, ?_, lt_of_le_of_ne hsize hend⟩
      exact hof.start_le.trans (Nat.le_add_right _ _)
    · obtain ⟨c', old, hold, hof'⟩ := h.feed _ _ hold
      obtain ⟨info', hinfo'⟩ := hentry c' old hold
      exact ⟨c', info', hinfo', hof'⟩
  case feed_unique =>
    intro peerId₁ feed₁ peerId₂ feed₂ hfeed₁ hfeed₂ hstart
    rcases get?_advanceFeed.mp hfeed₁ with ⟨rfl, -, rfl⟩ | ⟨hne₁, hold₁⟩ <;>
      rcases get?_advanceFeed.mp hfeed₂ with ⟨rfl, -, rfl⟩ | ⟨hne₂, hold₂⟩
    · rfl
    · exact h.feed_unique _ _ _ _ hfeed hold₂ hstart
    · exact h.feed_unique _ _ _ _ hold₁ hfeed hstart
    · exact h.feed_unique _ _ _ _ hold₁ hold₂ hstart
  case taken =>
    intro c' info' hinfo'
    rw [OrdMap.get?_insert] at hinfo'
    split at hinfo'
    case isTrue heq =>
      subst heq
      obtain rfl := Option.some.inj hinfo'
      refine ⟨feed.offset + sliceSize feed sizeHint, ?_, ?_⟩
      · by_cases hend : feed.offset + sliceSize feed sizeHint = feed.endOffset
        · refine .inr ⟨?_, hend.trans hof.endOffset⟩
          intro peerId' feed' hfeed' hstart
          rcases get?_advanceFeed.mp hfeed' with ⟨-, hne, -⟩ | ⟨hne, hold⟩
          · exact hne hend
          · exact hne (h.feed_unique _ _ _ _ hold hfeed (hstart.trans hof.start.symm))
        · exact .inl ⟨owner, _, get?_advanceFeed.mpr (.inl ⟨rfl, hend, rfl⟩), hof.start, rfl⟩
      · apply htaken.takeSlice now (hof.lt_end.trans_eq hof.endOffset)
        rwa [← hof.endOffset]
    case isFalse hne =>
      obtain ⟨o, hat, htaken'⟩ := h.taken c' info' hinfo'
      refine ⟨o, hat.congr ?_, htaken'⟩
      intro peerId' feed' hstart
      have hother : feed.start ≠ feed'.start := by
        rw [hstart, hof.start]
        intro heq
        exact hne (mul_chunkSize_inj heq).symm
      rw [get?_advanceFeed]
      constructor
      · rintro (⟨-, -, rfl⟩ | ⟨-, hold⟩)
        · exact absurd rfl hother
        · exact hold
      · intro hold
        refine .inr ⟨?_, hold⟩
        rintro rfl
        rw [hfeed] at hold
        exact hother (congrArg Chunk.start (Option.some.inj hold))

theorem Prepared.sound (hm' : m.Prepared peerId m' events) :
  m'.Sound file
  := by
  obtain ⟨sources, ⟨rfl, -⟩ | ⟨c, hc, hstate, hpeer, rfl, -⟩⟩ := hm'
  · exact h.withSources sources
  · rw [h.length] at hc
    exact (h.withSources sources).allocate hc hstate hpeer

theorem Sound.getDataChunk (fits : Nat → Nat → Bool) (now : Int) (rand : Nat) (peerId : PeerId)
    (sizeHint : Nat) (needed : Bool) :
  (m.getDataChunk fits now rand peerId sizeHint needed).chunkMap.Sound file
  := by
  obtain ⟨m', hm', ⟨heq, -⟩ | ⟨owner, feed, hfeed, heq, -⟩⟩ :=
    h.getDataChunk_cases fits now rand peerId sizeHint needed rfl
  · rw [heq]
    exact hm'.sound h
  · rw [heq]
    exact (hm'.sound h).takeSlice hfeed now sizeHint peerId

/-! ### Receiving slices -/

theorem Sound.receiveSlice (hinfo : m.slicesToDownload.get? c = some info)
    (hcid : info.slices.get? cid = some size) (now : Int) :
  (m.receiveSlice now c info cid size).Sound file
  := by
  have hslices : ∀ c' info', (m.receiveSlice now c info cid size).slicesToDownload.get? c' =
      some info' → c' = c ∧ info' = ⟨info.slices.erase cid, sub32 info.remains size, now⟩ ∨
        c' ≠ c ∧ m.slicesToDownload.get? c' = some info' := by
    intro c' info' hinfo'
    simp only [ChunkMap.receiveSlice, OrdMap.get?_insert] at hinfo'
    split at hinfo'
    case isTrue heq => exact .inl ⟨heq, (Option.some.inj hinfo').symm⟩
    case isFalse hne => exact .inr ⟨hne, hinfo'⟩
  constructor
  case fileSize => exact h.fileSize
  case length => exact h.length
  case entry =>
    intro c' info' hinfo'
    rcases hslices c' info' hinfo' with ⟨rfl, -⟩ | ⟨-, hold⟩
    · exact h.entry c' info hinfo
    · exact h.entry c' info' hold
  case feed =>
    intro peerId feed hfeed
    obtain ⟨c', old, hold, hof⟩ := h.feed peerId feed hfeed
    by_cases heq : c' = c
    · subst heq
      exact ⟨c', _, OrdMap.get?_insert_self _ _, hof⟩
    · refine ⟨c', old, ?_, hof⟩
      rw [ChunkMap.receiveSlice, OrdMap.get?_insert, if_neg heq, hold]
  case feed_unique => exact h.feed_unique
  case taken =>
    intro c' info' hinfo'
    rcases hslices c' info' hinfo' with ⟨rfl, rfl⟩ | ⟨-, hold⟩
    · obtain ⟨o, hat, htaken⟩ := h.taken c' info hinfo
      exact ⟨o, hat, htaken.erase now hcid⟩
    · exact h.taken c' info' hold

theorem Sound.of_removed (hsize : m'.fileSize = m.fileSize) (hlength : m'.map.length = m.map.length)
    (hstate : ∀ c', c' ≠ c → m'.state c' = m.state c')
    (hslices : m'.slicesToDownload = m.slicesToDownload.erase c)
    (hfeeds : ∀ peerId feed, m'.activeChunksFeed.get? peerId = some feed ↔ m.activeChunksFeed.get?
      peerId = some feed ∧ feed.start ≠ c * chunkSize) :
  m'.Sound file
  := by
  have hentry : ∀ c' info, m'.slicesToDownload.get? c' = some info ↔
      c' ≠ c ∧ m.slicesToDownload.get? c' = some info := by
    intro c' info
    rw [hslices, OrdMap.get?_erase]
    by_cases heq : c' = c <;> simp [heq]
  constructor
  case fileSize => exact hsize.trans h.fileSize
  case length => exact hlength.trans h.length
  case entry =>
    intro c' info hinfo
    obtain ⟨hne, hold⟩ := (hentry c' info).mp hinfo
    rw [hstate c' hne]
    exact h.entry c' info hold
  case feed =>
    intro peerId feed hfeed
    obtain ⟨hold, hstart⟩ := (hfeeds peerId feed).mp hfeed
    obtain ⟨c', info, hinfo, hof⟩ := h.feed peerId feed hold
    refine ⟨c', info, (hentry c' info).mpr ⟨?_, hinfo⟩, hof⟩
    rintro rfl
    exact hstart hof.start
  case feed_unique =>
    intro peerId feed peerId' feed' hfeed hfeed'
    exact h.feed_unique _ _ _ _ ((hfeeds _ _).mp hfeed).1 ((hfeeds _ _).mp hfeed').1
  case taken =>
    intro c' info hinfo
    obtain ⟨hne, hold⟩ := (hentry c' info).mp hinfo
    obtain ⟨o, hat, htaken⟩ := h.taken c' info hold
    refine ⟨o, hat.congr ?_, htaken⟩
    intro peerId feed hstart
    rw [hfeeds, and_iff_left]
    rw [hstart]
    intro heq
    exact hne (mul_chunkSize_inj heq)

/-- A chunk of which nothing remains has no feed, and all its slices have arrived. -/
theorem Sound.of_remains_eq_zero (hinfo : m.slicesToDownload.get? c = some info)
    (hzero : info.remains = 0) :
  (∀ peerId feed, m.activeChunksFeed.get? peerId = some feed → feed.start ≠ c * chunkSize) ∧
    info.TakenTo file c (file.chunkEnd c) ∧ ∀ k, info.slices.get? k = none
  := by
  obtain ⟨o, hat, htaken⟩ := h.taken c info hinfo
  have hremains := htaken.remains
  have hend := htaken.le_end
  obtain rfl : o = file.chunkEnd c := by omega
  refine ⟨?_, htaken, ?_⟩
  · obtain ⟨peerId, feed, hfeed, hstart, ho⟩ | ⟨hnone, -⟩ := hat
    · obtain ⟨c', -, -, -, hof, -⟩ := h.of_feed hfeed
      have hlt := hof.lt_end
      rw [hof.endOffset, ← mul_chunkSize_inj (hstart.symm.trans hof.start), ho] at hlt
      exact absurd hlt (lt_irrefl _)
    · exact hnone
  · intro k
    cases hk : info.slices.get? k with
    | none => rfl
    | some s =>
      rw [OrdMap.sum_of_get?_eq_some _ hk] at hremains
      obtain ⟨-, hlt, -, hempty⟩ := htaken.slice k s hk
      have := hempty (by omega)
      omega

end

theorem retireChunk_eq (m : ChunkMap PeerId) (c : Nat) :
  ∃ s queue, s ≠ .outstanding ∧ m.retireChunk c =
    { m with
      map := m.map.set c s
      slicesToDownload := m.slicesToDownload.erase c
      chunksCheckingQueue := queue }
  := by
  simp only [retireChunk]
  split
  · exact ⟨.checking, _, ChunkState.noConfusion, rfl⟩
  · exact ⟨.done, _, ChunkState.noConfusion, rfl⟩

section

variable (h : m.Sound file)

include h

theorem Sound.retireChunk (hinfo : m.slicesToDownload.get? c = some info)
    (hzero : info.remains = 0) :
  (m.retireChunk c).Sound file
  := by
  obtain ⟨hnofeed, -⟩ := h.of_remains_eq_zero hinfo hzero
  obtain ⟨s, queue, -, heq⟩ := m.retireChunk_eq c
  rw [heq]
  apply h.of_removed (c := c)
  · rfl
  · apply List.length_set
  · intro c' hne
    simp only [state, getD_set]
    rw [if_neg (by rintro ⟨rfl, -⟩; exact hne rfl)]
  · rfl
  · intro peerId feed
    rw [iff_self_and]
    exact hnofeed peerId feed

theorem Sound.updateTotalDownloaded :
  m.updateTotalDownloaded.Sound file
  := h.congr rfl rfl rfl rfl fun c info hinfo => (h.entry c info hinfo).2

/-- The arrival of a slice either changes nothing, or takes a slice off the list; when nothing
remains of its chunk, this is completed. -/
theorem Sound.dataReceived_cases (now : Int) (cid : Nat) :
  (m.dataReceived now cid = (m, []) ∧
    ∀ c info, m.slicesToDownload.get? c = some info → info.slices.get? cid = none) ∨
  ∃ c info size, m.slicesToDownload.get? c = some info ∧ info.slices.get? cid = some size ∧
    (sub32 info.remains size ≠ 0 ∧
        m.dataReceived now cid = (m.receiveSlice now c info cid size, []) ∨
      sub32 info.remains size = 0 ∧ m.dataReceived now cid =
        ((m.receiveSlice now c info cid size).completeChunk c, [.completed c]))
  := by
  -- a slice is found in the entry of the chunk that it lies in
  have hfound : ∀ c info size, m.slicesToDownload.get? c = some info →
      info.slices.get? cid = some size → cid / chunkSize % 2 ^ 32 = c := by
    intro c info size hinfo hcid
    obtain ⟨o, -, htaken⟩ := h.taken c info hinfo
    obtain ⟨hstart, hlt, -⟩ := htaken.slice cid size hcid
    rw [File.div_chunkSize hstart hlt, File.mod_of_lt (h.entry c info hinfo).1]
  simp only [dataReceived]
  generalize cid / chunkSize % 2 ^ 32 = n at hfound ⊢
  have hnone : (∀ info, m.slicesToDownload.get? n = some info → info.slices.get? cid = none) →
      ∀ c info, m.slicesToDownload.get? c = some info → info.slices.get? cid = none := by
    intro hn c info hinfo
    cases hcid : info.slices.get? cid with
    | none => rfl
    | some size =>
      obtain rfl := hfound c info size hinfo hcid
      rw [hn info hinfo] at hcid
      cases hcid
  cases hinfo : m.slicesToDownload.get? n with
  | none =>
    refine .inl ⟨rfl, hnone ?_⟩
    intro info hinfo'
    rw [hinfo] at hinfo'
    cases hinfo'
  | some info =>
    cases hcid : info.slices.get? cid with
    | none =>
      refine .inl ⟨by simp only [hcid], hnone ?_⟩
      intro info' hinfo'
      rw [hinfo] at hinfo'
      rwa [← Option.some.inj hinfo']
    | some size =>
      refine .inr ⟨n, info, size, hinfo, hcid, ?_⟩
      simp only [hcid]
      by_cases hzero : sub32 info.remains size = 0
      · exact .inr ⟨hzero, by rw [if_pos hzero]⟩
      · exact .inl ⟨hzero, by rw [if_neg hzero]⟩

theorem Sound.dataReceived (now : Int) (cid : Nat) :
  (m.dataReceived now cid).1.Sound file
  := by
  rcases h.dataReceived_cases now cid with
    ⟨heq, -⟩ | ⟨c, info, size, hinfo, hcid, ⟨-, heq⟩ | ⟨hzero, heq⟩⟩
  · rwa [heq]
  · rw [heq]
    exact h.receiveSlice hinfo hcid now
  · rw [heq]
    apply Sound.updateTotalDownloaded
    exact (h.receiveSlice hinfo hcid now).retireChunk (OrdMap.get?_insert_self _ _) hzero

/-! ### Giving chunks up, and checks -/

theorem Sound.removeChunk (c : Nat) (info : ChunkDownloadInfo) :
  (m.removeChunk c info).Sound file
  := by
  apply h.of_removed (c := c)
  · rfl
  · simp only [ChunkMap.removeChunk, List.length_set]
  · intro c' hne
    simp only [ChunkMap.removeChunk, state, getD_set]
    rw [if_neg (by rintro ⟨rfl, -⟩; exact hne rfl)]
  · rfl
  · intro peerId feed
    simp only [ChunkMap.removeChunk, OrdMap.get?_filter, Option.filter_eq_some_iff,
      decide_eq_true_eq, Nat.mul_comm chunkSize]

end

/-- What giving up a chunk preserves, `removeInactiveChunks` preserves; `P` also speaks of the
slices that are returned. -/
theorem removeInactiveChunks_induction {P : ChunkMap PeerId → List Nat → Prop} (h : P m [])
    (hstep : ∀ m' ids c info, P m' ids → m'.slicesToDownload.get? c = some info →
      inactiveChunkTimeLapse < now - info.lastDataReceived → P (m'.removeChunk c info) (ids ++
      info.slices.toList.map Prod.fst)) :
  P (m.removeInactiveChunks now).1 (m.removeInactiveChunks now).2
  := by
  have hfold : ∀ (l : List (Nat × ChunkDownloadInfo)) (r : ChunkMap PeerId × List Nat),
      l.Pairwise (fun e e' => e.1 < e'.1) →
      (∀ e ∈ l, r.1.slicesToDownload.get? e.1 = some e.2) → P r.1 r.2 →
      P (l.foldl (fun r e => if inactiveChunkTimeLapse < now - e.2.lastDataReceived then
          (r.1.removeChunk e.1 e.2, r.2 ++ e.2.slices.toList.map Prod.fst) else r) r).1
        (l.foldl (fun r e => if inactiveChunkTimeLapse < now - e.2.lastDataReceived then
          (r.1.removeChunk e.1 e.2, r.2 ++ e.2.slices.toList.map Prod.fst) else r) r).2 := by
    intro l
    induction l with
    | nil => exact fun r _ _ hr => hr
    | cons e l ih =>
      intro r hl hentries hr
      rw [List.pairwise_cons] at hl
      rw [List.foldl_cons]
      apply ih _ hl.2
      · intro e' he'
        have hold := hentries e' (List.mem_cons_of_mem _ he')
        split
        · simp only [ChunkMap.removeChunk, OrdMap.get?_erase]
          rwa [if_neg (hl.1 e' he').ne']
        · exact hold
      · split
        case isTrue hlapse => exact hstep _ _ _ _ hr (hentries e List.mem_cons_self) hlapse
        case isFalse => exact hr
  exact hfold m.slicesToDownload.toList (m, []) m.slicesToDownload.sorted
    (fun _ he => OrdMap.mem_toList.mp he) h

theorem Sound.removeInactiveChunks (h : m.Sound file) (now : Int) :
  (m.removeInactiveChunks now).1.Sound file
  := removeInactiveChunks_induction (P := fun m _ => m.Sound file) h
    fun _ _ c info h _ _ => h.removeChunk c info

/-- A checking result keeps a chunk map sound, unless the check of a chunk fails while the
chunk is being downloaded. -/
theorem Sound.setChunkCheckingResult (h : m.Sound file) (c : Nat) (checkSucceeded : Bool)
    (hcheck : checkSucceeded = false → m.state c = .checking → m.slicesToDownload.get? c = none) :
  (m.setChunkCheckingResult c checkSucceeded).Sound file
  := by
  simp only [ChunkMap.setChunkCheckingResult]
  split
  case isTrue => exact h
  case isFalse hstate =>
    rw [not_not] at hstate
    have hset : ∀ s c' info, m.slicesToDownload.get? c' = some info →
        (c' = c → s ≠ .outstanding) → (m.map.set c s).getD c' .outstanding ≠ .outstanding := by
      intro s c' info hinfo hs
      rw [getD_set]
      split
      case isTrue heq => exact hs heq.1.symm
      case isFalse => exact (h.entry c' info hinfo).2
    cases checkSucceeded with
    | true =>
      rw [if_pos rfl]
      refine h.congr rfl (List.length_set) rfl rfl ?_
      intro c' info hinfo
      apply hset .done c' info hinfo
      simp
    | false =>
      rw [if_neg Bool.false_ne_true]
      refine h.congr rfl (List.length_set) rfl rfl ?_
      intro c' info hinfo
      apply hset .outstanding c' info hinfo
      rintro rfl
      rw [hcheck rfl hstate] at hinfo
      cases hinfo

theorem Sound.forceCheck (h : m.Sound file) :
  m.forceCheck.Sound file
  := by
  refine h.congr rfl (List.length_map _) rfl rfl ?_
  intro c info hinfo
  have hc : c < m.map.length := (h.entry c info hinfo).1.trans_eq h.length.symm
  simp [ChunkMap.forceCheck, ChunkMap.updateTotalDownloaded, state, hc]

theorem Sound.setPeerAvailabilityMap (h : m.Sound file) (now : Int) (peerId : PeerId)
    (cmap : CompressedChunkMap) :
  (m.setPeerAvailabilityMap now peerId cmap).Sound file
  := by
  rw [ChunkMap.setPeerAvailabilityMap]
  generalize (if m.map.length % 32 = 0 then 0 else 1) = r
  split
  · exact h
  · exact h.withSources _

theorem setPeerAvailabilityMap_slices (m : ChunkMap PeerId) (now : Int) (peerId : PeerId)
    (cmap : CompressedChunkMap) :
  (m.setPeerAvailabilityMap now peerId cmap).slicesToDownload = m.slicesToDownload
  := by
  rw [ChunkMap.setPeerAvailabilityMap]
  generalize (if m.map.length % 32 = 0 then 0 else 1) = r
  split <;> rfl

theorem setChunkCheckingResult_slices (m : ChunkMap PeerId) (c : Nat) (checkSucceeded : Bool) :
  (m.setChunkCheckingResult c checkSucceeded).slicesToDownload = m.slicesToDownload
  := by
  rw [ChunkMap.setChunkCheckingResult]
  split
  · rfl
  · split <;> rfl

/-! ### The slices that are recorded -/

/-- The slice `id` has been asked for, and has not arrived. -/
def Records (m : ChunkMap PeerId) (id size : Nat) : Prop :=
  ∃ c info, m.slicesToDownload.get? c = some info ∧ info.slices.get? id = some size

include h

theorem Sound.of_records (hid : m.Records id size) :
  ∃ info, m.slicesToDownload.get? (id / chunkSize) = some info ∧ info.slices.get? id = some size
  := by
  obtain ⟨c, info, hinfo, hsize⟩ := hid
  obtain ⟨o, -, htaken⟩ := h.taken c info hinfo
  obtain ⟨hstart, hlt, -⟩ := htaken.slice id size hsize
  exact ⟨info, by rwa [File.div_chunkSize hstart hlt], hsize⟩

theorem Sound.records_unique (hid : m.Records id size) (hid' : m.Records id size') :
  size = size'
  := by
  obtain ⟨info, hinfo, hsize⟩ := h.of_records hid
  obtain ⟨info', hinfo', hsize'⟩ := h.of_records hid'
  obtain rfl : info = info' := by simpa [hinfo] using hinfo'
  simpa [hsize] using hsize'

/-- Slices lie within their chunks. -/
theorem Sound.records_le (hid : m.Records id size) :
  id < file.size ∧ id + size ≤ file.chunkEnd (id / chunkSize) ∧ id / chunkSize < file.chunks
  := by
  obtain ⟨info, hinfo, hsize⟩ := h.of_records hid
  obtain ⟨o, -, htaken⟩ := h.taken _ info hinfo
  obtain ⟨-, hlt, hle, -⟩ := htaken.slice id size hsize
  have hc := (h.entry _ info hinfo).1
  exact ⟨hlt.trans_le (File.chunkEnd_le hc), hle.trans htaken.le_end, hc⟩

/-- A slice ends where a feed stands, or starts after its end. -/
theorem Sound.records_feed (hid : m.Records id size)
    (hfeed : m.activeChunksFeed.get? owner = some feed) :
  id + size ≤ feed.offset ∧ (size = 0 ∨ id ≠ feed.offset) ∨ feed.endOffset ≤ id ∧ id ≠ feed.offset
  := by
  obtain ⟨c, info, hinfo, -, hof, htaken⟩ := h.of_feed hfeed
  obtain ⟨c', info', hinfo', hsize⟩ := hid
  have hstart := hof.start_le
  have hlt := hof.lt_end
  have hend := hof.endOffset
  have hsizes := file.sizeOf_le (c := c)
  rcases Nat.lt_trichotomy c' c with hless | rfl | hmore
  · obtain ⟨o, -, htaken'⟩ := h.taken c' info' hinfo'
    obtain ⟨hfrom, hto, hle, -⟩ := htaken'.slice id size hsize
    have hle' := htaken'.le_end
    have hsizes' := file.sizeOf_le (c := c')
    simp only [File.chunkEnd, chunkSize] at *
    omega
  · obtain rfl : info = info' := by simpa [hinfo] using hinfo'
    obtain ⟨-, -, hle, hempty⟩ := htaken.slice id size hsize
    omega
  · obtain ⟨o, -, htaken'⟩ := h.taken c' info' hinfo'
    obtain ⟨hfrom, -⟩ := htaken'.slice id size hsize
    simp only [File.chunkEnd, chunkSize] at *
    omega

/-- A chunk that is allocated has no slices yet. -/
theorem Prepared.records (hm' : m.Prepared peerId m' events) :
  m'.Records id size ↔ m.Records id size
  := by
  obtain ⟨sources, ⟨rfl, -⟩ | ⟨c, hc, hstate, -, rfl, -⟩⟩ := hm'
  · exact Iff.rfl
  · have hnone := h.get?_of_outstanding hstate
    rw [h.length] at hc
    have heq := (h.withSources sources).allocate_eq hc hstate peerId
    simp only [Records, heq, OrdMap.get?_insert]
    constructor
    · rintro ⟨c', info, hinfo, hsize⟩
      split at hinfo
      · cases hinfo
        cases hsize
      · exact ⟨c', info, hinfo, hsize⟩
    · rintro ⟨c', info, hinfo, hsize⟩
      refine ⟨c', info, ?_, hsize⟩
      rwa [if_neg]
      rintro rfl
      rw [hnone] at hinfo
      cases hinfo

theorem Sound.takeSlice_records (hfeed : m.activeChunksFeed.get? owner = some feed) (now : Int)
    (sizeHint : Nat) (peerId : PeerId) :
  (m.takeSlice now sizeHint peerId owner feed).1.Records id size ↔
    id = feed.offset ∧ size = sliceSize feed sizeHint ∨ id ≠ feed.offset ∧ m.Records id size
  := by
  obtain ⟨c, info, hinfo, hc, hof, htaken⟩ := h.of_feed hfeed
  rw [takeSlice_of_isFeed hc hof hinfo]
  simp only [Records, OrdMap.get?_insert]
  constructor
  · rintro ⟨c', info', hinfo', hsize⟩
    split at hinfo'
    case isTrue heq =>
      obtain rfl := Option.some.inj hinfo'
      rw [OrdMap.get?_insert] at hsize
      split at hsize
      case isTrue hid => exact .inl ⟨hid, (Option.some.inj hsize).symm⟩
      case isFalse hid => exact .inr ⟨hid, c, info, hinfo, hsize⟩
    case isFalse hne =>
      refine .inr ⟨?_, c', info', hinfo', hsize⟩
      -- the slices of other chunks are elsewhere
      rintro rfl
      obtain ⟨o, -, htaken'⟩ := h.taken c' info' hinfo'
      obtain ⟨hfrom, hto, -⟩ := htaken'.slice _ _ hsize
      apply hne
      rw [← File.div_chunkSize hfrom hto]
      exact File.div_chunkSize hof.start_le (hof.lt_end.trans_eq hof.endOffset)
  · rintro (⟨rfl, rfl⟩ | ⟨hne, c', info', hinfo', hsize⟩)
    · exact ⟨c, _, if_pos rfl, OrdMap.get?_insert_self _ _⟩
    · by_cases heq : c' = c
      · subst heq
        obtain rfl : info = info' := by simpa [hinfo] using hinfo'
        refine ⟨c', _, if_pos rfl, ?_⟩
        rwa [OrdMap.get?_insert, if_neg hne]
      · exact ⟨c', info', by rwa [if_neg heq], hsize⟩

theorem Sound.receiveSlice_records (hinfo : m.slicesToDownload.get? c = some info)
    (hcid : info.slices.get? cid = some size) (now : Int) :
  (m.receiveSlice now c info cid size).Records id size' ↔ id ≠ cid ∧ m.Records id size'
  := by
  simp only [Records, ChunkMap.receiveSlice, OrdMap.get?_insert]
  constructor
  · rintro ⟨c', info', hinfo', hsize⟩
    split at hinfo'
    case isTrue heq =>
      obtain rfl := Option.some.inj hinfo'
      rw [OrdMap.get?_erase] at hsize
      split at hsize
      case isTrue => cases hsize
      case isFalse hid => exact ⟨hid, c, info, hinfo, hsize⟩
    case isFalse hne =>
      refine ⟨?_, c', info', hinfo', hsize⟩
      rintro rfl
      obtain ⟨o, -, htaken⟩ := h.taken c info hinfo
      obtain ⟨o', -, htaken'⟩ := h.taken c' info' hinfo'
      obtain ⟨hfrom, hto, -⟩ := htaken.slice _ _ hcid
      obtain ⟨hfrom', hto', -⟩ := htaken'.slice _ _ hsize
      apply hne
      rw [← File.div_chunkSize hfrom hto, File.div_chunkSize hfrom' hto']
  · rintro ⟨hne, c', info', hinfo', hsize⟩
    by_cases heq : c' = c
    · subst heq
      obtain rfl : info = info' := by simpa [hinfo] using hinfo'
      refine ⟨c', _, if_pos rfl, ?_⟩
      rwa [OrdMap.get?_erase, if_neg hne]
    · exact ⟨c', info', by rwa [if_neg heq], hsize⟩

theorem Sound.completeChunk_records (hinfo : m.slicesToDownload.get? c = some info)
    (hzero : info.remains = 0) :
  (m.completeChunk c).Records id size ↔ m.Records id size
  := by
  obtain ⟨-, -, hempty⟩ := h.of_remains_eq_zero hinfo hzero
  obtain ⟨s, queue, -, heq⟩ := m.retireChunk_eq c
  have hslices : (m.completeChunk c).slicesToDownload = m.slicesToDownload.erase c := by
    rw [ChunkMap.completeChunk, ChunkMap.updateTotalDownloaded, heq]
  simp only [Records, hslices, OrdMap.get?_erase]
  constructor
  · rintro ⟨c', info', hinfo', hsize⟩
    split at hinfo'
    · cases hinfo'
    · exact ⟨c', info', hinfo', hsize⟩
  · rintro ⟨c', info', hinfo', hsize⟩
    refine ⟨c', info', ?_, hsize⟩
    rwa [if_neg]
    rintro rfl
    obtain rfl : info = info' := by simpa [hinfo] using hinfo'
    rw [hempty] at hsize
    cases hsize

theorem Sound.dataReceived_records (now : Int) (cid : Nat) :
  (m.dataReceived now cid).1.Records id size ↔ id ≠ cid ∧ m.Records id size
  := by
  rcases h.dataReceived_cases now cid with
    ⟨heq, hnone⟩ | ⟨c, info, size', hinfo, hcid, ⟨-, heq⟩ | ⟨hzero, heq⟩⟩
  · rw [heq, iff_and_self]
    rintro ⟨c, info, hinfo, hsize⟩ rfl
    rw [hnone c info hinfo] at hsize
    cases hsize
  · rw [heq]
    exact h.receiveSlice_records hinfo hcid now
  · rw [heq, (h.receiveSlice hinfo hcid now).completeChunk_records (OrdMap.get?_insert_self _ _)
      hzero]
    exact h.receiveSlice_records hinfo hcid now

end ChunkMap

end Ft
