import RetroShare.Ft.Parts

/-!
# Chunks are complete when their data has arrived

When nothing remains of a chunk, every byte of it has been written since the chunk was
allocated.  Every byte of a chunk that is being downloaded is written, or lies in a slice that
is recorded or in what is left of a feed (`Filled`); every byte of a slice is written, or lies
in one of its parts (`Tracked`), unless a part of the slice has been lost, in which case its
counter never comes down to zero.

The invariant breaks when the check of a chunk fails while the chunk is being downloaded: the
chunk is allocated again although slices of it are recorded.
-/

namespace Ft

variable {PeerId : Type} [LinearOrder PeerId] {file : File}

/-- The byte at `b` has been written, and the chunk `c` has not been allocated since. -/
def WrittenSince (t : List (FileEvent PeerId)) (c b : Nat) : Prop :=
  ∃ t₁ t₂ offset size, t = t₁ ++ .chunk (.wrote offset size) :: t₂ ∧ offset ≤ b ∧
    b < offset + size ∧ .chunk (.allocated c) ∉ t₂

/-- Whenever a chunk is completed, all its bytes have been written since it was allocated. -/
def Arrived (file : File) (t : List (FileEvent PeerId)) : Prop :=
  ∀ t₁ t₂ c, t = t₁ ++ .chunk (.completed c) :: t₂ →
    ∀ b, c * chunkSize ≤ b → b < file.chunkEnd c → WrittenSince t₁ c b

namespace ChunkMap

variable {m m' : ChunkMap PeerId} {W W' : Nat → Nat → Prop} {c cid : Nat} {info : ChunkDownloadInfo}

/-- Every byte `b` of a chunk `c` that is being downloaded satisfies `W c b`, or lies in a slice
that is recorded or in what is left of a feed. -/
def Filled (file : File) (W : Nat → Nat → Prop) (m : ChunkMap PeerId) : Prop :=
  ∀ c info, m.slicesToDownload.get? c = some info →
    ∀ b, c * chunkSize ≤ b → b < file.chunkEnd c →
      W c b ∨ (∃ id size, info.slices.get? id = some size ∧ id ≤ b ∧ b < id + size) ∨
        ∃ q feed, m.activeChunksFeed.get? q = some feed ∧ feed.start = c * chunkSize ∧
          feed.offset ≤ b

variable (h : m.Filled file W)

include h

theorem Filled.mono (hW : ∀ c b, W c b → W' c b) :
  m.Filled file W'
  := by
  intro c info hinfo b hstart hend
  exact (h c info hinfo b hstart hend).imp_left (hW c b)

theorem Filled.congr (hfeeds : m'.activeChunksFeed = m.activeChunksFeed)
    (hslices : m'.slicesToDownload = m.slicesToDownload) :
  m'.Filled file W
  := by
  rw [Filled, hfeeds, hslices]
  exact h

theorem Filled.allocate (hsound : m.Sound file) (hc : c < file.chunks)
    (hstate : m.state c = .outstanding) {peerId : PeerId}
    (hpeer : m.activeChunksFeed.get? peerId = none) (hW : ∀ c' b, c' ≠ c → W c' b → W' c' b) :
  (m.allocate peerId c).Filled file W'
  := by
  rw [hsound.allocate_eq hc hstate]
  intro c' info hinfo b hstart hend
  dsimp only at hinfo ⊢
  rw [OrdMap.get?_insert] at hinfo
  split at hinfo
  case isTrue heq =>
    subst heq
    exact .inr (.inr ⟨peerId, _, OrdMap.get?_insert_self _ _, rfl, hstart⟩)
  case isFalse hne =>
    rcases h c' info hinfo b hstart hend with hw | hslice | ⟨q, feed, hfeed, hrest⟩
    · exact .inl (hW c' b hne hw)
    · exact .inr (.inl hslice)
    · refine .inr (.inr ⟨q, feed, ?_, hrest⟩)
      rw [OrdMap.get?_insert, if_neg]
      · exact hfeed
      · rintro rfl
        rw [hpeer] at hfeed
        cases hfeed

theorem Filled.takeSlice (hsound : m.Sound file) {owner : PeerId} {feed : Chunk}
    (hfeed : m.activeChunksFeed.get? owner = some feed) (now : Int) (sizeHint : Nat)
    (peerId : PeerId) :
  (m.takeSlice now sizeHint peerId owner feed).1.Filled file W
  := by
  obtain ⟨c, info, hinfo, hc, hof, htaken⟩ := hsound.of_feed hfeed
  rw [takeSlice_of_isFeed hc hof hinfo]
  have hrest : ∀ {c' b}, b < file.chunkEnd c' →
      (∃ q feed', m.activeChunksFeed.get? q = some feed' ∧ feed'.start = c' * chunkSize ∧
        feed'.offset ≤ b) →
      (c' = c ∧ feed.offset ≤ b ∧ b < feed.offset + sliceSize feed sizeHint) ∨
        ∃ q feed', (advanceFeed m.activeChunksFeed owner feed sizeHint).get? q = some feed' ∧
          feed'.start = c' * chunkSize ∧ feed'.offset ≤ b := by
    rintro c' b hend ⟨q, feed', hfeed', hstart, hle⟩
    by_cases hq : q = owner
    · subst hq
      obtain rfl : feed = feed' := by simpa [hfeed] using hfeed'
      obtain rfl := mul_chunkSize_inj (hof.start.symm.trans hstart)
      by_cases hin : b < feed.offset + sliceSize feed sizeHint
      · exact .inl ⟨rfl, hle, hin⟩
      · refine .inr ⟨q, _, get?_advanceFeed.mpr (.inl ⟨rfl, ?_, rfl⟩), hstart, ?_⟩
        · rw [hof.endOffset]
          omega
        · dsimp only
          omega
    · exact .inr ⟨q, feed', get?_advanceFeed.mpr (.inr ⟨hq, hfeed'⟩), hstart, hle⟩
  intro c' info' hinfo' b hstart hend
  dsimp only at hinfo' ⊢
  rw [OrdMap.get?_insert] at hinfo'
  split at hinfo'
  case isTrue heq =>
    subst heq
    obtain rfl := Option.some.inj hinfo'
    rcases h c' info hinfo b hstart hend with hw | ⟨id, size, hid, hle, hlt⟩ | hfeeds
    · exact .inl hw
    · refine .inr (.inl ⟨id, size, ?_, hle, hlt⟩)
      -- the slice that may be there is empty
      rw [OrdMap.get?_insert, if_neg]
      · exact hid
      · obtain ⟨-, -, hend', -⟩ := htaken.slice id size hid
        omega
    · rcases hrest hend hfeeds with ⟨-, hle, hlt⟩ | hfeeds'
      · exact .inr (.inl ⟨feed.offset, _, OrdMap.get?_insert_self _ _, hle, hlt⟩)
      · exact .inr (.inr hfeeds')
  case isFalse hne =>
    rcases h c' info' hinfo' b hstart hend with hw | hslice | hfeeds
    · exact .inl hw
    · exact .inr (.inl hslice)
    · rcases hrest hend hfeeds with ⟨heq, -⟩ | hfeeds'
      · exact absurd heq hne
      · exact .inr (.inr hfeeds')

/-- The bytes of a slice that arrives satisfy `W`. -/
theorem Filled.receiveSlice (hinfo : m.slicesToDownload.get? c = some info) {size : Nat}
    (hcid : info.slices.get? cid = some size) (hW : ∀ b, cid ≤ b → b < cid + size → W c b)
    (now : Int) :
  (m.receiveSlice now c info cid size).Filled file W
  := by
  intro c' info' hinfo' b hstart hend
  simp only [ChunkMap.receiveSlice, OrdMap.get?_insert] at hinfo' ⊢
  split at hinfo'
  case isTrue heq =>
    subst heq
    obtain rfl := Option.some.inj hinfo'
    rcases h c' info hinfo b hstart hend with hw | ⟨id, size', hid, hle, hlt⟩ | hfeeds
    · exact .inl hw
    · by_cases heq : id = cid
      · subst heq
        obtain rfl : size = size' := by simpa [hcid] using hid
        exact .inl (hW b hle hlt)
      · refine .inr (.inl ⟨id, size', ?_, hle, hlt⟩)
        rwa [OrdMap.get?_erase, if_neg heq]
    · exact .inr (.inr hfeeds)
  case isFalse => exact h c' info' hinfo' b hstart hend

/-- All bytes of a chunk of which nothing remains satisfy `W`. -/
theorem Filled.of_remains_eq_zero (hsound : m.Sound file)
    (hinfo : m.slicesToDownload.get? c = some info) (hzero : info.remains = 0) {b : Nat}
    (hstart : c * chunkSize ≤ b) (hend : b < file.chunkEnd c) :
  W c b
  := by
  obtain ⟨hnofeed, -, hempty⟩ := hsound.of_remains_eq_zero hinfo hzero
  rcases h c info hinfo b hstart hend with hw | ⟨id, size, hid, -⟩ | ⟨q, feed, hfeed, hc, -⟩
  · exact hw
  · rw [hempty] at hid
    cases hid
  · exact absurd hc (hnofeed q feed hfeed)

theorem Filled.erase (hslices : m'.slicesToDownload = m.slicesToDownload.erase c)
    (hfeeds : ∀ q feed, feed.start ≠ c * chunkSize → m.activeChunksFeed.get? q = some feed →
      m'.activeChunksFeed.get? q = some feed) :
  m'.Filled file W
  := by
  intro c' info hinfo b hstart hend
  rw [hslices, OrdMap.get?_erase] at hinfo
  split at hinfo
  case isTrue => cases hinfo
  case isFalse hne =>
    rcases h c' info hinfo b hstart hend with hw | hslice | ⟨q, feed, hfeed, hc, hle⟩
    · exact .inl hw
    · exact .inr (.inl hslice)
    · refine .inr (.inr ⟨q, feed, hfeeds q feed ?_ hfeed, hc, hle⟩)
      rw [hc]
      intro heq
      exact hne (mul_chunkSize_inj heq)

/-- The bytes of the slice that arrives satisfy `W`, and so do those of a chunk that is
completed. -/
theorem Filled.dataReceived (hsound : m.Sound file)
    (hW : ∀ size, m.Records cid size → ∀ b, cid ≤ b → b < cid + size → W (cid / chunkSize) b)
    (now : Int) :
  (m.dataReceived now cid).1.Filled file W ∧
    ((m.dataReceived now cid).2 = [] ∨ ∃ c, (m.dataReceived now cid).2 = [.completed c] ∧
      ∀ b, c * chunkSize ≤ b → b < file.chunkEnd c → W c b)
  := by
  rcases hsound.dataReceived_cases now cid with
    ⟨heq, -⟩ | ⟨c, info, size, hinfo, hcid, hcases⟩
  · rw [heq]
    exact ⟨h, .inl rfl⟩
  · have hc : cid / chunkSize = c := by
      obtain ⟨o, -, htaken⟩ := hsound.taken c info hinfo
      obtain ⟨hstart, hlt, -⟩ := htaken.slice cid size hcid
      exact File.div_chunkSize hstart hlt
    have hreceived := h.receiveSlice hinfo hcid (hc ▸ hW size ⟨c, info, hinfo, hcid⟩) now
    rcases hcases with ⟨-, heq⟩ | ⟨hzero, heq⟩
    · rw [heq]
      exact ⟨hreceived, .inl rfl⟩
    · have hsound' := hsound.receiveSlice hinfo hcid now
      have hinfo' : (m.receiveSlice now c info cid size).slicesToDownload.get? c =
          some ⟨info.slices.erase cid, sub32 info.remains size, now⟩ :=
        OrdMap.get?_insert_self _ _
      rw [heq]
      refine ⟨?_, .inr ⟨c, rfl, ?_⟩⟩
      · obtain ⟨s, queue, -, hretire⟩ := (m.receiveSlice now c info cid size).retireChunk_eq c
        apply hreceived.erase (c := c)
        · rw [completeChunk, updateTotalDownloaded, hretire]
        · intro q feed hne hfeed
          rw [completeChunk, updateTotalDownloaded, hretire]
          exact hfeed
      · exact fun b hstart hend =>
          hreceived.of_remains_eq_zero hsound' hinfo' hzero hstart hend

theorem Filled.removeInactiveChunks (now : Int) :
  (m.removeInactiveChunks now).1.Filled file W
  := by
  refine removeInactiveChunks_induction (P := fun m _ => m.Filled file W) h ?_
  intro m' ids c info h' _ _
  apply h'.erase (c := c)
  · rfl
  · intro q feed hne hfeed
    simp only [removeChunk, OrdMap.get?_filter, Option.filter_eq_some_iff, decide_eq_true_eq,
      Nat.mul_comm chunkSize]
    exact ⟨hfeed, hne⟩

end ChunkMap

/-! ### What has been written -/

section WrittenSince

omit [LinearOrder PeerId]

variable {t events : List (FileEvent PeerId)} {c b : Nat}

theorem WrittenSince.append (h : WrittenSince t c b)
    (hnone : .chunk (.allocated c) ∉ events) :
  WrittenSince (t ++ events) c b
  := by
  obtain ⟨t₁, t₂, offset, size, rfl, hle, hlt, hnone'⟩ := h
  refine ⟨t₁, t₂ ++ events, offset, size, by simp, hle, hlt, ?_⟩
  rw [List.mem_append]
  exact not_or.mpr ⟨hnone', hnone⟩

theorem writtenSince_wrote {offset size : Nat} (hle : offset ≤ b) (hlt : b < offset + size) :
  WrittenSince (t ++ [.chunk (.wrote offset size)]) c b
  := ⟨t, [], offset, size, rfl, hle, hlt, List.not_mem_nil⟩

/-- Events that complete chunks whose bytes satisfy `W`, and allocate none. -/
def Emits (file : File) (W : Nat → Nat → Prop) (events : List (FileEvent PeerId)) : Prop :=
  (∀ c, .chunk (.allocated c) ∉ events) ∧
    ∀ c, .chunk (.completed c) ∈ events → ∀ b, c * chunkSize ≤ b → b < file.chunkEnd c → W c b

theorem Emits.nil {W : Nat → Nat → Prop} :
  Emits file W ([] : List (FileEvent PeerId))
  := ⟨fun _ h => (by cases h), fun _ h => (by cases h)⟩

theorem Arrived.nil :
  Arrived file ([] : List (FileEvent PeerId))
  := by
  intro t₁ t₂ c heq
  cases t₁ <;> cases heq

/-- The bytes of chunks that are completed have been written before. -/
theorem Arrived.append (h : Arrived file t)
    (hevents : ∀ c, .chunk (.completed c) ∈ events → Emits file (WrittenSince t) events) :
  Arrived file (t ++ events)
  := by
  intro t₁ t₂ c heq b hstart hend
  rcases List.append_eq_append_iff.mp heq with ⟨mid, rfl, hmid⟩ | ⟨mid, rfl, hmid⟩
  · have hmem : .chunk (.completed c) ∈ events := by
      rw [hmid]
      simp
    obtain ⟨hnone, hbytes⟩ := hevents c hmem
    apply (hbytes c hmem b hstart hend).append
    intro hin
    apply hnone c
    rw [hmid]
    exact List.mem_append_left _ hin
  · cases mid with
    | nil =>
      have hmem : .chunk (.completed c) ∈ events := by
        rw [List.nil_append] at hmid
        rw [← hmid]
        exact List.mem_cons_self
      obtain ⟨-, hbytes⟩ := hevents c hmem
      rw [List.append_nil] at hbytes
      exact hbytes c hmem b hstart hend
    | cons e mid =>
      rw [List.cons_append, List.cons.injEq] at hmid
      obtain ⟨rfl, -⟩ := hmid
      exact h t₁ mid c rfl b hstart hend

end WrittenSince

namespace FileCreator

variable {s s' : FileCreator PeerId} {W W' : Nat → Nat → Prop} {e : FtChunk PeerId}
  {offset size : Nat} {t : List (FileEvent PeerId)} {m : ChunkMap PeerId}

/-! ### Parts and the bytes of their slices -/

/-- A part lies within the file, or its size has wrapped around. -/
def Sized (file : File) (e : FtChunk PeerId) : Prop :=
  e.offset ≤ file.size ∧
    (e.offset + e.size ≤ file.size ∨ 2 ^ 64 ≤ e.offset + e.size ∧ e.size < 2 ^ 64)

/-- No part of the slices that share the counter `p` has been lost. -/
def Tight (file : File) (s : FileCreator PeerId) (p : Nat) : Prop :=
  s.slack p = 0 ∧
    ∀ k e, s.mChunks.get? k = some e → e.refCnt = p → e.offset + e.size ≤ file.size

/-- The byte `b` lies in a part that shares the counter `p`. -/
def Missing (s : FileCreator PeerId) (p b : Nat) : Prop :=
  ∃ k e, s.mChunks.get? k = some e ∧ e.refCnt = p ∧ e.offset ≤ b ∧ b < e.offset + e.size

/-- The part `e` lies within a slice that is recorded, all bytes of which satisfy `W` or are
missing. -/
def Covered (W : Nat → Nat → Prop) (s : FileCreator PeerId) (e : FtChunk PeerId) : Prop :=
  ∃ size, s.chunkMap.Records e.id size ∧ e.id ≤ e.offset ∧ e.offset + e.size ≤ e.id + size ∧
    ∀ b, e.id ≤ b → b < e.id + size → W (e.id / chunkSize) b ∨ s.Missing e.refCnt b

/-- The bytes of the chunks and of the slices that have been asked for are accounted for. -/
structure Tracked (file : File) (W : Nat → Nat → Prop) (s : FileCreator PeerId) : Prop where
  sound : s.chunkMap.Sound file
  filled : s.chunkMap.Filled file W
  keyed : s.Keyed
  fresh : ∀ k e, s.mChunks.get? k = some e → e.refCnt < s.fresh
  ref : ∀ k e k' e', s.mChunks.get? k = some e → s.mChunks.get? k' = some e' →
    e.refCnt = e'.refCnt → e.id = e'.id
  counted : ∀ k e, s.mChunks.get? k = some e → 0 ≤ s.slack e.refCnt
  sized : ∀ k e, s.mChunks.get? k = some e → Sized file e
  covered : ∀ k e, s.mChunks.get? k = some e → s.Tight file e.refCnt → s.Covered W e
  /-- A slice of which nothing is lost has one counter. -/
  unique : ∀ k e k' e', s.mChunks.get? k = some e → s.mChunks.get? k' = some e' →
    s.Tight file e.refCnt → s.Tight file e'.refCnt → e.id = e'.id → e.refCnt = e'.refCnt

/-- The part `v` is cut from `u`, or it is what is left of it after it has wrapped around. -/
def CutFrom (file : File) (v u : FtChunk PeerId) : Prop :=
  v.id = u.id ∧ v.refCnt = u.refCnt ∧ Sized file v ∧
    (v.offset + v.size ≤ file.size → u.offset ≤ v.offset ∧ v.offset + v.size ≤ u.offset + u.size)

/-- Every part of `s'` is cut from a part of `s`, and nothing is lost of the slices that are
`Tight` in `s'`. -/
theorem Tracked.of_parts (h : s.Tracked file W) (hsound : s'.chunkMap.Sound file)
    (hfilled : s'.chunkMap.Filled file W') (hkeyed : s'.Keyed) (hfresh : s'.fresh = s.fresh)
    (hparts : ∀ k v, s'.mChunks.get? k = some v → ∃ k' u, s.mChunks.get? k' = some u ∧ CutFrom file
      v u) (hcounted : ∀ k v, s'.mChunks.get? k = some v → 0 ≤ s'.slack v.refCnt)
    (htight : ∀ k v, s'.mChunks.get? k = some v → s'.Tight file v.refCnt → s.Tight file v.refCnt)
    (hrecords : ∀ k v, s'.mChunks.get? k = some v → s'.Tight file v.refCnt → ∀ size,
      s.chunkMap.Records v.id size → s'.chunkMap.Records v.id size)
    (hwritten : ∀ k v, s'.mChunks.get? k = some v → s'.Tight file v.refCnt → ∀ b size,
      s.chunkMap.Records v.id size → v.id ≤ b → b < v.id + size → W (v.id / chunkSize) b → W' (v.id
      / chunkSize) b)
    (hmissing : ∀ k v, s'.mChunks.get? k = some v → s'.Tight file v.refCnt → ∀ b, s.Missing v.refCnt
      b → W' (v.id / chunkSize) b ∨ s'.Missing v.refCnt b) :
  s'.Tracked file W'
  where
  sound := hsound
  filled := hfilled
  keyed := hkeyed
  fresh k v hv := by
    obtain ⟨k', u, hu, -, href, -⟩ := hparts k v hv
    rw [href, hfresh]
    exact h.fresh k' u hu
  ref k v l w hv hw heq := by
    obtain ⟨k', u, hu, hid, href, -⟩ := hparts k v hv
    obtain ⟨l', x, hx, hid', href', -⟩ := hparts l w hw
    rw [hid, hid']
    rw [href, href'] at heq
    exact h.ref k' u l' x hu hx heq
  counted := hcounted
  sized k v hv := by
    obtain ⟨k', u, -, -, -, hsized, -⟩ := hparts k v hv
    exact hsized
  covered k v hv hv' := by
    obtain ⟨k', u, hu, hid, href, -, hin⟩ := hparts k v hv
    obtain ⟨hfrom, hto⟩ := hin (hv'.2 k v hv rfl)
    have hold := htight k v hv hv'
    rw [href] at hold
    obtain ⟨size, hrec, hstart, hend, hbytes⟩ := h.covered k' u hu hold
    have hrec' := hrecords k v hv hv' size
    have hwritten' := fun b => hwritten k v hv hv' b size
    rw [hid] at hrec' hwritten'
    rw [Covered, hid]
    refine ⟨size, hrec' hrec, by omega, by omega, ?_⟩
    intro b hle hlt
    rcases hbytes b hle hlt with hw | hmiss
    · exact .inl (hwritten' b hrec hle hlt hw)
    · rw [← href] at hmiss
      have := hmissing k v hv hv' b hmiss
      rwa [hid] at this
  unique k v l w hv hw hv' hw' heq := by
    obtain ⟨k', u, hu, hid, href, -⟩ := hparts k v hv
    obtain ⟨l', x, hx, hid', href', -⟩ := hparts l w hw
    have hu' := htight k v hv hv'
    have hx' := htight l w hw hw'
    rw [href] at hu' ⊢
    rw [href'] at hx' ⊢
    exact h.unique k' u l' x hu hx hu' hx' (by rw [← hid, ← hid', heq])

omit [LinearOrder PeerId] in
theorem CutFrom.refl (h : Sized file e) :
  CutFrom file e e
  := ⟨rfl, rfl, h, fun _ => ⟨le_rfl, le_rfl⟩⟩

theorem Tracked.withChunkMap (h : s.Tracked file W) (hsound : m.Sound file)
    (hfilled : m.Filled file W')
    (hrecords : ∀ id size, m.Records id size ↔ s.chunkMap.Records id size)
    (hwritten : ∀ b id size, s.chunkMap.Records id size → W (id / chunkSize) b → W' (id / chunkSize)
      b) :
  Tracked file W' { s with chunkMap := m }
  := by
  apply h.of_parts
  case hsound => exact hsound
  case hfilled => exact hfilled
  case hkeyed => exact h.keyed
  case hfresh => rfl
  case hparts => exact fun k v hv => ⟨k, v, hv, CutFrom.refl (h.sized k v hv)⟩
  case hcounted => exact fun k v hv => h.counted k v hv
  case htight => exact fun _ _ _ htight => htight
  case hrecords => exact fun k v _ _ size hrec => (hrecords v.id size).mpr hrec
  case hwritten => exact fun k v _ _ b size hrec _ _ hw => hwritten b v.id size hrec hw
  case hmissing => exact fun _ _ _ _ _ hmiss => .inr hmiss

theorem Tracked.mono (h : s.Tracked file W) (hW : ∀ c b, W c b → W' c b) :
  s.Tracked file W'
  := h.withChunkMap h.sound (h.filled.mono hW) (fun _ _ => Iff.rfl) fun b _ _ _ => hW _ b

/-- Whether a file is open does not matter, nor which counters have been looked up. -/
theorem Tracked.withFd (h : s.Tracked file W) (fd : Bool) (perPeer : OrdMap PeerId Nat) :
  Tracked file W { s with fd := fd, mChunksPerPeer := perPeer }
  := ⟨h.sound, h.filled, h.keyed, h.fresh, h.ref, h.counted, h.sized, h.covered, h.unique⟩

/-! ### Data that arrives -/

theorem Tracked.split (h : s.Tracked file W) (he : s.mChunks.get? e.offset = some e)
    (hnone : s.mChunks.get? offset = none) (hlt : e.offset < offset)
    (hin : offset < e.offset + e.size) (hend : e.offset + e.size ≤ file.size) :
  (s.split e offset).Tracked file W
  := by
  have hget := fun k v => @get?_split_of_lt _ _ s e v offset k file hlt hin hend
  have hslack := slack_split he hnone
  apply h.of_parts
  case hsound => exact h.sound
  case hfilled => exact h.filled
  case hkeyed =>
    intro k v hv
    rcases (hget k v).mp hv with ⟨rfl, rfl⟩ | ⟨-, rfl, rfl⟩ | ⟨-, -, hold⟩
    · rfl
    · rfl
    · exact h.keyed k v hold
  case hfresh => rfl
  case hparts =>
    intro k v hv
    rcases (hget k v).mp hv with ⟨rfl, rfl⟩ | ⟨-, rfl, rfl⟩ | ⟨-, -, hold⟩
    · refine ⟨_, e, he, rfl, rfl, ⟨?_, .inl ?_⟩, fun _ => ⟨?_, ?_⟩⟩ <;> dsimp only <;> omega
    · refine ⟨_, e, he, rfl, rfl, ⟨?_, .inl ?_⟩, fun _ => ⟨?_, ?_⟩⟩ <;> dsimp only <;> omega
    · exact ⟨k, v, hold, CutFrom.refl (h.sized k v hold)⟩
  case hcounted =>
    intro k v hv
    rw [hslack]
    rcases (hget k v).mp hv with ⟨-, rfl⟩ | ⟨-, -, rfl⟩ | ⟨-, -, hold⟩
    · exact h.counted _ e he
    · exact h.counted _ e he
    · exact h.counted k v hold
  case htight =>
    rintro k v - ⟨hzero, hall⟩
    rw [hslack] at hzero
    refine ⟨hzero, ?_⟩
    intro k' u hu href
    by_cases hk : k' = e.offset
    · rw [hk, he] at hu
      rwa [← Option.some.inj hu]
    · apply hall k' u ((hget k' u).mpr (.inr (.inr ⟨?_, hk, hu⟩))) href
      rintro rfl
      rw [hnone] at hu
      cases hu
  case hrecords => exact fun _ _ _ _ _ hrec => hrec
  case hwritten => exact fun _ _ _ _ _ _ _ _ _ hw => hw
  case hmissing =>
    rintro k v - - b ⟨k', u, hu, href, hle, hlt'⟩
    right
    by_cases hk : k' = e.offset
    · rw [hk, he] at hu
      obtain rfl := Option.some.inj hu
      by_cases hb : b < offset
      · refine ⟨e.offset, _, (hget _ _).mpr (.inr (.inl ⟨hlt.ne, rfl, rfl⟩)), href, hle, ?_⟩
        dsimp only
        omega
      · refine ⟨offset, _, (hget _ _).mpr (.inl ⟨rfl, rfl⟩), href, ?_, ?_⟩ <;> dsimp only <;> omega
    · refine ⟨k', u, (hget k' u).mpr (.inr (.inr ⟨?_, hk, hu⟩)), href, hle, hlt'⟩
      rintro rfl
      rw [hnone] at hu
      cases hu

/-- What is left of a part takes the place of another part, if there is one: then this is
lost. -/
theorem shares_shrink {v : FtChunk PeerId} (now : Int) (he : s.mChunks.get? e.offset = some e)
    (hv : s.mChunks.get? (add64 e.offset size) = some v) (hne : add64 e.offset size ≠ e.offset)
    (p : Nat) :
  (s.shrink now e size).shares p + (if v.refCnt = p then 1 else 0) = s.shares p
  := by
  have hv' : (s.mChunks.erase e.offset).get? (add64 e.offset size) = some v := by
    rwa [OrdMap.get?_erase, if_neg hne]
  have hfst := OrdMap.countP_of_get?_eq_some (fun v => decide (v.refCnt = p)) he
  have hsnd := OrdMap.countP_of_get?_eq_some (fun v => decide (v.refCnt = p)) hv'
  rw [shares, FileCreator.shrink]
  dsimp only
  rw [OrdMap.countP_insert, shares, hfst, hsnd]
  simp only [decide_eq_true_eq]
  omega

theorem Tracked.shrink (h : s.Tracked file W) (he : s.mChunks.get? e.offset = some e)
    (hpos : 0 < size) (hle : e.offset + size ≤ file.size)
    (hW : ∀ c b, e.offset ≤ b → b < e.offset + size → W c b) (now : Int) :
  (s.shrink now e size).Tracked file W
  := by
  have hsize := file.le
  simp only [chunkSize] at hsize
  have hsized := h.sized _ e he
  rw [Sized] at hsized
  have hadd : add64 e.offset size = e.offset + size := add64_of_lt (by omega)
  have hoff : e.offset + size ≠ e.offset := by omega
  have hslack : ∀ p, s.slack p ≤ (s.shrink now e size).slack p := slack_le_shrink he
  -- the place of what is left is free, unless a part is lost
  have hlost : ∀ v, s.mChunks.get? (e.offset + size) = some v →
      (s.shrink now e size).Tight file v.refCnt → False := by
    rintro v hv ⟨hzero, -⟩
    rw [← hadd] at hv hoff
    have hshares := shares_shrink now he hv hoff v.refCnt
    have hcounted := h.counted _ v hv
    have hcount : (s.shrink now e size).count v.refCnt = s.count v.refCnt := rfl
    rw [if_pos rfl] at hshares
    rw [slack] at hzero hcounted
    omega
  have hget : ∀ k v, (s.shrink now e size).mChunks.get? k = some v ↔
      k = e.offset + size ∧
        v = { e with size := sub64 e.size size, offset := e.offset + size } ∨
      k ≠ e.offset + size ∧ k ≠ e.offset ∧ s.mChunks.get? k = some v := by
    intro k v
    rw [get?_shrink, hadd]
  apply h.of_parts
  case hsound => exact h.sound
  case hfilled => exact h.filled
  case hkeyed =>
    intro k v hv
    rcases (hget k v).mp hv with ⟨rfl, rfl⟩ | ⟨-, -, hold⟩
    · rfl
    · exact h.keyed k v hold
  case hfresh => rfl
  case hparts =>
    intro k v hv
    rcases (hget k v).mp hv with ⟨rfl, rfl⟩ | ⟨-, -, hold⟩
    · refine ⟨_, e, he, rfl, rfl, ⟨hle, ?_⟩, ?_⟩
      · simp only [sub64]
        omega
      · simp only [sub64]
        omega
    · exact ⟨k, v, hold, CutFrom.refl (h.sized k v hold)⟩
  case hcounted =>
    intro k v hv
    apply (hslack v.refCnt).trans'
    rcases (hget k v).mp hv with ⟨-, rfl⟩ | ⟨-, -, hold⟩
    · exact h.counted _ e he
    · exact h.counted k v hold
  case htight =>
    rintro k v hv ⟨hzero, hall⟩
    have hcounted : 0 ≤ s.slack v.refCnt := by
      rcases (hget k v).mp hv with ⟨-, rfl⟩ | ⟨-, -, hold⟩
      · exact h.counted _ e he
      · exact h.counted k v hold
    refine ⟨le_antisymm ((hslack _).trans hzero.le) hcounted, ?_⟩
    intro k' u hu href
    by_cases hk : k' = e.offset
    · rw [hk, he] at hu
      obtain rfl := Option.some.inj hu
      have hrest := hall _ _ ((hget _ _).mpr (.inl ⟨rfl, rfl⟩)) href
      simp only [sub64] at hrest
      omega
    · by_cases hk' : k' = e.offset + size
      · subst hk'
        refine absurd (hlost u hu ?_) id
        rw [href]
        exact ⟨hzero, hall⟩
      · exact hall k' u ((hget k' u).mpr (.inr ⟨hk', hk, hu⟩)) href
  case hrecords => exact fun _ _ _ _ _ hrec => hrec
  case hwritten => exact fun _ _ _ _ _ _ _ _ _ hw => hw
  case hmissing =>
    rintro k v - htight b ⟨k', u, hu, href, hfrom, hto⟩
    by_cases hk : k' = e.offset
    · rw [hk, he] at hu
      obtain rfl := Option.some.inj hu
      by_cases hb : b < e.offset + size
      · exact .inl (hW _ b hfrom hb)
      · have hrest := htight.2 _ _ ((hget _ _).mpr (.inl ⟨rfl, rfl⟩)) href
        refine .inr ⟨_, _, (hget _ _).mpr (.inl ⟨rfl, rfl⟩), href, by dsimp only; omega, ?_⟩
        simp only [sub64] at hrest ⊢
        omega
    · by_cases hk' : k' = e.offset + size
      · subst hk'
        rw [← href] at htight
        exact absurd (hlost u hu htight) id
      · exact .inr ⟨k', u, (hget k' u).mpr (.inr ⟨hk', hk, hu⟩), href, hfrom, hto⟩

/-- The data of a part that is removed satisfies `W`. -/
theorem Missing.of_erase (he : s.mChunks.get? e.offset = some e)
    (hparts : s'.mChunks = s.mChunks.erase e.offset)
    (hW : ∀ c b, e.offset ≤ b → b < e.offset + e.size → W c b) {p b : Nat} (h : s.Missing p b)
    (c : Nat) :
  W c b ∨ s'.Missing p b
  := by
  obtain ⟨k, u, hu, href, hfrom, hto⟩ := h
  by_cases hk : k = e.offset
  · rw [hk, he] at hu
    obtain rfl := Option.some.inj hu
    exact .inl (hW c b hfrom hto)
  · refine .inr ⟨k, u, ?_, href, hfrom, hto⟩
    rwa [hparts, OrdMap.get?_erase, if_neg hk]

/-- What is `Tight` after a part of the file has been removed was so before. -/
theorem Tight.of_erase (he : s.mChunks.get? e.offset = some e)
    (hparts : s'.mChunks = s.mChunks.erase e.offset) (hslack : ∀ p, s'.slack p = s.slack p)
    (hend : e.offset + e.size ≤ file.size) {p : Nat} (h : s'.Tight file p) :
  s.Tight file p
  := by
  obtain ⟨hzero, hall⟩ := h
  refine ⟨by rw [← hslack, hzero], ?_⟩
  intro k u hu href
  by_cases hk : k = e.offset
  · rw [hk, he] at hu
    rwa [← Option.some.inj hu]
  · apply hall k u _ href
    rwa [hparts, OrdMap.get?_erase, if_neg hk]

section

variable (h : s.Tracked file W)

include h

theorem Tracked.drop (he : s.mChunks.get? e.offset = some e) (hend : e.offset + e.size ≤ file.size)
    (hW : ∀ c b, e.offset ≤ b → b < e.offset + e.size → W c b) (now : Int) :
  (s.drop now e).Tracked file W
  := by
  have hparts : ∀ k v, (s.drop now e).mChunks.get? k = some v → s.mChunks.get? k = some v :=
    fun k v => OrdMap.get?_of_get?_erase
  have hslack : ∀ p, (s.drop now e).slack p = s.slack p := slack_erase he rfl rfl
  apply h.of_parts
  case hsound => exact h.sound
  case hfilled => exact h.filled
  case hkeyed => exact fun k v hv => h.keyed k v (hparts k v hv)
  case hfresh => rfl
  case hparts =>
    exact fun k v hv => ⟨k, v, hparts k v hv, CutFrom.refl (h.sized k v (hparts k v hv))⟩
  case hcounted =>
    intro k v hv
    rw [hslack]
    exact h.counted k v (hparts k v hv)
  case htight => exact fun k v _ htight => htight.of_erase he rfl hslack hend
  case hrecords => exact fun _ _ _ _ _ hrec => hrec
  case hwritten => exact fun _ _ _ _ _ _ _ _ _ hw => hw
  case hmissing => exact fun k v _ _ b hmiss => hmiss.of_erase he rfl hW _

/-- When the last part of a slice arrives, all bytes of the slice satisfy `W`. -/
theorem Tracked.finish (he : s.mChunks.get? e.offset = some e)
    (hend : e.offset + e.size ≤ file.size) (hlast : s.count e.refCnt - 1 = 0)
    (hW : ∀ c b, e.offset ≤ b → b < e.offset + e.size → W c b) (now : Int) :
  (s.finish now e).Tracked file W ∧
    ((s.chunkMap.dataReceived now e.id).2 = [] ∨
      ∃ c, (s.chunkMap.dataReceived now e.id).2 = [.completed c] ∧
        ∀ b, c * chunkSize ≤ b → b < file.chunkEnd c → W c b)
  := by
  have hparts : ∀ k v, (s.finish now e).mChunks.get? k = some v → s.mChunks.get? k = some v :=
    fun k v => OrdMap.get?_of_get?_erase
  have hslack : ∀ p, (s.finish now e).slack p = s.slack p := slack_erase he rfl rfl
  have hother : ∀ k v, (s.finish now e).mChunks.get? k = some v → v.refCnt ≠ e.refCnt :=
    fun k v hv => refCnt_ne_of_last he (h.counted _ e he) hlast hv
  -- no other part shares the counter of the last one
  have htight : s.Tight file e.refCnt := by
    have hpos : 0 < s.shares e.refCnt := OrdMap.countP_pos he (decide_eq_true rfl)
    refine ⟨?_, ?_⟩
    · have hcounted := h.counted _ e he
      rw [slack] at hcounted ⊢
      omega
    · intro k u hu href
      by_cases hk : k = e.offset
      · rw [hk, he] at hu
        rwa [← Option.some.inj hu]
      · refine absurd href (hother k u ?_)
        change (s.mChunks.erase e.offset).get? k = some u
        rwa [OrdMap.get?_erase, if_neg hk]
  obtain ⟨size, hrec, -, -, hbytes⟩ := h.covered _ e he htight
  have hslice : ∀ size', s.chunkMap.Records e.id size' → ∀ b, e.id ≤ b → b < e.id + size' →
      W (e.id / chunkSize) b := by
    intro size' hrec' b hle hlt
    rw [h.sound.records_unique hrec' hrec] at hlt
    rcases hbytes b hle hlt with hw | ⟨k, u, hu, href, hfrom, hto⟩
    · exact hw
    · by_cases hk : k = e.offset
      · rw [hk, he] at hu
        obtain rfl := Option.some.inj hu
        exact hW _ b hfrom hto
      · refine absurd href (hother k u ?_)
        change (s.mChunks.erase e.offset).get? k = some u
        rwa [OrdMap.get?_erase, if_neg hk]
  obtain ⟨hfilled, hcompleted⟩ := h.filled.dataReceived h.sound hslice now
  refine ⟨?_, hcompleted⟩
  apply h.of_parts
  case hsound => exact h.sound.dataReceived now e.id
  case hfilled => exact hfilled
  case hkeyed => exact fun k v hv => h.keyed k v (hparts k v hv)
  case hfresh => rfl
  case hparts =>
    exact fun k v hv => ⟨k, v, hparts k v hv, CutFrom.refl (h.sized k v (hparts k v hv))⟩
  case hcounted =>
    intro k v hv
    rw [hslack]
    exact h.counted k v (hparts k v hv)
  case htight => exact fun k v _ htight' => htight'.of_erase he rfl hslack hend
  case hrecords =>
    intro k v hv htight' size' hrec'
    refine (h.sound.dataReceived_records now e.id).mpr ⟨?_, hrec'⟩
    intro hid
    have hold := htight'.of_erase he rfl hslack hend
    exact hother k v hv (h.unique k v _ e (hparts k v hv) he hold htight hid)
  case hwritten => exact fun _ _ _ _ _ _ _ _ _ hw => hw
  case hmissing => exact fun k v _ _ b hmiss => hmiss.of_erase he rfl hW _

/-- Data that starts at a part. -/
theorem Tracked.notifyReceived_of_get? (he : s.mChunks.get? offset = some e) (hpos : 0 < size)
    (hle : offset + size ≤ file.size) (hW : ∀ c b, offset ≤ b → b < offset + size → W c b)
    (now : Int) :
  (s.notifyReceived now offset size).1.Tracked file W ∧
    Emits file W (s.notifyReceived now offset size).2
  := by
  obtain rfl := h.keyed offset e he
  rw [notifyReceived_of_get?_eq_some he rfl]
  by_cases hsize : e.size = size
  · subst hsize
    rw [if_neg (not_not.mpr rfl)]
    split
    case isTrue hlast =>
      obtain ⟨htracked, hevents⟩ := h.finish he hle hlast hW now
      refine ⟨htracked, ?_⟩
      rcases hevents with hnil | ⟨c, hcompleted, hbytes⟩
      · rw [hnil]
        exact ⟨by simp, by simp⟩
      · rw [hcompleted]
        refine ⟨by simp, ?_⟩
        intro c' hc'
        obtain rfl : c' = c := by simpa using hc'
        exact hbytes
    case isFalse => exact ⟨h.drop he hle hW now, Emits.nil⟩
  · rw [if_pos hsize]
    exact ⟨h.shrink he hpos hle hW now, Emits.nil⟩

theorem Tracked.notifyReceived (hpos : 0 < size) (hbound : offset + size < 2 ^ 64)
    (hle : offset ≤ file.size → offset + size ≤ file.size)
    (hW : ∀ c b, offset ≤ b → b < offset + size → W c b) (now : Int) :
  (s.notifyReceived now offset size).1.Tracked file W ∧
    Emits file W (s.notifyReceived now offset size).2
  := by
  obtain heq | ⟨e, he, rfl⟩ | ⟨hnone, e, he, hlt, hend, heq⟩ :=
    Keyed.notifyReceived_cases h.keyed now offset size
  · rw [heq]
    exact ⟨h, Emits.nil⟩
  · exact h.notifyReceived_of_get? he hpos (hle (h.sized _ e he).1) hW now
  · -- a part whose size has wrapped around encloses nothing
    have hfile := file.le
    simp only [chunkSize] at hfile
    have hsized := h.sized _ e he
    rw [Sized] at hsized
    rw [add64_of_lt (by omega), add64] at hend
    have hnormal : e.offset + e.size ≤ file.size := by omega
    have hoffset : offset ≤ file.size := by omega
    rw [heq]
    have hsplit := h.split he hnone hlt (by omega) hnormal
    exact hsplit.notifyReceived_of_get? (get?_split_self s e offset) hpos (hle hoffset) hW now

/-! ### Slices that are handed, and given up -/

/-- Time stamps do not matter. -/
theorem Tracked.restamp {k : Nat} (he : s.mChunks.get? k = some e) (ts : Int)
    (sources : OrdMap PeerId SourceChunksInfo) :
  Tracked file W
    { s with
      chunkMap := { s.chunkMap with peersChunksAvailability := sources }
      mChunks := s.mChunks.insert k { e with ts := ts } }
  := by
  have hget : ∀ {k' v}, (s.mChunks.insert k { e with ts := ts }).get? k' = some v →
      ∃ u, s.mChunks.get? k' = some u ∧ v = { u with ts := v.ts } := by
    intro k' v hv
    rcases OrdMap.get?_insert_iff.mp hv with ⟨heq, rfl⟩ | ⟨-, hv⟩
    · exact ⟨e, heq ▸ he, rfl⟩
    · exact ⟨v, hv, rfl⟩
  have hback : ∀ {k' u}, s.mChunks.get? k' = some u →
      ∃ t, (s.mChunks.insert k { e with ts := ts }).get? k' = some { u with ts := t } := by
    intro k' u hu
    rw [OrdMap.get?_insert]
    split
    case isTrue heq =>
      rw [heq, he] at hu
      rw [← Option.some.inj hu]
      exact ⟨ts, rfl⟩
    case isFalse => exact ⟨u.ts, hu⟩
  have hslack : ∀ p, slack { s with
      chunkMap := { s.chunkMap with peersChunksAvailability := sources }
      mChunks := s.mChunks.insert k { e with ts := ts } } p = s.slack p := by
    intro p
    have hshares : (s.mChunks.insert k { e with ts := ts }).countP (fun e => e.refCnt = p) =
        s.shares p := OrdMap.countP_insert_of_eq he rfl
    rw [slack, slack, ← hshares]
    rfl
  apply h.of_parts
  case hsound => exact h.sound.withSources sources
  case hfilled => exact h.filled
  case hkeyed =>
    intro k' v hv
    obtain ⟨u, hu, heq⟩ := hget hv
    rw [heq]
    exact h.keyed k' u hu
  case hfresh => rfl
  case hparts =>
    intro k' v hv
    obtain ⟨u, hu, heq⟩ := hget hv
    rw [heq]
    exact ⟨k', u, hu, rfl, rfl, h.sized k' u hu, fun _ => ⟨le_rfl, le_rfl⟩⟩
  case hcounted =>
    intro k' v hv
    obtain ⟨u, hu, heq⟩ := hget hv
    rw [hslack, heq]
    exact h.counted k' u hu
  case htight =>
    rintro k' v hv ⟨hzero, hall⟩
    refine ⟨by rw [← hslack, hzero], ?_⟩
    intro k'' u hu href
    obtain ⟨t, ht⟩ := hback hu
    exact hall k'' { u with ts := t } ht href
  case hrecords => exact fun _ _ _ _ _ hrec => hrec
  case hwritten => exact fun _ _ _ _ _ _ _ _ _ hw => hw
  case hmissing =>
    rintro k' v - - b ⟨k'', u, hu, href, hfrom, hto⟩
    obtain ⟨t, ht⟩ := hback hu
    exact .inr ⟨k'', _, ht, href, hfrom, hto⟩

theorem Tracked.hand {owner : PeerId} {feed : Chunk}
    (hfeed : s.chunkMap.activeChunksFeed.get? owner = some feed) (now : Int) (sizeHint : Nat)
    (peerId : PeerId) :
  (s.hand now sizeHint peerId owner feed).Tracked file W
  := by
  obtain ⟨c, info, -, hc, hof, -⟩ := h.sound.of_feed hfeed
  have hlt := hof.lt_end
  have hend := File.chunkEnd_le hc
  rw [← hof.endOffset] at hend
  have hsizele : feed.offset + ChunkMap.sliceSize feed sizeHint ≤ feed.endOffset := by
    simp only [ChunkMap.sliceSize]
    omega
  have hrecords : ∀ {id size}, (s.chunkMap.takeSlice now sizeHint peerId owner feed).1.Records id
      size ↔ _ := h.sound.takeSlice_records hfeed now sizeHint peerId
  obtain ⟨v, hv, hoff, hsize, hid, href, -⟩ := exists_hand h.sound hfeed now sizeHint peerId
  have hget : ∀ k u, (s.hand now sizeHint peerId owner feed).mChunks.get? k = some u ↔
      k = feed.offset ∧ u = v ∨ k ≠ feed.offset ∧ s.mChunks.get? k = some u := by
    intro k u
    rw [hv, OrdMap.get?_insert]
    by_cases hk : k = feed.offset <;> simp [hk, eq_comm]
  have hshares : ∀ p, (s.hand now sizeHint peerId owner feed).shares p =
      (s.mChunks.erase feed.offset).countP (fun e => e.refCnt = p) +
        if s.fresh = p then 1 else 0 := by
    intro p
    rw [shares, hv, OrdMap.countP_insert, href]
    simp only [decide_eq_true_eq]
  have hslack : ∀ p, p ≠ s.fresh →
      s.slack p ≤ (s.hand now sizeHint peerId owner feed).slack p := by
    intro p hp
    have hle := s.mChunks.countP_erase_le feed.offset fun e => decide (e.refCnt = p)
    rw [slack, slack, hshares, count_hand, if_neg hp, if_neg (Ne.symm hp), shares]
    omega
  have hold : ∀ {k u}, s.mChunks.get? k = some u → u.refCnt ≠ s.fresh :=
    fun hu => (h.fresh _ _ hu).ne
  -- a part that was at the offset of the feed is lost
  have hlost : ∀ u, s.mChunks.get? feed.offset = some u →
      ¬(s.hand now sizeHint peerId owner feed).Tight file u.refCnt := by
    rintro u hu ⟨hzero, -⟩
    have hcounted := h.counted _ u hu
    have hone := OrdMap.countP_of_get?_eq_some (fun e => decide (e.refCnt = u.refCnt)) hu
    rw [decide_eq_true rfl, if_pos rfl] at hone
    rw [slack, hshares, count_hand, if_neg (hold hu), if_neg (Ne.symm (hold hu))] at hzero
    rw [slack, shares] at hcounted
    omega
  have htight : ∀ {k u}, s.mChunks.get? k = some u →
      (s.hand now sizeHint peerId owner feed).Tight file u.refCnt → s.Tight file u.refCnt := by
    rintro k u hu ⟨hzero, hall⟩
    refine ⟨le_antisymm ((hslack _ (hold hu)).trans hzero.le) (h.counted k u hu), ?_⟩
    intro k' w hw heq
    by_cases hk : k' = feed.offset
    · subst hk
      refine absurd ?_ (hlost w hw)
      rw [heq]
      exact ⟨hzero, hall⟩
    · exact hall k' w ((hget k' w).mpr (.inr ⟨hk, hw⟩)) heq
  -- the slices of the other parts are elsewhere
  have hother : ∀ {k u}, k ≠ feed.offset → s.mChunks.get? k = some u →
      s.Tight file u.refCnt → u.id ≠ feed.offset := by
    intro k u hk hu hu' heq
    obtain ⟨size, hrec, hfrom, hto, -⟩ := h.covered k u hu hu'
    have hkey := h.keyed k u hu
    have := h.sound.records_feed hrec hfeed
    omega
  constructor
  case sound => exact h.sound.takeSlice hfeed now sizeHint peerId
  case filled => exact h.filled.takeSlice h.sound hfeed now sizeHint peerId
  case keyed =>
    intro k u hu
    rcases (hget k u).mp hu with ⟨rfl, rfl⟩ | ⟨-, hu⟩
    · exact hoff
    · exact h.keyed k u hu
  case fresh =>
    intro k u hu
    change u.refCnt < s.fresh + 1
    rcases (hget k u).mp hu with ⟨-, rfl⟩ | ⟨-, hu⟩
    · omega
    · have := h.fresh k u hu
      omega
  case ref =>
    intro k u k' u' hu hu' heq
    rcases (hget k u).mp hu with ⟨-, rfl⟩ | ⟨-, hu⟩ <;>
      rcases (hget k' u').mp hu' with ⟨-, rfl⟩ | ⟨-, hu'⟩
    · rfl
    · exact absurd (heq.symm.trans href) (hold hu')
    · exact absurd (heq.trans href) (hold hu)
    · exact h.ref k u k' u' hu hu' heq
  case counted =>
    intro k u hu
    rcases (hget k u).mp hu with ⟨-, rfl⟩ | ⟨-, hu⟩
    · have hnone : s.mChunks.countP (fun e => decide (e.refCnt = s.fresh)) = 0 := by
        apply OrdMap.countP_eq_zero
        intro k' u' hu'
        exact decide_eq_false (hold hu')
      have hle := s.mChunks.countP_erase_le feed.offset fun e => decide (e.refCnt = s.fresh)
      rw [slack, hshares, count_hand, href, if_pos rfl, if_pos rfl]
      omega
    · exact (h.counted k u hu).trans (hslack _ (hold hu))
  case sized =>
    intro k u hu
    rcases (hget k u).mp hu with ⟨-, rfl⟩ | ⟨-, hu⟩
    · refine ⟨?_, .inl ?_⟩ <;> omega
    · exact h.sized k u hu
  case covered =>
    intro k u hu hu'
    rcases (hget k u).mp hu with ⟨hk, rfl⟩ | ⟨hk, hold'⟩
    · refine ⟨_, hrecords.mpr (.inl ⟨hid, rfl⟩), by omega, by omega, ?_⟩
      intro b hle hlt
      exact .inr ⟨k, u, hu, rfl, by omega, by omega⟩
    · have hs := htight hold' hu'
      obtain ⟨size, hrec, hfrom, hto, hbytes⟩ := h.covered k u hold' hs
      refine ⟨size, hrecords.mpr (.inr ⟨hother hk hold' hs, hrec⟩), hfrom, hto, ?_⟩
      intro b hle hlt
      rcases hbytes b hle hlt with hw | ⟨k', w, hw, heq, hin⟩
      · exact .inl hw
      · by_cases hk' : k' = feed.offset
        · subst hk'
          rw [← heq] at hu'
          exact absurd hu' (hlost w hw)
        · exact .inr ⟨k', w, (hget k' w).mpr (.inr ⟨hk', hw⟩), heq, hin⟩
  case unique =>
    intro k u k' u' hu hu' ht ht' heq
    rcases (hget k u).mp hu with ⟨-, rfl⟩ | ⟨hk, hu⟩ <;>
      rcases (hget k' u').mp hu' with ⟨-, rfl⟩ | ⟨hk', hu'⟩
    · rfl
    · exact absurd (heq.symm.trans hid) (hother hk' hu' (htight hu' ht'))
    · exact absurd (heq.trans hid) (hother hk hu (htight hu ht))
    · exact h.unique k u k' u' hu hu' (htight hu ht) (htight hu' ht') heq

theorem Tracked.removeInactiveChunks (now : Int) :
  (s.removeInactiveChunks now).1.Tracked file W
  := by
  obtain ⟨hpurged, hparts⟩ := foldl_removeSlice (s.chunkMap.removeInactiveChunks now).2
    { s with chunkMap := (s.chunkMap.removeInactiveChunks now).1 }
  change (s.removeInactiveChunks now).1.mChunks = _ at hparts
  change Purged _ (s.removeInactiveChunks now).1 at hpurged
  have hslack : ∀ p, (s.removeInactiveChunks now).1.slack p = s.slack p := hpurged.slack
  have hget : ∀ k v, (s.removeInactiveChunks now).1.mChunks.get? k = some v ↔
      s.mChunks.get? k = some v ∧ v.id ∉ (s.chunkMap.removeInactiveChunks now).2 := by
    intro k v
    rw [hparts, OrdMap.get?_filter, Option.filter_eq_some_iff]
    simp
  -- the parts that share a counter with one that is left are left
  have hkept : ∀ k v, (s.removeInactiveChunks now).1.mChunks.get? k = some v → ∀ k' u,
      s.mChunks.get? k' = some u → u.refCnt = v.refCnt →
      (s.removeInactiveChunks now).1.mChunks.get? k' = some u := by
    intro k v hv k' u hu heq
    obtain ⟨hold, hid⟩ := (hget k v).mp hv
    rw [hget, h.ref k' u k v hu hold heq]
    exact ⟨hu, hid⟩
  apply h.of_parts
  case hsound =>
    rw [hpurged.chunkMap]
    exact h.sound.removeInactiveChunks now
  case hfilled =>
    rw [hpurged.chunkMap]
    exact h.filled.removeInactiveChunks now
  case hkeyed => exact fun k v hv => h.keyed k v ((hget k v).mp hv).1
  case hfresh => exact hpurged.fresh
  case hparts =>
    intro k v hv
    have hold := ((hget k v).mp hv).1
    exact ⟨k, v, hold, CutFrom.refl (h.sized k v hold)⟩
  case hcounted =>
    intro k v hv
    rw [hslack]
    exact h.counted k v ((hget k v).mp hv).1
  case htight =>
    rintro k v hv ⟨hzero, hall⟩
    refine ⟨by rw [← hslack, hzero], ?_⟩
    exact fun k' u hu heq => hall k' u (hkept k v hv k' u hu heq) heq
  case hrecords =>
    intro k v hv _ size hrec
    rw [hpurged.chunkMap]
    exact (removeInactiveChunks_records h.sound now).mpr ⟨((hget k v).mp hv).2, hrec⟩
  case hwritten => exact fun _ _ _ _ _ _ _ _ _ hw => hw
  case hmissing =>
    rintro k v hv - b ⟨k', u, hu, heq, hin⟩
    exact .inr ⟨k', u, hkept k v hv k' u hu heq, heq, hin⟩

end

/-! ### Runs -/

/-- No check of a chunk fails while the chunk is being downloaded. -/
def Call.Undisturbed (s : FileCreator PeerId) : Call PeerId → Prop
  | .verifyChunk c io => s.fd ∨ io.opens → ¬(io.seeks ∧ io.reads ∧ io.sumAgrees) →
      s.chunkMap.state c = .checking → s.chunkMap.slicesToDownload.get? c = none
  | _ => True

theorem Tracked.notifyReceived_written (h : s.Tracked file (WrittenSince t)) {chunkSize : Nat}
    (hpos : 0 < size) (hbound : offset + size < 2 ^ 64)
    (hwritten : offset ≤ file.size → size = s.written offset chunkSize) (now : Int) :
  let r := { s with fd := true }.notifyReceived now offset size
  r.1.Tracked file (WrittenSince (t ++ [.chunk (.wrote offset size)])) ∧
    Emits file (WrittenSince (t ++ [.chunk (.wrote offset size)])) r.2
  := by
  have hwrote : ∀ c b, WrittenSince t c b →
      WrittenSince (t ++ [.chunk (.wrote offset size)]) c b := by
    intro c b hw
    apply hw.append
    simp
  have hle : offset ≤ file.size → offset + size ≤ file.size := by
    intro hle
    rw [hwritten hle, written, h.sound.fileSize]
    omega
  exact ((h.mono hwrote).withFd true s.mChunksPerPeer).notifyReceived hpos hbound hle
    (fun c b hfrom hto => writtenSince_wrote hfrom hto) now

theorem Tracked.addFileData (h : s.Tracked file (WrittenSince t)) (ht : Arrived file t)
    (now : Int) (io : WriteOutcome) (offset : UInt64) (chunkSize : UInt32) :
  (s.addFileData now io offset chunkSize).1.Tracked file
      (WrittenSince (t ++ (s.addFileData now io offset chunkSize).2)) ∧
    Arrived file (t ++ (s.addFileData now io offset chunkSize).2)
  := by
  obtain ⟨fd, ns, heq⟩ | ⟨size, fd, hpos, hbound, hwritten, heq⟩ :=
    addFileData_cases h.sound.fileSize now io offset chunkSize
  · rw [heq]
    refine ⟨(h.mono fun c b hw => hw.append (by simp)).withFd fd _, ht.append fun c hc => ?_⟩
    simp at hc
  · -- the data is written first
    obtain ⟨htracked, hevents⟩ := h.notifyReceived_written hpos hbound hwritten now
    rw [heq, List.append_cons]
    refine ⟨?_, ?_⟩
    · apply Tracked.withFd
      exact htracked.mono fun c b hw => hw.append (hevents.1 c)
    · apply Arrived.append
      · apply ht.append
        intro c hc
        simp at hc
      · exact fun _ _ => hevents

theorem Prepared.not_allocated {m' : ChunkMap PeerId} {events : List Event} {peerId : PeerId}
    (h : m.Sound file) (hm : m.Prepared peerId m' events) {id : Nat} (hid : m.Records id size) :
  .allocated (id / chunkSize) ∉ events
  := by
  obtain ⟨sources, ⟨-, rfl⟩ | ⟨c, -, hstate, -, -, rfl⟩⟩ := hm
  · exact List.not_mem_nil
  · intro hmem
    obtain ⟨info, hinfo, -⟩ := h.of_records hid
    obtain rfl : id / chunkSize = c := by simpa using hmem
    rw [h.get?_of_outstanding hstate] at hinfo
    cases hinfo

theorem Tracked.getMissingChunk (h : s.Tracked file (WrittenSince t)) (ht : Arrived file t)
    (fits : Nat → Nat → Bool) (now : Int) (rand : Nat) (peerId : PeerId) (sizeHint : Nat) :
  (s.getMissingChunk fits now rand peerId sizeHint).creator.Tracked file
      (WrittenSince (t ++ (s.getMissingChunk fits now rand peerId sizeHint).events)) ∧
    Arrived file (t ++ (s.getMissingChunk fits now rand peerId sizeHint).events)
  := by
  obtain ⟨sources, k, e, he, hevents, heq⟩ | ⟨m, events, hm, hcases⟩ :=
    getMissingChunk_cases h.sound fits now rand peerId sizeHint rfl
  · rw [heq, hevents, List.append_nil]
    exact ⟨h.restamp he now sources, ht⟩
  · -- a chunk may be allocated, of which nothing has been written
    have hprepared : Tracked file (WrittenSince (t ++ events.map .chunk))
        ({ s.touch peerId with chunkMap := m } : FileCreator PeerId) := by
      have htouch := h.withFd s.fd (s.touch peerId).mChunksPerPeer
      apply htouch.withChunkMap (hm.sound h.sound)
      case hfilled =>
        obtain ⟨sources, ⟨rfl, rfl⟩ | ⟨c, hc, hstate, hpeer, rfl, rfl⟩⟩ := hm
        · rw [List.map_nil, List.append_nil]
          exact h.filled
        · rw [h.sound.length] at hc
          have hfilled : ChunkMap.Filled file (WrittenSince t)
            { s.chunkMap with peersChunksAvailability := sources } := h.filled
          apply hfilled.allocate (h.sound.withSources sources) hc hstate hpeer
          intro c' b hne hw
          apply hw.append
          simpa using hne
      case hrecords => exact fun id size => hm.records h.sound
      case hwritten =>
        intro b id size hid hw
        apply hw.append
        simpa using Prepared.not_allocated h.sound hm hid
    have hnone : ∀ c, .chunk (.completed c) ∉ (events.map .chunk : List (FileEvent PeerId)) := by
      obtain ⟨sources, ⟨-, rfl⟩ | ⟨c, -, -, -, -, rfl⟩⟩ := hm <;> simp
    obtain ⟨heq, hevents⟩ | ⟨owner, feed, hfeed, -, heq, hevents⟩ := hcases
    · rw [heq, hevents]
      exact ⟨hprepared, ht.append fun c hc => absurd hc (hnone c)⟩
    · rw [heq, hevents, ← List.append_assoc]
      refine ⟨?_, ?_⟩
      · apply (hprepared.hand hfeed now sizeHint peerId).mono
        intro c b hw
        apply hw.append
        simp
      · apply Arrived.append
        · exact ht.append fun c hc => absurd hc (hnone c)
        · intro c hc
          simp at hc

theorem Tracked.step (h : s.Tracked file (WrittenSince t)) (ht : Arrived file t)
    (fits : Nat → Nat → Bool) {call : Call PeerId} (hcall : call.Undisturbed s) :
  ((machine fits).next s call).Tracked file (WrittenSince (t ++ (machine fits).emit s call)) ∧
    Arrived file (t ++ (machine fits).emit s call)
  := by
  cases call with
  | getMissingChunk now rand peerId sizeHint =>
    exact h.getMissingChunk ht fits now rand peerId sizeHint
  | addFileData now io offset chunkSize => exact h.addFileData ht now io offset chunkSize
  | removeInactiveChunks now =>
    refine ⟨?_, ht.append ?_⟩
    · apply (h.removeInactiveChunks now).mono
      intro c b hw
      apply hw.append
      simp [Machine.emit, machine, FileCreator.removeInactiveChunks]
    · intro c hc
      simp [Machine.emit, machine, FileCreator.removeInactiveChunks] at hc
  | setSourceMap now peerId cmap =>
    rw [Machine.emit, machine, List.append_nil]
    have hslices := s.chunkMap.setPeerAvailabilityMap_slices now peerId cmap
    refine ⟨h.withChunkMap (h.sound.setPeerAvailabilityMap now peerId cmap) ?_ ?_ ?_, ht⟩
    · apply h.filled.congr _ hslices
      rw [ChunkMap.setPeerAvailabilityMap]
      generalize (if s.chunkMap.map.length % 32 = 0 then 0 else 1) = r
      split <;> rfl
    · intro id size
      rw [ChunkMap.Records, hslices]
      rfl
    · exact fun _ _ _ _ hw => hw
  | removeFileSource peerId =>
    rw [Machine.emit, machine, List.append_nil]
    exact ⟨h.withChunkMap (h.sound.withSources _) h.filled (fun _ _ => Iff.rfl)
      fun _ _ _ _ hw => hw, ht⟩
  | forceCheck =>
    rw [Machine.emit, machine, List.append_nil]
    exact ⟨h.withChunkMap h.sound.forceCheck h.filled (fun _ _ => Iff.rfl)
      fun _ _ _ _ hw => hw, ht⟩
  | getChunksToCheck =>
    rw [Machine.emit, machine, List.append_nil]
    refine ⟨h.withChunkMap (h.sound.congr rfl rfl rfl rfl ?_) h.filled (fun _ _ => Iff.rfl)
      fun _ _ _ _ hw => hw, ht⟩
    exact fun c info hinfo => (h.sound.entry c info hinfo).2
  | verifyChunk c io =>
    rw [Machine.emit, machine, List.append_nil]
    refine ⟨?_, ht⟩
    change (s.verifyChunk c io).Tracked file (WrittenSince t)
    rw [verifyChunk]
    split
    case isTrue => exact h
    case isFalse hopen =>
      have hslices := s.chunkMap.setChunkCheckingResult_slices c
        (io.seeks && io.reads && io.sumAgrees)
      apply (h.withFd true s.mChunksPerPeer).withChunkMap
      case hsound =>
        apply h.sound.setChunkCheckingResult
        intro hfail
        apply hcall
        · simpa [or_iff_not_imp_left] using hopen
        · simpa [and_assoc] using hfail
      case hfilled =>
        apply h.filled.congr _ hslices
        rw [ChunkMap.setChunkCheckingResult]
        split
        · rfl
        · split <;> rfl
      case hrecords =>
        intro id size
        rw [ChunkMap.Records, hslices]
        rfl
      case hwritten => exact fun _ _ _ _ hw => hw

theorem Tracked.new (file : File) (availability : Bool) (lastRecvTime : Int)
    (W : Nat → Nat → Prop) :
  (FileCreator.new file.size availability lastRecvTime : FileCreator PeerId).Tracked file W
  where
  sound := ChunkMap.Sound.new file availability
  filled c info h := by cases h
  keyed k e h := by cases h
  fresh k e h := by cases h
  ref k e k' e' h := by cases h
  counted k e h := by cases h
  sized k e h := by cases h
  covered k e h := by cases h
  unique k e k' e' h := by cases h

/-- In a run in which no check of a chunk fails while the chunk is being downloaded, a chunk is
completed when all its bytes have been written since it was allocated. -/
theorem arrived_run (fits : Nat → Nat → Bool) (file : File) (availability : Bool)
    (lastRecvTime : Int) {calls : List (Call PeerId)}
    (h : (machine fits).Along (fun s call => call.Undisturbed s)
      (FileCreator.new file.size availability lastRecvTime) calls) :
  Arrived file
    ((machine fits).trace (FileCreator.new file.size availability lastRecvTime) calls)
  := by
  have hrun := Machine.run_trace_of_step
    (P := fun s t => s.Tracked file (WrittenSince t) ∧ Arrived file t)
    (fun s call t h hcall => h.1.step h.2 fits hcall)
    ⟨Tracked.new file availability lastRecvTime _, Arrived.nil⟩ h
  rw [List.nil_append] at hrun
  exact hrun.2

/-- The comparison of `getDataChunk`, in whole numbers. -/
def fitsSeventy (size sizeHint : Nat) : Bool := 7 * size ≤ 10 * sizeHint

/-- A file that is being downloaded is checked, and the rest of it arrives before the check. -/
def checkAndFinish : List (Call Nat) :=
  [.getMissingChunk 0 0 1 6, .forceCheck, .addFileData 0 writeSucceeds 0 6,
    .getMissingChunk 0 0 1 4, .addFileData 0 writeSucceeds 6 4,
    .verifyChunk 0 ⟨true, true, true, false⟩]

theorem arrived_run_checkAndFinish :
  Arrived tenByteFile
    ((machine fitsSeventy).trace (FileCreator.new tenByteFile.size true 0) checkAndFinish)
  := by
  refine arrived_run fitsSeventy tenByteFile true 0 ⟨trivial, trivial, trivial, trivial, trivial,
    ?_, trivial⟩
  intro _ _ _
  decide +kernel

/-- The file is checked after the peer `1` has been asked for six bytes, and the check fails.
The peer `2` is asked for the same chunk again, in other slices. -/
def checkFails : List (Call Nat) :=
  [.getMissingChunk 0 0 1 6, .forceCheck, .verifyChunk 0 ⟨true, true, true, false⟩,
    .getMissingChunk 0 0 2 4, .getMissingChunk 0 0 2 3, .getMissingChunk 0 0 1 4,
    .addFileData 0 writeSucceeds 4 3, .addFileData 0 writeSucceeds 6 4,
    .getMissingChunk 0 0 2 3, .addFileData 0 writeSucceeds 7 3]

/-- The chunk is completed although its first four bytes have never been written. -/
theorem not_arrived_checkFails :
  ¬ Arrived tenByteFile
    ((machine fitsSeventy).trace (FileCreator.new tenByteFile.size true 0) checkFails)
  := by
  intro h
  have htrace : (machine fitsSeventy).trace (FileCreator.new tenByteFile.size true 0) checkFails =
      [.chunk (.allocated 0), .handed 1 0, .chunk (.allocated 0), .handed 2 0, .handed 2 4,
        .handed 1 6, .chunk (.wrote 4 3), .finished 4, .chunk (.wrote 6 4), .finished 6,
        .handed 2 7, .chunk (.wrote 7 3), .finished 7] ++ .chunk (.completed 0) :: [] := by
    decide +kernel
  obtain ⟨t₁, t₂, offset, size, heq, hle, -⟩ := h _ _ 0 htrace 0 (by decide) (by decide)
  have hmem : .chunk (.wrote offset size) ∈ t₁ ++ .chunk (.wrote offset size) :: t₂ := by simp
  rw [← heq] at hmem
  simp only [List.mem_cons, FileEvent.chunk.injEq, Event.wrote.injEq, List.not_mem_nil,
    reduceCtorEq, false_or, or_false] at hmem
  omega

end FileCreator

end Ft
