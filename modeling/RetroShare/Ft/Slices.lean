import RetroShare.Ft.Parts

/-!
# The table of the missing parts of slices

The parts of the slices that a file creator has asked for are disjoint, lie within the slices
that the chunk map has recorded, and are counted by the counters that they share.  This holds
as long as no slice is empty and no data is longer than the part that it starts at: what is
left of such a part has a negative size, which wraps around.
-/

namespace Ft

/-- The part `e` lies within the slice that is recorded under its id. -/
def FtChunk.Within {PeerId : Type} [LinearOrder PeerId] (m : ChunkMap PeerId)
    (e : FtChunk PeerId) : Prop :=
  ∃ size, m.Records e.id size ∧ 1 ≤ e.size ∧ e.size ≤ size ∧ e.id ≤ e.offset ∧
    e.offset + e.size ≤ e.id + size

namespace FileCreator

variable {PeerId : Type} [LinearOrder PeerId] {file : File} {s s' : FileCreator PeerId}
  {e : FtChunk PeerId} {offset size k : Nat} {m : ChunkMap PeerId}

/-- The entries of `mChunks` are keyed by their offsets, lie within their slices, are disjoint,
and are as many for each slice as its counter says. -/
structure Tiled (s : FileCreator PeerId) : Prop where
  keyed : ∀ k e, s.mChunks.get? k = some e → e.offset = k
  within : ∀ k e, s.mChunks.get? k = some e → e.Within s.chunkMap
  disjoint : ∀ k e k' e', s.mChunks.get? k = some e → s.mChunks.get? k' = some e' → k ≠ k' →
    e.offset + e.size ≤ e'.offset ∨ e'.offset + e'.size ≤ e.offset
  counted : ∀ k e, s.mChunks.get? k = some e → s.count e.refCnt = s.fragments e.id

/-- The invariant behind `Tiled`: the slices are recorded by a sound chunk map, and parts share
a counter when they belong to the same slice. -/
structure Slices (file : File) (s : FileCreator PeerId) : Prop where
  sound : s.chunkMap.Sound file
  keyed : s.Keyed
  within : ∀ k e, s.mChunks.get? k = some e → e.Within s.chunkMap
  disjoint : ∀ k e k' e', s.mChunks.get? k = some e → s.mChunks.get? k' = some e' → k < k' →
    k + e.size ≤ k'
  fresh : ∀ k e, s.mChunks.get? k = some e → e.refCnt < s.fresh
  ref : ∀ k e k' e', s.mChunks.get? k = some e → s.mChunks.get? k' = some e' →
    (e.refCnt = e'.refCnt ↔ e.id = e'.id)
  counted : ∀ k e, s.mChunks.get? k = some e → s.slack e.refCnt = 0

section

variable (h : s.Slices file)

include h

theorem Slices.shares_eq (he : s.mChunks.get? k = some e) :
  s.shares e.refCnt = s.fragments e.id
  := by
  apply OrdMap.countP_congr
  intro k' e' he'
  rw [decide_eq_decide]
  apply h.ref k' e' k e he' he

theorem Slices.tiled :
  s.Tiled
  where
  keyed := h.keyed
  within := h.within
  disjoint k e k' e' he he' hne := by
    have hk := h.keyed k e he
    have hk' := h.keyed k' e' he'
    rcases lt_or_gt_of_ne hne with hlt | hgt
    · have := h.disjoint k e k' e' he he' hlt
      omega
    · have := h.disjoint k' e' k e he' he hgt
      omega
  counted k e he := by
    have hcounted := h.counted k e he
    rw [slack, h.shares_eq he] at hcounted
    omega

/-- Parts lie within the file. -/
theorem Slices.le_size (he : s.mChunks.get? k = some e) :
  k + e.size ≤ file.size ∧ 1 ≤ e.size
  := by
  obtain ⟨size, hrec, hpos, -, -, hle⟩ := h.within k e he
  obtain ⟨-, hend, hc⟩ := h.sound.records_le hrec
  have := File.chunkEnd_le hc
  rw [h.keyed k e he] at hle
  omega

/-- Every part of `s'` is cut from the part of `s` at `parent`. -/
theorem Slices.of_parts (parent : Nat → Nat) (hsound : s'.chunkMap.Sound file)
    (hfresh : s'.fresh = s.fresh)
    (hparts : ∀ k v, s'.mChunks.get? k = some v → ∃ u, s.mChunks.get? (parent k) = some u ∧ v.offset
      = k ∧ 1 ≤ v.size ∧ parent k ≤ k ∧ k + v.size ≤ parent k + u.size ∧ v.id = u.id ∧ v.refCnt =
      u.refCnt)
    (hparent : ∀ k v k' v', s'.mChunks.get? k = some v → s'.mChunks.get? k' = some v' → k < k' →
      parent k = parent k' → k + v.size ≤ k')
    (hrecords : ∀ k v, s'.mChunks.get? k = some v → ∀ size, s.chunkMap.Records v.id size →
      s'.chunkMap.Records v.id size)
    (hcounted : ∀ k v, s'.mChunks.get? k = some v → s'.slack v.refCnt = 0) :
  s'.Slices file
  where
  sound := hsound
  keyed k v hv := by
    obtain ⟨u, -, hk, -⟩ := hparts k v hv
    exact hk
  within k v hv := by
    obtain ⟨u, hu, hk, hpos, hle, hend, hid, -⟩ := hparts k v hv
    obtain ⟨size, hrec, -, hsize, hstart, hin⟩ := h.within _ u hu
    have huk := h.keyed _ u hu
    rw [← hid] at hrec hstart hin
    refine ⟨size, hrecords k v hv size hrec, hpos, ?_, ?_, ?_⟩ <;> omega
  disjoint k v k' v' hv hv' hlt := by
    obtain ⟨u, hu, -, hpos, hle, hend, -⟩ := hparts k v hv
    obtain ⟨u', hu', -, hpos', hle', hend', -⟩ := hparts k' v' hv'
    rcases Nat.lt_trichotomy (parent k) (parent k') with hless | heq | hmore
    · have := h.disjoint _ u _ u' hu hu' hless
      omega
    · exact hparent k v k' v' hv hv' hlt heq
    · have := h.disjoint _ u' _ u hu' hu hmore
      omega
  fresh k v hv := by
    obtain ⟨u, hu, -, -, -, -, -, href⟩ := hparts k v hv
    rw [href, hfresh]
    exact h.fresh _ u hu
  ref k v k' v' hv hv' := by
    obtain ⟨u, hu, -, -, -, -, hid, href⟩ := hparts k v hv
    obtain ⟨u', hu', -, -, -, -, hid', href'⟩ := hparts k' v' hv'
    rw [hid, hid', href, href']
    exact h.ref _ u _ u' hu hu'
  counted := hcounted

/-- Some parts are removed. -/
theorem Slices.of_subset (hsound : s'.chunkMap.Sound file) (hfresh : s'.fresh = s.fresh)
    (hparts : ∀ k v, s'.mChunks.get? k = some v → s.mChunks.get? k = some v)
    (hrecords : ∀ k v, s'.mChunks.get? k = some v → ∀ size, s.chunkMap.Records v.id size →
      s'.chunkMap.Records v.id size)
    (hcounted : ∀ k v, s'.mChunks.get? k = some v → s'.slack v.refCnt = 0) :
  s'.Slices file
  := by
  refine h.of_parts id hsound hfresh ?_ ?_ hrecords hcounted
  · intro k v hv
    have hold := hparts k v hv
    exact ⟨v, hold, h.keyed k v hold, (h.le_size hold).2, le_rfl, le_rfl, rfl, rfl⟩
  · intro k v k' v' _ _ hlt heq
    exact absurd heq hlt.ne

/-! ### Data that arrives -/

theorem Slices.split (he : s.mChunks.get? e.offset = some e) (hnone : s.mChunks.get? offset = none)
    (hlt : e.offset < offset) (hend : offset < e.offset + e.size) :
  (s.split e offset).Slices file
  := by
  obtain ⟨hle, hpos⟩ := h.le_size he
  have hget := fun k v => (@get?_split_of_lt _ _ s e v offset k file hlt hend hle).mp
  apply h.of_parts fun k => if k = offset then e.offset else k
  case hsound => exact h.sound
  case hfresh => rfl
  case hparts =>
    intro k v hv
    rcases hget k v hv with ⟨rfl, rfl⟩ | ⟨hne, rfl, rfl⟩ | ⟨hne, -, hold⟩
    · rw [if_pos rfl]
      refine ⟨e, he, rfl, ?_, hlt.le, ?_, rfl, rfl⟩ <;> dsimp only <;> omega
    · rw [if_neg hne]
      refine ⟨e, he, rfl, ?_, le_rfl, ?_, rfl, rfl⟩ <;> dsimp only <;> omega
    · rw [if_neg hne]
      exact ⟨v, hold, h.keyed k v hold, (h.le_size hold).2, le_rfl, le_rfl, rfl, rfl⟩
  case hparent =>
    intro k v k' v' hv hv' hless heq
    split at heq
    case isTrue hk =>
      split at heq
      case isTrue hk' => omega
      case isFalse hk' => omega
    case isFalse hk =>
      split at heq
      case isTrue hk' =>
        rcases hget k v hv with ⟨hoff, -⟩ | ⟨-, -, rfl⟩ | ⟨-, hne, -⟩
        · exact absurd hoff hk
        · dsimp only
          omega
        · exact absurd heq hne
      case isFalse hk' => omega
  case hrecords => exact fun _ _ _ _ hrec => hrec
  case hcounted =>
    intro k v hv
    rw [slack_split he hnone]
    rcases hget k v hv with ⟨-, rfl⟩ | ⟨-, -, rfl⟩ | ⟨-, -, hold⟩
    · exact h.counted _ e he
    · exact h.counted _ e he
    · exact h.counted k v hold

theorem Slices.shrink (he : s.mChunks.get? e.offset = some e) (hpos : 0 < size)
    (hlt : size < e.size) (now : Int) :
  (s.shrink now e size).Slices file
  := by
  obtain ⟨hle, -⟩ := h.le_size he
  have hsize := file.le
  simp only [chunkSize] at hsize
  have hadd : add64 e.offset size = e.offset + size := add64_of_lt (by omega)
  have hsub : sub64 e.size size = e.size - size := sub64_of_le hlt.le (by omega)
  have hget : ∀ k v, (s.shrink now e size).mChunks.get? k = some v →
      k = e.offset + size ∧ v = { e with size := e.size - size, offset := e.offset + size } ∨
      k ≠ e.offset + size ∧ k ≠ e.offset ∧ s.mChunks.get? k = some v := by
    intro k v hv
    rw [get?_shrink, hadd, hsub] at hv
    exact hv
  apply h.of_parts fun k => if k = e.offset + size then e.offset else k
  case hsound => exact h.sound
  case hfresh => rfl
  case hparts =>
    intro k v hv
    rcases hget k v hv with ⟨rfl, rfl⟩ | ⟨hne, -, hold⟩
    · rw [if_pos rfl]
      refine ⟨e, he, rfl, ?_, ?_, ?_, rfl, rfl⟩
      · dsimp only
        omega
      · omega
      · dsimp only
        omega
    · rw [if_neg hne]
      exact ⟨v, hold, h.keyed k v hold, (h.le_size hold).2, le_rfl, le_rfl, rfl, rfl⟩
  case hparent =>
    intro k v k' v' hv hv' hless heq
    rcases hget k v hv with ⟨hk, -⟩ | ⟨hk, hne, -⟩ <;>
      rcases hget k' v' hv' with ⟨hk', -⟩ | ⟨hk', hne', -⟩
    · omega
    · rw [if_pos hk, if_neg hk'] at heq
      omega
    · rw [if_neg hk, if_pos hk'] at heq
      omega
    · rw [if_neg hk, if_neg hk'] at heq
      omega
  case hrecords => exact fun _ _ _ _ hrec => hrec
  case hcounted =>
    have hslack : ∀ p, (s.shrink now e size).slack p = s.slack p := by
      intro p
      have hcount : (s.shrink now e size).count p = s.count p := rfl
      rw [slack, slack, hcount, shares, shares, countP_shrink (shared_refCnt p) he]
      -- nothing starts within the part
      intro v' hv'
      rw [hadd] at hv' ⊢
      have := h.disjoint _ e _ v' he hv' (by omega)
      omega
    intro k v hv
    rw [hslack]
    rcases hget k v hv with ⟨-, rfl⟩ | ⟨-, -, hold⟩
    · exact h.counted _ e he
    · exact h.counted k v hold

theorem Slices.drop (he : s.mChunks.get? e.offset = some e) (now : Int) :
  (s.drop now e).Slices file
  := by
  have hparts : ∀ k v, (s.drop now e).mChunks.get? k = some v → s.mChunks.get? k = some v :=
    fun k v => OrdMap.get?_of_get?_erase
  apply h.of_subset
  case hsound => exact h.sound
  case hfresh => rfl
  case hparts => exact hparts
  case hrecords => exact fun _ _ _ _ hrec => hrec
  case hcounted =>
    have hslack : ∀ p, (s.drop now e).slack p = s.slack p := slack_erase he rfl rfl
    intro k v hv
    rw [hslack]
    exact h.counted k v (hparts k v hv)

theorem Slices.finish (he : s.mChunks.get? e.offset = some e) (hlast : s.count e.refCnt - 1 = 0)
    (now : Int) :
  (s.finish now e).Slices file
  := by
  have hparts : ∀ k v, (s.finish now e).mChunks.get? k = some v → s.mChunks.get? k = some v :=
    fun k v => OrdMap.get?_of_get?_erase
  apply h.of_subset
  case hsound => exact h.sound.dataReceived now e.id
  case hfresh => rfl
  case hparts => exact hparts
  case hrecords =>
    intro k v hv size hrec
    refine (h.sound.dataReceived_records now e.id).mpr ⟨?_, hrec⟩
    -- the slice has no other part
    intro hid
    have hother := refCnt_ne_of_last he (h.counted _ e he).ge hlast hv
    rw [Ne, h.ref k v _ e (hparts k v hv) he] at hother
    exact hother hid
  case hcounted =>
    have hslack : ∀ p, (s.finish now e).slack p = s.slack p := slack_erase he rfl rfl
    intro k v hv
    rw [hslack]
    exact h.counted k v (hparts k v hv)

/-! ### Slices that are handed, and given up -/

/-- Time stamps do not matter. -/
theorem Slices.restamp (he : s.mChunks.get? k = some e) (ts : Int)
    (sources : OrdMap PeerId SourceChunksInfo) :
  Slices file
    { s with
      chunkMap := { s.chunkMap with peersChunksAvailability := sources }
      mChunks := s.mChunks.insert k { e with ts := ts } }
  := by
  have hparts : ∀ k' v, (s.mChunks.insert k { e with ts := ts }).get? k' = some v →
      ∃ u, s.mChunks.get? k' = some u ∧ v.offset = u.offset ∧ v.size = u.size ∧ v.id = u.id ∧
        v.refCnt = u.refCnt := by
    intro k' v hv
    rcases OrdMap.get?_insert_iff.mp hv with ⟨heq, rfl⟩ | ⟨-, hv⟩
    · exact ⟨e, heq ▸ he, rfl, rfl, rfl, rfl⟩
    · exact ⟨v, hv, rfl, rfl, rfl, rfl⟩
  apply h.of_parts id
  case hsound => exact h.sound.withSources sources
  case hfresh => rfl
  case hparts =>
    intro k' v hv
    obtain ⟨u, hu, hoff, hsize, hid, href⟩ := hparts k' v hv
    rw [hoff, hsize]
    exact ⟨u, hu, h.keyed k' u hu, (h.le_size hu).2, le_rfl, le_rfl, hid, href⟩
  case hparent => exact fun k v k' v' _ _ hlt heq => absurd heq hlt.ne
  case hrecords => exact fun _ _ _ _ hrec => hrec
  case hcounted =>
    intro k' v hv
    obtain ⟨u, hu, -, -, -, href⟩ := hparts k' v hv
    have hshares : (s.mChunks.insert k { e with ts := ts }).countP (fun e => e.refCnt = u.refCnt) =
        s.shares u.refCnt := OrdMap.countP_insert_of_eq he rfl
    have hcounted := h.counted k' u hu
    rw [slack, ← hshares] at hcounted
    rw [href]
    exact hcounted

/-- A chunk may be allocated. -/
theorem Slices.prepared {peerId : PeerId} {events : List Event}
    (hm : s.chunkMap.Prepared peerId m events) :
  Slices file ({ s.touch peerId with chunkMap := m } : FileCreator PeerId)
  := by
  apply h.of_subset
  case hsound => exact hm.sound h.sound
  case hfresh => rfl
  case hparts => exact fun k v hv => hv
  case hrecords => exact fun k v hv size hrec => (hm.records h.sound).mpr hrec
  case hcounted => exact fun k v hv => h.counted k v hv

theorem Slices.hand {owner : PeerId} {feed : Chunk}
    (hfeed : s.chunkMap.activeChunksFeed.get? owner = some feed) (now : Int) {sizeHint : Nat}
    (hhint : sizeHint ≠ 0) (peerId : PeerId) :
  (s.hand now sizeHint peerId owner feed).Slices file
  := by
  obtain ⟨c, info, -, -, hof, -⟩ := h.sound.of_feed hfeed
  have hlt := hof.lt_end
  have hsizepos : 1 ≤ ChunkMap.sliceSize feed sizeHint := by
    simp only [ChunkMap.sliceSize]
    omega
  have hsizele : feed.offset + ChunkMap.sliceSize feed sizeHint ≤ feed.endOffset := by
    simp only [ChunkMap.sliceSize]
    omega
  have hrecords : ∀ {id size}, (s.chunkMap.takeSlice now sizeHint peerId owner feed).1.Records id
      size ↔ _ := h.sound.takeSlice_records hfeed now sizeHint peerId
  obtain ⟨v, hv, hoff, hsize, hid, href, -⟩ := exists_hand h.sound hfeed now sizeHint peerId
  -- the parts that are there lie in other slices
  have hother : ∀ k u, s.mChunks.get? k = some u → u.id ≠ feed.offset ∧ u.refCnt ≠ s.fresh ∧
      (k + u.size ≤ feed.offset ∨ feed.endOffset ≤ k) ∧ 1 ≤ u.size := by
    intro k u hu
    obtain ⟨size, hrec, hpos, hle, hfrom, hto⟩ := h.within k u hu
    have hk := h.keyed k u hu
    have hfresh := h.fresh k u hu
    have := h.sound.records_feed hrec hfeed
    refine ⟨?_, ?_, ?_, hpos⟩ <;> omega
  have hget : ∀ k u, (s.hand now sizeHint peerId owner feed).mChunks.get? k = some u ↔
      k = feed.offset ∧ u = v ∨ k ≠ feed.offset ∧ s.mChunks.get? k = some u := by
    intro k u
    rw [hv, OrdMap.get?_insert]
    by_cases hk : k = feed.offset <;> simp [hk, eq_comm]
  have hfree : s.mChunks.get? feed.offset = none := by
    cases hu : s.mChunks.get? feed.offset with
    | none => rfl
    | some u =>
      have := hother _ u hu
      omega
  constructor
  case sound => exact h.sound.takeSlice hfeed now sizeHint peerId
  case keyed =>
    intro k u hu
    rcases (hget k u).mp hu with ⟨rfl, rfl⟩ | ⟨-, hold⟩
    · exact hoff
    · exact h.keyed k u hold
  case within =>
    intro k u hu
    rcases (hget k u).mp hu with ⟨rfl, rfl⟩ | ⟨-, hold⟩
    · refine ⟨_, hrecords.mpr (.inl ⟨hid, rfl⟩), ?_, ?_, ?_, ?_⟩ <;> omega
    · obtain ⟨size, hrec, hrest⟩ := h.within k u hold
      exact ⟨size, hrecords.mpr (.inr ⟨(hother k u hold).1, hrec⟩), hrest⟩
  case disjoint =>
    intro k u k' u' hu hu' hless
    rcases (hget k u).mp hu with ⟨rfl, rfl⟩ | ⟨-, hold⟩ <;>
      rcases (hget k' u').mp hu' with ⟨rfl, rfl⟩ | ⟨-, hold'⟩
    · omega
    · have := hother k' u' hold'
      omega
    · have := hother k u hold
      omega
    · exact h.disjoint k u k' u' hold hold' hless
  case fresh =>
    intro k u hu
    change u.refCnt < s.fresh + 1
    rcases (hget k u).mp hu with ⟨-, rfl⟩ | ⟨-, hold⟩
    · omega
    · have := h.fresh k u hold
      omega
  case ref =>
    intro k u k' u' hu hu'
    rcases (hget k u).mp hu with ⟨-, rfl⟩ | ⟨-, hold⟩ <;>
      rcases (hget k' u').mp hu' with ⟨-, rfl⟩ | ⟨-, hold'⟩
    · exact iff_of_true rfl rfl
    · have := hother k' u' hold'
      omega
    · have := hother k u hold
      omega
    · exact h.ref k u k' u' hold hold'
  case counted =>
    intro k u hu
    have hshares : ∀ p, (s.hand now sizeHint peerId owner feed).shares p =
        s.shares p + if s.fresh = p then 1 else 0 := by
      intro p
      rw [shares, hv, OrdMap.countP_insert, OrdMap.erase_of_get?_eq_none hfree, href]
      simp only [shares, decide_eq_true_eq]
    rw [slack, hshares, count_hand]
    rcases (hget k u).mp hu with ⟨-, rfl⟩ | ⟨-, hold⟩
    · have hnone : s.shares s.fresh = 0 := by
        apply OrdMap.countP_eq_zero
        intro k' u' hu'
        exact decide_eq_false (hother k' u' hu').2.1
      rw [href, if_pos rfl, if_pos rfl, hnone]
      rfl
    · have hne := (hother k u hold).2.1
      rw [if_neg hne, if_neg (Ne.symm hne)]
      exact h.counted k u hold

theorem Slices.removeInactiveChunks (now : Int) :
  (s.removeInactiveChunks now).1.Slices file
  := by
  obtain ⟨hpurged, hparts⟩ := foldl_removeSlice (s.chunkMap.removeInactiveChunks now).2
    { s with chunkMap := (s.chunkMap.removeInactiveChunks now).1 }
  change (s.removeInactiveChunks now).1.mChunks = _ at hparts
  change Purged _ (s.removeInactiveChunks now).1 at hpurged
  have hget : ∀ k v, (s.removeInactiveChunks now).1.mChunks.get? k = some v →
      s.mChunks.get? k = some v ∧ v.id ∉ (s.chunkMap.removeInactiveChunks now).2 := by
    intro k v hv
    rw [hparts, OrdMap.get?_filter, Option.filter_eq_some_iff] at hv
    simpa using hv
  apply h.of_subset
  case hsound =>
    rw [hpurged.chunkMap]
    exact h.sound.removeInactiveChunks now
  case hfresh => exact hpurged.fresh
  case hparts => exact fun k v hv => (hget k v hv).1
  case hrecords =>
    intro k v hv size hrec
    rw [hpurged.chunkMap]
    exact (removeInactiveChunks_records h.sound now).mpr ⟨(hget k v hv).2, hrec⟩
  case hcounted =>
    intro k v hv
    exact (hpurged.slack v.refCnt).trans (h.counted k v (hget k v hv).1)

end

/-! ### Runs -/

/-- No slice is asked for that is empty, no data that starts at a part is longer than it, and
no chunk is checked while it is being downloaded. -/
def Call.Fits (s : FileCreator PeerId) : Call PeerId → Prop
  | .getMissingChunk _ _ _ sizeHint => sizeHint ≠ 0
  | .addFileData _ _ offset chunkSize => ∀ e, s.mChunks.get? offset.toNat = some e →
      s.written offset.toNat chunkSize.toNat ≤ e.size
  | .verifyChunk c _ => s.chunkMap.state c = .checking → s.chunkMap.slicesToDownload.get? c = none
  | _ => True

section

variable (h : s.Slices file)

include h

/-- Whether a file is open does not matter. -/
theorem Slices.withFd (fd : Bool) :
  Slices file { s with fd := fd }
  := ⟨h.sound, h.keyed, h.within, h.disjoint, h.fresh, h.ref, h.counted⟩

theorem Slices.withChunkMap (hm : m.Sound file)
    (hrecords : m.slicesToDownload = s.chunkMap.slicesToDownload) :
  Slices file { s with chunkMap := m }
  := by
  apply h.of_subset
  case hsound => exact hm
  case hfresh => rfl
  case hparts => exact fun k v hv => hv
  case hrecords =>
    intro k v hv size hrec
    simp only [ChunkMap.Records, hrecords]
    exact hrec
  case hcounted => exact fun k v hv => h.counted k v hv

/-- Data that starts at a part. -/
theorem Slices.notifyReceived_of_get? (he : s.mChunks.get? offset = some e) (hpos : 0 < size)
    (hle : size ≤ e.size) (now : Int) :
  (s.notifyReceived now offset size).1.Slices file
  := by
  obtain rfl := h.keyed offset e he
  rw [notifyReceived_of_get?_eq_some he rfl]
  split
  case isTrue hne => exact h.shrink he hpos (lt_of_le_of_ne hle hne.symm) now
  case isFalse =>
    split
    case isTrue hlast => exact h.finish he hlast now
    case isFalse => exact h.drop he now

theorem Slices.notifyReceived (hpos : 0 < size) (hbound : offset + size < 2 ^ 64)
    (hfits : ∀ e, s.mChunks.get? offset = some e → size ≤ e.size) (now : Int) :
  (s.notifyReceived now offset size).1.Slices file
  := by
  obtain heq | ⟨e, he, rfl⟩ | ⟨hnone, e, he, hlt, hle, heq⟩ :=
    Keyed.notifyReceived_cases h.keyed now offset size
  · rwa [heq]
  · exact h.notifyReceived_of_get? he hpos (hfits e he) now
  · rw [heq]
    obtain ⟨hsize, -⟩ := h.le_size he
    have hfile := file.le
    simp only [chunkSize] at hfile
    rw [add64_of_lt (by omega), add64_of_lt (by omega)] at hle
    have hsplit := h.split he hnone hlt (by omega)
    apply hsplit.notifyReceived_of_get? (get?_split_self s e offset) hpos
    rw [sub64_of_le (by rw [sub64_of_le hlt.le (by omega)]; omega) (by omega),
      sub64_of_le hlt.le (by omega)]
    dsimp only
    omega

theorem Slices.addFileData {offset : UInt64} {chunkSize : UInt32}
    (hfits : ∀ e, s.mChunks.get? offset.toNat = some e → s.written offset.toNat chunkSize.toNat ≤
      e.size) (now : Int) (io : WriteOutcome) :
  (s.addFileData now io offset chunkSize).1.Slices file
  := by
  obtain ⟨fd, ns, heq⟩ | ⟨size, fd, hpos, hbound, hwritten, heq⟩ :=
    addFileData_cases h.sound.fileSize now io offset chunkSize
  · rw [heq]
    exact h.withFd fd
  · rw [heq]
    apply Slices.withFd
    refine Slices.notifyReceived (h.withFd true) hpos hbound ?_ now
    intro e he
    have := (h.le_size he).1
    rw [hwritten (by omega)]
    exact hfits e he

theorem Slices.step (fits : Nat → Nat → Bool) {call : Call PeerId} (hcall : call.Fits s) :
  ((machine fits).next s call).Slices file
  := by
  cases call with
  | getMissingChunk now rand peerId sizeHint =>
    change (s.getMissingChunk fits now rand peerId sizeHint).creator.Slices file
    obtain ⟨sources, k, e, he, -, heq⟩ |
        ⟨m, events, hm, ⟨heq, -⟩ | ⟨owner, feed, hfeed, -, heq, -⟩⟩ :=
      getMissingChunk_cases h.sound fits now rand peerId sizeHint rfl
    · rw [heq]
      exact h.restamp he now sources
    · rw [heq]
      exact h.prepared hm
    · rw [heq]
      exact (h.prepared hm).hand hfeed now hcall peerId
  | addFileData now io offset chunkSize => exact h.addFileData hcall now io
  | removeInactiveChunks now => exact h.removeInactiveChunks now
  | setSourceMap now peerId cmap =>
    exact h.withChunkMap (h.sound.setPeerAvailabilityMap now peerId cmap)
      (s.chunkMap.setPeerAvailabilityMap_slices now peerId cmap)
  | removeFileSource peerId => exact h.withChunkMap (h.sound.withSources _) rfl
  | forceCheck => exact h.withChunkMap h.sound.forceCheck rfl
  | getChunksToCheck =>
    refine h.withChunkMap (h.sound.congr rfl rfl rfl rfl ?_) rfl
    exact fun c info hinfo => (h.sound.entry c info hinfo).2
  | verifyChunk c io =>
    change (s.verifyChunk c io).Slices file
    rw [verifyChunk]
    split
    · exact h
    · exact (h.withFd true).withChunkMap (h.sound.setChunkCheckingResult c _ fun _ => hcall)
        (s.chunkMap.setChunkCheckingResult_slices c _)

end

theorem Slices.new (file : File) (availability : Bool) (lastRecvTime : Int) :
  (FileCreator.new file.size availability lastRecvTime : FileCreator PeerId).Slices file
  where
  sound := ChunkMap.Sound.new file availability
  keyed k e h := by cases h
  within k e h := by cases h
  disjoint k e k' e' h := by cases h
  fresh k e h := by cases h
  ref k e k' e' h := by cases h
  counted k e h := by cases h

/-- In a run without empty slices and without data that is longer than the part that it starts
at, the table of the missing parts is in order. -/
theorem tiled_run (fits : Nat → Nat → Bool) (file : File) (availability : Bool)
    (lastRecvTime : Int) {calls : List (Call PeerId)}
    (h : (machine fits).Along (fun s call => call.Fits s)
      (FileCreator.new file.size availability lastRecvTime) calls) :
  ((machine fits).run (FileCreator.new file.size availability lastRecvTime) calls).Tiled
  := by
  have hslices := Machine.run_of_step (P := fun s => s.Slices file)
    (fun s call h hcall => h.step fits hcall) (Slices.new file availability lastRecvTime) h
  exact hslices.tiled

/-- Two bytes arrive in the middle of a slice of four bytes, which is split. -/
def splitSlice : List (Call Nat) :=
  [.getMissingChunk 0 0 7 4, .addFileData 0 writeSucceeds 1 2]

theorem tiled_run_splitSlice :
  ((machine fun _ _ => true).run (FileCreator.new tenByteFile.size true 0) splitSlice).Tiled
  := by
  refine tiled_run (fun _ _ => true) tenByteFile true 0 ⟨Nat.succ_ne_zero 3, ?_, trivial⟩
  intro e he
  have hnone : ((machine fun _ _ => true).next (FileCreator.new tenByteFile.size true 0)
      (Call.getMissingChunk 0 0 7 4 : Call Nat)).mChunks.get? 1 = none := by
    decide +kernel
  exact absurd (hnone.symm.trans he) (Option.some_ne_none e).symm

/-- Six bytes arrive at the start of a slice of four bytes: the size of what is left of it wraps
around. -/
theorem not_tiled_longData :
  ¬ ((machine fun _ _ => true).run (FileCreator.new tenByteFile.size true 0)
    ([.getMissingChunk 0 0 7 4, .addFileData 0 writeSucceeds 0 6] : List (Call Nat))).Tiled
  := by
  intro h
  obtain ⟨size, ⟨c, info, hinfo, hsize⟩, -, hle, -⟩ :=
    h.within 6 ⟨6, 2 ^ 64 - 2, 0, 0, 0, 7⟩ (by decide +kernel)
  have hslices : ∀ e ∈ ((machine fun _ _ => true).run (FileCreator.new tenByteFile.size true 0)
      ([.getMissingChunk 0 0 7 4, .addFileData 0 writeSucceeds 0 6] :
        List (Call Nat))).chunkMap.slicesToDownload.toList,
      ∀ slice ∈ e.2.slices.toList, slice.2 ≤ 4 := by
    decide +kernel
  have := hslices _ (OrdMap.mem_toList.mpr hinfo) _ (OrdMap.mem_toList.mpr hsize)
  dsimp only at hle this
  omega

end FileCreator

end Ft
