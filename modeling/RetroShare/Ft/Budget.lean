import RetroShare.Ft.Slices

/-!
# The request budget of a peer

`mChunksPerPeer` counts the slices that a peer has been asked for, which limits what it is
asked for next.  `pending` tells from the history of a file creator which slices have been
handed to whom and are neither finished nor given up.  The two agree as long as a slice that is
given up consists of one part: the number is decreased once for each part.
-/

namespace Ft

namespace FileCreator

variable {PeerId : Type} [LinearOrder PeerId] {file : File} {s s' : FileCreator PeerId}
  {slices : OrdMap Nat PeerId} {e : FtChunk PeerId} {t : List (FileEvent PeerId)} {offset : Nat}
  {peerId : PeerId}

/-- What an event does to the slices that are pending. -/
def pendingStep (slices : OrdMap Nat PeerId) : FileEvent PeerId → OrdMap Nat PeerId
  | .handed peerId id => slices.insert id peerId
  | .finished id => slices.erase id
  | .purged id => slices.erase id
  | .chunk _ => slices

/-- The slices that have been handed and are neither finished nor given up, with the peers that
they were handed to. -/
def pending (events : List (FileEvent PeerId)) : OrdMap Nat PeerId :=
  events.foldl pendingStep OrdMap.empty

/-- The number of slices that are pending for a peer. -/
def pendingOf (events : List (FileEvent PeerId)) (q : PeerId) : Nat :=
  (pending events).countP fun p => p = q

omit [LinearOrder PeerId] in
theorem pending_append (t : List (FileEvent PeerId)) (e : FileEvent PeerId) :
  pending (t ++ [e]) = pendingStep (pending t) e
  := by
  simp [pending]

omit [LinearOrder PeerId] in
theorem pending_append_chunk (t : List (FileEvent PeerId)) (events : List Event) :
  pending (t ++ events.map .chunk) = pending t
  := by
  rw [pending, pending, List.foldl_append]
  generalize List.foldl pendingStep OrdMap.empty t = slices
  induction events with
  | nil => rfl
  | cons e events ih => exact ih

/-! ### Parts and pending slices -/

/-- The numbers of the peers and the parts agree with the slices that are pending. -/
structure Budget (slices : OrdMap Nat PeerId) (s : FileCreator PeerId) : Prop where
  keyed : s.Keyed
  pending : ∀ k e, s.mChunks.get? k = some e → slices.get? e.id = some e.peerId
  fresh : ∀ k e, s.mChunks.get? k = some e → e.refCnt < s.fresh
  ref : ∀ k e k' e', s.mChunks.get? k = some e → s.mChunks.get? k' = some e' →
    (e.refCnt = e'.refCnt ↔ e.id = e'.id)
  counted : ∀ k e, s.mChunks.get? k = some e → 0 ≤ s.slack e.refCnt
  cnt : ∀ q, s.cnt q = slices.countP fun p => p = q
  cnt_le : ∀ q, s.cnt q ≤ maxFtchunksPerPeer

/-- Every part of `s'` belongs to the same slice as some part of `s`. -/
theorem Budget.of_parts (h : s.Budget slices) (hkeyed : s'.Keyed) (hfresh : s'.fresh = s.fresh)
    (hparts : ∀ k v, s'.mChunks.get? k = some v → ∃ k' u, s.mChunks.get? k' = some u ∧ v.id = u.id ∧
      v.refCnt = u.refCnt ∧ v.peerId = u.peerId)
    (hcounted : ∀ k v, s'.mChunks.get? k = some v → 0 ≤ s'.slack v.refCnt)
    (hcnt : ∀ q, s'.cnt q = s.cnt q) :
  s'.Budget slices
  where
  keyed := hkeyed
  pending k v hv := by
    obtain ⟨k', u, hu, hid, -, hpeer⟩ := hparts k v hv
    rw [hid, hpeer]
    exact h.pending k' u hu
  fresh k v hv := by
    obtain ⟨k', u, hu, -, href, -⟩ := hparts k v hv
    rw [href, hfresh]
    exact h.fresh k' u hu
  ref k v l w hv hw := by
    obtain ⟨k', u, hu, hid, href, -⟩ := hparts k v hv
    obtain ⟨l', x, hx, hid', href', -⟩ := hparts l w hw
    rw [hid, hid', href, href']
    exact h.ref k' u l' x hu hx
  counted := hcounted
  cnt q := by rw [hcnt, h.cnt]
  cnt_le q := by rw [hcnt]; exact h.cnt_le q

theorem Budget.split (h : s.Budget slices) (he : s.mChunks.get? e.offset = some e)
    (hnone : s.mChunks.get? offset = none) :
  (s.split e offset).Budget slices
  := by
  apply h.of_parts
  case hkeyed =>
    intro k v hv
    rcases get?_split.mp hv with ⟨rfl, rfl⟩ | ⟨-, rfl, rfl⟩ | ⟨-, -, hold⟩
    · rfl
    · rfl
    · exact h.keyed k v hold
  case hfresh => rfl
  case hparts =>
    intro k v hv
    rcases get?_split.mp hv with ⟨-, rfl⟩ | ⟨-, -, rfl⟩ | ⟨-, -, hold⟩
    · exact ⟨_, e, he, rfl, rfl, rfl⟩
    · exact ⟨_, e, he, rfl, rfl, rfl⟩
    · exact ⟨k, v, hold, rfl, rfl, rfl⟩
  case hcounted =>
    intro k v hv
    rw [slack_split he hnone]
    rcases get?_split.mp hv with ⟨-, rfl⟩ | ⟨-, -, rfl⟩ | ⟨-, -, hold⟩
    · exact h.counted _ e he
    · exact h.counted _ e he
    · exact h.counted k v hold
  case hcnt => exact fun q => rfl

/-- What is left of a part may take the place of another part, whose slice then never
finishes. -/
theorem Budget.shrink (h : s.Budget slices) (size : Nat) (he : s.mChunks.get? e.offset = some e)
    (now : Int) :
  (s.shrink now e size).Budget slices
  := by
  apply h.of_parts
  case hkeyed =>
    intro k v hv
    rcases get?_shrink.mp hv with ⟨rfl, rfl⟩ | ⟨-, -, hold⟩
    · rfl
    · exact h.keyed k v hold
  case hfresh => rfl
  case hparts =>
    intro k v hv
    rcases get?_shrink.mp hv with ⟨-, rfl⟩ | ⟨-, -, hold⟩
    · exact ⟨_, e, he, rfl, rfl, rfl⟩
    · exact ⟨k, v, hold, rfl, rfl, rfl⟩
  case hcounted =>
    intro k v hv
    apply (slack_le_shrink he v.refCnt).trans'
    rcases get?_shrink.mp hv with ⟨-, rfl⟩ | ⟨-, -, hold⟩
    · exact h.counted _ e he
    · exact h.counted k v hold
  case hcnt => exact fun q => rfl

theorem Budget.drop (h : s.Budget slices) (he : s.mChunks.get? e.offset = some e) (now : Int) :
  (s.drop now e).Budget slices
  := by
  have hparts : ∀ k v, (s.drop now e).mChunks.get? k = some v → s.mChunks.get? k = some v :=
    fun k v => OrdMap.get?_of_get?_erase
  apply h.of_parts
  case hkeyed => exact fun k v hv => h.keyed k v (hparts k v hv)
  case hfresh => rfl
  case hparts => exact fun k v hv => ⟨k, v, hparts k v hv, rfl, rfl, rfl⟩
  case hcounted =>
    have hslack : ∀ p, (s.drop now e).slack p = s.slack p := slack_erase he rfl rfl
    intro k v hv
    rw [hslack]
    exact h.counted k v (hparts k v hv)
  case hcnt => exact fun q => rfl

theorem countP_erase_peer {id : Nat} (h : slices.get? id = some peerId) (q : PeerId) :
  (slices.erase id).countP (fun p => p = q) + (if q = peerId then 1 else 0) =
    slices.countP fun p => p = q
  := by
  rw [OrdMap.countP_of_get?_eq_some _ h]
  by_cases hq : q = peerId
  · simp [hq]
  · simp [hq, Ne.symm hq]

/-- With its last part the slice is not pending any more. -/
theorem Budget.finish (h : s.Budget slices) (he : s.mChunks.get? e.offset = some e)
    (hlast : s.count e.refCnt - 1 = 0) (now : Int) :
  (s.finish now e).Budget (slices.erase e.id)
  := by
  have hparts : ∀ k v, (s.finish now e).mChunks.get? k = some v → s.mChunks.get? k = some v :=
    fun k v => OrdMap.get?_of_get?_erase
  have hcnt : ∀ q, (s.finish now e).cnt q = (slices.erase e.id).countP fun p => p = q := by
    intro q
    have hcnt' : (s.finish now e).cnt q = (s.decrementCnt e.peerId).cnt q := rfl
    have hpeer := countP_erase_peer (h.pending _ e he) q
    have hq := h.cnt q
    have hle := h.cnt_le q
    simp only [maxFtchunksPerPeer] at hle
    rw [hcnt', cnt_decrementCnt]
    by_cases heq : q = e.peerId
    · rw [if_pos heq] at hpeer
      rw [if_pos heq, ← heq, sub32_of_le (by omega) (by omega)]
      omega
    · rw [if_neg heq] at hpeer
      rw [if_neg heq]
      omega
  constructor
  case keyed => exact fun k v hv => h.keyed k v (hparts k v hv)
  case pending =>
    intro k v hv
    have hold := hparts k v hv
    rw [OrdMap.get?_erase, if_neg]
    · exact h.pending k v hold
    · -- the slice has no other part
      have hother := refCnt_ne_of_last he (h.counted _ e he) hlast hv
      rwa [Ne, h.ref k v _ e hold he] at hother
  case fresh => exact fun k v hv => h.fresh k v (hparts k v hv)
  case ref => exact fun k v k' v' hv hv' => h.ref k v k' v' (hparts k v hv) (hparts k' v' hv')
  case counted =>
    have hslack : ∀ p, (s.finish now e).slack p = s.slack p := slack_erase he rfl rfl
    intro k v hv
    rw [hslack]
    exact h.counted k v (hparts k v hv)
  case cnt => exact hcnt
  case cnt_le =>
    intro q
    have hpeer := countP_erase_peer (h.pending _ e he) q
    have hq := h.cnt q
    have hle := h.cnt_le q
    rw [hcnt]
    omega

/-! ### Slices that are given up -/

theorem Budget.removeSlice (h : s.Budget slices) {id : Nat}
    (hone : s.fragments id = 1 ∨ slices.get? id = none) :
  (s.removeSlice id).Budget (slices.erase id) ∧
    ∀ id', id' ≠ id → (s.removeSlice id).fragments id' = s.fragments id'
  := by
  obtain ⟨hpurged, hparts⟩ := removeSlice_spec (s := s) id
  have hget : ∀ k v, (s.removeSlice id).mChunks.get? k = some v ↔
      s.mChunks.get? k = some v ∧ v.id ≠ id := by
    intro k v
    rw [hparts, OrdMap.get?_filter, Option.filter_eq_some_iff]
    simp
  -- the parts of the slice, by the peer that they were handed to
  have howned : ∀ q, s.owned q =
      (s.removeSlice id).owned q + if slices.get? id = some q then 1 else 0 := by
    intro q
    have hsplit := OrdMap.countP_filter_not_add (m := s.mChunks) (fun e => decide (e.id = id))
      fun e => decide (e.peerId = q)
    rw [← hparts] at hsplit
    rw [owned, ← hsplit, owned]
    congr 1
    cases hid : slices.get? id with
    | none =>
      rw [if_neg (by simp)]
      apply OrdMap.countP_eq_zero
      intro k e he
      have hpend := h.pending k e he
      rw [Bool.and_eq_false_iff, decide_eq_false_iff_not]
      left
      rintro rfl
      rw [hid] at hpend
      cases hpend
    | some p =>
      have hone : s.fragments id = 1 := by simpa [hid] using hone
      simp only [Option.some.injEq]
      by_cases hp : p = q
      · rw [if_pos hp, ← hone]
        apply OrdMap.countP_congr
        intro k e he
        by_cases heid : e.id = id
        · have hpend := h.pending k e he
          rw [heid, hid, hp] at hpend
          simp [heid, Option.some.inj hpend]
        · simp [heid]
      · rw [if_neg hp]
        apply OrdMap.countP_eq_zero
        intro k e he
        by_cases heid : e.id = id
        · have hpend := h.pending k e he
          rw [heid, hid] at hpend
          simp [← Option.some.inj hpend, hp]
        · simp [heid]
  have hcnt : ∀ q, (s.removeSlice id).cnt q = (slices.erase id).countP fun p => p = q := by
    intro q
    have hbudget := hpurged.budget q
    have hbound := hpurged.bound q
    have hq := h.cnt q
    have hle := h.cnt_le q
    have hown := howned q
    simp only [maxFtchunksPerPeer] at hle
    have herase : (slices.erase id).countP (fun p => p = q) +
        (if slices.get? id = some q then 1 else 0) = slices.countP fun p => p = q := by
      cases hid : slices.get? id with
      | none => simp [OrdMap.erase_of_get?_eq_none hid]
      | some p =>
        rw [← countP_erase_peer hid]
        simp only [Option.some.injEq, eq_comm]
    omega
  refine ⟨⟨?_, ?_, ?_, ?_, ?_, hcnt, ?_⟩, ?_⟩
  · exact fun k v hv => h.keyed k v ((hget k v).mp hv).1
  · intro k v hv
    obtain ⟨hold, hne⟩ := (hget k v).mp hv
    rw [OrdMap.get?_erase, if_neg hne]
    exact h.pending k v hold
  · intro k v hv
    rw [hpurged.fresh]
    exact h.fresh k v ((hget k v).mp hv).1
  · exact fun k v k' v' hv hv' => h.ref k v k' v' ((hget k v).mp hv).1 ((hget k' v').mp hv').1
  · intro k v hv
    rw [hpurged.slack]
    exact h.counted k v ((hget k v).mp hv).1
  · intro q
    have hle := h.cnt_le q
    have hq := h.cnt q
    have herase := (slices.countP_erase_le id) fun p => p = q
    rw [hcnt]
    omega
  · intro id' hne
    rw [fragments, hparts, OrdMap.countP_filter]
    apply OrdMap.countP_congr
    intro k e he
    by_cases heid : e.id = id'
    · simp [heid, hne]
    · simp [heid]

theorem Budget.foldl_removeSlice :
  ∀ {ids : List Nat} {s : FileCreator PeerId} {slices : OrdMap Nat PeerId}, s.Budget slices →
    (∀ id ∈ ids, s.fragments id = 1 ∨ slices.get? id = none) →
    (ids.foldl FileCreator.removeSlice s).Budget (ids.foldl OrdMap.erase slices)
  | [], _, _, h, _ => h
  | id :: ids, s, slices, h, hone => by
      obtain ⟨hid, hrest⟩ := h.removeSlice (hone id List.mem_cons_self)
      apply hid.foldl_removeSlice
      intro id' hid'
      by_cases heq : id' = id
      · right
        rw [heq, OrdMap.get?_erase_self]
      · rw [hrest id' heq, OrdMap.get?_erase, if_neg heq]
        exact hone id' (List.mem_cons_of_mem _ hid')

/-! ### Slices that are handed -/

/-- A chunk may be allocated. -/
theorem Budget.touch (h : s.Budget slices) (peerId : PeerId) (m : ChunkMap PeerId) :
  ({ s.touch peerId with chunkMap := m } : FileCreator PeerId).Budget slices
  := by
  apply h.of_parts
  case hkeyed => exact h.keyed
  case hfresh => rfl
  case hparts => exact fun k v hv => ⟨k, v, hv, rfl, rfl, rfl⟩
  case hcounted => exact fun k v hv => h.counted k v hv
  case hcnt => exact cnt_touch peerId

theorem Budget.hand (h : s.Budget slices) (hsound : s.chunkMap.Sound file) {owner : PeerId}
    {feed : Chunk} (hfeed : s.chunkMap.activeChunksFeed.get? owner = some feed)
    (hnew : slices.get? feed.offset = none) (hcnt : s.cnt peerId < maxFtchunksPerPeer) (now : Int)
    (sizeHint : Nat) :
  (s.hand now sizeHint peerId owner feed).Budget (slices.insert feed.offset peerId)
  := by
  obtain ⟨v, hv, hoff, -, hid, href, hpeer⟩ := exists_hand hsound hfeed now sizeHint peerId
  have hget : ∀ {k u}, (s.hand now sizeHint peerId owner feed).mChunks.get? k = some u →
      k = feed.offset ∧ u = v ∨ s.mChunks.get? k = some u := by
    intro k u hu
    rw [hv, OrdMap.get?_insert] at hu
    split at hu
    case isTrue hk => exact .inl ⟨hk, (Option.some.inj hu).symm⟩
    case isFalse => exact .inr hu
  have hother : ∀ {k u}, s.mChunks.get? k = some u → u.id ≠ feed.offset ∧ u.refCnt ≠ s.fresh := by
    intro k u hu
    refine ⟨?_, (h.fresh k u hu).ne⟩
    intro heq
    have hpend := h.pending k u hu
    rw [heq, hnew] at hpend
    cases hpend
  have hcnt' : ∀ q, (s.hand now sizeHint peerId owner feed).cnt q =
      s.cnt q + if peerId = q then 1 else 0 := by
    intro q
    change ((s.mChunksPerPeer.insert peerId (s.cnt peerId + 1)).get? q).getD 0 = _
    rw [OrdMap.get?_insert]
    by_cases hq : q = peerId
    · rw [if_pos hq, if_pos hq.symm, hq, Option.getD_some]
    · rw [if_neg hq, if_neg (Ne.symm hq), FileCreator.cnt, Nat.add_zero]
  constructor
  case keyed =>
    intro k u hu
    rcases hget hu with ⟨rfl, rfl⟩ | hold
    · exact hoff
    · exact h.keyed k u hold
  case pending =>
    intro k u hu
    rw [OrdMap.get?_insert]
    rcases hget hu with ⟨-, rfl⟩ | hold
    · rw [if_pos hid, hpeer]
    · rw [if_neg (hother hold).1]
      exact h.pending k u hold
  case fresh =>
    intro k u hu
    change u.refCnt < s.fresh + 1
    rcases hget hu with ⟨-, rfl⟩ | hold
    · omega
    · have := h.fresh k u hold
      omega
  case ref =>
    intro k u k' u' hu hu'
    rcases hget hu with ⟨-, rfl⟩ | hold <;> rcases hget hu' with ⟨-, rfl⟩ | hold'
    · exact iff_of_true rfl rfl
    · have := hother hold'
      omega
    · have := hother hold
      omega
    · exact h.ref k u k' u' hold hold'
  case counted =>
    intro k u hu
    have hle := s.mChunks.countP_erase_le feed.offset fun e => decide (e.refCnt = u.refCnt)
    rw [slack, shares, hv, OrdMap.countP_insert, href, count_hand]
    simp only [decide_eq_true_eq]
    rcases hget hu with ⟨-, rfl⟩ | hold
    · have hnone : s.mChunks.countP (fun e => decide (e.refCnt = u.refCnt)) = 0 := by
        apply OrdMap.countP_eq_zero
        intro k' u' hu'
        rw [href]
        exact decide_eq_false (hother hu').2
      rw [if_pos href, if_pos href.symm]
      omega
    · have hne := (hother hold).2
      have hcounted := h.counted k u hold
      rw [slack, shares] at hcounted
      rw [if_neg hne, if_neg (Ne.symm hne)]
      omega
  case cnt =>
    intro q
    rw [hcnt', OrdMap.countP_insert, OrdMap.erase_of_get?_eq_none hnew, h.cnt]
    simp only [decide_eq_true_eq]
  case cnt_le =>
    intro q
    have hle := h.cnt_le q
    rw [hcnt']
    by_cases hq : peerId = q
    · subst hq
      rw [if_pos rfl]
      exact hcnt
    · rw [if_neg hq]
      exact hle

/-! ### Runs -/

/-- The budget of the peers, after the events `t`: the slices that are pending are those that the
chunk map records. -/
structure Budgeted (file : File) (s : FileCreator PeerId) (t : List (FileEvent PeerId)) :
    Prop where
  sound : s.chunkMap.Sound file
  budget : s.Budget (FileCreator.pending t)
  recorded : ∀ id, ((FileCreator.pending t).get? id).isSome ↔
    ∃ size, s.chunkMap.Records id size
  positive : ∀ id size, s.chunkMap.Records id size → size ≠ 0

/-- No slice is asked for that is empty, no slice is given up in several parts, and no chunk is
checked while it is being downloaded. -/
def Call.Whole (s : FileCreator PeerId) : Call PeerId → Prop
  | .getMissingChunk _ _ _ sizeHint => sizeHint ≠ 0
  | .removeInactiveChunks now => ∀ c info, s.chunkMap.slicesToDownload.get? c = some info →
      ChunkMap.inactiveChunkTimeLapse < now - info.lastDataReceived →
      ∀ id size, info.slices.get? id = some size → s.fragments id = 1
  | .verifyChunk c _ => s.chunkMap.state c = .checking → s.chunkMap.slicesToDownload.get? c = none
  | _ => True

section

variable (h : s.Budgeted file t)

include h

/-- Only what the chunk map records matters. -/
theorem Budgeted.congr {t' : List (FileEvent PeerId)} (hsound : s'.chunkMap.Sound file)
    (hbudget : s'.Budget (FileCreator.pending t'))
    (ht : FileCreator.pending t' = FileCreator.pending t)
    (hrecords : ∀ id size, s'.chunkMap.Records id size ↔ s.chunkMap.Records id size) :
  s'.Budgeted file t'
  where
  sound := hsound
  budget := hbudget
  recorded id := by
    simp only [ht, hrecords]
    exact h.recorded id
  positive id size hid := h.positive id size ((hrecords id size).mp hid)

/-- Data that starts at a part. -/
theorem Budgeted.notifyReceived_of_get? (he : s.mChunks.get? offset = some e) (size : Nat)
    (now : Int) :
  (s.notifyReceived now offset size).1.Budgeted file (t ++ (s.notifyReceived now offset size).2)
  := by
  obtain rfl := h.budget.keyed offset e he
  rw [notifyReceived_of_get?_eq_some he rfl]
  split
  case isTrue hne =>
    rw [List.append_nil]
    exact h.congr h.sound (h.budget.shrink size he now) rfl fun _ _ => Iff.rfl
  case isFalse =>
    split
    case isTrue hlast =>
      have ht : FileCreator.pending (t ++ .finished e.id ::
          (s.chunkMap.dataReceived now e.id).2.map .chunk) =
          (FileCreator.pending t).erase e.id := by
        rw [List.append_cons, pending_append_chunk, pending_append]
        rfl
      have hrecords := fun {id size} =>
        @ChunkMap.Sound.dataReceived_records _ _ _ _ size id h.sound now e.id
      constructor
      case sound => exact h.sound.dataReceived now e.id
      case budget =>
        rw [ht]
        exact h.budget.finish he hlast now
      case recorded =>
        intro id
        rw [ht, OrdMap.get?_erase]
        change _ ↔ ∃ size, (s.chunkMap.dataReceived now e.id).1.Records id size
        simp only [hrecords]
        split
        case isTrue heq => simp [heq]
        case isFalse hne => simpa [hne] using h.recorded id
      case positive => exact fun id size hid => h.positive id size (hrecords.mp hid).2
    case isFalse =>
      rw [List.append_nil]
      exact h.congr h.sound (h.budget.drop he now) rfl fun _ _ => Iff.rfl

theorem Budgeted.notifyReceived (offset size : Nat) (now : Int) :
  (s.notifyReceived now offset size).1.Budgeted file (t ++ (s.notifyReceived now offset size).2)
  := by
  obtain heq | ⟨e, he, -⟩ | ⟨hnone, e, he, -, -, heq⟩ :=
    Keyed.notifyReceived_cases h.budget.keyed now offset size
  · rw [heq, List.append_nil]
    exact h
  · exact h.notifyReceived_of_get? he size now
  · rw [heq]
    have hsplit : (s.split e offset).Budgeted file t :=
      h.congr h.sound (h.budget.split he hnone) rfl fun _ _ => Iff.rfl
    exact hsplit.notifyReceived_of_get? (get?_split_self s e offset) size now

/-- Whether a file is open does not matter, nor what happens to the chunks. -/
theorem Budgeted.withFd (fd : Bool) :
  Budgeted file { s with fd := fd } t
  := by
  obtain ⟨hkeyed, hpending, hfresh, href, hcounted, hcnt, hle⟩ := h.budget
  exact ⟨h.sound, ⟨hkeyed, hpending, hfresh, href, hcounted, hcnt, hle⟩, h.recorded, h.positive⟩

theorem Budgeted.append_chunk (events : List Event) :
  s.Budgeted file (t ++ events.map .chunk)
  := by
  refine h.congr h.sound ?_ (pending_append_chunk t events) fun _ _ => Iff.rfl
  rw [pending_append_chunk]
  exact h.budget

theorem Budgeted.addFileData (now : Int) (io : WriteOutcome) (offset : UInt64)
    (chunkSize : UInt32) :
  (s.addFileData now io offset chunkSize).1.Budgeted file
    (t ++ (s.addFileData now io offset chunkSize).2)
  := by
  obtain ⟨fd, ns, heq⟩ | ⟨size, fd, -, -, -, heq⟩ :=
    addFileData_cases h.sound.fileSize now io offset chunkSize
  · rw [heq]
    exact (h.append_chunk _).withFd fd
  · rw [heq, List.append_cons]
    apply Budgeted.withFd
    exact ((h.append_chunk [.wrote offset.toNat size]).withFd true).notifyReceived _ _ now

theorem Budgeted.getMissingChunk (fits : Nat → Nat → Bool) (now : Int) (rand : Nat)
    (peerId : PeerId) {sizeHint : Nat} (hhint : sizeHint ≠ 0) :
  (s.getMissingChunk fits now rand peerId sizeHint).creator.Budgeted file
    (t ++ (s.getMissingChunk fits now rand peerId sizeHint).events)
  := by
  obtain ⟨sources, k, e, he, hevents, heq⟩ |
      ⟨m, events, hm, ⟨heq, hevents⟩ | ⟨owner, feed, hfeed, hcnt, heq, hevents⟩⟩ :=
    getMissingChunk_cases h.sound fits now rand peerId sizeHint rfl
  · rw [heq, hevents, List.append_nil]
    refine h.congr (h.sound.withSources sources) ?_ rfl fun _ _ => Iff.rfl
    have hparts : ∀ k' v, (s.mChunks.insert k { e with ts := now }).get? k' = some v →
        ∃ u, s.mChunks.get? k' = some u ∧ v.offset = u.offset ∧ v.id = u.id ∧
          v.refCnt = u.refCnt ∧ v.peerId = u.peerId := by
      intro k' v hv
      rcases OrdMap.get?_insert_iff.mp hv with ⟨heq, rfl⟩ | ⟨-, hv⟩
      · exact ⟨e, heq ▸ he, rfl, rfl, rfl, rfl⟩
      · exact ⟨v, hv, rfl, rfl, rfl, rfl⟩
    apply h.budget.of_parts
    case hkeyed =>
      intro k' v hv
      obtain ⟨u, hu, hoff, -⟩ := hparts k' v hv
      exact hoff.trans (h.budget.keyed k' u hu)
    case hfresh => rfl
    case hparts =>
      intro k' v hv
      obtain ⟨u, hu, -, hid, href, hpeer⟩ := hparts k' v hv
      exact ⟨k', u, hu, hid, href, hpeer⟩
    case hcounted =>
      intro k' v hv
      obtain ⟨u, hu, -, -, href, -⟩ := hparts k' v hv
      have hshares : (s.mChunks.insert k { e with ts := now }).countP
          (fun e => e.refCnt = u.refCnt) = s.shares u.refCnt := OrdMap.countP_insert_of_eq he rfl
      have hcounted := h.budget.counted k' u hu
      rw [slack, ← hshares] at hcounted
      rw [href]
      exact hcounted
    case hcnt => exact fun q => rfl
  · rw [heq, hevents]
    refine Budgeted.append_chunk ?_ events
    exact h.congr (hm.sound h.sound) (h.budget.touch peerId m) rfl fun _ _ => hm.records h.sound
  · have hsound := hm.sound h.sound
    have hrecords : ∀ id size, m.Records id size ↔ s.chunkMap.Records id size :=
      fun _ _ => hm.records h.sound
    -- the slice is not pending yet
    have hnew : (FileCreator.pending t).get? feed.offset = none := by
      rw [← Option.not_isSome_iff_eq_none, h.recorded]
      rintro ⟨size, hid⟩
      have hpos := h.positive _ size hid
      have := hsound.records_feed ((hrecords _ _).mpr hid) hfeed
      omega
    have ht : FileCreator.pending (t ++ (events.map .chunk ++ [.handed peerId feed.offset])) =
        (FileCreator.pending t).insert feed.offset peerId := by
      rw [← List.append_assoc, pending_append, pending_append_chunk]
      rfl
    have htake : ∀ {id size}, (m.takeSlice now sizeHint peerId owner feed).1.Records id size ↔ _ :=
      hsound.takeSlice_records hfeed now sizeHint peerId
    rw [heq, hevents]
    constructor
    case sound => exact hsound.takeSlice hfeed now sizeHint peerId
    case budget =>
      rw [ht]
      apply (h.budget.touch peerId m).hand hsound hfeed hnew
      exact (cnt_touch peerId peerId).trans_lt hcnt
    case recorded =>
      intro id
      rw [ht, OrdMap.get?_insert]
      change _ ↔ ∃ size, (m.takeSlice now sizeHint peerId owner feed).1.Records id size
      simp only [htake, hrecords]
      by_cases hid : id = feed.offset
      · simp [hid]
      · simpa [hid] using h.recorded id
    case positive =>
      intro id size hid
      rcases htake.mp hid with ⟨-, rfl⟩ | ⟨-, hold⟩
      · obtain ⟨c, info, -, -, hof, -⟩ := hsound.of_feed hfeed
        have hlt := hof.lt_end
        simp only [ChunkMap.sliceSize]
        omega
      · exact h.positive id size ((hrecords id size).mp hold)

theorem Budgeted.removeInactiveChunks {now : Int}
    (hwhole : ∀ c info, s.chunkMap.slicesToDownload.get? c = some info →
      ChunkMap.inactiveChunkTimeLapse < now - info.lastDataReceived → ∀ id size, info.slices.get? id
      = some size → s.fragments id = 1) :
  (s.removeInactiveChunks now).1.Budgeted file (t ++ (s.removeInactiveChunks now).2)
  := by
  obtain ⟨-, -, hgone⟩ := removeInactiveChunks_slices (m := s.chunkMap) now
  obtain ⟨hpurged, -⟩ := foldl_removeSlice (s.chunkMap.removeInactiveChunks now).2
    { s with chunkMap := (s.chunkMap.removeInactiveChunks now).1 }
  have hmap : (s.removeInactiveChunks now).1.chunkMap =
      (s.chunkMap.removeInactiveChunks now).1 := hpurged.chunkMap
  change (s.removeInactiveChunks now).1.Budgeted file
    (t ++ (s.chunkMap.removeInactiveChunks now).2.map .purged)
  generalize hids : (s.chunkMap.removeInactiveChunks now).2 = ids at hgone
  have ht : FileCreator.pending (t ++ ids.map .purged) =
      ids.foldl OrdMap.erase (FileCreator.pending t) := by
    rw [FileCreator.pending, FileCreator.pending, List.foldl_append, List.foldl_map]
    rfl
  have herase : ∀ (ids : List Nat) (slices : OrdMap Nat PeerId) (id : Nat),
      (ids.foldl OrdMap.erase slices).get? id = if id ∈ ids then none else slices.get? id := by
    intro ids
    induction ids with
    | nil => simp
    | cons id ids ih =>
      intro slices id'
      rw [List.foldl_cons, ih, OrdMap.get?_erase]
      by_cases heq : id' = id
      · simp [heq]
      · simp [heq]
  have hrecords : ∀ id size, (s.chunkMap.removeInactiveChunks now).1.Records id size ↔
      id ∉ ids ∧ s.chunkMap.Records id size := by
    intro id size
    rw [← hids]
    exact removeInactiveChunks_records h.sound now
  constructor
  case sound =>
    rw [hmap]
    exact h.sound.removeInactiveChunks now
  case budget =>
    rw [ht]
    obtain ⟨hkeyed, hpending, hfresh, href, hcounted, hcnt, hle⟩ := h.budget
    have hbudget : Budget (FileCreator.pending t)
        { s with chunkMap := (s.chunkMap.removeInactiveChunks now).1 } :=
      ⟨hkeyed, hpending, hfresh, href, hcounted, hcnt, hle⟩
    rw [← hids]
    apply hbudget.foldl_removeSlice
    intro id hid
    rw [hids] at hid
    obtain ⟨c, info, size, hinfo, -, hlapse, hsize⟩ := hgone id hid
    exact .inl (hwhole c info hinfo hlapse id size hsize)
  case recorded =>
    intro id
    rw [ht, herase, hmap]
    simp only [hrecords]
    split
    case isTrue hid => simp [hid]
    case isFalse hid => simpa [hid] using h.recorded id
  case positive =>
    intro id size hid
    rw [hmap] at hid
    exact h.positive id size ((hrecords id size).mp hid).2

theorem Budgeted.withChunkMap {m : ChunkMap PeerId} (hm : m.Sound file)
    (hrecords : m.slicesToDownload = s.chunkMap.slicesToDownload) :
  Budgeted file { s with chunkMap := m } t
  := by
  obtain ⟨hkeyed, hpending, hfresh, href, hcounted, hcnt, hle⟩ := h.budget
  refine h.congr hm ⟨hkeyed, hpending, hfresh, href, hcounted, hcnt, hle⟩ rfl ?_
  intro id size
  simp only [ChunkMap.Records, hrecords]

theorem Budgeted.step (fits : Nat → Nat → Bool) {call : Call PeerId} (hcall : call.Whole s) :
  ((machine fits).next s call).Budgeted file (t ++ (machine fits).emit s call)
  := by
  cases call with
  | getMissingChunk now rand peerId sizeHint => exact h.getMissingChunk fits now rand peerId hcall
  | addFileData now io offset chunkSize => exact h.addFileData now io offset chunkSize
  | removeInactiveChunks now => exact h.removeInactiveChunks hcall
  | setSourceMap now peerId cmap =>
    rw [Machine.emit, machine, List.append_nil]
    exact h.withChunkMap (h.sound.setPeerAvailabilityMap now peerId cmap)
      (s.chunkMap.setPeerAvailabilityMap_slices now peerId cmap)
  | removeFileSource peerId =>
    rw [Machine.emit, machine, List.append_nil]
    exact h.withChunkMap (h.sound.withSources _) rfl
  | forceCheck =>
    rw [Machine.emit, machine, List.append_nil]
    exact h.withChunkMap h.sound.forceCheck rfl
  | getChunksToCheck =>
    rw [Machine.emit, machine, List.append_nil]
    refine h.withChunkMap (h.sound.congr rfl rfl rfl rfl ?_) rfl
    exact fun c info hinfo => (h.sound.entry c info hinfo).2
  | verifyChunk c io =>
    rw [Machine.emit, machine, List.append_nil]
    change (s.verifyChunk c io).Budgeted file t
    rw [verifyChunk]
    split
    · exact h
    · exact (h.withFd true).withChunkMap
        (h.sound.setChunkCheckingResult c _ fun _ => hcall)
        (s.chunkMap.setChunkCheckingResult_slices c _)

end

theorem Budgeted.new (file : File) (availability : Bool) (lastRecvTime : Int) :
  (FileCreator.new file.size availability lastRecvTime : FileCreator PeerId).Budgeted file []
  where
  sound := ChunkMap.Sound.new file availability
  budget := {
    keyed := fun k e h => by cases h
    pending := fun k e h => by cases h
    fresh := fun k e h => by cases h
    ref := fun k e k' e' h => by cases h
    counted := fun k e h => by cases h
    cnt := fun q => rfl
    cnt_le := fun q => Nat.zero_le _ }
  recorded id := by
    constructor
    · intro h
      cases h
    · rintro ⟨size, c, info, h, -⟩
      cases h
  positive id size h := by
    obtain ⟨c, info, h, -⟩ := h
    cases h

/-- In a run without empty slices, in which every slice that is given up has one part, the number
of a peer is the number of the slices that are pending for it.  It never wraps around, and a
peer without pending slices is not refused for its number. -/
theorem cnt_run (fits : Nat → Nat → Bool) (file : File) (availability : Bool)
    (lastRecvTime : Int) {calls : List (Call PeerId)}
    (h : (machine fits).Along (fun s call => call.Whole s)
      (FileCreator.new file.size availability lastRecvTime) calls) (q : PeerId) :
  ((machine fits).run (FileCreator.new file.size availability lastRecvTime) calls).cnt q =
      pendingOf ((machine fits).trace (FileCreator.new file.size availability lastRecvTime) calls)
        q ∧
    ((machine fits).run (FileCreator.new file.size availability lastRecvTime) calls).cnt q ≤
      maxFtchunksPerPeer ∧
    (pendingOf ((machine fits).trace (FileCreator.new file.size availability lastRecvTime) calls)
        q = 0 →
      ((machine fits).run (FileCreator.new file.size availability lastRecvTime) calls).cnt q <
        maxFtchunksPerPeer)
  := by
  have hbudgeted := Machine.run_trace_of_step (P := fun s t => s.Budgeted file t)
    (fun s call t h hcall => h.step fits hcall) (Budgeted.new file availability lastRecvTime) h
  rw [List.nil_append] at hbudgeted
  have hcnt := hbudgeted.budget.cnt q
  refine ⟨hcnt, hbudgeted.budget.cnt_le q, ?_⟩
  intro hzero
  rw [hcnt]
  exact hzero.trans_lt (by decide)

/-- A slice of which one byte has arrived is given up. -/
def giveUpSlice : List (Call Nat) :=
  [.getMissingChunk 0 0 7 10, .addFileData 0 writeSucceeds 0 1, .removeInactiveChunks 4000]

theorem cnt_run_giveUpSlice :
  ((machine fun _ _ => true).run (FileCreator.new tenByteFile.size true 0) giveUpSlice).cnt 7 =
    pendingOf ((machine fun _ _ => true).trace (FileCreator.new tenByteFile.size true 0)
      giveUpSlice) 7
  := by
  have halong : (machine fun _ _ => true).Along (fun s call => call.Whole s)
      (FileCreator.new tenByteFile.size true 0) giveUpSlice := by
    refine ⟨Nat.succ_ne_zero 9, trivial, ?_, trivial⟩
    intro c info hinfo hlapse id size hsize
    have hall : ∀ e ∈ ((machine fun _ _ => true).run (FileCreator.new tenByteFile.size true 0)
        (giveUpSlice.take 2)).chunkMap.slicesToDownload.toList,
        ∀ slice ∈ e.2.slices.toList, ((machine fun _ _ => true).run
          (FileCreator.new tenByteFile.size true 0) (giveUpSlice.take 2)).fragments slice.1 = 1 := by
      decide +kernel
    exact hall _ (OrdMap.mem_toList.mpr hinfo) _ (OrdMap.mem_toList.mpr hsize)
  exact (cnt_run (fun _ _ => true) tenByteFile true 0 halong 7).1

/-- A slice that has been split is given up: the number of the peer is decreased twice. -/
theorem cnt_ne_splitSlice :
  ((machine fun _ _ => true).run (FileCreator.new tenByteFile.size true 0)
      ([.getMissingChunk 0 0 7 10, .addFileData 0 writeSucceeds 4 2,
        .removeInactiveChunks 4000] : List (Call Nat))).cnt 7 ≠
    pendingOf ((machine fun _ _ => true).trace (FileCreator.new tenByteFile.size true 0)
      ([.getMissingChunk 0 0 7 10, .addFileData 0 writeSucceeds 4 2,
        .removeInactiveChunks 4000] : List (Call Nat))) 7
  := by
  decide +kernel

end FileCreator

end Ft
