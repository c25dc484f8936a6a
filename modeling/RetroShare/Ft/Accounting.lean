import Mathlib.Algebra.Order.BigOperators.Group.Finset
import RetroShare.Ft.Soundness
import RetroShare.Lib.Machine

/-!
# What a chunk map counts as downloaded

`_total_downloaded` is changed by every operation that receives, gives up or checks data, and
is computed afresh when a chunk is completed.  `accounted` is what it stands for: the chunks
that are complete, and the slices that have been received of the others.  A check of a chunk
that is being downloaded breaks this; without one, the number and the completion flag are
right in every run.
-/

namespace Ft

/-- A call of an operation of the chunk map. -/
inductive Call (PeerId : Type) where
  | getDataChunk (now : Int) (rand : Nat) (peerId : PeerId) (sizeHint : Nat)
  | dataReceived (now : Int) (cid : Nat)
  | removeInactiveChunks (now : Int)
  | getChunksToCheck
  | setChunkCheckingResult (c : Nat) (checkSucceeded : Bool)
  | forceCheck
  | setPeerAvailabilityMap (now : Int) (peerId : PeerId) (cmap : CompressedChunkMap)
  | removeFileSource (peerId : PeerId)

variable {PeerId : Type} [LinearOrder PeerId]

/-- A checking result is for a chunk of the file, and no chunk is checked while it is being
downloaded. -/
def Call.Undisturbed (m : ChunkMap PeerId) : Call PeerId → Prop
  | .setChunkCheckingResult c _ =>
      c < m.map.length ∧ (m.state c = .checking → m.slicesToDownload.get? c = none)
  | _ => True

namespace ChunkMap

/-- The chunk map as a machine that is called. -/
def machine (fits : Nat → Nat → Bool) : Machine (ChunkMap PeerId) (Call PeerId) Event where
  step m
    | .getDataChunk now rand peerId sizeHint =>
        let r := m.getDataChunk fits now rand peerId sizeHint false
        (r.chunkMap, r.events)
    | .dataReceived now cid => m.dataReceived now cid
    | .removeInactiveChunks now => ((m.removeInactiveChunks now).1, [])
    | .getChunksToCheck => (m.getChunksToCheck.1, [])
    | .setChunkCheckingResult c checkSucceeded => (m.setChunkCheckingResult c checkSucceeded, [])
    | .forceCheck => (m.forceCheck, [])
    | .setPeerAvailabilityMap now peerId cmap => (m.setPeerAvailabilityMap now peerId cmap, [])
    | .removeFileSource peerId => (m.removeFileSource peerId, [])

/-- The total size of the chunks that are done or being checked and have no slices, and what
does not remain of the chunks that have slices. -/
def accounted (m : ChunkMap PeerId) : Nat :=
  (∑ c ∈ Finset.range m.map.length,
    if m.slicesToDownload.get? c = none ∧ (m.state c = .done ∨ m.state c = .checking) then
      m.sizeOfChunk c
    else 0) +
  m.slicesToDownload.sum fun c info => m.sizeOfChunk c - info.remains

/-! ### The share of a chunk -/

/-- What is counted of a chunk that has no slices. -/
def settled (file : File) (m : ChunkMap PeerId) (c : Nat) : Nat :=
  if m.state c = .done ∨ m.state c = .checking then file.sizeOf c else 0

/-- What is counted of a chunk. -/
def share (file : File) (m : ChunkMap PeerId) (c : Nat) : Nat :=
  match m.slicesToDownload.get? c with
  | some info => file.sizeOf c - info.remains
  | none => m.settled file c

variable {c n : Nat} {file : File} {m m' : ChunkMap PeerId} {info : ChunkDownloadInfo}
  {f : Nat → Nat} {s : ChunkState}

/-- Two sums that differ in the term of `c`. -/
theorem sum_range_of_eq_of_ne {g : Nat → Nat} (hc : c < n) (h : ∀ c', c' ≠ c → f c' = g c') :
  ∑ k ∈ Finset.range n, f k + g c = ∑ k ∈ Finset.range n, g k + f c
  := by
  have hmem := Finset.mem_range.mpr hc
  rw [← Finset.add_sum_erase _ f hmem, ← Finset.add_sum_erase _ g hmem]
  have hrest : ∑ k ∈ (Finset.range n).erase c, f k = ∑ k ∈ (Finset.range n).erase c, g k := by
    apply Finset.sum_congr rfl
    intro k hk
    exact h k (Finset.ne_of_mem_erase hk)
  omega

theorem settled_le (c : Nat) :
  m.settled file c ≤ file.sizeOf c
  := by
  rw [settled]
  split <;> omega

theorem share_le (c : Nat) :
  m.share file c ≤ file.sizeOf c
  := by
  rw [share]
  split
  · omega
  · apply settled_le

/-- Counts that are bounded by the sizes of the chunks do not wrap around. -/
theorem sum_range_lt (h : ∀ c, f c ≤ file.sizeOf c) (hn : n ≤ file.chunks) :
  ∑ c ∈ Finset.range n, f c < 2 ^ 63
  := by
  have hsum : ∑ c ∈ Finset.range n, f c ≤ n * chunkSize := by
    have := Finset.sum_le_card_nsmul (Finset.range n) f chunkSize
      fun c _ => (h c).trans file.sizeOf_le
    simpa using this
  have hchunks := file.chunks_le
  simp only [chunkSize] at hsum
  omega

theorem share_of_get?_eq_some (h : m.slicesToDownload.get? c = some info) :
  m.share file c = file.sizeOf c - info.remains
  := by
  simp only [share, h]

theorem share_of_get?_eq_none (h : m.slicesToDownload.get? c = none) :
  m.share file c = m.settled file c
  := by
  simp only [share, h]

theorem Sound.sum_share (h : m.Sound file) :
  ∑ c ∈ Finset.range file.chunks, m.share file c =
    (∑ c ∈ Finset.range file.chunks,
      if m.slicesToDownload.get? c = none then m.settled file c else 0) +
    m.slicesToDownload.sum fun c info => file.sizeOf c - info.remains
  := by
  rw [OrdMap.sum_eq_sum_range _ fun c info hinfo => (h.entry c info hinfo).1,
    ← Finset.sum_add_distrib]
  apply Finset.sum_congr rfl
  intro c _
  cases hinfo : m.slicesToDownload.get? c with
  | none => simp [share_of_get?_eq_none hinfo]
  | some info => simp [share_of_get?_eq_some hinfo]

theorem Sound.accounted_eq (h : m.Sound file) :
  m.accounted = ∑ c ∈ Finset.range file.chunks, m.share file c
  := by
  rw [h.sum_share, accounted, h.length]
  congr 1
  · apply Finset.sum_congr rfl
    intro c hc
    rw [h.sizeOfChunk (Finset.mem_range.mp hc)]
    by_cases hnone : m.slicesToDownload.get? c = none <;> simp [hnone, settled]
  · apply OrdMap.sum_congr
    intro c info hinfo
    rw [h.sizeOfChunk (h.entry c info hinfo).1]

/-! ### Counting afresh -/

/-- The first loop of `updateTotalDownloaded`. -/
theorem Sound.foldl_settled (h : m.Sound file) (hn : n ≤ file.chunks) :
  (List.range n).foldl (fun total c =>
      if m.state c = .checking ∨ m.state c = .done then add64 total (m.sizeOfChunk c)
      else total) 0 =
    ∑ c ∈ Finset.range n, m.settled file c
  := by
  induction n with
  | zero => rfl
  | succ n ih =>
    have hlt : ∑ c ∈ Finset.range (n + 1), m.settled file c < 2 ^ 63 :=
      sum_range_lt m.settled_le hn
    rw [Finset.sum_range_succ] at hlt ⊢
    rw [List.range_succ, List.foldl_append, ih (by omega), List.foldl_cons, List.foldl_nil,
      h.sizeOfChunk hn]
    by_cases hstate : m.state n = .checking ∨ m.state n = .done
    · rw [settled, if_pos hstate.symm] at hlt ⊢
      rw [if_pos hstate, add64_of_lt (by omega)]
    · rw [if_neg hstate, settled, if_neg fun h => hstate h.symm, Nat.add_zero]

/-- The second loop of `updateTotalDownloaded`, which takes back the size of the chunks that
are being checked. -/
theorem foldl_add64_sub64 {α : Type} (p : α → Prop) [DecidablePred p] (f g : α → Nat) :
  ∀ (l : List α) (total : Nat), (l.map fun e => if p e then f e else 0).sum ≤ total →
    total + (l.map g).sum < 2 ^ 64 →
    l.foldl (fun total e => add64 (if p e then sub64 total (f e) else total) (g e)) total =
      total - (l.map fun e => if p e then f e else 0).sum + (l.map g).sum
  | [], total, _, _ => by simp
  | e :: l, total, hle, hlt => by
      rw [List.map_cons, List.sum_cons] at hle hlt ⊢
      rw [List.foldl_cons]
      have hsub : (if p e then sub64 total (f e) else total) =
          total - if p e then f e else 0 := by
        by_cases hp : p e
        · rw [if_pos hp] at hle
          rw [if_pos hp, if_pos hp, sub64_of_le (by omega) (by omega)]
        · rw [if_neg hp, if_neg hp, Nat.sub_zero]
      rw [hsub, add64_of_lt (by omega), foldl_add64_sub64 p f g l _ (by omega) (by omega)]
      rw [List.map_cons, List.sum_cons]
      omega

/-- A chunk that is being downloaded is active or being checked. -/
def Underway (m : ChunkMap PeerId) : Prop :=
  ∀ c info, m.slicesToDownload.get? c = some info → m.state c = .active ∨ m.state c = .checking

theorem Sound.total_updateTotalDownloaded (h : m.Sound file) (hunderway : m.Underway) :
  m.updateTotalDownloaded.totalDownloaded = ∑ c ∈ Finset.range file.chunks, m.share file c
  := by
  have hkeys := fun c info hinfo => (h.entry c info hinfo).1
  -- what the first loop counts of the chunks that have slices
  have hchecking : ∑ c ∈ Finset.range file.chunks, m.settled file c =
      (∑ c ∈ Finset.range file.chunks,
        if m.slicesToDownload.get? c = none then m.settled file c else 0) +
      m.slicesToDownload.sum fun c _ => if m.state c = .checking then file.sizeOf c else 0 := by
    rw [OrdMap.sum_eq_sum_range _ hkeys, ← Finset.sum_add_distrib]
    apply Finset.sum_congr rfl
    intro c _
    cases hinfo : m.slicesToDownload.get? c with
    | none => simp
    | some info =>
      rw [if_neg (Option.some_ne_none info), Nat.zero_add, Option.map_some, Option.getD_some]
      rcases hunderway c info hinfo with hstate | hstate
      · rw [settled, hstate, if_neg (by simp), if_neg (by simp)]
      · rw [settled, hstate, if_pos rfl, if_pos (.inr rfl)]
  have hshare := h.sum_share
  have hlt : ∑ c ∈ Finset.range file.chunks, m.share file c < 2 ^ 63 :=
    sum_range_lt m.share_le le_rfl
  have hlt' : ∑ c ∈ Finset.range file.chunks, m.settled file c < 2 ^ 63 :=
    sum_range_lt m.settled_le le_rfl
  have hsizes : m.slicesToDownload.sum
      (fun c _ => if m.state c = .checking then m.sizeOfChunk c else 0) =
      m.slicesToDownload.sum fun c _ => if m.state c = .checking then file.sizeOf c else 0 := by
    apply OrdMap.sum_congr
    intro c info hinfo
    rw [h.sizeOfChunk (hkeys c info hinfo)]
  have hreceived : m.slicesToDownload.sum
      (fun c info => sub32 (m.sizeOfChunk c) info.remains) =
      m.slicesToDownload.sum fun c info => file.sizeOf c - info.remains := by
    apply OrdMap.sum_congr
    intro c info hinfo
    obtain ⟨o, -, htaken⟩ := h.taken c info hinfo
    have hsize := file.sizeOf_le (c := c)
    simp only [chunkSize] at hsize
    rw [h.sizeOfChunk (hkeys c info hinfo), sub32_of_le htaken.remains_le (by omega)]
  have hfold := foldl_add64_sub64 (fun e => m.state e.1 = .checking)
    (fun e => m.sizeOfChunk e.1) (fun e => sub32 (m.sizeOfChunk e.1) e.2.remains)
    m.slicesToDownload.toList (∑ c ∈ Finset.range file.chunks, m.settled file c)
  simp only [OrdMap.sum] at hsizes hreceived hchecking hshare
  rw [hsizes, hreceived] at hfold
  simp only [ChunkMap.updateTotalDownloaded, h.length, h.foldl_settled le_rfl]
  refine (hfold ?_ ?_).trans ?_
  · rw [hchecking]
    apply Nat.le_add_left
  · have hreceived_le := (Nat.le_add_left _ _).trans_eq hshare.symm
    calc
      _ < 2 ^ 63 + 2 ^ 63 := Nat.add_lt_add hlt' (hreceived_le.trans_lt hlt)
      _ = 2 ^ 64 := rfl
  · rw [hshare, hchecking, Nat.add_sub_cancel]

/-! ### The invariant -/

/-- The total and the completion flag are those of the chunks. -/
structure Accounted (file : File) (m : ChunkMap PeerId) : Prop extends m.Sound file where
  underway : m.Underway
  total : m.totalDownloaded = ∑ c ∈ Finset.range file.chunks, m.share file c
  complete : m.fileIsComplete = true ↔ ∀ c < file.chunks, m.state c = .done

theorem all_done_iff {map : List ChunkState} :
  map.all (· = .done) = true ↔ ∀ c < map.length, map.getD c .outstanding = .done
  := by
  rw [List.all_eq_true, List.forall_mem_iff_getElem]
  apply forall₂_congr
  intro c hc
  rw [List.getD_eq_getElem?_getD, List.getElem?_eq_getElem hc, Option.getD_some, decide_eq_true_eq]

theorem Sound.accounted_updateTotalDownloaded (h : m.Sound file) (hunderway : m.Underway) :
  m.updateTotalDownloaded.Accounted file
  where
  toSound := h.updateTotalDownloaded
  underway := hunderway
  total := h.total_updateTotalDownloaded hunderway
  complete := by
    rw [← h.length]
    apply all_done_iff

theorem Accounted.total_of_share (h : m.Accounted file) (hc : c < file.chunks)
    (hother : ∀ c', c' ≠ c → m'.share file c' = m.share file c')
    (htotal : m'.totalDownloaded + m.share file c = m.totalDownloaded + m'.share file c) :
  m'.totalDownloaded = ∑ c ∈ Finset.range file.chunks, m'.share file c
  := by
  have hsum := sum_range_of_eq_of_ne hc hother
  have htotal' := h.total
  omega

theorem Accounted.share_le_total (h : m.Accounted file) (hc : c < file.chunks) :
  m.share file c ≤ m.totalDownloaded
  := by
  rw [h.total]
  exact Finset.single_le_sum (fun _ _ => Nat.zero_le _) (Finset.mem_range.mpr hc)

theorem Accounted.total_lt (h : m.Accounted file) :
  m.totalDownloaded < 2 ^ 63
  := by
  rw [h.total]
  apply sum_range_lt m.share_le le_rfl

theorem Accounted.complete_of_ne_done (h : m.Accounted file) (hc : c < file.chunks)
    (hne : m.state c ≠ .done) (hne' : m'.state c ≠ .done)
    (hflag : m'.fileIsComplete = m.fileIsComplete) :
  m'.fileIsComplete = true ↔ ∀ c < file.chunks, m'.state c = .done
  := by
  rw [hflag, h.complete]
  constructor
  · intro hall
    exact absurd (hall c hc) hne
  · intro hall
    exact absurd (hall c hc) hne'

theorem state_new (size : Nat) (availability : Bool) (c : Nat) :
  (new size availability : ChunkMap PeerId).state c = .outstanding
  := by
  simp only [new, state]
  generalize size / chunkSize + _ = n
  simp only [List.getD_eq_getElem?_getD, List.getElem?_replicate]
  split <;> rfl

theorem Accounted.new (file : File) (availability : Bool) :
  (new file.size availability : ChunkMap PeerId).Accounted file
  where
  toSound := Sound.new file availability
  underway c info h := by cases h
  total := by
    rw [Finset.sum_eq_zero]
    · rfl
    · intro c _
      rw [share_of_get?_eq_none rfl, settled, state_new]
      rfl
  complete := by
    constructor
    · intro h
      cases h
    · intro hall
      have hpos : 0 < file.chunks := file.lt_chunks_iff.mpr (by simpa using file.pos)
      have hdone := hall 0 hpos
      rw [state_new] at hdone
      cases hdone

theorem Accounted.withSources (h : m.Accounted file)
    (sources : OrdMap PeerId SourceChunksInfo) :
  Accounted file { m with peersChunksAvailability := sources }
  := ⟨h.toSound.withSources sources, h.underway, h.total, h.complete⟩

theorem state_of_set (hmap : m'.map = m.map.set c s) (hc : c < m.map.length) (c' : Nat) :
  m'.state c' = if c = c' then s else m.state c'
  := by
  rw [state, hmap, getD_set]
  simp only [hc, and_true]
  rfl

section

variable (h : m.Accounted file)

include h

theorem Accounted.allocate (hc : c < file.chunks) (hstate : m.state c = .outstanding)
    {peerId : PeerId} (hpeer : m.activeChunksFeed.get? peerId = none) :
  (m.allocate peerId c).Accounted file
  := by
  have hset : ∀ c', (m.allocate peerId c).state c' = if c = c' then .active else m.state c' :=
    state_of_set rfl (hc.trans_eq h.length.symm)
  have hnone := h.get?_of_outstanding hstate
  have hslices : ∀ c', (m.allocate peerId c).slicesToDownload.get? c' =
      if c' = c then some ⟨OrdMap.empty, file.sizeOf c, 0⟩ else m.slicesToDownload.get? c' := by
    intro c'
    rw [h.allocate_eq hc hstate, OrdMap.get?_insert]
  refine ⟨h.toSound.allocate hc hstate hpeer, ?_, ?_, ?_⟩
  · intro c' info hinfo
    rw [hset]
    split
    case isTrue => exact .inl rfl
    case isFalse hne =>
      rw [hslices, if_neg (Ne.symm hne)] at hinfo
      exact h.underway c' info hinfo
  · apply h.total_of_share hc
    · intro c' hne
      simp only [share, settled, hslices, hset, if_neg hne, if_neg hne.symm]
    · rw [share_of_get?_eq_none hnone, share_of_get?_eq_some ((hslices c).trans (if_pos rfl)),
        settled, hstate]
      simp only [Nat.sub_self]
      rfl
  · apply h.complete_of_ne_done hc
    · rw [hstate]
      exact ChunkState.noConfusion
    · rw [hset, if_pos rfl]
      exact ChunkState.noConfusion
    · rfl

theorem Accounted.takeSlice {owner : PeerId} {feed : Chunk}
    (hfeed : m.activeChunksFeed.get? owner = some feed) (now : Int) (sizeHint : Nat)
    (peerId : PeerId) :
  (m.takeSlice now sizeHint peerId owner feed).1.Accounted file
  := by
  obtain ⟨c, info, hinfo, hc, hof, -⟩ := h.of_feed hfeed
  have hsound := h.toSound.takeSlice hfeed now sizeHint peerId
  rw [takeSlice_of_isFeed hc hof hinfo] at hsound ⊢
  refine ⟨hsound, ?_, ?_, h.complete⟩
  · intro c' info' hinfo'
    rw [OrdMap.get?_insert] at hinfo'
    split at hinfo'
    case isTrue heq => exact heq ▸ h.underway c info hinfo
    case isFalse => exact h.underway c' info' hinfo'
  · -- the slice still remains
    rw [h.total]
    apply Finset.sum_congr rfl
    intro c' _
    simp only [share, OrdMap.get?_insert]
    by_cases heq : c' = c
    · subst heq
      simp only [if_true, hinfo]
    · simp only [if_neg heq]
      rfl

theorem Accounted.getDataChunk (fits : Nat → Nat → Bool) (now : Int) (rand : Nat) (peerId : PeerId)
    (sizeHint : Nat) (needed : Bool) :
  (m.getDataChunk fits now rand peerId sizeHint needed).chunkMap.Accounted file
  := by
  obtain ⟨m', ⟨sources, hm'⟩, hr⟩ := h.getDataChunk_cases fits now rand peerId sizeHint needed rfl
  have haccounted : m'.Accounted file := by
    obtain ⟨rfl, -⟩ | ⟨c, hc, hstate, hpeer, rfl, -⟩ := hm'
    · exact h.withSources sources
    · exact (h.withSources sources).allocate (hc.trans_eq h.length) hstate hpeer
  obtain ⟨heq, -⟩ | ⟨owner, feed, hfeed, heq, -⟩ := hr
  · rwa [heq]
  · rw [heq]
    exact haccounted.takeSlice hfeed now sizeHint peerId

theorem Accounted.receiveSlice (hinfo : m.slicesToDownload.get? c = some info) {cid size : Nat}
    (hcid : info.slices.get? cid = some size) (now : Int) :
  (m.receiveSlice now c info cid size).Accounted file
  := by
  have hc := (h.entry c info hinfo).1
  obtain ⟨o, -, htaken⟩ := h.taken c info hinfo
  have hremains := htaken.remains
  have hle := htaken.remains_le
  have hsize := file.sizeOf_le (c := c)
  have hlt := h.total_lt
  rw [OrdMap.sum_of_get?_eq_some _ hcid] at hremains
  simp only [chunkSize] at hsize
  have hsub : sub32 info.remains size = info.remains - size :=
    sub32_of_le (by omega) (by omega)
  refine ⟨h.toSound.receiveSlice hinfo hcid now, ?_, ?_, h.complete⟩
  · intro c' info' hinfo'
    simp only [ChunkMap.receiveSlice, OrdMap.get?_insert] at hinfo'
    split at hinfo'
    case isTrue heq => exact heq ▸ h.underway c info hinfo
    case isFalse => exact h.underway c' info' hinfo'
  · apply h.total_of_share hc
    · intro c' hne
      simp only [share, ChunkMap.receiveSlice, OrdMap.get?_insert, if_neg hne]
      rfl
    · rw [share_of_get?_eq_some hinfo, share_of_get?_eq_some (OrdMap.get?_insert_self _ _), hsub]
      simp only [ChunkMap.receiveSlice]
      rw [add64_of_lt (by omega)]
      omega

theorem Accounted.completeChunk (hinfo : m.slicesToDownload.get? c = some info)
    (hzero : info.remains = 0) :
  (m.completeChunk c).Accounted file
  := by
  apply (h.toSound.retireChunk hinfo hzero).accounted_updateTotalDownloaded
  obtain ⟨s, queue, -, heq⟩ := m.retireChunk_eq c
  rw [heq]
  intro c' info' hinfo'
  rw [OrdMap.get?_erase] at hinfo'
  split at hinfo'
  case isTrue => cases hinfo'
  case isFalse hne =>
    rw [state_of_set rfl ((h.entry c info hinfo).1.trans_eq h.length.symm), if_neg (Ne.symm hne)]
    exact h.underway c' info' hinfo'

theorem Accounted.dataReceived (now : Int) (cid : Nat) :
  (m.dataReceived now cid).1.Accounted file
  := by
  rcases h.dataReceived_cases now cid with
    ⟨heq, -⟩ | ⟨c, info, size, hinfo, hcid, ⟨-, heq⟩ | ⟨hzero, heq⟩⟩
  · rwa [heq]
  · rw [heq]
    exact h.receiveSlice hinfo hcid now
  · rw [heq]
    exact (h.receiveSlice hinfo hcid now).completeChunk (OrdMap.get?_insert_self _ _) hzero

theorem Accounted.removeChunk (hinfo : m.slicesToDownload.get? c = some info) :
  (m.removeChunk c info).Accounted file
  := by
  have hc := (h.entry c info hinfo).1
  obtain ⟨o, -, htaken⟩ := h.taken c info hinfo
  have hle := htaken.remains_le
  have hsize := file.sizeOf_le (c := c)
  have hlt := h.total_lt
  have hset : ∀ c', (m.removeChunk c info).state c' = if c = c' then .outstanding else m.state c' :=
    state_of_set rfl (hc.trans_eq h.length.symm)
  have hshare := h.share_le_total hc
  simp only [chunkSize] at hsize
  have hsub : sub32 (m.sizeOfChunk c) info.remains = file.sizeOf c - info.remains := by
    rw [h.sizeOfChunk hc, sub32_of_le hle (by omega)]
  refine ⟨h.toSound.removeChunk c info, ?_, ?_, ?_⟩
  · intro c' info' hinfo'
    simp only [ChunkMap.removeChunk, OrdMap.get?_erase] at hinfo'
    split at hinfo'
    case isTrue => cases hinfo'
    case isFalse hne =>
      rw [hset, if_neg (Ne.symm hne)]
      exact h.underway c' info' hinfo'
  · apply h.total_of_share hc
    · intro c' hne
      have hslices : (m.removeChunk c info).slicesToDownload.get? c' =
          m.slicesToDownload.get? c' := by
        simp only [ChunkMap.removeChunk, OrdMap.get?_erase, if_neg hne]
      simp only [share, settled, hslices, hset, if_neg hne.symm]
    · rw [share_of_get?_eq_some hinfo] at hshare ⊢
      rw [share_of_get?_eq_none (OrdMap.get?_erase_self c), settled, hset, if_pos rfl]
      simp only [ChunkMap.removeChunk, hsub]
      rw [sub64_of_le hshare (by omega)]
      simp only [reduceCtorEq, or_self, if_false]
      omega
  · apply h.complete_of_ne_done hc
    · rcases h.underway c info hinfo with hstate | hstate <;> rw [hstate] <;>
        exact ChunkState.noConfusion
    · rw [hset, if_pos rfl]
      exact ChunkState.noConfusion
    · rfl

end

theorem lt_length_of_checking (h : m.Sound file) (hstate : m.state c = .checking) :
  c < file.chunks
  := by
  by_contra hge
  rw [← h.length] at hge
  rw [state, List.getD_eq_getElem?_getD, List.getElem?_eq_none (Nat.le_of_not_lt hge)] at hstate
  cases hstate

/-- The invariant after the state of a chunk that was being checked has been set. -/
theorem Accounted.of_checked (h : m.Accounted file) (hstate : m.state c = .checking)
    (hnone : m.slicesToDownload.get? c = none) (hsound : m'.Sound file)
    (hmap : m'.map = m.map.set c s) (hslices : m'.slicesToDownload = m.slicesToDownload)
    (htotal : m'.totalDownloaded + file.sizeOf c = m.totalDownloaded + if s = .done ∨ s = .checking
      then file.sizeOf c else 0)
    (hcomplete : m'.fileIsComplete = true ↔ ∀ c < file.chunks, m'.state c = .done) :
  m'.Accounted file
  := by
  have hc := lt_length_of_checking h.toSound hstate
  have hset := state_of_set hmap (hc.trans_eq h.length.symm)
  refine ⟨hsound, ?_, ?_, hcomplete⟩
  · intro c' info hinfo
    rw [hslices] at hinfo
    rw [hset, if_neg (by rintro rfl; rw [hnone] at hinfo; cases hinfo)]
    exact h.underway c' info hinfo
  · apply h.total_of_share hc
    · intro c' hne
      simp only [share, settled, hset, hslices, if_neg hne.symm]
    · have hnone' : m'.slicesToDownload.get? c = none := by rw [hslices, hnone]
      rw [share_of_get?_eq_none hnone, share_of_get?_eq_none hnone', settled, settled, hset,
        if_pos (.inr hstate), if_pos rfl, htotal]

theorem Accounted.setChunkCheckingResult (h : m.Accounted file) (c : Nat) (checkSucceeded : Bool)
    (hcheck : m.state c = .checking → m.slicesToDownload.get? c = none) :
  (m.setChunkCheckingResult c checkSucceeded).Accounted file
  := by
  have hsound := h.toSound.setChunkCheckingResult c checkSucceeded fun _ => hcheck
  simp only [ChunkMap.setChunkCheckingResult] at hsound ⊢
  by_cases hstate : m.state c = .checking
  case neg => rwa [if_pos hstate]
  have hnone := hcheck hstate
  have hc := lt_length_of_checking h.toSound hstate
  rw [if_neg (not_not.mpr hstate)] at hsound ⊢
  cases checkSucceeded with
  | true =>
    rw [if_pos rfl] at hsound ⊢
    refine h.of_checked hstate hnone hsound (s := .done) rfl rfl ?_ ?_
    · rw [if_pos (.inl rfl)]
    · rw [← h.length, ← List.length_set]
      apply all_done_iff
  | false =>
    rw [if_neg Bool.false_ne_true] at hsound ⊢
    have hle := h.share_le_total hc
    have hlt := h.total_lt
    rw [share_of_get?_eq_none hnone, settled, if_pos (.inr hstate)] at hle
    refine h.of_checked hstate hnone hsound (s := .outstanding) rfl rfl ?_ ?_
    · rw [if_neg (by simp), h.sizeOfChunk hc, sub64_of_le hle (by omega),
        Nat.sub_add_cancel hle, Nat.add_zero]
    · apply h.complete_of_ne_done hc
      · rw [hstate]
        exact ChunkState.noConfusion
      · rw [state_of_set rfl (hc.trans_eq h.length.symm), if_pos rfl]
        exact ChunkState.noConfusion
      · rfl

theorem Accounted.forceCheck (h : m.Accounted file) :
  m.forceCheck.Accounted file
  := by
  have hchecking : ∀ c < file.chunks,
      (m.map.map fun _ => ChunkState.checking).getD c .outstanding = .checking := by
    intro c hc
    rw [← h.length] at hc
    simp [hc]
  apply Sound.accounted_updateTotalDownloaded
  · refine h.toSound.congr rfl (List.length_map _) rfl rfl ?_
    intro c info hinfo
    rw [state, hchecking c (h.entry c info hinfo).1]
    exact ChunkState.noConfusion
  · intro c info hinfo
    exact .inr (hchecking c (h.entry c info hinfo).1)

theorem Accounted.setPeerAvailabilityMap (h : m.Accounted file) (now : Int) (peerId : PeerId)
    (cmap : CompressedChunkMap) :
  (m.setPeerAvailabilityMap now peerId cmap).Accounted file
  := by
  rw [ChunkMap.setPeerAvailabilityMap]
  generalize (if m.map.length % 32 = 0 then 0 else 1) = r
  split
  · exact h
  · exact h.withSources _

/-- A call that does not check a chunk that is being downloaded keeps the invariant. -/
theorem Accounted.step (fits : Nat → Nat → Bool) {call : Call PeerId} (h : m.Accounted file)
    (hcall : call.Undisturbed m) :
  ((machine fits).next m call).Accounted file
  := by
  cases call with
  | getDataChunk now rand peerId sizeHint =>
    exact h.getDataChunk fits now rand peerId sizeHint false
  | dataReceived now cid => exact h.dataReceived now cid
  | removeInactiveChunks now =>
    exact removeInactiveChunks_induction (P := fun m _ => m.Accounted file) h
      fun _ _ _ _ h hinfo _ => h.removeChunk hinfo
  | getChunksToCheck =>
    refine ⟨h.toSound.congr rfl rfl rfl rfl ?_, h.underway, h.total, h.complete⟩
    exact fun c info hinfo => (h.entry c info hinfo).2
  | setChunkCheckingResult c checkSucceeded =>
    exact h.setChunkCheckingResult c checkSucceeded hcall.2
  | forceCheck => exact h.forceCheck
  | setPeerAvailabilityMap now peerId cmap => exact h.setPeerAvailabilityMap now peerId cmap
  | removeFileSource peerId => exact h.withSources _

/-- In a run without checks of chunks that are being downloaded, the total is what is counted,
no chunk has more left than its size, and the file is complete exactly when every chunk is
done. -/
theorem totalDownloaded_run (file : File) (fits : Nat → Nat → Bool) (availability : Bool)
    (calls : List (Call PeerId))
    (h : (machine fits).Along (fun m call => call.Undisturbed m) (new file.size availability)
      calls) :
  ((machine fits).run (new file.size availability) calls).totalDownloaded =
      ((machine fits).run (new file.size availability) calls).accounted ∧
    (∀ c info, ((machine fits).run (new file.size availability) calls).slicesToDownload.get? c =
        some info →
      info.remains ≤ ((machine fits).run (new file.size availability) calls).sizeOfChunk c) ∧
    (((machine fits).run (new file.size availability) calls).fileIsComplete = true ↔
      ∀ s ∈ ((machine fits).run (new file.size availability) calls).map, s = .done)
  := by
  have hrun : ((machine fits).run (new file.size availability) calls).Accounted file :=
    Machine.run_of_step (C := fun m call => call.Undisturbed m) (P := Accounted file)
      (fun _ _ h hcall => h.step fits hcall) (Accounted.new file availability) h
  generalize (machine fits).run (new file.size availability) calls = m at hrun
  refine ⟨?_, ?_, ?_⟩
  · rw [hrun.total, hrun.accounted_eq]
  · intro c info hinfo
    obtain ⟨o, -, htaken⟩ := hrun.taken c info hinfo
    rw [hrun.sizeOfChunk (hrun.entry c info hinfo).1]
    exact htaken.remains_le
  · rw [hrun.complete, ← hrun.length]
    have hall : m.map.all (· = .done) = true ↔ _ := all_done_iff
    simp only [List.all_eq_true, decide_eq_true_eq] at hall
    exact hall.symm

/-- A file of ten bytes. -/
def tenBytes : File where
  size := 10
  pos := by decide
  le := by decide

/-- Four of ten bytes arrive, and the file is checked. -/
def checkWhileActive : List (Call Nat) :=
  [.getDataChunk 0 0 7 4, .dataReceived 0 0, .forceCheck]

theorem totalDownloaded_run_checkWhileActive :
  ((machine fun _ _ => true).run (new tenBytes.size true) checkWhileActive).totalDownloaded =
      ((machine fun _ _ => true).run (new tenBytes.size true) checkWhileActive).accounted ∧
    (∀ c info, ((machine fun _ _ => true).run (new tenBytes.size true)
        checkWhileActive).slicesToDownload.get? c = some info →
      info.remains ≤ ((machine fun _ _ => true).run (new tenBytes.size true)
        checkWhileActive).sizeOfChunk c) ∧
    (((machine fun _ _ => true).run (new tenBytes.size true)
        checkWhileActive).fileIsComplete = true ↔
      ∀ s ∈ ((machine fun _ _ => true).run (new tenBytes.size true) checkWhileActive).map,
        s = .done)
  := totalDownloaded_run tenBytes (fun _ _ => true) true checkWhileActive
    ⟨trivial, trivial, trivial, trivial⟩

/-- When the check fails while six bytes remain, all ten bytes are taken off the total, which
wraps around. -/
theorem totalDownloaded_failedCheck :
  ((machine fun _ _ => true).run (new tenBytes.size true)
      (checkWhileActive ++ [.setChunkCheckingResult 0 false])).totalDownloaded ≠
    ((machine fun _ _ => true).run (new tenBytes.size true)
      (checkWhileActive ++ [.setChunkCheckingResult 0 false])).accounted
  := by
  decide +kernel

end ChunkMap

end Ft
