import RetroShare.Ft.Accounting
import RetroShare.Ft.Arrival
import RetroShare.Ft.DataMultiplex
import RetroShare.Ft.Slices

/-!
# What is served of a file that is being downloaded

`getFileData` also serves data of chunks that are not complete.  It cuts a request off at the first
part that is missing, and refuses one that a missing part ends in.  It does not look at missing
parts that begin before a request and reach to its end, at what has not been asked for yet of a
chunk, nor at chunks that nobody downloads, unless all of them are such: of all these it serves
bytes that have not been received.  What is left is `Clear`, and there only received bytes are
served (`servesReceived_run`).

The invariant is the one of `Arrived`, together with what has become of the chunks that are not
being downloaded any more (`Retired`).  `forceCheck` breaks it: all chunks are checked, and count
as chunks whose data is there.
-/

namespace Ft

variable {PeerId : Type} [LinearOrder PeerId] {file : File}

namespace ChunkMap

variable {m m' : ChunkMap PeerId} {W W' : Nat → Nat → Prop} {c : Nat} {st : ChunkState}

/-! ### Chunks whose data is there -/

/-- A chunk that is active has slices, and one that is being checked has none: its bytes satisfy
`W`. -/
structure Retired (file : File) (W : Nat → Nat → Prop) (m : ChunkMap PeerId) : Prop where
  active : ∀ c, m.state c = .active → m.slicesToDownload.get? c ≠ none
  checking : ∀ c, m.state c = .checking → m.slicesToDownload.get? c = none
  written : ∀ c, m.state c = .checking → ∀ b, c * chunkSize ≤ b → b < file.chunkEnd c → W c b

/-- What may happen to the chunk `c` in one step. -/
inductive Passes (file : File) (W W' : Nat → Nat → Prop) (m m' : ChunkMap PeerId) (c : Nat) :
    Prop where
  | kept (hstate : m'.state c = m.state c)
      (hslices : m'.slicesToDownload.get? c = none ↔ m.slicesToDownload.get? c = none)
      (hW : ∀ b, W c b → W' c b)
  | allocated (hstate : m'.state c = .active) (hslices : m'.slicesToDownload.get? c ≠ none)
  | settled (hstate : m'.state c = .outstanding ∨ m'.state c = .done)
  | completed (hstate : m'.state c = .checking) (hslices : m'.slicesToDownload.get? c = none)
      (hW : ∀ b, c * chunkSize ≤ b → b < file.chunkEnd c → W' c b)

theorem Retired.of_passes (h : m.Retired file W) (hpass : ∀ c, Passes file W W' m m' c) :
  m'.Retired file W'
  := by
  constructor
  case active =>
    intro c hc
    cases hpass c with
    | kept hstate hslices hW =>
      rw [ne_eq, hslices]
      exact h.active c (hstate.symm.trans hc)
    | allocated hstate hslices => exact hslices
    | settled hstate => rcases hstate with heq | heq <;> simp [heq] at hc
    | completed hstate hslices hW => simp [hstate] at hc
  case checking =>
    intro c hc
    cases hpass c with
    | kept hstate hslices hW => exact hslices.2 (h.checking c (hstate.symm.trans hc))
    | allocated hstate hslices => simp [hstate] at hc
    | settled hstate => rcases hstate with heq | heq <;> simp [heq] at hc
    | completed hstate hslices hW => exact hslices
  case written =>
    intro c hc b hstart hend
    cases hpass c with
    | kept hstate hslices hW => exact hW b (h.written c (hstate.symm.trans hc) b hstart hend)
    | allocated hstate hslices => simp [hstate] at hc
    | settled hstate => rcases hstate with heq | heq <;> simp [heq] at hc
    | completed hstate hslices hW => exact hW b hstart hend

theorem state_of_map_eq (hmap : m'.map = m.map) (c : Nat) :
  m'.state c = m.state c
  := by
  rw [state, state, hmap]

theorem state_of_map_set (hmap : m'.map = m.map.set c st) (c' : Nat) :
  m'.state c' = if c = c' ∧ c < m.map.length then st else m.state c'
  := by
  rw [state, state, hmap, getD_set]

/-- The chunk `c` passes to the state `st`, and the others are kept. -/
theorem Retired.of_map_set (h : m.Retired file W) (hc : c < m.map.length)
    (hmap : m'.map = m.map.set c st)
    (hslices : ∀ c', c' ≠ c → m'.slicesToDownload.get? c' = m.slicesToDownload.get? c')
    (hW : ∀ c', c' ≠ c → ∀ b, W c' b → W' c' b)
    (hpass : m'.state c = st → Passes file W W' m m' c) :
  m'.Retired file W'
  := by
  apply h.of_passes
  intro c'
  by_cases heq : c' = c
  · subst heq
    apply hpass
    rw [state_of_map_set hmap, if_pos ⟨rfl, hc⟩]
  · apply Passes.kept
    · rw [state_of_map_set hmap, if_neg fun h => heq h.1.symm]
    · rw [hslices c' heq]
    · exact hW c' heq

/-- The slices of a chunk that has some are changed. -/
theorem Retired.of_insert (h : m.Retired file W) (hmap : m'.map = m.map)
    {info info' : ChunkDownloadInfo} (hinfo : m.slicesToDownload.get? c = some info)
    (hslices : m'.slicesToDownload = m.slicesToDownload.insert c info') :
  m'.Retired file W
  := by
  apply h.of_passes
  intro c'
  apply Passes.kept
  · exact state_of_map_eq hmap c'
  · rw [hslices, OrdMap.get?_insert]
    split
    case isTrue heq =>
      subst heq
      simp [hinfo]
    case isFalse => exact Iff.rfl
  · exact fun _ hw => hw

theorem Retired.mono (h : m.Retired file W) (hW : ∀ c b, W c b → W' c b) :
  m.Retired file W'
  := h.of_passes fun c => .kept rfl Iff.rfl (hW c)

theorem Retired.congr (h : m.Retired file W) (hmap : m'.map = m.map)
    (hslices : m'.slicesToDownload = m.slicesToDownload) :
  m'.Retired file W
  := by
  apply h.of_passes
  intro c
  apply Passes.kept
  · exact state_of_map_eq hmap c
  · rw [hslices]
  · exact fun _ hw => hw

theorem Retired.new (file : File) (availability : Bool) (W : Nat → Nat → Prop) :
  (new file.size availability : ChunkMap PeerId).Retired file W
  where
  active c hc := by simp [state_new] at hc
  checking c hc := by simp [state_new] at hc
  written c hc := by simp [state_new] at hc

section

variable (h : m.Retired file W)

include h

theorem Retired.prepared (hsound : m.Sound file) {peerId : PeerId} {events : List Event}
    (hm : m.Prepared peerId m' events) (hW : ∀ c b, .allocated c ∉ events → W c b → W' c b) :
  m'.Retired file W'
  := by
  obtain ⟨sources, ⟨rfl, rfl⟩ | ⟨c, hc, hstate, -, rfl, rfl⟩⟩ := hm
  · apply (h.mono fun c b => hW c b List.not_mem_nil).congr
    · rfl
    · rfl
  · have hlength := hc
    rw [hsound.length] at hc
    rw [(hsound.withSources sources).allocate_eq hc hstate]
    apply h.of_map_set hlength rfl
    · intro c' hne
      rw [OrdMap.get?_insert, if_neg hne]
    · intro c' hne b
      apply hW
      simpa using hne
    · intro hactive
      apply Passes.allocated hactive
      rw [OrdMap.get?_insert_self]
      exact Option.some_ne_none _

theorem Retired.takeSlice (hsound : m.Sound file) {owner : PeerId} {feed : Chunk}
    (hfeed : m.activeChunksFeed.get? owner = some feed) (now : Int) (sizeHint : Nat)
    (peerId : PeerId) :
  (m.takeSlice now sizeHint peerId owner feed).1.Retired file W
  := by
  obtain ⟨c, info, hinfo, hc, hof, -⟩ := hsound.of_feed hfeed
  rw [takeSlice_of_isFeed hc hof hinfo]
  exact h.of_insert rfl hinfo rfl

theorem Retired.completeChunk (hc : c < m.map.length)
    (hW : ∀ b, c * chunkSize ≤ b → b < file.chunkEnd c → W c b) :
  (m.completeChunk c).Retired file W
  := by
  have herase : ∀ c', c' ≠ c →
      (m.slicesToDownload.erase c).get? c' = m.slicesToDownload.get? c' := by
    intro c' hne
    rw [OrdMap.get?_erase, if_neg hne]
  rw [ChunkMap.completeChunk, ChunkMap.updateTotalDownloaded, ChunkMap.retireChunk]
  split
  · apply h.of_map_set hc rfl herase fun _ _ _ hw => hw
    intro hchecking
    apply Passes.completed hchecking
    · apply OrdMap.get?_erase_self
    · exact hW
  · apply h.of_map_set hc rfl herase fun _ _ _ hw => hw
    exact fun hdone => Passes.settled (.inr hdone)

theorem Retired.dataReceived (hsound : m.Sound file) {now : Int} {cid : Nat}
    (hW : ∀ c, .completed c ∈ (m.dataReceived now cid).2 → ∀ b, c * chunkSize ≤ b → b <
      file.chunkEnd c → W c b) :
  (m.dataReceived now cid).1.Retired file W
  := by
  rcases hsound.dataReceived_cases now cid with
    ⟨heq, -⟩ | ⟨c, info, size, hinfo, -, ⟨-, heq⟩ | ⟨-, heq⟩⟩
  · rw [heq]
    exact h
  · rw [heq]
    exact h.of_insert rfl hinfo rfl
  · rw [heq] at hW ⊢
    have hreceived : (m.receiveSlice now c info cid size).Retired file W :=
      h.of_insert rfl hinfo rfl
    apply hreceived.completeChunk
    · exact (hsound.entry c info hinfo).1.trans_eq hsound.length.symm
    · exact hW c List.mem_cons_self

theorem Retired.removeInactiveChunks (hsound : m.Sound file) (now : Int) :
  (m.removeInactiveChunks now).1.Retired file W
  := by
  have hboth : (m.removeInactiveChunks now).1.Sound file ∧
      (m.removeInactiveChunks now).1.Retired file W := by
    apply removeInactiveChunks_induction (P := fun m _ => m.Sound file ∧ m.Retired file W)
      ⟨hsound, h⟩
    rintro m' ids c info ⟨hsound', h'⟩ hinfo -
    refine ⟨hsound'.removeChunk c info, ?_⟩
    apply h'.of_map_set ((hsound'.entry c info hinfo).1.trans_eq hsound'.length.symm) rfl
    · intro c' hne
      rw [removeChunk, OrdMap.get?_erase, if_neg hne]
    · exact fun _ _ _ hw => hw
    · exact fun hout => Passes.settled (.inl hout)
  exact hboth.2

theorem Retired.setChunkCheckingResult (c : Nat) (checkSucceeded : Bool) :
  (m.setChunkCheckingResult c checkSucceeded).Retired file W
  := by
  rw [ChunkMap.setChunkCheckingResult]
  split
  case isTrue => exact h
  case isFalse hstate =>
    have hc : c < m.map.length := by
      by_contra hle
      simp [state, hle] at hstate
    split
    · apply h.of_map_set hc rfl
      · exact fun _ _ => rfl
      · exact fun _ _ _ hw => hw
      · exact fun hdone => Passes.settled (.inr hdone)
    · apply h.of_map_set hc rfl
      · exact fun _ _ => rfl
      · exact fun _ _ _ hw => hw
      · exact fun hout => Passes.settled (.inl hout)

end

/-! ### The states of the chunks of a request -/

theorem hasChunkStateFrom_iff (state : ChunkState) (n i : Nat) :
  (m.hasChunkStateFrom state n i).1 = true ↔ ∀ c, i ≤ c → c < i + n → m.state c = state
  := by
  induction n generalizing i with
  | zero =>
    simp only [hasChunkStateFrom, true_iff]
    intro c hle hlt
    omega
  | succ n ih =>
    rw [hasChunkStateFrom]
    split
    case isTrue hne =>
      simp only [Bool.false_eq_true, false_iff, not_forall]
      exact ⟨i, le_rfl, by omega, hne⟩
    case isFalse heq =>
      rw [not_not] at heq
      rw [ih]
      constructor
      · intro h c hle hlt
        by_cases hc : c = i
        · rw [hc, heq]
        · exact h c (by omega) (by omega)
      · exact fun h c hle hlt => h c (by omega) (by omega)

theorem hasChunkState_iff {offset size : Nat} (hinside : offset + size ≤ file.size)
    (hpos : 0 < size) (state : ChunkState) :
  (m.hasChunkState offset size state).1 = true ↔
    ∀ b, offset ≤ b → b < offset + size → m.state (b / chunkSize) = state
  := by
  have hsize := file.le
  have hstart : chunkNumberStart offset = offset / chunkSize := by
    simp only [chunkNumberStart, chunkSize] at hsize ⊢
    omega
  have hend : chunkNumberEnd offset size = (offset + size - 1) / chunkSize + 1 := by
    rw [chunkNumberEnd, add64_of_lt (by simp only [chunkSize] at hsize; omega)]
    split
    case isTrue hrem =>
      simp only [chunkSize] at hsize hrem ⊢
      omega
    case isFalse hrem =>
      simp only [chunkSize] at hsize hrem ⊢
      omega
  rw [hasChunkState, hasChunkStateFrom_iff, hstart, hend]
  constructor
  · intro h b hle hlt
    apply h
    · exact Nat.div_le_div_right hle
    · have hlast : b / chunkSize ≤ (offset + size - 1) / chunkSize :=
        Nat.div_le_div_right (by omega)
      omega
  · intro h c hle hlt
    -- a byte of the chunk that the request contains
    have hb := h (max offset (c * chunkSize)) (le_max_left _ _) (by
      simp only [chunkSize] at hle hlt ⊢
      omega)
    have hc : max offset (c * chunkSize) / chunkSize = c := by
      simp only [chunkSize] at hle hlt ⊢
      omega
    rwa [hc] at hb

end ChunkMap

namespace FileCreator

variable {s : FileCreator PeerId} {W : Nat → Nat → Prop} {t : List (FileEvent PeerId)}
  {offset size : Nat} {io : ReadOutcome}

/-! ### Chunks that are complete stay so -/

/-- Of the chunk map, data that arrives changes at most what `dataReceived` does. -/
theorem notifyReceived_chunkMap (s : FileCreator PeerId) (now : Int) (offset size : Nat) :
  (s.notifyReceived now offset size).1.chunkMap = s.chunkMap ∨
    ∃ cid, (s.notifyReceived now offset size).1.chunkMap = (s.chunkMap.dataReceived now cid).1 ∧
      ∀ e ∈ (s.chunkMap.dataReceived now cid).2,
        .chunk e ∈ (s.notifyReceived now offset size).2
  := by
  have hpart : ∀ (s : FileCreator PeerId) (chunk : FtChunk PeerId),
      (s.receivePart now chunk size).1.chunkMap = s.chunkMap ∨
        ∃ cid, (s.receivePart now chunk size).1.chunkMap = (s.chunkMap.dataReceived now cid).1 ∧
          ∀ e ∈ (s.chunkMap.dataReceived now cid).2,
            .chunk e ∈ (s.receivePart now chunk size).2 := by
    intro s chunk
    rw [receivePart]
    dsimp only
    split
    · exact .inl rfl
    · split
      · refine .inr ⟨chunk.id, rfl, ?_⟩
        intro e he
        exact List.mem_cons_of_mem _ (List.mem_map_of_mem he)
      · exact .inl rfl
  rw [notifyReceived]
  split
  · apply hpart
  · split
    · exact .inl rfl
    · apply hpart

theorem retired_notifyReceived (h : s.chunkMap.Retired file W) (hsound : s.chunkMap.Sound file)
    {now : Int} (hevents : Emits file W (s.notifyReceived now offset size).2) :
  (s.notifyReceived now offset size).1.chunkMap.Retired file W
  := by
  obtain heq | ⟨cid, heq, hmem⟩ := s.notifyReceived_chunkMap now offset size
  · rw [heq]
    exact h
  · rw [heq]
    exact h.dataReceived hsound fun c hc => hevents.2 c (hmem _ hc)

/-- What is known of a file creator and its events: where the bytes are that have been asked for,
and that those of the chunks that are being checked have been written. -/
structure Surveyed (file : File) (s : FileCreator PeerId) (t : List (FileEvent PeerId)) :
    Prop where
  tracked : s.Tracked file (WrittenSince t)
  arrived : Arrived file t
  retired : s.chunkMap.Retired file (WrittenSince t)

/-- The chunks are not all to be checked again. -/
def Call.Unforced : Call PeerId → Prop
  | .forceCheck => False
  | _ => True

/-- A chunk is not checked while it is being downloaded. -/
theorem Surveyed.undisturbed (h : s.Surveyed file t) (call : Call PeerId) :
  call.Undisturbed s
  := by
  cases call
  case verifyChunk c io => exact fun _ _ hstate => h.retired.checking c hstate
  all_goals trivial

theorem Surveyed.step (h : s.Surveyed file t) (fits : Nat → Nat → Bool) {call : Call PeerId}
    (hcall : call.Unforced) :
  ((machine fits).next s call).Surveyed file (t ++ (machine fits).emit s call)
  := by
  obtain ⟨htracked, harrived⟩ := h.tracked.step h.arrived fits (h.undisturbed call)
  refine ⟨htracked, harrived, ?_⟩
  have hsound := h.tracked.sound
  have hretired := h.retired
  cases call with
  | getMissingChunk now rand peerId sizeHint =>
    change (s.getMissingChunk fits now rand peerId sizeHint).creator.chunkMap.Retired file
      (WrittenSince (t ++ (s.getMissingChunk fits now rand peerId sizeHint).events))
    obtain ⟨sources, k, e, he, hevents, heq⟩ | ⟨m, events, hm, hcases⟩ :=
      getMissingChunk_cases hsound fits now rand peerId sizeHint rfl
    · rw [heq, hevents, List.append_nil]
      exact hretired.congr rfl rfl
    · have hprepared : m.Retired file (WrittenSince (t ++ events.map .chunk)) := by
        apply hretired.prepared hsound hm
        intro c b hnone hw
        apply hw.append
        simpa using hnone
      obtain ⟨heq, hevents⟩ | ⟨owner, feed, hfeed, -, heq, hevents⟩ := hcases
      · rw [heq, hevents]
        exact hprepared
      · rw [heq, hevents, ← List.append_assoc]
        apply (hprepared.takeSlice (hm.sound hsound) hfeed now sizeHint peerId).mono
        intro c b hw
        apply hw.append
        simp
  | addFileData now io offset chunkSize =>
    change (s.addFileData now io offset chunkSize).1.chunkMap.Retired file
      (WrittenSince (t ++ (s.addFileData now io offset chunkSize).2))
    obtain ⟨fd, ns, heq⟩ | ⟨size, fd, hpos, hbound, hwritten, heq⟩ :=
      addFileData_cases hsound.fileSize now io offset chunkSize
    · rw [heq]
      exact hretired.mono fun c b hw => hw.append (by simp)
    · have hwrote : s.chunkMap.Retired file
          (WrittenSince (t ++ [.chunk (.wrote offset.toNat size)])) := by
        apply hretired.mono
        intro c b hw
        apply hw.append
        simp
      obtain ⟨-, hevents⟩ := h.tracked.notifyReceived_written hpos hbound hwritten now
      rw [heq, List.append_cons]
      have hafter := retired_notifyReceived (s := { s with fd := true }) hwrote hsound hevents
      exact hafter.mono fun c b hw => hw.append (hevents.1 c)
  | removeInactiveChunks now =>
    have heq : (s.removeInactiveChunks now).1.chunkMap =
        (s.chunkMap.removeInactiveChunks now).1 :=
      (foldl_removeSlice (s.chunkMap.removeInactiveChunks now).2 _).1.chunkMap
    change (s.removeInactiveChunks now).1.chunkMap.Retired file _
    rw [heq]
    apply (hretired.removeInactiveChunks hsound now).mono
    intro c b hw
    apply hw.append
    simp [Machine.emit, machine, FileCreator.removeInactiveChunks]
  | setSourceMap now peerId cmap =>
    rw [Machine.emit, machine, List.append_nil]
    apply hretired.congr _ (s.chunkMap.setPeerAvailabilityMap_slices now peerId cmap)
    rw [ChunkMap.setPeerAvailabilityMap]
    generalize (if s.chunkMap.map.length % 32 = 0 then 0 else 1) = r
    split <;> rfl
  | removeFileSource peerId =>
    rw [Machine.emit, machine, List.append_nil]
    exact hretired.congr rfl rfl
  | forceCheck => exact hcall.elim
  | getChunksToCheck =>
    rw [Machine.emit, machine, List.append_nil]
    exact hretired.congr rfl rfl
  | verifyChunk c io =>
    rw [Machine.emit, machine, List.append_nil]
    change (s.verifyChunk c io).chunkMap.Retired file (WrittenSince t)
    rw [verifyChunk]
    split
    · exact hretired
    · exact hretired.setChunkCheckingResult c _

theorem Surveyed.new (file : File) (availability : Bool) (lastRecvTime : Int) :
  (FileCreator.new file.size availability lastRecvTime : FileCreator PeerId).Surveyed file []
  where
  tracked := Tracked.new file availability lastRecvTime _
  arrived := Arrived.nil
  retired := ChunkMap.Retired.new file availability _

/-! ### What a request reads -/

/-- The byte at `b` lies in a part that is missing. -/
def Pending (s : FileCreator PeerId) (b : Nat) : Prop :=
  ∃ k e, s.mChunks.get? k = some e ∧ e.offset ≤ b ∧ b < add64 e.offset e.size

/-- The byte at `b` lies in what has not been asked for yet of its chunk. -/
def Unasked (s : FileCreator PeerId) (b : Nat) : Prop :=
  ∃ q feed, s.chunkMap.activeChunksFeed.get? q = some feed ∧
    feed.start = b / chunkSize * chunkSize ∧ feed.offset ≤ b

/-- The byte at `b` lies in a slice of which parts have been lost. -/
def Lost (file : File) (s : FileCreator PeerId) (b : Nat) : Prop :=
  ∃ id size, s.chunkMap.Records id size ∧ id ≤ b ∧ b < id + size ∧
    ∀ k e, s.mChunks.get? k = some e → e.id = id → ¬ s.Tight file e.refCnt

/-- The byte at `b` has been received: its chunk is done, or it has been written since the chunk
was last outstanding. -/
def Received (s : FileCreator PeerId) (t : List (FileEvent PeerId)) (b : Nat) : Prop :=
  s.chunkMap.state (b / chunkSize) = .done ∨
    s.chunkMap.state (b / chunkSize) ≠ .outstanding ∧ WrittenSince t (b / chunkSize) b

/-- A byte of a chunk that is not outstanding is received or missing, unless it has not been asked
for or has been lost. -/
theorem Surveyed.received (h : s.Surveyed file t) {b : Nat} (hb : b < file.size)
    (hstate : s.chunkMap.state (b / chunkSize) ≠ .outstanding) (hasked : ¬ s.Unasked b)
    (hkept : ¬ s.Lost file b) :
  s.Received t b ∨ s.Pending b
  := by
  have hsize := file.le
  have hstart : b / chunkSize * chunkSize ≤ b := Nat.div_mul_le_self b chunkSize
  have hend : b < file.chunkEnd (b / chunkSize) := by
    simp only [File.chunkEnd, File.sizeOf, chunkSize]
    omega
  cases hc : s.chunkMap.state (b / chunkSize) with
  | outstanding => contradiction
  | done => exact .inl (.inl hc)
  | checking => exact .inl (.inr ⟨hstate, h.retired.written _ hc b hstart hend⟩)
  | active =>
    obtain ⟨info, hinfo⟩ := Option.ne_none_iff_exists'.1 (h.retired.active _ hc)
    obtain hw | ⟨id, size, hid, hle, hlt⟩ | ⟨q, feed, hfeed, hfeedstart, hle⟩ :=
      h.tracked.filled _ info hinfo b hstart hend
    · exact .inl (.inr ⟨hstate, hw⟩)
    · have hrec : s.chunkMap.Records id size := ⟨_, info, hinfo, hid⟩
      simp only [Lost, not_exists, not_and, not_forall, not_not] at hkept
      obtain ⟨k, e, he, rfl, htight⟩ := hkept id size hrec hle hlt
      obtain ⟨size', hrec', -, -, hbytes⟩ := h.tracked.covered k e he htight
      obtain rfl := h.tracked.sound.records_unique hrec hrec'
      obtain hw | ⟨k', e', he', href, hle', hlt'⟩ := hbytes b hle hlt
      · refine .inl (.inr ⟨hstate, ?_⟩)
        have hchunk : e.id / chunkSize = b / chunkSize := by
          obtain ⟨o, -, htaken⟩ := h.tracked.sound.taken _ info hinfo
          obtain ⟨hidstart, hidend, -⟩ := htaken.slice e.id size hid
          exact File.div_chunkSize hidstart hidend
        rwa [hchunk] at hw
      · right
        have hin := htight.2 k' e' he' href
        refine ⟨k', e', he', hle', ?_⟩
        rw [add64_of_lt (by simp only [chunkSize] at hsize; omega)]
        exact hlt'
    · exact absurd ⟨q, feed, hfeed, hfeedstart, hle⟩ hasked

/-! ### Requests -/

/-- The body of the loop of `getFileData`. -/
def unverifiedStep (offset : Nat) (r : Nat × Bool) (e : Nat × FtChunk PeerId) : Nat × Bool :=
  let size :=
    if offset ≤ e.2.offset ∧ e.2.offset < add64 offset r.1 then
      sub64 e.2.offset offset % 2 ^ 32
    else
      r.1
  let stop := add64 e.2.offset e.2.size
  (size, r.2 && !decide (offset ≤ stop ∧ stop < add64 offset size))

theorem unverifiedSize_eq (s : FileCreator PeerId) (offset size : Nat) :
  s.unverifiedSize offset size = s.mChunks.toList.foldl (unverifiedStep offset) (size, true)
  := rfl

section Loop

omit [LinearOrder PeerId]

variable {offset size : Nat} {e : Nat × FtChunk PeerId}

theorem unverifiedStep_of_lt (he : e.2.offset < offset) (b : Bool) :
  unverifiedStep offset (size, b) e =
    (size, b && !decide (offset ≤ add64 e.2.offset e.2.size ∧
      add64 e.2.offset e.2.size < add64 offset size))
  := by
  rw [unverifiedStep, if_neg fun h => (h.1.trans_lt he).false]

theorem unverifiedStep_of_le (he : offset ≤ e.2.offset) (hsize : size < 2 ^ 32)
    (hend : offset + size < 2 ^ 64) (b : Bool) :
  (unverifiedStep offset (size, b) e).1 = min size (e.2.offset - offset)
  := by
  rw [unverifiedStep, add64_of_lt hend]
  dsimp only
  split
  case isTrue hin =>
    rw [sub64_of_le he (by omega)]
    omega
  case isFalse hout => omega

theorem unverifiedStep_snd {b : Bool} (h : (unverifiedStep offset (size, b) e).2 = true) :
  b = true
  := by
  rw [unverifiedStep] at h
  exact (Bool.and_eq_true_iff.1 h).1

/-- The loop cuts a request off at the first part in it, and refuses a request that a part from
before it ends in. -/
theorem foldl_unverifiedStep (hsize : size < 2 ^ 32) (hend : offset + size < 2 ^ 64)
    {l : List (Nat × FtChunk PeerId)} (hl : l.Pairwise fun e e' => e.2.offset < e'.2.offset)
    (b : Bool) :
  (l.foldl (unverifiedStep offset) (size, b)).1 ≤ size ∧
    (∀ e ∈ l, offset ≤ e.2.offset →
      offset + (l.foldl (unverifiedStep offset) (size, b)).1 ≤ e.2.offset) ∧
    ((l.foldl (unverifiedStep offset) (size, b)).2 = true → b = true ∧
      ∀ e ∈ l, e.2.offset < offset → offset ≤ add64 e.2.offset e.2.size →
        offset + size ≤ add64 e.2.offset e.2.size)
  := by
  induction l generalizing size b with
  | nil => simp
  | cons e l ih =>
    rw [List.pairwise_cons] at hl
    rw [List.foldl_cons, List.forall_mem_cons]
    rcases lt_or_ge e.2.offset offset with hlt | hle
    · rw [unverifiedStep_of_lt hlt]
      obtain ⟨hcut, hahead, hrefused⟩ := ih hsize hend hl.2 _
      refine ⟨hcut, ⟨fun h => absurd h hlt.not_ge, hahead⟩, ?_⟩
      intro htrue
      obtain ⟨hb, hbefore⟩ := hrefused htrue
      rw [Bool.and_eq_true, Bool.not_eq_true', decide_eq_false_iff_not, add64_of_lt hend] at hb
      refine ⟨hb.1, List.forall_mem_cons.2 ⟨?_, hbefore⟩⟩
      intro _ hstop
      by_contra hcover
      exact hb.2 ⟨hstop, not_le.1 hcover⟩
    · have hfst := unverifiedStep_of_le hle hsize hend b
      have hsnd : (unverifiedStep offset (size, b) e).2 = true → b = true := unverifiedStep_snd
      generalize unverifiedStep offset (size, b) e = r at hfst hsnd ⊢
      obtain ⟨n, b'⟩ := r
      dsimp only at hfst hsnd
      have hn : n < 2 ^ 32 := by omega
      have hnend : offset + n < 2 ^ 64 := by omega
      obtain ⟨hcut, hahead, hrefused⟩ := ih hn hnend hl.2 b'
      refine ⟨by omega, ⟨fun _ => by omega, hahead⟩, ?_⟩
      intro htrue
      refine ⟨hsnd (hrefused htrue).1, List.forall_mem_cons.2 ⟨fun h => absurd hle h.not_ge, ?_⟩⟩
      intro e' he' hlt
      have := hl.1 e' he'
      omega

end Loop

theorem provideFileData_eq_some (hfile : s.chunkMap.fileSize = file.size) {n : Nat}
    (hinside : offset + size ≤ file.size) (h : s.provideFileData io offset size = some n) :
  n = size ∧ 0 < n
  := by
  have hle := file.le
  simp only [chunkSize] at hle
  rw [provideFileData, hfile] at h
  dsimp only at h
  rw [add64_of_lt (by omega), if_neg (show ¬ file.size < offset + size by omega)] at h
  split at h
  case isTrue => cases h
  case isFalse =>
    split at h
    case isTrue => cases h
    case isFalse hreads =>
      simp only [Bool.or_eq_true, decide_eq_true_eq, not_or] at hreads
      obtain rfl := Option.some.inj h
      exact ⟨rfl, by omega⟩

/-- What a request returns is its first bytes: all of them in chunks that are done, or those before
the first part that is missing, and not all of them in chunks that nobody downloads. -/
theorem getFileData_cases (hfile : s.chunkMap.fileSize = file.size) (hkeyed : s.Keyed)
    (hinside : offset + size ≤ file.size) (hsize : size < 2 ^ 32) {n : Nat}
    (h : (s.getFileData io offset size true).1 = some n) :
  n ≤ size ∧
    ((∀ b, offset ≤ b → b < offset + n → s.chunkMap.state (b / chunkSize) = .done) ∨
      (∀ k e, s.mChunks.get? k = some e → offset ≤ e.offset → offset + n ≤ e.offset) ∧
        (∀ k e, s.mChunks.get? k = some e → e.offset < offset →
          offset ≤ add64 e.offset e.size → offset + size ≤ add64 e.offset e.size) ∧
        ¬ ∀ b, offset ≤ b → b < offset + n → s.chunkMap.state (b / chunkSize) = .outstanding)
  := by
  have hle := file.le
  simp only [chunkSize] at hle
  have hsorted : s.mChunks.toList.Pairwise fun e e' => e.2.offset < e'.2.offset := by
    apply s.mChunks.sorted.imp_of_mem
    intro e e' he he' hlt
    rwa [hkeyed _ _ (OrdMap.mem_toList.1 he), hkeyed _ _ (OrdMap.mem_toList.1 he')]
  have hend : offset + size < 2 ^ 64 := by omega
  obtain ⟨hcut, hahead, hbefore⟩ := foldl_unverifiedStep hsize hend hsorted true
  rw [← unverifiedSize_eq] at hcut hahead hbefore
  rw [getFileData] at h
  dsimp only at h
  split at h
  case isTrue hdone =>
    obtain ⟨rfl, hpos⟩ := provideFileData_eq_some hfile hinside h
    exact ⟨le_rfl, .inl ((ChunkMap.hasChunkState_iff hinside hpos .done).1 hdone)⟩
  case isFalse =>
    rw [if_pos rfl] at h
    dsimp only at h
    split at h
    case isFalse => cases h
    case isTrue hserved =>
      rw [Bool.and_eq_true, Bool.not_eq_true'] at hserved
      obtain ⟨rfl, hpos⟩ := provideFileData_eq_some hfile (by omega) h
      refine ⟨hcut, .inr ⟨?_, ?_, ?_⟩⟩
      · exact fun k e he => hahead (k, e) (OrdMap.mem_toList.2 he)
      · exact fun k e he => (hbefore hserved.1).2 (k, e) (OrdMap.mem_toList.2 he)
      · intro hall
        have hinside' : offset + (s.unverifiedSize offset size).1 ≤ file.size := by omega
        have hout := (ChunkMap.hasChunkState_iff hinside' hpos .outstanding).2 hall
        rw [hout] at hserved
        cases hserved.2

/-! ### Requests that are served as they should be -/

/-- The byte at `b` comes before all missing parts that do not begin before `offset`. -/
def Ahead (s : FileCreator PeerId) (offset b : Nat) : Prop :=
  ∀ k e, s.mChunks.get? k = some e → offset ≤ e.offset → b < e.offset

/-- The requests that the checks of `getFileData` are enough for. -/
inductive Clear (file : File) (s : FileCreator PeerId) (offset size : Nat) : Prop where
  /-- All chunks are done. -/
  | done (h : ∀ b, offset ≤ b → b < offset + size → s.chunkMap.state (b / chunkSize) = .done)
  /-- A missing part begins before the request and ends in it. -/
  | refused (h : ∃ k e, s.mChunks.get? k = some e ∧ e.offset < offset ∧
      offset ≤ add64 e.offset e.size ∧ add64 e.offset e.size < offset + size)
  /-- Nobody downloads the chunks before the first missing part in the request. -/
  | outstanding (h : ∀ b, offset ≤ b → b < offset + size → s.Ahead offset b →
      s.chunkMap.state (b / chunkSize) = .outstanding)
  /-- No missing part covers the request, and all bytes before the first missing part in it have
  been asked for and are not lost. -/
  | asked (hcover : ∀ k e, s.mChunks.get? k = some e → e.offset < offset →
      add64 e.offset e.size < offset + size)
    (hasked : ∀ b, offset ≤ b → b < offset + size → s.Ahead offset b →
      s.chunkMap.state (b / chunkSize) ≠ .outstanding ∧ ¬ s.Unasked b ∧ ¬ s.Lost file b)

/-- Of a request only bytes are served that have been received. -/
def ServesReceived (s : FileCreator PeerId) (t : List (FileEvent PeerId)) (offset size : Nat) :
    Prop :=
  ∀ io n, (s.getFileData io offset size true).1 = some n →
    ∀ b, offset ≤ b → b < offset + n → s.Received t b

theorem Surveyed.servesReceived (h : s.Surveyed file t) (hinside : offset + size ≤ file.size)
    (hsize : size < 2 ^ 32) (hclear : s.Clear file offset size) :
  s.ServesReceived t offset size
  := by
  intro io n hn b hle hlt
  obtain ⟨hcut, hdone | ⟨hahead, hbefore, hsome⟩⟩ := getFileData_cases h.tracked.sound.fileSize
    h.tracked.keyed hinside hsize hn
  · exact .inl (hdone b hle hlt)
  · have hfirst : ∀ b, b < offset + n → s.Ahead offset b :=
      fun b hb k e he hstart => hb.trans_le (hahead k e he hstart)
    cases hclear with
    | done hdone => exact .inl (hdone b hle (by omega))
    | refused hrefused =>
      obtain ⟨k, e, he, hstart, hstop, hend⟩ := hrefused
      exact absurd (hbefore k e he hstart hstop) (not_le.2 hend)
    | outstanding hout =>
      refine absurd ?_ hsome
      exact fun b hle hlt => hout b hle (by omega) (hfirst b hlt)
    | asked hcover hasked =>
      obtain ⟨hstate, hunasked, hlost⟩ := hasked b hle (by omega) (hfirst b hlt)
      obtain hreceived | ⟨k, e, he, hstart, hstop⟩ :=
        h.received (by omega) hstate hunasked hlost
      · exact hreceived
      · -- the part begins before the request, and ends in it or covers it
        have hlt' : e.offset < offset := by
          by_contra hge
          exact absurd (hfirst b hlt k e he (not_lt.1 hge)) (not_lt.2 hstart)
        have hend := hbefore k e he hlt' (by omega)
        exact absurd hend (not_le.2 (hcover k e he hlt'))

/-- In every state that a file creator reaches when not all chunks are checked by force, only bytes
that have been received are served of a request that is clear. -/
theorem servesReceived_run (fits : Nat → Nat → Bool) (file : File) (availability : Bool)
    (lastRecvTime : Int) {calls : List (Call PeerId)} (hcalls : ∀ call ∈ calls, call.Unforced)
    (offset : UInt64) (size : UInt32) (hinside : offset.toNat + size.toNat ≤ file.size)
    (hclear : ((machine fits).run (FileCreator.new file.size availability lastRecvTime)
      calls).Clear file offset.toNat size.toNat) :
  ((machine fits).run (FileCreator.new file.size availability lastRecvTime) calls).ServesReceived
    ((machine fits).trace (FileCreator.new file.size availability lastRecvTime) calls)
    offset.toNat size.toNat
  := by
  have hrun := Machine.run_trace_of_step (P := fun s t => Surveyed file s t)
    (fun s call t h hcall => h.step fits hcall) (Surveyed.new file availability lastRecvTime)
    (Machine.along_of_forall_mem hcalls _)
  rw [List.nil_append] at hrun
  exact hrun.servesReceived hinside size.toNat_lt hclear

/-- Six bytes have been asked for, and the first four have been written. -/
def fourBytes : List (Call Nat) :=
  [.getMissingChunk 0 0 1 6, .addFileData 0 writeSucceeds 0 4]

/-- A request that the missing part begins in is served up to it. -/
theorem servesReceived_run_fourBytes :
  ((machine fitsSeventy).run (FileCreator.new tenByteFile.size true 0) fourBytes).ServesReceived
    ((machine fitsSeventy).trace (FileCreator.new tenByteFile.size true 0) fourBytes) 1 4
  := by
  apply servesReceived_run fitsSeventy tenByteFile true 0 (by simp [fourBytes, Call.Unforced]) 1 4
    (by decide)
  generalize hs : (machine fitsSeventy).run (FileCreator.new tenByteFile.size true 0) fourBytes = s
  change s.Clear tenByteFile 1 4
  have hparts : s.mChunks = OrdMap.empty.insert 4 ⟨4, 2, 0, 0, 0, 1⟩ := by
    rw [← hs]
    decide +kernel
  have hfeeds : s.chunkMap.activeChunksFeed = OrdMap.empty.insert 1 ⟨0, 6, 10⟩ := by
    rw [← hs]
    decide +kernel
  have hslices : s.chunkMap.slicesToDownload =
      OrdMap.empty.insert 0 ⟨OrdMap.empty.insert 0 6, 10, 0⟩ := by
    rw [← hs]
    decide +kernel
  have hslack : s.slack 0 = 0 := by
    rw [← hs]
    decide +kernel
  have hstate : s.chunkMap.state 0 = .active := by
    rw [← hs]
    decide +kernel
  have hpart {k e} (he : s.mChunks.get? k = some e) : e = ⟨4, 2, 0, 0, 0, 1⟩ := by
    rw [hparts, OrdMap.get?_insert] at he
    split at he
    · exact (Option.some.inj he).symm
    · cases he
  apply Clear.asked
  · intro k e he hlt
    rw [hpart he] at hlt
    exact absurd hlt (by decide)
  · intro b hle hlt hahead
    have hb : b / chunkSize = 0 := by
      apply Nat.div_eq_of_lt
      apply hlt.trans
      decide
    rw [hb, hstate]
    refine ⟨by decide, ?_, ?_⟩
    · rintro ⟨q, feed, hfeed, -, hoffset⟩
      rw [hfeeds, OrdMap.get?_insert] at hfeed
      split at hfeed
      · obtain rfl := Option.some.inj hfeed
        dsimp only at hoffset
        omega
      · cases hfeed
    · rintro ⟨id, size, ⟨c, info, hinfo, hid⟩, -, -, hall⟩
      -- the only slice is that of the part, which has lost nothing
      rw [hslices, OrdMap.get?_insert] at hinfo
      split at hinfo
      · obtain rfl := Option.some.inj hinfo
        rw [OrdMap.get?_insert] at hid
        split at hid
        case isTrue hzero =>
          have he : s.mChunks.get? 4 = some ⟨4, 2, 0, 0, 0, 1⟩ := by
            rw [hparts, OrdMap.get?_insert_self]
          refine hall 4 _ he hzero.symm ⟨hslack, ?_⟩
          intro k e he' _
          rw [hpart he']
          decide
        case isFalse => cases hid
      · cases hinfo

/-- The peer `1` is asked for six bytes, and nothing arrives. -/
def sixBytes : List (Call Nat) := [.getMissingChunk 0 0 1 6]

/-- A request in the middle of the missing part is served. -/
theorem not_servesReceived_sixBytes :
  ¬ ((machine fitsSeventy).run (FileCreator.new tenByteFile.size true 0) sixBytes).ServesReceived
    ((machine fitsSeventy).trace (FileCreator.new tenByteFile.size true 0) sixBytes) 1 3
  := by
  intro h
  have hserved : (((machine fitsSeventy).run (FileCreator.new tenByteFile.size true 0)
      sixBytes).getFileData ⟨true, true, true⟩ 1 3 true).1 = some 3 := by
    decide +kernel
  have htrace : (machine fitsSeventy).trace (FileCreator.new tenByteFile.size true 0) sixBytes =
      [.chunk (.allocated 0), .handed 1 0] := by
    decide +kernel
  obtain hdone | ⟨-, t₁, t₂, offset, size, heq, -⟩ := h _ _ hserved 1 le_rfl (by decide)
  · revert hdone
    decide +kernel
  · have hmem : .chunk (.wrote offset size) ∈ t₁ ++ .chunk (.wrote offset size) :: t₂ := by simp
    rw [← heq, htrace] at hmem
    simp at hmem

end FileCreator

end Ft
