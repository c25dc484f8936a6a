import RetroShare.Ft.Downloads
import RetroShare.Lib.Machine

/-!
# The limit of active downloads

The files at the first `_max_active_downloads` positions are downloaded and those behind them are
queued, unless they are paused.  `locked_checkQueueElement` sees to that, but the state of a file is
also set without it: by `FileControl`, which starts a file wherever it is, and after a restart by
`handleAPendingRequest`, which restores the state that was saved while the positions come from the
order of the hashes.  The limit holds in a run in which these states suit the positions
(`limited_run`).
-/

namespace Ft

/-- The state suits the position. -/
def Suits (maxActiveDownloads pos : Nat) (state : ControlState) : Prop :=
  state = .paused ∨ if pos < maxActiveDownloads then state = .downloading else state = .queued

instance (maxActiveDownloads pos : Nat) (state : ControlState) :
    Decidable (Suits maxActiveDownloads pos state) :=
  inferInstanceAs (Decidable (_ ∨ _))

variable {Hash : Type}

/-- An `ftFileControl` knows its position, which its state suits. -/
def WithinLimit (maxActiveDownloads pos : Nat) (control : FtFileControl Hash) : Prop :=
  control.mQueuePosition = pos ∧ Suits maxActiveDownloads pos control.mState

theorem settled_withinLimit (maxActiveDownloads : Nat) :
  FtController.Settled (WithinLimit maxActiveDownloads : Nat → FtFileControl Hash → Prop)
    maxActiveDownloads
  := by
  constructor
  · intro pos control
    refine ⟨rfl, ?_⟩
    simp only [Suits, FtFileControl.checked]
    by_cases hpaused : control.mState = .paused
    · simp [hpaused]
    · by_cases hpos : pos < maxActiveDownloads
      · simp [hpaused, hpos]
      · by_cases hqueued : control.mState = .queued
        · simp [hpos, hqueued]
        · simp [hpaused, hpos, hqueued, not_lt.1 hpos]
  · intro pos control h
    exact h.1

namespace FtController

variable [LinearOrder Hash] {c : FtController Hash} {hash : Hash} {alreadyHave : Bool}

/-- A call. -/
inductive Call (Hash : Type) where
  | fileRequest (req : FtPendingRequest Hash) (alreadyHave : Bool)
  | fileCancel (hash : Hash) (finished : Bool)
  | completeFile (hash : Hash) (finished moved : Bool)
  | fileControl (hash : Hash) (flag : ControlFlag)
  | moveInQueue (hash : Hash) (move : QueueMove)
  | setQueueSize (s : Nat)
  | setMinPrioritizedTransfers (s : Nat)
  | checkDownloadQueue (inactive : Nat → Bool)
  | restart (alreadyHave : Hash → Bool)
  | activate
  | handleAPendingRequest (alreadyHave : Bool)

/-- What a call does. -/
def call (c : FtController Hash) : Call Hash → Except Fault (FtController Hash)
  | .fileRequest req alreadyHave => c.fileRequest req alreadyHave
  | .fileCancel hash finished => c.fileCancel hash finished
  | .completeFile hash finished moved => c.completeFile hash finished moved
  | .fileControl hash flag => c.fileControl hash flag
  | .moveInQueue hash move => c.moveInQueue hash move
  | .setQueueSize s => c.setQueueSize s
  | .setMinPrioritizedTransfers s => .ok (c.setMinPrioritizedTransfers s)
  | .checkDownloadQueue inactive => c.checkDownloadQueue inactive
  | .restart alreadyHave => c.restart alreadyHave
  | .activate => .ok c.activate
  | .handleAPendingRequest alreadyHave => c.handleAPendingRequest alreadyHave

/-- The calls as a machine.  After a fault there are no more. -/
def machine : Machine (Except Fault (FtController Hash)) (Call Hash) Unit where
  step
    | .ok c, input => (c.call input, [])
    | .error fault, _ => (.error fault, [])

/-- The file that is started, if there is one, is at one of the first positions. -/
def StartsWithin (c : FtController Hash) (hash : Hash) : Prop :=
  ∀ fc control, c.mDownloads.get? hash = some fc → c.objects fc = some control →
    control.mQueuePosition < c.maxActiveDownloads

/-- The saved state of a pending request suits the position of its file: the one that it has, or the
end of the queue if it is put there. -/
def RestoresWithin (c : FtController Hash) (req : FtPendingRequest Hash) (alreadyHave : Bool) :
    Prop :=
  ∀ rsft, c.mPendingChunkMaps.get? req.mHash = some rsft →
    (∀ fc control, c.mDownloads.get? rsft.hash = some fc → c.objects fc = some control →
      Suits c.maxActiveDownloads control.mQueuePosition rsft.state) ∧
    (c.mDownloads.get? rsft.hash = none → rsft.hash = req.mHash → c.mFtActive →
      ¬refuses req alreadyHave → Suits c.maxActiveDownloads c.queue.length rsft.state)

/-- A state that is set without `locked_checkQueueElement` suits the position. -/
def SetsWithin : Except Fault (FtController Hash) → Call Hash → Prop
  | .ok c, .fileControl hash .start => c.StartsWithin hash
  | .ok c, .handleAPendingRequest alreadyHave =>
      ∀ req ∈ c.mPendingRequests.head?, c.RestoresWithin req alreadyHave
  | _, _ => True

/-- Every file at one of the first positions is downloaded or paused, and every other one is queued
or paused; or a loop does not end. -/
def Limited : Except Fault (FtController Hash) → Prop
  | .ok c => ∀ pos fc, c.queue[pos]? = some fc → ∃ control, c.objects fc = some control ∧
      Suits c.maxActiveDownloads pos control.mState
  | .error fault => fault = .endless

/-! ### The calls one by one -/

/-- The limit holds for the controller. -/
abbrev InLimit (c : FtController Hash) : Prop := c.WellQueued (WithinLimit c.maxActiveDownloads)

/-- What is kept in every state. -/
def KeptLimit : Except Fault (FtController Hash) → Prop
  | .ok c => c.InLimit
  | .error fault => fault = .endless

theorem Keeps.keptLimit {result : Except Fault (FtController Hash)}
    (h : c.Keeps (WithinLimit c.maxActiveDownloads) result) :
  KeptLimit result
  := by
  obtain ⟨c', rfl, hkeep, hmax⟩ := h
  change c'.WellQueued (WithinLimit c'.maxActiveDownloads)
  rw [hmax]
  exact hkeep

theorem InLimit.setQueueSize (h : c.InLimit) (s : Nat) :
  KeptLimit (c.setQueueSize s)
  := by
  by_cases hs : 0 < s
  · rcases WellQueued.setQueueSize h (settled_withinLimit s) hs
      (by
        rintro pos control hlt hlt' ⟨hposition, hsuits⟩
        refine ⟨hposition, ?_⟩
        rw [Suits, if_pos hlt'] at hsuits
        rw [Suits, if_pos hlt]
        exact hsuits)
      (by
        rintro pos control hlt hlt' ⟨hposition, hsuits⟩
        refine ⟨hposition, ?_⟩
        rw [Suits, if_neg hlt'.not_gt] at hsuits
        rw [Suits, if_neg hlt.not_gt]
        exact hsuits) with hendless | ⟨c', hrun, hkeep, hmax⟩
    · rw [hendless]
      rfl
    · rw [hrun]
      change c'.WellQueued (WithinLimit c'.maxActiveDownloads)
      rw [hmax]
      exact hkeep
  · rw [FtController.setQueueSize, if_neg hs]
    exact h

theorem InLimit.fileControl (h : c.InLimit) {flag : ControlFlag}
    (hstart : flag = .start → c.StartsWithin hash) :
  KeptLimit (c.fileControl hash flag)
  := by
  rw [FtController.fileControl]
  split
  case h_1 => exact h
  case h_2 fc hget =>
    obtain ⟨control, hobject, ⟨-, hsuits⟩, hpos⟩ :=
      WellQueued.download h (settled_withinLimit _) hget
    have hset : ∀ state, Suits c.maxActiveDownloads control.mQueuePosition state →
        KeptLimit (.ok (c.setObject fc { control with mState := state })) := fun state hstate =>
      WellQueued.setState h (settled_withinLimit _) hget hobject ⟨rfl, hstate⟩
    rw [object_eq hobject]
    cases flag with
    | pause => exact hset _ (.inl rfl)
    | start =>
      apply hset
      right
      rw [if_pos (hstart rfl fc control hget hobject)]
    | forceCheck => exact h
    | other => exact h

/-- What `FileRequest` does: it keeps the queue and the downloads, or puts the file at the end. -/
theorem InLimit.fileRequest_cases (h : c.InLimit) (req : FtPendingRequest Hash)
    (alreadyHave : Bool) :
  ∃ c', c.fileRequest req alreadyHave = .ok c' ∧
    c'.WellQueued (WithinLimit c.maxActiveDownloads) ∧
    c'.maxActiveDownloads = c.maxActiveDownloads ∧ c'.mPendingChunkMaps = c.mPendingChunkMaps ∧
    (c'.objects = c.objects ∧ c'.mDownloads = c.mDownloads ∨
      c.mDownloads.get? req.mHash = none ∧ c.mFtActive ∧ ¬refuses req alreadyHave ∧
        c'.mDownloads = c.mDownloads.insert req.mHash c.fresh ∧ c'.queue = c.queue ++ [c.fresh])
  := by
  rw [FtController.fileRequest]
  split
  case isTrue => exact ⟨c, rfl, h, rfl, rfl, .inl ⟨rfl, rfl⟩⟩
  case isFalse hrefuses =>
    split
    case isTrue =>
      exact ⟨_, rfl, WellQueued.congr h rfl rfl rfl rfl rfl, rfl, rfl, .inl ⟨rfl, rfl⟩⟩
    case isFalse hactive =>
      split
      case isTrue => exact ⟨c, rfl, h, rfl, rfl, .inl ⟨rfl, rfl⟩⟩
      case isFalse hnot =>
        rw [isDownloading, Bool.not_eq_true, Option.isSome_eq_false_iff,
          Option.isNone_iff_eq_none] at hnot
        obtain ⟨c', hrun, hkeep, hdownloads, hc'⟩ :=
          WellQueued.addDownload h (settled_withinLimit _) hnot
        refine ⟨c', hrun, hkeep, by rw [hc'], by rw [hc'], .inr ⟨hnot, not_not.1 hactive, hrefuses,
          hdownloads, by rw [hc']⟩⟩

/-- The positions after `FileRequest` are those before it, and the end of the queue for the file. -/
theorem suits_of_restoresWithin {c' : FtController Hash} (h : c.InLimit)
    (h' : c'.WellQueued (WithinLimit c.maxActiveDownloads))
    (hmax : c'.maxActiveDownloads = c.maxActiveDownloads) {req : FtPendingRequest Hash}
    (hcases : c'.objects = c.objects ∧ c'.mDownloads = c.mDownloads ∨ c.mDownloads.get? req.mHash =
      none ∧ c.mFtActive ∧ ¬refuses req alreadyHave ∧ c'.mDownloads = c.mDownloads.insert req.mHash
      c.fresh ∧ c'.queue = c.queue ++ [c.fresh]) (hrestores : c.RestoresWithin req alreadyHave)
    {rsft : RsFileTransfer Hash} (hrsft : c.mPendingChunkMaps.get? req.mHash = some rsft) {fc : Nat}
    {control : FtFileControl Hash} (hget : c'.mDownloads.get? rsft.hash = some fc)
    (hobject : c'.objects fc = some control) :
  Suits c.maxActiveDownloads control.mQueuePosition rsft.state
  := by
  obtain ⟨hold, hnew⟩ := hrestores rsft hrsft
  rcases hcases with ⟨hobjects, hdownloads⟩ | ⟨hnone, hactive, hrefuses, hdownloads, hqueue⟩
  · rw [hdownloads] at hget
    rw [hobjects] at hobject
    exact hold fc control hget hobject
  · obtain ⟨control', hobject', -, hpos⟩ := h'.download
      (by rw [hmax]; exact settled_withinLimit _) hget
    rw [hobject] at hobject'
    obtain rfl := Option.some.inj hobject'
    have hposition : ∀ pos, c'.queue[pos]? = some fc → control.mQueuePosition = pos := by
      intro pos hpos'
      obtain ⟨hlt, hat⟩ := List.getElem?_eq_some_iff.1 hpos
      obtain ⟨hlt', hat'⟩ := List.getElem?_eq_some_iff.1 hpos'
      exact h'.placed.nodup.getElem_inj_iff.1 (hat.trans hat'.symm)
    rw [hdownloads] at hget
    rcases OrdMap.get?_insert_iff.mp hget with ⟨hsame, rfl⟩ | ⟨-, hget⟩
    · rw [hposition c.queue.length (by rw [hqueue]; simp)]
      rw [hsame] at hnew
      exact hnew hnone rfl hactive hrefuses
    · obtain ⟨control', hobject', -, hpos'⟩ := WellQueued.download h (settled_withinLimit _) hget
      obtain ⟨hlt, -⟩ := List.getElem?_eq_some_iff.1 hpos'
      rw [hposition control'.mQueuePosition (by
        rw [hqueue, List.getElem?_append_left hlt]
        exact hpos')]
      exact hold fc control' hget hobject'

theorem restoreChunkMap_kept {max : Nat} (h : c.WellQueued (WithinLimit max))
    (hmax : c.maxActiveDownloads = max)
    (hsuits : ∀ rsft, c.mPendingChunkMaps.get? hash = some rsft → ∀ fc control, c.mDownloads.get?
      rsft.hash = some fc → c.objects fc = some control → Suits max control.mQueuePosition
      rsft.state) :
  KeptLimit (c.restoreChunkMap hash)
  := by
  subst hmax
  rw [FtController.restoreChunkMap]
  split
  case h_1 => exact h
  case h_2 rsft hrsft =>
    dsimp only
    split
    case h_1 => exact WellQueued.congr h rfl rfl rfl rfl rfl
    case h_2 fc hget =>
      obtain ⟨control, hobject, -⟩ := h.download (settled_withinLimit _) hget
      have hset : (c.setObject fc { control with mState := rsft.state }).WellQueued
          (WithinLimit c.maxActiveDownloads) :=
        h.setState (settled_withinLimit _) hget hobject
          ⟨rfl, hsuits rsft hrsft fc control hget hobject⟩
      rw [object_eq hobject]
      exact WellQueued.congr hset rfl rfl rfl rfl rfl

theorem InLimit.handleAPendingRequest (h : c.InLimit)
    (hrestores : ∀ req ∈ c.mPendingRequests.head?, c.RestoresWithin req alreadyHave) :
  KeptLimit (c.handleAPendingRequest alreadyHave)
  := by
  rw [FtController.handleAPendingRequest]
  split
  case h_1 => exact h
  case h_2 req reqs hreqs =>
    rw [hreqs] at hrestores
    have hreq : c.RestoresWithin req alreadyHave := hrestores req rfl
    have hpop : ({ c with mPendingRequests := reqs } : FtController Hash).InLimit :=
      WellQueued.congr h rfl rfl rfl rfl rfl
    obtain ⟨c', hrun, hkeep, hmax, hmaps, hcases⟩ := hpop.fileRequest_cases req alreadyHave
    rw [hrun, ok_bind]
    apply restoreChunkMap_kept hkeep hmax
    intro rsft hrsft fc control hget hobject
    rw [hmaps] at hrsft
    exact suits_of_restoresWithin hpop hkeep hmax hcases hreq hrsft hget hobject

/-! ### Restarts -/

theorem InLimit.loadTransfer (h : c.InLimit) (alreadyHave : Hash → Bool)
    (item : RsFileTransfer Hash) :
  c.Keeps (WithinLimit c.maxActiveDownloads) (c.loadTransfer alreadyHave item)
  := by
  obtain ⟨c', hrun, hkeep, hmax, -, -⟩ := h.fileRequest_cases
    ⟨item.hash, item.filesize, compatibleFlags item.flags, item.state⟩ (alreadyHave item.hash)
  rw [FtController.loadTransfer, hrun, ok_bind]
  split
  · exact ⟨c', rfl, hkeep, hmax⟩
  · exact ⟨_, rfl, hkeep.congr rfl rfl rfl rfl rfl, hmax⟩

theorem InLimit.loadTransfers (alreadyHave : Hash → Bool) (items : List (RsFileTransfer Hash))
    (h : c.InLimit) :
  KeptLimit (items.foldlM (FtController.loadTransfer alreadyHave) c)
  := by
  induction items generalizing c with
  | nil => exact h
  | cons item items ih =>
    obtain ⟨c', hrun, hkeep, hmax⟩ := h.loadTransfer alreadyHave item
    rw [List.foldlM_cons, hrun]
    apply ih
    change c'.WellQueued (WithinLimit c'.maxActiveDownloads)
    rw [hmax]
    exact hkeep

theorem loadList_kept (h : c.InLimit) (saved : Saved Hash) (alreadyHave : Hash → Bool) :
  KeptLimit (c.loadList saved alreadyHave)
  := by
  rw [loadList]
  have hsize := h.setQueueSize saved.activeDownloadsSize
  revert hsize
  cases c.setQueueSize saved.activeDownloadsSize with
  | error fault => exact id
  | ok c' =>
    intro hsize
    apply InLimit.loadTransfers
    exact WellQueued.congr hsize rfl rfl rfl rfl rfl

/-- A list of calls that all come to their end. -/
theorem mapM_ok {α β : Type} {f : α → Except Fault β} :
  ∀ {l : List α}, (∀ a ∈ l, ∃ b, f a = .ok b) → ∃ bs, l.mapM f = .ok bs
  | [], _ => ⟨[], rfl⟩
  | a :: l, h => by
      rw [List.forall_mem_cons] at h
      obtain ⟨⟨b, hb⟩, hrest⟩ := h
      obtain ⟨bs, hbs⟩ := mapM_ok hrest
      refine ⟨b :: bs, ?_⟩
      rw [List.mapM_cons, hb, ok_bind, hbs]
      rfl

theorem InLimit.saveList (h : c.InLimit) :
  ∃ saved, c.saveList = .ok saved
  := by
  have hobject : ∀ e ∈ c.mDownloads.toList ++ c.mCompleted.toList,
      ∃ control, c.objects e.2 = some control := by
    intro e he
    rcases List.mem_append.1 he with he | he
    · obtain ⟨control, hobject, -⟩ :=
        WellQueued.download h (settled_withinLimit _) (OrdMap.mem_toList.1 he)
      exact ⟨control, hobject⟩
    · obtain ⟨-, -, hobject⟩ := h.completed e.1 e.2 (OrdMap.mem_toList.1 he)
      exact Option.isSome_iff_exists.1 hobject
  obtain ⟨hashs, hhashs⟩ : ∃ hashs, c.fileDownloads = .ok hashs := by
    apply mapM_ok
    intro e he
    obtain ⟨control, hcontrol⟩ := hobject e he
    exact ⟨control.mHash, by rw [object_eq hcontrol]; rfl⟩
  obtain ⟨downloads, hdownloads⟩ : ∃ downloads, hashs.mapM c.saveDownload = .ok downloads := by
    apply mapM_ok
    intro hash _
    rw [saveDownload]
    split
    case h_1 => exact ⟨none, rfl⟩
    case h_2 fc hget =>
      obtain ⟨control, hcontrol, -⟩ := WellQueued.download h (settled_withinLimit _) hget
      rw [object_eq hcontrol, ok_bind]
      split
      · exact ⟨_, rfl⟩
      · exact ⟨_, rfl⟩
  exact ⟨_, by rw [FtController.saveList, hhashs, ok_bind, hdownloads]; rfl⟩

theorem InLimit.restart (h : c.InLimit) (alreadyHave : Hash → Bool) :
  KeptLimit (c.restart alreadyHave)
  := by
  obtain ⟨saved, hsaved⟩ := h.saveList
  rw [FtController.restart, hsaved, ok_bind]
  exact loadList_kept wellQueued_new saved alreadyHave

/-! ### Runs -/

theorem InLimit.call (h : c.InLimit) {input : Call Hash} (hsets : SetsWithin (.ok c) input) :
  KeptLimit (c.call input)
  := by
  cases input with
  | fileRequest req alreadyHave =>
    obtain ⟨c', hrun, hkeep, hmax, -⟩ := h.fileRequest_cases req alreadyHave
    exact Keeps.keptLimit ⟨c', hrun, hkeep, hmax⟩
  | fileCancel hash finished =>
    exact (WellQueued.fileCancel h (settled_withinLimit _) hash finished).keptLimit
  | completeFile hash finished moved =>
    exact (WellQueued.completeFile h (settled_withinLimit _) hash finished moved).keptLimit
  | fileControl hash flag =>
    apply h.fileControl
    rintro rfl
    exact hsets
  | moveInQueue hash move =>
    exact (WellQueued.moveInQueue h (settled_withinLimit _) hash move).keptLimit
  | setQueueSize s => exact h.setQueueSize s
  | setMinPrioritizedTransfers s => exact WellQueued.congr h rfl rfl rfl rfl rfl
  | checkDownloadQueue inactive =>
    exact (WellQueued.checkDownloadQueue h (settled_withinLimit _) inactive).keptLimit
  | restart alreadyHave => exact h.restart alreadyHave
  | activate => exact WellQueued.congr h rfl rfl rfl rfl rfl
  | handleAPendingRequest alreadyHave => exact h.handleAPendingRequest hsets

theorem keptLimit_new :
  KeptLimit (.ok (new : FtController Hash))
  := wellQueued_new

/-- The limit holds after every run in which the states that are set suit the positions. -/
theorem limited_run (calls : List (Call Hash))
    (hsets : machine.Along SetsWithin (.ok (new : FtController Hash)) calls) :
  Limited (machine.run (.ok (new : FtController Hash)) calls)
  := by
  have hkept : KeptLimit (machine.run (.ok (new : FtController Hash)) calls) := by
    apply Machine.run_of_step _ keptLimit_new hsets
    intro result input hkept hinput
    cases result with
    | error fault => exact hkept
    | ok c => exact InLimit.call hkept hinput
  revert hkept
  cases machine.run (.ok (new : FtController Hash)) calls with
  | error fault => exact id
  | ok c =>
    intro h pos fc hpos
    obtain ⟨control, hobject, -, hsuits⟩ := h.placed.good pos fc hpos
    exact ⟨control, hobject, hsuits⟩

/-! ### States beyond the limit -/

/-- The request of a file by its number. -/
def requestOf (hash : Nat) : Call Nat := .fileRequest ⟨hash, 1, 0, .downloading⟩ false

/-- Six files are requested, of which five are downloaded, and the sixth one is started. -/
def startedBeyond : List (Call Nat) :=
  .activate :: (([1, 2, 3, 4, 5, 6] : List Nat).map requestOf ++ [.fileControl 6 .start])

/-- Six files are requested against the order of their hashes, and there is a restart. -/
def restarted : List (Call Nat) :=
  .activate :: (([6, 5, 4, 3, 2, 1] : List Nat).map requestOf ++
    .restart (fun _ => false) :: .activate ::
      List.replicate 6 (.handleAPendingRequest false))

/-- A download is beyond the limit, and a file that is queued after a restart before it. -/
theorem not_limited_beyond :
  ¬Limited (machine.run (.ok new) startedBeyond) ∧ ¬Limited (machine.run (.ok new) restarted)
  := by
  constructor
  · intro h
    obtain ⟨control, hobject, hsuits⟩ := h 5 6 (by decide)
    cases hobject
    revert hsuits
    decide
  · intro h
    obtain ⟨control, hobject, hsuits⟩ := h 0 1 (by decide)
    cases hobject
    revert hsuits
    decide

/-- A download is paused and started. -/
theorem limited_run_paused :
  machine.Along SetsWithin (.ok (new : FtController Nat))
      [.activate, requestOf 1, .fileControl 1 .pause, .fileControl 1 .start] ∧
    Limited (machine.run (.ok (new : FtController Nat))
      [.activate, requestOf 1, .fileControl 1 .pause, .fileControl 1 .start])
  := by
  have hsets : machine.Along SetsWithin (.ok (new : FtController Nat))
      [.activate, requestOf 1, .fileControl 1 .pause, .fileControl 1 .start] := by
    refine ⟨trivial, trivial, trivial, ?_, trivial⟩
    rintro fc control ⟨⟩ ⟨⟩
    decide
  exact ⟨hsets, limited_run _ hsets⟩

end FtController

end Ft
