import RetroShare.Ft.Positions

/-!
# The queue holds the downloads

`WellQueued P` says that the queue holds exactly the downloads, each once, and that every one has
the property `P` at its position.  Every call keeps it, and never comes to a fault, when `P` is
established by `locked_checkQueueElement` and determines the position; only the last part of
`FileRequest` needs that the file is not being downloaded.
-/

namespace Ft

namespace FtController

variable {Hash : Type} [LinearOrder Hash] {c c' : FtController Hash}
  {P Q : Nat → FtFileControl Hash → Prop} {fc pos : Nat} {hash : Hash}

/-- A property of the position that is established by `locked_checkQueueElement`. -/
structure Settled (P : Nat → FtFileControl Hash → Prop) (maxActiveDownloads : Nat) : Prop where
  checked : ∀ pos (control : FtFileControl Hash), P pos (control.checked maxActiveDownloads pos)
  position : ∀ pos (control : FtFileControl Hash), P pos control → control.mQueuePosition = pos

/-- The queue holds exactly the downloads, each once and with the property at its position.  The
completed files are not in the queue. -/
structure WellQueued (P : Nat → FtFileControl Hash → Prop) (c : FtController Hash) : Prop where
  placed : c.Placed P
  mem_iff : ∀ fc, fc ∈ c.queue ↔ ∃ hash, c.mDownloads.get? hash = some fc
  injective : ∀ hash hash' fc, c.mDownloads.get? hash = some fc →
    c.mDownloads.get? hash' = some fc → hash = hash'
  lt_fresh : ∀ fc ∈ c.queue, fc < c.fresh
  completed : ∀ hash fc, c.mCompleted.get? hash = some fc →
    fc ∉ c.queue ∧ fc < c.fresh ∧ (c.objects fc).isSome

/-- The call comes to its end and keeps the queue. -/
def Keeps (P : Nat → FtFileControl Hash → Prop) (c : FtController Hash)
    (result : Except Fault (FtController Hash)) : Prop :=
  ∃ c', result = .ok c' ∧ c'.WellQueued P ∧ c'.maxActiveDownloads = c.maxActiveDownloads

theorem WellQueued.keeps (h : c.WellQueued P) :
  c.Keeps P (.ok c)
  := ⟨c, rfl, h, rfl⟩

theorem wellQueued_new :
  (new : FtController Hash).WellQueued P
  := by
  refine ⟨⟨List.nodup_nil, ?_⟩, ?_, ?_, ?_, ?_⟩
  · rintro pos fc ⟨⟩
  · intro fc
    constructor
    · rintro ⟨⟩
    · rintro ⟨hash, ⟨⟩⟩
  · rintro hash hash' fc ⟨⟩
  · rintro fc ⟨⟩
  · rintro hash fc ⟨⟩

section

variable (h : c.WellQueued P)

include h

/-- A download has an `ftFileControl`, which knows its position. -/
theorem WellQueued.download (hP : Settled P c.maxActiveDownloads)
    (hget : c.mDownloads.get? hash = some fc) :
  ∃ control, c.objects fc = some control ∧ P control.mQueuePosition control ∧
    c.queue[control.mQueuePosition]? = some fc
  := by
  obtain ⟨pos, hpos⟩ := List.mem_iff_getElem?.1 ((h.mem_iff fc).2 ⟨hash, hget⟩)
  obtain ⟨control, hobject, hgood⟩ := h.placed.good pos fc hpos
  have hposition := hP.position pos control hgood
  subst hposition
  exact ⟨control, hobject, hgood, hpos⟩

theorem WellQueued.of_perm (hplaced : c'.Placed Q) (hperm : c'.queue.Perm c.queue)
    (hframe : c.Frame c' c.queue) :
  c'.WellQueued Q
  := by
  refine ⟨hplaced, ?_, ?_, ?_, ?_⟩
  · intro fc
    rw [hperm.mem_iff, h.mem_iff, hframe.mDownloads]
  · rw [hframe.mDownloads]
    exact h.injective
  · intro fc hfc
    rw [hframe.fresh]
    exact h.lt_fresh fc (hperm.subset hfc)
  · intro hash fc hget
    rw [hframe.mCompleted] at hget
    obtain ⟨hqueue, hlt, hobject⟩ := h.completed hash fc hget
    rw [hperm.mem_iff, hframe.fresh, hframe.objects fc hqueue]
    exact ⟨hqueue, hlt, hobject⟩

/-! ### Moves -/

theorem WellQueued.topQueue (hP : Settled P c.maxActiveDownloads) (hpos : c.queue[pos]? = some fc) :
  c.Keeps P (c.topQueue pos)
  := by
  obtain ⟨c', hrun, hplaced, hperm, hframe⟩ := h.placed.topQueue hP.checked hpos
  exact ⟨c', hrun, h.of_perm hplaced hperm hframe, hframe.maxActiveDownloads⟩

theorem WellQueued.bottomQueue (hP : Settled P c.maxActiveDownloads)
    (hpos : c.queue[pos]? = some fc) :
  ∃ c', c.bottomQueue pos = .ok c' ∧ c'.WellQueued P ∧ c.Frame c' c.queue
  := by
  obtain ⟨c', hrun, hplaced, hperm, hframe⟩ := h.placed.bottomQueue hP.checked hpos
  exact ⟨c', hrun, h.of_perm hplaced hperm hframe, hframe⟩

theorem WellQueued.swapQueue (hP : Settled P c.maxActiveDownloads) {pos' : Nat}
    (hpos : pos < c.queue.length) (hpos' : pos' < c.queue.length) :
  ∃ c', c.swapQueue pos pos' = .ok c' ∧ c'.WellQueued P ∧ c'.queue.length = c.queue.length ∧
    c'.maxActiveDownloads = c.maxActiveDownloads
  := by
  obtain ⟨c', hrun, hplaced, hperm, hframe⟩ := h.placed.swapQueue hP.checked
    (List.getElem?_eq_getElem hpos) (List.getElem?_eq_getElem hpos')
  exact ⟨c', hrun, h.of_perm hplaced hperm hframe, hperm.length_eq, hframe.maxActiveDownloads⟩

theorem WellQueued.moveInQueue (hP : Settled P c.maxActiveDownloads) (hash : Hash)
    (move : QueueMove) :
  c.Keeps P (c.moveInQueue hash move)
  := by
  rw [FtController.moveInQueue]
  split
  case h_1 => exact h.keeps
  case h_2 fc hget =>
    obtain ⟨control, hobject, -, hpos⟩ := h.download hP hget
    obtain ⟨hlt, -⟩ := List.getElem?_eq_some_iff.1 hpos
    rw [object_eq hobject]
    have hswap : ∀ pos', pos' < c.queue.length →
        c.Keeps P (c.swapQueue control.mQueuePosition pos') := by
      intro pos' hlt'
      obtain ⟨c', hrun, hkeep, -, hmax⟩ := h.swapQueue hP hlt hlt'
      exact ⟨c', hrun, hkeep, hmax⟩
    cases move with
    | top => exact h.topQueue hP hpos
    | bottom =>
      obtain ⟨c', hrun, hkeep, hframe⟩ := h.bottomQueue hP hpos
      exact ⟨c', hrun, hkeep, hframe.maxActiveDownloads⟩
    | up =>
      change c.Keeps P (if _ then _ else _)
      split
      · exact hswap _ (by omega)
      · exact h.keeps
    | down =>
      change c.Keeps P (if _ then _ else _)
      split
      · exact hswap _ (by omega)
      · exact h.keeps

end

/-! ### The inactive downloads -/

theorem WellQueued.requeueInactive (hP : Settled P c.maxActiveDownloads) (inactive : Nat → Bool)
    (downloads : List (Hash × Nat)) (nbMoved : Nat) (h : c.WellQueued P)
    (hdownloads : ∀ e ∈ downloads, c.mDownloads.get? e.1 = some e.2) :
  ∃ c', c.requeueInactive inactive downloads nbMoved = .ok c' ∧ c'.WellQueued P ∧
    c'.maxActiveDownloads = c.maxActiveDownloads
  := by
  induction downloads generalizing c nbMoved with
  | nil => exact ⟨c, rfl, h, rfl⟩
  | cons download downloads ih =>
    obtain ⟨hash, fc⟩ := download
    rw [List.forall_mem_cons] at hdownloads
    obtain ⟨control, hobject, -, hpos⟩ := h.download hP hdownloads.1
    rw [FtController.requeueInactive]
    split
    case isTrue => exact ⟨c, rfl, h, rfl⟩
    case isFalse =>
      rw [object_eq hobject, ok_bind]
      split
      case isTrue =>
        obtain ⟨c₁, hrun, hkeep, hframe⟩ := h.bottomQueue hP hpos
        have hmax := hframe.maxActiveDownloads
        obtain ⟨c₂, hrun', hkeep', hmax'⟩ := ih (by rw [hmax]; exact hP) (nbMoved + 1)
          hkeep (by rw [hframe.mDownloads]; exact hdownloads.2)
        refine ⟨c₂, ?_, hkeep', hmax'.trans hmax⟩
        rw [hrun]
        exact hrun'
      case isFalse => exact ih hP nbMoved h hdownloads.2

theorem WellQueued.collectTransfers (h : c.WellQueued P) (p n : Nat) (transfers : Transfers)
    (hn : p + n ≤ c.queue.length)
    (hbefore : ∀ pos ∈ transfers.toMoveBefore, pos < c.queue.length)
    (hafter : ∀ pos ∈ transfers.toMoveAfter, pos < c.queue.length) :
  ∃ transfers', c.collectTransfers p n transfers = .ok transfers' ∧
    (∀ pos ∈ transfers'.toMoveBefore, pos < c.queue.length) ∧
    ∀ pos ∈ transfers'.toMoveAfter, pos < c.queue.length
  := by
  induction n generalizing p transfers with
  | zero => exact ⟨transfers, rfl, hbefore, hafter⟩
  | succ n ih =>
    have hlt : p < c.queue.length := by omega
    have happend : ∀ {positions : List Nat}, (∀ pos ∈ positions, pos < c.queue.length) →
        ∀ pos ∈ positions ++ [p], pos < c.queue.length := by
      intro positions hpositions pos hpos
      rcases List.mem_append.1 hpos with hpos | hpos
      · exact hpositions pos hpos
      · rw [List.mem_singleton.1 hpos]
        exact hlt
    obtain ⟨control, hobject, -⟩ := h.placed.good p _ (List.getElem?_eq_getElem hlt)
    rw [FtController.collectTransfers, element_eq (List.getElem?_eq_getElem hlt), ok_bind,
      object_eq hobject, ok_bind]
    split
    · split
      · exact ih _ _ (by omega) (happend hbefore) hafter
      · exact ih _ _ (by omega) hbefore hafter
    · split
      · exact ⟨transfers, rfl, hbefore, hafter⟩
      · split
        · exact ih _ _ (by omega) hbefore hafter
        · exact ih _ _ (by omega) hbefore (happend hafter)

theorem WellQueued.swapAll (hP : Settled P c.maxActiveDownloads) (pairs : List (Nat × Nat))
    (h : c.WellQueued P)
    (hpairs : ∀ pair ∈ pairs, pair.1 < c.queue.length ∧ pair.2 < c.queue.length) :
  c.Keeps P (c.swapAll pairs)
  := by
  induction pairs generalizing c with
  | nil => exact h.keeps
  | cons pair pairs ih =>
    obtain ⟨pos, pos'⟩ := pair
    rw [List.forall_mem_cons] at hpairs
    obtain ⟨c₁, hrun, hkeep, hlength, hmax⟩ := h.swapQueue hP hpairs.1.1 hpairs.1.2
    obtain ⟨c₂, hrun', hkeep', hmax'⟩ := ih (by rw [hmax]; exact hP) hkeep
      (by rw [hlength]; exact hpairs.2)
    refine ⟨c₂, ?_, hkeep', hmax'.trans hmax⟩
    rw [FtController.swapAll, hrun]
    exact hrun'

theorem WellQueued.checkDownloadQueue (h : c.WellQueued P) (hP : Settled P c.maxActiveDownloads)
    (inactive : Nat → Bool) :
  c.Keeps P (c.checkDownloadQueue inactive)
  := by
  rw [FtController.checkDownloadQueue]
  split
  case isTrue => exact h.keeps
  case isFalse =>
    obtain ⟨c₁, hrun, hkeep, hmax⟩ := WellQueued.requeueInactive hP inactive c.mDownloads.toList 0 h
      (fun e he => OrdMap.mem_toList.1 he)
    obtain ⟨transfers, hcollect, hbefore, hafter⟩ := hkeep.collectTransfers 0 c₁.queue.length
      ⟨0, [], []⟩ (by omega) (by simp) (by simp)
    rw [hrun, ok_bind, hcollect, ok_bind]
    have hswap : c₁.Keeps P (c₁.swapAll ((transfers.toMoveBefore.zip transfers.toMoveAfter).take
        (asInt c₁.minPrioritizedTransfers - transfers.userTransfers).toNat)) := by
      apply WellQueued.swapAll (by rw [hmax]; exact hP) _ hkeep
      rintro ⟨pos, pos'⟩ hpair
      have hmem := List.of_mem_zip (List.mem_of_mem_take hpair)
      exact ⟨hbefore pos hmem.1, hafter pos' hmem.2⟩
    obtain ⟨c₂, hswap, hkeep', hmax'⟩ := hswap
    exact ⟨c₂, hswap, hkeep', hmax'.trans hmax⟩

/-! ### The number of active downloads -/

/-- Checking the element at `pos` changes what is known there. -/
theorem Placed.checkQueueElement (h : c.Placed P) (hpos : pos < c.queue.length)
    (hchecked : ∀ control : FtFileControl Hash, Q pos (control.checked c.maxActiveDownloads pos))
    (hothers : ∀ pos' control, pos' ≠ pos → P pos' control → Q pos' control) :
  ∃ c', c.checkQueueElement pos = .ok c' ∧ c'.Placed Q ∧ c'.queue = c.queue ∧
    c.Frame c' c.queue
  := by
  have hget := List.getElem?_eq_getElem hpos
  obtain ⟨control, hobject, -⟩ := h.good pos _ hget
  refine ⟨_, checkQueueElement_eq hget hobject, ⟨h.nodup, ?_⟩, rfl, rfl, ?_⟩
  · intro pos' fc hpos'
    rw [setObject_queue] at hpos'
    rw [setObject_objects]
    by_cases hsame : pos' = pos
    · subst hsame
      obtain rfl : c.queue[pos'] = fc := Option.some.inj (hget.symm.trans hpos')
      exact ⟨_, Function.update_self _ _ _, hchecked _⟩
    · obtain ⟨hlt, heq⟩ := List.getElem?_eq_some_iff.1 hpos'
      have hne : fc ≠ c.queue[pos] := by
        rintro rfl
        exact hsame (h.nodup.getElem_inj_iff.1 heq)
      obtain ⟨control', hobject', hgood⟩ := h.good pos' fc hpos'
      rw [Function.update_of_ne hne]
      exact ⟨control', hobject', hothers pos' control' hsame hgood⟩
  · intro fc hfc
    apply Function.update_of_ne
    rintro rfl
    exact hfc (List.getElem_mem hpos)

theorem Placed.congr (h : c.Placed P)
    (hPQ : ∀ pos control, pos < c.queue.length → P pos control → Q pos control) :
  c.Placed Q
  := by
  refine ⟨h.nodup, ?_⟩
  intro pos fc hpos
  obtain ⟨control, hobject, hgood⟩ := h.good pos fc hpos
  obtain ⟨hlt, -⟩ := List.getElem?_eq_some_iff.1 hpos
  exact ⟨control, hobject, hPQ pos control hlt hgood⟩

/-- The elements that are checked have what `Q` says, the others what `P` says. -/
theorem Placed.checkFrom (pos n : Nat)
    (hQ : ∀ pos (control : FtFileControl Hash), Q pos (control.checked c.maxActiveDownloads pos))
    (h : c.Placed fun pos' control => if pos' < pos then Q pos' control else P pos' control) :
  ∃ c', c.checkFrom pos n = .ok c' ∧
    (c'.Placed fun pos' control => if pos' < pos + n then Q pos' control else P pos' control) ∧
    c'.queue = c.queue ∧ c.Frame c' c.queue
  := by
  induction n generalizing c pos with
  | zero => exact ⟨c, rfl, h, rfl, .refl c _⟩
  | succ n ih =>
    have hstep : ∃ c₁, c.checkFrom pos (n + 1) = c₁.checkFrom (pos + 1) n ∧
        (c₁.Placed fun pos' control =>
          if pos' < pos + 1 then Q pos' control else P pos' control) ∧
        c₁.queue = c.queue ∧ c.Frame c₁ c.queue := by
      rw [FtController.checkFrom]
      split
      case isTrue hpos =>
        obtain ⟨c₁, hcheck, hplaced⟩ := h.checkQueueElement (Q := fun pos' control =>
          if pos' < pos + 1 then Q pos' control else P pos' control) hpos
          (by
            intro control
            rw [if_pos (Nat.lt_succ_self pos)]
            exact hQ pos control)
          (by
            intro pos' control hne hgood
            split at hgood
            · rw [if_pos (by omega)]
              exact hgood
            · rw [if_neg (by omega)]
              exact hgood)
        exact ⟨c₁, by rw [hcheck, ok_bind], hplaced⟩
      case isFalse hpos =>
        refine ⟨c, rfl, h.congr ?_, rfl, .refl c _⟩
        intro pos' control hlt hgood
        rw [if_pos (by omega)] at hgood
        rw [if_pos (by omega)]
        exact hgood
    obtain ⟨c₁, hcheck, hplaced, hqueue, hframe⟩ := hstep
    obtain ⟨c₂, hrun, hplaced', hqueue', hframe'⟩ := ih (pos + 1)
      (by rw [hframe.maxActiveDownloads]; exact hQ) hplaced
    rw [hqueue] at hqueue' hframe'
    refine ⟨c₂, ?_, ?_, hqueue', hframe.trans hframe'⟩
    · rw [hcheck, hrun]
    · rw [show pos + (n + 1) = pos + 1 + n by omega]
      exact hplaced'

variable (h : c.WellQueued P)

include h

theorem WellQueued.setQueueSize {s : Nat} (hQ : Settled Q s) (hs : 0 < s)
    (hbelow : ∀ pos control, pos < s → pos < c.maxActiveDownloads → P pos control → Q pos control)
    (habove : ∀ pos control, s < pos → c.maxActiveDownloads < pos → P pos control → Q pos control) :
  c.setQueueSize s = .error .endless ∨
    ∃ c', c.setQueueSize s = .ok c' ∧ c'.WellQueued Q ∧ c'.maxActiveDownloads = s
  := by
  rw [FtController.setQueueSize, if_pos hs]
  dsimp only
  split
  case isTrue => exact .inl rfl
  case isFalse =>
    right
    have hstart : ({ c with maxActiveDownloads := s } : FtController Hash).Placed fun pos control =>
        if pos < min s c.maxActiveDownloads then Q pos control else P pos control := by
      refine ⟨h.placed.nodup, ?_⟩
      intro pos fc hpos
      obtain ⟨control, hobject, hgood⟩ := h.placed.good pos fc hpos
      refine ⟨control, hobject, ?_⟩
      split
      case isTrue hlt =>
        rw [lt_min_iff] at hlt
        exact hbelow pos control hlt.1 hlt.2 hgood
      case isFalse => exact hgood
    obtain ⟨c', hrun, hplaced, hqueue, hframe⟩ := Placed.checkFrom
      (min s c.maxActiveDownloads) (max s c.maxActiveDownloads + 1 - min s c.maxActiveDownloads)
      hQ.checked hstart
    have hplaced' : c'.Placed Q := by
      apply hplaced.congr
      rintro pos control - hgood
      split at hgood
      case isTrue => exact hgood
      case isFalse hle => exact habove pos control (by omega) (by omega) hgood
    have hchanged : ({ c with maxActiveDownloads := s } : FtController Hash).WellQueued P :=
      ⟨⟨h.placed.nodup, h.placed.good⟩, h.mem_iff, h.injective, h.lt_fresh, h.completed⟩
    exact ⟨c', hrun, hchanged.of_perm hplaced' (.of_eq hqueue) hframe, hframe.maxActiveDownloads⟩

/-! ### New and old downloads -/

theorem WellQueued.addDownload (hP : Settled P c.maxActiveDownloads) {req : FtPendingRequest Hash}
    (hnew : c.mDownloads.get? req.mHash = none) :
  ∃ c', c.addDownload req = .ok c' ∧ c'.WellQueued P ∧
    c'.mDownloads = c.mDownloads.insert req.mHash c.fresh ∧
    c' = { c with
      queue := c.queue ++ [c.fresh], objects := c'.objects, fresh := c.fresh + 1,
      mDownloads := c'.mDownloads }
  := by
  have hfresh : c.fresh ∉ c.queue := fun hmem => lt_irrefl _ (h.lt_fresh _ hmem)
  have hlast : (c.queue ++ [c.fresh])[c.queue.length]? = some c.fresh := by
    rw [List.getElem?_append_right le_rfl, Nat.sub_self]
    rfl
  let control : FtFileControl Hash :=
    { mState := .downloading, mHash := req.mHash, mSize := req.mSize, mFlags := req.mFlags,
      mQueuePosition := 0 }
  have hcheck := checkQueueElement_eq
    (c := { { c with fresh := c.fresh + 1 }.setObject c.fresh control with
      queue := c.queue ++ [c.fresh] }) hlast (Function.update_self _ _ _)
  have hrun : c.addDownload req = .ok
      { ({ { c with fresh := c.fresh + 1 }.setObject c.fresh control with
          queue := c.queue ++ [c.fresh] }.setObject c.fresh
          (control.checked c.maxActiveDownloads c.queue.length)) with
        mDownloads := c.mDownloads.insert req.mHash c.fresh } := by
    rw [FtController.addDownload, addToQueue]
    change (FtController.checkQueueElement
      { { c with fresh := c.fresh + 1 }.setObject c.fresh control with
        queue := c.queue ++ [c.fresh] } ((c.queue ++ [c.fresh]).length - 1) >>= _) = _
    rw [List.length_append, List.length_singleton, Nat.add_sub_cancel, hcheck]
    rfl
  refine ⟨_, hrun, ⟨⟨?_, ?_⟩, ?_, ?_, ?_, ?_⟩, rfl, rfl⟩
  · change (c.queue ++ [c.fresh]).Nodup
    rw [(List.perm_append_singleton c.fresh c.queue).nodup_iff, List.nodup_cons]
    exact ⟨hfresh, h.placed.nodup⟩
  · intro pos fc hpos
    change (c.queue ++ [c.fresh])[pos]? = some fc at hpos
    change ∃ control', Function.update (Function.update c.objects c.fresh _) c.fresh _ fc =
      some control' ∧ _
    rw [List.getElem?_append] at hpos
    split at hpos
    case isTrue hlt =>
      obtain ⟨control', hobject, hgood⟩ := h.placed.good pos fc hpos
      have hne : fc ≠ c.fresh := by
        rintro rfl
        exact hfresh (List.mem_of_getElem? hpos)
      rw [Function.update_of_ne hne, Function.update_of_ne hne]
      exact ⟨control', hobject, hgood⟩
    case isFalse hle =>
      obtain ⟨hzero, rfl⟩ : pos - c.queue.length = 0 ∧ c.fresh = fc := by
        cases hsub : pos - c.queue.length with
        | zero => exact ⟨rfl, by simpa [hsub] using hpos⟩
        | succ n => simp [hsub] at hpos
      obtain rfl : pos = c.queue.length := by omega
      exact ⟨_, Function.update_self _ _ _, hP.checked _ _⟩
  · intro fc
    change fc ∈ c.queue ++ [c.fresh] ↔ ∃ hash, (c.mDownloads.insert req.mHash c.fresh).get? hash = _
    simp only [List.mem_append, List.mem_singleton, h.mem_iff, OrdMap.get?_insert]
    constructor
    · rintro (⟨hash, hget⟩ | rfl)
      · refine ⟨hash, ?_⟩
        rw [if_neg, hget]
        rintro rfl
        rw [hnew] at hget
        cases hget
      · exact ⟨req.mHash, if_pos rfl⟩
    · rintro ⟨hash, hget⟩
      split at hget
      · exact .inr (Option.some.inj hget).symm
      · exact .inl ⟨hash, hget⟩
  · intro hash hash' fc hget hget'
    change (c.mDownloads.insert req.mHash c.fresh).get? hash = _ at hget
    change (c.mDownloads.insert req.mHash c.fresh).get? hash' = _ at hget'
    have hold : ∀ hash, c.mDownloads.get? hash ≠ some c.fresh :=
      fun hash hget => hfresh ((h.mem_iff _).2 ⟨hash, hget⟩)
    rw [OrdMap.get?_insert] at hget hget'
    split at hget
    case isTrue heq =>
      split at hget'
      case isTrue heq' => rw [heq, heq']
      case isFalse =>
        rw [← hget] at hget'
        exact absurd hget' (hold hash')
    case isFalse =>
      split at hget'
      case isTrue =>
        rw [← hget'] at hget
        exact absurd hget (hold hash)
      case isFalse => exact h.injective hash hash' fc hget hget'
  · intro fc hfc
    rcases List.mem_append.1 hfc with hfc | hfc
    · exact (h.lt_fresh fc hfc).trans (Nat.lt_succ_self _)
    · rw [List.mem_singleton.1 hfc]
      exact Nat.lt_succ_self _
  · intro hash fc hget
    obtain ⟨hqueue, hlt, hobject⟩ := h.completed hash fc hget
    refine ⟨?_, hlt.trans (Nat.lt_succ_self _), ?_⟩
    · intro hmem
      rcases List.mem_append.1 hmem with hmem | hmem
      · exact hqueue hmem
      · exact hlt.ne (List.mem_singleton.1 hmem)
    · change (Function.update (Function.update c.objects c.fresh _) c.fresh _ fc).isSome
      rw [Function.update_of_ne hlt.ne, Function.update_of_ne hlt.ne]
      exact hobject

/-- A download whose `ftFileControl` is changed is taken out of the queue and of the map. -/
theorem WellQueued.remove (hP : Settled P c.maxActiveDownloads)
    (hget : c.mDownloads.get? hash = some fc) (hpos : c.queue[pos]? = some fc)
    (control : FtFileControl Hash) :
  ∃ c', (c.setObject fc control).queueRemove pos = .ok c' ∧
    c'.mDownloads = c.mDownloads ∧ c'.mCompleted = c.mCompleted ∧
    c'.maxActiveDownloads = c.maxActiveDownloads ∧ (c'.objects fc) = some control ∧
    ∀ c'' : FtController Hash, c''.queue = c'.queue → c''.fresh = c'.fresh →
      c''.mDownloads = c.mDownloads.erase hash → (∀ fc' ≠ fc, c''.objects fc' = c'.objects fc') →
      (∀ hash' fc', c''.mCompleted.get? hash' = some fc' →
        c.mCompleted.get? hash' = some fc' ∨ fc' = fc ∧ (c''.objects fc).isSome) →
      c''.WellQueued P
  := by
  obtain ⟨hgap, hfc, hperm, control', hobject⟩ := h.placed.others hpos
  have hgap' : (c.setObject fc control).Gap P (c.queue.eraseIdx pos) pos := by
    refine ⟨hgap.le, hgap.nodup, hgap.queue, ?_⟩
    intro pos' fc' hpos'
    have hne : fc' ≠ fc := by
      rintro rfl
      exact hfc (List.mem_of_getElem? hpos')
    rw [setObject_objects, Function.update_of_ne hne]
    exact hgap.good pos' fc' hpos'
  obtain ⟨c', hrun, hplaced, hqueue, hframe⟩ :=
    Gap.queueRemove (c := c.setObject fc control) hP.checked hgap'
  have hself : c'.objects fc = some control := by
    rw [hframe.objects fc hfc]
    exact Function.update_self _ _ _
  refine ⟨c', hrun, hframe.mDownloads, hframe.mCompleted, hframe.maxActiveDownloads, hself, ?_⟩
  intro c'' hqueue'' hfresh'' hdownloads'' hobjects'' hcompleted''
  rw [hqueue] at hqueue''
  refine ⟨⟨hqueue'' ▸ hgap.nodup, ?_⟩, ?_, ?_, ?_, ?_⟩
  · intro pos' fc' hpos'
    rw [hqueue''] at hpos'
    have hne : fc' ≠ fc := by
      rintro rfl
      exact hfc (List.mem_of_getElem? hpos')
    rw [hobjects'' fc' hne]
    rw [← hqueue] at hpos'
    exact hplaced.good pos' fc' hpos'
  · intro fc'
    rw [hqueue'', hdownloads'']
    constructor
    · intro hmem
      obtain ⟨hash', hget'⟩ := (h.mem_iff fc').1 (hperm.subset (List.mem_cons_of_mem fc hmem))
      refine ⟨hash', ?_⟩
      rw [OrdMap.get?_erase, if_neg, hget']
      rintro rfl
      rw [hget] at hget'
      exact hfc (Option.some.inj hget' ▸ hmem)
    · rintro ⟨hash', hget'⟩
      rw [OrdMap.get?_erase] at hget'
      split at hget'
      · cases hget'
      · rename_i hne
        have hmem := hperm.symm.subset ((h.mem_iff fc').2 ⟨hash', hget'⟩)
        rcases List.mem_cons.1 hmem with rfl | hmem
        · exact absurd (h.injective hash' hash fc' hget' hget) hne
        · exact hmem
  · rw [hdownloads'']
    intro hash' hash'' fc' hget' hget''
    exact h.injective hash' hash'' fc' (OrdMap.get?_of_get?_erase hget')
      (OrdMap.get?_of_get?_erase hget'')
  · intro fc' hfc'
    rw [hqueue''] at hfc'
    rw [hfresh'', hframe.fresh]
    exact h.lt_fresh fc' (hperm.subset (List.mem_cons_of_mem fc hfc'))
  · intro hash' fc' hget'
    rw [hqueue'', hfresh'', hframe.fresh]
    rcases hcompleted'' hash' fc' hget' with hold | ⟨rfl, hobject'⟩
    · obtain ⟨hnot, hlt, hobject'⟩ := h.completed hash' fc' hold
      have hne : fc' ≠ fc := by
        rintro rfl
        exact hnot (List.mem_of_getElem? hpos)
      have hrest : fc' ∉ c.queue.eraseIdx pos :=
        fun hmem => hnot (hperm.subset (List.mem_cons_of_mem fc hmem))
      refine ⟨hrest, hlt, ?_⟩
      rw [hobjects'' fc' hne, hframe.objects fc' hrest, setObject_objects,
        Function.update_of_ne hne]
      exact hobject'
    · exact ⟨hfc, h.lt_fresh fc' (List.mem_of_getElem? hpos), hobject'⟩

theorem WellQueued.fileCancel (hP : Settled P c.maxActiveDownloads) (hash : Hash)
    (finished : Bool) :
  c.Keeps P (c.fileCancel hash finished)
  := by
  rw [FtController.fileCancel]
  split
  case h_1 => exact h.keeps
  case h_2 fc hget =>
    split
    case isTrue => exact h.keeps
    case isFalse =>
      obtain ⟨control, hobject, -, hpos⟩ := h.download hP hget
      obtain ⟨c', hrun, hdownloads, hcompleted, hmax, -, hkeep⟩ :=
        h.remove hP hget hpos control
      have hsame : c.setObject fc control = c := by
        rw [setObject, ← hobject, Function.update_eq_self]
      rw [hsame] at hrun
      rw [object_eq hobject, ok_bind, hrun, ok_bind]
      refine ⟨_, rfl, hkeep _ rfl rfl ?_ ?_ ?_, hmax⟩
      · change c'.mDownloads.erase hash = _
        rw [hdownloads]
      · intro fc' hne
        exact Function.update_of_ne hne _ _
      · intro hash' fc' hget'
        rw [← hcompleted]
        exact .inl hget'

theorem WellQueued.completeFile (hP : Settled P c.maxActiveDownloads) (hash : Hash)
    (finished moved : Bool) :
  c.Keeps P (c.completeFile hash finished moved)
  := by
  rw [FtController.completeFile]
  split
  case h_1 => exact h.keeps
  case h_2 fc hget =>
    split
    case isTrue => exact h.keeps
    case isFalse =>
      obtain ⟨control, hobject, -, hpos⟩ := h.download hP hget
      obtain ⟨c', hrun, hdownloads, hcompleted, hmax, hself, hkeep⟩ :=
        h.remove hP hget hpos { control with
          mState := if 0 < control.mSize ∧ moved then .completed else .errorCompletion }
      rw [object_eq hobject, ok_bind]
      dsimp only
      rw [hrun, ok_bind]
      split
      · refine ⟨_, rfl, hkeep _ rfl rfl ?_ (fun _ _ => rfl) ?_, hmax⟩
        · change c'.mDownloads.erase hash = _
          rw [hdownloads]
        · intro hash' fc' hget'
          change (c'.mCompleted.insert _ fc).get? hash' = some fc' at hget'
          rw [OrdMap.get?_insert] at hget'
          split at hget'
          · exact .inr ⟨(Option.some.inj hget').symm, Option.isSome_iff_exists.2 ⟨_, hself⟩⟩
          · rw [← hcompleted]
            exact .inl hget'
      · refine ⟨_, rfl, hkeep _ rfl rfl ?_ ?_ ?_, hmax⟩
        · change c'.mDownloads.erase hash = _
          rw [hdownloads]
        · intro fc' hne
          exact Function.update_of_ne hne _ _
        · intro hash' fc' hget'
          rw [← hcompleted]
          exact .inl hget'

/-! ### States -/

theorem WellQueued.congr (hqueue : c'.queue = c.queue) (hobjects : c'.objects = c.objects)
    (hdownloads : c'.mDownloads = c.mDownloads) (hfresh : c'.fresh = c.fresh)
    (hcompleted : c'.mCompleted = c.mCompleted) :
  c'.WellQueued P
  := by
  refine ⟨⟨?_, ?_⟩, ?_, ?_, ?_, ?_⟩
  · rw [hqueue]
    exact h.placed.nodup
  · rw [hqueue, hobjects]
    exact h.placed.good
  · rw [hqueue, hdownloads]
    exact h.mem_iff
  · rw [hdownloads]
    exact h.injective
  · rw [hqueue, hfresh]
    exact h.lt_fresh
  · rw [hqueue, hfresh, hobjects, hcompleted]
    exact h.completed

theorem WellQueued.setState (hP : Settled P c.maxActiveDownloads)
    (hget : c.mDownloads.get? hash = some fc) {control : FtFileControl Hash}
    (hobject : c.objects fc = some control) {state : ControlState}
    (hstate : P control.mQueuePosition { control with mState := state }) :
  (c.setObject fc { control with mState := state }).WellQueued P
  := by
  refine ⟨⟨h.placed.nodup, ?_⟩, h.mem_iff, h.injective, h.lt_fresh, ?_⟩
  · intro pos fc' hpos
    obtain ⟨control', hobject', hgood⟩ := h.placed.good pos fc' hpos
    rw [setObject_objects]
    by_cases hsame : fc' = fc
    · subst hsame
      rw [hobject] at hobject'
      obtain rfl := Option.some.inj hobject'
      have hposition := hP.position pos control hgood
      subst hposition
      exact ⟨_, Function.update_self _ _ _, hstate⟩
    · rw [Function.update_of_ne hsame]
      exact ⟨control', hobject', hgood⟩
  · intro hash' fc' hget'
    obtain ⟨hqueue, hlt, hobject'⟩ := h.completed hash' fc' hget'
    have hne : fc' ≠ fc := by
      rintro rfl
      exact hqueue ((h.mem_iff fc').2 ⟨hash, hget⟩)
    refine ⟨hqueue, hlt, ?_⟩
    rw [setObject_objects, Function.update_of_ne hne]
    exact hobject'

end FtController

end Ft
