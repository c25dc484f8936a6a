import RetroShare.Ft.DownloadQueue

/-!
# Positions in the queue of downloads

What the operations on `_queue` do, for any property of the positions and the `ftFileControl`s that
`locked_checkQueueElement` establishes: `Placed` says that every element of the queue has it at its
own position.  A loop that moves elements leaves a gap that goes through the queue (`Gap`): the
elements before the gap have the property at their positions, and those behind it had it one
position further back.
-/

namespace Ft

namespace FtController

variable {Hash : Type} [LinearOrder Hash] {c c' : FtController Hash}
  {P : Nat → FtFileControl Hash → Prop} {fcs : List Nat} {fc pos : Nat}
  {control : FtFileControl Hash}

/-- The controllers differ only in the queue and in the `ftFileControl`s at `fcs`. -/
structure Frame (c c' : FtController Hash) (fcs : List Nat) : Prop where
  others : c' = { c with queue := c'.queue, objects := c'.objects }
  objects : ∀ fc ∉ fcs, c'.objects fc = c.objects fc

/-- Every element of the queue is there once and has the property at its position. -/
structure Placed (P : Nat → FtFileControl Hash → Prop) (c : FtController Hash) : Prop where
  nodup : c.queue.Nodup
  good : ∀ pos fc, c.queue[pos]? = some fc → ∃ control, c.objects fc = some control ∧ P pos control

/-- The position of an element when there is a gap. -/
def slot (gap pos : Nat) : Nat := if pos < gap then pos else pos + 1

/-- The queue has the elements `rest` and another one in the gap. -/
structure Gap (P : Nat → FtFileControl Hash → Prop) (c : FtController Hash) (rest : List Nat)
    (gap : Nat) : Prop where
  le : gap ≤ rest.length
  nodup : rest.Nodup
  queue : ∃ junk, c.queue = rest.take gap ++ junk :: rest.drop gap
  good : ∀ pos fc, rest[pos]? = some fc →
    ∃ control, c.objects fc = some control ∧ P (slot gap pos) control

theorem Frame.refl (c : FtController Hash) (fcs : List Nat) :
  c.Frame c fcs
  := ⟨rfl, fun _ _ => rfl⟩

section

variable (h : c.Frame c' fcs)

include h

theorem Frame.trans {c'' : FtController Hash} (h' : c'.Frame c'' fcs) :
  c.Frame c'' fcs
  := by
  constructor
  · rw [h'.others, h.others]
  · intro fc hfc
    rw [h'.objects fc hfc, h.objects fc hfc]

theorem Frame.mono {fcs' : List Nat} (hsub : ∀ fc ∈ fcs, fc ∈ fcs') :
  c.Frame c' fcs'
  := ⟨h.others, fun fc hfc => h.objects fc fun hmem => hfc (hsub fc hmem)⟩

theorem Frame.mDownloads :
  c'.mDownloads = c.mDownloads
  := by rw [h.others]

theorem Frame.mCompleted :
  c'.mCompleted = c.mCompleted
  := by rw [h.others]

theorem Frame.maxActiveDownloads :
  c'.maxActiveDownloads = c.maxActiveDownloads
  := by rw [h.others]

theorem Frame.fresh :
  c'.fresh = c.fresh
  := by rw [h.others]

end

/-! ### Single elements -/

theorem ok_bind {α β : Type} (x : α) (f : α → Except Fault β) :
  (Except.ok x >>= f) = f x
  := rfl

@[simp]
theorem setObject_objects (fc : Nat) (control : FtFileControl Hash) :
  (c.setObject fc control).objects = Function.update c.objects fc (some control)
  := rfl

@[simp]
theorem setObject_queue (fc : Nat) (control : FtFileControl Hash) :
  (c.setObject fc control).queue = c.queue
  := rfl

theorem element_eq (h : c.queue[pos]? = some fc) :
  c.element pos = .ok fc
  := by
  rw [element, h]

theorem object_eq (h : c.objects fc = some control) :
  c.object fc = .ok control
  := by
  rw [object, h]

theorem setElement_eq (h : pos < c.queue.length) (fc : Nat) :
  c.setElement pos fc = .ok { c with queue := c.queue.set pos fc }
  := by
  rw [setElement, if_pos h]

theorem checkQueueElement_eq (h : c.queue[pos]? = some fc) (hobject : c.objects fc = some control) :
  c.checkQueueElement pos = .ok (c.setObject fc (control.checked c.maxActiveDownloads pos))
  := by
  rw [checkQueueElement, element_eq h]
  change (c.object fc).bind _ = _
  rw [object_eq hobject]
  rfl

theorem put_eq {front behind : List Nat} {junk : Nat} (hqueue : c.queue = front ++ junk :: behind)
    (hobject : c.objects fc = some control) :
  (do
    let c ← c.setElement front.length fc
    c.checkQueueElement front.length) =
    .ok ({ c with queue := front ++ fc :: behind }.setObject fc
      (control.checked c.maxActiveDownloads front.length))
  := by
  have hlt : front.length < c.queue.length := by
    rw [hqueue]
    simp
  have hset : c.queue.set front.length fc = front ++ fc :: behind := by
    rw [hqueue]
    simp
  rw [setElement_eq hlt, hset]
  apply checkQueueElement_eq (c := { c with queue := front ++ fc :: behind })
  · simp
  · exact hobject

/-! ### The gap -/

section

variable {rest : List Nat} {gap : Nat}

theorem Gap.length_queue (h : c.Gap P rest gap) :
  c.queue.length = rest.length + 1
  := by
  obtain ⟨junk, hqueue⟩ := h.queue
  have hlength := congrArg List.length (List.take_append_drop gap rest)
  rw [List.length_append] at hlength
  rw [hqueue, List.length_append, List.length_cons]
  omega

theorem Gap.getElem?_slot (h : c.Gap P rest gap) (pos : Nat) :
  c.queue[slot gap pos]? = rest[pos]?
  := by
  obtain ⟨junk, hqueue⟩ := h.queue
  have hgap : (rest.take gap).length = gap := List.length_take_of_le h.le
  rw [hqueue, slot]
  split
  case isTrue hpos => rw [List.getElem?_append_left (by omega), List.getElem?_take_of_lt hpos]
  case isFalse hpos =>
    rw [List.getElem?_append_right (by omega), hgap,
      show pos + 1 - gap = (pos - gap) + 1 by omega, List.getElem?_cons_succ, List.getElem?_drop]
    congr 1
    omega

theorem Gap.move {gap' : Nat} (h : c.Gap P rest gap) (hpos : rest[pos]? = some fc)
    (hgap : gap = pos ∧ gap' = pos + 1 ∨ gap = pos + 1 ∧ gap' = pos)
    (hP : ∀ control : FtFileControl Hash, P gap (control.checked c.maxActiveDownloads gap)) :
  ∃ c', (do
      let c ← c.setElement gap fc
      c.checkQueueElement gap) = .ok c' ∧ c'.Gap P rest gap' ∧ c.Frame c' rest
  := by
  obtain ⟨hlt, hget⟩ := List.getElem?_eq_some_iff.1 hpos
  obtain ⟨junk, hqueue⟩ := h.queue
  obtain ⟨control, hobject, -⟩ := h.good pos fc hpos
  have hlength : (rest.take gap).length = gap := List.length_take_of_le h.le
  have hput := put_eq hqueue hobject
  rw [hlength] at hput
  refine ⟨_, hput, ⟨by omega, h.nodup, ⟨fc, ?_⟩, ?_⟩, rfl, ?_⟩
  · change rest.take gap ++ fc :: rest.drop gap = _
    have hdrop : rest.drop pos = fc :: rest.drop (pos + 1) := by
      rw [List.drop_eq_getElem_cons hlt, hget]
    have htake : rest.take (pos + 1) = rest.take pos ++ [fc] := by
      rw [List.take_succ_eq_append_getElem hlt, hget]
    rcases hgap with ⟨rfl, rfl⟩ | ⟨rfl, rfl⟩
    · rw [hdrop, htake, List.append_assoc]
      rfl
    · rw [hdrop, htake, List.append_assoc]
      rfl
  · intro pos' fc' hpos'
    rw [setObject_objects]
    by_cases hsame : fc' = fc
    · subst hsame
      have hpp : pos' = pos := by
        obtain ⟨hlt', hget'⟩ := List.getElem?_eq_some_iff.1 hpos'
        exact h.nodup.getElem_inj_iff.1 (hget'.trans hget.symm)
      have hslot : slot gap' pos' = gap := by
        rw [slot]
        split <;> omega
      refine ⟨_, Function.update_self _ _ _, ?_⟩
      rw [hslot]
      apply hP
    · have hne : pos' ≠ pos := by
        rintro rfl
        rw [hpos] at hpos'
        exact hsame (Option.some.inj hpos').symm
      have hslot : slot gap' pos' = slot gap pos' := by
        rw [slot, slot]
        split <;> split <;> omega
      rw [Function.update_of_ne hsame, hslot]
      exact h.good pos' fc' hpos'
  · intro fc' hfc'
    apply Function.update_of_ne
    rintro rfl
    exact hfc' (List.mem_of_getElem? hpos)

/-- An element that is not in the queue is put into the gap and checked. -/
theorem Gap.close (h : c.Gap P rest gap) (hfc : fc ∉ rest) (hobject : c.objects fc = some control)
    (hP : ∀ control : FtFileControl Hash, P gap (control.checked c.maxActiveDownloads gap)) :
  ∃ c', (do
      let c ← c.setElement gap fc
      c.checkQueueElement gap) = .ok c' ∧ c'.Placed P ∧
    c'.queue = rest.take gap ++ fc :: rest.drop gap ∧ c.Frame c' (fc :: rest)
  := by
  obtain ⟨junk, hqueue⟩ := h.queue
  have hlength : (rest.take gap).length = gap := List.length_take_of_le h.le
  have hput := put_eq hqueue hobject
  rw [hlength] at hput
  have hfilled : ({ c with queue := rest.take gap ++ fc :: rest.drop gap } : FtController Hash).Gap
      P rest gap := ⟨h.le, h.nodup, ⟨fc, rfl⟩, h.good⟩
  refine ⟨_, hput, ⟨?_, ?_⟩, rfl, rfl, ?_⟩
  · change (rest.take gap ++ fc :: rest.drop gap).Nodup
    rw [List.nodup_middle, List.take_append_drop, List.nodup_cons]
    exact ⟨hfc, h.nodup⟩
  · intro pos fc' hpos
    rw [setObject_objects]
    rw [setObject_queue] at hpos
    by_cases hgap : pos = gap
    · subst hgap
      have hself : (rest.take pos ++ fc :: rest.drop pos)[pos]? = some fc := by
        rw [List.getElem?_append_right (by omega), hlength, Nat.sub_self]
        rfl
      obtain rfl : fc = fc' := Option.some.inj (hself.symm.trans hpos)
      exact ⟨_, Function.update_self _ _ _, hP _⟩
    · obtain ⟨pos', rfl⟩ : ∃ pos', slot gap pos' = pos := by
        rcases lt_or_gt_of_ne hgap with hlt | hlt
        · exact ⟨pos, if_pos hlt⟩
        · refine ⟨pos - 1, ?_⟩
          rw [slot, if_neg (by omega)]
          omega
      have hrest := hfilled.getElem?_slot pos'
      rw [hpos] at hrest
      have hne : fc' ≠ fc := by
        rintro rfl
        exact hfc (List.mem_of_getElem? hrest.symm)
      obtain ⟨control', hcontrol', hgood⟩ := h.good _ fc' hrest.symm
      exact ⟨control', by rw [Function.update_of_ne hne, hcontrol'], hgood⟩
  · intro fc' hfc'
    apply Function.update_of_ne
    rintro rfl
    exact hfc' List.mem_cons_self

theorem Gap.dropLast (h : c.Gap P rest rest.length) :
  ({ c with queue := c.queue.dropLast } : FtController Hash).Placed P ∧ c.queue.dropLast = rest
  := by
  obtain ⟨junk, hqueue⟩ := h.queue
  rw [List.take_length, List.drop_length] at hqueue
  have hrest : c.queue.dropLast = rest := by
    rw [hqueue, List.dropLast_concat]
  refine ⟨⟨hrest ▸ h.nodup, ?_⟩, hrest⟩
  intro pos fc hpos
  change c.queue.dropLast[pos]? = some fc at hpos
  rw [hrest] at hpos
  obtain ⟨hlt, -⟩ := List.getElem?_eq_some_iff.1 hpos
  obtain ⟨control, hobject, hgood⟩ := h.good pos fc hpos
  rw [slot, if_pos hlt] at hgood
  exact ⟨control, hobject, hgood⟩

theorem Placed.toGap (h : c.Placed P) (hpos : pos < c.queue.length) :
  c.Gap P (c.queue.eraseIdx pos) pos
  := by
  refine ⟨?_, h.nodup.eraseIdx pos, ⟨c.queue[pos], ?_⟩, ?_⟩
  · rw [List.length_eraseIdx_of_lt hpos]
    omega
  · rw [List.eraseIdx_eq_take_drop_succ]
    have hlength : (c.queue.take pos).length = pos := List.length_take_of_le hpos.le
    rw [List.take_left' hlength, List.drop_left' hlength, List.getElem_cons_drop,
      List.take_append_drop]
  · intro pos' fc hfc
    rw [List.getElem?_eraseIdx] at hfc
    rw [slot]
    split at hfc
    case isTrue hlt =>
      rw [if_pos hlt]
      exact h.good pos' fc hfc
    case isFalse hlt =>
      rw [if_neg hlt]
      exact h.good (pos' + 1) fc hfc

end

theorem Placed.others (h : c.Placed P) (hpos : c.queue[pos]? = some fc) :
  c.Gap P (c.queue.eraseIdx pos) pos ∧ fc ∉ c.queue.eraseIdx pos ∧
    (fc :: c.queue.eraseIdx pos).Perm c.queue ∧ ∃ control, c.objects fc = some control
  := by
  obtain ⟨hlt, rfl⟩ := List.getElem?_eq_some_iff.1 hpos
  have hperm := List.getElem_cons_eraseIdx_perm hlt
  have hnodup := hperm.nodup_iff.2 h.nodup
  obtain ⟨control, hobject, -⟩ := h.good pos _ hpos
  exact ⟨h.toGap hlt, (List.nodup_cons.1 hnodup).1, hperm, control, hobject⟩

/-! ### The loops -/

section

variable {rest : List Nat}
  (hP : ∀ pos (control : FtFileControl Hash), P pos (control.checked c.maxActiveDownloads pos))
include hP

theorem Gap.moveForwards {gap n : Nat} (h : c.Gap P rest gap) (hn : gap + n = rest.length) :
  ∃ c', c.moveForwards gap n = .ok c' ∧ c'.Gap P rest rest.length ∧ c.Frame c' rest
  := by
  induction n generalizing c gap with
  | zero =>
    obtain rfl : gap = rest.length := hn
    exact ⟨c, rfl, h, .refl c rest⟩
  | succ n ih =>
    have hlt : gap < rest.length := by omega
    have hget : rest[gap]? = some rest[gap] := List.getElem?_eq_getElem hlt
    have hnext : c.queue[gap + 1]? = some rest[gap] := by
      rw [← hget, ← h.getElem?_slot gap, slot, if_neg (lt_irrefl gap)]
    obtain ⟨c₁, hstep, hgap, hframe⟩ := h.move hget (.inl ⟨rfl, rfl⟩) (hP gap)
    obtain ⟨c₂, hrun, hend, hframe'⟩ := ih (by rw [hframe.maxActiveDownloads]; exact hP) hgap
      (by omega)
    refine ⟨c₂, ?_, hend, hframe.trans hframe'⟩
    rw [FtController.moveForwards, element_eq hnext]
    change (c.setElement gap rest[gap] >>= fun c => c.checkQueueElement gap >>= fun c =>
      c.moveForwards (gap + 1) n) = _
    rw [← bind_assoc, hstep]
    exact hrun

theorem Gap.moveBackwards {n : Nat} (h : c.Gap P rest (pos + n)) :
  ∃ c', c.moveBackwards pos n = .ok c' ∧ c'.Gap P rest pos ∧ c.Frame c' rest
  := by
  induction n generalizing c with
  | zero => exact ⟨c, rfl, h, .refl c rest⟩
  | succ n ih =>
    have hle := h.le
    have hlt : pos + n < rest.length := by omega
    have hget : rest[pos + n]? = some rest[pos + n] := List.getElem?_eq_getElem hlt
    have hprevious : c.queue[pos + n]? = some rest[pos + n] := by
      rw [← hget, ← h.getElem?_slot (pos + n), slot, if_pos (by omega)]
    obtain ⟨c₁, hstep, hgap, hframe⟩ := h.move hget (.inr ⟨rfl, rfl⟩) (hP _)
    obtain ⟨c₂, hrun, hend, hframe'⟩ := ih (by rw [hframe.maxActiveDownloads]; exact hP) hgap
    refine ⟨c₂, ?_, hend, hframe.trans hframe'⟩
    rw [FtController.moveBackwards, element_eq hprevious]
    change (c.setElement (pos + n + 1) rest[pos + n] >>= fun c =>
      c.checkQueueElement (pos + n + 1) >>= fun c => c.moveBackwards pos n) = _
    rw [← bind_assoc]
    rw [← Nat.add_assoc] at hstep
    rw [hstep]
    exact hrun

/-! ### The operations -/

theorem Gap.queueRemove (h : c.Gap P rest pos) :
  ∃ c', c.queueRemove pos = .ok c' ∧ c'.Placed P ∧ c'.queue = rest ∧ c.Frame c' rest
  := by
  have hlength := h.length_queue
  obtain ⟨c₁, hrun, hend, hframe⟩ := h.moveForwards hP (Nat.add_sub_cancel' h.le)
  obtain ⟨hplaced, hqueue⟩ := hend.dropLast
  refine ⟨_, ?_, hplaced, hqueue, ?_⟩
  · rw [FtController.queueRemove, if_neg (by omega), hlength, Nat.add_sub_cancel]
    rw [hrun]
    rfl
  · constructor
    · rw [hframe.others]
    · exact hframe.objects

section

variable {pos fc : Nat} (h : c.Placed P) (hpos : c.queue[pos]? = some fc)
include h hpos

/-- The element goes to the front. -/
theorem Placed.topQueue :
  ∃ c', c.topQueue pos = .ok c' ∧ c'.Placed P ∧ c'.queue.Perm c.queue ∧ c.Frame c' c.queue
  := by
  obtain ⟨hgap, hfc, hperm, control, hobject⟩ := h.others hpos
  have hzero : c.Gap P (c.queue.eraseIdx pos) (0 + pos) := by
    rw [Nat.zero_add]
    exact hgap
  obtain ⟨c₁, hrun, hfront, hframe⟩ := hzero.moveBackwards hP
  obtain ⟨c₂, hclose, hplaced, hqueue, hframe'⟩ := hfront.close hfc
    ((hframe.objects fc hfc).trans hobject) (by rw [hframe.maxActiveDownloads]; exact hP 0)
  refine ⟨c₂, ?_, hplaced, ?_, ?_⟩
  · rw [FtController.topQueue, element_eq hpos]
    change (c.moveBackwards 0 pos >>= fun c => c.setElement 0 fc >>= fun c =>
      c.checkQueueElement 0) = _
    rw [hrun]
    exact hclose
  · rw [hqueue]
    exact hperm
  · apply (hframe.mono fun fc' h => List.mem_cons_of_mem fc h).trans hframe' |>.mono
    exact fun fc' h => hperm.subset h

/-- The element goes to the end. -/
theorem Placed.bottomQueue :
  ∃ c', c.bottomQueue pos = .ok c' ∧ c'.Placed P ∧ c'.queue.Perm c.queue ∧ c.Frame c' c.queue
  := by
  obtain ⟨hgap, hfc, hperm, control, hobject⟩ := h.others hpos
  have hlength := hgap.length_queue
  obtain ⟨c₁, hrun, hend, hframe⟩ := hgap.moveForwards hP (Nat.add_sub_cancel' hgap.le)
  obtain ⟨c₂, hclose, hplaced, hqueue, hframe'⟩ := hend.close hfc
    ((hframe.objects fc hfc).trans hobject) (by rw [hframe.maxActiveDownloads]; exact hP _)
  refine ⟨c₂, ?_, hplaced, ?_, ?_⟩
  · rw [FtController.bottomQueue, element_eq hpos, hlength, Nat.add_sub_cancel]
    change (c.moveForwards pos _ >>= fun c => c.setElement (c.queue.length - 1) fc >>= fun c =>
      c.checkQueueElement (c.queue.length - 1)) = _
    rw [hrun]
    have hlast : c₁.queue.length - 1 = (c.queue.eraseIdx pos).length := by
      rw [hend.length_queue, Nat.add_sub_cancel]
    have hlt : c₁.queue.length - 1 < c₁.queue.length := by
      rw [hend.length_queue]
      omega
    have hset := setElement_eq hlt fc
    change (c₁.setElement (c₁.queue.length - 1) fc >>= fun c =>
      c.checkQueueElement (c.queue.length - 1)) = _
    rw [← hlast, hset] at hclose
    rw [hset]
    change FtController.checkQueueElement { c₁ with queue := _ }
      ((c₁.queue.set (c₁.queue.length - 1) fc).length - 1) = _
    rw [List.length_set]
    exact hclose
  · rw [hqueue, List.take_length, List.drop_length]
    exact (List.perm_append_singleton fc _).trans hperm
  · apply (hframe.mono fun fc' h => List.mem_cons_of_mem fc h).trans hframe' |>.mono
    exact fun fc' h => hperm.subset h

theorem Placed.swapQueue {pos' fc' : Nat} (hpos' : c.queue[pos']? = some fc') :
  ∃ c', c.swapQueue pos pos' = .ok c' ∧ c'.Placed P ∧ c'.queue.Perm c.queue ∧ c.Frame c' c.queue
  := by
  by_cases hsame : pos = pos'
  · exact ⟨c, by rw [FtController.swapQueue, if_pos hsame], h, .refl _, .refl c _⟩
  obtain ⟨hlt, hget⟩ := List.getElem?_eq_some_iff.1 hpos
  obtain ⟨hlt', hget'⟩ := List.getElem?_eq_some_iff.1 hpos'
  obtain ⟨control, hobject, -⟩ := h.good pos fc hpos
  obtain ⟨control', hobject', -⟩ := h.good pos' fc' hpos'
  have hne : fc ≠ fc' := by
    rintro rfl
    exact hsame (h.nodup.getElem_inj_iff.1 (hget.trans hget'.symm))
  have hperm : ((c.queue.set pos fc').set pos' fc).Perm c.queue := by
    rw [← hget, ← hget']
    exact List.set_set_perm hlt hlt'
  have hfirst : ((c.queue.set pos fc').set pos' fc)[pos]? = some fc' := by
    rw [List.getElem?_set_ne (Ne.symm hsame), List.getElem?_set_self hlt]
  have hsecond : ((c.queue.set pos fc').set pos' fc)[pos']? = some fc :=
    List.getElem?_set_self (by rw [List.length_set]; exact hlt')
  refine ⟨({ c with queue := (c.queue.set pos fc').set pos' fc }.setObject fc'
    (control'.checked c.maxActiveDownloads pos)).setObject fc
      (control.checked c.maxActiveDownloads pos'), ?_, ⟨?_, ?_⟩, hperm, rfl, ?_⟩
  · rw [FtController.swapQueue, if_neg hsame, element_eq hpos, element_eq hpos']
    change (c.setElement pos fc' >>= fun c => c.setElement pos' fc >>= fun c =>
      c.checkQueueElement pos >>= fun c => c.checkQueueElement pos') = _
    rw [setElement_eq hlt]
    change (FtController.setElement { c with queue := c.queue.set pos fc' } pos' fc >>= fun c =>
      c.checkQueueElement pos >>= fun c => c.checkQueueElement pos') = _
    rw [setElement_eq (by rw [List.length_set]; exact hlt')]
    have hcheck := checkQueueElement_eq (c := { c with queue := _ }) hfirst hobject'
    have hcheck' := checkQueueElement_eq
      (c := { c with queue := (c.queue.set pos fc').set pos' fc }.setObject fc'
        (control'.checked c.maxActiveDownloads pos)) hsecond
      ((Function.update_of_ne hne _ _).trans hobject)
    change (FtController.checkQueueElement { c with queue := _ } pos >>= fun c =>
      c.checkQueueElement pos') = _
    rw [hcheck]
    exact hcheck'
  · exact hperm.nodup_iff.2 h.nodup
  · intro pos'' fc'' hpos''
    change ((c.queue.set pos fc').set pos' fc)[pos'']? = some fc'' at hpos''
    rw [setObject_objects, setObject_objects]
    by_cases heq' : pos'' = pos'
    · subst heq'
      rw [hsecond] at hpos''
      obtain rfl : fc = fc'' := Option.some.inj hpos''
      exact ⟨_, Function.update_self _ _ _, hP _ _⟩
    · by_cases heq : pos'' = pos
      · subst heq
        rw [hfirst] at hpos''
        obtain rfl : fc' = fc'' := Option.some.inj hpos''
        rw [Function.update_of_ne hne.symm]
        exact ⟨_, Function.update_self _ _ _, hP _ _⟩
      · rw [List.getElem?_set_ne (Ne.symm heq'), List.getElem?_set_ne (Ne.symm heq)] at hpos''
        obtain ⟨hlt'', hget''⟩ := List.getElem?_eq_some_iff.1 hpos''
        have hne₁ : fc'' ≠ fc := by
          rintro rfl
          exact heq (h.nodup.getElem_inj_iff.1 (hget''.trans hget.symm))
        have hne₂ : fc'' ≠ fc' := by
          rintro rfl
          exact heq' (h.nodup.getElem_inj_iff.1 (hget''.trans hget'.symm))
        rw [Function.update_of_ne hne₁, Function.update_of_ne hne₂]
        exact h.good pos'' fc'' hpos''
  · intro fc'' hfc''
    have hfc : fc'' ≠ fc := by
      rintro rfl
      exact hfc'' (List.mem_of_getElem? hpos)
    have hfc' : fc'' ≠ fc' := by
      rintro rfl
      exact hfc'' (List.mem_of_getElem? hpos')
    exact (Function.update_of_ne hfc _ _).trans (Function.update_of_ne hfc' _ _)

end

end

end FtController

end Ft
