import Mathlib.Data.List.Nodup
import Mathlib.Data.List.Perm.Basic
import RetroShare.Lib.Machine

/-!
# Lifetimes

The events of a log touch objects, and some of them end the object that they touch.  A log is tidy
when no object is touched after it has been ended; then no object is ended twice.

`ledger_run` is the rule for a machine that keeps objects: when in every step the objects that are
ended, and those that are kept, are those that have been kept before and those that arrive, then the
whole run loses no object and ends none twice.  `ended_trace_of_due` bounds the time that it keeps
them.
-/

namespace Lifetimes

universe u v w

variable {ω : Type u} {α : Type v} (obj : ω → α) (final : ω → Bool)

/-- No object is touched after an event that ends it. -/
def Tidy (log : List ω) : Prop := log.Pairwise fun e e' => final e = true → obj e ≠ obj e'

/-- The objects that a log ends. -/
def ended (log : List ω) : List α := (log.filter final).map obj

variable {obj final} {log log' : List ω} {β : Type w}

@[simp]
theorem tidy_nil :
  Tidy obj final []
  := List.Pairwise.nil

theorem mem_ended {a : α} :
  a ∈ ended obj final log ↔ ∃ e ∈ log, final e = true ∧ obj e = a
  := by
  simp [ended, and_assoc]

theorem ended_append (log log' : List ω) :
  ended obj final (log ++ log') = ended obj final log ++ ended obj final log'
  := by
  simp [ended]

theorem ended_map {f : β → ω} (h : ∀ b, final (f b) = true) (l : List β) :
  ended obj final (l.map f) = l.map fun b => obj (f b)
  := by
  rw [ended, List.filter_eq_self.2, List.map_map]
  · rfl
  · intro e he
    obtain ⟨b, -, rfl⟩ := List.mem_map.1 he
    exact h b

/-- A log that is continued is tidy when what follows does not touch what has been ended. -/
theorem tidy_append :
  Tidy obj final (log ++ log') ↔ Tidy obj final log ∧ Tidy obj final log' ∧
    ∀ e ∈ log', obj e ∉ ended obj final log
  := by
  rw [Tidy, List.pairwise_append]
  apply and_congr Iff.rfl
  apply and_congr Iff.rfl
  constructor
  · intro h e' he' hended
    obtain ⟨e, he, hfinal, heq⟩ := mem_ended.1 hended
    exact h e he e' he' hfinal heq
  · intro h e he e' he' hfinal heq
    exact h e' he' (mem_ended.2 ⟨e, he, hfinal, heq⟩)

theorem Tidy.nodup_ended (h : Tidy obj final log) :
  (ended obj final log).Nodup
  := by
  rw [ended, List.Nodup, List.pairwise_map, List.pairwise_filter]
  apply h.imp
  intro e e' hne hfinal _
  exact hne hfinal

theorem ended_eq_nil (h : ∀ e ∈ log, final e = false) :
  ended obj final log = []
  := by
  rw [ended, List.filter_eq_nil_iff.2, List.map_nil]
  intro e he
  simp [h e he]

theorem tidy_of_forall (h : ∀ e ∈ log, final e = false) :
  Tidy obj final log
  := by
  apply List.pairwise_of_forall_mem_list
  intro e he e' _ hfinal
  rw [h e he] at hfinal
  cases hfinal

theorem tidy_of_nodup (h : (log.map obj).Nodup) :
  Tidy obj final log
  := by
  apply (List.pairwise_map.1 h).imp
  intro e e' hne _
  exact hne

theorem tidy_append_of_forall (h : ∀ e ∈ log, final e = false) (h' : Tidy obj final log') :
  Tidy obj final (log ++ log')
  := by
  rw [tidy_append, ended_eq_nil h]
  exact ⟨tidy_of_forall h, h', fun _ _ => List.not_mem_nil⟩

/-- The log of a loop whose iterations touch different objects. -/
theorem tidy_flatMap {f : β → List ω} {l : List β} (htidy : ∀ b ∈ l, Tidy obj final (f b))
    (hl : l.Pairwise fun b b' => ∀ e ∈ f b, final e = true → ∀ e' ∈ f b', obj e ≠ obj e') :
  Tidy obj final (l.flatMap f)
  := by
  rw [Tidy, List.pairwise_flatMap]
  constructor
  · exact htidy
  · apply hl.imp
    intro b b' h e he e' he' hfinal
    exact h e he hfinal e' he'

/-! ### Machines that keep objects -/

section Ledger

variable {σ : Type*} {ι : Type*} {m : Machine σ ι ω} {live : σ → List α} {arrivals : ι → List α}
  {C : σ → ι → Prop} {P : σ → Prop}

/-- The log of a machine whose inputs end different objects. -/
theorem tidy_trace (htidy : ∀ s i, Tidy obj final (m.emit s i)) {is : List ι}
    (his : is.Pairwise fun i i' => ∀ s s', ∀ e ∈ m.emit s i, final e = true →
      ∀ e' ∈ m.emit s' i', obj e ≠ obj e') (s : σ) :
  Tidy obj final (m.trace s is)
  := by
  induction is generalizing s with
  | nil => exact tidy_nil
  | cons i is ih =>
    rw [List.pairwise_cons] at his
    rw [Machine.trace_cons, tidy_append]
    refine ⟨htidy s i, ih his.2 _, ?_⟩
    intro e' he' hended
    obtain ⟨e, he, hfinal, heq⟩ := mem_ended.1 hended
    obtain ⟨s', i', hi', hemit⟩ := m.exists_of_mem_trace he'
    exact his.1 i' hi' s s' e he hfinal e' hemit heq

/-- A step that loses no object. -/
structure Balanced (obj : ω → α) (final : ω → Bool) (m : Machine σ ι ω) (live : σ → List α)
    (arrivals : ι → List α) (s : σ) (i : ι) : Prop where
  perm : (ended obj final (m.emit s i) ++ live (m.next s i)).Perm (live s ++ arrivals i)
  tidy : Tidy obj final (m.emit s i)
  touches : ∀ e ∈ m.emit s i, obj e ∈ live s ++ arrivals i

/-- A run of steps that lose no object loses none, and touches none after it has been ended. -/
theorem ledger_run
    (hstep : ∀ s i, P s → C s i → (live s ++ arrivals i).Nodup → P (m.next s i) ∧ Balanced obj final
      m live arrivals s i) :
  ∀ {s : σ} {is : List ι}, P s → m.Along C s is → (live s ++ is.flatMap arrivals).Nodup →
    Tidy obj final (m.trace s is) ∧
      (ended obj final (m.trace s is) ++ live (m.run s is)).Perm (live s ++ is.flatMap arrivals) ∧
      ∀ e ∈ m.trace s is, obj e ∈ live s ++ is.flatMap arrivals
  | s, [], _, _, _ => by simp [ended]
  | s, i :: is, hs, ⟨hi, his⟩, hnodup => by
      rw [List.flatMap_cons, ← List.append_assoc] at hnodup
      obtain ⟨hnext, hperm, htidy, htouches⟩ := hstep s i hs hi (List.nodup_append'.1 hnodup).1
      have hperm' := hperm.append_right (is.flatMap arrivals)
      rw [List.append_assoc] at hperm'
      have hnodup' := hperm'.nodup_iff.2 hnodup
      obtain ⟨-, hlive, hdisjoint⟩ := List.nodup_append'.1 hnodup'
      obtain ⟨htidy', hrun, htouches'⟩ := ledger_run hstep hnext his hlive
      rw [Machine.trace_cons, Machine.run_cons, List.flatMap_cons, ← List.append_assoc]
      refine ⟨?_, ?_, ?_⟩
      · rw [tidy_append]
        refine ⟨htidy, htidy', ?_⟩
        intro e he hended
        exact hdisjoint hended (htouches' e he)
      · rw [ended_append, List.append_assoc]
        exact (hrun.append_left _).trans hperm'
      · intro e he
        rcases List.mem_append.1 he with he | he
        · exact List.mem_append_left _ (htouches e he)
        · apply hperm'.subset
          exact List.mem_append_right _ (htouches' e he)

/-- An object that has at most `n` steps left that satisfy `tick` is ended in a run of `n` such
steps. -/
theorem ended_trace_of_due {tick : ι → Bool} {due : σ → α → Nat → Prop}
    (hpos : ∀ s a n, due s a n → n ≠ 0) (hnext : ∀ s i, P s → C s i → P (m.next s i))
    (hstep : ∀ s i a n, P s → C s i → due s a n → a ∈ ended obj final (m.emit s i) ∨ due (m.next s
      i) a (if tick i = true then n - 1 else n)) :
  ∀ {s : σ} {is : List ι} {a : α} {n : Nat}, P s → m.Along C s is → due s a n →
    n ≤ is.countP tick → a ∈ ended obj final (m.trace s is)
  | s, [], a, n, _, _, hdue, hle => absurd (Nat.le_zero.1 hle) (hpos s a n hdue)
  | s, i :: is, a, n, hs, ⟨hi, his⟩, hdue, hle => by
      rw [Machine.trace_cons, ended_append]
      rcases hstep s i a n hs hi hdue with hended | hdue'
      · exact List.mem_append_left _ hended
      · apply List.mem_append_right
        apply ended_trace_of_due hpos hnext hstep (hnext s i hs hi) his hdue'
        rw [List.countP_cons] at hle
        split <;> simp_all

end Ledger

end Lifetimes
