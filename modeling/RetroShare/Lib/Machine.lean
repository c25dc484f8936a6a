import Mathlib.Algebra.Order.Ring.Nat
import Mathlib.Data.List.Infix

/-!
# Machines

A machine reads inputs one at a time; every input takes a state to the next one and emits
a list of events.  `m.run s is` is the state after the inputs `is` and `m.trace s is` the
events emitted on the way.  `m.Along C s is` says that every step of the run satisfies
`C`, and `Machine.run_of_step` is the induction rule: what every such step preserves, the
run preserves.  `m.Until Q D s is` says that `Q` holds along the run until a step that satisfies
`D`.
-/

universe u v w

/-- A machine with states `σ`, inputs `ι` and events `ω`. -/
structure Machine (σ : Type u) (ι : Type v) (ω : Type w) where
  /-- The next state and the emitted events. -/
  step : σ → ι → σ × List ω

namespace Machine

variable {σ : Type u} {ι : Type v} {ω : Type w} (m : Machine σ ι ω) (s : σ) {is : List ι}

/-- The state after one input. -/
def next (s : σ) (i : ι) : σ := (m.step s i).1

/-- The events of one input. -/
def emit (s : σ) (i : ι) : List ω := (m.step s i).2

/-- The state after a list of inputs. -/
def run : σ → List ι → σ
  | s, [] => s
  | s, i :: is => run (m.next s i) is

/-- The events of a list of inputs. -/
def trace : σ → List ι → List ω
  | _, [] => []
  | s, i :: is => m.emit s i ++ trace (m.next s i) is

/-- Every step of the run satisfies `C`. -/
def Along (C : σ → ι → Prop) : σ → List ι → Prop
  | _, [] => True
  | s, i :: is => C s i ∧ Along C (m.next s i) is

instance decidableAlong (C : σ → ι → Prop) [∀ s i, Decidable (C s i)] :
    ∀ (s : σ) (is : List ι), Decidable (m.Along C s is)
  | _, [] => .isTrue trivial
  | s, _ :: is => @instDecidableAnd _ _ _ (decidableAlong C (m.next s _) is)

@[simp]
theorem run_nil :
  m.run s [] = s
  := rfl

@[simp]
theorem run_cons (i : ι) (is : List ι) :
  m.run s (i :: is) = m.run (m.next s i) is
  := rfl

@[simp]
theorem trace_nil :
  m.trace s [] = []
  := rfl

@[simp]
theorem trace_cons (i : ι) (is : List ι) :
  m.trace s (i :: is) = m.emit s i ++ m.trace (m.next s i) is
  := rfl

@[simp]
theorem along_nil (C : σ → ι → Prop) (s : σ) :
  m.Along C s []
  := trivial

@[simp]
theorem along_cons (C : σ → ι → Prop) (s : σ) (i : ι) (is : List ι) :
  m.Along C s (i :: is) ↔ C s i ∧ m.Along C (m.next s i) is
  := Iff.rfl

theorem run_append (is js : List ι) :
  m.run s (is ++ js) = m.run (m.run s is) js
  := by
  induction is generalizing s with
  | nil => rfl
  | cons i is ih => apply ih

theorem trace_append (is js : List ι) :
  m.trace s (is ++ js) = m.trace s is ++ m.trace (m.run s is) js
  := by
  induction is generalizing s with
  | nil => rfl
  | cons i is ih => simp [ih]

theorem along_append (C : σ → ι → Prop) (s : σ) (is js : List ι) :
  m.Along C s (is ++ js) ↔ m.Along C s is ∧ m.Along C (m.run s is) js
  := by
  induction is generalizing s with
  | nil => simp
  | cons i is ih => simp [ih, and_assoc]

/-- Every event of a run is one of a step. -/
theorem exists_of_mem_trace {s : σ} {e : ω} (h : e ∈ m.trace s is) :
  ∃ s' i, i ∈ is ∧ e ∈ m.emit s' i
  := by
  induction is generalizing s with
  | nil => cases h
  | cons i is ih =>
    rcases List.mem_append.1 h with h | h
    · exact ⟨s, i, List.mem_cons_self, h⟩
    · obtain ⟨s', i', hi', he⟩ := ih h
      exact ⟨s', i', List.mem_cons_of_mem i hi', he⟩

/-- Every step of a run satisfies `C` when the step after every part of the run does. -/
theorem along_iff (C : σ → ι → Prop) (s : σ) (is : List ι) :
  m.Along C s is ↔ ∀ js i ks, is = js ++ i :: ks → C (m.run s js) i
  := by
  constructor
  · rintro h js i ks rfl
    rw [along_append, along_cons] at h
    exact h.2.1
  · intro h
    induction is generalizing s with
    | nil => trivial
    | cons i is ih =>
      constructor
      · apply h [] i is rfl
      · apply ih
        rintro js i' ks rfl
        apply h (i :: js) i' ks rfl

variable {m} {C C' : σ → ι → Prop} {P : σ → Prop}

theorem Along.mono (h : ∀ s i, C s i → C' s i) :
  ∀ {s : σ} {is : List ι}, m.Along C s is → m.Along C' s is
  | _, [], _ => trivial
  | _, _ :: _, ⟨hi, his⟩ => ⟨h _ _ hi, his.mono h⟩

theorem Along.and :
  ∀ {s : σ} {is : List ι}, m.Along C s is → m.Along C' s is →
    m.Along (fun s i => C s i ∧ C' s i) s is
  | _, [], _, _ => trivial
  | _, _ :: _, ⟨hi, his⟩, ⟨hi', his'⟩ => ⟨⟨hi, hi'⟩, his.and his'⟩

theorem along_of_forall (h : ∀ s i, C s i) :
  ∀ (s : σ) (is : List ι), m.Along C s is
  | _, [] => trivial
  | _, _ :: _ => ⟨h _ _, along_of_forall h _ _⟩

theorem along_of_forall_mem {C : ι → Prop} :
  ∀ {is : List ι}, (∀ i ∈ is, C i) → ∀ s : σ, m.Along (fun _ i => C i) s is
  | [], _, _ => trivial
  | i :: _, h, _ => ⟨h i List.mem_cons_self,
      along_of_forall_mem (fun j hj => h j (List.mem_cons_of_mem i hj)) _⟩

/-- What every step that satisfies `C` preserves, a run of such steps preserves. -/
theorem run_of_step (hstep : ∀ s i, P s → C s i → P (m.next s i)) :
  ∀ {s : σ} {is : List ι}, P s → m.Along C s is → P (m.run s is)
  | _, [], hs, _ => hs
  | s, i :: _, hs, ⟨hi, his⟩ => by
      rw [run_cons]
      apply run_of_step hstep (hstep s i hs hi) his

theorem run_of_next (hstep : ∀ s i, P s → P (m.next s i)) {s : σ} (hs : P s) (is : List ι) :
  P (m.run s is)
  := by
  induction is generalizing s with
  | nil => exact hs
  | cons i is ih => apply ih (hstep s i hs)

/-- An invariant of the state together with the events emitted so far. -/
theorem run_trace_of_step {P : σ → List ω → Prop}
    (hstep : ∀ s i t, P s t → C s i → P (m.next s i) (t ++ m.emit s i)) :
  ∀ {s : σ} {is : List ι} {t : List ω}, P s t → m.Along C s is →
    P (m.run s is) (t ++ m.trace s is)
  | _, [], t, hs, _ => by simpa using hs
  | s, i :: is, t, hs, ⟨hi, his⟩ => by
      have := run_trace_of_step hstep (hstep s i t hs hi) his
      simpa using this

/-- An invariant of the state together with the events that every step preserves. -/
theorem run_trace_of_next {P : σ → List ω → Prop}
    (hstep : ∀ s i t, P s t → P (m.next s i) (t ++ m.emit s i))
    {s : σ} (hs : P s []) (is : List ι) :
  P (m.run s is) (m.trace s is)
  := by
  have h := run_trace_of_step (C := fun _ _ => True) (fun s i t h _ => hstep s i t h) hs
    (along_of_forall (fun _ _ => trivial) s is)
  simpa using h

/-! ### Until -/

variable (m)

/-- `Q` holds of every state of the run until a step that satisfies `D`, if there is one. -/
def Until (Q : σ → Prop) (D : σ → ι → Prop) : σ → List ι → Prop
  | s, [] => Q s
  | s, i :: is => Q s ∧ (D s i ∨ Until Q D (m.next s i) is)

variable {m}

/-- What every step preserves unless it satisfies `D` holds until such a step. -/
theorem until_of_step {D : σ → ι → Prop} {Q : σ → Prop}
    (hstep : ∀ s i, Q s → C s i → D s i ∨ Q (m.next s i)) :
  ∀ {s : σ} {is : List ι}, Q s → m.Along C s is → m.Until Q D s is
  | _, [], hs, _ => hs
  | s, i :: _, hs, ⟨hi, his⟩ => by
      refine ⟨hs, ?_⟩
      rcases hstep s i hs hi with hdone | hnext
      · exact .inl hdone
      · exact .inr (until_of_step hstep hnext his)

/-! ### Machines that read a trace -/

section Reader

variable {τ : Type*} {κ : Type*} {m' : Machine τ ω κ} {f : σ → τ}

/-- When `f` follows a machine that reads the events of every step, it follows it along a run. -/
theorem run_trace (h : ∀ s i, f (m.next s i) = m'.run (f s) (m.emit s i)) (s : σ) (is : List ι) :
  f (m.run s is) = m'.run (f s) (m.trace s is)
  := by
  induction is generalizing s with
  | nil => rfl
  | cons i is ih => rw [run_cons, ih, trace_cons, run_append, h]

theorem along_trace_iff {C : τ → ω → Prop} (h : ∀ s i, f (m.next s i) = m'.run (f s) (m.emit s i))
    (s : σ) (is : List ι) :
  m'.Along C (f s) (m.trace s is) ↔ m.Along (fun s i => m'.Along C (f s) (m.emit s i)) s is
  := by
  induction is generalizing s with
  | nil => exact Iff.rfl
  | cons i is ih => rw [trace_cons, along_append, along_cons, ← h, ih]

end Reader

/-! ### Machines that keep their trace -/

variable (m)

/-- The machine whose states keep the trace. -/
def recorded : Machine (σ × List ω) ι ω where
  step s i := ((m.next s.1 i, s.2 ++ m.emit s.1 i), m.emit s.1 i)

theorem recorded_next (s : σ × List ω) (i : ι) :
  m.recorded.next s i = (m.next s.1 i, s.2 ++ m.emit s.1 i)
  := rfl

theorem recorded_run (t : List ω) (is : List ι) :
  m.recorded.run (s, t) is = (m.run s is, t ++ m.trace s is)
  := by
  induction is generalizing s t with
  | nil => simp
  | cons i is ih => simp [recorded_next, ih]

variable {m}

/-- When every step that satisfies `C` preserves an invariant and satisfies `C'`, so does every step
of a run. -/
theorem along_of_step (hstep : ∀ s i, P s → C s i → C' s i ∧ P (m.next s i)) :
  ∀ {s : σ} {is : List ι}, P s → m.Along C s is → m.Along C' s is
  | _, [], _, _ => trivial
  | s, i :: _, hs, ⟨hi, his⟩ =>
    ⟨(hstep s i hs hi).1, along_of_step hstep (hstep s i hs hi).2 his⟩

/-- Conditions that come to the same for the inputs of a run, where an invariant holds, hold along
it together. -/
theorem along_congr {D : ι → Prop} (hstep : ∀ s i, P s → D i → P (m.next s i))
    (h : ∀ s i, P s → D i → (C s i ↔ C' s i)) :
  ∀ {s : σ} {is : List ι}, P s → (∀ i ∈ is, D i) → (m.Along C s is ↔ m.Along C' s is)
  | _, [], _, _ => Iff.rfl
  | s, i :: _, hs, his => by
      rw [List.forall_mem_cons] at his
      rw [along_cons, along_cons, h s i hs his.1]
      apply and_congr_right
      intro
      apply along_congr hstep h (hstep s i hs his.1) his.2

theorem along_and_iff {s : σ} :
  m.Along (fun s i => C s i ∧ C' s i) s is ↔ m.Along C s is ∧ m.Along C' s is
  := by
  constructor
  · intro h
    exact ⟨h.mono fun _ _ h => h.1, h.mono fun _ _ h => h.2⟩
  · rintro ⟨h, h'⟩
    exact h.and h'

theorem along_forall_iff {κ : Type*} {C : κ → σ → ι → Prop} {s : σ} :
  m.Along (fun s i => ∀ k, C k s i) s is ↔ ∀ k, m.Along (C k) s is
  := by
  simp only [along_iff]
  constructor
  · intro h k js i ks his
    exact h js i ks his k
  · intro h js i ks his k
    exact h k js i ks his

end Machine
