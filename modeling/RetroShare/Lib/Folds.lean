import Mathlib.Data.List.Basic

/-!
# Loops over lists

`List.foldl` is a loop over a list, and `List.foldlM` in `Option` one that may be left without a
result.  `foldl_of_step` and `foldlM_of_step` are the induction rules for an invariant of the
elements that have been passed and of the state; `isSome_foldlM` and `isSome_foldlM_iff` say when
there is a result.
-/

namespace Folds

universe u v

variable {α : Type u} {β : Type v} {P : List α → β → Prop} {f : β → α → Option β} {l : List α}
  {b : β}

/-- What an iteration preserves, the rest of the loop preserves; `done` has been passed before. -/
private theorem foldlM_from
    (hstep : ∀ done x rest b b', l = done ++ x :: rest → P done b → f b x = some b' → P (done ++
      [x]) b') :
  ∀ (rest done : List α) (b b' : β), l = done ++ rest → P done b →
    rest.foldlM f b = some b' → P l b'
  | [], done, b, b', hl, hP, h => by
      obtain rfl : b = b' := Option.some.inj h
      rwa [hl, List.append_nil]
  | x :: rest, done, b, b', hl, hP, h => by
      rw [List.foldlM_cons] at h
      obtain ⟨b₁, hb, hrest⟩ := Option.bind_eq_some_iff.1 h
      apply foldlM_from hstep rest (done ++ [x]) b₁ b'
      · rw [hl, List.append_assoc, List.singleton_append]
      · exact hstep done x rest b b₁ hl hP hb
      · exact hrest

/-- What every iteration preserves, a loop that has a result preserves. -/
theorem foldlM_of_step {b' : β}
    (hstep : ∀ done x rest b b', l = done ++ x :: rest → P done b → f b x = some b' → P (done ++
      [x]) b') (hb : P [] b) (h : l.foldlM f b = some b') :
  P l b'
  := foldlM_from hstep l [] b b' rfl hb h

/-- What every iteration preserves, the loop preserves. -/
theorem foldl_of_step {f : β → α → β}
    (hstep : ∀ done x rest b, l = done ++ x :: rest → P done b → P (done ++ [x]) (f b x))
    (hb : P [] b) :
  P l (l.foldl f b)
  := by
  have hfold : l.foldlM (fun b x => some (f b x)) b = some (l.foldl f b) := List.foldlM_pure
  apply foldlM_of_step _ hb hfold
  rintro done x rest b _ hl hP ⟨⟩
  exact hstep done x rest b hl hP

/-- A loop has a result when every iteration does. -/
theorem isSome_foldlM :
  ∀ {l : List α} (b : β), (∀ x ∈ l, ∀ b, (f b x).isSome) → (l.foldlM f b).isSome
  | [], _, _ => rfl
  | x :: l, b, h => by
      obtain ⟨b', hb'⟩ := Option.isSome_iff_exists.1 (h x List.mem_cons_self b)
      rw [List.foldlM_cons, hb']
      apply isSome_foldlM b'
      intro y hy
      apply h y (List.mem_cons_of_mem x hy)

/-- A loop has a result when every iteration that it comes to has one. -/
theorem isSome_foldlM_iff :
  (l.foldlM f b).isSome ↔
    ∀ done x rest, l = done ++ x :: rest → ∀ b', done.foldlM f b = some b' → (f b' x).isSome
  := by
  constructor
  · rintro h done x rest rfl b' hdone
    rw [List.foldlM_append, hdone, Option.bind_eq_bind, Option.bind_some, List.foldlM_cons] at h
    exact Option.isSome_of_isSome_bind h
  · intro h
    induction l generalizing b with
    | nil => rfl
    | cons x l ih =>
      have hx : (f b x).isSome := h [] x l rfl b rfl
      obtain ⟨b₁, hb₁⟩ := Option.isSome_iff_exists.mp hx
      rw [List.foldlM_cons, hb₁]
      apply ih
      rintro done y rest rfl b' hdone
      apply h (x :: done) y rest rfl b'
      rw [List.foldlM_cons, hb₁]
      exact hdone

end Folds
