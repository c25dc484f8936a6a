import Mathlib.Order.Lattice
import Mathlib.Data.List.Basic

/-!
# Walking through two ordered lists

`walk l l'` goes through two lists whose keys increase, the smaller key first, and gives for each
key what either list has at it.  `mem_walk` says so by the predicate `At`, and `pairwise_walk` that
the keys come in order, so that each comes once.
-/

namespace Walk

universe u v w

variable {κ : Type u} {α : Type v} {β : Type w} {e : κ × α}

/-- The keys of a list increase. -/
def Increasing [LT κ] (l : List (κ × α)) : Prop := l.Pairwise fun e e' => e.1 < e'.1

/-- What a list has at a key. -/
def At (l : List (κ × α)) (k : κ) (a : Option α) : Prop := ∀ x, (k, x) ∈ l ↔ a = some x

theorem Increasing.of_cons [LT κ] {l : List (κ × α)} (h : Increasing (e :: l)) :
  (∀ e' ∈ l, e.1 < e'.1) ∧ Increasing l
  := List.pairwise_cons.mp h

theorem at_cons_of_ne {l : List (κ × α)} {k : κ} {a : Option α} (h : k ≠ e.1) :
  At (e :: l) k a ↔ At l k a
  := by
  have hmem : ∀ x, (k, x) ∈ e :: l ↔ (k, x) ∈ l := by
    intro x
    rw [List.mem_cons]
    apply or_iff_right
    rintro rfl
    exact h rfl
  rw [At, At]
  simp only [hmem]

variable [LinearOrder κ] {l : List (κ × α)} {l' : List (κ × β)} {k : κ} {a : Option α}
  {b : Option β}

/-- The walk with the first entry `e` of the first list, `rest` being the walk without it. -/
def walkRest (e : κ × α) (rest : List (κ × β) → List (κ × Option α × Option β)) :
    List (κ × β) → List (κ × Option α × Option β)
  | [] => (e.1, some e.2, none) :: rest []
  | e' :: l' =>
      if e.1 = e'.1 then (e.1, some e.2, some e'.2) :: rest l'
      else if e.1 < e'.1 then (e.1, some e.2, none) :: rest (e' :: l')
      else (e'.1, none, some e'.2) :: walkRest e rest l'

/-- The keys of two lists in order, with what either list has at each. -/
def walk : List (κ × α) → List (κ × β) → List (κ × Option α × Option β)
  | [], l' => l'.map fun e' => (e'.1, none, some e'.2)
  | e :: l, l' => walkRest e (fun l' => walk l l') l'

omit [LinearOrder κ] in
theorem at_nil :
  At ([] : List (κ × α)) k a ↔ a = none
  := by
  constructor
  · intro h
    apply Option.eq_none_iff_forall_ne_some.mpr
    intro x hx
    exact List.not_mem_nil ((h x).mpr hx)
  · rintro rfl x
    exact iff_of_false List.not_mem_nil (Option.some_ne_none x).symm

/-- Below all keys there is nothing. -/
theorem at_of_forall_lt (h : ∀ e ∈ l, k < e.1) :
  At l k a ↔ a = none
  := by
  constructor
  · intro hat
    apply Option.eq_none_iff_forall_ne_some.mpr
    intro x hx
    exact lt_irrefl k (h _ ((hat x).mpr hx))
  · rintro rfl x
    exact iff_of_false (fun hx => lt_irrefl k (h _ hx)) (Option.some_ne_none x).symm

theorem at_cons_self (h : Increasing (e :: l)) :
  At (e :: l) e.1 a ↔ a = some e.2
  := by
  rw [Increasing, List.pairwise_cons] at h
  have hmem : ∀ x, (e.1, x) ∈ e :: l ↔ some e.2 = some x := by
    intro x
    rw [List.mem_cons, Option.some_inj]
    constructor
    · rintro (heq | hx)
      · rw [← heq]
      · exact absurd (h.1 _ hx) (lt_irrefl _)
    · rintro rfl
      exact .inl rfl
  constructor
  · intro hat
    exact (hat e.2).mp ((hmem e.2).mpr rfl)
  · rintro rfl
    exact hmem

theorem mem_walk_nil (h : Increasing l') :
  (k, a, b) ∈ walk ([] : List (κ × α)) l' ↔ a = none ∧ At l' k b ∧ (a.isSome ∨ b.isSome)
  := by
  rw [walk]
  induction l' with
  | nil =>
    rw [at_nil]
    apply iff_of_false List.not_mem_nil
    rintro ⟨rfl, rfl, h | h⟩ <;> cases h
  | cons e' l' ih =>
    rw [List.map_cons, List.mem_cons, ih h.of_cons.2]
    by_cases hk : k = e'.1
    · subst hk
      have hbelow : ∀ e ∈ l', e'.1 < e.1 := h.of_cons.1
      rw [at_cons_self h, at_of_forall_lt hbelow]
      constructor
      · rintro (heq | ⟨rfl, rfl, hsome | hsome⟩)
        · cases heq
          exact ⟨rfl, rfl, .inr rfl⟩
        · cases hsome
        · cases hsome
      · rintro ⟨rfl, rfl, -⟩
        exact .inl rfl
    · rw [at_cons_of_ne hk]
      apply or_iff_right
      rintro heq
      cases heq
      exact hk rfl

theorem mem_walk (hl : Increasing l) (hl' : Increasing l') :
  (k, a, b) ∈ walk l l' ↔ At l k a ∧ At l' k b ∧ (a.isSome ∨ b.isSome)
  := by
  induction l generalizing l' with
  | nil =>
    rw [at_nil]
    exact mem_walk_nil hl'
  | cons e l ih =>
    have hbelow : ∀ e₁ ∈ l, e.1 < e₁.1 := hl.of_cons.1
    rw [walk]
    induction l' with
    | nil =>
      rw [walkRest, List.mem_cons, ih hl.of_cons.2 hl', at_nil]
      by_cases hk : k = e.1
      · subst hk
        rw [at_cons_self hl, at_of_forall_lt hbelow]
        grind
      · rw [at_cons_of_ne hk]
        grind
    | cons e' l' ih' =>
      have hbelow' : ∀ e₁ ∈ l', e'.1 < e₁.1 := hl'.of_cons.1
      rw [walkRest]
      split
      case isTrue heq =>
        rw [List.mem_cons, ih hl.of_cons.2 hl'.of_cons.2]
        by_cases hk : k = e.1
        · subst hk
          rw [at_cons_self hl, at_of_forall_lt hbelow, at_of_forall_lt (heq ▸ hbelow'), heq,
            at_cons_self hl']
          grind
        · rw [at_cons_of_ne hk, at_cons_of_ne (heq ▸ hk)]
          grind
      case isFalse hne =>
        split
        case isTrue hlt =>
          rw [List.mem_cons, ih hl.of_cons.2 hl']
          by_cases hk : k = e.1
          · subst hk
            have habove : ∀ e₁ ∈ e' :: l', e.1 < e₁.1 := by
              rintro e₁ (_ | ⟨_, he₁⟩)
              · exact hlt
              · exact hlt.trans (hbelow' e₁ he₁)
            rw [at_cons_self hl, at_of_forall_lt hbelow, at_of_forall_lt habove]
            grind
          · rw [at_cons_of_ne hk]
            grind
        case isFalse hle =>
          have hlt : e'.1 < e.1 := lt_of_le_of_ne (not_lt.mp hle) (Ne.symm hne)
          have hrest : (k, a, b) ∈ walkRest e (fun l' => walk l l') l' ↔
              At (e :: l) k a ∧ At l' k b ∧ (a.isSome ∨ b.isSome) := ih' hl'.of_cons.2
          rw [List.mem_cons, hrest]
          by_cases hk : k = e'.1
          · subst hk
            have habove : ∀ e₁ ∈ e :: l, e'.1 < e₁.1 := by
              rintro e₁ (_ | ⟨_, he₁⟩)
              · exact hlt
              · exact hlt.trans (hbelow e₁ he₁)
            rw [at_cons_self hl', at_of_forall_lt hbelow', at_of_forall_lt habove]
            grind
          · rw [at_cons_of_ne hk]
            grind

theorem pairwise_walk (hl : Increasing l) (hl' : Increasing l') :
  (walk l l').Pairwise fun e e' => e.1 < e'.1
  := by
  have hlater : ∀ {l : List (κ × α)} {l' : List (κ × β)} {k : κ}, Increasing l → Increasing l' →
      (∀ e ∈ l, k < e.1) → (∀ e ∈ l', k < e.1) → ∀ e ∈ walk l l', k < e.1 := by
    rintro l l' k hl hl' hk hk' ⟨k', a, b⟩ he
    obtain ⟨ha, hb, hsome⟩ := (mem_walk hl hl').mp he
    rcases hsome with hsome | hsome
    · obtain ⟨x, rfl⟩ := Option.isSome_iff_exists.mp hsome
      exact hk _ ((ha x).mpr rfl)
    · obtain ⟨x, rfl⟩ := Option.isSome_iff_exists.mp hsome
      exact hk' _ ((hb x).mpr rfl)
  induction l generalizing l' with
  | nil =>
    rw [walk, List.pairwise_map]
    exact hl'
  | cons e l ih =>
    obtain ⟨hbelow, hl₁⟩ := hl.of_cons
    rw [walk]
    induction l' with
    | nil =>
      rw [walkRest, List.pairwise_cons]
      exact ⟨hlater hl₁ hl' hbelow (by simp), ih hl₁ hl'⟩
    | cons e' l' ih' =>
      obtain ⟨hbelow', hl₁'⟩ := hl'.of_cons
      rw [walkRest]
      split
      case isTrue heq =>
        rw [List.pairwise_cons]
        exact ⟨hlater hl₁ hl₁' hbelow (heq ▸ hbelow'), ih hl₁ hl₁'⟩
      case isFalse hne =>
        split
        case isTrue hlt =>
          rw [List.pairwise_cons]
          refine ⟨hlater hl₁ hl' hbelow ?_, ih hl₁ hl'⟩
          rintro e₁ (_ | ⟨_, he₁⟩)
          · exact hlt
          · exact hlt.trans (hbelow' e₁ he₁)
        case isFalse hle =>
          have hlt : e'.1 < e.1 := lt_of_le_of_ne (not_lt.mp hle) (Ne.symm hne)
          rw [List.pairwise_cons]
          refine ⟨?_, ih' hl₁'⟩
          apply @hlater (e :: l) l' e'.1 hl hl₁' _ hbelow'
          rintro e₁ (_ | ⟨_, he₁⟩)
          · exact hlt
          · exact hlt.trans (hbelow e₁ he₁)

end Walk
