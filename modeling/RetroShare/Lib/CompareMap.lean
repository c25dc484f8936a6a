import Mathlib.Data.List.Nodup
import Mathlib.Data.Set.Insert

/-!
# Maps with a comparison

A `std::map` with a comparison `lt` of its own, as the list of its entries in the order in which
they are traversed.  A key is looked for among them up to the first one that is not less, where it
is also inserted.  With a comparison that is a strict weak order on the keys that are used, and
whose equivalence is equality, a map has one entry for a key, and finds it.
-/

universe u v

/-- The comparison `lt` is a strict weak order on `S` whose equivalence is `eqv`. -/
structure StrictWeakOrderOn {κ : Type u} (S : Set κ) (lt eqv : κ → κ → Bool) : Prop where
  irrefl : ∀ a ∈ S, lt a a = false
  asymm : ∀ a ∈ S, ∀ b ∈ S, lt a b → lt b a = false
  trans : ∀ a ∈ S, ∀ b ∈ S, ∀ c ∈ S, lt a b → lt b c → lt a c
  equiv : ∀ a ∈ S, ∀ b ∈ S, (lt a b = false ∧ lt b a = false) ↔ eqv a b

namespace CompareMap

variable {κ : Type u} {ν : Type v} (lt : κ → κ → Bool)

/-- The value of the key `k`. -/
def find? (k : κ) : List (κ × ν) → Option ν
  | [] => none
  | e :: t => if lt e.1 k then find? k t else if lt k e.1 then none else some e.2

/-- The map in which `k` has the value `v`. -/
def set (k : κ) (v : ν) : List (κ × ν) → List (κ × ν)
  | [] => [(k, v)]
  | e :: t =>
      if lt e.1 k then e :: set k v t
      else if lt k e.1 then (k, v) :: e :: t
      else (e.1, v) :: t

/-- The entries are in their order, and their keys among `S`. -/
structure Sorted (S : Set κ) (t : List (κ × ν)) : Prop where
  mem : ∀ e ∈ t, e.1 ∈ S
  sorted : t.Pairwise fun e e' => lt e.1 e'.1

variable {lt} {S : Set κ} {eqv : κ → κ → Bool} {t : List (κ × ν)} {e : κ × ν}

theorem sorted_nil :
  Sorted lt S ([] : List (κ × ν))
  where
  mem _ h := absurd h List.not_mem_nil
  sorted := List.Pairwise.nil

theorem sorted_cons :
  Sorted lt S (e :: t) ↔ e.1 ∈ S ∧ (∀ e' ∈ t, lt e.1 e'.1) ∧ Sorted lt S t
  := by
  constructor
  · rintro ⟨hmem, hsorted⟩
    obtain ⟨hhead, htail⟩ := List.pairwise_cons.1 hsorted
    exact ⟨hmem e List.mem_cons_self, hhead, fun e' he' => hmem e' (List.mem_cons_of_mem e he'),
      htail⟩
  · rintro ⟨he, hhead, hmem, hsorted⟩
    exact ⟨List.forall_mem_cons.2 ⟨he, hmem⟩, List.pairwise_cons.2 ⟨hhead, hsorted⟩⟩

theorem Sorted.sublist {t' : List (κ × ν)} (h : Sorted lt S t) (hsub : t'.Sublist t) :
  Sorted lt S t'
  where
  mem e he := h.mem e (hsub.subset he)
  sorted := h.sorted.sublist hsub

/-- The values do not matter. -/
theorem Sorted.of_map_fst {ν' : Type v} {t' : List (κ × ν')} (h : Sorted lt S t)
    (heq : t'.map Prod.fst = t.map Prod.fst) :
  Sorted lt S t'
  where
  mem e he := by
    have hkey : e.1 ∈ t.map Prod.fst := heq ▸ List.mem_map_of_mem he
    obtain ⟨e', he', hfst⟩ := List.mem_map.1 hkey
    exact hfst ▸ h.mem e' he'
  sorted := by
    have hkeys : (t.map Prod.fst).Pairwise fun k k' => lt k k' := List.pairwise_map.2 h.sorted
    rw [← heq, List.pairwise_map] at hkeys
    exact hkeys

section

variable (ho : StrictWeakOrderOn S lt eqv) (heqv : ∀ a b, eqv a b → a = b) {k : κ}
include ho

/-- There is one entry for a key. -/
theorem Sorted.nodup (h : Sorted lt S t) :
  (t.map Prod.fst).Nodup
  := by
  rw [List.Nodup, List.pairwise_map]
  apply h.sorted.imp_of_mem
  intro e e' he he' hlt heq
  rw [heq, ho.irrefl _ (h.mem e' he')] at hlt
  cases hlt

include heqv

/-- The entries of a map are found, and nothing else. -/
theorem Sorted.find?_eq_some_iff (h : Sorted lt S t) (hk : k ∈ S) {v : ν} :
  find? lt k t = some v ↔ (k, v) ∈ t
  := by
  induction t with
  | nil => simp [find?]
  | cons e t ih =>
    obtain ⟨he, hhead, htail⟩ := sorted_cons.1 h
    rw [find?, List.mem_cons]
    split
    case isTrue hlt =>
      rw [ih htail, or_iff_right]
      rintro rfl
      rw [ho.irrefl k hk] at hlt
      cases hlt
    case isFalse hge =>
      have hnot : (k, v) ∉ t := fun hmem => hge (hhead _ hmem)
      split
      case isTrue hlt =>
        rw [or_iff_left hnot]
        constructor
        · rintro ⟨⟩
        · rintro rfl
          exact absurd hlt hge
      case isFalse hle =>
        have heq : k = e.1 := by
          apply heqv
          rw [← ho.equiv k hk e.1 he]
          exact ⟨Bool.eq_false_iff.2 hle, Bool.eq_false_iff.2 hge⟩
        rw [or_iff_left hnot, Option.some.injEq, Prod.ext_iff]
        exact ⟨fun hv => ⟨heq, hv.symm⟩, fun hv => hv.2.symm⟩

/-- The entries of a map with another value for `k`. -/
theorem Sorted.mem_set_iff (h : Sorted lt S t) (hk : k ∈ S) {v : ν} :
  e ∈ set lt k v t ↔ e = (k, v) ∨ (e ∈ t ∧ e.1 ≠ k)
  := by
  induction t with
  | nil => simp [set]
  | cons e' t ih =>
    obtain ⟨he', hhead, htail⟩ := sorted_cons.1 h
    rw [set]
    split
    case isTrue hlt =>
      have hne : e'.1 ≠ k := by
        rintro rfl
        rw [ho.irrefl _ hk] at hlt
        cases hlt
      rw [List.mem_cons, ih htail, List.mem_cons]
      constructor
      · rintro (rfl | heq | ⟨hmem, hne'⟩)
        · exact .inr ⟨.inl rfl, hne⟩
        · exact .inl heq
        · exact .inr ⟨.inr hmem, hne'⟩
      · rintro (heq | ⟨rfl | hmem, hne'⟩)
        · exact .inr (.inl heq)
        · exact .inl rfl
        · exact .inr (.inr ⟨hmem, hne'⟩)
    case isFalse hge =>
      have htailne : ∀ e'' ∈ t, e''.1 ≠ k := by
        rintro e'' hmem rfl
        exact hge (hhead e'' hmem)
      split
      case isTrue hlt =>
        have hne : e'.1 ≠ k := by
          rintro rfl
          exact hge hlt
        have hall : ∀ e'' ∈ e' :: t, e''.1 ≠ k := List.forall_mem_cons.2 ⟨hne, htailne⟩
        rw [List.mem_cons]
        apply or_congr_right
        rw [iff_self_and]
        exact hall e
      case isFalse hle =>
        have heq : e'.1 = k := by
          apply heqv
          rw [← ho.equiv _ he' k hk]
          exact ⟨Bool.eq_false_iff.2 hge, Bool.eq_false_iff.2 hle⟩
        rw [List.mem_cons, heq, List.mem_cons]
        apply or_congr_right
        constructor
        · exact fun hmem => ⟨.inr hmem, htailne e hmem⟩
        · rintro ⟨rfl | hmem, hne⟩
          · exact absurd heq hne
          · exact hmem

/-- A map stays in order. -/
theorem Sorted.set (h : Sorted lt S t) (hk : k ∈ S) (v : ν) :
  Sorted lt S (set lt k v t)
  := by
  induction t with
  | nil => exact sorted_cons.2 ⟨hk, fun _ h' => absurd h' List.not_mem_nil, sorted_nil⟩
  | cons e t ih =>
    obtain ⟨he, hhead, htail⟩ := sorted_cons.1 h
    rw [CompareMap.set]
    split
    case isTrue hlt =>
      refine sorted_cons.2 ⟨he, ?_, ih htail⟩
      intro e' he'
      rcases (htail.mem_set_iff ho heqv hk).1 he' with rfl | ⟨hmem, -⟩
      · exact hlt
      · exact hhead e' hmem
    case isFalse hge =>
      split
      case isTrue hlt =>
        refine sorted_cons.2 ⟨hk, ?_, h⟩
        refine List.forall_mem_cons.2 ⟨hlt, ?_⟩
        intro e' he'
        exact ho.trans k hk e.1 he e'.1 (htail.mem e' he') hlt (hhead e' he')
      case isFalse => exact sorted_cons.2 ⟨he, hhead, htail⟩

end

end CompareMap
