import Mathlib.Data.List.DropRight
import Mathlib.Data.List.Sort

/-!
# Ordered multimaps

`MultiMap κ ν` is a list of keys with values that is traversed in the order of the keys, with equal
keys in the order in which they were inserted.
-/

universe u v

/-- A multimap from `κ` to `ν`, as the list of its entries in the order of their keys. -/
structure MultiMap (κ : Type u) (ν : Type v) [LinearOrder κ] where
  toList : List (κ × ν)
  sorted : toList.Pairwise fun e e' => e.1 ≤ e'.1

namespace MultiMap

variable {κ : Type u} {ν : Type v} [LinearOrder κ] (m : MultiMap κ ν) {γ : Type*}

/-- The multimap without entries. -/
def empty : MultiMap κ ν where
  toList := []
  sorted := List.Pairwise.nil

/-- The multimap with one more entry, behind those of its key. -/
def insert (k : κ) (v : ν) : MultiMap κ ν where
  toList :=
    m.toList.filter (fun e => e.1 ≤ k) ++ (k, v) :: m.toList.filter fun e => !decide (e.1 ≤ k)
  sorted := by
    rw [List.pairwise_append]
    refine ⟨m.sorted.filter _, ?_, ?_⟩
    · apply List.Pairwise.cons
      · intro e he
        have hlt : ¬e.1 ≤ k := by simpa using (List.mem_filter.mp he).2
        exact (not_le.mp hlt).le
      · exact m.sorted.filter _
    · intro e he e' he'
      have hle : e.1 ≤ k := by simpa using (List.mem_filter.mp he).2
      rcases List.mem_cons.mp he' with rfl | he'
      · exact hle
      · have hlt : ¬e'.1 ≤ k := by simpa using (List.mem_filter.mp he').2
        exact hle.trans (not_le.mp hlt).le

/-- The multimap without the first entry of `k` with the value `v`. -/
def erase [DecidableEq ν] (k : κ) (v : ν) : MultiMap κ ν where
  toList := m.toList.erase (k, v)
  sorted := m.sorted.sublist List.erase_sublist

/-- The multimap without its first entry. -/
def tail : MultiMap κ ν where
  toList := m.toList.tail
  sorted := m.sorted.tail

/-- The entries that satisfy `p`. -/
def filter (p : κ × ν → Bool) : MultiMap κ ν where
  toList := m.toList.filter p
  sorted := m.sorted.filter p

/-- The multimap without the first entry that satisfies `p`. -/
def eraseP (p : κ × ν → Bool) : MultiMap κ ν where
  toList := m.toList.eraseP p
  sorted := m.sorted.sublist List.eraseP_sublist

/-- The first `n` entries. -/
def take (n : Nat) : MultiMap κ ν where
  toList := m.toList.take n
  sorted := m.sorted.sublist (List.take_sublist n _)

/-- The multimap without the last entries from the one with number `n` on that satisfy `p`. -/
def dropLastWhile (n : Nat) (p : κ × ν → Bool) : MultiMap κ ν where
  toList := m.toList.take n ++ (m.toList.drop n).rdropWhile p
  sorted := by
    have hsub : (m.toList.take n ++ (m.toList.drop n).rdropWhile p).Sublist
        (m.toList.take n ++ m.toList.drop n) :=
      (List.Sublist.refl _).append (List.rdropWhile_prefix p _).sublist
    rw [List.take_append_drop] at hsub
    exact m.sorted.sublist hsub

/-- What does not change at one element does not change at any. -/
private theorem map_modify {α : Type*} {g : α → γ} {f : α → α} {l : List α} (i : Nat)
    (hg : ∀ a, g (f a) = g a) :
  (l.modify i f).map g = l.map g
  := by
  apply List.ext_getElem?
  intro j
  rw [List.getElem?_map, List.getElem?_map, List.getElem?_modify]
  cases l[j]? with
  | none => rfl
  | some a =>
    split
    · exact congrArg some (hg a)
    · rfl

/-- The multimap in which the value of the first entry that satisfies `p` is replaced. -/
def modifyFirst (p : κ × ν → Bool) (f : ν → ν) : MultiMap κ ν where
  toList := m.toList.modify (m.toList.findIdx p) fun e => (e.1, f e.2)
  sorted := by
    have hkeys : (m.toList.modify (m.toList.findIdx p) fun e => (e.1, f e.2)).map Prod.fst =
        m.toList.map Prod.fst := map_modify _ fun _ => rfl
    have hsorted := m.sorted
    rw [← List.pairwise_map (f := Prod.fst)] at hsorted ⊢
    rwa [hkeys]

variable {m} {f : ν → ν}

theorem toList_insert_perm (k : κ) (v : ν) :
  (m.insert k v).toList.Perm ((k, v) :: m.toList)
  := by
  apply List.perm_middle.trans
  apply List.Perm.cons
  apply List.filter_append_perm

theorem toList_foldl_insert_perm (l : List (κ × ν)) :
  (l.foldl (fun m e => m.insert e.1 e.2) empty).toList.Perm l
  := by
  induction l using List.reverseRecOn with
  | nil => rfl
  | append_singleton l e ih =>
    rw [List.foldl_append]
    apply (toList_insert_perm e.1 e.2).trans
    exact (ih.cons e).trans (List.perm_append_singleton e l).symm

/-- The entries up to a key are the first ones. -/
theorem takeWhile_le (k : κ) :
  m.toList.takeWhile (fun e => decide (e.1 ≤ k)) = m.toList.filter fun e => decide (e.1 ≤ k)
  := by
  obtain ⟨l, hsorted⟩ := m
  dsimp only
  induction l with
  | nil => rfl
  | cons e l ih =>
    rw [List.pairwise_cons] at hsorted
    rw [List.takeWhile_cons, List.filter_cons]
    split
    case isTrue => rw [ih hsorted.2]
    case isFalse h =>
      symm
      rw [List.filter_eq_nil_iff]
      intro e' he' hle
      apply h
      exact decide_eq_true ((hsorted.1 e' he').trans (of_decide_eq_true hle))

/-- What `f` does not change is the same of all entries. -/
theorem map_toList_modifyFirst {g : κ × ν → γ} (p : κ × ν → Bool)
    (hg : ∀ k v, g (k, f v) = g (k, v)) :
  (m.modifyFirst p f).toList.map g = m.toList.map g
  := map_modify _ fun e => hg e.1 e.2

/-- An entry that is found is replaced. -/
theorem mem_toList_modifyFirst {p : κ × ν → Bool} {e : κ × ν} (h : m.toList.find? p = some e) :
  (e.1, f e.2) ∈ (m.modifyFirst p f).toList
  := by
  apply List.mem_of_getElem? (i := m.toList.findIdx p)
  rw [modifyFirst, List.getElem?_modify_eq, ← List.find?_eq_getElem?_findIdx, h]
  rfl

end MultiMap
