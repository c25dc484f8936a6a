import Mathlib.Algebra.BigOperators.Group.Finset.Basic
import Mathlib.Algebra.Order.Ring.Nat
import Mathlib.Data.List.Sort

/-!
# Ordered maps

`OrdMap κ ν` is a map from keys to values that is traversed in the order of the keys.  Its
entries are a list whose keys increase; `get?` looks a key up, and `insert` and `erase` are
described by what `get?` finds afterwards.  `sum` adds a quantity over the entries, and `countP`
counts entries.
-/

universe u v w

/-- A map from `κ` to `ν`, as the list of its entries in the order of their keys. -/
structure OrdMap (κ : Type u) (ν : Type v) [LinearOrder κ] where
  toList : List (κ × ν)
  sorted : toList.Pairwise fun e e' => e.1 < e'.1

namespace OrdMap

variable {κ : Type u} {ν : Type v} [LinearOrder κ] (m : OrdMap κ ν)

instance [DecidableEq ν] : DecidableEq (OrdMap κ ν) :=
  fun m m' => decidable_of_iff (m.toList = m'.toList) <| by
    cases m
    cases m'
    simp

/-- The map without entries. -/
def empty : OrdMap κ ν where
  toList := []
  sorted := List.Pairwise.nil

instance : Inhabited (OrdMap κ ν) := ⟨empty⟩

/-- The value of a key. -/
def get? (k : κ) : Option ν := (m.toList.find? fun e => e.1 = k).map Prod.snd

/-- The entries that satisfy `p`. -/
def filter (p : κ → ν → Bool) : OrdMap κ ν where
  toList := m.toList.filter fun e => p e.1 e.2
  sorted := m.sorted.filter _

/-- The map without the entry of `k`. -/
def erase (k : κ) : OrdMap κ ν := m.filter fun k' _ => k' ≠ k

/-- The map whose values are replaced. -/
def map {ν' : Type w} (f : κ → ν → ν') : OrdMap κ ν' where
  toList := m.toList.map fun e => (e.1, f e.1 e.2)
  sorted := by
    rw [List.pairwise_map]
    exact m.sorted

/-- The map whose values are replaced, and whose keys are, by others in the same order. -/
def mapKeys {κ' : Type*} {ν' : Type w} [LinearOrder κ'] (f : κ → κ') (hf : StrictMono f)
    (g : ν → ν') : OrdMap κ' ν' where
  toList := m.toList.map fun e => (f e.1, g e.2)
  sorted := by
    rw [List.pairwise_map]
    exact m.sorted.imp fun h => hf h

/-- The map in which `k` has the value `v`. -/
def insert (k : κ) (v : ν) : OrdMap κ ν where
  toList := m.toList.filter (fun e => e.1 < k) ++ (k, v) :: m.toList.filter fun e => k < e.1
  sorted := by
    rw [List.pairwise_append]
    refine ⟨m.sorted.filter _, ?_, ?_⟩
    · apply List.Pairwise.cons
      · intro e he
        simpa using (List.mem_filter.mp he).2
      · exact m.sorted.filter _
    · intro e he e' he'
      have hlt : e.1 < k := by simpa using (List.mem_filter.mp he).2
      rcases List.mem_cons.mp he' with rfl | he'
      · exact hlt
      · apply hlt.trans
        simpa using (List.mem_filter.mp he').2

/-- The map in which `k` has a value, `v` when there has been none. -/
def insertNew (k : κ) (v : ν) : OrdMap κ ν := if (m.get? k).isSome then m else m.insert k v

/-- The sum of a quantity over the entries. -/
def sum (f : κ → ν → Nat) : Nat := (m.toList.map fun e => f e.1 e.2).sum

/-- The number of entries whose values satisfy `p`. -/
def countP (p : ν → Bool) : Nat := m.sum fun _ v => if p v then 1 else 0

/-! ### Lookup -/

variable {m} {k : κ} {v : ν} {ν' : Type w} (f : κ → ν → ν') {l : List (κ × ν)} {e : κ × ν}
  {g : κ → ν → Option ν' → Option ν'}

theorem find?_eq_some_of_mem :
  ∀ {l : List (κ × ν)} {e : κ × ν}, l.Pairwise (fun e e' => e.1 < e'.1) → e ∈ l →
    l.find? (fun e' => e'.1 = e.1) = some e
  | e' :: l, e, hl, he => by
      rw [List.pairwise_cons] at hl
      rcases List.mem_cons.mp he with rfl | he
      · simp
      · have hne := (hl.1 e he).ne
        simp [hne, find?_eq_some_of_mem hl.2 he]

theorem mem_toList :
  (k, v) ∈ m.toList ↔ m.get? k = some v
  := by
  constructor
  · intro h
    rw [get?, find?_eq_some_of_mem (e := (k, v)) m.sorted h]
    rfl
  · intro h
    obtain ⟨e, he, rfl⟩ := Option.map_eq_some_iff.mp h
    have hk : e.1 = k := by simpa using List.find?_some he
    subst hk
    exact List.mem_of_find?_eq_some he

@[simp]
theorem get?_empty (k : κ) :
  (empty : OrdMap κ ν).get? k = none
  := rfl

@[simp]
theorem get?_filter (p : κ → ν → Bool) (k : κ) :
  (m.filter p).get? k = (m.get? k).filter (p k)
  := by
  ext v
  rw [← mem_toList, Option.filter_eq_some_iff, ← mem_toList]
  simp [filter]

@[simp]
theorem get?_map (k : κ) :
  (m.map f).get? k = (m.get? k).map (f k)
  := by
  rw [get?, get?, map, List.find?_map, Option.map_map, Option.map_map]
  have hkey : (fun e : κ × ν' => decide (e.1 = k)) ∘ (fun e : κ × ν => (e.1, f e.1 e.2)) =
      fun e => decide (e.1 = k) := rfl
  rw [hkey]
  cases hfind : m.toList.find? fun e => decide (e.1 = k) with
  | none => rfl
  | some e =>
    have he : e.1 = k := by simpa using List.find?_some hfind
    simp [he]

theorem get?_erase (k k' : κ) :
  (m.erase k).get? k' = if k' = k then none else m.get? k'
  := by
  rw [erase, get?_filter]
  split <;> cases m.get? k' <;> simp_all

theorem get?_of_get?_erase {k' : κ} (h : (m.erase k).get? k' = some v) :
  m.get? k' = some v
  := by
  rw [get?_erase] at h
  split at h
  case isTrue => cases h
  case isFalse => exact h

@[simp]
theorem get?_erase_self (k : κ) :
  (m.erase k).get? k = none
  := by
  simp [get?_erase]

theorem get?_insert (k k' : κ) (v : ν) :
  (m.insert k v).get? k' = if k' = k then some v else m.get? k'
  := by
  ext v'
  rw [← mem_toList]
  simp only [insert, List.mem_append, List.mem_cons, List.mem_filter, decide_eq_true_eq,
    Prod.mk.injEq, mem_toList]
  rcases lt_trichotomy k' k with h | rfl | h
  · simp [h, h.ne, h.not_gt]
  · simp [eq_comm]
  · simp [h, h.ne', h.not_gt]

theorem get?_insert_iff {m : OrdMap κ ν} {k k' : κ} {v v' : ν} :
  (m.insert k v).get? k' = some v' ↔ k' = k ∧ v = v' ∨ k' ≠ k ∧ m.get? k' = some v'
  := by
  rw [get?_insert]
  split <;> simp [*]

@[simp]
theorem get?_insert_self (k : κ) (v : ν) :
  (m.insert k v).get? k = some v
  := by
  simp [get?_insert]

theorem erase_of_get?_eq_none (h : m.get? k = none) :
  m.erase k = m
  := by
  have hself : (m.erase k).toList = m.toList := by
    apply List.filter_eq_self.mpr
    rintro ⟨k', v⟩ he
    rw [decide_eq_true_eq]
    rintro rfl
    rw [mem_toList, h] at he
    cases he
  cases m
  simpa [erase, filter] using hself

theorem nodup_toList (m : OrdMap κ ν) :
  m.toList.Nodup
  := by
  apply m.sorted.imp
  rintro e e' h rfl
  exact lt_irrefl _ h

/-- A map is determined by what `get?` finds. -/
theorem ext_get? {m' : OrdMap κ ν} (h : ∀ k, m.get? k = m'.get? k) :
  m = m'
  := by
  have hperm : m.toList.Perm m'.toList := by
    rw [List.perm_ext_iff_of_nodup m.nodup_toList m'.nodup_toList]
    rintro ⟨k, v⟩
    rw [mem_toList, mem_toList, h]
  have heq : m.toList = m'.toList := by
    apply hperm.eq_of_pairwise _ m.sorted m'.sorted
    intro e e' _ _ hlt hgt
    exact absurd (hlt.trans hgt) (lt_irrefl _)
  cases m
  cases m'
  simpa using heq

theorem insert_of_get?_eq_some (h : m.get? k = some v) :
  m.insert k v = m
  := by
  apply ext_get?
  intro k'
  rw [get?_insert]
  split
  case isTrue hk => rw [hk, h]
  case isFalse => rfl

theorem insert_insert_self (k : κ) (v v' : ν) :
  (m.insert k v).insert k v' = m.insert k v'
  := by
  apply ext_get?
  intro k'
  rw [get?_insert, get?_insert, get?_insert]
  split <;> rfl

theorem map_insert (k : κ) (v : ν) :
  (m.insert k v).map f = (m.map f).insert k (f k v)
  := by
  apply ext_get?
  intro k'
  rw [get?_map, get?_insert, get?_insert, get?_map]
  split
  case isTrue hk => rw [hk, Option.map_some]
  case isFalse => rfl

theorem map_erase (k : κ) :
  (m.erase k).map f = (m.map f).erase k
  := by
  apply ext_get?
  intro k'
  rw [get?_map, get?_erase, get?_erase, get?_map]
  split <;> rfl

/-! ### Entries -/

/-- An entry is the one that erasing its key leaves out. -/
theorem toList_perm_of_get?_eq_some (h : m.get? k = some v) :
  m.toList.Perm ((k, v) :: (m.erase k).toList)
  := by
  have hnodup : ((k, v) :: (m.erase k).toList).Nodup := by
    rw [List.nodup_cons]
    refine ⟨?_, nodup_toList _⟩
    rw [mem_toList]
    simp
  rw [List.perm_ext_iff_of_nodup m.nodup_toList hnodup]
  rintro ⟨k', v'⟩
  rw [List.mem_cons, mem_toList, mem_toList, get?_erase]
  by_cases hk : k' = k
  · subst hk
    simp [h, eq_comm]
  · simp [hk]

theorem erase_insert_self (k : κ) (v : ν) :
  (m.insert k v).erase k = m.erase k
  := by
  apply ext_get?
  intro k'
  rw [get?_erase, get?_erase, get?_insert]
  split <;> rfl

theorem toList_insert_perm (k : κ) (v : ν) :
  (m.insert k v).toList.Perm ((k, v) :: (m.erase k).toList)
  := by
  have hperm := toList_perm_of_get?_eq_some (m.get?_insert_self k v)
  rw [erase_insert_self] at hperm
  exact hperm

/-- A loop that inserts entries with different keys. -/
theorem toList_foldl_perm {β : Type w} {f : OrdMap κ ν → β → OrdMap κ ν} {key : β → κ} {val : β → ν}
    (hf : ∀ m b, m.get? (key b) = none → f m b = m.insert (key b) (val b)) {l : List β}
    (hl : (l.map key).Nodup) (m : OrdMap κ ν) (hnew : ∀ b ∈ l, m.get? (key b) = none) :
  (l.foldl f m).toList.Perm (m.toList ++ l.map fun b => (key b, val b))
  := by
  induction l generalizing m with
  | nil => simp
  | cons b l ih =>
    rw [List.map_cons, List.nodup_cons] at hl
    rw [List.forall_mem_cons] at hnew
    have hrest (b' : β) (hb' : b' ∈ l) : (m.insert (key b) (val b)).get? (key b') = none := by
      rw [get?_insert, if_neg, hnew.2 b' hb']
      intro heq
      exact hl.1 (List.mem_map.2 ⟨b', hb', heq⟩)
    have hinsert := m.toList_insert_perm (key b) (val b)
    rw [m.erase_of_get?_eq_none hnew.1] at hinsert
    rw [List.foldl_cons, hf m b hnew.1, List.map_cons]
    apply (ih hl.2 _ hrest).trans
    apply (hinsert.append_right _).trans
    exact List.perm_middle.symm

theorem toList_foldl_insertNew_perm (hl : (l.map Prod.fst).Nodup) :
  (l.foldl (fun m e => m.insertNew e.1 e.2) empty).toList.Perm l
  := by
  have hstep (m : OrdMap κ ν) (e : κ × ν) (hnone : m.get? e.1 = none) :
      m.insertNew e.1 e.2 = m.insert e.1 e.2 := by
    rw [insertNew, hnone]
    rfl
  have hperm := toList_foldl_perm hstep hl empty fun _ _ => rfl
  simpa [empty] using hperm

theorem mem_toList_of_insertNew (h : e ∈ (m.insertNew k v).toList) :
  e ∈ m.toList ∨ e = (k, v)
  := by
  rw [insertNew] at h
  split at h
  case isTrue => exact .inl h
  case isFalse =>
    rw [mem_toList, get?_insert] at h
    split at h
    case isTrue hk => exact .inr (Prod.ext hk (Option.some.inj h).symm)
    case isFalse => exact .inl (mem_toList.2 h)

theorem mem_of_mem_foldl_insertNew (h : e ∈ (l.foldl (fun m e => m.insertNew e.1 e.2) m).toList) :
  e ∈ m.toList ∨ e ∈ l
  := by
  induction l generalizing m with
  | nil => exact .inl h
  | cons e' l ih =>
    rcases ih h with h | h
    · rcases mem_toList_of_insertNew h with h | rfl
      · exact .inl h
      · exact .inr List.mem_cons_self
    · exact .inr (List.mem_cons_of_mem e' h)

/-! ### Folds over the entries -/

/-- A fold whose steps change the accumulated map at the key of the entry only, on a list of entries
with increasing keys. -/
theorem get?_foldl_of_pairwise {f : OrdMap κ ν' → κ × ν → OrdMap κ ν'}
    (hf : ∀ acc e k, (f acc e).get? k = if k = e.1 then g k e.2 (acc.get? k) else acc.get? k)
    (k : κ) :
  ∀ {l : List (κ × ν)} (acc : OrdMap κ ν'), l.Pairwise (fun e e' => e.1 < e'.1) →
    (∀ v, (k, v) ∈ l → (l.foldl f acc).get? k = g k v (acc.get? k)) ∧
      ((∀ v, (k, v) ∉ l) → (l.foldl f acc).get? k = acc.get? k)
  | [], acc, _ => by simp
  | e :: l, acc, hl => by
      rw [List.pairwise_cons] at hl
      obtain ⟨hin, hout⟩ := get?_foldl_of_pairwise hf k (f acc e) hl.2
      rw [List.foldl_cons]
      constructor
      · intro v hv
        rcases List.mem_cons.mp hv with rfl | hv
        · rw [hout, hf, if_pos rfl]
          intro v' hv'
          exact lt_irrefl k (hl.1 (k, v') hv')
        · rw [hin v hv, hf, if_neg (hl.1 _ hv).ne']
      · intro h
        rw [hout, hf, if_neg]
        · rintro rfl
          apply h e.2 List.mem_cons_self
        · intro v hv
          apply h v (List.mem_cons_of_mem e hv)

/-- A fold over a map whose steps change the accumulated map at the key of the entry only. -/
theorem get?_foldl {f : OrdMap κ ν' → κ × ν → OrdMap κ ν'}
    (hf : ∀ acc e k, (f acc e).get? k = if k = e.1 then g k e.2 (acc.get? k) else acc.get? k)
    (acc : OrdMap κ ν') (k : κ) :
  (m.toList.foldl f acc).get? k = ((m.get? k).map fun v => g k v (acc.get? k)).getD (acc.get? k)
  := by
  obtain ⟨hin, hout⟩ := get?_foldl_of_pairwise hf k acc m.sorted
  cases hk : m.get? k with
  | none =>
    apply hout
    intro v hv
    rw [mem_toList, hk] at hv
    cases hv
  | some v => exact hin v (mem_toList.mpr hk)

theorem foldl_insert_toList :
  m.toList.foldl (fun acc e => acc.insert e.1 e.2) empty = m
  := by
  apply ext_get?
  intro k
  rw [get?_foldl (g := fun _ v _ => some v)]
  · cases m.get? k <;> rfl
  · intro acc e k
    rw [get?_insert]

theorem foldl_insert_mapKeys {κ' : Type*} {ν' : Type w} [LinearOrder κ'] {f : κ → κ'}
    (hf : StrictMono f) {g : ν → ν'} {f' : κ' → κ} {g' : ν' → ν} (hkey : ∀ k, f' (f k) = k)
    (hvalue : ∀ v, g' (g v) = v) :
  (m.mapKeys f hf g).toList.foldl (fun acc e => acc.insert (f' e.1) (g' e.2)) empty = m
  := by
  rw [mapKeys, List.foldl_map]
  simp only [hkey, hvalue]
  exact m.foldl_insert_toList

/-! ### Sums over the entries -/

@[simp]
theorem sum_empty (f : κ → ν → Nat) :
  (empty : OrdMap κ ν).sum f = 0
  := by
  simp [sum, empty]

/-- The sum of a map with an entry at `k`. -/
theorem sum_of_get?_eq_some (f : κ → ν → Nat) (h : m.get? k = some v) :
  m.sum f = f k v + (m.erase k).sum f
  := by
  have hsum := ((toList_perm_of_get?_eq_some h).map fun e => f e.1 e.2).sum_eq
  rw [List.map_cons, List.sum_cons] at hsum
  exact hsum

theorem sum_insert (k : κ) (v : ν) (f : κ → ν → Nat) :
  (m.insert k v).sum f = f k v + (m.erase k).sum f
  := by
  rw [sum_of_get?_eq_some f (get?_insert_self k v), erase_insert_self]

theorem sum_congr {f g : κ → ν → Nat} (h : ∀ k v, m.get? k = some v → f k v = g k v) :
  m.sum f = m.sum g
  := by
  simp only [sum]
  congr 1
  apply List.map_congr_left
  intro e he
  apply h
  rwa [← mem_toList]

theorem sum_eq_zero {f : κ → ν → Nat} (h : ∀ k v, m.get? k = some v → f k v = 0) :
  m.sum f = 0
  := by
  apply List.sum_eq_zero
  intro n hn
  obtain ⟨e, he, rfl⟩ := List.mem_map.mp hn
  apply h
  rwa [← mem_toList]

theorem sum_filter_add_sum_filter_not (q : κ → ν → Bool) (f : κ → ν → Nat) :
  (m.filter q).sum f + (m.filter fun k v => !q k v).sum f = m.sum f
  := by
  simp only [sum, filter]
  induction m.toList with
  | nil => rfl
  | cons e l ih =>
    cases hq : q e.1 e.2 <;>
      simp only [List.filter_cons, hq, Bool.not_true, Bool.not_false, if_true, List.map_cons,
        List.sum_cons, Bool.false_eq_true, if_false] <;>
      omega

/-- A map whose keys are numbers below `n`, as a sum over these numbers. -/
theorem sum_eq_sum_range (f : Nat → ν → Nat) :
  ∀ {n : Nat} {m : OrdMap Nat ν}, (∀ k v, m.get? k = some v → k < n) →
    m.sum f = ∑ k ∈ Finset.range n, ((m.get? k).map (f k)).getD 0
  | 0, m, h => by
      rw [Finset.sum_range_zero]
      apply sum_eq_zero
      intro k v hk
      exact absurd (h k v hk) (Nat.not_lt_zero k)
  | n + 1, m, h => by
      rw [Finset.sum_range_succ]
      have hrest : (m.erase n).sum f =
          ∑ k ∈ Finset.range n, (((m.erase n).get? k).map (f k)).getD 0 := by
        apply sum_eq_sum_range
        intro k v hk
        rw [get?_erase] at hk
        split at hk
        · cases hk
        · have := h k v hk
          omega
      have hcongr : ∑ k ∈ Finset.range n, (((m.erase n).get? k).map (f k)).getD 0 =
          ∑ k ∈ Finset.range n, ((m.get? k).map (f k)).getD 0 := by
        apply Finset.sum_congr rfl
        intro k hk
        rw [get?_erase, if_neg (Finset.mem_range.mp hk).ne]
      rw [← hcongr, ← hrest]
      cases hn : m.get? n with
      | none => rw [erase_of_get?_eq_none hn]; rfl
      | some v =>
        rw [sum_of_get?_eq_some f hn, Nat.add_comm]
        rfl

/-! ### Counting entries -/

section CountP

variable {k : κ} {v : ν} {p : ν → Bool}

theorem countP_of_get?_eq_some (p : ν → Bool) (h : m.get? k = some v) :
  m.countP p = (m.erase k).countP p + if p v then 1 else 0
  := by
  rw [countP, sum_of_get?_eq_some _ h, Nat.add_comm]
  rfl

theorem countP_insert (k : κ) (v : ν) (p : ν → Bool) :
  (m.insert k v).countP p = (m.erase k).countP p + if p v then 1 else 0
  := by
  rw [countP, sum_insert, Nat.add_comm]
  rfl

theorem countP_erase_le (k : κ) (p : ν → Bool) :
  (m.erase k).countP p ≤ m.countP p
  := by
  cases hk : m.get? k with
  | none => rw [erase_of_get?_eq_none hk]
  | some v =>
    rw [countP_of_get?_eq_some p hk]
    apply Nat.le_add_right

/-- A value is replaced by one that `p` does not tell from it. -/
theorem countP_insert_of_eq {v' : ν} (hk : m.get? k = some v) (hp : p v' = p v) :
  (m.insert k v').countP p = m.countP p
  := by
  rw [countP_insert, countP_of_get?_eq_some p hk, hp]

theorem countP_pos (h : m.get? k = some v) (hp : p v) :
  0 < m.countP p
  := by
  rw [countP_of_get?_eq_some p h, if_pos hp]
  apply Nat.succ_pos

theorem countP_eq_zero (h : ∀ k v, m.get? k = some v → p v = false) :
  m.countP p = 0
  := by
  apply sum_eq_zero
  intro k v hk
  rw [h k v hk]
  rfl

theorem countP_eq_zero_iff :
  m.countP p = 0 ↔ ∀ k v, m.get? k = some v → p v = false
  := by
  constructor
  · intro hzero k v hk
    cases hp : p v with
    | false => rfl
    | true => exact absurd hzero (countP_pos hk hp).ne'
  · apply countP_eq_zero

theorem countP_congr {q : ν → Bool} (h : ∀ k v, m.get? k = some v → p v = q v) :
  m.countP p = m.countP q
  := by
  apply sum_congr
  intro k v hk
  rw [h k v hk]

theorem countP_filter (q p : ν → Bool) :
  (m.filter fun _ v => q v).countP p = m.countP fun v => q v && p v
  := by
  have hsplit := sum_filter_add_sum_filter_not (m := m) (fun _ v => q v)
    fun _ v => if q v && p v then 1 else 0
  have hrest : (m.filter fun _ v => !q v).sum (fun _ v => if q v && p v then 1 else 0) = 0 := by
    apply sum_eq_zero
    intro k v hk
    rw [get?_filter, Option.filter_eq_some_iff] at hk
    simp only [Bool.not_eq_true'] at hk
    simp [hk.2]
  rw [countP, countP, ← hsplit, hrest, Nat.add_zero]
  apply sum_congr
  intro k v hk
  rw [get?_filter, Option.filter_eq_some_iff] at hk
  simp [hk.2]

theorem countP_filter_not_add (q p : ν → Bool) :
  (m.filter fun _ v => !q v).countP p + m.countP (fun v => q v && p v) = m.countP p
  := by
  have hsplit := sum_filter_add_sum_filter_not (m := m) (fun _ v => q v)
    fun _ v => if p v then 1 else 0
  rw [← countP_filter, Nat.add_comm]
  exact hsplit

end CountP

end OrdMap
