import Mathlib.Data.List.Nodup

/-!
# Exchanging elements of the two parts of a list

A list is cut at `m`.  Elements of the first part that do not satisfy `p` change places with
elements of the second part that do: with every exchange one more element of the first part
satisfies `p`.
-/

namespace Exchange

universe u

variable {α : Type u} {p : α → Bool} {l : List α} {m i j n k : Nat} {a b : α}
  {pairs : List (Nat × Nat)}

/-- The list in which the elements at two positions change places. -/
def swap (l : List α) (i j : Nat) : List α :=
  match l[i]?, l[j]? with
  | some a, some b => (l.set i b).set j a
  | _, _ => l

/-- The list after some exchanges. -/
def swaps (l : List α) (pairs : List (Nat × Nat)) : List α :=
  pairs.foldl (fun l pair => swap l pair.1 pair.2) l

/-- An element that satisfies `p` is at the position. -/
def At (p : α → Bool) (l : List α) (i : Nat) : Bool := l[i]?.any p

theorem swap_eq (hi : l[i]? = some a) (hj : l[j]? = some b) :
  swap l i j = (l.set i b).set j a
  := by
  rw [swap, hi, hj]

/-- An element that changes places with itself stays. -/
theorem swap_self (l : List α) (i : Nat) :
  swap l i i = l
  := by
  rw [swap]
  split
  case h_1 a b ha hb =>
    obtain ⟨hlt, rfl⟩ := List.getElem?_eq_some_iff.mp ha
    rw [← Option.some.inj (ha.symm.trans hb), List.set_set, List.set_getElem_self]
  case h_2 => rfl

@[simp]
theorem length_swap (l : List α) (i j : Nat) :
  (swap l i j).length = l.length
  := by
  rw [swap]
  split <;> simp

theorem getElem?_swap (hi : k ≠ i) (hj : k ≠ j) :
  (swap l i j)[k]? = l[k]?
  := by
  rw [swap]
  split
  · rw [List.getElem?_set_ne hj.symm, List.getElem?_set_ne hi.symm]
  · rfl

theorem at_swap (hi : k ≠ i) (hj : k ≠ j) :
  At p (swap l i j) k = At p l k
  := by
  rw [At, At, getElem?_swap hi hj]

/-- The first part with another element. -/
theorem countP_take_set (hi : i < m) (hget : l[i]? = some a) (ha : p a = false) (hb : p b = true) :
  ((l.set i b).take m).countP p = (l.take m).countP p + 1
  := by
  obtain ⟨hlt, rfl⟩ := List.getElem?_eq_some_iff.mp hget
  have hlt' : i < (l.take m).length := by
    rw [List.length_take]
    omega
  have hsplit : l.take m = (l.take m).take i ++ l[i] :: (l.take m).drop (i + 1) := by
    conv_lhs => rw [← List.take_append_drop i (l.take m), List.drop_eq_getElem_cons hlt',
      List.getElem_take]
  have hset : (l.set i b).take m = (l.take m).take i ++ b :: (l.take m).drop (i + 1) := by
    rw [List.take_set, List.set_eq_take_append_cons_drop, if_pos hlt']
  rw [hset]
  conv_rhs => rw [hsplit]
  rw [List.countP_append, List.countP_append, List.countP_cons_of_pos hb,
    List.countP_cons_of_neg (by rw [ha]; exact Bool.false_ne_true)]
  rfl

/-- An exchange brings one more element that satisfies `p` to the first part. -/
theorem countP_take_swap (hi : i < m) (hj : m ≤ j) (hgeti : l[i]? = some a) (hgetj : l[j]? = some b)
    (ha : p a = false) (hb : p b = true) :
  ((swap l i j).take m).countP p = (l.take m).countP p + 1
  := by
  rw [swap_eq hgeti hgetj, List.take_set_of_le hj]
  exact countP_take_set hi hgeti ha hb

/-- The positions are those of elements that are to change places. -/
structure Exchanges (p : α → Bool) (l : List α) (m : Nat) (pairs : List (Nat × Nat)) : Prop where
  nodup_fst : (pairs.map Prod.fst).Nodup
  nodup_snd : (pairs.map Prod.snd).Nodup
  first : ∀ pair ∈ pairs, pair.1 < m ∧ pair.1 < l.length ∧ At p l pair.1 = false
  second : ∀ pair ∈ pairs, m ≤ pair.2 ∧ At p l pair.2 = true

theorem exists_of_at (h : At p l i = true) :
  ∃ a, l[i]? = some a ∧ p a = true
  := by
  rw [At, Option.any_eq_true] at h
  exact h

theorem exists_of_not_at (hlt : i < l.length) (h : At p l i = false) :
  ∃ a, l[i]? = some a ∧ p a = false
  := by
  rw [At, List.getElem?_eq_getElem hlt] at h
  exact ⟨l[i], List.getElem?_eq_getElem hlt, h⟩

theorem Exchanges.tail {pair : Nat × Nat} (h : Exchanges p l m (pair :: pairs)) :
  Exchanges p (swap l pair.1 pair.2) m pairs
  := by
  obtain ⟨hfst, hsnd, hfirst, hsecond⟩ := h
  rw [List.map_cons, List.nodup_cons] at hfst hsnd
  have hhead := (hfirst pair List.mem_cons_self).1
  have hhead' := (hsecond pair List.mem_cons_self).1
  refine ⟨hfst.2, hsnd.2, ?_, ?_⟩
  · intro pair' hpair
    obtain ⟨hlt, hlength, hat⟩ := hfirst pair' (List.mem_cons_of_mem _ hpair)
    rw [length_swap, at_swap _ (by omega)]
    · exact ⟨hlt, hlength, hat⟩
    · intro heq
      exact hfst.1 (heq ▸ List.mem_map_of_mem hpair)
  · intro pair' hpair
    obtain ⟨hle, hat⟩ := hsecond pair' (List.mem_cons_of_mem _ hpair)
    rw [at_swap (by omega)]
    · exact ⟨hle, hat⟩
    · intro heq
      exact hsnd.1 (heq ▸ List.mem_map_of_mem hpair)

theorem Exchanges.countP_take (h : Exchanges p l m pairs) :
  ((swaps l pairs).take m).countP p = (l.take m).countP p + pairs.length
  := by
  induction pairs generalizing l with
  | nil => rfl
  | cons pair pairs ih =>
    obtain ⟨hlt, hlength, hat⟩ := h.first pair List.mem_cons_self
    obtain ⟨hle, hat'⟩ := h.second pair List.mem_cons_self
    obtain ⟨a, hgeta, ha⟩ := exists_of_not_at hlength hat
    obtain ⟨b, hgetb, hb⟩ := exists_of_at hat'
    change ((swaps (swap l pair.1 pair.2) pairs).take m).countP p = _
    rw [ih h.tail, countP_take_swap hlt hle hgeta hgetb ha hb, List.length_cons]
    omega

theorem Exchanges.take (h : Exchanges p l m pairs) (k : Nat) :
  Exchanges p l m (pairs.take k)
  := by
  refine ⟨?_, ?_, ?_, ?_⟩
  · rw [List.map_take]
    exact h.nodup_fst.sublist (List.take_sublist k _)
  · rw [List.map_take]
    exact h.nodup_snd.sublist (List.take_sublist k _)
  · intro pair hpair
    exact h.first pair (List.mem_of_mem_take hpair)
  · intro pair hpair
    exact h.second pair (List.mem_of_mem_take hpair)

/-- Positions of the two parts, put together. -/
theorem exchanges_zip {is js : List Nat} (hnodup : is.Nodup) (hnodup' : js.Nodup)
    (hfirst : ∀ i ∈ is, i < m ∧ i < l.length ∧ At p l i = false)
    (hsecond : ∀ j ∈ js, m ≤ j ∧ At p l j = true) :
  Exchanges p l m (is.zip js)
  := by
  have htake : (is.take (min is.length js.length)).length =
      (js.take (min is.length js.length)).length := by
    rw [List.length_take, List.length_take]
    omega
  refine ⟨?_, ?_, ?_, ?_⟩
  · rw [List.zip_eq_zip_take_min, List.map_fst_zip (Nat.le_of_eq htake)]
    exact hnodup.sublist (List.take_sublist _ _)
  · rw [List.zip_eq_zip_take_min, List.map_snd_zip (Nat.le_of_eq htake.symm)]
    exact hnodup'.sublist (List.take_sublist _ _)
  · intro pair hpair
    exact hfirst pair.1 (List.of_mem_zip hpair).1
  · intro pair hpair
    exact hsecond pair.2 (List.of_mem_zip hpair).2

/-! ### Positions -/

/-- The positions among `n` from `i` on at which there are elements that satisfy `p`. -/
def positions (p : α → Bool) (l : List α) (i n : Nat) : List Nat :=
  (List.range' i n).filter (At p l)

/-- Those at which there are other elements. -/
def others (p : α → Bool) (l : List α) (i n : Nat) : List Nat :=
  (List.range' i n).filter fun k => !At p l k

theorem positions_succ (h : At p l i = true) :
  positions p l i (n + 1) = i :: positions p l (i + 1) n
  := by
  rw [positions, List.range'_succ, List.filter_cons_of_pos h]
  rfl

theorem positions_succ_of_not (h : At p l i = false) :
  positions p l i (n + 1) = positions p l (i + 1) n
  := by
  rw [positions, List.range'_succ, List.filter_cons_of_neg (by rw [h]; exact Bool.false_ne_true)]
  rfl

theorem others_succ (h : At p l i = true) :
  others p l i (n + 1) = others p l (i + 1) n
  := by
  rw [others, List.range'_succ, List.filter_cons_of_neg (by simp [h])]
  rfl

theorem others_succ_of_not (h : At p l i = false) :
  others p l i (n + 1) = i :: others p l (i + 1) n
  := by
  rw [others, List.range'_succ, List.filter_cons_of_pos (by simp [h])]
  rfl

theorem length_positions (p : α → Bool) (l : List α) (i n : Nat) :
  (positions p l i n).length = ((l.drop i).take n).countP p
  := by
  induction n generalizing i with
  | zero => simp [positions]
  | succ n ih =>
    by_cases hlt : i < l.length
    · rw [List.drop_eq_getElem_cons hlt, List.take_succ_cons]
      by_cases hp : p l[i]
      · rw [positions_succ (by simpa [At, hlt] using hp), List.length_cons, ih,
          List.countP_cons_of_pos hp]
      · rw [positions_succ_of_not (by simpa [At, hlt] using hp), ih, List.countP_cons_of_neg hp]
    · rw [positions_succ_of_not (by simp [At, hlt]), ih, List.drop_of_length_le (by omega),
        List.drop_of_length_le (by omega), List.take_nil, List.take_nil]

theorem length_others (p : α → Bool) (l : List α) (i n : Nat) :
  (positions p l i n).length + (others p l i n).length = n
  := by
  have hlength := List.length_eq_length_filter_add (l := List.range' i n) (At p l)
  rw [List.length_range'] at hlength
  exact hlength.symm

theorem exchanges_others (p : α → Bool) (l : List α) (m k k' : Nat) :
  Exchanges p l m (((others p l 0 (min m l.length)).zip
    ((positions p l (min m l.length) (l.length - min m l.length)).take k)).take k')
  := by
  apply Exchanges.take
  apply exchanges_zip
  · exact List.Nodup.filter _ List.nodup_range'
  · exact (List.Nodup.filter _ List.nodup_range').sublist (List.take_sublist _ _)
  · intro i hi
    obtain ⟨hrange, hat⟩ := List.mem_filter.mp hi
    rw [List.mem_range'_1] at hrange
    exact ⟨by omega, by omega, by simpa using hat⟩
  · intro j hj
    obtain ⟨hrange, hat⟩ := List.mem_filter.mp (List.mem_of_mem_take hj)
    rw [List.mem_range'_1] at hrange
    exact ⟨by omega, hat⟩

/-- With them as many elements that satisfy `p` are in the first part as can be there.  When the
first part is the whole list there is nothing to exchange. -/
theorem countP_take_exchanges (hk : k = m - (l.take m).countP p ∨ l.length ≤ m) :
  ((swaps l (((others p l 0 (min m l.length)).zip
    ((positions p l (min m l.length) (l.length - min m l.length)).take
      (m - (l.take m).countP p))).take k)).take m).countP p = min m (l.countP p)
  := by
  have htotal : l.countP p = (l.take m).countP p + (l.drop m).countP p := by
    rw [← List.countP_append, List.take_append_drop]
  have hfirst : (l.take m).countP p ≤ min m l.length := by
    rw [← List.length_take]
    exact List.countP_le_length
  have hothers := length_others p l 0 (min m l.length)
  have hpositions : (positions p l 0 (min m l.length)).length = (l.take m).countP p := by
    rw [length_positions, List.drop_zero, ← List.take_eq_take_min]
  have hsecond : (positions p l (min m l.length) (l.length - min m l.length)).length =
      (l.drop m).countP p := by
    rw [length_positions, List.take_of_length_le (Nat.le_of_eq List.length_drop)]
    by_cases hle : m ≤ l.length
    · rw [Nat.min_eq_left hle]
    · rw [Nat.min_eq_right (by omega), List.drop_length, List.drop_of_length_le (by omega)]
  have hrest : (l.drop m).countP p ≤ l.length - m := by
    rw [← List.length_drop]
    exact List.countP_le_length
  rw [(exchanges_others p l m _ k).countP_take, List.length_take, List.length_zip, List.length_take,
    hsecond, htotal]
  omega

end Exchange
