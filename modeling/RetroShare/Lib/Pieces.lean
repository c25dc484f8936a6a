import Mathlib.Algebra.BigOperators.Group.List.Basic
import Mathlib.Algebra.GroupWithZero.Nat
import Mathlib.Order.Lattice

/-!
# Pieces of a length

A length `n` is cut into pieces of the length `k`, of which the last one can be shorter.
-/

namespace Pieces

/-- The number of pieces. -/
def count (n k : Nat) : Nat := n / k + if n % k = 0 then 0 else 1

/-- The length of a piece. -/
def size (n k c : Nat) : Nat := min k (n - c * k)

variable {n k c : Nat}

section

variable (hk : 0 < k)
include hk

/-- A piece is there when it starts before the end. -/
theorem lt_count_iff :
  c < count n k ↔ c * k < n
  := by
  have hsplit := Nat.div_add_mod n k
  have hmod := Nat.mod_lt n hk
  have hle : c ≤ n / k ↔ c * k ≤ n := Nat.le_div_iff_mul_le hk
  have hlt : c < n / k ↔ c * k < k * (n / k) := by
    rw [Nat.mul_comm c, Nat.mul_lt_mul_left hk]
  rw [count]
  split
  case isTrue hrem =>
    rw [hrem, Nat.add_zero] at hsplit
    rw [Nat.add_zero, hlt, hsplit]
  case isFalse hrem =>
    rw [Nat.lt_succ_iff, hle]
    constructor
    · intro hle
      apply lt_of_le_of_ne hle
      rintro rfl
      exact hrem (Nat.mul_mod_left c k)
    · exact le_of_lt

theorem size_pos (hc : c < count n k) :
  0 < size n k c
  := lt_min hk (Nat.sub_pos_of_lt ((lt_count_iff hk).mp hc))

/-- An index lies in the piece of its number. -/
theorem lt_of_lt {i : Nat} (hi : i < n) :
  i / k < count n k ∧ i / k * k ≤ i ∧ i < i / k * k + size n k (i / k)
  := by
  have hle := Nat.div_mul_le_self i k
  have hlt := Nat.lt_div_mul_add (a := i) hk
  refine ⟨(lt_count_iff hk).mpr (by omega), hle, ?_⟩
  rw [size]
  omega

end

theorem size_le :
  size n k c ≤ k
  := min_le_left _ _

/-- A piece that is followed by another one is not shorter. -/
theorem size_of_le (h : (c + 1) * k ≤ n) :
  size n k c = k
  := by
  rw [Nat.succ_mul] at h
  apply min_eq_left
  omega

/-- The last piece, when it is shorter. -/
theorem size_div (hk : 0 < k) :
  size n k (n / k) = n % k
  := by
  have hsplit := Nat.div_add_mod' n k
  have hlt := Nat.mod_lt n hk
  rw [size]
  omega

/-- The pieces before a piece. -/
theorem sum_size_range {m : Nat} (hm : m * k ≤ n) :
  ((List.range m).map (size n k)).sum = m * k
  := by
  induction m with
  | zero => simp
  | succ m ih =>
    have hle : m * k ≤ (m + 1) * k := Nat.mul_le_mul_right k (Nat.le_succ m)
    rw [List.range_succ, List.map_append, List.sum_append, ih (hle.trans hm),
      List.map_singleton, List.sum_singleton, size_of_le hm, Nat.succ_mul]

/-- The pieces make up the length. -/
theorem sum_size (hk : 0 < k) :
  ((List.range (count n k)).map (size n k)).sum = n
  := by
  have hfull := sum_size_range (Nat.div_mul_le_self n k)
  have hsplit := Nat.div_add_mod' n k
  rw [count]
  split
  case isTrue hrem =>
    rw [hrem, Nat.add_zero] at hsplit
    rw [Nat.add_zero, hfull, hsplit]
  case isFalse =>
    rw [List.range_succ, List.map_append, List.sum_append, hfull, List.map_singleton,
      List.sum_singleton, size_div hk, hsplit]

end Pieces
