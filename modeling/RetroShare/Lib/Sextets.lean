import Mathlib.Data.List.Basic
import Mathlib.Tactic.IntervalCases

/-!
# Groups of six bits

Three bytes hold as many bits as four groups of six.  `bytesOf` puts the bits of a list of such
groups together to bytes, and drops the bits that do not fill a byte; `sextetsOf` takes bytes
apart, and fills the last group up with zeros.  Taking bytes apart loses nothing
(`bytesOf_sextetsOf`), and putting the groups together loses nothing when their number is a multiple
of four (`sextetsOf_bytesOf`).
-/

namespace Sextets

/-! ### Bytes that lie in two groups -/

/-- The first byte of four groups lies in the first two of them. -/
def joinFirst (a b : BitVec 6) : UInt8 := .ofBitVec ((a ++ b).extractLsb' 4 8)

/-- The second byte of four groups lies in the middle ones. -/
def joinSecond (b c : BitVec 6) : UInt8 := .ofBitVec ((b ++ c).extractLsb' 2 8)

/-- The third byte of four groups lies in the last two of them. -/
def joinThird (c d : BitVec 6) : UInt8 := .ofBitVec ((c ++ d).extractLsb' 0 8)

/-- The first group lies in the first of three bytes. -/
def splitFirst (x : UInt8) : BitVec 6 := x.toBitVec.extractLsb' 2 6

/-- The second group lies in the first two of three bytes. -/
def splitSecond (x y : UInt8) : BitVec 6 := (x.toBitVec ++ y.toBitVec).extractLsb' 4 6

/-- The third group lies in the last two of three bytes. -/
def splitThird (y z : UInt8) : BitVec 6 := (y.toBitVec ++ z.toBitVec).extractLsb' 6 6

/-- The fourth group lies in the last of three bytes. -/
def splitFourth (z : UInt8) : BitVec 6 := z.toBitVec.extractLsb' 0 6

section Bits

variable (a b c d : BitVec 6) (x y z : UInt8)

@[simp]
theorem joinFirst_split :
  joinFirst (splitFirst x) (splitSecond x y) = x
  := by
  apply UInt8.toBitVec_inj.1
  apply BitVec.eq_of_getLsbD_eq
  intro i hi
  simp only [joinFirst, splitFirst, splitSecond,
    BitVec.getLsbD_append, BitVec.getLsbD_extractLsb']
  interval_cases i <;> simp

@[simp]
theorem joinSecond_split :
  joinSecond (splitSecond x y) (splitThird y z) = y
  := by
  apply UInt8.toBitVec_inj.1
  apply BitVec.eq_of_getLsbD_eq
  intro i hi
  simp only [joinSecond, splitSecond, splitThird,
    BitVec.getLsbD_append, BitVec.getLsbD_extractLsb']
  interval_cases i <;> simp

@[simp]
theorem joinThird_split :
  joinThird (splitThird y z) (splitFourth z) = z
  := by
  apply UInt8.toBitVec_inj.1
  apply BitVec.eq_of_getLsbD_eq
  intro i hi
  simp only [joinThird, splitThird, splitFourth,
    BitVec.getLsbD_append, BitVec.getLsbD_extractLsb']
  interval_cases i <;> simp

@[simp]
theorem splitFirst_join :
  splitFirst (joinFirst a b) = a
  := by
  apply BitVec.eq_of_getLsbD_eq
  intro i hi
  simp only [joinFirst, splitFirst,
    BitVec.getLsbD_append, BitVec.getLsbD_extractLsb']
  interval_cases i <;> simp

@[simp]
theorem splitSecond_join :
  splitSecond (joinFirst a b) (joinSecond b c) = b
  := by
  apply BitVec.eq_of_getLsbD_eq
  intro i hi
  simp only [joinFirst, joinSecond, splitSecond,
    BitVec.getLsbD_append, BitVec.getLsbD_extractLsb']
  interval_cases i <;> simp

@[simp]
theorem splitThird_join :
  splitThird (joinSecond b c) (joinThird c d) = c
  := by
  apply BitVec.eq_of_getLsbD_eq
  intro i hi
  simp only [joinSecond, joinThird, splitThird,
    BitVec.getLsbD_append, BitVec.getLsbD_extractLsb']
  interval_cases i <;> simp

@[simp]
theorem splitFourth_join :
  splitFourth (joinThird c d) = d
  := by
  apply BitVec.eq_of_getLsbD_eq
  intro i hi
  simp only [joinThird, splitFourth,
    BitVec.getLsbD_append, BitVec.getLsbD_extractLsb']
  interval_cases i <;> simp

end Bits

/-! ### Lists -/

/-- The bytes of a list of groups. -/
def bytesOf : List (BitVec 6) → List UInt8
  | a :: b :: c :: d :: s => joinFirst a b :: joinSecond b c :: joinThird c d :: bytesOf s
  | [a, b, c] => [joinFirst a b, joinSecond b c]
  | [a, b] => [joinFirst a b]
  | [_] => []
  | [] => []

/-- The groups of a list of bytes. -/
def sextetsOf : List UInt8 → List (BitVec 6)
  | x :: y :: z :: s =>
      splitFirst x :: splitSecond x y :: splitThird y z :: splitFourth z :: sextetsOf s
  | [x, y] => [splitFirst x, splitSecond x y, splitThird y 0]
  | [x] => [splitFirst x, splitSecond x 0]
  | [] => []

theorem bytesOf_sextetsOf (s : List UInt8) :
  bytesOf (sextetsOf s) = s
  := by
  fun_induction sextetsOf s with
  | case1 x y z s ih => simp [bytesOf, ih]
  | case2 x y => simp [bytesOf]
  | case3 x => simp [bytesOf]
  | case4 => rfl

variable {s : List (BitVec 6)}

/-- Groups in fours that have been put together are taken apart again. -/
theorem sextetsOf_bytesOf (h : 4 ∣ s.length) :
  sextetsOf (bytesOf s) = s
  := by
  fun_induction bytesOf s with
  | case1 a b c d s ih =>
    have hs : 4 ∣ s.length := by
      simp only [List.length_cons] at h
      omega
    simp [sextetsOf, ih hs]
  | case2 a b c => simp at h
  | case3 a b => simp at h
  | case4 a => simp at h
  | case5 => rfl

theorem length_bytesOf (s : List (BitVec 6)) :
  (bytesOf s).length = 3 * s.length / 4
  := by
  fun_induction bytesOf s with
  | case1 a b c d s ih =>
    simp only [List.length_cons, ih]
    omega
  | case2 a b c => simp
  | case3 a b => simp
  | case4 a => simp
  | case5 => rfl

/-- Groups in fours are put together for themselves. -/
theorem bytesOf_append (h : 4 ∣ s.length) (t : List (BitVec 6)) :
  bytesOf (s ++ t) = bytesOf s ++ bytesOf t
  := by
  fun_induction bytesOf s with
  | case1 a b c d s ih =>
    have hs : 4 ∣ s.length := by
      simp only [List.length_cons] at h
      omega
    simp [bytesOf, ih hs]
  | case2 a b c => simp at h
  | case3 a b => simp at h
  | case4 a => simp at h
  | case5 => rfl

theorem length_sextetsOf (s : List UInt8) :
  (sextetsOf s).length = (4 * s.length + 2) / 3
  := by
  fun_induction sextetsOf s with
  | case1 x y z s ih =>
    simp only [List.length_cons, ih]
    omega
  | case2 x y => simp
  | case3 x => simp
  | case4 => rfl

/-- A list that moves by one place when `a` is put in front of it has nothing but `a` in it. -/
theorem cons_eq_concat_iff {α : Type} {a : α} {s : List α} :
  (∃ r, a :: s = s ++ [r]) ↔ ∀ b ∈ s, b = a
  := by
  constructor
  · rintro ⟨r, h⟩
    induction s with
    | nil => simp
    | cons b s ih =>
      obtain ⟨rfl, hs⟩ := List.cons_eq_cons.1 h
      intro c hc
      obtain rfl | hc := List.mem_cons.1 hc
      · rfl
      · exact ih hs c hc
  · intro h
    use a
    rw [List.eq_replicate_of_mem h, ← List.replicate_succ', List.replicate_succ]

/-- Putting one group into groups in fours leaves the bytes as they are just when all the groups
after it are the same. -/
theorem bytesOf_insert_iff {t : List (BitVec 6)} (h : 4 ∣ (s ++ t).length) (a : BitVec 6) :
  bytesOf (s ++ a :: t) = bytesOf (s ++ t) ↔ ∀ b ∈ t, b = a
  := by
  obtain ⟨init, last, hlast⟩ : ∃ init last, a :: t = init ++ [last] :=
    ⟨_, _, (List.dropLast_concat_getLast (List.cons_ne_nil a t)).symm⟩
  have hlen : init.length = t.length := by
    have := congrArg List.length hlast
    simpa using this.symm
  have hinit : 4 ∣ (s ++ init).length := by
    rw [List.length_append, hlen, ← List.length_append]
    exact h
  have hdrop : bytesOf (s ++ a :: t) = bytesOf (s ++ init) := by
    rw [hlast, ← List.append_assoc, bytesOf_append hinit]
    apply List.append_nil
  rw [hdrop, ← cons_eq_concat_iff, hlast]
  constructor
  · intro hbytes
    have heq := congrArg sextetsOf hbytes
    rw [sextetsOf_bytesOf hinit, sextetsOf_bytesOf h] at heq
    use last
    rw [List.append_cancel_left heq]
  · rintro ⟨r, hr⟩
    rw [(List.append_inj hr hlen).1]

end Sextets
