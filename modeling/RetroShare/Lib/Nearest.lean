import Mathlib.Data.List.Dedup
import Mathlib.Data.List.Perm.Subperm
import Mathlib.Order.Lattice

/-!
# The nearest of what has been offered

A loop that keeps the element with the least rank comes to one that no other is below
(`foldl_least`).

Of the elements that are offered one after the other, with repetitions, the nearest `n` are those
before which fewer than `n` others come: in the order of their distances, and of their first
offers where the distances are equal.  `Ranks` says of a list that it holds them in this order, and
is kept up by a list of at most `n` elements alone (`Ranks.place`, `Ranks.pass`, `Ranks.again`).
-/

namespace Nearest

universe u v

/-! ### The least element -/

section Least

variable {α : Type u} {κ : Type v} [LinearOrder κ] (rank : α → κ) (p : α → Prop) [DecidablePred p]

/-- An iteration of a loop that keeps the least of the elements that satisfy `p`. -/
def least (a x : α) : α := if p x ∧ rank x < rank a then x else a

theorem rank_least_le (a x : α) :
  rank (least rank p a x) ≤ rank a
  := by
  rw [least]
  split
  case isTrue h => exact h.2.le
  case isFalse => exact le_rfl

/-- What such a loop keeps is the element at its beginning or one that satisfies `p`, and none of
these is less. -/
theorem foldl_least (l : List α) (a : α) :
  (l.foldl (least rank p) a = a ∨ l.foldl (least rank p) a ∈ l ∧ p (l.foldl (least rank p) a)) ∧
    rank (l.foldl (least rank p) a) ≤ rank a ∧
    ∀ x ∈ l, p x → rank (l.foldl (least rank p) a) ≤ rank x
  := by
  induction l generalizing a with
  | nil => simp
  | cons x l ih =>
    rw [List.foldl_cons]
    obtain ⟨hmem, hle, hall⟩ := ih (least rank p a x)
    refine ⟨?_, hle.trans (rank_least_le rank p a x), ?_⟩
    · obtain hsame | ⟨hmem, hp⟩ := hmem
      · rw [hsame, least]
        split
        case isTrue h => exact .inr ⟨List.mem_cons_self, h.1⟩
        case isFalse => exact .inl rfl
      · exact .inr ⟨List.mem_cons_of_mem x hmem, hp⟩
    · intro y hy hp
      obtain rfl | hy := List.mem_cons.1 hy
      · apply hle.trans
        rw [least]
        split
        case isTrue => exact le_rfl
        case isFalse h => exact not_lt.1 fun hlt => h ⟨hp, hlt⟩
      · exact hall y hy hp

end Least

/-! ### Ranks -/

variable {α : Type u} {κ : Type v} [DecidableEq α] [LinearOrder κ] {dist : α → κ} {n : Nat}
  {offers l : List α} {a b x : α}

/-- One element is nearer than another one, or as near and was offered earlier. -/
def Before (dist : α → κ) (offers : List α) (a b : α) : Prop :=
  dist a < dist b ∨ dist a = dist b ∧ offers.idxOf a < offers.idxOf b

instance : DecidableRel (Before dist offers) :=
  fun _ _ => inferInstanceAs (Decidable (_ ∨ _ ∧ _))

theorem Before.le (h : Before dist offers a b) :
  dist a ≤ dist b
  := by
  rcases h with hlt | ⟨heq, -⟩
  · exact hlt.le
  · exact heq.le

theorem Before.asymm (h : Before dist offers a b) :
  ¬ Before dist offers b a
  := by
  rintro (hlt' | ⟨heq', hidx'⟩)
  · exact hlt'.not_ge h.le
  · rcases h with hlt | ⟨-, hidx⟩
    · exact hlt.ne heq'.symm
    · exact Nat.lt_asymm hidx hidx'

theorem not_before_self :
  ¬ Before dist offers a a
  := fun h => h.asymm h

/-- Later offers do not change the order of the earlier ones. -/
theorem before_append_iff (more : List α) (ha : a ∈ offers) (hb : b ∈ offers) :
  Before dist (offers ++ more) a b ↔ Before dist offers a b
  := by
  rw [Before, Before, List.idxOf_append_of_mem ha, List.idxOf_append_of_mem hb]

/-- What is offered for the first time comes behind all that is as near. -/
theorem before_new_iff (ha : a ∈ offers) (hx : x ∉ offers) :
  Before dist (offers ++ [x]) a x ↔ dist a ≤ dist x
  := by
  have hidx : (offers ++ [x]).idxOf a < (offers ++ [x]).idxOf x := by
    rw [List.idxOf_append_of_mem ha, List.idxOf_append_of_notMem hx]
    exact Nat.lt_add_right _ (List.idxOf_lt_length_of_mem ha)
  rw [Before, le_iff_lt_or_eq]
  exact or_congr_right (and_iff_left hidx)

theorem new_before_iff (ha : a ∈ offers) (hx : x ∉ offers) :
  Before dist (offers ++ [x]) x a ↔ dist x < dist a
  := by
  constructor
  · intro h
    rw [← not_le, ← before_new_iff ha hx]
    exact h.asymm
  · exact .inl

/-- The list holds the nearest `n` of the elements that have been offered, in their order. -/
structure Ranks (dist : α → κ) (n : Nat) (offers l : List α) : Prop where
  sorted : l.Pairwise (Before dist offers)
  subset : l ⊆ offers
  length_le : l.length ≤ n
  full : ∀ a ∈ offers, a ∉ l → l.length = n ∧ ∀ b ∈ l, Before dist offers b a

theorem Ranks.nil :
  Ranks dist n [] []
  where
  sorted := .nil
  subset := List.nil_subset _
  length_le := Nat.zero_le n
  full _ ha := absurd ha List.not_mem_nil

theorem Ranks.nodup (h : Ranks dist n offers l) :
  l.Nodup
  := by
  apply h.sorted.imp
  rintro a _ hbefore rfl
  exact not_before_self hbefore

/-- What is held is what fewer than `n` of the offered elements come before. -/
theorem Ranks.mem_iff (h : Ranks dist n offers l) :
  a ∈ l ↔ a ∈ offers ∧ offers.dedup.countP (Before dist offers · a) < n
  := by
  have hcount : offers.dedup.countP (Before dist offers · a) =
      (offers.dedup.filter (Before dist offers · a)).length := List.countP_eq_length_filter
  constructor
  · intro ha
    refine ⟨h.subset ha, ?_⟩
    -- what comes before an element that is held is held
    have hsub : offers.dedup.filter (Before dist offers · a) ⊆
        l.filter (Before dist offers · a) := by
      intro b hb
      rw [List.mem_filter, List.mem_dedup] at hb
      rw [List.mem_filter]
      refine ⟨?_, hb.2⟩
      by_contra hnot
      have hback := (h.full b hb.1 hnot).2 a ha
      exact hback.asymm (of_decide_eq_true hb.2)
    have hle := (List.subperm_of_subset ((List.nodup_dedup offers).filter _) hsub).length_le
    have hlt : (l.filter (Before dist offers · a)).length < l.length := by
      apply List.length_filter_lt_length_iff_exists.mpr
      exact ⟨a, ha, by simpa using not_before_self⟩
    rw [hcount]
    have hlength := h.length_le
    omega
  · rintro ⟨ha, hlt⟩
    by_contra hnot
    obtain ⟨hlength, hbefore⟩ := h.full a ha hnot
    have hsub : l ⊆ offers.dedup.filter (Before dist offers · a) := by
      intro b hb
      rw [List.mem_filter, List.mem_dedup]
      exact ⟨h.subset hb, decide_eq_true (hbefore b hb)⟩
    have hle := (List.subperm_of_subset h.nodup hsub).length_le
    rw [← hcount] at hle
    omega

/-- The list in which `x` is put behind all that is as near. -/
def place (dist : α → κ) (x : α) (l : List α) : List α :=
  l.filter (dist · ≤ dist x) ++ x :: l.filter fun a => !decide (dist a ≤ dist x)

omit [DecidableEq α] in
theorem mem_place_iff :
  a ∈ place dist x l ↔ a = x ∨ a ∈ l
  := by
  have hperm : (place dist x l).Perm (x :: l) := by
    apply List.perm_middle.trans
    apply List.Perm.cons
    apply List.filter_append_perm
  rw [hperm.mem_iff, List.mem_cons]

omit [DecidableEq α] in
theorem length_place :
  (place dist x l).length = l.length + 1
  := by
  rw [place, List.length_append, List.length_cons, ← Nat.add_assoc, ← List.length_append]
  congr 1
  exact (List.filter_append_perm _ l).length_eq

variable (h : Ranks dist n offers l)

include h

/-- An element that has been offered before changes nothing. -/
theorem Ranks.again (hx : x ∈ offers) :
  Ranks dist n (offers ++ [x]) l
  where
  sorted := by
    apply h.sorted.imp_of_mem
    intro a b ha hb
    exact (before_append_iff [x] (h.subset ha) (h.subset hb)).mpr
  subset := fun a ha => List.mem_append_left _ (h.subset ha)
  length_le := h.length_le
  full a ha hnot := by
    have ha' : a ∈ offers := by
      rcases List.mem_append.mp ha with ha | ha
      · exact ha
      · rwa [List.mem_singleton.mp ha]
    obtain ⟨hlength, hbefore⟩ := h.full a ha' hnot
    refine ⟨hlength, ?_⟩
    intro b hb
    rw [before_append_iff [x] (h.subset hb) ha']
    exact hbefore b hb

/-- All that is held is as near as an offered element that is not. -/
theorem Ranks.countP_of_notMem (hx : x ∈ offers) (hnot : x ∉ l) :
  l.countP (dist · ≤ dist x) = n
  := by
  obtain ⟨hlength, hbefore⟩ := h.full x hx hnot
  rw [← hlength, List.countP_eq_length]
  intro a ha
  exact decide_eq_true (hbefore a ha).le

/-- An element that is offered for the first time is passed over when `n` elements are as near. -/
theorem Ranks.pass (hx : x ∉ offers) (hcount : n ≤ l.countP (dist · ≤ dist x)) :
  Ranks dist n (offers ++ [x]) l
  where
  sorted := by
    apply h.sorted.imp_of_mem
    intro a b ha hb
    exact (before_append_iff [x] (h.subset ha) (h.subset hb)).mpr
  subset := fun a ha => List.mem_append_left _ (h.subset ha)
  length_le := h.length_le
  full a ha hnot := by
    have hle := List.countP_le_length (p := fun a => decide (dist a ≤ dist x)) (l := l)
    have hlength := h.length_le
    refine ⟨by omega, ?_⟩
    intro b hb
    rcases List.mem_append.mp ha with ha | ha
    · rw [before_append_iff [x] (h.subset hb) ha]
      exact (h.full a ha hnot).2 b hb
    · obtain rfl := List.mem_singleton.mp ha
      have hall : ∀ b ∈ l, decide (dist b ≤ dist a) := by
        rw [← List.countP_eq_length]
        omega
      rw [before_new_iff (h.subset hb) hx]
      exact of_decide_eq_true (hall b hb)

/-- Otherwise it takes its place among the nearest `n - 1`. -/
theorem Ranks.place (hx : x ∉ offers) (hcount : l.countP (dist · ≤ dist x) < n) :
  Ranks dist n (offers ++ [x]) (place dist x (l.take (n - 1)))
  := by
  have htake : l.take (n - 1) ⊆ l := List.take_subset _ _
  have hlast : ∀ a ∈ l, a ∉ l.take (n - 1) → l.length = n ∧ dist x < dist a ∧
      ∀ b ∈ l.take (n - 1), Before dist offers b a := by
    intro a ha hnot
    have hsplit := List.take_append_drop (n - 1) l
    have hdrop : a ∈ l.drop (n - 1) := by
      rw [← hsplit] at ha
      exact (List.mem_append.mp ha).resolve_left hnot
    have hsorted := h.sorted
    rw [← hsplit, List.pairwise_append] at hsorted
    have hlength := h.length_le
    have hpos := List.length_pos_of_mem hdrop
    rw [List.length_drop] at hpos
    refine ⟨by omega, ?_, fun b hb => hsorted.2.2 b hb a hdrop⟩
    -- otherwise all would be as near
    by_contra hle
    have hall : ∀ b ∈ l, decide (dist b ≤ dist x) := by
      intro b hb
      apply decide_eq_true
      apply le_trans _ (not_lt.mp hle)
      rw [← hsplit] at hb
      rcases List.mem_append.mp hb with hb | hb
      · exact (hsorted.2.2 b hb a hdrop).le
      · have hone : (l.drop (n - 1)).length = 1 := by
          rw [List.length_drop]
          omega
        obtain ⟨c, hc⟩ := List.length_eq_one_iff.mp hone
        rw [hc, List.mem_singleton] at hb hdrop
        rw [hb, hdrop]
    rw [← List.countP_eq_length] at hall
    omega
  have hnew : ∀ {a b}, a ∈ l.take (n - 1) → b ∈ l.take (n - 1) → Before dist offers a b →
      Before dist (offers ++ [x]) a b := by
    intro a b ha hb
    exact (before_append_iff [x] (h.subset (htake ha)) (h.subset (htake hb))).mpr
  constructor
  case sorted =>
    have hsorted := (h.sorted.sublist (List.take_sublist (n - 1) l)).imp_of_mem hnew
    rw [Nearest.place, List.pairwise_append]
    refine ⟨hsorted.filter _, ?_, ?_⟩
    · apply List.Pairwise.cons
      · intro a ha
        obtain ⟨ha, hfar⟩ := List.mem_filter.mp ha
        rw [new_before_iff (h.subset (htake ha)) hx]
        simpa using hfar
      · exact hsorted.filter _
    · intro a ha b hb
      obtain ⟨ha, hnear⟩ := List.mem_filter.mp ha
      have hnear : dist a ≤ dist x := of_decide_eq_true hnear
      rcases List.mem_cons.mp hb with hb | hb
      · rw [hb, before_new_iff (h.subset (htake ha)) hx]
        exact hnear
      · obtain ⟨hb, hfar⟩ := List.mem_filter.mp hb
        have hfar : dist x < dist b := by simpa using hfar
        exact .inl (hnear.trans_lt hfar)
  case subset =>
    intro a ha
    rcases mem_place_iff.mp ha with rfl | ha
    · exact List.mem_append_right _ List.mem_cons_self
    · exact List.mem_append_left _ (h.subset (htake ha))
  case length_le =>
    rw [length_place, List.length_take]
    omega
  case full =>
    intro a ha hnot
    rw [mem_place_iff, not_or] at hnot
    have ha' : a ∈ offers := by
      rcases List.mem_append.mp ha with ha | ha
      · exact ha
      · exact absurd (List.mem_singleton.mp ha) hnot.1
    -- `a` was not held, or it has been held last
    have hfar : l.length = n ∧ dist x < dist a ∧
        ∀ b ∈ l.take (n - 1), Before dist offers b a := by
      by_cases hal : a ∈ l
      · exact hlast a hal hnot.2
      · obtain ⟨hlength, hbefore⟩ := h.full a ha' hal
        refine ⟨hlength, ?_, fun b hb => hbefore b (htake hb)⟩
        obtain ⟨b, hb, hbfar⟩ : ∃ b ∈ l, ¬ dist b ≤ dist x := by
          by_contra hnone
          push Not at hnone
          rw [List.countP_eq_length.mpr fun b hb => decide_eq_true (hnone b hb)] at hcount
          omega
        exact (not_le.mp hbfar).trans_le (hbefore b hb).le
    obtain ⟨hlength, hdist, hbefore⟩ := hfar
    refine ⟨?_, ?_⟩
    · rw [length_place, List.length_take]
      omega
    · intro b hb
      rcases mem_place_iff.mp hb with rfl | hb
      · exact .inl hdist
      · rw [before_append_iff [x] (h.subset (htake hb)) ha']
        exact hbefore b hb

end Nearest
