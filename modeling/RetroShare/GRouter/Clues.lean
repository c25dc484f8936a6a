import Mathlib.Algebra.BigOperators.Ring.List
import Mathlib.Tactic.Positivity
import RetroShare.GRouter.Matrix

/-!
# The clues of the routing matrix

`GRouterMatrix.Sound` says that the indices of the friends are those of the clues, that the clues of
a key are few, sorted and apart, and that the probabilities are normalized.  Exactly the loads that
leave clues of unknown friends break it.
-/

universe u v

namespace GRouter

variable {κ : Type u} {φ : Type v} [LinearOrder κ] [LinearOrder φ]

/-- The probabilities of friends: values between 0 and 1 that sum up to 1, or are all 0. -/
structure Normalized (probas : List ℚ) : Prop where
  range : ∀ p ∈ probas, 0 ≤ p ∧ p ≤ 1
  total : probas.sum = 1 ∨ ∀ p ∈ probas, p = 0

/-- The clues of a key are few, newest first, and those of one friend are apart. -/
structure Spaced (clues : List RoutingMatrixHitEntry) : Prop where
  count : clues.length ≤ matrixMaxHitEntries
  newest : clues.Pairwise fun clue older => older.timeStamp ≤ clue.timeStamp
  apart : clues.Pairwise fun clue older => clue.friendId = older.friendId →
    older.timeStamp + matrixMinTimeBetweenHits ≤ clue.timeStamp

/-- A clue that is not too close comes in front. -/
theorem Spaced.cons {lst : List RoutingMatrixHitEntry} (h : Spaced lst)
    {rc : RoutingMatrixHitEntry} (hpast : ∀ clue ∈ lst, clue.timeStamp ≤ rc.timeStamp)
    (hflood : ¬GRouterMatrix.isFlooded lst rc.friendId rc.timeStamp) :
  Spaced ((rc :: lst).take matrixMaxHitEntries)
  := by
  have hclear : ∀ clue ∈ lst, rc.friendId = clue.friendId →
      clue.timeStamp + matrixMinTimeBetweenHits ≤ rc.timeStamp := by
    intro clue hclue hfriend
    by_contra hlate
    apply hflood
    rw [GRouterMatrix.isFlooded, List.any_eq_true]
    refine ⟨clue, hclue, ?_⟩
    simp [hfriend, not_le.1 hlate]
  constructor
  · rw [List.length_take]
    apply Nat.min_le_left
  · exact (List.pairwise_cons.2 ⟨hpast, h.newest⟩).sublist (List.take_sublist _ _)
  · exact (List.pairwise_cons.2 ⟨hclear, h.apart⟩).sublist (List.take_sublist _ _)

theorem spaced_nil :
  Spaced []
  := by
  constructor
  · apply Nat.zero_le
  · exact List.Pairwise.nil
  · exact List.Pairwise.nil

namespace GRouterMatrix

variable (matrix : GRouterMatrix κ φ)

/-- The indices and the lists of friends are inverse to each other, the clues have valid indices,
and are spaced, and the probabilities are normalized.  `within` says that the vectors of weights
have a place for each friend. -/
structure Sound : Prop where
  inverse : ∀ source_friend i, matrix.friendIndices.get? source_friend = some i ↔
    matrix.reverseFriendIndices[i]? = some source_friend
  within : matrix.friendIndices.toList.length = matrix.reverseFriendIndices.length
  valid : ∀ key clues, matrix.routingClues.get? key = some clues → ∀ clue ∈ clues,
    clue.friendId < matrix.reverseFriendIndices.length
  spaced : ∀ key clues, matrix.routingClues.get? key = some clues → Spaced clues
  probas : ∀ key friends, friends.Nodup →
    (matrix.computeRoutingProbabilities key friends).2.length = friends.length ∧
      Normalized (matrix.computeRoutingProbabilities key friends).2

/-- The matrix is sound up to the time `now`, with positive weights. -/
structure Kept (now : Int) : Prop where
  inverse : ∀ source_friend i, matrix.friendIndices.get? source_friend = some i ↔
    matrix.reverseFriendIndices[i]? = some source_friend
  valid : ∀ key clues, matrix.routingClues.get? key = some clues → ∀ clue ∈ clues,
    clue.friendId < matrix.reverseFriendIndices.length
  spaced : ∀ key clues, matrix.routingClues.get? key = some clues → Spaced clues
  past : ∀ key clues, matrix.routingClues.get? key = some clues → ∀ clue ∈ clues,
    0 < clue.weight ∧ clue.timeStamp ≤ now
  hits : ∀ key w, matrix.timeCombinedHits.get? key = some w → ∀ weight ∈ w, 0 ≤ weight

variable {matrix} {now : Int} {clues : List RoutingMatrixHitEntry} {friends : List φ}
  {source_friend : φ} {saved : GRouterMatrix κ φ}

/-! ### Probabilities -/

theorem normalized_of_nonneg {probas : List ℚ} (h : ∀ p ∈ probas, 0 ≤ p) :
  Normalized (if 0 < probas.sum then probas.map (· / probas.sum) else probas)
  := by
  split
  case isTrue hpos =>
    constructor
    · intro p hp
      obtain ⟨q, hq, rfl⟩ := List.mem_map.1 hp
      have hle : q ≤ probas.sum := List.single_le_sum h q hq
      exact ⟨div_nonneg (h q hq) hpos.le, (div_le_one hpos).2 hle⟩
    · left
      have hsum := List.sum_map_mul_right probas id probas.sum⁻¹
      simp only [id_eq, List.map_id, ← div_eq_mul_inv] at hsum
      rw [hsum, div_self hpos.ne']
  case isFalse hzero =>
    have hall : ∀ p ∈ probas, p = 0 := by
      intro p hp
      apply le_antisymm _ (h p hp)
      exact (List.single_le_sum h p hp).trans (not_lt.1 hzero)
    refine ⟨?_, .inr hall⟩
    intro p hp
    rw [hall p hp]
    exact ⟨le_rfl, zero_le_one⟩

section

variable (h : matrix.Kept now)

include h

theorem Kept.probas (key : κ) (friends : List φ) :
  (matrix.computeRoutingProbabilities key friends).2.length = friends.length ∧
    Normalized (matrix.computeRoutingProbabilities key friends).2
  := by
  rw [computeRoutingProbabilities]
  cases hget : matrix.timeCombinedHits.get? key with
  | none =>
    refine ⟨List.length_replicate, ?_, .inr ?_⟩
    · intro p hp
      rw [List.eq_of_mem_replicate hp]
      exact ⟨le_rfl, zero_le_one⟩
    · exact fun p hp => List.eq_of_mem_replicate hp
  | some w =>
    constructor
    · simp only
      split
      · rw [List.length_map, List.length_map]
      · rw [List.length_map]
    · apply normalized_of_nonneg
      intro p hp
      obtain ⟨source_friend, -, rfl⟩ := List.mem_map.1 hp
      cases hweight : w[matrix.getFriendIdConst source_friend]? with
      | none => exact le_rfl
      | some weight => exact h.hits key w hget weight (List.mem_of_getElem? hweight)

/-! ### Indices -/

theorem Kept.nodup :
  matrix.reverseFriendIndices.Nodup
  := by
  rw [List.nodup_iff_getElem?_ne_getElem?]
  intro i j hij hj heq
  have hget := (h.inverse _ i).2 (List.getElem?_eq_getElem (hij.trans hj))
  have hget' := (h.inverse _ j).2 (heq ▸ List.getElem?_eq_getElem (hij.trans hj))
  rw [hget] at hget'
  exact hij.ne (Option.some.inj hget')

theorem Kept.within :
  matrix.friendIndices.toList.length = matrix.reverseFriendIndices.length
  := by
  have hnodup : (matrix.friendIndices.toList.map Prod.fst).Nodup := by
    apply List.Pairwise.map Prod.fst _ matrix.friendIndices.sorted
    intro e e' hlt
    exact hlt.ne
  have hperm : (matrix.friendIndices.toList.map Prod.fst).Perm matrix.reverseFriendIndices := by
    rw [List.perm_ext_iff_of_nodup hnodup h.nodup]
    intro source_friend
    rw [List.mem_map, List.mem_iff_getElem?]
    constructor
    · rintro ⟨⟨_, i⟩, he, rfl⟩
      exact ⟨i, (h.inverse _ i).1 (OrdMap.mem_toList.1 he)⟩
    · rintro ⟨i, hi⟩
      exact ⟨(source_friend, i), OrdMap.mem_toList.2 ((h.inverse _ i).2 hi), rfl⟩
  rw [← hperm.length_eq, List.length_map]

theorem Kept.sound :
  matrix.Sound
  := by
  refine ⟨h.inverse, h.within, h.valid, h.spaced, ?_⟩
  intro key friends _
  exact h.probas key friends

theorem Kept.mono {now' : Int} (hle : now ≤ now') :
  matrix.Kept now'
  := by
  refine ⟨h.inverse, h.valid, h.spaced, ?_, h.hits⟩
  intro key clues hget clue hclue
  obtain ⟨hpos, hpast⟩ := h.past key clues hget clue hclue
  exact ⟨hpos, hpast.trans hle⟩

end

theorem kept_new (now : Int) :
  (new : GRouterMatrix κ φ).Kept now
  := by
  constructor
  · intro source_friend i
    simp [new]
  · rintro key clues ⟨⟩
  · rintro key clues ⟨⟩
  · rintro key clues ⟨⟩
  · rintro key w ⟨⟩

/-! ### `addRoutingClue` -/

/-- A friend has an index after `getFriendId`, with which nothing else changes. -/
theorem Kept.getFriendId (h : matrix.Kept now) (source_friend : φ) :
  (matrix.getFriendId source_friend).1.Kept now ∧
    (matrix.getFriendId source_friend).2 <
      (matrix.getFriendId source_friend).1.reverseFriendIndices.length ∧
    (matrix.getFriendId source_friend).1.routingClues = matrix.routingClues
  := by
  rw [GRouterMatrix.getFriendId]
  cases hget : matrix.friendIndices.get? source_friend with
  | some fid =>
    refine ⟨h, ?_, rfl⟩
    obtain ⟨hlt, -⟩ := List.getElem?_eq_some_iff.1 ((h.inverse source_friend fid).1 hget)
    exact hlt
  | none =>
    refine ⟨⟨?_, ?_, h.spaced, h.past, h.hits⟩, ?_, rfl⟩
    · intro friend i
      simp only
      rw [OrdMap.get?_insert, List.getElem?_append]
      split
      case isTrue hfriend =>
        subst hfriend
        constructor
        · intro hi
          cases hi
          rw [if_neg (lt_irrefl _), Nat.sub_self]
          rfl
        · split
          · intro hi
            rw [← h.inverse, hget] at hi
            cases hi
          · rename_i hle
            intro hi
            obtain ⟨hlt, -⟩ := List.getElem?_eq_some_iff.1 hi
            rw [List.length_singleton] at hlt
            congr 1
            omega
      case isFalse hfriend =>
        rw [h.inverse]
        split
        · rfl
        · rename_i hle
          rw [List.getElem?_eq_none (not_lt.1 hle)]
          constructor
          · rintro ⟨⟩
          · intro hi
            have hmem := List.mem_of_getElem? hi
            exact absurd (List.mem_singleton.1 hmem) hfriend
    · intro key clues hclues clue hclue
      apply (h.valid key clues hclues clue hclue).trans
      simp
    · simp

/-- The clues of one key change. -/
theorem Kept.insert (h : matrix.Kept now) {key : κ} (hspaced : Spaced clues)
    (hclues : ∀ clue ∈ clues, clue.friendId < matrix.reverseFriendIndices.length ∧ 0 < clue.weight ∧
      clue.timeStamp ≤ now) (probaNeedUpdating : Bool) :
  Kept { matrix with
    routingClues := matrix.routingClues.insert key clues
    probaNeedUpdating := probaNeedUpdating } now
  := by
  have hcases : ∀ key' clues', (matrix.routingClues.insert key clues).get? key' = some clues' →
      clues' = clues ∨ matrix.routingClues.get? key' = some clues' := by
    intro key' clues' hget
    rw [OrdMap.get?_insert] at hget
    split at hget
    · exact .inl (Option.some.inj hget).symm
    · exact .inr hget
  refine ⟨h.inverse, ?_, ?_, ?_, h.hits⟩
  · intro key' clues' hget clue hclue
    rcases hcases key' clues' hget with rfl | hget
    · exact (hclues clue hclue).1
    · exact h.valid key' clues' hget clue hclue
  · intro key' clues' hget
    rcases hcases key' clues' hget with rfl | hget
    · exact hspaced
    · exact h.spaced key' clues' hget
  · intro key' clues' hget clue hclue
    rcases hcases key' clues' hget with rfl | hget
    · exact (hclues clue hclue).2
    · exact h.past key' clues' hget clue hclue

theorem Kept.addRoutingClue (h : matrix.Kept now) (key : κ) (source_friend : φ) {weight : ℚ}
    (hweight : 0 < weight) :
  (matrix.addRoutingClue key source_friend weight now).1.Kept now
  := by
  obtain ⟨hfriend, hid, hclues⟩ := h.getFriendId source_friend
  rw [GRouterMatrix.addRoutingClue]
  generalize matrix.getFriendId source_friend = found at hfriend hid hclues
  obtain ⟨matrix', fid⟩ := found
  simp only at hfriend hid hclues ⊢
  have hlst : Spaced ((matrix'.routingClues.get? key).getD []) ∧
      ∀ clue ∈ (matrix'.routingClues.get? key).getD [],
        clue.friendId < matrix'.reverseFriendIndices.length ∧
          0 < clue.weight ∧ clue.timeStamp ≤ now := by
    cases hget : matrix'.routingClues.get? key with
    | none =>
      refine ⟨spaced_nil, ?_⟩
      rintro clue ⟨⟩
    | some lst =>
      refine ⟨hfriend.spaced key lst hget, ?_⟩
      intro clue hclue
      exact ⟨hfriend.valid key lst hget clue hclue, hfriend.past key lst hget clue hclue⟩
  split
  · exact hfriend.insert hlst.1 hlst.2 _
  · rename_i hflood
    apply hfriend.insert
    · apply hlst.1.cons _ hflood
      intro clue hclue
      exact (hlst.2 clue hclue).2.2
    · intro clue hclue
      rcases List.mem_cons.1 (List.mem_of_mem_take hclue) with rfl | hclue
      · exact ⟨hid, hweight, le_rfl⟩
      · exact hlst.2 clue hclue

/-! ### `updateRoutingProbabilities` -/

theorem combined_nonneg {clue : RoutingMatrixHitEntry} (hweight : 0 < clue.weight) (now : Int) :
  0 ≤ clue.combined now
  := div_nonneg hweight.le (mul_self_nonneg _)

theorem foldl_modify_nonneg (hclues : ∀ clue ∈ clues, 0 < clue.weight) {v : List ℚ}
    (hv : ∀ weight ∈ v, 0 ≤ weight) :
  ∀ weight ∈ clues.foldl (fun v clue => v.modify clue.friendId (· + clue.combined now)) v,
    0 ≤ weight
  := by
  induction clues generalizing v with
  | nil => exact hv
  | cons clue clues ih =>
    apply ih (fun clue' hclue' => hclues clue' (List.mem_cons_of_mem clue hclue'))
    intro weight hweight
    obtain ⟨i, hi, rfl⟩ := List.mem_iff_getElem.1 hweight
    rw [List.getElem_modify]
    have hold : ∀ (hi : i < v.length), 0 ≤ v[i] := fun hi => hv _ (List.getElem_mem hi)
    split
    · exact add_nonneg (hold _) (combined_nonneg (hclues clue List.mem_cons_self) now)
    · exact hold _

theorem combinedHits_nonneg (hclues : ∀ clue ∈ clues, 0 < clue.weight) :
  ∀ weight ∈ matrix.combinedHits clues now, 0 ≤ weight
  := by
  apply foldl_modify_nonneg hclues
  intro weight hweight
  rw [List.eq_of_mem_replicate hweight]

theorem Kept.updateRoutingProbabilities (h : matrix.Kept now) :
  (matrix.updateRoutingProbabilities now).1.Kept now
  := by
  rw [GRouterMatrix.updateRoutingProbabilities]
  split
  case isFalse => exact h
  case isTrue =>
    refine ⟨h.inverse, h.valid, h.spaced, h.past, ?_⟩
    intro key w hget
    rw [OrdMap.get?_foldl (g := fun _ clues _ => some (matrix.combinedHits clues now))
      (fun acc e k => OrdMap.get?_insert e.1 k _)] at hget
    cases hclues : matrix.routingClues.get? key with
    | none =>
      rw [hclues] at hget
      exact h.hits key w hget
    | some clues =>
      rw [hclues] at hget
      cases hget
      apply combinedHits_nonneg
      intro clue hclue
      exact (h.past key clues hclues clue hclue).1

/-! ### `saveList` and `loadList` -/

theorem indexFriends_of_notMem (h : source_friend ∉ friends) (i : Nat) (indices : OrdMap φ Nat) :
  (indexFriends i friends indices).get? source_friend = indices.get? source_friend
  := by
  induction friends generalizing i indices with
  | nil => rfl
  | cons friend friends ih =>
    rw [List.mem_cons, not_or] at h
    rw [indexFriends, ih h.2, OrdMap.get?_insert, if_neg h.1]

theorem indexFriends_of_getElem? (hnodup : friends.Nodup) {j : Nat}
    (h : friends[j]? = some source_friend) (i : Nat) (indices : OrdMap φ Nat) :
  (indexFriends i friends indices).get? source_friend = some (i + j)
  := by
  induction friends generalizing i j indices with
  | nil => cases h
  | cons friend friends ih =>
    rw [List.nodup_cons] at hnodup
    cases j with
    | zero =>
      cases h
      rw [indexFriends, indexFriends_of_notMem hnodup.1, OrdMap.get?_insert_self]
      rfl
    | succ j =>
      rw [indexFriends, ih hnodup.2 h, Nat.add_right_comm, Nat.add_assoc]

theorem get?_indexFriends (hnodup : friends.Nodup) (source_friend : φ) (i : Nat) :
  (indexFriends 0 friends .empty).get? source_friend = some i ↔
    friends[i]? = some source_friend
  := by
  constructor
  · intro hget
    by_cases hmem : source_friend ∈ friends
    · obtain ⟨j, hj⟩ := List.mem_iff_getElem?.1 hmem
      rw [indexFriends_of_getElem? hnodup hj, Nat.zero_add] at hget
      cases hget
      exact hj
    · rw [indexFriends_of_notMem hmem] at hget
      cases hget
  · intro hget
    rw [indexFriends_of_getElem? hnodup hget, Nat.zero_add]

/-- What loading a matrix that was saved leaves. -/
structure Loads (matrix saved matrix' : GRouterMatrix κ φ) : Prop where
  friends : matrix'.reverseFriendIndices = saved.reverseFriendIndices
  indices : matrix'.friendIndices = indexFriends 0 saved.reverseFriendIndices .empty
  clues : ∀ key, matrix'.routingClues.get? key =
    (saved.routingClues.get? key).or (matrix.routingClues.get? key)
  hits : matrix'.timeCombinedHits = matrix.timeCombinedHits

theorem foldl_loadItem (l : List (κ × List RoutingMatrixHitEntry)) (matrix : GRouterMatrix κ φ) :
  ((l.map fun e => MatrixItem.clues e.1 e.2).foldl loadItem matrix).reverseFriendIndices =
      matrix.reverseFriendIndices ∧
    ((l.map fun e => MatrixItem.clues e.1 e.2).foldl loadItem matrix).friendIndices =
      matrix.friendIndices ∧
    ((l.map fun e => MatrixItem.clues e.1 e.2).foldl loadItem matrix).routingClues =
      l.foldl (fun clues e => clues.insert e.1 e.2) matrix.routingClues ∧
    ((l.map fun e => MatrixItem.clues e.1 e.2).foldl loadItem matrix).timeCombinedHits =
      matrix.timeCombinedHits
  := by
  induction l generalizing matrix with
  | nil => exact ⟨rfl, rfl, rfl, rfl⟩
  | cons e l ih => exact ih (matrix.loadItem (.clues e.1 e.2))

theorem loads (matrix saved : GRouterMatrix κ φ) :
  Loads matrix saved (matrix.loadList saved.saveList)
  := by
  obtain ⟨hfriends, hindices, hclues, hhits⟩ := foldl_loadItem saved.routingClues.toList
    (matrix.loadItem (.friendList saved.reverseFriendIndices))
  refine ⟨hfriends, hindices, ?_, hhits⟩
  intro key
  rw [loadList, saveList, List.foldl_cons, hclues,
    OrdMap.get?_foldl (g := fun _ clues _ => some clues)
      (fun acc e k => OrdMap.get?_insert e.1 k e.2)]
  cases saved.routingClues.get? key <;> rfl

/-- A clue of a key that is not in the list has no friend in the list. -/
def LeavesUnknown (matrix saved : GRouterMatrix κ φ) : Prop :=
  ∃ key clues, matrix.routingClues.get? key = some clues ∧ saved.routingClues.get? key = none ∧
    ∃ clue ∈ clues, saved.reverseFriendIndices.length ≤ clue.friendId

theorem Kept.loadList (h : matrix.Kept now) (hsaved : saved.Kept now)
    (hknown : ¬matrix.LeavesUnknown saved) :
  (matrix.loadList saved.saveList).Kept now
  := by
  obtain ⟨hfriends, hindices, hclues, hhits⟩ := loads matrix saved
  have hcases : ∀ key clues,
      (matrix.loadList saved.saveList).routingClues.get? key = some clues →
        saved.routingClues.get? key = some clues ∨
          saved.routingClues.get? key = none ∧ matrix.routingClues.get? key = some clues := by
    intro key clues hget
    rw [hclues] at hget
    cases hsame : saved.routingClues.get? key with
    | none =>
      rw [hsame] at hget
      exact .inr ⟨rfl, hget⟩
    | some clues' =>
      rw [hsame] at hget
      exact .inl hget
  refine ⟨?_, ?_, ?_, ?_, ?_⟩
  · intro source_friend i
    rw [hfriends, hindices]
    exact get?_indexFriends hsaved.nodup source_friend i
  · intro key clues hget clue hclue
    rw [hfriends]
    rcases hcases key clues hget with hget | ⟨hnone, hget⟩
    · exact hsaved.valid key clues hget clue hclue
    · by_contra hge
      exact hknown ⟨key, clues, hget, hnone, clue, hclue, not_lt.1 hge⟩
  · intro key clues hget
    rcases hcases key clues hget with hget | ⟨-, hget⟩
    · exact hsaved.spaced key clues hget
    · exact h.spaced key clues hget
  · intro key clues hget
    rcases hcases key clues hget with hget | ⟨-, hget⟩
    · exact hsaved.past key clues hget
    · exact h.past key clues hget
  · rw [hhits]
    exact h.hits

theorem not_sound_loadList (hunknown : matrix.LeavesUnknown saved) :
  ¬(matrix.loadList saved.saveList).Sound
  := by
  intro hsound
  obtain ⟨key, clues, hget, hnone, clue, hclue, hge⟩ := hunknown
  obtain ⟨hfriends, -, hclues, -⟩ := loads matrix saved
  have hleft : (matrix.loadList saved.saveList).routingClues.get? key = some clues := by
    rw [hclues, hnone, hget]
    rfl
  have hlt := hsound.valid key clues hleft clue hclue
  rw [hfriends] at hlt
  exact absurd hlt (not_lt.2 hge)

end GRouterMatrix

/-! ### Runs -/

namespace SavedMatrix

variable (s : SavedMatrix κ φ)

/-- The call leaves a sound matrix. -/
def StaysSound (input : Input κ φ) : Prop := (machine.next s input).matrix.Sound

/-- The call loads a list that leaves clues of unknown friends. -/
def LeavesUnknown : Input κ φ → Prop
  | .load n => ∃ saved ∈ s.saves[n]?, s.matrix.LeavesUnknown saved
  | _ => False

/-- The matrix and those that were saved are sound. -/
structure Kept : Prop where
  matrix : s.matrix.Kept s.now
  saves : ∀ saved ∈ s.saves, saved.Kept s.now

variable {s} {input : Input κ φ}

theorem Kept.next (h : s.Kept) (hknown : ¬s.LeavesUnknown input) :
  (machine.next s input).Kept
  := by
  cases input with
  | addRoutingClue key source_friend weight =>
    exact ⟨h.matrix.addRoutingClue key source_friend weight.2, h.saves⟩
  | updateRoutingProbabilities => exact ⟨h.matrix.updateRoutingProbabilities, h.saves⟩
  | save =>
    refine ⟨h.matrix, ?_⟩
    intro saved hsaved
    rcases List.mem_cons.1 hsaved with rfl | hsaved
    · exact h.matrix
    · exact h.saves saved hsaved
  | load n =>
    change (s.load n).Kept
    rw [load]
    cases hget : s.saves[n]? with
    | none => exact h
    | some saved =>
      refine ⟨h.matrix.loadList (h.saves saved (List.mem_of_getElem? hget)) ?_, h.saves⟩
      intro hunknown
      exact hknown ⟨saved, hget, hunknown⟩
  | restart => exact ⟨GRouterMatrix.kept_new s.now, h.saves⟩
  | tick seconds =>
    have hle : s.now ≤ s.now + seconds := Int.le_add_of_nonneg_right (Int.natCast_nonneg _)
    exact ⟨h.matrix.mono hle, fun saved hsaved => (h.saves saved hsaved).mono hle⟩

theorem not_staysSound (hunknown : s.LeavesUnknown input) :
  ¬s.StaysSound input
  := by
  cases input with
  | load n =>
    obtain ⟨saved, hget, hunknown⟩ := hunknown
    rw [Option.mem_def] at hget
    change ¬(s.load n).matrix.Sound
    rw [load, hget]
    exact GRouterMatrix.not_sound_loadList hunknown
  | _ => cases hunknown

/-- In a run, the matrix stays sound exactly when no load leaves clues of unknown friends. -/
theorem staysSound_run_iff (now : Int) (inputs : List (Input κ φ)) :
  machine.Along StaysSound (new now) inputs ↔
    machine.Along (fun s input => ¬s.LeavesUnknown input) (new now) inputs
  := by
  have hnew : (new now : SavedMatrix κ φ).Kept := by
    refine ⟨GRouterMatrix.kept_new now, ?_⟩
    rintro saved ⟨⟩
  constructor
  · apply Machine.along_of_step _ hnew
    intro s input h hsound
    have hknown : ¬s.LeavesUnknown input := fun hunknown => not_staysSound hunknown hsound
    exact ⟨hknown, h.next hknown⟩
  · apply Machine.along_of_step _ hnew
    intro s input h hknown
    exact ⟨(h.next hknown).matrix.sound, h.next hknown⟩

/-- A clue that came after the matrix was saved. -/
theorem not_staysSound_loadAfterClue :
  ¬∀ inputs : List (Input Nat Nat), machine.Along StaysSound (new 0) inputs
  := by
  intro h
  have hruns := h [.save, .addRoutingClue 1 7 ⟨1, by decide⟩, .load 0]
  have hlt := hruns.2.2.1.valid 1 [⟨0, 1, 0⟩] (by decide) ⟨0, 1, 0⟩ (by decide)
  revert hlt
  decide

end SavedMatrix

end GRouter
