import RetroShare.Ft.Interleaving
import RetroShare.Lib.Exchange

/-!
# The positions of the user's files

`checkDownloadQueue` is to see to it that the first `_min_prioritized_transfers` positions of the
queue are not taken by cache files while other files wait behind them.  Its second loop collects
positions of cache files before that bound and positions of other files behind it; the swaps that
follow exchange elements of the two parts of the queue.
-/

namespace Ft

namespace FtController

variable {Hash : Type} [LinearOrder Hash] {c c' : FtController Hash} {pos fc : Nat}

/-- The file of an `ftFileControl` is not a cache file. -/
def isUser (c : FtController Hash) (fc : Nat) : Bool :=
  (c.objects fc).any fun control => !isCache control.mFlags

/-- As many of the user's files of `c` are at the first positions of `c'` as can be there. -/
def Reserved (c c' : FtController Hash) : Prop :=
  (c'.queue.take c.minPrioritizedTransfers).countP c'.isUser =
    min c.minPrioritizedTransfers (c.queue.countP c.isUser)

/-! ### What the calls leave -/

/-- The controllers differ neither in the bound nor in the downloads and what kinds of files these
are. -/
structure SameKinds (c c' : FtController Hash) : Prop where
  mDownloads : c'.mDownloads = c.mDownloads
  minPrioritizedTransfers : c'.minPrioritizedTransfers = c.minPrioritizedTransfers
  isUser : c'.isUser = c.isUser

theorem SameKinds.refl (c : FtController Hash) :
  c.SameKinds c
  := ⟨rfl, rfl, rfl⟩

theorem SameKinds.trans {c'' : FtController Hash} (h : c.SameKinds c') (h' : c'.SameKinds c'') :
  c.SameKinds c''
  := ⟨h'.1.trans h.1, h'.2.trans h.2, h'.3.trans h.3⟩

theorem of_bind_eq_ok {α β : Type} {x : Except Fault α} {f : α → Except Fault β} {y : β}
    (h : x >>= f = .ok y) :
  ∃ a, x = .ok a ∧ f a = .ok y
  := by
  cases x with
  | error fault => cases h
  | ok a => exact ⟨a, rfl, h⟩

theorem objects_of_object {control : FtFileControl Hash} (h : c.object fc = .ok control) :
  c.objects fc = some control
  := by
  rw [object] at h
  split at h
  case h_1 => cases h
  case h_2 heq =>
    cases h
    exact heq

theorem queue_of_element (h : c.element pos = .ok fc) :
  c.queue[pos]? = some fc
  := by
  rw [element] at h
  split at h
  case h_1 => cases h
  case h_2 heq =>
    cases h
    exact heq

theorem sameKinds_checkQueueElement (h : c.checkQueueElement pos = .ok c') :
  c.SameKinds c' ∧ c'.queue = c.queue
  := by
  rw [checkQueueElement] at h
  obtain ⟨fc, -, h⟩ := of_bind_eq_ok h
  obtain ⟨control, hobject, h⟩ := of_bind_eq_ok h
  cases h
  refine ⟨⟨rfl, rfl, ?_⟩, rfl⟩
  funext fc'
  rw [isUser, isUser, setObject_objects]
  by_cases hsame : fc' = fc
  · rw [hsame, Function.update_self, objects_of_object hobject]
    rfl
  · rw [Function.update_of_ne hsame]

theorem sameKinds_setElement (h : c.setElement pos fc = .ok c') :
  c.SameKinds c' ∧ c'.queue = c.queue.set pos fc
  := by
  rw [setElement] at h
  split at h
  · cases h
    exact ⟨⟨rfl, rfl, rfl⟩, rfl⟩
  · cases h

theorem sameKinds_moveForwards {n : Nat} (h : c.moveForwards pos n = .ok c') :
  c.SameKinds c'
  := by
  induction n generalizing c pos with
  | zero =>
    cases h
    exact .refl _
  | succ n ih =>
    rw [moveForwards] at h
    obtain ⟨next, -, h⟩ := of_bind_eq_ok h
    obtain ⟨c₁, hset, h⟩ := of_bind_eq_ok h
    obtain ⟨c₂, hcheck, h⟩ := of_bind_eq_ok h
    have hsame := (sameKinds_setElement hset).1.trans (sameKinds_checkQueueElement hcheck).1
    exact hsame.trans (ih h)

theorem sameKinds_bottomQueue (h : c.bottomQueue pos = .ok c') :
  c.SameKinds c'
  := by
  rw [bottomQueue] at h
  obtain ⟨tmp, -, h⟩ := of_bind_eq_ok h
  obtain ⟨c₁, hmove, h⟩ := of_bind_eq_ok h
  obtain ⟨c₂, hset, h⟩ := of_bind_eq_ok h
  exact (sameKinds_moveForwards hmove).trans
    ((sameKinds_setElement hset).1.trans (sameKinds_checkQueueElement h).1)

theorem sameKinds_requeueInactive {inactive : Nat → Bool} {downloads : List (Hash × Nat)}
    {nbMoved : Nat} (h : c.requeueInactive inactive downloads nbMoved = .ok c') :
  c.SameKinds c'
  := by
  induction downloads generalizing c nbMoved with
  | nil =>
    cases h
    exact .refl _
  | cons download downloads ih =>
    rw [requeueInactive] at h
    split at h
    · cases h
      exact .refl _
    · obtain ⟨control, -, h⟩ := of_bind_eq_ok h
      split at h
      · obtain ⟨c₁, hbottom, h⟩ := of_bind_eq_ok h
        exact (sameKinds_bottomQueue hbottom).trans (ih h)
      · exact ih h

/-- Two elements change places. -/
theorem sameKinds_swapQueue {pos' : Nat} (h : c.swapQueue pos pos' = .ok c') :
  c.SameKinds c' ∧ c'.queue = Exchange.swap c.queue pos pos'
  := by
  rw [swapQueue] at h
  split at h
  case isTrue heq =>
    cases h
    rw [heq, Exchange.swap_self]
    exact ⟨.refl _, rfl⟩
  case isFalse =>
    obtain ⟨tmp, htmp, h⟩ := of_bind_eq_ok h
    obtain ⟨other, hother, h⟩ := of_bind_eq_ok h
    obtain ⟨c₁, hset, h⟩ := of_bind_eq_ok h
    obtain ⟨c₂, hset', h⟩ := of_bind_eq_ok h
    obtain ⟨c₃, hcheck, h⟩ := of_bind_eq_ok h
    obtain ⟨hsame₁, hqueue₁⟩ := sameKinds_setElement hset
    obtain ⟨hsame₂, hqueue₂⟩ := sameKinds_setElement hset'
    obtain ⟨hsame₃, hqueue₃⟩ := sameKinds_checkQueueElement hcheck
    obtain ⟨hsame₄, hqueue₄⟩ := sameKinds_checkQueueElement h
    refine ⟨hsame₁.trans (hsame₂.trans (hsame₃.trans hsame₄)), ?_⟩
    rw [hqueue₄, hqueue₃, hqueue₂, hqueue₁,
      Exchange.swap_eq (queue_of_element htmp) (queue_of_element hother)]

theorem sameKinds_swapAll {pairs : List (Nat × Nat)} (h : c.swapAll pairs = .ok c') :
  c.SameKinds c' ∧ c'.queue = Exchange.swaps c.queue pairs
  := by
  induction pairs generalizing c with
  | nil =>
    cases h
    exact ⟨.refl _, rfl⟩
  | cons pair pairs ih =>
    rw [swapAll] at h
    obtain ⟨c₁, hswap, h⟩ := of_bind_eq_ok h
    obtain ⟨hsame, hqueue⟩ := sameKinds_swapQueue hswap
    obtain ⟨hsame', hqueue'⟩ := ih h
    refine ⟨hsame.trans hsame', ?_⟩
    rw [hqueue', hqueue]
    rfl

/-! ### What is collected -/

section

variable {P : Nat → FtFileControl Hash → Prop} (h : c.Placed P)

include h

/-- The file at a position, as the loop looks at it. -/
theorem Placed.at_isUser (hpos : pos < c.queue.length) :
  ∃ fc control, c.element pos = .ok fc ∧ c.object fc = .ok control ∧
    Exchange.At c.isUser c.queue pos = !isCache control.mFlags
  := by
  have hget := List.getElem?_eq_getElem hpos
  obtain ⟨control, hobject, -⟩ := h.good pos _ hget
  refine ⟨_, control, element_eq hget, object_eq hobject, ?_⟩
  rw [Exchange.At, hget, Option.any_some, isUser, hobject, Option.any_some]

/-- Before the bound the loop counts the user's files and collects the others. -/
theorem Placed.collectTransfers_front (p k n : Nat) (transfers : Transfers)
    (hbound : p + k ≤ c.minPrioritizedTransfers) (hlength : p + k ≤ c.queue.length) :
  c.collectTransfers p (k + n) transfers =
    c.collectTransfers (p + k) n
      { transfers with
        userTransfers :=
          transfers.userTransfers + (Exchange.positions c.isUser c.queue p k).length
        toMoveBefore := transfers.toMoveBefore ++ Exchange.others c.isUser c.queue p k }
  := by
  induction k generalizing p transfers with
  | zero => simp [Exchange.positions, Exchange.others]
  | succ k ih =>
    have hlt : p < c.queue.length := by omega
    obtain ⟨fc, control, helement, hobject, hat⟩ := h.at_isUser hlt
    rw [show k + 1 + n = (k + n) + 1 by omega, collectTransfers, helement, ok_bind, hobject,
      ok_bind, if_pos (by omega)]
    cases hcache : isCache control.mFlags with
    | true =>
      rw [hcache] at hat
      rw [if_pos rfl, ih (p + 1) _ (by omega) (by omega),
        Exchange.positions_succ_of_not hat, Exchange.others_succ_of_not hat,
        List.append_assoc, Nat.add_right_comm p 1 k]
      rfl
    | false =>
      rw [hcache] at hat
      rw [if_neg Bool.false_ne_true, ih (p + 1) _ (by omega) (by omega),
        Exchange.positions_succ hat, Exchange.others_succ hat, List.length_cons,
        Nat.add_right_comm p 1 k, Nat.add_right_comm transfers.userTransfers 1]
      rfl

/-- Behind the bound it collects the user's files, as long as there are not enough of them. -/
theorem Placed.collectTransfers_behind (p n : Nat) (transfers : Transfers)
    (hbound : c.minPrioritizedTransfers ≤ p) (hlength : p + n ≤ c.queue.length) :
  c.collectTransfers p n transfers =
    .ok { transfers with
      toMoveAfter := transfers.toMoveAfter ++ (Exchange.positions c.isUser c.queue p n).take
        (c.minPrioritizedTransfers - (transfers.toMoveAfter.length + transfers.userTransfers)) }
  := by
  induction n generalizing p transfers with
  | zero => simp [collectTransfers, Exchange.positions]
  | succ n ih =>
    have hlt : p < c.queue.length := by omega
    obtain ⟨fc, control, helement, hobject, hat⟩ := h.at_isUser hlt
    rw [collectTransfers, helement, ok_bind, hobject, ok_bind, if_neg (by omega)]
    split
    case isTrue henough =>
      rw [Nat.sub_eq_zero_of_le henough, List.take_zero, List.append_nil]
    case isFalse hfew =>
      cases hcache : isCache control.mFlags with
      | true =>
        rw [hcache] at hat
        rw [if_pos rfl, ih (p + 1) _ (by omega) (by omega), Exchange.positions_succ_of_not hat]
      | false =>
        rw [hcache] at hat
        rw [if_neg Bool.false_ne_true, ih (p + 1) _ (by omega) (by omega),
          Exchange.positions_succ hat, List.append_assoc]
        have hone : c.minPrioritizedTransfers -
            (transfers.toMoveAfter.length + transfers.userTransfers) =
              c.minPrioritizedTransfers -
                ((transfers.toMoveAfter ++ [p]).length + transfers.userTransfers) + 1 := by
          rw [List.length_append, List.length_singleton]
          omega
        rw [hone, List.take_succ_cons]
        rfl

theorem Placed.collectTransfers_eq :
  c.collectTransfers 0 c.queue.length ⟨0, [], []⟩ =
    .ok
      { userTransfers := (c.queue.take c.minPrioritizedTransfers).countP c.isUser
        toMoveBefore :=
          Exchange.others c.isUser c.queue 0 (min c.minPrioritizedTransfers c.queue.length)
        toMoveAfter :=
          (Exchange.positions c.isUser c.queue (min c.minPrioritizedTransfers c.queue.length)
            (c.queue.length - min c.minPrioritizedTransfers c.queue.length)).take
              (c.minPrioritizedTransfers -
                (c.queue.take c.minPrioritizedTransfers).countP c.isUser) }
  := by
  have hsplit := h.collectTransfers_front 0 (min c.minPrioritizedTransfers c.queue.length)
    (c.queue.length - min c.minPrioritizedTransfers c.queue.length) ⟨0, [], []⟩ (by omega)
    (by omega)
  have hcount : (Exchange.positions c.isUser c.queue 0
      (min c.minPrioritizedTransfers c.queue.length)).length =
        (c.queue.take c.minPrioritizedTransfers).countP c.isUser := by
    rw [Exchange.length_positions, List.drop_zero, ← List.take_eq_take_min]
  rw [Nat.add_sub_cancel' (Nat.min_le_right _ _), hcount, Nat.zero_add, Nat.zero_add,
    List.nil_append] at hsplit
  rw [hsplit]
  by_cases hle : c.minPrioritizedTransfers ≤ c.queue.length
  · rw [h.collectTransfers_behind _ _ _ (by omega) (by omega)]
    simp
  · rw [Nat.min_eq_right (by omega), Nat.sub_self]
    simp [collectTransfers, Exchange.positions]

end

/-! ### The reserved positions -/

/-- `checkDownloadQueue` when there are more downloads than may be active. -/
theorem checkDownloadQueue_eq (h : World.Keeping c) (hmore : c.maxActiveDownloads < c.queue.length)
    (inactive : Nat → Bool) :
  ∃ c₁, c.requeueInactive inactive c.mDownloads.toList 0 = .ok c₁ ∧ World.Keeping c₁ ∧
    c.checkDownloadQueue inactive =
      c₁.swapAll (((Exchange.others c₁.isUser c₁.queue 0
        (min c₁.minPrioritizedTransfers c₁.queue.length)).zip
          ((Exchange.positions c₁.isUser c₁.queue (min c₁.minPrioritizedTransfers c₁.queue.length)
            (c₁.queue.length - min c₁.minPrioritizedTransfers c₁.queue.length)).take
              (c₁.minPrioritizedTransfers -
                (c₁.queue.take c₁.minPrioritizedTransfers).countP c₁.isUser))).take
        (asInt c₁.minPrioritizedTransfers -
          ((c₁.queue.take c₁.minPrioritizedTransfers).countP c₁.isUser : Int)).toNat)
  := by
  obtain ⟨c₁, hrun, hkeep, -⟩ := WellQueued.requeueInactive (World.settled_knowsPosition _)
    inactive c.mDownloads.toList 0 h (fun e he => OrdMap.mem_toList.1 he)
  refine ⟨c₁, hrun, hkeep, ?_⟩
  have hlength := (World.isQueue_of_keeping h).perm.length_eq
  rw [List.length_map] at hlength
  rw [checkDownloadQueue, if_neg (by omega), hrun, ok_bind, hkeep.placed.collectTransfers_eq,
    ok_bind]

/-- The positions are reserved when the bound is not taken for a negative number, or is behind the
end of the queue. -/
theorem reserved_checkDownloadQueue (h : World.Keeping c)
    (hmore : c.maxActiveDownloads < c.queue.length)
    (hbound : c.minPrioritizedTransfers < 2 ^ 31 ∨ c.queue.length ≤ c.minPrioritizedTransfers)
    (inactive : Nat → Bool) :
  ∃ c', c.checkDownloadQueue inactive = .ok c' ∧ c.Reserved c'
  := by
  obtain ⟨c', hrun, -⟩ := h.checkDownloadQueue (World.settled_knowsPosition _) inactive
  obtain ⟨c₁, hrequeue, hkeep, hcheck⟩ := checkDownloadQueue_eq h hmore inactive
  refine ⟨c', hrun, ?_⟩
  rw [hcheck] at hrun
  have hsame := sameKinds_requeueInactive hrequeue
  obtain ⟨hsame', hqueue⟩ := sameKinds_swapAll hrun
  have hperm : c₁.queue.Perm c.queue := by
    have hdownloads := (World.isQueue_of_keeping hkeep).perm
    rw [hsame.mDownloads] at hdownloads
    exact hdownloads.trans (World.isQueue_of_keeping h).perm.symm
  rw [Reserved, hqueue, hsame'.isUser, ← hsame.minPrioritizedTransfers, ← hsame.isUser,
    ← hperm.countP_eq]
  apply Exchange.countP_take_exchanges
  rw [← hsame.minPrioritizedTransfers, ← hperm.length_eq] at hbound
  apply hbound.imp_left
  intro hlt
  rw [asInt, if_pos hlt]
  omega

/-! ### A bound that is taken for a negative number -/

/-- `n` downloads, all of cache files but the one at the end, with the given limits. -/
def cacheFiles (n minPrioritizedTransfers maxActiveDownloads : Nat) : FtController Nat where
  objects := fun fc =>
    if 1 ≤ fc ∧ fc ≤ n then
      some
        { mState := if fc ≤ maxActiveDownloads then .downloading else .queued, mHash := fc,
          mSize := 1, mFlags := if fc = n then 0 else rsFileReqCache, mQueuePosition := fc - 1 }
    else none
  fresh := n + 1
  queue := List.range' 1 n
  mDownloads :=
    { toList := (List.range' 1 n).map fun fc => (fc, fc)
      sorted := List.pairwise_map.2 List.pairwise_lt_range' }
  mCompleted := .empty
  maxActiveDownloads
  minPrioritizedTransfers
  mFtActive := true
  mPendingRequests := []
  mPendingChunkMaps := .empty

section

variable (n m maxActiveDownloads : Nat)

theorem get?_cacheFiles {hash : Nat} :
  (cacheFiles n m maxActiveDownloads).mDownloads.get? hash = some fc ↔
    hash = fc ∧ 1 ≤ fc ∧ fc ≤ n
  := by
  rw [← OrdMap.mem_toList]
  change (hash, fc) ∈ (List.range' 1 n).map _ ↔ _
  rw [List.mem_map]
  constructor
  · rintro ⟨fc', hmem, heq⟩
    cases heq
    rw [List.mem_range'_1] at hmem
    exact ⟨rfl, by omega⟩
  · rintro ⟨rfl, hfc⟩
    exact ⟨hash, List.mem_range'_1.2 (by omega), rfl⟩

theorem objects_cacheFiles (hfc : 1 ≤ fc ∧ fc ≤ n) :
  ∃ control, (cacheFiles n m maxActiveDownloads).objects fc = some control ∧
    control.mQueuePosition = fc - 1 ∧ control.mState ≠ .paused ∧
    isCache control.mFlags = !decide (fc = n)
  := by
  refine ⟨_, if_pos hfc, rfl, ?_, ?_⟩
  · dsimp only
    split <;> decide
  · by_cases hlast : fc = n
    · simp [hlast, isCache]
    · simp [hlast, isCache, rsFileReqCache]

theorem keeping_cacheFiles :
  World.Keeping (cacheFiles n m maxActiveDownloads)
  := by
  have hmem : ∀ fc, fc ∈ (cacheFiles n m maxActiveDownloads).queue ↔ 1 ≤ fc ∧ fc ≤ n := by
    intro fc
    change fc ∈ List.range' 1 n ↔ _
    rw [List.mem_range'_1]
    omega
  refine ⟨⟨List.nodup_range', ?_⟩, ?_, ?_, ?_, ?_⟩
  · intro pos fc hpos
    obtain ⟨control, hobject, hposition, -⟩ := objects_cacheFiles n m maxActiveDownloads
      ((hmem fc).1 (List.mem_of_getElem? hpos))
    refine ⟨control, hobject, ?_⟩
    obtain ⟨hlt, rfl⟩ := List.getElem?_eq_some_iff.1 hpos
    rw [World.KnowsPosition, hposition]
    simp [cacheFiles]
  · intro fc
    rw [hmem]
    constructor
    · intro hfc
      exact ⟨fc, (get?_cacheFiles n m maxActiveDownloads).2 ⟨rfl, hfc⟩⟩
    · rintro ⟨hash, hget⟩
      exact ((get?_cacheFiles n m maxActiveDownloads).1 hget).2
  · intro hash hash' fc hget hget'
    rw [((get?_cacheFiles n m maxActiveDownloads).1 hget).1,
      ((get?_cacheFiles n m maxActiveDownloads).1 hget').1]
  · intro fc hfc
    exact Nat.lt_succ_of_le ((hmem fc).1 hfc).2
  · rintro hash fc ⟨⟩

/-- No download is moved when all of them are active. -/
theorem requeueInactive_cacheFiles (downloads : List (Nat × Nat)) (nbMoved : Nat)
    (hdownloads : ∀ e ∈ downloads, 1 ≤ e.2 ∧ e.2 ≤ n) :
  requeueInactive (fun _ => false) (cacheFiles n m maxActiveDownloads) downloads nbMoved =
    .ok (cacheFiles n m maxActiveDownloads)
  := by
  induction downloads generalizing nbMoved with
  | nil => rfl
  | cons download downloads ih =>
    rw [List.forall_mem_cons] at hdownloads
    obtain ⟨control, hobject, -, hstate, -⟩ :=
      objects_cacheFiles n m maxActiveDownloads hdownloads.1
    rw [requeueInactive]
    split
    · rfl
    · rw [object_eq hobject, ok_bind, if_neg (by simp [hstate])]
      exact ih nbMoved hdownloads.2

theorem isUser_cacheFiles (hfc : fc ∈ List.range' 1 n) :
  (cacheFiles n m maxActiveDownloads).isUser fc = (fc == n)
  := by
  rw [List.mem_range'_1] at hfc
  have hrange : 1 ≤ fc ∧ fc ≤ n := by omega
  obtain ⟨control, hobject, -, -, hcache⟩ := objects_cacheFiles n m maxActiveDownloads hrange
  rw [isUser, hobject, Option.any_some, hcache, Bool.not_not]
  rfl

theorem countP_take_cacheFiles {k : Nat} (hk : k < n) :
  ((cacheFiles n m maxActiveDownloads).queue.take k).countP
    (cacheFiles n m maxActiveDownloads).isUser = 0
  := by
  rw [List.countP_eq_zero]
  intro fc hfc
  change fc ∈ (List.range' 1 n).take k at hfc
  rw [isUser_cacheFiles _ _ _ (List.mem_of_mem_take hfc)]
  rw [List.take_range'_of_length_ge hk.le, List.mem_range'_1] at hfc
  rw [beq_iff_eq]
  omega

theorem countP_cacheFiles (hn : 0 < n) :
  (cacheFiles n m maxActiveDownloads).queue.countP (cacheFiles n m maxActiveDownloads).isUser = 1
  := by
  have hcongr : (List.range' 1 n).countP (cacheFiles n m maxActiveDownloads).isUser =
      (List.range' 1 n).countP (· == n) :=
    List.countP_congr fun fc hfc => by rw [isUser_cacheFiles _ _ _ hfc]
  refine hcongr.trans (List.count_eq_one_of_mem List.nodup_range' ?_)
  rw [List.mem_range'_1]
  omega

theorem not_reserved_cacheFiles (hm : 2 ^ 31 ≤ m) (hm' : m < 2 ^ 32) (hn : m < n)
    (hmore : maxActiveDownloads < n) :
  ∃ c', (cacheFiles n m maxActiveDownloads).checkDownloadQueue (fun _ => false) = .ok c' ∧
    ¬(cacheFiles n m maxActiveDownloads).Reserved c'
  := by
  have hlength : (cacheFiles n m maxActiveDownloads).queue.length = n := List.length_range'
  obtain ⟨c₁, hrun, -, hcheck⟩ := checkDownloadQueue_eq
    (keeping_cacheFiles n m maxActiveDownloads) (by rw [hlength]; exact hmore) fun _ => false
  have hsame : requeueInactive (fun _ => false) (cacheFiles n m maxActiveDownloads)
      (cacheFiles n m maxActiveDownloads).mDownloads.toList 0 =
        .ok (cacheFiles n m maxActiveDownloads) := by
    apply requeueInactive_cacheFiles
    rintro ⟨hash, fc⟩ hmem
    exact ((get?_cacheFiles n m maxActiveDownloads).1 (OrdMap.mem_toList.1 hmem)).2
  obtain rfl : cacheFiles n m maxActiveDownloads = c₁ := Except.ok.inj (hsame.symm.trans hrun)
  have hnegative : (asInt (cacheFiles n m maxActiveDownloads).minPrioritizedTransfers -
      (((cacheFiles n m maxActiveDownloads).queue.take
        (cacheFiles n m maxActiveDownloads).minPrioritizedTransfers).countP
          (cacheFiles n m maxActiveDownloads).isUser : Int)).toNat = 0 := by
    change (asInt m - _).toNat = 0
    rw [asInt, if_neg (by omega)]
    omega
  rw [hnegative, List.take_zero] at hcheck
  refine ⟨_, hcheck, ?_⟩
  rw [Reserved, countP_cacheFiles _ _ _ (by omega)]
  change ((cacheFiles n m maxActiveDownloads).queue.take m).countP _ ≠ min m 1
  rw [countP_take_cacheFiles _ _ _ hn]
  omega

/-- Whatever the downloads are, the first `m` positions are reserved when there are `n` of them. -/
def AlwaysReserves : Prop :=
  ∀ (Hash : Type) [LinearOrder Hash] (c : FtController Hash) (inactive : Nat → Bool),
    World.Keeping c → c.queue.length = n → c.minPrioritizedTransfers = m →
    c.maxActiveDownloads = maxActiveDownloads →
    ∃ c', c.checkDownloadQueue inactive = .ok c' ∧ c.Reserved c'

/-- The first positions are reserved for the user's files unless their number is taken for a
negative one and the queue is longer. -/
theorem alwaysReserves_iff (hm : m < 2 ^ 32) (hmore : maxActiveDownloads < n) :
  AlwaysReserves n m maxActiveDownloads ↔ m < 2 ^ 31 ∨ n ≤ m
  := by
  constructor
  · intro h
    by_contra hnot
    obtain ⟨c', hrun, hreserved⟩ := not_reserved_cacheFiles n m maxActiveDownloads (by omega) hm
      (by omega) hmore
    obtain ⟨c'', hrun', hreserved'⟩ := h Nat (cacheFiles n m maxActiveDownloads) (fun _ => false)
      (keeping_cacheFiles n m maxActiveDownloads) List.length_range' rfl rfl
    obtain rfl : c' = c'' := Except.ok.inj (hrun.symm.trans hrun')
    exact hreserved hreserved'
  · rintro hbound Hash _ c inactive hkeep rfl rfl rfl
    exact reserved_checkDownloadQueue hkeep hmore hbound inactive

end

/-- Seven downloads, five of which may be active, with three reserved positions. -/
theorem alwaysReserves_seven :
  AlwaysReserves 7 3 5
  := (alwaysReserves_iff 7 3 5 (by decide) (by decide)).2 (by decide)

/-- A file of the user behind `2 ^ 31` cache files, as many as there are reserved positions. -/
theorem not_reserved_lastFile :
  World.Keeping (cacheFiles (2 ^ 31 + 1) (2 ^ 31) 5) ∧
    ∃ c', (cacheFiles (2 ^ 31 + 1) (2 ^ 31) 5).checkDownloadQueue (fun _ => false) = .ok c' ∧
      ¬(cacheFiles (2 ^ 31 + 1) (2 ^ 31) 5).Reserved c'
  := ⟨keeping_cacheFiles _ _ _, not_reserved_cacheFiles _ _ _ le_rfl (by decide) (by decide)
    (by decide)⟩

end FtController

end Ft
