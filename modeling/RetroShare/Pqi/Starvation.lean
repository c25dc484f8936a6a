import Mathlib.Algebra.Order.BigOperators.Group.Finset
import Mathlib.Algebra.Ring.GeomSum
import Mathlib.Data.Rat.Floor
import RetroShare.Pqi.QoS

/-!
# No item is lost, and no level starves

For every sequence of calls of a `QoS`, the items of a level leave in the order in which they came,
the counters stay below their thresholds, and a level with items is served after a number of calls
that depends on the number of levels and on `alpha` only.

What a level `l` pays whenever it is charged, and what the levels below it pay, is weighed in
`credit`.  A call that serves another level takes at least one from it.
-/

namespace Pqi

variable {ι : Type}

namespace QoS

/-- The items that come to level `l`. -/
def Event.queuedAt (l : Nat) : Event ι → Option ι
  | queued level item => if level = l then some item else none
  | _ => none

/-- The items that leave level `l`. -/
def Event.leftAt (l : Nat) : Event ι → Option ι
  | served level item => if level = l then some item else none
  | freed level item => if level = l then some item else none
  | _ => none

/-- A call of `outRsItem`. -/
def Input.isOut : Input ι → Bool
  | outRsItem => true
  | _ => false

/-- After this many calls of `outRsItem` a level with items has been served. -/
def starvationBound (nbLevels : Nat) (alpha : ℚ) : Nat := ⌈nbLevels * alpha ^ (nbLevels - 1)⌉₊

/-- Level `l` has items whenever `outRsItem` is called. -/
def StaysNonEmpty (l : Nat) (qos : QoS ι) (input : Input ι) : Prop :=
  input.isOut → (qos.itemQueues l).items ≠ []

/-- What holds after the calls `inputs` of a new `QoS`. -/
structure Fair (nbLevels : Nat) (alpha : ℚ) (inputs : List (Input ι)) : Prop where
  nbItems : (machine.run (new nbLevels alpha) inputs).nbItems =
    ∑ l ∈ Finset.range nbLevels,
      ((machine.run (new nbLevels alpha) inputs).itemQueues l).items.length
  null : (machine.run (new nbLevels alpha) inputs).outRsItem.1 = none ↔
    ∀ l < nbLevels, ((machine.run (new nbLevels alpha) inputs).itemQueues l).items = []
  order : ∀ l < nbLevels,
    (machine.trace (new nbLevels alpha) inputs).filterMap (Event.queuedAt l) =
      (machine.trace (new nbLevels alpha) inputs).filterMap (Event.leftAt l) ++
        ((machine.run (new nbLevels alpha) inputs).itemQueues l).items
  counter : ∀ l < nbLevels,
    0 ≤ ((machine.run (new nbLevels alpha) inputs).itemQueues l).counter ∧
      ((machine.run (new nbLevels alpha) inputs).itemQueues l).counter <
        ((machine.run (new nbLevels alpha) inputs).itemQueues l).threshold
  served : ∀ l < nbLevels, ∀ later : List (Input ι),
    machine.Along (StaysNonEmpty l) (machine.run (new nbLevels alpha) inputs) later →
    starvationBound nbLevels alpha ≤ later.countP Input.isOut →
    ∃ item, .served l item ∈ machine.trace (machine.run (new nbLevels alpha) inputs) later

/-! ### What every call preserves -/

/-- The invariant of the states. -/
structure Sound (nbLevels : Nat) (alpha : ℚ) (qos : QoS ι) : Prop where
  levels : qos.nbLevels = nbLevels
  nbItems : qos.nbItems = ∑ l ∈ Finset.range nbLevels, (qos.itemQueues l).items.length
  threshold : ∀ l < nbLevels, (qos.itemQueues l).threshold = alpha ^ (nbLevels - 1 - l)
  inc : ∀ l < nbLevels, (qos.itemQueues l).inc = alpha
  counter : ∀ l < nbLevels, 0 ≤ (qos.itemQueues l).counter ∧
    (qos.itemQueues l).counter < (qos.itemQueues l).threshold

variable {qos : QoS ι} {nbLevels l : Nat} {alpha : ℚ}

theorem levelOf_lt (hpos : 0 < qos.nbLevels) (priority : Int) :
  qos.levelOf priority < qos.nbLevels
  := by
  rw [levelOf]
  split <;> omega

theorem itemQueues_outRsItem (h : qos.nbItems ≠ 0) (hl : l < qos.nbLevels) :
  qos.outRsItem.2.itemQueues l =
    if l = qos.charge.1 then ((qos.itemQueues l).charged qos.top.2).pop.2
    else (qos.itemQueues l).charged qos.top.2
  := by
  rw [outRsItem, if_neg h]
  dsimp only
  rw [Function.update_apply]
  split
  case isTrue heq => rw [← heq, charge_queues hl]
  case isFalse => apply charge_queues hl

theorem sound_new (hpos : 1 ≤ alpha) :
  (new nbLevels alpha : QoS ι).Sound nbLevels alpha
  where
  levels := rfl
  nbItems := by
    symm
    apply Finset.sum_eq_zero
    intro l _
    rfl
  threshold _ _ := rfl
  inc _ _ := rfl
  counter l _ := ⟨le_rfl, pow_pos (lt_of_lt_of_le one_pos hpos) _⟩

namespace Sound

variable (h : qos.Sound nbLevels alpha)

include h

theorem nbItems_eq_zero_iff :
  qos.nbItems = 0 ↔ ∀ l < nbLevels, (qos.itemQueues l).items = []
  := by
  rw [h.nbItems, Finset.sum_eq_zero_iff]
  simp only [Finset.mem_range, List.length_eq_zero_iff]

theorem nbItems_ne_zero (hitems : qos.HasItems) :
  qos.nbItems ≠ 0
  := by
  obtain ⟨l, hl, hne⟩ := hitems
  rw [h.levels] at hl
  intro hzero
  exact hne (h.nbItems_eq_zero_iff.mp hzero l hl)

theorem hasItems (hne : qos.nbItems ≠ 0) :
  qos.HasItems
  := by
  rw [ne_eq, h.nbItems_eq_zero_iff] at hne
  push Not at hne
  obtain ⟨l, hl, hitems⟩ := hne
  exact ⟨l, by rwa [h.levels], hitems⟩

theorem one_le_inc (hitems : qos.HasItems) (halpha : 1 ≤ alpha) :
  1 ≤ qos.top.2
  := by
  have hlt := top_lt hitems
  rw [h.levels] at hlt
  rw [inc_top]
  split
  · exact le_rfl
  · rwa [h.inc _ hlt]

theorem inc_le (hitems : qos.HasItems) (halpha : 1 ≤ alpha) (hl : l < nbLevels)
    (hne : (qos.itemQueues l).items ≠ []) :
  qos.top.2 ≤ (qos.itemQueues l).threshold
  := by
  have hlt := top_lt hitems
  rw [h.levels] at hlt
  rw [h.threshold l hl, inc_top]
  split
  · exact one_le_pow₀ halpha
  case isFalse htop =>
    have hle : l ≤ qos.top.1 := by
      apply le_of_not_gt
      intro hgt
      exact hne (items_above_top hgt (by rwa [h.levels]))
    rw [h.inc _ hlt]
    apply le_self_pow₀ halpha
    rw [h.levels] at htop
    omega

/-- A call of `inRsItem` adds an item to a level. -/
theorem inRsItem (hpos : 0 < nbLevels) (item : ι) (priority : Int) :
  (qos.inRsItem item priority).Sound nbLevels alpha
  := by
  have hlevel : qos.levelOf priority < nbLevels := by
    rw [← h.levels] at hpos ⊢
    exact levelOf_lt hpos priority
  have hqueue : ∀ l, (qos.inRsItem item priority).itemQueues l =
      if l = qos.levelOf priority then (qos.itemQueues l).push item else qos.itemQueues l := by
    intro l
    rw [QoS.inRsItem]
    dsimp only
    rw [Function.update_apply]
    split
    case isTrue heq => rw [heq]
    case isFalse => rfl
  constructor
  case levels => exact h.levels
  case nbItems =>
    have hlength : ∀ l, ((qos.inRsItem item priority).itemQueues l).items.length =
        (qos.itemQueues l).items.length + if l = qos.levelOf priority then 1 else 0 := by
      intro l
      rw [hqueue]
      split
      · rw [ItemQueue.push, List.length_append, List.length_singleton]
      · rfl
    rw [Finset.sum_congr rfl (fun l _ => hlength l), Finset.sum_add_distrib, Finset.sum_ite_eq',
      if_pos (Finset.mem_range.mpr hlevel), ← h.nbItems]
    rfl
  case threshold =>
    intro l hl
    rw [hqueue]
    split <;> exact h.threshold l hl
  case inc =>
    intro l hl
    rw [hqueue]
    split <;> exact h.inc l hl
  case counter =>
    intro l hl
    rw [hqueue]
    split <;> exact h.counter l hl

/-- A call of `clear` leaves no item. -/
theorem clear :
  qos.clear.Sound nbLevels alpha
  := by
  have hqueue : ∀ l < nbLevels,
      qos.clear.itemQueues l = { qos.itemQueues l with items := [] } := by
    intro l hl
    rw [QoS.clear]
    exact if_pos (by rwa [h.levels])
  constructor
  case levels => exact h.levels
  case nbItems =>
    symm
    apply Finset.sum_eq_zero
    intro l hl
    rw [hqueue l (Finset.mem_range.mp hl)]
    rfl
  case threshold =>
    intro l hl
    rw [hqueue l hl]
    exact h.threshold l hl
  case inc =>
    intro l hl
    rw [hqueue l hl]
    exact h.inc l hl
  case counter =>
    intro l hl
    rw [hqueue l hl]
    exact h.counter l hl

section

variable (hne : qos.nbItems ≠ 0)

include hne

theorem counter_outRsItem (hl : l < nbLevels) :
  (qos.outRsItem.2.itemQueues l).counter = ((qos.itemQueues l).charged qos.top.2).counter
  := by
  rw [itemQueues_outRsItem hne (by rwa [h.levels])]
  split
  · apply ItemQueue.counter_pop
  · rfl

theorem threshold_outRsItem (hl : l < nbLevels) :
  (qos.outRsItem.2.itemQueues l).threshold = (qos.itemQueues l).threshold
  := by
  rw [itemQueues_outRsItem hne (by rwa [h.levels])]
  split
  · rw [ItemQueue.threshold_pop, ItemQueue.threshold_charged]
  · apply ItemQueue.threshold_charged

theorem items_outRsItem (hl : l < nbLevels) :
  (if l = qos.charge.1 then qos.outRsItem.1.toList else []) ++
      (qos.outRsItem.2.itemQueues l).items = (qos.itemQueues l).items
  := by
  have hlevels : l < qos.nbLevels := by rwa [h.levels]
  rw [itemQueues_outRsItem hne hlevels]
  split
  case isTrue heq =>
    have hout : qos.outRsItem.1 = ((qos.itemQueues l).charged qos.top.2).pop.1 := by
      rw [QoS.outRsItem, if_neg hne, ← charge_queues hlevels, heq]
    rw [hout, ItemQueue.toList_pop_append, ItemQueue.items_charged]
  case isFalse => rw [ItemQueue.items_charged, List.nil_append]

theorem isSome_outRsItem :
  qos.outRsItem.1.isSome
  := by
  have hitems := h.hasItems hne
  have hlt := charge_last_le_top.trans_lt (top_lt hitems)
  rw [QoS.outRsItem, if_neg hne]
  apply ItemQueue.isSome_pop
  rw [charge_queues hlt, ItemQueue.items_charged]
  exact items_charge_last hitems

end

/-- A call of `outRsItem` takes an item from the level that is served. -/
theorem outRsItem (halpha : 1 ≤ alpha) :
  qos.outRsItem.2.Sound nbLevels alpha
  := by
  by_cases hne : qos.nbItems = 0
  · rw [QoS.outRsItem, if_pos hne]
    exact h
  have hitems := h.hasItems hne
  have hlast : qos.charge.1 < nbLevels := by
    rw [← h.levels]
    exact charge_last_le_top.trans_lt (top_lt hitems)
  constructor
  case levels =>
    rw [QoS.outRsItem, if_neg hne]
    exact h.levels
  case nbItems =>
    have hlength : ∀ l ∈ Finset.range nbLevels, (qos.itemQueues l).items.length =
        (qos.outRsItem.2.itemQueues l).items.length + if l = qos.charge.1 then 1 else 0 := by
      intro l hl
      obtain ⟨item, hitem⟩ := Option.isSome_iff_exists.mp (h.isSome_outRsItem hne)
      rw [← h.items_outRsItem hne (Finset.mem_range.mp hl), List.length_append, hitem]
      split
      · rw [Nat.add_comm]
        rfl
      · rw [Nat.add_comm]
        rfl
    have hsum := h.nbItems
    rw [Finset.sum_congr rfl hlength, Finset.sum_add_distrib, Finset.sum_ite_eq',
      if_pos (Finset.mem_range.mpr hlast)] at hsum
    have hcount : qos.outRsItem.2.nbItems = qos.nbItems - 1 := by
      rw [QoS.outRsItem, if_neg hne]
    rw [hcount, hsum, Nat.add_sub_cancel]
  case threshold =>
    intro l hl
    rw [h.threshold_outRsItem hne hl]
    exact h.threshold l hl
  case inc =>
    intro l hl
    rw [itemQueues_outRsItem hne (by rwa [h.levels])]
    split
    · rw [ItemQueue.inc_pop, ItemQueue.inc_charged]
      exact h.inc l hl
    · rw [ItemQueue.inc_charged]
      exact h.inc l hl
  case counter =>
    intro l hl
    rw [h.counter_outRsItem hne hl, h.threshold_outRsItem hne hl]
    apply ItemQueue.counter_charged_mem
    · exact zero_le_one.trans (h.one_le_inc hitems halpha)
    · exact h.inc_le hitems halpha hl
    · exact h.counter l hl

/-- Every call preserves the invariant. -/
theorem next (hpos : 0 < nbLevels) (halpha : 1 ≤ alpha) (input : Input ι) :
  (machine.next qos input).Sound nbLevels alpha
  := by
  cases input with
  | inRsItem item priority => exact h.inRsItem hpos item priority
  | outRsItem => exact h.outRsItem halpha
  | clear => exact h.clear

/-- `NULL` is returned when no level has items, and only then. -/
theorem outRsItem_eq_none_iff :
  qos.outRsItem.1 = none ↔ ∀ l < nbLevels, (qos.itemQueues l).items = []
  := by
  rw [← h.nbItems_eq_zero_iff]
  constructor
  · intro hnone
    by_contra hne
    have hsome := h.isSome_outRsItem hne
    rw [hnone] at hsome
    cases hsome
  · intro hzero
    rw [QoS.outRsItem, if_pos hzero]

end Sound

theorem sound_stored (hpos : 0 < nbLevels) (halpha : 1 ≤ alpha) (inputs : List (Input ι)) :
  (machine.run (new nbLevels alpha : QoS ι) inputs).Sound nbLevels alpha
  := by
  apply Machine.run_of_next (P := fun qos : QoS ι => qos.Sound nbLevels alpha)
  · intro qos input h
    exact h.next hpos halpha input
  · exact sound_new halpha

/-! ### The order of the items -/

/-- The items of level `l` that `clear` frees are those of its queue. -/
theorem leftAt_freedItems (hl : l < qos.nbLevels) :
  qos.freedItems.filterMap (Event.leftAt l) = (qos.itemQueues l).items
  := by
  have hlevel : ∀ i, ((qos.itemQueues i).items.map (Event.freed i)).filterMap (Event.leftAt l) =
      if i = l then (qos.itemQueues i).items else [] := by
    intro i
    rw [List.filterMap_map]
    split
    case isTrue heq =>
      have hsome : Event.leftAt l ∘ Event.freed i = (some : ι → Option ι) := by
        funext item
        exact if_pos heq
      rw [hsome, List.filterMap_some]
    case isFalse hne =>
      have hnone : Event.leftAt l ∘ Event.freed i = (fun _ => none : ι → Option ι) := by
        funext item
        exact if_neg hne
      rw [hnone]
      exact List.filterMap_none _
  have hrange : ∀ n, ((List.range n).flatMap fun i =>
      if i = l then (qos.itemQueues i).items else []) =
        if l < n then (qos.itemQueues l).items else [] := by
    intro n
    induction n with
    | zero => rfl
    | succ n ih =>
      rw [List.range_succ, List.flatMap_append, ih, List.flatMap_singleton]
      rcases lt_trichotomy l n with h | rfl | h
      · simp [h, h.ne', h.trans n.lt_succ_self]
      · simp
      · simp [h.not_gt, h.ne, Nat.not_lt_of_ge h]
  rw [freedItems, List.filterMap_flatMap]
  simp only [hlevel]
  rw [hrange, if_pos hl]

theorem queuedAt_freedItems (l : Nat) :
  qos.freedItems.filterMap (Event.queuedAt l) = []
  := by
  rw [List.filterMap_eq_nil_iff]
  intro event hevent
  obtain ⟨i, -, hitem⟩ := List.mem_flatMap.mp hevent
  obtain ⟨item, -, rfl⟩ := List.mem_map.mp hitem
  rfl

namespace Sound

variable (h : qos.Sound nbLevels alpha)

include h

/-- What comes to a level is put behind its items, and what leaves it was in front. -/
theorem order_step (input : Input ι) (hl : l < nbLevels) :
  (qos.itemQueues l).items ++ (machine.emit qos input).filterMap (Event.queuedAt l) =
    (machine.emit qos input).filterMap (Event.leftAt l) ++
      ((machine.next qos input).itemQueues l).items
  := by
  cases input with
  | inRsItem item priority =>
    change (qos.itemQueues l).items ++ [Event.queued (qos.levelOf priority) item].filterMap _ =
      [] ++ (Function.update qos.itemQueues _ _ l).items
    rw [Function.update_apply, List.nil_append]
    split
    case isTrue heq => simp [Event.queuedAt, ItemQueue.push, heq]
    case isFalse hne => simp [Event.queuedAt, Ne.symm hne]
  | outRsItem =>
    change (qos.itemQueues l).items ++
        [qos.outRsItem.1.elim Event.null (Event.served qos.charge.1)].filterMap _ =
      [qos.outRsItem.1.elim Event.null (Event.served qos.charge.1)].filterMap _ ++
        (qos.outRsItem.2.itemQueues l).items
    by_cases hne : qos.nbItems = 0
    · rw [QoS.outRsItem, if_pos hne]
      exact List.append_nil _
    · obtain ⟨item, hitem⟩ := Option.isSome_iff_exists.mp (h.isSome_outRsItem hne)
      have hitems := h.items_outRsItem hne hl
      rw [hitem] at hitems ⊢
      rw [← hitems]
      by_cases heq : l = qos.charge.1
      · simp [Event.queuedAt, Event.leftAt, heq]
      · simp [Event.queuedAt, Event.leftAt, heq, Ne.symm heq]
  | clear =>
    have hlevels : l < qos.nbLevels := by rwa [h.levels]
    have hitems : (qos.clear.itemQueues l).items = [] := by
      rw [QoS.clear]
      simp [hlevels]
    change (qos.itemQueues l).items ++ qos.freedItems.filterMap _ =
      qos.freedItems.filterMap _ ++ (qos.clear.itemQueues l).items
    rw [queuedAt_freedItems, leftAt_freedItems hlevels, hitems]

end Sound

/-- The items of a level leave in the order in which they came, and the rest waits. -/
theorem order_run (hpos : 0 < nbLevels) (halpha : 1 ≤ alpha) (inputs : List (Input ι))
    (hl : l < nbLevels) :
  (machine.trace (new nbLevels alpha : QoS ι) inputs).filterMap (Event.queuedAt l) =
    (machine.trace (new nbLevels alpha) inputs).filterMap (Event.leftAt l) ++
      ((machine.run (new nbLevels alpha) inputs).itemQueues l).items
  := by
  suffices h : (machine.run (new nbLevels alpha : QoS ι) inputs).Sound nbLevels alpha ∧
      (machine.trace (new nbLevels alpha : QoS ι) inputs).filterMap (Event.queuedAt l) =
        (machine.trace (new nbLevels alpha) inputs).filterMap (Event.leftAt l) ++
          ((machine.run (new nbLevels alpha) inputs).itemQueues l).items from h.2
  apply Machine.run_trace_of_next (P := fun (qos : QoS ι) events => qos.Sound nbLevels alpha ∧
    events.filterMap (Event.queuedAt l) =
      events.filterMap (Event.leftAt l) ++ (qos.itemQueues l).items)
  · rintro qos input events ⟨hsound, horder⟩
    refine ⟨hsound.next hpos halpha input, ?_⟩
    rw [List.filterMap_append, List.filterMap_append, horder, List.append_assoc,
      hsound.order_step input hl, List.append_assoc]
  · exact ⟨sound_new halpha, rfl⟩

/-! ### What is owed to a level -/

/-- What the levels below `l` have in advance of it, weighed by what they cost. -/
def credit (alpha : ℚ) (l : Nat) (qos : QoS ι) : ℚ :=
  ∑ j ∈ Finset.range l, alpha ^ j * (qos.itemQueues j).counter -
    alpha ^ l * (qos.itemQueues l).counter

theorem sum_pow_lt (halpha : 2 ≤ alpha) (l : Nat) :
  ∑ j ∈ Finset.range l, alpha ^ j + 1 ≤ alpha ^ l
  := by
  have hsum : (∑ j ∈ Finset.range l, alpha ^ j) * (alpha - 1) = alpha ^ l - 1 :=
    geom_sum_mul alpha l
  have hnonneg : 0 ≤ ∑ j ∈ Finset.range l, alpha ^ j := by
    apply Finset.sum_nonneg
    intro j _
    apply pow_nonneg
    linarith
  have hle : ∑ j ∈ Finset.range l, alpha ^ j ≤ (∑ j ∈ Finset.range l, alpha ^ j) * (alpha - 1) := by
    apply le_mul_of_one_le_right hnonneg
    linarith
  linarith

namespace Sound

variable (h : qos.Sound nbLevels alpha) {l : Nat} (hl : l < nbLevels)

include h hl

/-- What a level pays for being served, weighed, is the same for all. -/
theorem pow_mul_threshold :
  alpha ^ l * (qos.itemQueues l).threshold = alpha ^ (nbLevels - 1)
  := by
  rw [h.threshold l hl, ← pow_add]
  congr 1
  omega

theorem credit_le (halpha : 2 ≤ alpha) :
  credit alpha l qos ≤ l * alpha ^ (nbLevels - 1)
  := by
  have hpos : ∀ j, (0 : ℚ) ≤ alpha ^ j := fun j => pow_nonneg (by linarith) j
  have hsum : ∑ j ∈ Finset.range l, alpha ^ j * (qos.itemQueues j).counter ≤
      l * alpha ^ (nbLevels - 1) := by
    have hterm : ∀ j ∈ Finset.range l,
        alpha ^ j * (qos.itemQueues j).counter ≤ alpha ^ (nbLevels - 1) := by
      intro j hj
      have hjl := (Finset.mem_range.mp hj).trans hl
      rw [← h.pow_mul_threshold hjl]
      apply mul_le_mul_of_nonneg_left (h.counter j hjl).2.le (hpos j)
    have hcard := Finset.sum_le_card_nsmul _ _ _ hterm
    rwa [Finset.card_range, nsmul_eq_mul] at hcard
  have hown := mul_nonneg (hpos l) (h.counter l hl).1
  rw [credit]
  linarith

theorem neg_lt_credit (halpha : 2 ≤ alpha) :
  -alpha ^ (nbLevels - 1) < credit alpha l qos
  := by
  have hsum : 0 ≤ ∑ j ∈ Finset.range l, alpha ^ j * (qos.itemQueues j).counter := by
    apply Finset.sum_nonneg
    intro j hj
    apply mul_nonneg
    · apply pow_nonneg
      linarith
    · exact (h.counter j ((Finset.mem_range.mp hj).trans hl)).1
  have hown : alpha ^ l * (qos.itemQueues l).counter < alpha ^ (nbLevels - 1) := by
    rw [← h.pow_mul_threshold hl]
    apply mul_lt_mul_of_pos_left (h.counter l hl).2
    apply pow_pos
    linarith
  rw [credit]
  linarith

/-- A call that serves another level than `l`, which has items, takes one from the credit. -/
theorem credit_outRsItem (halpha : 2 ≤ alpha) (hitems : (qos.itemQueues l).items ≠ [])
    (hother : qos.charge.1 ≠ l) :
  credit alpha l qos.outRsItem.2 + 1 ≤ credit alpha l qos
  := by
  have hpos : ∀ j, (0 : ℚ) ≤ alpha ^ j := fun j => pow_nonneg (by linarith) j
  have hlevels : l < qos.nbLevels := by rwa [h.levels]
  have hhas : qos.HasItems := ⟨l, hlevels, hitems⟩
  have hne := h.nbItems_ne_zero hhas
  have hinc : 1 ≤ qos.top.2 := h.one_le_inc hhas (by linarith)
  -- What each level below `l` gains, and what it pays.
  have hbelow : ∀ j ∈ Finset.range l, alpha ^ j * (qos.outRsItem.2.itemQueues j).counter ≤
      alpha ^ j * (qos.itemQueues j).counter + alpha ^ j * qos.top.2 -
        if (qos.itemQueues j).Reaches qos.top.2 then alpha ^ (nbLevels - 1) else 0 := by
    intro j hj
    have hjl := (Finset.mem_range.mp hj).trans hl
    rw [h.counter_outRsItem hne hjl]
    by_cases hnil : (qos.itemQueues j).items = []
    · rw [ItemQueue.charged_of_items_eq_nil hnil, if_neg (fun hr => hr.1 hnil)]
      have hgain := mul_nonneg (hpos j) (zero_le_one.trans hinc)
      linarith
    · rw [ItemQueue.counter_charged hnil]
      split
      · rw [← h.pow_mul_threshold hjl]
        linarith [mul_sub (alpha ^ j) ((qos.itemQueues j).counter + qos.top.2)
          (qos.itemQueues j).threshold, mul_add (alpha ^ j) (qos.itemQueues j).counter qos.top.2]
      · rw [sub_zero, sub_zero, mul_add]
  have hsum := Finset.sum_le_sum hbelow
  rw [Finset.sum_sub_distrib, Finset.sum_add_distrib, ← Finset.sum_mul] at hsum
  have hown : alpha ^ l * (qos.outRsItem.2.itemQueues l).counter =
      alpha ^ l * (qos.itemQueues l).counter + alpha ^ l * qos.top.2 -
        if (qos.itemQueues l).Reaches qos.top.2 then alpha ^ (nbLevels - 1) else 0 := by
    rw [h.counter_outRsItem hne hl, ItemQueue.counter_charged hitems]
    split
    · rw [← h.pow_mul_threshold hl]
      ring
    · ring
  -- When `l` pays without being served, a level below it pays as well.
  have hpaid : (if (qos.itemQueues l).Reaches qos.top.2 then alpha ^ (nbLevels - 1) else 0) ≤
      ∑ j ∈ Finset.range l,
        if (qos.itemQueues j).Reaches qos.top.2 then alpha ^ (nbLevels - 1) else 0 := by
    have hnonneg : ∀ j ∈ Finset.range l,
        0 ≤ if (qos.itemQueues j).Reaches qos.top.2 then alpha ^ (nbLevels - 1) else 0 := by
      intro j _
      split
      · apply hpos
      · exact le_rfl
    split
    case isFalse => exact Finset.sum_nonneg hnonneg
    case isTrue hr =>
      have hlt : qos.charge.1 < l := lt_of_le_of_ne (charge_last_le hlevels hr) hother
      have hreaches : (qos.itemQueues qos.charge.1).Reaches qos.top.2 := by
        apply charge_last_cases.resolve_left
        intro htop
        rw [htop] at hlt
        exact hitems (items_above_top hlt hlevels)
      have hsingle := Finset.single_le_sum hnonneg (Finset.mem_range.mpr hlt)
      rwa [if_pos hreaches] at hsingle
  have hgeom : (∑ j ∈ Finset.range l, alpha ^ j) * qos.top.2 + qos.top.2 ≤
      alpha ^ l * qos.top.2 := by
    rw [← add_one_mul]
    apply mul_le_mul_of_nonneg_right (sum_pow_lt halpha l) (zero_le_one.trans hinc)
  rw [credit, credit]
  linarith

end Sound

/-- Level `l` is not served by the calls. -/
def NotServed (l : Nat) (events : List (Event ι)) : Prop := ∀ item, .served l item ∉ events

/-- Calls that do not serve a level that stays non-empty take their number from its credit. -/
theorem credit_run (hpos : 0 < nbLevels) (halpha : 2 ≤ alpha) (hl : l < nbLevels) :
  ∀ {later : List (Input ι)} {qos : QoS ι}, qos.Sound nbLevels alpha →
    machine.Along (StaysNonEmpty l) qos later → NotServed l (machine.trace qos later) →
    credit alpha l (machine.run qos later) + later.countP Input.isOut ≤ credit alpha l qos
  | [], qos, _, _, _ => by simp
  | input :: later, qos, h, ⟨hinput, hlater⟩, hnot => by
      have hrest : NotServed l (machine.trace (machine.next qos input) later) :=
        fun item hitem => hnot item (List.mem_append_right _ hitem)
      have hone : 1 ≤ alpha := by linarith
      have ih := credit_run hpos halpha hl (h.next hpos hone input) hlater hrest
      rw [Machine.run_cons, List.countP_cons]
      cases input with
      | inRsItem item priority =>
        have hcredit : credit alpha l (machine.next qos (.inRsItem item priority)) =
            credit alpha l qos := by
          simp only [credit, Machine.next, machine, counter_inRsItem]
        rw [hcredit] at ih
        simpa [Input.isOut] using ih
      | clear =>
        have hcredit : credit alpha l (machine.next qos .clear) = credit alpha l qos := by
          simp only [credit, Machine.next, machine, counter_clear]
        rw [hcredit] at ih
        simpa [Input.isOut] using ih
      | outRsItem =>
        have hitems := hinput rfl
        have hne := h.nbItems_ne_zero ⟨l, by rwa [h.levels], hitems⟩
        have hother : qos.charge.1 ≠ l := by
          intro heq
          obtain ⟨item, hitem⟩ := Option.isSome_iff_exists.mp (h.isSome_outRsItem hne)
          apply hnot item
          apply List.mem_append_left
          change _ ∈ [qos.outRsItem.1.elim Event.null (Event.served qos.charge.1)]
          rw [hitem, heq]
          exact List.mem_singleton.mpr rfl
        have hstep := h.credit_outRsItem hl halpha hitems hother
        change credit alpha l (machine.run qos.outRsItem.2 later) + _ ≤
          credit alpha l qos.outRsItem.2 at ih
        change credit alpha l (machine.run qos.outRsItem.2 later) + _ ≤ _
        simp only [Input.isOut, if_true]
        push_cast
        linarith

/-- For every sequence of calls of a new `QoS` with a factor of at least two, no item is lost or
doubled, the items of a level keep their order, and no level starves. -/
theorem fair_run (nbLevels : Nat) (alpha : ℚ) (hpos : 0 < nbLevels) (halpha : 2 ≤ alpha)
    (inputs : List (Input ι)) :
  Fair nbLevels alpha inputs
  := by
  have hone : 1 ≤ alpha := by linarith
  have h := sound_stored (ι := ι) hpos hone inputs
  constructor
  case nbItems => exact h.nbItems
  case null => exact h.outRsItem_eq_none_iff
  case order =>
    intro l hl
    exact order_run hpos hone inputs hl
  case counter => exact h.counter
  case served =>
    intro l hl later hstays hcount
    by_contra hnone
    have hnot : NotServed l (machine.trace (machine.run (new nbLevels alpha) inputs) later) := by
      rwa [not_exists] at hnone
    have hend : (machine.run (machine.run (new nbLevels alpha) inputs) later).Sound
        nbLevels alpha := by
      rw [← Machine.run_append]
      exact sound_stored hpos hone (inputs ++ later)
    have hrun := credit_run hpos halpha hl h hstays hnot
    have hstart := h.credit_le hl halpha
    have hlast := hend.neg_lt_credit hl halpha
    have hbound : (nbLevels : ℚ) * alpha ^ (nbLevels - 1) ≤ later.countP Input.isOut := by
      apply (Nat.le_ceil _).trans
      exact_mod_cast hcount
    have hlevel : ((l + 1 : Nat) : ℚ) * alpha ^ (nbLevels - 1) ≤
        nbLevels * alpha ^ (nbLevels - 1) := by
      apply mul_le_mul_of_nonneg_right
      · exact_mod_cast hl
      · apply pow_nonneg
        linarith
    push_cast at hlevel
    linarith

/-- Two levels, the upper one of which always has an item. -/
theorem fair_run_twoLevels :
  Fair 2 2 [Input.inRsItem 'a' 0, .inRsItem 'b' 1, .outRsItem, .inRsItem 'c' 7, .outRsItem]
  := fair_run 2 2 (by decide) (by decide) _

end QoS

end Pqi
