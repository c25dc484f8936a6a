import Mathlib.Algebra.BigOperators.Group.Finset.Basic
import Mathlib.Tactic.Linarith
import RetroShare.Lib.Machine

/-!
# The queues of `pqiQoS`

`QoS` of `pqiqos.cc` keeps the waiting items in one queue for each level of priority.  A call of
`outRsItem` adds to the counters of the levels that have items; the lowest level whose counter
reaches its threshold is served, and the highest level with items when there is none.  The counters
and thresholds are exact numbers, and the items are what the callers queue, so never `NULL`.
-/

namespace Pqi

/-- `pqiQoS::ItemQueue`. -/
structure ItemQueue (ι : Type) where
  threshold : ℚ
  counter : ℚ
  inc : ℚ
  items : List ι

/-- A `pqiQoS`.  Only the levels below `nbLevels` have a queue. -/
structure QoS (ι : Type) where
  /-- `_item_queues.size()`. -/
  nbLevels : Nat
  itemQueues : Nat → ItemQueue ι
  nbItems : Nat

variable {ι : Type}

namespace ItemQueue

variable (queue : ItemQueue ι)

/-- `push`. -/
def push (item : ι) : ItemQueue ι := { queue with items := queue.items ++ [item] }

/-- `pop`. -/
def pop : Option ι × ItemQueue ι :=
  match queue.items with
  | [] => (none, queue)
  | item :: items => (some item, { queue with items := items })

/-- The queue has items, and adding `inc` takes its counter to the threshold. -/
def Reaches (inc : ℚ) : Prop := queue.items ≠ [] ∧ queue.threshold ≤ queue.counter + inc

instance (inc : ℚ) : Decidable (queue.Reaches inc) :=
  decidable_of_iff (queue.items.isEmpty = false ∧ queue.threshold ≤ queue.counter + inc) <| by
    rw [Reaches, ne_eq, ← List.isEmpty_iff, Bool.not_eq_true]

/-- What an iteration of the second loop of `out_rsItem` does to a queue. -/
def charged (inc : ℚ) : ItemQueue ι :=
  if queue.items.isEmpty then queue
  else if queue.threshold ≤ queue.counter + inc then
    { queue with counter := queue.counter + inc - queue.threshold }
  else { queue with counter := queue.counter + inc }

@[simp]
theorem items_charged (inc : ℚ) :
  (queue.charged inc).items = queue.items
  := by
  rw [charged]
  split
  · rfl
  · split <;> rfl

@[simp]
theorem threshold_charged (inc : ℚ) :
  (queue.charged inc).threshold = queue.threshold
  := by
  rw [charged]
  split
  · rfl
  · split <;> rfl

@[simp]
theorem inc_charged (inc : ℚ) :
  (queue.charged inc).inc = queue.inc
  := by
  rw [charged]
  split
  · rfl
  · split <;> rfl

variable {queue} {inc : ℚ}

theorem charged_of_items_eq_nil (h : queue.items = []) :
  queue.charged inc = queue
  := by
  rw [charged, if_pos (List.isEmpty_iff.mpr h)]

theorem counter_charged (h : queue.items ≠ []) :
  (queue.charged inc).counter =
    queue.counter + inc - if queue.Reaches inc then queue.threshold else 0
  := by
  rw [charged, if_neg (by rwa [List.isEmpty_iff])]
  by_cases hr : queue.threshold ≤ queue.counter + inc
  · rw [if_pos hr, if_pos ⟨h, hr⟩]
  · rw [if_neg hr, if_neg (fun hreaches => hr hreaches.2), sub_zero]

theorem counter_charged_mem (hpos : 0 ≤ inc) (hinc : queue.items ≠ [] → inc ≤ queue.threshold)
    (hcounter : 0 ≤ queue.counter ∧ queue.counter < queue.threshold) :
  0 ≤ (queue.charged inc).counter ∧ (queue.charged inc).counter < queue.threshold
  := by
  by_cases hitems : queue.items = []
  · rw [charged_of_items_eq_nil hitems]
    exact hcounter
  · have hle := hinc hitems
    rw [counter_charged hitems]
    split
    case isTrue hr =>
      have hthreshold := hr.2
      constructor <;> linarith
    case isFalse hr =>
      have hthreshold : queue.counter + inc < queue.threshold := by
        apply lt_of_not_ge
        intro hthreshold
        exact hr ⟨hitems, hthreshold⟩
      constructor <;> linarith

@[simp]
theorem counter_pop (queue : ItemQueue ι) :
  queue.pop.2.counter = queue.counter
  := by
  rw [pop]
  split <;> rfl

@[simp]
theorem threshold_pop (queue : ItemQueue ι) :
  queue.pop.2.threshold = queue.threshold
  := by
  rw [pop]
  split <;> rfl

@[simp]
theorem inc_pop (queue : ItemQueue ι) :
  queue.pop.2.inc = queue.inc
  := by
  rw [pop]
  split <;> rfl

theorem toList_pop_append (queue : ItemQueue ι) :
  queue.pop.1.toList ++ queue.pop.2.items = queue.items
  := by
  rw [pop]
  split
  case h_1 h => simp [h]
  case h_2 h => simp [h]

theorem isSome_pop (h : queue.items ≠ []) :
  queue.pop.1.isSome
  := by
  rw [pop]
  split
  case h_1 hnil => exact absurd hnil h
  case h_2 => rfl

end ItemQueue

namespace QoS

/-- `pqiQoS::pqiQoS`; the loop goes from the highest level down, and every level has `alpha` times
the threshold of the one above. -/
def new (nbLevels : Nat) (alpha : ℚ) : QoS ι where
  nbLevels := nbLevels
  itemQueues i :=
    { threshold := alpha ^ (nbLevels - 1 - i), counter := 0, inc := alpha, items := [] }
  nbItems := 0

variable (qos : QoS ι)

/-- The level of a priority: one that is out of scope is clamped to the maximum value, and so is a
negative one, which the comparison with a size reads as a large number. -/
def levelOf (priority : Int) : Nat :=
  if 0 ≤ priority ∧ priority < qos.nbLevels then priority.toNat else qos.nbLevels - 1

/-- `in_rsItem`. -/
def inRsItem (item : ι) (priority : Int) : QoS ι :=
  { qos with
    itemQueues := Function.update qos.itemQueues (qos.levelOf priority)
      ((qos.itemQueues (qos.levelOf priority)).push item)
    nbItems := qos.nbItems + 1 }

/-- `clear`. -/
def clear : QoS ι :=
  { qos with
    itemQueues := fun i => if i < qos.nbLevels then { qos.itemQueues i with items := [] }
      else qos.itemQueues i
    nbItems := 0 }

/-- The first loop of `out_rsItem`: down from level `i` to one that has items. -/
def topLevel (queues : Nat → ItemQueue ι) : Nat → ℚ → Nat × ℚ
  | 0, inc => (0, inc)
  | i + 1, inc =>
      if (queues (i + 1)).items.isEmpty then topLevel queues i (queues i).inc else (i + 1, inc)

/-- The second loop of `out_rsItem`, over the levels below `j` from the top. -/
def chargeLevels (inc : ℚ) : Nat → Nat → (Nat → ItemQueue ι) → Nat × (Nat → ItemQueue ι)
  | 0, last, queues => (last, queues)
  | j + 1, last, queues =>
      chargeLevels inc j (if (queues j).Reaches inc then j else last)
        (Function.update queues j ((queues j).charged inc))

/-- `i` and `inc` after the first loop. -/
def top : Nat × ℚ := topLevel qos.itemQueues (qos.nbLevels - 1) 1

/-- `last` and the queues after the second loop. -/
def charge : Nat × (Nat → ItemQueue ι) :=
  chargeLevels qos.top.2 (qos.top.1 + 1) qos.top.1 qos.itemQueues

/-- `out_rsItem`. -/
def outRsItem : Option ι × QoS ι :=
  if qos.nbItems = 0 then (none, qos)
  else
    ((qos.charge.2 qos.charge.1).pop.1,
      { qos with
        itemQueues := Function.update qos.charge.2 qos.charge.1 (qos.charge.2 qos.charge.1).pop.2
        nbItems := qos.nbItems - 1 })

/-- The calls. -/
inductive Input (ι : Type) where
  | inRsItem (item : ι) (priority : Int)
  | outRsItem
  | clear

/-- What a call does with an item of a level, or that it returns `NULL`. -/
inductive Event (ι : Type) where
  | queued (level : Nat) (item : ι)
  | served (level : Nat) (item : ι)
  | freed (level : Nat) (item : ι)
  | null
  deriving DecidableEq

/-- The items of the levels, in the order in which `clear` frees them. -/
def freedItems : List (Event ι) :=
  (List.range qos.nbLevels).flatMap fun i => (qos.itemQueues i).items.map (.freed i)

/-- The machine of the calls. -/
def machine : Machine (QoS ι) (Input ι) (Event ι) where
  step qos input :=
    match input with
    | .inRsItem item priority =>
        (qos.inRsItem item priority, [.queued (qos.levelOf priority) item])
    | .outRsItem =>
        (qos.outRsItem.2, [qos.outRsItem.1.elim .null (.served qos.charge.1)])
    | .clear => (qos.clear, qos.freedItems)

/-! ### Calls that keep the counters -/

@[simp]
theorem counter_inRsItem (item : ι) (priority : Int) (l : Nat) :
  ((qos.inRsItem item priority).itemQueues l).counter = (qos.itemQueues l).counter
  := by
  rw [inRsItem]
  dsimp only
  rw [Function.update_apply]
  split
  case isTrue heq => rw [heq]; rfl
  case isFalse => rfl

@[simp]
theorem counter_clear (l : Nat) :
  (qos.clear.itemQueues l).counter = (qos.itemQueues l).counter
  := by
  rw [clear]
  dsimp only
  split <;> rfl

/-! ### The loops -/

variable {qos} (inc : ℚ)

theorem topLevel_spec (queues : Nat → ItemQueue ι) :
  ∀ (n : Nat) (inc : ℚ),
    (topLevel queues n inc).1 ≤ n ∧
      (∀ l, (topLevel queues n inc).1 < l → l ≤ n → (queues l).items = []) ∧
      ((topLevel queues n inc).1 = 0 ∨ (queues (topLevel queues n inc).1).items ≠ []) ∧
      (topLevel queues n inc).2 =
        if (topLevel queues n inc).1 = n then inc else (queues (topLevel queues n inc).1).inc
  | 0, inc => by
      refine ⟨le_rfl, ?_, .inl rfl, rfl⟩
      intro l hl hle
      exact absurd hl (Nat.not_lt_of_ge hle)
  | n + 1, inc => by
      rw [topLevel]
      split
      case isTrue hempty =>
        obtain ⟨hle, habove, hitems, hinc⟩ := topLevel_spec queues n (queues n).inc
        refine ⟨hle.trans n.le_succ, ?_, hitems, ?_⟩
        · intro l hl hln
          rcases Nat.le_succ_iff.mp hln with hln | rfl
          · exact habove l hl hln
          · exact List.isEmpty_iff.mp hempty
        · rw [hinc, if_neg (Nat.lt_succ_of_le hle).ne]
          split
          case isTrue heq => rw [heq]
          case isFalse => rfl
      case isFalse hitems =>
        refine ⟨le_rfl, ?_, .inr ?_, (if_pos rfl).symm⟩
        · intro l hl hle
          exact absurd hl (Nat.not_lt_of_ge hle)
        · rwa [List.isEmpty_iff] at hitems

theorem chargeLevels_queues (l : Nat) :
  ∀ (n last : Nat) (queues : Nat → ItemQueue ι),
    (chargeLevels inc n last queues).2 l = if l < n then (queues l).charged inc else queues l
  | 0, _, _ => rfl
  | n + 1, last, queues => by
      rw [chargeLevels, chargeLevels_queues l n]
      rcases lt_trichotomy l n with hl | rfl | hl
      · rw [if_pos hl, if_pos (hl.trans n.lt_succ_self), Function.update_of_ne hl.ne]
      · rw [if_neg (lt_irrefl l), if_pos l.lt_succ_self, Function.update_self]
      · rw [if_neg hl.not_gt, if_neg (Nat.not_lt_of_ge hl), Function.update_of_ne hl.ne']

theorem chargeLevels_last :
  ∀ (n last : Nat) (queues : Nat → ItemQueue ι),
    ((chargeLevels inc n last queues).1 = last ∧ ∀ l < n, ¬(queues l).Reaches inc) ∨
      ((chargeLevels inc n last queues).1 < n ∧
        (queues (chargeLevels inc n last queues).1).Reaches inc ∧
        ∀ l < (chargeLevels inc n last queues).1, ¬(queues l).Reaches inc)
  | 0, _, _ => .inl ⟨rfl, fun l hl => absurd hl l.not_lt_zero⟩
  | n + 1, last, queues => by
      have hqueues : ∀ l < n, Function.update queues n ((queues n).charged inc) l = queues l :=
        fun l hl => Function.update_of_ne hl.ne _ _
      rw [chargeLevels]
      rcases chargeLevels_last n (if (queues n).Reaches inc then n else last)
          (Function.update queues n ((queues n).charged inc)) with ⟨hlast, hnone⟩ | ⟨hlt, hr, hmin⟩
      · have hbelow : ∀ l < n, ¬(queues l).Reaches inc := by
          intro l hl
          rw [← hqueues l hl]
          exact hnone l hl
        rw [hlast]
        split
        case isTrue hr => exact .inr ⟨n.lt_succ_self, hr, hbelow⟩
        case isFalse hr =>
          refine .inl ⟨rfl, ?_⟩
          intro l hl
          rcases Nat.lt_succ_iff_lt_or_eq.mp hl with hl | rfl
          · exact hbelow l hl
          · exact hr
      · rw [hqueues _ hlt] at hr
        refine .inr ⟨hlt.trans n.lt_succ_self, hr, ?_⟩
        intro l hl
        rw [← hqueues l (hl.trans hlt)]
        exact hmin l hl

/-! ### A call of `outRsItem` -/

section Charge

/-- A level has items. -/
def HasItems (qos : QoS ι) : Prop := ∃ l < qos.nbLevels, (qos.itemQueues l).items ≠ []

theorem top_lt (h : qos.HasItems) :
  qos.top.1 < qos.nbLevels
  := by
  obtain ⟨l, hl, -⟩ := h
  have hle := (topLevel_spec qos.itemQueues (qos.nbLevels - 1) 1).1
  exact lt_of_le_of_lt hle (Nat.sub_one_lt_of_lt hl)

variable {l : Nat}

theorem items_above_top (hl : qos.top.1 < l) (hlevels : l < qos.nbLevels) :
  (qos.itemQueues l).items = []
  := (topLevel_spec qos.itemQueues (qos.nbLevels - 1) 1).2.1 l hl (Nat.le_sub_one_of_lt hlevels)

theorem items_top (h : qos.HasItems) :
  (qos.itemQueues qos.top.1).items ≠ []
  := by
  rcases (topLevel_spec qos.itemQueues (qos.nbLevels - 1) 1).2.2.1 with hzero | hitems
  · obtain ⟨l, hl, hitems⟩ := h
    rcases Nat.eq_zero_or_pos l with rfl | hpos
    · rwa [top, hzero]
    · have hnil : (qos.itemQueues l).items = [] := items_above_top (by rwa [top, hzero]) hl
      exact absurd hnil hitems
  · exact hitems

theorem inc_top :
  qos.top.2 = if qos.top.1 = qos.nbLevels - 1 then 1 else (qos.itemQueues qos.top.1).inc
  := (topLevel_spec qos.itemQueues (qos.nbLevels - 1) 1).2.2.2

theorem charge_queues (hlevels : l < qos.nbLevels) :
  qos.charge.2 l = (qos.itemQueues l).charged qos.top.2
  := by
  rw [charge, chargeLevels_queues]
  split
  case isTrue => rfl
  case isFalse hl =>
    rw [ItemQueue.charged_of_items_eq_nil]
    apply items_above_top _ hlevels
    exact Nat.lt_of_succ_le (Nat.le_of_not_lt hl)

theorem charge_last_le_top :
  qos.charge.1 ≤ qos.top.1
  := by
  rcases chargeLevels_last qos.top.2 (qos.top.1 + 1) qos.top.1 qos.itemQueues with
    ⟨hlast, -⟩ | ⟨hlt, -, -⟩
  · exact hlast.le
  · exact Nat.le_of_lt_succ hlt

theorem items_charge_last (h : qos.HasItems) :
  (qos.itemQueues qos.charge.1).items ≠ []
  := by
  rcases chargeLevels_last qos.top.2 (qos.top.1 + 1) qos.top.1 qos.itemQueues with
    ⟨hlast, -⟩ | ⟨-, hr, -⟩
  · rw [charge, hlast]
    exact items_top h
  · exact hr.1

/-- The level that is served is not above one that reaches its threshold. -/
theorem charge_last_le (hlevels : l < qos.nbLevels) (hr : (qos.itemQueues l).Reaches qos.top.2) :
  qos.charge.1 ≤ l
  := by
  have hle : l ≤ qos.top.1 := by
    apply le_of_not_gt
    intro hl
    exact hr.1 (items_above_top hl hlevels)
  rcases chargeLevels_last qos.top.2 (qos.top.1 + 1) qos.top.1 qos.itemQueues with
    ⟨-, hnone⟩ | ⟨-, -, hmin⟩
  · exact absurd hr (hnone l (Nat.lt_succ_of_le hle))
  · apply le_of_not_gt
    intro hl
    exact hmin l hl hr

/-- The level that is served reaches its threshold, or is the highest one with items. -/
theorem charge_last_cases :
  qos.charge.1 = qos.top.1 ∨ (qos.itemQueues qos.charge.1).Reaches qos.top.2
  := by
  rcases chargeLevels_last qos.top.2 (qos.top.1 + 1) qos.top.1 qos.itemQueues with
    ⟨hlast, -⟩ | ⟨-, hr, -⟩
  · exact .inl hlast
  · exact .inr hr

end Charge

end QoS

end Pqi
