import RetroShare.Pqi.Starvation

/-!
# The rates of the levels

The comment on `pqiQoS` promises that the items of level `n + 1` are output `alpha` times as often
as those of level `n`.  When every level has items and `alpha` is an integer, the counters count
the calls modulo the thresholds, and a call serves the lowest level whose threshold divides its
number.  So the promise is kept from level one on.  The lowest level gives way to no other, so that
it is served once in a round of calls and the level above it only `alpha - 1` times.
-/

namespace Pqi

variable {ι : Type}

namespace QoS

/-- Every level has items whenever `outRsItem` is called. -/
def AllNonEmpty (qos : QoS ι) (input : Input ι) : Prop :=
  input.isOut → ∀ l < qos.nbLevels, (qos.itemQueues l).items ≠ []

instance [DecidableEq ι] (qos : QoS ι) (input : Input ι) : Decidable (AllNonEmpty qos input) :=
  inferInstanceAs (Decidable (_ → _))

/-- An item of level `l` is returned. -/
def Event.isServedAt (l : Nat) : Event ι → Bool
  | served level _ => level = l
  | _ => false

/-- How often level `l` is served by the calls. -/
def timesServed (l : Nat) (events : List (Event ι)) : Nat := events.countP (Event.isServedAt l)

/-! ### Counting modulo a threshold -/

theorem le_mod_add_one_iff {m d : Nat} (hd : 0 < d) :
  d ≤ m % d + 1 ↔ d ∣ m + 1
  := by
  have hlt := Nat.mod_lt m hd
  rw [Nat.dvd_iff_mod_eq_zero, ← Nat.mod_add_mod]
  constructor
  · intro hle
    have heq : m % d + 1 = d := Nat.le_antisymm hlt hle
    rw [heq, Nat.mod_self]
  · intro hzero
    by_contra hgt
    rw [Nat.mod_eq_of_lt (Nat.lt_of_not_le hgt)] at hzero
    cases hzero

theorem succ_mod_add {m d : Nat} (hd : 0 < d) :
  (m + 1) % d + (if d ∣ m + 1 then d else 0) = m % d + 1
  := by
  have hlt := Nat.mod_lt m hd
  split
  case isTrue hdvd =>
    rw [Nat.mod_eq_zero_of_dvd hdvd, Nat.zero_add]
    exact Nat.le_antisymm ((le_mod_add_one_iff hd).mpr hdvd) hlt
  case isFalse hdvd =>
    rw [← le_mod_add_one_iff hd] at hdvd
    rw [← Nat.mod_add_mod, Nat.mod_eq_of_lt (Nat.lt_of_not_le hdvd), Nat.add_zero]

/-! ### A call with items at every level -/

section Full

variable {qos : QoS ι} {nbLevels alpha m : Nat} (h : qos.Sound nbLevels alpha) (hpos : 0 < nbLevels)
  (hfull : ∀ l < qos.nbLevels, (qos.itemQueues l).items ≠ [])

/-- The counters of a `QoS` that has been called `m` times with items at every level. -/
def Counts (nbLevels alpha m : Nat) (qos : QoS ι) : Prop :=
  ∀ l < nbLevels, (qos.itemQueues l).counter = (m % alpha ^ (nbLevels - 1 - l) : Nat)

include h hpos hfull

theorem hasItems_of_full :
  qos.HasItems
  := by
  refine ⟨0, ?_, ?_⟩
  · rwa [h.levels]
  · apply hfull
    rwa [h.levels]

theorem inc_of_full :
  qos.top.2 = 1
  := by
  have hlt := top_lt (hasItems_of_full h hpos hfull)
  rw [inc_top, if_pos]
  apply Nat.le_antisymm (Nat.le_sub_one_of_lt hlt)
  apply le_of_not_gt
  intro hgt
  have hlast : qos.nbLevels - 1 < qos.nbLevels := Nat.sub_one_lt_of_lt hlt
  exact hfull _ hlast (items_above_top hgt hlast)

variable (hcounts : Counts nbLevels alpha m qos) (halpha : 0 < alpha)

include hcounts halpha

theorem reaches_iff_dvd {l : Nat} (hl : l < nbLevels) :
  (qos.itemQueues l).Reaches qos.top.2 ↔ alpha ^ (nbLevels - 1 - l) ∣ m + 1
  := by
  rw [ItemQueue.Reaches, inc_of_full h hpos hfull, h.threshold l hl, hcounts l hl,
    ← le_mod_add_one_iff (pow_pos halpha _)]
  constructor
  · rintro ⟨-, hle⟩
    exact_mod_cast hle
  · intro hle
    refine ⟨hfull l (by rwa [h.levels]), ?_⟩
    exact_mod_cast hle

theorem counts_outRsItem :
  Counts nbLevels alpha (m + 1) qos.outRsItem.2
  := by
  intro l hl
  have hne := h.nbItems_ne_zero (hasItems_of_full h hpos hfull)
  have hmod := succ_mod_add (m := m) (pow_pos halpha (nbLevels - 1 - l))
  rw [h.counter_outRsItem hne hl, ItemQueue.counter_charged (hfull l (by rwa [h.levels])),
    inc_of_full h hpos hfull, hcounts l hl, h.threshold l hl]
  have hreaches := reaches_iff_dvd h hpos hfull hcounts halpha hl
  rw [inc_of_full h hpos hfull] at hreaches
  rw [eq_comm, eq_sub_iff_add_eq]
  split
  case isTrue hr =>
    rw [if_pos (hreaches.mp hr)] at hmod
    exact_mod_cast hmod
  case isFalse hr =>
    rw [if_neg (fun hdvd => hr (hreaches.mpr hdvd))] at hmod
    exact_mod_cast hmod

/-- The call number `m + 1` serves the lowest level whose threshold divides its number. -/
theorem charge_last_eq_iff (hm : m + 1 < alpha ^ nbLevels) {l : Nat} (hl : l < nbLevels) :
  qos.charge.1 = l ↔
    alpha ^ (nbLevels - 1 - l) ∣ m + 1 ∧ ¬alpha ^ (nbLevels - l) ∣ m + 1
  := by
  have hlevels : ∀ {j}, j < nbLevels → j < qos.nbLevels := by
    intro j hj
    rwa [h.levels]
  have hlast : qos.charge.1 < nbLevels := by
    rw [← h.levels]
    exact charge_last_le_top.trans_lt (top_lt (hasItems_of_full h hpos hfull))
  -- The highest level has the threshold one, so some level reaches its threshold.
  have htop : (qos.itemQueues (nbLevels - 1)).Reaches qos.top.2 := by
    rw [reaches_iff_dvd h hpos hfull hcounts halpha (by omega), Nat.sub_self, pow_zero]
    exact Nat.one_dvd _
  have hreaches : (qos.itemQueues qos.charge.1).Reaches qos.top.2 := by
    have hcases : qos.charge.1 = qos.top.1 ∨ _ := charge_last_cases
    rcases hcases with heq | hr
    · have hle := charge_last_le (hlevels (by omega)) htop
      have hge : nbLevels - 1 ≤ qos.top.1 := by
        apply le_of_not_gt
        intro hgt
        exact htop.1 (items_above_top hgt (hlevels (by omega)))
      have heq' : qos.charge.1 = nbLevels - 1 := by omega
      rwa [heq']
    · exact hr
  rw [reaches_iff_dvd h hpos hfull hcounts halpha hlast] at hreaches
  constructor
  · rintro rfl
    refine ⟨hreaches, ?_⟩
    intro hdvd
    rcases Nat.eq_zero_or_pos qos.charge.1 with hzero | hlow
    · rw [hzero, Nat.sub_zero] at hdvd
      exact absurd (Nat.le_of_dvd m.succ_pos hdvd) (Nat.not_le_of_lt hm)
    · have hbelow : (qos.itemQueues (qos.charge.1 - 1)).Reaches qos.top.2 := by
        rw [reaches_iff_dvd h hpos hfull hcounts halpha (by omega)]
        convert hdvd using 2
        omega
      have hle := charge_last_le (hlevels (by omega)) hbelow
      omega
  · rintro ⟨hdvd, hnot⟩
    have hr := (reaches_iff_dvd h hpos hfull hcounts halpha hl).mpr hdvd
    apply Nat.le_antisymm (charge_last_le (hlevels hl) hr)
    apply le_of_not_gt
    intro hlt
    apply hnot
    apply (pow_dvd_pow alpha _).trans hreaches
    omega

end Full

/-! ### A round of calls -/

variable {nbLevels alpha : Nat}

/-- What holds after `m` calls with items at every level. -/
structure Round (nbLevels alpha m : Nat) (qos : QoS ι) (events : List (Event ι)) : Prop where
  sound : qos.Sound nbLevels alpha
  counts : Counts nbLevels alpha m qos
  served : ∀ l < nbLevels,
    timesServed l events + m / alpha ^ (nbLevels - l) = m / alpha ^ (nbLevels - 1 - l)

theorem Round.outRsItem {m : Nat} {qos : QoS ι} {events : List (Event ι)}
    (h : Round nbLevels alpha m qos events) (halpha : 0 < alpha) (hpos : 0 < nbLevels)
    (hfull : ∀ l < qos.nbLevels, (qos.itemQueues l).items ≠ []) (hm : m + 1 < alpha ^ nbLevels) :
  Round nbLevels alpha (m + 1) qos.outRsItem.2 (events ++ machine.emit qos .outRsItem)
  := by
  constructor
  case sound =>
    apply h.sound.outRsItem
    exact_mod_cast halpha
  case counts => exact counts_outRsItem h.sound hpos hfull h.counts halpha
  case served =>
    intro l hl
    have hne := h.sound.nbItems_ne_zero (hasItems_of_full h.sound hpos hfull)
    obtain ⟨item, hitem⟩ := Option.isSome_iff_exists.mp (h.sound.isSome_outRsItem hne)
    have hemit : machine.emit qos .outRsItem = [Event.served qos.charge.1 item] := by
      change [qos.outRsItem.1.elim Event.null (Event.served qos.charge.1)] = _
      rw [hitem]
      rfl
    have hcount : timesServed l (events ++ machine.emit qos .outRsItem) =
        timesServed l events + if qos.charge.1 = l then 1 else 0 := by
      rw [hemit, timesServed, List.countP_append, List.countP_singleton]
      simp only [Event.isServedAt, decide_eq_true_eq, timesServed]
    have hdvd : alpha ^ (nbLevels - l) ∣ m + 1 → alpha ^ (nbLevels - 1 - l) ∣ m + 1 := by
      apply (pow_dvd_pow alpha _).trans
      omega
    have hserved := h.served l hl
    rw [hcount, Nat.succ_div, Nat.succ_div]
    simp only [charge_last_eq_iff h.sound hpos hfull h.counts halpha hm hl]
    split_ifs <;> simp_all <;> omega

theorem timesServed_freedItems (l : Nat) (qos : QoS ι) :
  timesServed l qos.freedItems = 0
  := by
  rw [timesServed, List.countP_eq_zero]
  intro event hevent
  obtain ⟨i, -, hitem⟩ := List.mem_flatMap.mp hevent
  obtain ⟨item, -, rfl⟩ := List.mem_map.mp hitem
  exact Bool.false_ne_true

theorem timesServed_append (l : Nat) (events events' : List (Event ι)) :
  timesServed l (events ++ events') = timesServed l events + timesServed l events'
  := List.countP_append

/-- What holds after some calls holds after more of them. -/
theorem Round.run (halpha : 0 < alpha) (hpos : 0 < nbLevels) :
  ∀ {inputs : List (Input ι)} {m : Nat} {qos : QoS ι} {events : List (Event ι)},
    Round nbLevels alpha m qos events → machine.Along AllNonEmpty qos inputs →
    m + inputs.countP Input.isOut < alpha ^ nbLevels →
    Round nbLevels alpha (m + inputs.countP Input.isOut) (machine.run qos inputs)
      (events ++ machine.trace qos inputs)
  | [], m, qos, events, h, _, _ => by simpa using h
  | input :: inputs, m, qos, events, h, ⟨hinput, hinputs⟩, hm => by
      have hone : (1 : ℚ) ≤ alpha := by exact_mod_cast halpha
      rw [Machine.run_cons, Machine.trace_cons, ← List.append_assoc, List.countP_cons]
      rw [List.countP_cons] at hm
      cases input with
      | outRsItem =>
        simp only [Input.isOut, if_true] at hm ⊢
        have hnext := h.outRsItem halpha hpos (hinput rfl) (by omega)
        rw [Nat.add_comm _ 1, ← Nat.add_assoc]
        apply Round.run halpha hpos hnext hinputs
        omega
      | inRsItem item priority =>
        apply Round.run halpha hpos _ hinputs hm
        constructor
        case sound => exact h.sound.inRsItem hpos item priority
        case counts =>
          intro l hl
          rw [← h.counts l hl]
          apply counter_inRsItem
        case served =>
          intro l hl
          rw [timesServed_append]
          exact h.served l hl
      | clear =>
        apply Round.run halpha hpos _ hinputs hm
        constructor
        case sound => exact h.sound.clear
        case counts =>
          intro l hl
          rw [← h.counts l hl]
          apply counter_clear
        case served =>
          intro l hl
          have hfreed : timesServed l (machine.emit qos .clear) = 0 :=
            timesServed_freedItems l qos
          rw [timesServed_append, hfreed]
          exact h.served l hl

theorem round_new (halpha : 0 < alpha) :
  Round nbLevels alpha 0 (new nbLevels alpha : QoS ι) []
  := by
  constructor
  case sound =>
    apply sound_new
    exact_mod_cast halpha
  case counts =>
    intro l _
    rw [Nat.zero_mod]
    rfl
  case served =>
    intro l _
    rw [Nat.zero_div, Nat.zero_div]
    rfl

/-- How often a level is served in a round of calls, with what the level below it takes away. -/
theorem timesServed_add (halpha : 2 ≤ alpha) (inputs : List (Input ι))
    (hall : machine.Along AllNonEmpty (new nbLevels alpha) inputs)
    (hcount : inputs.countP Input.isOut = alpha ^ (nbLevels - 1)) {l : Nat} (hl : l < nbLevels) :
  timesServed l (machine.trace (new nbLevels alpha) inputs) +
      (if l = 0 then 0 else alpha ^ (l - 1)) = alpha ^ l
  := by
  have hpos : 0 < nbLevels := by omega
  have hlt : alpha ^ (nbLevels - 1) < alpha ^ nbLevels := Nat.pow_lt_pow_right halpha (by omega)
  have hround := Round.run (by omega) hpos (round_new (by omega)) hall
    (by rwa [hcount, Nat.zero_add])
  have hserved := hround.served l hl
  have hexp : nbLevels - 1 - (nbLevels - 1 - l) = l := by omega
  have hdiv : alpha ^ (nbLevels - 1) / alpha ^ (nbLevels - 1 - l) = alpha ^ l := by
    rw [Nat.pow_div (by omega) (by omega), hexp]
  rw [List.nil_append, hcount, Nat.zero_add, hdiv] at hserved
  rw [← hserved]
  congr 1
  split
  case isTrue hzero => rw [hzero, Nat.sub_zero, Nat.div_eq_of_lt hlt]
  case isFalse hlow =>
    rw [Nat.pow_div (by omega) (by omega)]
    congr 1
    omega

/-- In a round of calls with items at every level, level `n + 1` is served `alpha` times as often as
level `n` when `n` is not the lowest level, and only then. -/
theorem timesServed_succ_eq_iff (nbLevels alpha : Nat) (halpha : 2 ≤ alpha)
    (inputs : List (Input ι)) (hall : machine.Along AllNonEmpty (new nbLevels alpha) inputs)
    (hcount : inputs.countP Input.isOut = alpha ^ (nbLevels - 1)) (n : Nat)
    (hn : n + 1 < nbLevels) :
  timesServed (n + 1) (machine.trace (new nbLevels alpha) inputs) =
      alpha * timesServed n (machine.trace (new nbLevels alpha) inputs) ↔
    0 < n
  := by
  have hlow := timesServed_add halpha inputs hall hcount (Nat.lt_of_succ_lt hn)
  have hhigh := timesServed_add halpha inputs hall hcount hn
  rw [if_neg n.succ_ne_zero, Nat.add_sub_cancel] at hhigh
  cases n with
  | zero =>
    rw [if_pos rfl, pow_zero, Nat.add_zero] at hlow
    rw [pow_zero, pow_succ, pow_zero, Nat.one_mul] at hhigh
    rw [hlow]
    omega
  | succ n =>
    rw [if_neg n.succ_ne_zero, Nat.add_sub_cancel] at hlow
    refine iff_of_true ?_ n.succ_pos
    have hscaled : alpha * timesServed (n + 1) (machine.trace (new nbLevels alpha) inputs) +
        alpha ^ (n + 1) = alpha ^ (n + 1 + 1) := by
      rw [pow_succ' alpha n, ← Nat.mul_add, hlow, ← pow_succ']
    omega

/-- Items for three levels, and a round of calls with the factor two. -/
def threeLevels : List (Input Nat) :=
  [.inRsItem 0 0, .inRsItem 1 0, .inRsItem 2 1, .inRsItem 3 1, .inRsItem 4 2, .inRsItem 5 2,
    .inRsItem 6 2, .outRsItem, .outRsItem, .outRsItem, .outRsItem]

theorem timesServed_succ_eq_iff_threeLevels :
  timesServed (1 + 1) (machine.trace (new 3 (2 : Nat)) threeLevels) =
      2 * timesServed 1 (machine.trace (new 3 (2 : Nat)) threeLevels) ↔
    0 < 1
  := timesServed_succ_eq_iff 3 2 le_rfl threeLevels (by decide +kernel) (by decide +kernel) 1
    (by decide)

/-- The lowest level of three is served as often as the one above it. -/
theorem timesServed_succ_ne :
  ¬∀ (nbLevels alpha : Nat), 2 ≤ nbLevels → 2 ≤ alpha → ∀ inputs : List (Input Nat),
    machine.Along AllNonEmpty (new nbLevels alpha) inputs →
    inputs.countP Input.isOut = alpha ^ (nbLevels - 1) → ∀ n, n + 1 < nbLevels →
    timesServed (n + 1) (machine.trace (new nbLevels alpha) inputs) =
      alpha * timesServed n (machine.trace (new nbLevels alpha) inputs)
  := by
  intro h
  have hlowest := h 3 2 (by decide) le_rfl threeLevels (by decide +kernel) (by decide +kernel) 0
    (by decide)
  revert hlowest
  decide +kernel

end QoS

end Pqi
