import RetroShare.Lib.Decoder

/-!
# Shapes of decoders

A `Shape` says what a decoder does at an offset, whatever it fills: whether all that it logs is
allowed, the offset it ends at, if it does end, and whether it succeeds.  A decoder with fuel
`Follows` a shape when this is what it does with enough fuel, and when it does nothing else with
less.  Shapes are put together in the way of the decoders: `Follows.bind` is the rule for `>>=`, and
`follows_loop` the rule for loops.
-/

namespace Decoder

variable {ε α β : Type}

/-- What a decoder does at an offset. -/
structure Shape where
  Safe : Nat → Prop
  Ends : Nat → Nat → Prop
  Succeeds : Nat → Prop

namespace Shape

/-- Nothing is done. -/
def done : Shape where
  Safe _ := True
  Ends p q := q = p
  Succeeds _ := True

/-- First `s`, and then `t`, which depends on whether `s` succeeds. -/
def andThen (s : Shape) (t : Prop → Shape) : Shape where
  Safe p := s.Safe p ∧ ∀ q, s.Ends p q → (t (s.Succeeds p)).Safe q
  Ends p r := ∃ q, s.Ends p q ∧ (t (s.Succeeds p)).Ends q r
  Succeeds p := s.Succeeds p ∧ ∃ q, s.Ends p q ∧ (t (s.Succeeds p)).Succeeds q

/-- Shapes one after the other. -/
def seq : List Shape → Shape
  | [] => done
  | s :: shapes => s.andThen fun _ => seq shapes

/-- The shape `s`, which does not succeed unless `b` holds. -/
def when (b : Prop) (s : Shape) : Shape where
  Safe := s.Safe
  Ends := s.Ends
  Succeeds p := b ∧ s.Succeeds p

@[simp]
theorem when_true (s : Shape) :
  s.when True = s
  := by
  simp only [when, true_and]

/-- The loop starts its iteration of number `k` at `q`, or is left there. -/
def After (guard : Nat → Bool) (s : Shape) : Nat → Nat → Nat → Prop
  | 0, p, q => q = p
  | k + 1, p, q => guard p ∧ s.Succeeds p ∧ ∃ p', s.Ends p p' ∧ After guard s k p' q

/-- The iterations of a loop, up to the first one that does not succeed. -/
def loop (guard : Nat → Bool) (s : Shape) : Shape where
  Safe p := ∀ k q, After guard s k p q → guard q → s.Safe q
  Ends p r := ∃ k q, After guard s k p q ∧
    (guard q ∧ ¬ s.Succeeds q ∧ s.Ends q r ∨ ¬ guard q ∧ r = q)
  Succeeds p := ∃ k q, After guard s k p q ∧ ¬ guard q

end Shape

/-- The decoder does at `p` what the shape says, where only events with `P` are allowed.  Its
success depends on `b` as well, which stands for what has happened before. -/
structure Follows (P : ε → Prop) (x : Nat → Decoder ε (Bool × α)) (s : Shape) (b : Prop) (p : Nat) :
    Prop where
  logs : ∀ n, (∀ fuel ≥ n, Logs P (x fuel) p) ↔ s.Safe p
  ends : ∀ fuel {r q}, Returns (x fuel) p r q → s.Ends p q ∧ (r.1 = true ↔ b ∧ s.Succeeds p)
  returns : ∀ {q}, s.Ends p q → ∃ n, ∀ fuel ≥ n, ∃ r, Returns (x fuel) p r q

namespace Follows

variable {P : ε → Prop} {x : Nat → Decoder ε (Bool × α)} {s : Shape} {b : Prop} {p : Nat} {q : Nat}

theorem ends_unique (h : Follows P x s b p) {q' : Nat} (hq : s.Ends p q) (hq' : s.Ends p q') :
  q = q'
  := by
  obtain ⟨n, hn⟩ := h.returns hq
  obtain ⟨n', hn'⟩ := h.returns hq'
  obtain ⟨r, hr⟩ := hn (max n n') (le_max_left n n')
  obtain ⟨r', hr'⟩ := hn' (max n n') (le_max_right n n')
  apply (hr.unique hr').2

theorem exists_values (h : Follows P x s b p) (hq : s.Ends p q) :
  ∃ n, ∃ a : Nat → Bool × α, (∀ fuel, (a fuel).1 = true ↔ b ∧ s.Succeeds p) ∧
    ∀ fuel ≥ n, Returns (x fuel) p (a fuel) q
  := by
  obtain ⟨n, hn⟩ := h.returns hq
  have henough : ∀ fuel, ∃ r, Returns (x (max fuel n)) p r q :=
    fun fuel => hn _ (le_max_right fuel n)
  choose a ha using henough
  use n, a
  constructor
  · intro fuel
    apply (h.ends _ (ha fuel)).2
  · intro fuel hfuel
    have hreturns := ha fuel
    rwa [max_eq_left hfuel] at hreturns

/-- Only what a shape says of `p` matters at `p`. -/
theorem congr {s' : Shape} (h : Follows P x s b p) (hsafe : s.Safe p ↔ s'.Safe p)
    (hends : ∀ q, s.Ends p q ↔ s'.Ends p q) (hsucceeds : s.Succeeds p ↔ s'.Succeeds p) :
  Follows P x s' b p
  where
  logs n := (h.logs n).trans hsafe
  ends fuel _ _ hreturns := by
    rw [← hends, ← hsucceeds]
    apply h.ends fuel hreturns
  returns hq := h.returns ((hends _).mpr hq)

/-- A decoder whose result is known. -/
theorem of_returns {x : Decoder ε (Bool × α)} {r : Bool × α} (hr : Returns x p r q)
    (hlogs : Logs P x p ↔ s.Safe p) (hends : ∀ q', s.Ends p q' ↔ q' = q)
    (hsucceeds : r.1 = true ↔ b ∧ s.Succeeds p) :
  Follows P (fun _ => x) s b p
  where
  logs n := by
    rw [← hlogs]
    constructor
    · intro h
      apply h n le_rfl
    · intro h _ _
      apply h
  ends fuel _ _ hreturns := by
    obtain ⟨rfl, rfl⟩ := hr.unique hreturns
    exact ⟨(hends _).mpr rfl, hsucceeds⟩
  returns hq := by
    obtain rfl := (hends _).mp hq
    use 0
    intro _ _
    use r

/-- The end of a sequence: `b` says whether all that came before succeeded. -/
theorem done {r : Nat → Bool × α} (hr : ∀ fuel, (r fuel).1 = true ↔ b) :
  Follows P (fun fuel => pure (r fuel)) .done b p
  where
  logs n := by
    apply iff_of_true _ trivial
    intro fuel _
    apply logs_pure
  ends fuel _ _ hreturns := by
    obtain ⟨rfl, rfl⟩ := returns_pure_iff.mp hreturns
    refine ⟨rfl, ?_⟩
    rw [hr]
    apply (and_iff_left trivial).symm
  returns hq := by
    obtain rfl := hq
    use 0
    intro fuel _
    use r fuel
    apply returns_pure

/-- One decoder after the other. -/
theorem bind {t : Prop → Shape} {f : Nat → Bool × α → Decoder ε (Bool × β)}
    (hx : Follows P x s True p)
    (hf : ∀ q, s.Ends p q → ∀ a : Nat → Bool × α, (∀ fuel, (a fuel).1 = true ↔ s.Succeeds p) →
      Follows P (fun fuel => f fuel (a fuel)) (t (s.Succeeds p)) (b ∧ s.Succeeds p) q) :
  Follows P (fun fuel => x fuel >>= f fuel) (s.andThen t) b p
  where
  logs n := by
    simp only [logs_bind, imp_and, forall_and, hx.logs, Shape.andThen]
    apply and_congr_right
    intro _
    constructor
    · intro h q hq
      obtain ⟨n', a, hsuccess, ha⟩ := hx.exists_values hq
      simp only [true_and] at hsuccess
      apply ((hf q hq a hsuccess).logs (max n n')).mp
      intro fuel hfuel
      rw [ge_iff_le, max_le_iff] at hfuel
      apply (post_iff_of_returns (ha fuel hfuel.2)).mp (h fuel hfuel.1)
    · intro h fuel hfuel a ha
      obtain ⟨hq, hsuccess⟩ := hx.ends fuel ⟨ha, rfl⟩
      rw [true_and] at hsuccess
      apply ((hf _ hq (fun _ => a) fun _ => hsuccess).logs n).mpr (h _ hq) fuel hfuel
  ends fuel _ _ hreturns := by
    obtain ⟨a, q, ha, hrest⟩ := returns_bind_iff.mp hreturns
    obtain ⟨hq, hsuccess⟩ := hx.ends fuel ha
    rw [true_and] at hsuccess
    obtain ⟨hr, hrest⟩ := (hf q hq (fun _ => a) fun _ => hsuccess).ends fuel hrest
    refine ⟨⟨q, hq, hr⟩, ?_⟩
    rw [hrest, and_assoc]
    apply and_congr_right
    intro _
    apply and_congr_right
    intro _
    constructor
    · intro h
      use q
    · rintro ⟨q', hq', h⟩
      obtain rfl := hx.ends_unique hq hq'
      exact h
  returns hr := by
    obtain ⟨q, hq, hr⟩ := hr
    obtain ⟨n, a, hsuccess, ha⟩ := hx.exists_values hq
    simp only [true_and] at hsuccess
    obtain ⟨n', hn'⟩ := (hf q hq a hsuccess).returns hr
    use max n n'
    intro fuel hfuel
    rw [ge_iff_le, max_le_iff] at hfuel
    obtain ⟨r, hrest⟩ := hn' fuel hfuel.2
    use r
    apply (ha fuel hfuel.1).bind hrest

/-- The value is changed, and so is the success, as far as `b` says so. -/
theorem map {f : Bool × α → Bool × β} (h : Follows P x s True p)
    (hf : ∀ r, (f r).1 = true ↔ b ∧ r.1 = true) :
  Follows P (fun fuel => x fuel >>= fun r => pure (f r)) s b p
  where
  logs n := by
    simp only [logs_bind, logs_pure, post_true, and_true]
    apply h.logs
  ends fuel r q hreturns := by
    obtain ⟨r', q', hr', hrest⟩ := returns_bind_iff.mp hreturns
    obtain ⟨rfl, rfl⟩ := returns_pure_iff.mp hrest
    obtain ⟨hends, hsuccess⟩ := h.ends fuel hr'
    refine ⟨hends, ?_⟩
    rw [hf, hsuccess, true_and]
  returns hq := by
    obtain ⟨n, hn⟩ := h.returns hq
    use n
    intro fuel hfuel
    obtain ⟨r, hr⟩ := hn fuel hfuel
    use f r
    apply hr.bind
    apply returns_pure

/-- What the success depends on can be seen as a part of the shape. -/
theorem when (h : Follows P x s b p) :
  Follows P x (s.when b) True p
  where
  logs := h.logs
  ends fuel _ _ hreturns := by
    rw [true_and]
    apply h.ends fuel hreturns
  returns := h.returns

/-- What comes first has a known result, whatever the fuel is. -/
theorem prepend {y : Decoder ε α} {f : Nat → α → Decoder ε (Bool × β)} {a : α} {c : Prop}
    (hy : Returns y p a q) (hlogs : Logs P y p ↔ c) (h : Follows P (fun fuel => f fuel a) s b q) :
  Follows P (fun fuel => y >>= f fuel)
    { Safe := fun _ => c ∧ s.Safe q, Ends := fun _ => s.Ends q, Succeeds := fun _ => s.Succeeds q }
    b p
  where
  logs n := by
    simp only [logs_bind, post_iff_of_returns hy, imp_and, forall_and, h.logs, hlogs]
    apply and_congr_left
    intro _
    constructor
    · intro hc
      apply hc n le_rfl
    · intro hc _ _
      exact hc
  ends fuel _ _ hreturns := by
    rw [returns_bind_iff_of_returns hy] at hreturns
    apply h.ends fuel hreturns
  returns hr := by
    obtain ⟨n, hn⟩ := h.returns hr
    use n
    intro fuel hfuel
    obtain ⟨r, hrest⟩ := hn fuel hfuel
    use r
    apply hy.bind hrest

end Follows

/-! ### Loops -/

section Loop

variable {P : ε → Prop} {guard : Nat → Bool} {enter : Nat → ε} {leave : Nat → Nat → ε}
  {body : α → Decoder ε (Bool × α)} {s : Shape} {p q fuel : Nat} {r : Bool × α}
  (henter : ∀ q, P (enter q)) (hleave : ∀ q q', P (leave q q'))
  (hbody : ∀ v q, guard q → Follows P (fun _ => body v) s True q) {ok : Bool} {v : α}

theorem returns_loop_succ_iff (hguard : guard p) :
  Returns (loop guard enter leave body (fuel + 1) ok v) p r q ↔
    ∃ r' p', Returns (body v) p r' p' ∧
      if (ok && r'.1) = true then Returns (loop guard enter leave body fuel true r'.2) p' r q
      else (false, r'.2) = r ∧ p' = q
  := by
  rw [loop, returns_bind_iff_of_returns (returns_here p), if_pos hguard,
    returns_bind_iff_of_returns (returns_tell _ p), returns_bind_iff]
  apply exists₂_congr
  intro r' p'
  apply and_congr_right
  intro _
  split
  · rw [returns_bind_iff_of_returns (returns_here p'),
      returns_bind_iff_of_returns (returns_tell _ p')]
  · rw [returns_pure_iff]

include hbody

theorem body_ends (hguard : guard p) (h : Returns (body v) p r q) :
  s.Ends p q ∧ (r.1 = true ↔ s.Succeeds p)
  := by
  have hends := (hbody v p hguard).ends 0 h
  rwa [true_and] at hends

theorem returns_body (v : α) (hguard : guard p) (h : s.Ends p q) :
  ∃ r, Returns (body v) p r q ∧ (r.1 = true ↔ s.Succeeds p)
  := by
  obtain ⟨n, hn⟩ := (hbody v p hguard).returns h
  obtain ⟨r, hr⟩ := hn n le_rfl
  use r, hr
  apply (body_ends hbody hguard hr).2

theorem loop_ends (h : Returns (loop guard enter leave body fuel ok v) p r q) :
  (Shape.loop guard (s.when (ok = true))).Ends p q ∧
    (r.1 = true ↔ ok = true ∧ (Shape.loop guard (s.when (ok = true))).Succeeds p)
  := by
  induction fuel generalizing ok p v with
  | zero =>
    rw [loop, returns_bind_iff_of_returns (returns_here p)] at h
    split at h
    · cases h.1
    · rename_i hguard
      obtain ⟨rfl, rfl⟩ := returns_pure_iff.mp h
      refine ⟨⟨0, p, rfl, .inr ⟨hguard, rfl⟩⟩, ?_⟩
      apply (and_iff_left ?_).symm
      exact ⟨0, p, rfl, hguard⟩
  | succ fuel ih =>
    by_cases hguard : guard p
    case neg =>
      rw [loop, returns_bind_iff_of_returns (returns_here p), if_neg hguard] at h
      obtain ⟨rfl, rfl⟩ := returns_pure_iff.mp h
      refine ⟨⟨0, p, rfl, .inr ⟨hguard, rfl⟩⟩, ?_⟩
      apply (and_iff_left ?_).symm
      exact ⟨0, p, rfl, hguard⟩
    case pos =>
      rw [returns_loop_succ_iff hguard] at h
      obtain ⟨r', p', hr', hrest⟩ := h
      obtain ⟨hp', hsuccess⟩ := body_ends hbody hguard hr'
      split at hrest
      case isTrue hok =>
        rw [Bool.and_eq_true, hsuccess] at hok
        obtain ⟨rfl, hs⟩ := hok
        obtain ⟨⟨k, q', hafter, hlast⟩, hr⟩ := ih hrest
        refine ⟨⟨k + 1, q', ⟨hguard, ⟨rfl, hs⟩, p', hp', hafter⟩, hlast⟩, ?_⟩
        rw [hr]
        apply and_congr_right
        intro _
        constructor
        · rintro ⟨k, q', hafter, hlast⟩
          exact ⟨k + 1, q', ⟨hguard, ⟨rfl, hs⟩, p', hp', hafter⟩, hlast⟩
        · rintro ⟨k, q', hafter, hlast⟩
          cases k with
          | zero =>
            obtain rfl := hafter
            exact absurd hguard hlast
          | succ k =>
            obtain ⟨-, -, p'', hp'', hafter⟩ := hafter
            obtain rfl := (hbody v p hguard).ends_unique hp' hp''
            exact ⟨k, q', hafter, hlast⟩
      case isFalse hok =>
        rw [Bool.and_eq_true, hsuccess] at hok
        obtain ⟨rfl, rfl⟩ := hrest
        refine ⟨⟨0, p, rfl, .inl ⟨hguard, hok, hp'⟩⟩, ?_⟩
        apply iff_of_false Bool.false_ne_true
        rintro ⟨-, k, q', hafter, hlast⟩
        cases k with
        | zero =>
          obtain rfl := hafter
          exact absurd hguard hlast
        | succ k => exact hok hafter.2.1

theorem exists_returns_loop {k q' : Nat} (hafter : Shape.After guard (s.when (ok = true)) k p q')
    (hlast : guard q' ∧ ¬ (s.when (ok = true)).Succeeds q' ∧ s.Ends q' q ∨ ¬ guard q' ∧ q = q')
    (hfuel : k + 1 ≤ fuel) (v : α) :
  ∃ r, Returns (loop guard enter leave body fuel ok v) p r q
  := by
  obtain ⟨fuel, rfl⟩ := Nat.exists_eq_add_of_le' (Nat.le_of_add_left_le hfuel)
  induction k generalizing fuel p ok v with
  | zero =>
    obtain rfl := hafter
    rcases hlast with ⟨hguard, hfails, hq⟩ | ⟨hguard, rfl⟩
    · obtain ⟨r, hr, hsuccess⟩ := returns_body hbody v hguard hq
      use (false, r.2)
      apply (returns_loop_succ_iff hguard).mpr
      refine ⟨r, q, hr, ?_⟩
      rw [if_neg]
      · exact ⟨rfl, rfl⟩
      · rwa [Bool.and_eq_true, hsuccess]
    · use (ok, v)
      rw [loop, returns_bind_iff_of_returns (returns_here _), if_neg hguard]
      apply returns_pure
  | succ k ih =>
    obtain ⟨hguard, ⟨rfl, hs⟩, p', hp', hafter⟩ := hafter
    obtain ⟨r, hr, hsuccess⟩ := returns_body hbody v hguard hp'
    have hok : (true && r.1) = true := by
      rw [Bool.true_and, hsuccess]
      exact hs
    obtain ⟨fuel, rfl⟩ := Nat.exists_eq_add_of_le' (show 1 ≤ fuel by omega)
    obtain ⟨r', hrest⟩ := ih hafter hlast r.2 fuel (by omega)
    use r'
    apply (returns_loop_succ_iff hguard).mpr
    refine ⟨r, p', hr, ?_⟩
    rwa [if_pos hok]

include henter hleave

theorem logs_loop_iff_after (fuel : Nat) (ok : Bool) (v : α) (p : Nat) :
  Logs P (loop guard enter leave body fuel ok v) p ↔
    ∀ k < fuel, ∀ q, Shape.After guard (s.when (ok = true)) k p q → guard q → s.Safe q
  := by
  induction fuel generalizing ok p v with
  | zero =>
    apply iff_of_true
    · simp only [loop, logs_bind, logs_here, post_here, true_and]
      split
      · apply logs_diverge
      · apply logs_pure
    · rintro k ⟨⟩
  | succ fuel ih =>
    rw [loop, logs_bind, post_here, and_iff_right (logs_here p), Nat.forall_lt_succ_left]
    simp only [Shape.After, forall_eq]
    by_cases hguard : guard p
    case neg =>
      rw [if_neg hguard]
      apply iff_of_true (logs_pure _ _)
      refine ⟨fun h => absurd h hguard, ?_⟩
      rintro k _ q ⟨h, -⟩
      exact absurd h hguard
    case pos =>
      have hsafe := (hbody v p hguard).logs 0
      simp only [ge_iff_le, zero_le, forall_const] at hsafe
      rw [if_pos hguard, logs_bind, logs_tell, post_tell, and_iff_right (henter p), logs_bind,
        hsafe]
      simp only [hguard, forall_const, true_and]
      apply and_congr_right
      intro _
      constructor
      · rintro h k hk q ⟨⟨rfl, hs⟩, p', hp', hafter⟩ hq
        obtain ⟨r, hr, hsuccess⟩ := returns_body hbody v hguard hp'
        have hrest := (post_iff_of_returns hr).mp h
        rw [Bool.true_and, if_pos (hsuccess.mpr hs)] at hrest
        simp only [logs_bind, logs_here, post_here, logs_tell, post_tell, hleave,
          true_and] at hrest
        exact (ih true r.2 p').mp hrest k hk q hafter hq
      · intro h r hr
        obtain ⟨hp', hsuccess⟩ := body_ends hbody hguard ⟨hr, rfl⟩
        split
        case isFalse => apply logs_pure
        case isTrue hok =>
          rw [Bool.and_eq_true, hsuccess] at hok
          obtain ⟨rfl, hs⟩ := hok
          simp only [logs_bind, logs_here, post_here, logs_tell, post_tell, hleave, true_and]
          apply (ih true r.2 _).mpr
          intro k hk q hafter
          exact h k hk q ⟨⟨rfl, hs⟩, _, hp', hafter⟩

theorem follows_loop (ok : Bool) (v : Nat → α) (p : Nat) :
  Follows P (fun fuel => loop guard enter leave body fuel ok (v fuel))
    (.loop guard (s.when (ok = true))) (ok = true) p
  where
  logs n := by
    simp only [logs_loop_iff_after henter hleave hbody]
    constructor
    · intro h k q
      apply h (max n (k + 1)) (le_max_left _ _) k
      exact lt_of_lt_of_le (Nat.lt_succ_self k) (le_max_right _ _)
    · intro h _ _ k _ q
      exact h k q
  ends _ _ _ h := loop_ends hbody h
  returns hq := by
    obtain ⟨k, q', hafter, hlast⟩ := hq
    use k + 1
    intro fuel hfuel
    apply exists_returns_loop hbody hafter hlast hfuel

end Loop

end Decoder
