import Mathlib.Algebra.Order.Ring.Nat

/-!
# Decoders

A decoder runs at an offset into some input.  It moves the offset, returns a value, and logs
events on the way; without a value it ran out of fuel.  Three predicates describe a run:
`Post` says what holds of the value and the offset it ends with, `Logs` what holds of every
event, and `Halts` that there is a value.  Each of them passes through `>>=` in the same way.
`Returns` gives the value and the offset themselves, where these are known.

`loop` is a while loop over the offset, with fuel.  It logs the offset at which each
iteration is entered and the offsets between which each successful one moves.
-/

/-- What a decoder does: its value, the offset it ends at, and the events on the way. -/
structure Outcome (ε α : Type) where
  value : Option α
  offset : Nat
  log : List ε

/-- A decoder, run at an offset. -/
def Decoder (ε α : Type) : Type := Nat → Outcome ε α

namespace Decoder

variable {ε α β : Type}

instance : Monad (Decoder ε) where
  pure a := fun p => ⟨some a, p, []⟩
  bind x f := fun p =>
    match (x p).value with
    | none => ⟨none, (x p).offset, (x p).log⟩
    | some a => ⟨(f a (x p).offset).value, (f a (x p).offset).offset,
        (x p).log ++ (f a (x p).offset).log⟩

/-- The offset. -/
def here : Decoder ε Nat := fun p => ⟨some p, p, []⟩

/-- Moves the offset to `q`. -/
def seek (q : Nat) : Decoder ε Unit := fun _ => ⟨some ⟨⟩, q, []⟩

/-- Logs an event. -/
def tell (e : ε) : Decoder ε Unit := fun p => ⟨some ⟨⟩, p, [e]⟩

/-- Runs out of fuel. -/
def diverge : Decoder ε α := fun p => ⟨none, p, []⟩

/-- Runs a decoder with an offset of its own, which starts at `q`.  Its events are renamed by
`f`. -/
def scope (f : ε → ε) (q : Nat) (x : Decoder ε α) : Decoder ε α :=
  fun p => ⟨(x q).value, p, (x q).log.map f⟩

/-- What holds of the value and of the offset that a decoder ends with. -/
def Post (x : Decoder ε α) (p : Nat) (Q : α → Nat → Prop) : Prop :=
  ∀ a, (x p).value = some a → Q a (x p).offset

/-- What holds of every event that a decoder logs. -/
def Logs (P : ε → Prop) (x : Decoder ε α) (p : Nat) : Prop :=
  ∀ e ∈ (x p).log, P e

/-- The decoder does not run out of fuel. -/
def Halts (x : Decoder ε α) (p : Nat) : Prop := (x p).value.isSome

/-- The decoder ends at the offset `q` with the value `a`. -/
def Returns (x : Decoder ε α) (p : Nat) (a : α) (q : Nat) : Prop :=
  (x p).value = some a ∧ (x p).offset = q

/-! ### The rules -/

section Rules

variable {P : ε → Prop} {Q : α → Nat → Prop} (e : ε) {c : Prop} {x y : Decoder ε α} {p q r : Nat}
  {a : α} {f : α → Decoder ε β} {b : β}

@[simp]
theorem post_pure (a : α) (p : Nat) :
  Post (pure a : Decoder ε α) p Q ↔ Q a p
  := by
  constructor
  · intro h
    apply h a rfl
  · rintro h _ ⟨⟩
    exact h

@[simp]
theorem post_here (p : Nat) (Q : Nat → Nat → Prop) :
  Post (here : Decoder ε Nat) p Q ↔ Q p p
  := post_pure p p

@[simp]
theorem post_seek (q p : Nat) (Q : Unit → Nat → Prop) :
  Post (seek q : Decoder ε Unit) p Q ↔ Q ⟨⟩ q
  := post_pure _ q

@[simp]
theorem post_tell (p : Nat) (Q : Unit → Nat → Prop) :
  Post (tell e) p Q ↔ Q ⟨⟩ p
  := by
  constructor
  · intro h
    apply h ⟨⟩ rfl
  · rintro h _ ⟨⟩
    exact h

@[simp]
theorem post_diverge (p : Nat) :
  Post (diverge : Decoder ε α) p Q
  := by
  rintro _ ⟨⟩

@[simp]
theorem post_bind (x : Decoder ε α) (f : α → Decoder ε β) (p : Nat) (Q : β → Nat → Prop) :
  Post (x >>= f) p Q ↔ Post x p fun a q => Post (f a) q Q
  := by
  simp only [Post, bind]
  cases (x p).value with
  | none => simp
  | some a => simp

@[simp]
theorem logs_pure (a : α) (p : Nat) :
  Logs P (pure a) p
  := by
  rintro _ ⟨⟩

@[simp]
theorem logs_here (p : Nat) :
  Logs P here p
  := by
  rintro _ ⟨⟩

@[simp]
theorem logs_seek (q p : Nat) :
  Logs P (seek q) p
  := by
  rintro _ ⟨⟩

@[simp]
theorem logs_tell (p : Nat) :
  Logs P (tell e) p ↔ P e
  := List.forall_mem_singleton

@[simp]
theorem logs_diverge (p : Nat) :
  Logs P (diverge : Decoder ε α) p
  := by
  rintro _ ⟨⟩

@[simp]
theorem logs_bind (x : Decoder ε α) (f : α → Decoder ε β) (p : Nat) :
  Logs P (x >>= f) p ↔ Logs P x p ∧ Post x p fun a q => Logs P (f a) q
  := by
  simp only [Post, Logs, bind]
  cases (x p).value with
  | none => simp
  | some a => simp [or_imp, forall_and]

@[simp]
theorem halts_pure (a : α) (p : Nat) :
  Halts (pure a : Decoder ε α) p
  := rfl

@[simp]
theorem halts_here (p : Nat) :
  Halts (here : Decoder ε Nat) p
  := rfl

@[simp]
theorem halts_seek (q p : Nat) :
  Halts (seek q : Decoder ε Unit) p
  := rfl

@[simp]
theorem halts_tell (p : Nat) :
  Halts (tell e) p
  := rfl

@[simp]
theorem not_halts_diverge (p : Nat) :
  ¬ Halts (diverge : Decoder ε α) p
  := by
  rintro ⟨⟩

@[simp]
theorem halts_bind (x : Decoder ε α) (f : α → Decoder ε β) (p : Nat) :
  Halts (x >>= f) p ↔ Halts x p ∧ Post x p fun a q => Halts (f a) q
  := by
  simp only [Post, Halts, bind]
  cases (x p).value with
  | none => simp
  | some a => simp

@[simp]
theorem logs_scope (f : ε → ε) (q : Nat) (x : Decoder ε α) (p : Nat) :
  Logs P (scope f q x) p ↔ Logs (fun e => P (f e)) x q
  := List.forall_mem_map

theorem post_ite_iff [Decidable c] (x y : Decoder ε α) (p : Nat) :
  Post (if c then x else y) p Q ↔ (c → Post x p Q) ∧ (¬ c → Post y p Q)
  := by
  split <;> simp_all

theorem logs_ite_iff [Decidable c] (x y : Decoder ε α) (p : Nat) :
  Logs P (if c then x else y) p ↔ (c → Logs P x p) ∧ (¬ c → Logs P y p)
  := by
  split <;> simp_all

theorem Post.mono {Q' : α → Nat → Prop} (h : Post x p Q) (hQ : ∀ a q, Q a q → Q' a q) :
  Post x p Q'
  := fun a ha => hQ a _ (h a ha)

theorem Logs.mono {P' : ε → Prop} (h : Logs P x p) (hP : ∀ e, P e → P' e) :
  Logs P' x p
  := fun e he => hP e (h e he)

theorem post_iff_of_returns (h : Returns x p a q) :
  Post x p Q ↔ Q a q
  := by
  obtain ⟨hvalue, hoffset⟩ := h
  simp only [Post, hvalue, hoffset, Option.some.injEq, forall_eq']

/-- What is logged after a decoder whose result is known. -/
theorem logs_bind_of_returns (h : Returns x p a q) (hx : Logs P x p) :
  Logs P (x >>= f) p ↔ Logs P (f a) q
  := by
  rw [logs_bind, post_iff_of_returns h, and_iff_right hx]

theorem Returns.bind (h : Returns x p a q) (h' : Returns (f a) q b r) :
  Returns (x >>= f) p b r
  := by
  obtain ⟨hvalue, rfl⟩ := h
  obtain ⟨hvalue', rfl⟩ := h'
  simp only [Returns, Bind.bind, hvalue, hvalue', and_self]

theorem returns_pure (a : α) (p : Nat) :
  Returns (pure a : Decoder ε α) p a p
  := ⟨rfl, rfl⟩

theorem returns_here (p : Nat) :
  Returns (here : Decoder ε Nat) p p p
  := ⟨rfl, rfl⟩

theorem returns_seek (q p : Nat) :
  Returns (seek q : Decoder ε Unit) p ⟨⟩ q
  := ⟨rfl, rfl⟩

theorem returns_tell (p : Nat) :
  Returns (tell e) p ⟨⟩ p
  := ⟨rfl, rfl⟩

theorem returns_ite_pos [Decidable c] (hc : c) (h : Returns x p a q) :
  Returns (if c then x else y) p a q
  := by
  rwa [if_pos hc]

theorem returns_ite_neg [Decidable c] (hc : ¬ c) (h : Returns y p a q) :
  Returns (if c then x else y) p a q
  := by
  rwa [if_neg hc]

theorem returns_scope (f : ε → ε) (h : Returns x q a r) (p : Nat) :
  Returns (scope f q x) p a p
  := ⟨h.1, rfl⟩

/-- The result of a decoder is determined. -/
theorem Returns.unique {q' : Nat} {a' : α} (h : Returns x p a q) (h' : Returns x p a' q') :
  a = a' ∧ q = q'
  := by
  obtain ⟨hvalue, rfl⟩ := h
  obtain ⟨hvalue', rfl⟩ := h'
  exact ⟨Option.some.inj (hvalue.symm.trans hvalue'), rfl⟩

theorem returns_bind_iff :
  Returns (x >>= f) p b r ↔ ∃ a q, Returns x p a q ∧ Returns (f a) q b r
  := by
  constructor
  · intro h
    cases hvalue : (x p).value with
    | none =>
      simp only [Returns, Bind.bind, hvalue] at h
      cases h.1
    | some a =>
      simp only [Returns, Bind.bind, hvalue] at h
      exact ⟨a, (x p).offset, ⟨hvalue, rfl⟩, h⟩
  · rintro ⟨a, q, h, h'⟩
    exact h.bind h'

theorem returns_bind_iff_of_returns (h : Returns x p a q) :
  Returns (x >>= f) p b r ↔ Returns (f a) q b r
  := by
  rw [returns_bind_iff]
  constructor
  · rintro ⟨a', q', h', hrest⟩
    obtain ⟨rfl, rfl⟩ := h.unique h'
    exact hrest
  · intro hrest
    exact ⟨a, q, h, hrest⟩

theorem returns_pure_iff {b : α} :
  Returns (pure a : Decoder ε α) p b q ↔ a = b ∧ p = q
  := by
  constructor
  · exact (returns_pure a p).unique
  · rintro ⟨rfl, rfl⟩
    apply returns_pure

@[simp]
theorem post_true (x : Decoder ε α) (p : Nat) :
  Post x p fun _ _ => True
  := fun _ _ => trivial

end Rules

/-! ### Loops -/

section Loop

variable (guard : Nat → Bool) (enter : Nat → ε) (leave : Nat → Nat → ε)
  (body : α → Decoder ε (Bool × α))

/-- `while (guard) { ok &= body; if (!ok) break; }`, with fuel.  The body returns whether it
succeeded, and the next value. -/
def loop : Nat → Bool → α → Decoder ε (Bool × α)
  | 0, ok, v => do
      let p ← here
      if guard p then diverge else pure (ok, v)
  | fuel + 1, ok, v => do
      let p ← here
      if guard p then do
        tell (enter p)
        let r ← body v
        if ok && r.1 then do
          let q ← here
          tell (leave p q)
          loop fuel true r.2
        else
          pure (false, r.2)
      else
        pure (ok, v)

variable {guard enter leave body} {P : ε → Prop} {p fuel : Nat} {I : α → Prop}

theorem returns_loop_done (v : α) (hguard : ¬ guard p) :
  Returns (loop guard enter leave body fuel true v) p (true, v) p
  := by
  cases fuel with
  | zero =>
    apply (returns_here p).bind
    rw [if_neg hguard]
    apply returns_pure
  | succ fuel =>
    apply (returns_here p).bind
    rw [if_neg hguard]
    apply returns_pure

theorem returns_loop_next {q s : Nat} {v v' : α} {r : Bool × α} (hguard : guard p)
    (h : Returns (body v) p (true, v') q)
    (h' : Returns (loop guard enter leave body fuel true v') q r s) :
  Returns (loop guard enter leave body (fuel + 1) true v) p r s
  := by
  apply (returns_here p).bind
  rw [if_pos hguard]
  apply (returns_tell _ p).bind
  apply h.bind
  apply (returns_here q).bind
  exact (returns_tell _ q).bind h'

theorem exists_of_returns_loop {s : Nat} {v w : α} (hguard : guard p)
    (h : Returns (loop guard enter leave body fuel true v) p (true, w) s) :
  ∃ fuel' v' q, Returns (body v) p (true, v') q ∧
    Returns (loop guard enter leave body fuel' true v') q (true, w) s
  := by
  cases fuel with
  | zero =>
    rw [loop, returns_bind_iff_of_returns (returns_here p), if_pos hguard] at h
    cases h.1
  | succ fuel =>
    rw [loop, returns_bind_iff_of_returns (returns_here p), if_pos hguard,
      returns_bind_iff_of_returns (returns_tell _ p), returns_bind_iff] at h
    obtain ⟨⟨ok, v'⟩, q, hbody, hrest⟩ := h
    cases ok with
    | false =>
      simp only [Bool.and_false, Bool.false_eq_true, if_false, returns_pure_iff] at hrest
      cases hrest.1
    | true =>
      simp only [Bool.and_self, if_true] at hrest
      rw [returns_bind_iff_of_returns (returns_here q),
        returns_bind_iff_of_returns (returns_tell _ q)] at hrest
      exact ⟨fuel, v', q, hbody, hrest⟩

theorem post_loop_not_guard (hbody : ∀ v p, Post (body v) p fun r _ => r.1 = true) :
  ∀ (fuel : Nat) (v : α) (p : Nat),
    Post (loop guard enter leave body fuel true v) p fun _ q => ¬ guard q
  | 0, v, p => by
      simp only [loop, post_bind, post_here]
      split
      case isTrue => simp
      case isFalse hguard => simpa using hguard
  | fuel + 1, v, p => by
      simp only [loop, post_bind, post_here]
      split
      case isFalse hguard => simpa using hguard
      case isTrue =>
        simp only [post_bind, post_tell]
        refine (hbody v p).mono ?_
        intro r q hr
        simp only [hr, Bool.and_self, if_true, post_bind, post_here, post_tell]
        apply post_loop_not_guard hbody fuel r.2 q

/-- Two properties of events amount to the same for a loop when they do for every iteration;
`I` is an invariant of the value. -/
theorem logs_loop_iff {P' : ε → Prop}
    (hbody : ∀ v p, I v → guard p → (P (enter p) ∧ Logs P (body v) p ↔ P' (enter p) ∧ Logs P' (body
      v) p))
    (hleave : ∀ v p, I v → guard p → Post (body v) p fun r q => r.1 → (P (leave p q) ↔ P' (leave p
      q)) ∧ I r.2) :
  ∀ (fuel : Nat) (ok : Bool) (v : α) (p : Nat), I v →
    (Logs P (loop guard enter leave body fuel ok v) p ↔
      Logs P' (loop guard enter leave body fuel ok v) p)
  | 0, ok, v, p, _ => by
      simp only [loop, logs_bind, logs_here, post_here, true_and]
      split <;> simp
  | fuel + 1, ok, v, p, hv => by
      simp only [loop, logs_bind, logs_here, post_here, true_and]
      split
      case isFalse => simp
      case isTrue hguard =>
        simp only [logs_bind, logs_tell, post_tell]
        rw [← and_assoc, ← and_assoc, hbody v p hv hguard]
        apply and_congr_right
        intro _
        apply forall₂_congr
        intro r hr
        have hnext := hleave v p hv hguard r hr
        by_cases hok : (ok && r.1) = true
        case neg => simp [hok]
        case pos =>
          simp only [Bool.and_eq_true] at hok
          obtain ⟨hpq, hI⟩ := hnext hok.2
          simp only [hok, Bool.and_self, if_true, logs_bind, logs_here, post_here, logs_tell,
            post_tell, true_and, hpq]
          rw [logs_loop_iff hbody hleave fuel true r.2 _ hI]

theorem logs_loop (henter : ∀ p, guard p → P (enter p))
    (hbody : ∀ v p, I v → guard p → Logs P (body v) p)
    (hleave : ∀ v p, I v → guard p → Post (body v) p fun r q => r.1 → P (leave p q) ∧ I r.2)
    (fuel : Nat) (ok : Bool) (v : α) (p : Nat) (hv : I v) :
  Logs P (loop guard enter leave body fuel ok v) p
  := by
  have htrue : ∀ {γ : Type} (x : Decoder ε γ) (q : Nat), Logs (fun _ => True) x q :=
    fun _ _ _ _ => trivial
  refine (logs_loop_iff (I := I) ?_ ?_ fuel ok v p hv).mpr (htrue _ p)
  · intro v p hv hguard
    exact iff_of_true ⟨henter p hguard, hbody v p hv hguard⟩ ⟨trivial, htrue _ p⟩
  · intro v p hv hguard
    refine (hleave v p hv hguard).mono ?_
    intro r q h hok
    exact ⟨iff_of_true (h hok).1 trivial, (h hok).2⟩

/-- A loop whose iterations halt, and whose successful iterations increase the offset below
`n`, halts with enough fuel: with `n - p` iterations from an offset `p` below `n`, and with `n + 1`
from any offset, as the first one moves the offset below `n`. -/
theorem halts_loop {n : Nat}
    (hbody : ∀ v p, guard p → Logs P (body v) p → Halts (body v) p)
    (hleave : ∀ p q, P (leave p q) → p < q ∧ q < n) :
  ∀ (fuel : Nat) (ok : Bool) (v : α) (p : Nat), n < fuel ∨ p < n ∧ n ≤ fuel + p →
    Logs P (loop guard enter leave body fuel ok v) p →
    Halts (loop guard enter leave body fuel ok v) p
  | 0, _, _, _, hfuel, _ => by omega
  | fuel + 1, ok, v, p, hfuel, hlogs => by
      simp only [loop, logs_bind, logs_here, post_here, true_and] at hlogs
      simp only [loop, halts_bind, halts_here, post_here, true_and]
      split
      case isFalse => simp
      case isTrue hguard =>
        simp only [hguard, if_true, logs_bind, logs_tell, post_tell] at hlogs
        obtain ⟨-, hlogsBody, hlogsRest⟩ := hlogs
        simp only [halts_bind, halts_tell, post_tell, true_and]
        refine ⟨hbody v p hguard hlogsBody, ?_⟩
        refine hlogsRest.mono ?_
        intro r q hr
        split
        case isFalse => simp
        case isTrue hok =>
          simp only [hok, if_true, logs_bind, logs_here, post_here, logs_tell, post_tell,
            true_and] at hr
          obtain ⟨hpq, hq⟩ := hleave p q hr.1
          simp only [halts_bind, halts_here, post_here, halts_tell, post_tell, true_and]
          apply halts_loop hbody hleave fuel true r.2 q _ hr.2
          omega

theorem not_halts_loop (hguard : guard p)
    (hbody : ∀ v, ∃ v', (body v p).value = some (true, v') ∧ (body v p).offset = p) :
  ∀ (fuel : Nat) (v : α), ¬ Halts (loop guard enter leave body fuel true v) p
  | 0, v => by
      simp [loop, hguard]
  | fuel + 1, v => by
      obtain ⟨v', hvalue, hoffset⟩ := hbody v
      intro h
      simp only [loop, halts_bind, halts_here, post_here, hguard, if_true, halts_tell, post_tell,
        true_and] at h
      have hnext := h.2 _ hvalue
      simp only [hoffset, Bool.and_self, if_true, halts_bind, halts_here, post_here, halts_tell,
        post_tell, true_and] at hnext
      apply not_halts_loop hguard hbody fuel v' hnext

end Loop

end Decoder
