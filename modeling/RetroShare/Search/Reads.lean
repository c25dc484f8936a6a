import RetroShare.Search.Expression

/-!
# What the reader of expressions does

`Reads l c e c'` says that a call of `toExpr` at the indices `c` returns the expression `e` and
leaves the indices at `c'`.  The bound on the depth of the calls plays no part in it.
-/

namespace Search

open LinearizedExpression

/-! ### Reads -/

variable {n : Nat} {α : Type} {v r : List α} {a : α} (l : LinearizedExpression)

theorem readAt_eq_some_iff {n' : Nat} :
  readAt v n = some (a, n') ↔ n' < 2 ^ 31 ∧ n' = n + 1 ∧ ∃ r, v.drop n = a :: r
  := by
  have hget : v[n]? = some a ↔ ∃ r, v.drop n = a :: r := by
    rw [← List.head?_drop, List.head?_eq_some_iff]
  rw [readAt]
  split
  case isTrue hn =>
    rw [Option.map_eq_some_iff, ← hget]
    constructor
    · rintro ⟨a', ha', heq⟩
      rw [Prod.mk.injEq] at heq
      obtain ⟨rfl, rfl⟩ := heq
      exact ⟨hn, rfl, ha'⟩
    · rintro ⟨-, rfl, ha⟩
      exact ⟨a, ha, rfl⟩
  case isFalse hn =>
    constructor
    · intro h
      cases h
    · rintro ⟨hlt, rfl, -⟩
      exact absurd hlt hn

theorem readAt_of_drop (h : v.drop n = a :: r) (hn : n + 1 < 2 ^ 31) :
  readAt v n = some (a, n + 1)
  := readAt_eq_some_iff.mpr ⟨hn, rfl, r, h⟩

theorem drop_succ_of_drop (h : v.drop n = a :: r) :
  v.drop (n + 1) = r
  := by
  rw [← List.drop_drop, h, List.drop_one, List.tail_cons]

theorem drop_add_of_drop {a : List α} (h : v.drop n = a ++ r) :
  v.drop (n + a.length) = r
  := by
  rw [← List.drop_drop, h, List.drop_left]

theorem readStrings_eq_some_iff {v : List StdString} :
  ∀ {count n n' : Nat} {ss : List StdString}, n < 2 ^ 31 →
    (readStrings v count n = some (ss, n') ↔
      n' < 2 ^ 31 ∧ n' = n + count ∧ ss.length = count ∧ ∃ r, v.drop n = ss ++ r)
  | 0, n, n', ss, hn => by
      rw [readStrings, Option.some.injEq, Prod.mk.injEq]
      constructor
      · rintro ⟨rfl, rfl⟩
        exact ⟨hn, rfl, rfl, _, rfl⟩
      · rintro ⟨-, rfl, hss, -⟩
        rw [List.length_eq_zero_iff] at hss
        exact ⟨hss.symm, rfl⟩
  | count + 1, n, n', ss, hn => by
      rw [readStrings, Option.bind_eq_bind, Option.bind_eq_some_iff]
      constructor
      · rintro ⟨⟨s, m⟩, hread, h⟩
        obtain ⟨hm, rfl, r, hr⟩ := readAt_eq_some_iff.mp hread
        obtain ⟨⟨ss', m'⟩, hrest, h⟩ := Option.bind_eq_some_iff.mp h
        rw [Option.some.injEq, Prod.mk.injEq] at h
        obtain ⟨rfl, rfl⟩ := h
        obtain ⟨hm', rfl, rfl, r', hr'⟩ := (readStrings_eq_some_iff hm).mp hrest
        rw [drop_succ_of_drop hr] at hr'
        refine ⟨hm', by omega, rfl, r', ?_⟩
        rw [hr, hr', List.cons_append]
      · rintro ⟨hn', rfl, hlen, r, hr⟩
        obtain ⟨s, ss', rfl⟩ := List.exists_cons_of_length_eq_add_one hlen
        rw [List.length_cons, Nat.add_right_cancel_iff] at hlen
        rw [List.cons_append] at hr
        refine ⟨(s, n + 1), readAt_of_drop hr (by omega), ?_⟩
        have hrest : readStrings v count (n + 1) = some (ss', n + (count + 1)) := by
          apply (readStrings_eq_some_iff (by omega)).mpr
          exact ⟨hn', by omega, hlen, r, drop_succ_of_drop hr⟩
        simp only [hrest, Option.bind_eq_bind, Option.bind_some]

/-! ### Calls -/

/-- The class of a relational expression with a token. -/
def relClass (tok : UInt8) : Option (RelOperator → Int32 → Int32 → Expression) :=
  if tok = exprDate then some .date
  else if tok = exprPop then some .pop
  else if tok = exprSize then some .size
  else if tok = exprSizeMB then some .sizeMB
  else none

/-- The class that `toExpr` makes for the token of a string expression. -/
def stringClass (tok : UInt8) : Option (StringOperator → List StdString → Bool → Expression) :=
  if tok = exprHash then some fun op terms _ => .hash op terms
  else if tok = exprName then some .name
  else if tok = exprPath then some .ext
  else if tok = exprExt then some .ext
  else none

/-- A call of `toExpr` that returns. -/
inductive Reads : Cursor → Expression → Cursor → Prop
  | rel {c c' : Cursor} {tok : UInt8} {n : Nat} {mk : RelOperator → Int32 → Int32 → Expression}
      {op : RelOperator} {lv hv : Int32} (htok : readAt l.tokens c.tok = some (tok, n))
      (hmk : relClass tok = some mk)
      (hrel : l.readRel { c with tok := n } = some ((op, lv, hv), c')) :
      Reads c (mk op lv hv) c'
  | string {c c' : Cursor} {tok : UInt8} {n : Nat}
      {mk : StringOperator → List StdString → Bool → Expression} {op : StringOperator}
      {terms : List StdString} {b : Bool} (htok : readAt l.tokens c.tok = some (tok, n))
      (hmk : stringClass tok = some mk)
      (hstring : l.readStringExpr { c with tok := n } = some ((op, terms, b), c')) :
      Reads c (mk op terms b) c'
  | comp {c c' c'' : Cursor} {n m : Nat} {op : LogicalOperator} {e1 e2 : Expression}
      (htok : readAt l.tokens c.tok = some (exprComp, n))
      (hop : readAt l.ints c.ints = some (op, m))
      (h1 : Reads ⟨n, m, c.strings⟩ e1 c') (h2 : Reads c' e2 c'') :
      Reads c (.compound op e1 e2) c''
  | other {c : Cursor} {tok : UInt8} {n : Nat}
      (htok : readAt l.tokens c.tok = some (tok, n)) (h : exprSizeMB < tok) :
      Reads c .null { c with tok := n }

/-- A token is that of a relational expression, of a string expression, of a compound, or of
nothing. -/
theorem token_cases (tok : UInt8) :
  (∃ mk, relClass tok = some mk) ∨ (∃ mk, stringClass tok = some mk) ∨ tok = exprComp ∨
    exprSizeMB < tok
  := by
  rcases Nat.lt_or_ge 8 tok.toNat with h | h
  · exact .inr (.inr (.inr h))
  · have htok : tok = 0 ∨ tok = 1 ∨ tok = 2 ∨ tok = 3 ∨ tok = 4 ∨ tok = 5 ∨ tok = 6 ∨ tok = 7 ∨
        tok = 8 := by
      simp only [← UInt8.toNat_inj, UInt8.toNat_ofNat]
      omega
    rcases htok with rfl | rfl | rfl | rfl | rfl | rfl | rfl | rfl | rfl
    · exact .inl ⟨_, rfl⟩
    · exact .inl ⟨_, rfl⟩
    · exact .inl ⟨_, rfl⟩
    · exact .inr (.inl ⟨_, rfl⟩)
    · exact .inr (.inl ⟨_, rfl⟩)
    · exact .inr (.inl ⟨_, rfl⟩)
    · exact .inr (.inl ⟨_, rfl⟩)
    · exact .inr (.inr (.inl rfl))
    · exact .inl ⟨_, rfl⟩

variable {l} {c c' : Cursor} {e : Expression}

/-- A call, by the kind of its token. -/
theorem toExprFrom_succ {tok : UInt8} (fuel : Nat) (htok : readAt l.tokens c.tok = some (tok, n)) :
  (∀ mk, relClass tok = some mk → l.toExprFrom (fuel + 1) c =
    (l.readRel { c with tok := n }).map fun r => (mk r.1.1 r.1.2.1 r.1.2.2, r.2)) ∧
  (∀ mk, stringClass tok = some mk → l.toExprFrom (fuel + 1) c =
    (l.readStringExpr { c with tok := n }).map fun r => (mk r.1.1 r.1.2.1 r.1.2.2, r.2)) ∧
  (tok = exprComp → l.toExprFrom (fuel + 1) c = do
    let (op, m) ← readAt l.ints c.ints
    let (e1, c) ← l.toExprFrom fuel ⟨n, m, c.strings⟩
    let (e2, c) ← l.toExprFrom fuel c
    some (.compound op e1 e2, c)) ∧
  (exprSizeMB < tok → l.toExprFrom (fuel + 1) c = some (.null, { c with tok := n }))
  := by
  rw [toExprFrom, htok]
  simp only [Option.bind_eq_bind, Option.bind_some]
  refine ⟨?_, ?_, ?_, ?_⟩
  · intro mk hmk
    rw [relClass] at hmk
    split_ifs at hmk with h h h h
    all_goals
      subst h
      rw [Option.some.injEq] at hmk
      subst hmk
      cases l.readRel { c with tok := n } <;> rfl
  · intro mk hmk
    rw [stringClass] at hmk
    split_ifs at hmk with h h h h
    all_goals
      subst h
      rw [Option.some.injEq] at hmk
      subst hmk
      cases l.readStringExpr { c with tok := n } <;> rfl
  · rintro rfl
    rfl
  · intro h
    have hne : ∀ k : UInt8, k ≤ exprSizeMB → tok ≠ k := by
      rintro k hk rfl
      exact absurd hk (Nat.not_le.mpr h)
    rw [if_neg (hne _ (by decide)), if_neg (hne _ (by decide)), if_neg (hne _ (by decide)),
      if_neg (hne _ (by decide)), if_neg (hne _ (by decide)), if_neg (hne _ (by decide)),
      if_neg (hne _ (by decide)), if_neg (hne _ (by decide)), if_neg (hne _ (by decide))]

/-- A call that returns is one that `Reads` describes. -/
theorem reads_of_toExprFrom :
  ∀ {fuel : Nat} {c c' : Cursor} {e : Expression}, l.toExprFrom fuel c = some (e, c') →
    Reads l c e c'
  | 0, _, _, _, h => by cases h
  | fuel + 1, c, c', e, h => by
      cases hread : readAt l.tokens c.tok with
      | none =>
        rw [toExprFrom, hread] at h
        cases h
      | some r =>
        obtain ⟨tok, n⟩ := r
        obtain ⟨hrel, hstring, hcomp, hother⟩ := toExprFrom_succ fuel hread
        rcases token_cases tok with ⟨mk, hmk⟩ | ⟨mk, hmk⟩ | htok | htok
        · rw [hrel mk hmk] at h
          obtain ⟨⟨⟨op, lv, hv⟩, c''⟩, hr, h⟩ := Option.map_eq_some_iff.mp h
          cases h
          exact .rel hread hmk hr
        · rw [hstring mk hmk] at h
          obtain ⟨⟨⟨op, terms, b⟩, c''⟩, hr, h⟩ := Option.map_eq_some_iff.mp h
          cases h
          exact .string hread hmk hr
        · rw [hcomp htok] at h
          obtain ⟨⟨op, m⟩, hop, h⟩ := Option.bind_eq_some_iff.mp h
          obtain ⟨⟨e1, c1⟩, h1, h⟩ := Option.bind_eq_some_iff.mp h
          obtain ⟨⟨e2, c2⟩, h2, h⟩ := Option.bind_eq_some_iff.mp h
          cases h
          rw [htok] at hread
          exact .comp hread hop (reads_of_toExprFrom h1) (reads_of_toExprFrom h2)
        · rw [hother htok] at h
          cases h
          exact .other hread htok

theorem lt_of_readAt {n' : Nat} (h : readAt v n = some (a, n')) :
  n < n' ∧ n' ≤ v.length
  := by
  obtain ⟨-, rfl, r, hr⟩ := readAt_eq_some_iff.mp h
  have := congrArg List.length hr
  rw [List.length_drop, List.length_cons] at this
  omega

theorem tok_of_readRel {r : RelOperator × Int32 × Int32} (h : l.readRel c = some (r, c')) :
  c'.tok = c.tok ∧ c'.strings = c.strings
  := by
  obtain ⟨⟨op, n⟩, -, h⟩ := Option.bind_eq_some_iff.mp h
  obtain ⟨⟨lv, n⟩, -, h⟩ := Option.bind_eq_some_iff.mp h
  obtain ⟨⟨hv, n⟩, -, h⟩ := Option.bind_eq_some_iff.mp h
  cases h
  exact ⟨rfl, rfl⟩

theorem tok_of_readStringExpr {r : StringOperator × List StdString × Bool}
    (h : l.readStringExpr c = some (r, c')) :
  c'.tok = c.tok
  := by
  obtain ⟨⟨op, n⟩, -, h⟩ := Option.bind_eq_some_iff.mp h
  obtain ⟨⟨b, n⟩, -, h⟩ := Option.bind_eq_some_iff.mp h
  obtain ⟨⟨count, n⟩, -, h⟩ := Option.bind_eq_some_iff.mp h
  obtain ⟨⟨ss, m⟩, -, h⟩ := Option.bind_eq_some_iff.mp h
  cases h
  rfl

theorem Reads.tok_lt (h : Reads l c e c') :
  c.tok < c'.tok ∧ c'.tok ≤ l.tokens.length
  := by
  induction h with
  | rel htok _ hrel =>
    rw [(tok_of_readRel hrel).1]
    exact lt_of_readAt htok
  | string htok _ hstring =>
    rw [tok_of_readStringExpr hstring]
    exact lt_of_readAt htok
  | comp htok _ _ _ ih1 ih2 =>
    have := lt_of_readAt htok
    simp only at ih1
    omega
  | other htok _ => exact lt_of_readAt htok

/-- A call returns what `Reads` says when the bound on the depth is the number of tokens left. -/
theorem toExprFrom_of_reads (h : Reads l c e c') :
  ∀ {fuel : Nat}, l.tokens.length ≤ c.tok + fuel → l.toExprFrom fuel c = some (e, c')
  := by
  induction h with
  | rel htok hmk hrel =>
    intro fuel hfuel
    obtain ⟨fuel, rfl⟩ : ∃ k, fuel = k + 1 :=
      Nat.exists_eq_succ_of_ne_zero (by have := lt_of_readAt htok; omega)
    rw [(toExprFrom_succ fuel htok).1 _ hmk, hrel, Option.map_some]
  | string htok hmk hstring =>
    intro fuel hfuel
    obtain ⟨fuel, rfl⟩ : ∃ k, fuel = k + 1 :=
      Nat.exists_eq_succ_of_ne_zero (by have := lt_of_readAt htok; omega)
    rw [(toExprFrom_succ fuel htok).2.1 _ hmk, hstring, Option.map_some]
  | comp htok hop h1 _ ih1 ih2 =>
    intro fuel hfuel
    have hlt := lt_of_readAt htok
    have hlt1 := h1.tok_lt
    simp only at hlt1
    obtain ⟨fuel, rfl⟩ : ∃ k, fuel = k + 1 := Nat.exists_eq_succ_of_ne_zero (by omega)
    rw [(toExprFrom_succ fuel htok).2.2.1 rfl, hop]
    simp only [Option.bind_eq_bind, Option.bind_some]
    rw [ih1 (by simp only; omega), Option.bind_some, ih2 (by omega), Option.bind_some]
  | other htok h =>
    intro fuel hfuel
    obtain ⟨fuel, rfl⟩ : ∃ k, fuel = k + 1 :=
      Nat.exists_eq_succ_of_ne_zero (by have := lt_of_readAt htok; omega)
    exact (toExprFrom_succ fuel htok).2.2.2 h

/-- `toExpr` returns exactly what `Reads` says: the bound on the depth is never met. -/
theorem toExpr_eq_some_iff :
  l.toExpr = some (e, c) ↔ Reads l ⟨0, 0, 0⟩ e c
  := by
  constructor
  · exact reads_of_toExprFrom
  · intro h
    apply toExprFrom_of_reads h
    simp

end Search
