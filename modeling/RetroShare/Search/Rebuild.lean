import RetroShare.GRouter.Items
import RetroShare.Search.RoundTrip

/-!
# Rebuilding the expression of a received search

A search request carries three arrays of any lengths.  `toExpr` does not compare its indices with
them, so the search is safe exactly when the arrays begin with the word of an expression.  The
result may contain `NULL`: evaluating it is safe nevertheless.
-/

namespace Search

open LinearizedExpression

/-! ### The item -/

section Item

open Serialiser Decoder

variable (data : Memory)

/-- The loops of the constructor below: as many elements are read as the array has. -/
def readEach {α : Type} (get : Dec (Bool × α)) : Nat → Dec (Bool × List α)
  | 0 => pure (true, [])
  | n + 1 => do
      let a ← get
      let as ← readEach get n
      pure (a.1 && as.1, a.2 :: as.2)

/-- `TLV_TYPE_STR_VALUE`. -/
def tlvTypeStrValue : Nat := 0x0054

/-- `RsTurtleRegExpSearchRequestItem`. -/
structure RsTurtleRegExpSearchRequestItem where
  requestId : Nat
  depth : Nat
  expr : LinearizedExpression
  deriving DecidableEq

/-- `RsTurtleRegExpSearchRequestItem::RsTurtleRegExpSearchRequestItem(data, pktsize)`; without an
item, the constructor throws.  A number of elements that cannot be read stays the one before. -/
def RsTurtleRegExpSearchRequestItem.ofPacket (pktsize : Nat) :
    Dec (Option RsTurtleRegExpSearchRequestItem) := do
  seek 8
  let rssize ← GRouter.getRsItemSize data
  let requestId ← getRawUInt32 data pktsize 0
  let depth ← getRawUInt16 data pktsize 0
  let n ← getRawUInt32 data pktsize 0
  let tokens ← readEach (getRawUInt8 data pktsize 0) n.2
  let m ← getRawUInt32 data pktsize n.2
  let ints ← readEach (getRawUInt32 data pktsize 0) m.2
  let k ← getRawUInt32 data pktsize m.2
  let strings ← readEach (getTlvString data pktsize tlvTypeStrValue []) k.2
  GRouter.finish
    (requestId.1 && depth.1 && n.1 && tokens.1 && m.1 && ints.1 && k.1 && strings.1) rssize
    ⟨requestId.2, depth.2,
      ⟨tokens.2.map UInt8.ofNat, ints.2.map (BitVec.ofNat 32), strings.2⟩⟩

end Item

/-! ### Evaluation -/

variable {e : Expression} {l w : LinearizedExpression} {c c' : Cursor}

/-- A pointer that is not `NULL` can be evaluated, also when there is `NULL` below it. -/
theorem Expression.isSome_eval (h : e ≠ null) (file : FileEntry) :
  (e.eval file).isSome
  := by
  induction e with
  | null => exact absurd rfl h
  | ext op terms ic =>
    rw [eval]
    cases file.ext with
    | none => rfl
    | some part => rfl
  | compound op lexp rexp ihl ihr =>
    rw [eval]
    split
    case isTrue => rfl
    case isFalse hnull =>
      rw [not_or] at hnull
      obtain ⟨l, hl⟩ := Option.isSome_iff_exists.mp (ihl hnull.1)
      obtain ⟨r, hr⟩ := Option.isSome_iff_exists.mp (ihr hnull.2)
      rw [hl, hr]
      split_ifs <;> cases l <;> rfl
  | date | pop | size | sizeMB | hash | name | path => rfl

/-! ### Words -/

/-- The arrays that one call of `toExpr` reads. -/
inductive IsWord : LinearizedExpression → Prop
  | rel {tok : UInt8} (h : (relClass tok).isSome) (op lv hv : Int32) :
      IsWord ⟨[tok], [op, lv, hv], []⟩
  | string {tok : UInt8} (h : (stringClass tok).isSome) (op b count : Int32)
      {terms : List StdString} (hcount : terms.length = count.toInt.toNat) :
      IsWord ⟨[tok], [op, b, count], terms⟩
  | comp (op : LogicalOperator) {w1 w2 : LinearizedExpression} (h1 : IsWord w1)
      (h2 : IsWord w2) :
      IsWord ⟨exprComp :: (w1.tokens ++ w2.tokens), op :: (w1.ints ++ w2.ints),
        w1.strings ++ w2.strings⟩
  | other {tok : UInt8} (h : exprSizeMB < tok) : IsWord ⟨[tok], [], []⟩

/-- What is left of the arrays behind the indices. -/
def LinearizedExpression.leftAt (l : LinearizedExpression) (c : Cursor) : LinearizedExpression :=
  ⟨l.tokens.drop c.tok, l.ints.drop c.ints, l.strings.drop c.strings⟩

/-- The indices behind a word. -/
def Cursor.advance (c : Cursor) (w : LinearizedExpression) : Cursor :=
  ⟨c.tok + w.tokens.length, c.ints + w.ints.length, c.strings + w.strings.length⟩

theorem leftAt_advance {r : LinearizedExpression} (h : l.leftAt c = w.append r) :
  l.leftAt (c.advance w) = r
  := by
  obtain ⟨htok, hints, hstrings⟩ := LinearizedExpression.mk.inj h
  rw [leftAt, Cursor.advance, drop_add_of_drop htok, drop_add_of_drop hints,
    drop_add_of_drop hstrings]

/-- A word that is left is read, where the indices behind it are of type `int`. -/
theorem reads_of_isWord (h : IsWord w) :
  ∀ {c : Cursor} {r : LinearizedExpression}, l.leftAt c = w.append r → (c.advance w).Bounded →
    ∃ e, Reads l c e (c.advance w)
  := by
  induction h with
  | rel hmk op lv hv =>
    rintro c r hleft ⟨hntok, hnints, -⟩
    obtain ⟨mk, hmk⟩ := Option.isSome_iff_exists.mp hmk
    obtain ⟨htok, hints, -⟩ := LinearizedExpression.mk.inj hleft
    exact ⟨_, .rel (readAt_of_drop htok hntok) hmk (readRel_of_drop hints hnints)⟩
  | @string tok hmk op b count terms hcount =>
    rintro c r hleft ⟨hntok, hnints, hnstrings⟩
    obtain ⟨mk, hmk⟩ := Option.isSome_iff_exists.mp hmk
    obtain ⟨htok, hints, hstrings⟩ := LinearizedExpression.mk.inj hleft
    have hstring := readStringExpr_of_count (c := { c with tok := c.tok + 1 }) hints hstrings
      hcount hnints hnstrings
    exact ⟨_, .string (readAt_of_drop htok hntok) hmk hstring⟩
  | @comp op w1 w2 h1 h2 ih1 ih2 =>
    rintro c r hleft hbounded
    obtain ⟨htok, hints, hstrings⟩ := LinearizedExpression.mk.inj hleft
    have hleft1 : l.leftAt ⟨c.tok + 1, c.ints + 1, c.strings⟩ = w1.append (w2.append r) := by
      rw [leftAt, drop_succ_of_drop htok, drop_succ_of_drop hints, hstrings]
      simp only [append, List.append_eq, List.append_assoc]
    have hcursor : ((Cursor.mk (c.tok + 1) (c.ints + 1) c.strings).advance w1).advance w2 =
        c.advance ⟨exprComp :: (w1.tokens ++ w2.tokens), op :: (w1.ints ++ w2.ints),
          w1.strings ++ w2.strings⟩ := by
      simp only [Cursor.advance, List.length_cons, List.length_append, Cursor.mk.injEq]
      omega
    rw [← hcursor] at hbounded ⊢
    obtain ⟨hntok, hnints, hnstrings⟩ := hbounded
    simp only [Cursor.advance] at hntok hnints hnstrings
    obtain ⟨e1, he1⟩ := ih1 hleft1
      ⟨by simp only [Cursor.advance]; omega, by simp only [Cursor.advance]; omega,
        by simp only [Cursor.advance]; omega⟩
    obtain ⟨e2, he2⟩ := ih2 (leftAt_advance hleft1) ⟨hntok, hnints, hnstrings⟩
    exact ⟨_, .comp (readAt_of_drop htok (by omega)) (readAt_of_drop hints (by omega)) he1 he2⟩
  | other htok =>
    rintro c r hleft ⟨hntok, -, -⟩
    obtain ⟨hdrop, -, -⟩ := LinearizedExpression.mk.inj hleft
    exact ⟨_, .other (readAt_of_drop hdrop hntok) htok⟩

theorem eq_of_readRel {r : RelOperator × Int32 × Int32} (h : l.readRel c = some (r, c')) :
  c' = { c with ints := c.ints + 3 } ∧
    l.ints.drop c.ints = r.1 :: r.2.1 :: r.2.2 :: l.ints.drop c'.ints
  := by
  obtain ⟨⟨op, n⟩, hop, h⟩ := Option.bind_eq_some_iff.mp h
  obtain ⟨⟨lv, n'⟩, hlv, h⟩ := Option.bind_eq_some_iff.mp h
  obtain ⟨⟨hv, n''⟩, hhv, h⟩ := Option.bind_eq_some_iff.mp h
  obtain ⟨-, rfl, is, his⟩ := readAt_eq_some_iff.mp hop
  obtain ⟨-, rfl, is', his'⟩ := readAt_eq_some_iff.mp hlv
  obtain ⟨-, rfl, is'', his''⟩ := readAt_eq_some_iff.mp hhv
  cases h
  refine ⟨rfl, ?_⟩
  rw [his, ← drop_succ_of_drop his, his', ← drop_succ_of_drop his', his'',
    ← drop_succ_of_drop his'']

theorem eq_of_readStringExpr {r : StringOperator × List StdString × Bool} (hc : c.Bounded)
    (h : l.readStringExpr c = some (r, c')) :
  ∃ b count : Int32, r.2.1.length = count.toInt.toNat ∧
    c' = { c with ints := c.ints + 3, strings := c.strings + r.2.1.length } ∧
    l.ints.drop c.ints = r.1 :: b :: count :: l.ints.drop c'.ints ∧
    l.strings.drop c.strings = r.2.1 ++ l.strings.drop c'.strings
  := by
  obtain ⟨⟨op, n⟩, hop, h⟩ := Option.bind_eq_some_iff.mp h
  obtain ⟨⟨b, n'⟩, hb, h⟩ := Option.bind_eq_some_iff.mp h
  obtain ⟨⟨count, n''⟩, hcount, h⟩ := Option.bind_eq_some_iff.mp h
  obtain ⟨⟨terms, m⟩, hterms, h⟩ := Option.bind_eq_some_iff.mp h
  obtain ⟨-, rfl, is, his⟩ := readAt_eq_some_iff.mp hop
  obtain ⟨-, rfl, is', his'⟩ := readAt_eq_some_iff.mp hb
  obtain ⟨-, rfl, is'', his''⟩ := readAt_eq_some_iff.mp hcount
  obtain ⟨-, rfl, hlen, ss, hss⟩ := (readStrings_eq_some_iff hc.2.2).mp hterms
  cases h
  refine ⟨b, count, hlen, ?_, ?_, ?_⟩
  · rw [hlen]
  · rw [his, ← drop_succ_of_drop his, his', ← drop_succ_of_drop his', his'',
      ← drop_succ_of_drop his'']
  · rw [hss, ← hlen, drop_add_of_drop hss]

theorem isWord_of_reads (h : Reads l c e c') :
  c.Bounded → ∃ w, IsWord w ∧ c' = c.advance w ∧ l.leftAt c = w.append (l.leftAt c')
  := by
  induction h with
  | @rel c c' tok n mk op lv hv htok hmk hrel =>
    intro hc
    obtain ⟨hn, rfl, ts, hts⟩ := readAt_eq_some_iff.mp htok
    obtain ⟨rfl, hints⟩ := eq_of_readRel hrel
    refine ⟨_, .rel (Option.isSome_of_eq_some hmk) op lv hv, rfl, ?_⟩
    rw [leftAt, leftAt, hts, hints, drop_succ_of_drop hts]
    rfl
  | @string c c' tok n mk op terms b htok hmk hstring =>
    intro hc
    obtain ⟨hn, rfl, ts, hts⟩ := readAt_eq_some_iff.mp htok
    obtain ⟨b', count, hcount, rfl, hints, hstrings⟩ :=
      eq_of_readStringExpr (c := { c with tok := c.tok + 1 }) ⟨hn, hc.2⟩ hstring
    refine ⟨_, .string (Option.isSome_of_eq_some hmk) op b' count hcount, rfl, ?_⟩
    rw [leftAt, leftAt, hts, hints, hstrings, drop_succ_of_drop hts]
    rfl
  | @comp c c' c'' n m op e1 e2 htok hop h1 h2 ih1 ih2 =>
    intro hc
    obtain ⟨hn, rfl, ts, hts⟩ := readAt_eq_some_iff.mp htok
    obtain ⟨hm, rfl, is, his⟩ := readAt_eq_some_iff.mp hop
    have hc1 : Cursor.Bounded ⟨c.tok + 1, c.ints + 1, c.strings⟩ := ⟨hn, hm, hc.2.2⟩
    obtain ⟨w1, hw1, rfl, hleft1⟩ := ih1 hc1
    obtain ⟨w2, hw2, rfl, hleft2⟩ := ih2 (h1.bounded hc1)
    refine ⟨_, .comp op hw1 hw2, ?_, ?_⟩
    · simp only [Cursor.advance, List.length_cons, List.length_append, Cursor.mk.injEq]
      omega
    · rw [hleft2] at hleft1
      obtain ⟨htok1, hints1, hstrings1⟩ := LinearizedExpression.mk.inj hleft1
      rw [drop_succ_of_drop hts] at htok1
      rw [drop_succ_of_drop his] at hints1
      rw [leftAt, hts, his, htok1, hints1]
      simp only [append, List.cons_append, List.append_assoc, LinearizedExpression.mk.injEq,
        true_and]
      simpa only [append, List.append_assoc] using hstrings1
  | @other c tok n htok h =>
    intro hc
    obtain ⟨hn, rfl, ts, hts⟩ := readAt_eq_some_iff.mp htok
    refine ⟨_, .other h, rfl, ?_⟩
    rw [leftAt, leftAt, hts, drop_succ_of_drop hts]
    rfl

/-! ### Safety -/

/-- `toExpr` returns, reads inside the three arrays only, and what it returns is `NULL`, at which
`performLocalSearch` stops, or can be evaluated on every file. -/
def LinearizedExpression.RebuildsSafely (l : LinearizedExpression) : Prop :=
  ∃ e c, l.toExpr = some (e, c) ∧ (e = .null ∨ ∀ file, (e.eval file).isSome)

/-- The arrays begin with a word, and the indices behind it are of type `int`. -/
def LinearizedExpression.BeginsWithWord (l : LinearizedExpression) : Prop :=
  ∃ w r, IsWord w ∧ l = w.append r ∧ w.tokens.length < 2 ^ 31 ∧ w.ints.length < 2 ^ 31 ∧
    w.strings.length < 2 ^ 31

/-- The expression of a received search is rebuilt safely exactly when its arrays begin with a
word. -/
theorem rebuildsSafely_iff (item : RsTurtleRegExpSearchRequestItem) :
  item.expr.RebuildsSafely ↔ item.expr.BeginsWithWord
  := by
  have hleft : item.expr.leftAt ⟨0, 0, 0⟩ = item.expr := rfl
  have hadvance : ∀ w, Cursor.advance ⟨0, 0, 0⟩ w =
      ⟨w.tokens.length, w.ints.length, w.strings.length⟩ := by
    intro w
    simp only [Cursor.advance, Nat.zero_add]
  have hbounded : Cursor.Bounded ⟨0, 0, 0⟩ :=
    ⟨Nat.two_pow_pos 31, Nat.two_pow_pos 31, Nat.two_pow_pos 31⟩
  constructor
  · rintro ⟨e, c, h, -⟩
    have hreads := toExpr_eq_some_iff.mp h
    have hc := hreads.bounded hbounded
    obtain ⟨w, hw, rfl, hword⟩ := isWord_of_reads hreads hbounded
    rw [hleft] at hword
    rw [hadvance] at hc
    exact ⟨w, _, hw, hword, hc⟩
  · rintro ⟨w, r, hw, hword, hlen⟩
    obtain ⟨e, he⟩ := reads_of_isWord (c := ⟨0, 0, 0⟩) hw (hleft.trans hword) (by
      rw [hadvance]
      exact hlen)
    refine ⟨e, _, toExpr_eq_some_iff.mpr he, ?_⟩
    rcases eq_or_ne e .null with hnull | hnull
    · exact .inl hnull
    · exact .inr (Expression.isSome_eval hnull)

/-- A packet of 26 bytes with empty arrays. -/
def emptySearchPacket : List UInt8 :=
  [2, 0, 0x14, 9, 0, 0, 0, 26, 0, 0, 0, 1, 0, 0, 0, 0, 0, 0, 0, 0, 0, 0, 0, 0, 0, 0]

/-- A search with empty arrays is received, and the first token is read outside its array. -/
theorem not_rebuildsSafely_empty :
  ¬ ∀ (data : Memory) (pktsize : Nat) (item : RsTurtleRegExpSearchRequestItem),
    (RsTurtleRegExpSearchRequestItem.ofPacket data pktsize 0).value = some (some item) →
      item.expr.RebuildsSafely
  := by
  intro h
  have hitem : (RsTurtleRegExpSearchRequestItem.ofPacket
      (fun a => emptySearchPacket.getD a 0) 26 0).value =
        some (some ⟨1, 0, ⟨[], [], []⟩⟩) := by
    decide +kernel
  obtain ⟨e, c, hread, -⟩ := h _ _ _ hitem
  cases hread

end Search
