import RetroShare.Search.Reads

/-!
# What becomes of a linearised expression

Reading back what `linearize` wrote gives the expression in which every test of the path of a file
is a test of its extension: the reader makes an `ExtExpression` of both.  We say exactly which
expressions survive.
-/

namespace Search

open LinearizedExpression

/-! ### What an expression appends -/

/-- The arrays of one expression after those of another. -/
def LinearizedExpression.append (e e' : LinearizedExpression) : LinearizedExpression :=
  ⟨e.tokens ++ e'.tokens, e.ints ++ e'.ints, e.strings ++ e'.strings⟩

namespace Expression

/-- The tokens, integers and strings of an expression, in prefix order. -/
def flat : Expression → LinearizedExpression
  | null => ⟨[], [], []⟩
  | date op lv hv => ⟨[exprDate], [op, lv, hv], []⟩
  | pop op lv hv => ⟨[exprPop], [op, lv, hv], []⟩
  | size op lv hv => ⟨[exprSize], [op, lv, hv], []⟩
  | sizeMB op lv hv => ⟨[exprSizeMB], [op, lv, hv], []⟩
  | hash op terms => ⟨[exprHash], [op, boolInt true, BitVec.ofNat 32 terms.length], terms⟩
  | name op terms ic => ⟨[exprName], [op, boolInt ic, BitVec.ofNat 32 terms.length], terms⟩
  | path op terms ic => ⟨[exprPath], [op, boolInt ic, BitVec.ofNat 32 terms.length], terms⟩
  | ext op terms ic => ⟨[exprExt], [op, boolInt ic, BitVec.ofNat 32 terms.length], terms⟩
  | compound op lexp rexp =>
      ⟨exprComp :: (lexp.flat.tokens ++ rexp.flat.tokens),
        op :: (lexp.flat.ints ++ rexp.flat.ints), lexp.flat.strings ++ rexp.flat.strings⟩

/-- Every test of a path becomes the test of an extension. -/
def pathsAsExts : Expression → Expression
  | path op terms ic => ext op terms ic
  | compound op lexp rexp => compound op lexp.pathsAsExts rexp.pathsAsExts
  | e => e

theorem linearize_eq :
  ∀ {e : Expression}, e.IsTree → ∀ l, e.linearize l = some (l.append e.flat)
  | date _ _ _, _, l => by
      simp [linearize, linearizeRel, pushToken, pushInts, flat, append]
  | pop _ _ _, _, l => by
      simp [linearize, linearizeRel, pushToken, pushInts, flat, append]
  | size _ _ _, _, l => by
      simp [linearize, linearizeRel, pushToken, pushInts, flat, append]
  | sizeMB _ _ _, _, l => by
      simp [linearize, linearizeRel, pushToken, pushInts, flat, append]
  | hash _ _, _, l => by
      simp [linearize, linearizeString, pushToken, pushInts, pushStrings, flat, append]
  | name _ _ _, _, l => by
      simp [linearize, linearizeString, pushToken, pushInts, pushStrings, flat, append]
  | path _ _ _, _, l => by
      simp [linearize, linearizeString, pushToken, pushInts, pushStrings, flat, append]
  | ext _ _ _, _, l => by
      simp [linearize, linearizeString, pushToken, pushInts, pushStrings, flat, append]
  | compound op lexp rexp, ⟨hl, hr⟩, l => by
      rw [linearize, linearize_eq hl, Option.bind_eq_bind, Option.bind_some, linearize_eq hr]
      simp [pushToken, pushInts, flat, append]

end Expression

/-! ### The reader follows the writer -/

variable {l : LinearizedExpression} {c : Cursor} {is : List Int32} {op : Int32} {e : Expression}
  {terms ss : List StdString}

theorem readRel_of_drop {lv hv : Int32} (h : l.ints.drop c.ints = op :: lv :: hv :: is)
    (hn : c.ints + 3 < 2 ^ 31) :
  l.readRel c = some ((op, lv, hv), { c with ints := c.ints + 3 })
  := by
  have h' := drop_succ_of_drop h
  have hop := readAt_of_drop h (by omega)
  have hlv := readAt_of_drop h' (by omega)
  have hhv := readAt_of_drop (drop_succ_of_drop h') (by omega)
  simp only [readRel, hop, hlv, hhv, Option.bind_eq_bind, Option.bind_some]

theorem readStringExpr_of_count {b count : Int32}
    (hints : l.ints.drop c.ints = op :: b :: count :: is)
    (hstrings : l.strings.drop c.strings = terms ++ ss) (hcount : terms.length = count.toInt.toNat)
    (hn : c.ints + 3 < 2 ^ 31) (hm : c.strings + terms.length < 2 ^ 31) :
  l.readStringExpr c = some ((op, terms, decide (b ≠ 0)),
    { c with ints := c.ints + 3, strings := c.strings + terms.length })
  := by
  have h' := drop_succ_of_drop hints
  have hop := readAt_of_drop hints (by omega)
  have hb := readAt_of_drop h' (by omega)
  have hread := readAt_of_drop (drop_succ_of_drop h') (by omega)
  have hterms : readStrings l.strings count.toInt.toNat c.strings =
      some (terms, c.strings + terms.length) :=
    (readStrings_eq_some_iff (by omega)).mpr ⟨hm, by rw [hcount], hcount, ss, hstrings⟩
  simp only [readStringExpr, hop, hb, hread, hterms, Option.bind_eq_bind, Option.bind_some]

theorem readStringExpr_of_drop {b : Bool}
    (hints : l.ints.drop c.ints = op :: boolInt b :: BitVec.ofNat 32 terms.length :: is)
    (hstrings : l.strings.drop c.strings = terms ++ ss) (hn : c.ints + 3 < 2 ^ 31)
    (hm : c.strings + terms.length < 2 ^ 31) :
  l.readStringExpr c = some ((op, terms, b),
    { c with ints := c.ints + 3, strings := c.strings + terms.length })
  := by
  have hcount : terms.length = (BitVec.ofNat 32 terms.length).toInt.toNat := by
    have hmod : terms.length % 2 ^ 32 = terms.length := Nat.mod_eq_of_lt (by omega)
    rw [BitVec.toInt_eq_toNat_cond, BitVec.toNat_ofNat, hmod, if_pos (by omega), Int.toNat_natCast]
  have hbool : decide (boolInt b ≠ 0) = b := by cases b <;> rfl
  rw [readStringExpr_of_count hints hstrings hcount hn hm, hbool]

theorem reads_of_flat :
  ∀ {c : Cursor} {ts : List UInt8} {is : List Int32} {ss : List StdString}, e.IsTree →
    l.tokens.drop c.tok = e.flat.tokens ++ ts → l.ints.drop c.ints = e.flat.ints ++ is →
    l.strings.drop c.strings = e.flat.strings ++ ss →
    c.tok + e.flat.tokens.length < 2 ^ 31 → c.ints + e.flat.ints.length < 2 ^ 31 →
    c.strings + e.flat.strings.length < 2 ^ 31 →
    Reads l c e.pathsAsExts
      ⟨c.tok + e.flat.tokens.length, c.ints + e.flat.ints.length,
        c.strings + e.flat.strings.length⟩
  := by
  induction e with
  | null => exact fun h => h.elim
  | compound op lexp rexp ihl ihr =>
    rintro c ts is ss ⟨hl, hr⟩ htok hints hstrings hntok hnints hnstrings
    simp only [Expression.flat, List.length_cons, List.length_append, List.cons_append,
      List.append_assoc] at htok hints hstrings hntok hnints hnstrings
    have htok' := drop_succ_of_drop htok
    have hints' := drop_succ_of_drop hints
    have hlexp := ihl (c := ⟨c.tok + 1, c.ints + 1, c.strings⟩) hl htok' hints' hstrings
      (by simp only; omega) (by simp only; omega) (by simp only; omega)
    have hrexp := ihr (c := ⟨c.tok + 1 + lexp.flat.tokens.length,
        c.ints + 1 + lexp.flat.ints.length, c.strings + lexp.flat.strings.length⟩) hr
      (drop_add_of_drop htok') (drop_add_of_drop hints') (drop_add_of_drop hstrings)
      (by simp only; omega) (by simp only; omega) (by simp only; omega)
    have hcomp := Reads.comp (readAt_of_drop htok (by omega)) (readAt_of_drop hints (by omega))
      hlexp hrexp
    have hcursor : (⟨c.tok + (Expression.compound op lexp rexp).flat.tokens.length,
        c.ints + (Expression.compound op lexp rexp).flat.ints.length,
        c.strings + (Expression.compound op lexp rexp).flat.strings.length⟩ : Cursor) =
        ⟨c.tok + 1 + lexp.flat.tokens.length + rexp.flat.tokens.length,
          c.ints + 1 + lexp.flat.ints.length + rexp.flat.ints.length,
          c.strings + lexp.flat.strings.length + rexp.flat.strings.length⟩ := by
      simp only [Expression.flat, List.length_cons, List.length_append, Cursor.mk.injEq]
      omega
    rw [hcursor]
    exact hcomp
  | date op lv hv | pop op lv hv | size op lv hv | sizeMB op lv hv =>
    rintro c ts is ss - htok hints - hntok hnints -
    exact .rel (readAt_of_drop htok hntok) rfl (readRel_of_drop hints hnints)
  | hash op terms =>
    rintro c ts is ss - htok hints hstrings hntok hnints hnstrings
    have hmk : stringClass exprHash = some fun op terms _ => .hash op terms := rfl
    have hstring := Reads.string (readAt_of_drop htok hntok) hmk
      (readStringExpr_of_drop hints hstrings hnints hnstrings)
    exact hstring
  | name op terms ic | path op terms ic | ext op terms ic =>
    rintro c ts is ss - htok hints hstrings hntok hnints hnstrings
    exact .string (readAt_of_drop htok hntok) rfl
      (readStringExpr_of_drop hints hstrings hnints hnstrings)

/-! ### Bounds -/

/-- The indices that the reader reaches are below the bound. -/
def Cursor.Bounded (c : Cursor) : Prop := c.tok < 2 ^ 31 ∧ c.ints < 2 ^ 31 ∧ c.strings < 2 ^ 31

theorem Reads.bounded {c' : Cursor} (h : Reads l c e c') (hc : c.Bounded) :
  c'.Bounded
  := by
  induction h with
  | rel htok _ hrel =>
    obtain ⟨⟨op, n⟩, -, hrel⟩ := Option.bind_eq_some_iff.mp hrel
    obtain ⟨⟨lv, n⟩, -, hrel⟩ := Option.bind_eq_some_iff.mp hrel
    obtain ⟨⟨hv, n⟩, hread, hrel⟩ := Option.bind_eq_some_iff.mp hrel
    cases hrel
    exact ⟨(readAt_eq_some_iff.mp htok).1, (readAt_eq_some_iff.mp hread).1, hc.2.2⟩
  | string htok _ hstring =>
    obtain ⟨⟨op, n⟩, -, hstring⟩ := Option.bind_eq_some_iff.mp hstring
    obtain ⟨⟨b, n⟩, -, hstring⟩ := Option.bind_eq_some_iff.mp hstring
    obtain ⟨⟨count, n⟩, hread, hstring⟩ := Option.bind_eq_some_iff.mp hstring
    obtain ⟨⟨ss, m⟩, hstrings, hstring⟩ := Option.bind_eq_some_iff.mp hstring
    cases hstring
    exact ⟨(readAt_eq_some_iff.mp htok).1, (readAt_eq_some_iff.mp hread).1,
      ((readStrings_eq_some_iff hc.2.2).mp hstrings).1⟩
  | comp htok hop _ _ ih1 ih2 =>
    exact ih2 (ih1 ⟨(readAt_eq_some_iff.mp htok).1, (readAt_eq_some_iff.mp hop).1, hc.2.2⟩)
  | other htok _ => exact ⟨(readAt_eq_some_iff.mp htok).1, hc.2⟩

/-! ### What survives -/

/-- The reader consumes all tokens, integers and strings of a linearised expression and returns an
expression that evaluates like it on every file. -/
def Expression.Survives (e : Expression) : Prop :=
  ∃ l e', e.linearize ⟨[], [], []⟩ = some l ∧
    l.toExpr = some (e', ⟨l.tokens.length, l.ints.length, l.strings.length⟩) ∧
      ∀ file, e'.eval file = e.eval file

/-- The arrays of an expression are so short that all their indices are of type `int`. -/
def Expression.Fits (e : Expression) : Prop :=
  e.flat.tokens.length < 2 ^ 31 ∧ e.flat.ints.length < 2 ^ 31 ∧ e.flat.strings.length < 2 ^ 31

/-- Reading back gives the expression with the tests of paths turned into tests of extensions. -/
theorem toExpr_flat (h : e.IsTree) (hfits : e.Fits) :
  e.flat.toExpr = some (e.pathsAsExts,
    ⟨e.flat.tokens.length, e.flat.ints.length, e.flat.strings.length⟩)
  := by
  rw [toExpr_eq_some_iff]
  have hreads := @reads_of_flat e.flat e ⟨0, 0, 0⟩ [] [] [] h (by simp) (by simp) (by simp)
  simp only [Nat.zero_add] at hreads
  exact hreads hfits.1 hfits.2.1 hfits.2.2

/-- An expression survives exactly when its indices are of type `int` and it does not matter on any
file whether its path tests look at the path or at the extension. -/
theorem survives_iff {e : Expression} (h : e.IsTree) :
  e.Survives ↔ e.Fits ∧ ∀ file, e.pathsAsExts.eval file = e.eval file
  := by
  have hflat : e.linearize ⟨[], [], []⟩ = some e.flat := by
    rw [Expression.linearize_eq h]
    simp [LinearizedExpression.append]
  constructor
  · rintro ⟨l, e', hl, hread, heval⟩
    rw [hflat, Option.some.injEq] at hl
    subst hl
    have hfits : e.Fits := (toExpr_eq_some_iff.mp hread).bounded
      ⟨Nat.two_pow_pos 31, Nat.two_pow_pos 31, Nat.two_pow_pos 31⟩
    refine ⟨hfits, ?_⟩
    rw [toExpr_flat h hfits, Option.some.injEq, Prod.mk.injEq] at hread
    rw [hread.1]
    exact heval
  · rintro ⟨hfits, heval⟩
    exact ⟨e.flat, e.pathsAsExts, hflat, toExpr_flat h hfits, heval⟩

/-- Tests of names and sizes, joined. -/
theorem survives_iff_compound :
  (Expression.compound andOp (.name containsAllStrings [[97]] true) (.sizeMB greater 5 5)).Survives ↔
    (Expression.compound andOp (.name containsAllStrings [[97]] true) (.sizeMB greater 5 5)).Fits ∧
      ∀ file, (Expression.pathsAsExts (.compound andOp (.name containsAllStrings [[97]] true)
        (.sizeMB greater 5 5))).eval file =
          (Expression.compound andOp (.name containsAllStrings [[97]] true)
            (.sizeMB greater 5 5)).eval file
  := survives_iff ⟨trivial, trivial⟩

/-- The file `b` in the directory `a`. -/
def fileInA : FileEntry := ⟨[98], [], 0, 0, 0, [[97]]⟩

/-- A search for `a` in paths is read back as a search for `a` in extensions. -/
theorem not_survives_path :
  ¬ ∀ e : Expression, e.IsTree → e.Survives
  := by
  intro h
  obtain ⟨l, e', hl, hread, heval⟩ := h (.path containsAnyStrings [[97]] false) trivial
  have hl' : l = ⟨[exprPath], [0, 0, 1], [[97]]⟩ := by
    exact (Option.some.inj hl).symm
  subst hl'
  have hread' : (LinearizedExpression.mk [exprPath] [0, 0, 1] [[97]]).toExpr =
      some (.ext containsAnyStrings [[97]] false, ⟨1, 3, 1⟩) := by decide +kernel
  rw [hread', Option.some.injEq, Prod.mk.injEq] at hread
  have hfile := heval fileInA
  rw [← hread.1] at hfile
  exact absurd hfile (by decide +kernel)

end Search
