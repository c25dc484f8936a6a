import RetroShare.Serialiser.TlvBase

/-!
# Search expressions

The boolean search expressions of `rsexpr.h`: their classes, how they are evaluated on a file, how
they are flattened into the three arrays of a `LinearizedExpression`, and how they are read back.
An `int` is a word of 32 bits, and so are the values of the enumerations of operators, which are
cast from words that are received.
-/

namespace Search

/-- A `std::string`. -/
abbrev StdString := List UInt8

/-- An `int`, or what is stored of it in an array of `uint32_t`. -/
abbrev Int32 := BitVec 32

/-! ### Files and comparisons -/

/-- `FileEntry`, as far as expressions read it: the hash as the string it is compared as, and the
names of the directories above the file, the nearest first. -/
structure FileEntry where
  name : StdString
  hash : StdString
  size : Nat
  modtime : Int
  pop : Int32
  parents : List StdString

abbrev LogicalOperator := Int32

def andOp : LogicalOperator := 0

def orOp : LogicalOperator := 1

def xorOp : LogicalOperator := 2

abbrev StringOperator := Int32

def containsAnyStrings : StringOperator := 0

def containsAllStrings : StringOperator := 1

def equalsString : StringOperator := 2

abbrev RelOperator := Int32

def equals : RelOperator := 0

def greaterEquals : RelOperator := 1

def greater : RelOperator := 2

def smallerEquals : RelOperator := 3

def smaller : RelOperator := 4

def inRange : RelOperator := 5

/-- `evalRel`. -/
def evalRel (op : RelOperator) (lowerValue higherValue val : Int32) : Bool :=
  if op = equals then lowerValue = val
  else if op = greaterEquals then val.sle lowerValue
  else if op = greater then val.slt lowerValue
  else if op = smallerEquals then lowerValue.sle val
  else if op = smaller then lowerValue.slt val
  else if op = inRange then lowerValue.sle val && val.sle higherValue
  else false

/-- `tolower`. -/
def tolower (c : UInt8) : UInt8 := if 65 ≤ c ∧ c ≤ 90 then c + 32 else c

/-- The characters of a string are those of the start of another. -/
def startsWith (same : UInt8 → UInt8 → Bool) : StdString → StdString → Bool
  | _, [] => true
  | [], _ :: _ => false
  | c :: str, d :: prefix' => same c d && startsWith same str prefix'

/-- `std::search`: where a string starts in another, or the end of it. -/
def search (same : UInt8 → UInt8 → Bool) : StdString → StdString → Nat
  | [], _ => 0
  | c :: str1, str2 => if startsWith same (c :: str1) str2 then 0 else search same str1 str2 + 1

/-- `StrContains`. -/
def strContains (str1 str2 : StdString) (ignoreCase : Bool) : Bool :=
  search (fun c d => if ignoreCase then tolower c = tolower d else c = d) str1 str2 ≠ str1.length

/-- `StrEquals`.  What it finds when the case is ignored is dropped. -/
def strEquals (str1 str2 : StdString) (_ignoreCase : Bool) : Bool :=
  if str1.length ≠ str2.length then false else str1 = str2

/-- `evalStr`. -/
def evalStr (op : StringOperator) (terms : List StdString) (ignoreCase : Bool)
    (str : StdString) : Bool :=
  if op = containsAllStrings then terms.all fun term => strContains str term ignoreCase
  else if op = containsAnyStrings then terms.any fun term => strContains str term ignoreCase
  else if op = equalsString then terms.any fun term => strEquals str term ignoreCase
  else false

/-- The character `.`. -/
def dot : UInt8 := 46

/-- The character `/`. -/
def slash : UInt8 := 47

/-- What `ExtExpression` compares: the part of the name after its last dot, unless it is empty. -/
def FileEntry.ext (file : FileEntry) : Option StdString :=
  if dot ∈ file.name then
    let ext := (file.name.reverse.takeWhile fun c => c ≠ dot).reverse
    if ext = [] then none else some ext
  else none

/-- What `PathExpression` compares. -/
def FileEntry.path (file : FileEntry) : StdString :=
  file.parents.foldl (fun path name => name ++ slash :: path) []

/-! ### Expressions -/

/-- A pointer to an `Expression`. -/
inductive Expression
  | null
  | date (op : RelOperator) (lowerValue higherValue : Int32)
  | pop (op : RelOperator) (lowerValue higherValue : Int32)
  | size (op : RelOperator) (lowerValue higherValue : Int32)
  | sizeMB (op : RelOperator) (lowerValue higherValue : Int32)
  | hash (op : StringOperator) (terms : List StdString)
  | name (op : StringOperator) (terms : List StdString) (ignoreCase : Bool)
  | path (op : StringOperator) (terms : List StdString) (ignoreCase : Bool)
  | ext (op : StringOperator) (terms : List StdString) (ignoreCase : Bool)
  | compound (op : LogicalOperator) (lexp rexp : Expression)
  deriving DecidableEq

namespace Expression

/-- `eval`; without value when `NULL` is dereferenced. -/
def eval (file : FileEntry) : Expression → Option Bool
  | null => none
  | date op lv hv => some (evalRel op lv hv (BitVec.ofInt 32 file.modtime))
  | pop op lv hv => some (evalRel op lv hv file.pop)
  | size op lv hv => some (evalRel op lv hv (BitVec.ofNat 32 file.size))
  | sizeMB op lv hv => some (evalRel op lv hv (BitVec.ofNat 32 (file.size / (1024 * 1024))))
  | hash op terms => some (evalStr op terms true file.hash)
  | name op terms ic => some (evalStr op terms ic file.name)
  | path op terms ic => some (evalStr op terms ic file.path)
  | ext op terms ic =>
      match file.ext with
      | some part => some (evalStr op terms ic part)
      | none => some false
  | compound op lexp rexp =>
      if lexp = null ∨ rexp = null then some false
      else if op = andOp then do
        if ← lexp.eval file then rexp.eval file else some false
      else if op = orOp then do
        if ← lexp.eval file then some true else rexp.eval file
      else if op = xorOp then do
        let l ← lexp.eval file
        let r ← rexp.eval file
        some (xor l r)
      else some false

/-- A tree without `NULL`. -/
def IsTree : Expression → Prop
  | null => False
  | compound _ lexp rexp => lexp.IsTree ∧ rexp.IsTree
  | _ => True

end Expression

/-! ### Linearisation -/

/-- `LinearizedExpression`. -/
structure LinearizedExpression where
  tokens : List UInt8
  ints : List Int32
  strings : List StdString
  deriving DecidableEq

namespace LinearizedExpression

def exprDate : UInt8 := 0

def exprPop : UInt8 := 1

def exprSize : UInt8 := 2

def exprHash : UInt8 := 3

def exprName : UInt8 := 4

def exprPath : UInt8 := 5

def exprExt : UInt8 := 6

def exprComp : UInt8 := 7

def exprSizeMB : UInt8 := 8

/-- `_tokens.push_back`. -/
def pushToken (e : LinearizedExpression) (tok : UInt8) : LinearizedExpression :=
  { e with tokens := e.tokens ++ [tok] }

/-- `_ints.push_back`, several times. -/
def pushInts (e : LinearizedExpression) (is : List Int32) : LinearizedExpression :=
  { e with ints := e.ints ++ is }

/-- `_strings.push_back`, several times. -/
def pushStrings (e : LinearizedExpression) (ss : List StdString) : LinearizedExpression :=
  { e with strings := e.strings ++ ss }

end LinearizedExpression

/-- A `bool` as an `int`. -/
def boolInt (b : Bool) : Int32 := if b then 1 else 0

/-- `RelExpression<int>::linearize`. -/
def linearizeRel (op : RelOperator) (lv hv : Int32) (e : LinearizedExpression) :
    LinearizedExpression :=
  e.pushInts [op, lv, hv]

/-- `StringExpression::linearize`. -/
def linearizeString (op : StringOperator) (terms : List StdString) (ic : Bool)
    (e : LinearizedExpression) : LinearizedExpression :=
  (e.pushInts [op, boolInt ic, BitVec.ofNat 32 terms.length]).pushStrings terms

open LinearizedExpression in
/-- `linearize`; without value when `NULL` is dereferenced. -/
def Expression.linearize : Expression → LinearizedExpression → Option LinearizedExpression
  | null, _ => none
  | date op lv hv, e => some (linearizeRel op lv hv (e.pushToken exprDate))
  | pop op lv hv, e => some (linearizeRel op lv hv (e.pushToken exprPop))
  | size op lv hv, e => some (linearizeRel op lv hv (e.pushToken exprSize))
  | sizeMB op lv hv, e => some (linearizeRel op lv hv (e.pushToken exprSizeMB))
  | hash op terms, e => some (linearizeString op terms true (e.pushToken exprHash))
  | name op terms ic, e => some (linearizeString op terms ic (e.pushToken exprName))
  | path op terms ic, e => some (linearizeString op terms ic (e.pushToken exprPath))
  | ext op terms ic, e => some (linearizeString op terms ic (e.pushToken exprExt))
  | compound op lexp rexp, e => do
      let e ← lexp.linearize ((e.pushToken exprComp).pushInts [op])
      rexp.linearize e

/-! ### Reading an expression back -/

/-- The three running indices `n_tok`, `n_ints` and `n_strings`. -/
structure Cursor where
  tok : Nat
  ints : Nat
  strings : Nat
  deriving DecidableEq

/-- `v[n++]`, where `n` is an `int`; without value when `n` is not below the size of the vector, or
overflows. -/
def readAt {α : Type} (v : List α) (n : Nat) : Option (α × Nat) :=
  if n + 1 < 2 ^ 31 then (v[n]?).map fun a => (a, n + 1) else none

/-- As many strings as a loop reads, one after the other. -/
def readStrings (v : List StdString) : Nat → Nat → Option (List StdString × Nat)
  | 0, n => some ([], n)
  | count + 1, n => do
      let (s, n) ← readAt v n
      let (ss, n) ← readStrings v count n
      some (s :: ss, n)

namespace LinearizedExpression

variable (e : LinearizedExpression)

/-- The operator and the two values of a relational expression, in `toExpr`. -/
def readRel (c : Cursor) : Option ((RelOperator × Int32 × Int32) × Cursor) := do
  let (op, n) ← readAt e.ints c.ints
  let (lv, n) ← readAt e.ints n
  let (hv, n) ← readAt e.ints n
  some ((op, lv, hv), { c with ints := n })

/-- `readStringExpr`.  The number of strings is an `int`: none is read when it is negative. -/
def readStringExpr (c : Cursor) :
    Option ((StringOperator × List StdString × Bool) × Cursor) := do
  let (op, n) ← readAt e.ints c.ints
  let (b, n) ← readAt e.ints n
  let (count, n) ← readAt e.ints n
  let (strings, m) ← readStrings e.strings count.toInt.toNat c.strings
  some ((op, strings, b ≠ 0), { c with ints := n, strings := m })

/-- The recursive `toExpr`; without value when it reads outside an array.  Every call reads a token,
so that a bound on the depth of the calls that is at least the number of tokens left is never
met. -/
def toExprFrom : Nat → Cursor → Option (Expression × Cursor)
  | 0, _ => none
  | fuel + 1, c => do
      let (tok, n) ← readAt e.tokens c.tok
      let c := { c with tok := n }
      if tok = exprDate then do
        let ((op, lv, hv), c) ← e.readRel c
        some (.date op lv hv, c)
      else if tok = exprPop then do
        let ((op, lv, hv), c) ← e.readRel c
        some (.pop op lv hv, c)
      else if tok = exprSize then do
        let ((op, lv, hv), c) ← e.readRel c
        some (.size op lv hv, c)
      else if tok = exprHash then do
        let ((op, strings, _), c) ← e.readStringExpr c
        some (.hash op strings, c)
      else if tok = exprName then do
        let ((op, strings, b), c) ← e.readStringExpr c
        some (.name op strings b, c)
      else if tok = exprPath then do
        let ((op, strings, b), c) ← e.readStringExpr c
        some (.ext op strings b, c)
      else if tok = exprExt then do
        let ((op, strings, b), c) ← e.readStringExpr c
        some (.ext op strings b, c)
      else if tok = exprComp then do
        let (op, n) ← readAt e.ints c.ints
        let (e1, c) ← toExprFrom fuel { c with ints := n }
        let (e2, c) ← toExprFrom fuel c
        some (.compound op e1 e2, c)
      else if tok = exprSizeMB then do
        let ((op, lv, hv), c) ← e.readRel c
        some (.sizeMB op lv hv, c)
      -- no expression matches the current value
      else some (.null, c)

/-- `toExpr`, with the indices that it reaches. -/
def toExpr : Option (Expression × Cursor) := e.toExprFrom e.tokens.length ⟨0, 0, 0⟩

end LinearizedExpression

end Search
