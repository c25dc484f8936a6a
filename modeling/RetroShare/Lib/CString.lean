import Mathlib.Algebra.Order.Ring.Nat
import Mathlib.Data.List.Basic
import Mathlib.Data.List.TakeWhile

/-!
# Text in buffers

What `snprintf`, `strlen`, `memcpy` and `strtoll` of the C library do to a buffer and to the text in
it.  A buffer is the list of its bytes; there is no result where a function leaves the buffer.
`Puts` says what has been put into a buffer, and `Puts.append` puts texts one after the other;
`strtoll_decimalInt` reads a number that has been printed.
-/

namespace CString

/-! ### Numbers in text -/

/-- `isspace`. -/
def isSpace (b : UInt8) : Bool := b = 32 || (9 ≤ b && b ≤ 13)

/-- `isdigit`. -/
def isDigit (b : UInt8) : Bool := 48 ≤ b && b ≤ 57

/-- The digits of a number. -/
def decimal (n : Nat) : List UInt8 := (Nat.toDigits 10 n).map Char.toUInt8

/-- A number as `%i` and `%lli` print it. -/
def decimalInt (i : Int) : List UInt8 :=
  if i < 0 then '-'.toUInt8 :: decimal i.natAbs else decimal i.natAbs

/-- The number that some digits stand for. -/
def digitsValue (digits : List UInt8) : Nat := digits.foldl (fun n b => 10 * n + (b.toNat - 48)) 0

/-- The sign in front of a number, and what comes after it. -/
def takeSign : List UInt8 → Bool × List UInt8
  | 45 :: rest => (true, rest)
  | 43 :: rest => (false, rest)
  | rest => (false, rest)

/-- `strtoll` to the base ten: the number, and what comes after it. -/
def strtoll (data : List UInt8) : Option (Int × List UInt8) :=
  let signed := takeSign (data.dropWhile isSpace)
  let digits := signed.2.takeWhile isDigit
  let rest := signed.2.dropWhile isDigit
  if rest = [] then none
  else if digits = [] then some (0, data)
  else
    let value : Int := if signed.1 then -digitsValue digits else digitsValue digits
    some (max (-2 ^ 63) (min value (2 ^ 63 - 1)), rest)

theorem toNat_toUInt8 {c : Char} (hc : c.isDigit) :
  c.toUInt8.toNat = c.toNat ∧ 48 ≤ c.toNat ∧ c.toNat ≤ 57
  := by
  rw [Char.isDigit, Bool.and_eq_true, decide_eq_true_eq, decide_eq_true_eq] at hc
  have hlow : 48 ≤ c.toNat := hc.1
  have hhigh : c.toNat ≤ 57 := hc.2
  refine ⟨?_, hlow, hhigh⟩
  change c.toNat % 2 ^ 8 = c.toNat
  omega

theorem isDigit_of_mem_decimal {n : Nat} {b : UInt8} (h : b ∈ decimal n) :
  isDigit b
  := by
  obtain ⟨c, hc, rfl⟩ := List.mem_map.mp h
  obtain ⟨hnat, hlow, hhigh⟩ :=
    toNat_toUInt8 (Nat.isDigit_of_mem_toDigits (by decide) (by decide) hc)
  rw [isDigit, Bool.and_eq_true, decide_eq_true_eq, decide_eq_true_eq, UInt8.le_iff_toNat_le,
    UInt8.le_iff_toNat_le, hnat]
  exact ⟨hlow, hhigh⟩

variable (n : Nat) {b : UInt8} {str bytes : List UInt8} {off : Nat}

theorem decimal_ne_nil :
  decimal n ≠ []
  := by
  rw [decimal, ne_eq, List.map_eq_nil_iff]
  exact Nat.toDigits_ne_nil

theorem digitsValue_decimal :
  digitsValue (decimal n) = n
  := by
  rw [digitsValue, decimal, List.foldl_map]
  conv_rhs => rw [← @Nat.ofDigitChars_ten_toDigits n, Nat.ofDigitChars_eq_foldl]
  apply List.foldl_ext
  intro m c hc
  rw [(toNat_toUInt8 (Nat.isDigit_of_mem_toDigits (by decide) (by decide) hc)).1]
  rfl

theorem isDigit_iff :
  isDigit b ↔ 48 ≤ b.toNat ∧ b.toNat ≤ 57
  := by
  rw [isDigit, Bool.and_eq_true, decide_eq_true_eq, decide_eq_true_eq, UInt8.le_iff_toNat_le,
    UInt8.le_iff_toNat_le]
  rfl

theorem isSpace_of_isDigit (h : isDigit b) :
  isSpace b = false
  := by
  rw [isDigit_iff] at h
  rw [isSpace, Bool.or_eq_false_iff, decide_eq_false_iff_not, ← UInt8.toNat_inj,
    Bool.and_eq_false_iff, decide_eq_false_iff_not, decide_eq_false_iff_not,
    UInt8.le_iff_toNat_le, UInt8.le_iff_toNat_le]
  change ¬ b.toNat = 32 ∧ (¬ 9 ≤ b.toNat ∨ ¬ b.toNat ≤ 13)
  omega

theorem takeSign_of_isDigit (h : isDigit b) (rest : List UInt8) :
  takeSign (b :: rest) = (false, b :: rest)
  := by
  rw [takeSign.eq_def]
  split
  case h_1 heq =>
    obtain ⟨rfl, -⟩ := List.cons.inj heq
    exact absurd h (by decide)
  case h_2 heq =>
    obtain ⟨rfl, -⟩ := List.cons.inj heq
    exact absurd h (by decide)
  case h_3 => rfl

/-- The digits in front of something else. -/
theorem span_decimal (hb : isDigit b = false) (rest : List UInt8) :
  (decimal n ++ b :: rest).takeWhile isDigit = decimal n ∧
    (decimal n ++ b :: rest).dropWhile isDigit = b :: rest
  := by
  have hall : ∀ a ∈ decimal n, isDigit a := fun a ha => isDigit_of_mem_decimal ha
  constructor
  · rw [List.takeWhile_append_of_pos hall, List.takeWhile_cons_of_neg (by rw [hb]; decide),
      List.append_nil]
  · rw [List.dropWhile_append_of_pos hall, List.dropWhile_cons_of_neg (by rw [hb]; decide)]

theorem takeSign_decimalInt (i : Int) (rest : List UInt8) :
  takeSign ((decimalInt i ++ rest).dropWhile isSpace) =
    (decide (i < 0), decimal i.natAbs ++ rest)
  := by
  rw [decimalInt]
  split
  case isTrue hneg =>
    rw [List.cons_append, List.dropWhile_cons_of_neg (by decide), decide_eq_true hneg]
    rfl
  case isFalse hpos =>
    obtain ⟨b, digits, heq⟩ := List.exists_cons_of_ne_nil (decimal_ne_nil i.natAbs)
    have hdigit : isDigit b := by
      apply @isDigit_of_mem_decimal i.natAbs
      rw [heq]
      exact List.mem_cons_self
    rw [heq, List.cons_append,
      List.dropWhile_cons_of_neg (by rw [isSpace_of_isDigit hdigit]; decide),
      takeSign_of_isDigit hdigit, decide_eq_false hpos]

/-- A number that is printed is read back, up to what comes after it. -/
theorem strtoll_decimalInt {i : Int} (hmin : -2 ^ 63 ≤ i) (hmax : i < 2 ^ 63)
    (hb : isDigit b = false) (rest : List UInt8) :
  strtoll (decimalInt i ++ b :: rest) = some (i, b :: rest)
  := by
  obtain ⟨htake, hdrop⟩ := span_decimal i.natAbs hb rest
  have hvalue : (if decide (i < 0) = true then -(i.natAbs : Int) else (i.natAbs : Int)) = i := by
    split
    case isTrue hneg =>
      have := of_decide_eq_true hneg
      omega
    case isFalse hpos =>
      rw [decide_eq_true_eq] at hpos
      omega
  rw [strtoll, takeSign_decimalInt]
  dsimp only
  rw [htake, hdrop, if_neg (List.cons_ne_nil _ _), if_neg (decimal_ne_nil _), digitsValue_decimal,
    hvalue, min_eq_left (by omega), max_eq_right hmin]

theorem decimalInt_natCast :
  decimalInt n = decimal n
  := by
  rw [decimalInt, if_neg (by omega), Int.natAbs_natCast]

/-! ### Buffers -/

/-- The buffer with some bytes at an offset. -/
def write (str : List UInt8) (off : Nat) (bytes : List UInt8) : List UInt8 :=
  str.take off ++ bytes ++ str.drop (off + bytes.length)

/-- `snprintf` of a text at an offset, into what is left of the buffer: as much of the text as
fits, and a null byte. -/
def snprintf (str : List UInt8) (off : Nat) (text : List UInt8) : Option (List UInt8) :=
  if str.length < off then none
  else if str.length = off then some str
  else some (write str off (text.take (str.length - off - 1) ++ [0]))

/-- `memcpy` to an offset. -/
def memcpy (str : List UInt8) (off : Nat) (bytes : List UInt8) : Option (List UInt8) :=
  if str.length < off + bytes.length then none else some (write str off bytes)

/-- `strlen` from an offset on. -/
def strlen (str : List UInt8) (off : Nat) : Option Nat := (str.drop off).findIdx? (· = 0)

/-- The text of a string that ends at its first null byte. -/
def cString (s : List UInt8) : List UInt8 := s.takeWhile (· ≠ 0)

theorem cString_of_notMem {s : List UInt8} (h : 0 ∉ s) :
  cString s = s
  := by
  rw [cString, List.takeWhile_eq_self_iff]
  intro b hb
  apply decide_eq_true
  rintro rfl
  exact h hb

/-- A buffer after some bytes have been put at an offset; what comes after them is not known. -/
def Puts (str : List UInt8) (off : Nat) (bytes str' : List UInt8) : Prop :=
  str'.length = str.length ∧ str'.take (off + bytes.length) = str.take off ++ bytes

theorem Puts.nil (str : List UInt8) (off : Nat) :
  Puts str off [] str
  := ⟨rfl, (List.append_nil _).symm⟩

/-- Bytes that are put one after the other. -/
theorem Puts.append {str' str'' bytes' : List UInt8} (h : Puts str off bytes str')
    (h' : Puts str' (off + bytes.length) bytes' str'') :
  Puts str off (bytes ++ bytes') str''
  := by
  refine ⟨h'.1.trans h.1, ?_⟩
  rw [List.length_append, ← Nat.add_assoc, h'.2, h.2, List.append_assoc]

theorem length_write (h : off + bytes.length ≤ str.length) :
  (write str off bytes).length = str.length
  := by
  rw [write, List.length_append, List.length_append, List.length_take, List.length_drop]
  omega

theorem memcpy_of_room (h : off + bytes.length ≤ str.length) :
  ∃ str', memcpy str off bytes = some str' ∧ Puts str off bytes str'
  := by
  refine ⟨_, if_neg (by omega), length_write h, ?_⟩
  have hlength : (str.take off ++ bytes).length = off + bytes.length := by
    rw [List.length_append, List.length_take]
    omega
  rw [write, List.take_left' hlength]

/-- A text for which there is room is printed, and `strlen` finds its end. -/
theorem snprintf_of_room {text : List UInt8} (h : off + text.length < str.length) :
  ∃ str', snprintf str off text = some str' ∧ Puts str off text str' ∧
    (0 ∉ text → strlen str' off = some text.length)
  := by
  have htext : text.take (str.length - off - 1) = text := List.take_of_length_le (by omega)
  have hsnprintf : snprintf str off text = some (write str off (text ++ [0])) := by
    rw [snprintf, if_neg (by omega), if_neg (by omega), htext]
  have hlength : (text ++ [(0 : UInt8)]).length = text.length + 1 := List.length_append
  refine ⟨_, hsnprintf, ⟨length_write (by omega), ?_⟩, ?_⟩
  · have hlength' : (str.take off ++ text).length = off + text.length := by
      rw [List.length_append, List.length_take]
      omega
    rw [write, ← List.append_assoc, List.append_assoc (str.take off ++ text),
      List.take_left' hlength']
  · intro hnone
    have htake : (str.take off).length = off := by
      rw [List.length_take]
      omega
    rw [strlen, write, List.append_assoc, List.append_assoc, List.drop_left' htake,
      List.findIdx?_append, List.findIdx?_eq_none_iff.mpr]
    · rw [List.singleton_append, List.findIdx?_cons, decide_eq_true rfl, if_pos rfl,
        Option.map_some, Nat.zero_add]
      rfl
    · intro b hb
      apply decide_eq_false
      rintro rfl
      exact hnone hb

end CString
