import Mathlib.Data.Bool.AllAny
import RetroShare.Lib.Sextets

/-!
# Radix 64

`Radix64::encode` writes bytes as letters, six bits a letter, and pads the last group of four with
`=`; `Radix64::decode` reads them again.  `char` is signed, and a `char` that becomes an `int` is a
`BitVec 32` here.  There is no result where the code would look outside of its table of letters, or
where a length does not fit an `int`.

A text that has been spread over lines and columns is still decoded (`decode_spread`).  A
character that is no letter is not passed over: the table marks it with `255`, which becomes `-1` in
a `char` and is never found again, so that the character counts as a `/` (`skipsForeign_iff`).
-/

namespace Radix64

open Sextets

/-! ### The tables -/

/-- A `char` as an `int`. -/
def toInt (b : UInt8) : BitVec 32 := b.toBitVec.signExtend 32

/-- `bintoasc`. -/
def bintoasc : List UInt8 :=
  ['A', 'B', 'C', 'D', 'E', 'F', 'G', 'H', 'I', 'J', 'K', 'L', 'M', 'N', 'O', 'P', 'Q', 'R', 'S',
    'T', 'U', 'V', 'W', 'X', 'Y', 'Z', 'a', 'b', 'c', 'd', 'e', 'f', 'g', 'h', 'i', 'j', 'k', 'l',
    'm', 'n', 'o', 'p', 'q', 'r', 's', 't', 'u', 'v', 'w', 'x', 'y', 'z', '0', '1', '2', '3', '4',
    '5', '6', '7', '8', '9', '+', '/'].map Char.toUInt8

/-- `asctobin`, as `radix64_init` fills it. -/
def asctobin : List (BitVec 8) :=
  bintoasc.zipIdx.foldl (fun s p => s.set p.1.toNat (BitVec.ofNat 8 p.2)) (List.replicate 256 255)

/-- `bintoasc()[i]`. -/
def letterAt (i : BitVec 32) : UInt8 := bintoasc.getD i.toNat 0

/-- `asctobin()[c]`. -/
def valueAt (c : BitVec 32) : Option (BitVec 8) :=
  if 0 ≤ c.toInt then asctobin[c.toInt.toNat]? else none

/-! ### Decoding -/

/-- The white space that is skipped. -/
def isBlank (c : BitVec 32) : Bool :=
  c = toInt '\n'.toUInt8 || c = toInt ' '.toUInt8 || c = toInt '\r'.toUInt8 ||
    c = toInt '\t'.toUInt8

/-- `isdigit`. -/
def isDigit (b : UInt8) : Bool := '0'.toUInt8 ≤ b && b ≤ '9'.toUInt8

/-- `isxdigit`. -/
def isXDigit (b : UInt8) : Bool :=
  isDigit b || ('a'.toUInt8 ≤ b && b ≤ 'f'.toUInt8) || ('A'.toUInt8 ≤ b && b ≤ 'F'.toUInt8)

/-- `toupper`. -/
def toUpper (b : UInt8) : UInt8 :=
  if 'a'.toUInt8 ≤ b && b ≤ 'z'.toUInt8 then b - 32 else b

/-- The number that a hexadecimal digit stands for. -/
def hexValue (cc : UInt8) : BitVec 32 :=
  if isDigit cc then toInt cc - toInt '0'.toUInt8
  else toInt (toUpper cc) - toInt 'A'.toUInt8 + 10

/-- What `decode` carries from character to character. -/
structure State where
  val : BitVec 8
  idx : Fin 4
  buf : List UInt8

namespace State

/-- The four cases of `decode`. -/
def add (st : State) (c : BitVec 32) : State :=
  match st.idx with
  | 0 => ⟨(c <<< 2).setWidth 8, st.idx + 1, st.buf⟩
  | 1 =>
      let val := (st.val.signExtend 32 ||| (c.sshiftRight 4 &&& 3)).setWidth 8
      ⟨((c <<< 4) &&& 0xf0).setWidth 8, st.idx + 1, st.buf ++ [.ofBitVec val]⟩
  | 2 =>
      let val := (st.val.signExtend 32 ||| (c.sshiftRight 2 &&& 15)).setWidth 8
      ⟨((c <<< 6) &&& 0xc0).setWidth 8, st.idx + 1, st.buf ++ [.ofBitVec val]⟩
  | 3 =>
      let val := (st.val.signExtend 32 ||| (c &&& 0x3f)).setWidth 8
      ⟨val, st.idx + 1, st.buf ++ [.ofBitVec val]⟩

/-- What is left to do at a pad character. -/
def stop (st : State) : State :=
  if st.idx = 1 then { st with buf := st.buf ++ [.ofBitVec st.val] } else st

end State

/-- The loop of `decode`; the character is `again` after a jump, and else the first of the text. -/
def loop : Option (BitVec 32) → State → List UInt8 → Option State
  | _, st, [] => some st
  | again, st, cc1 :: rest =>
      let c := again.getD (toInt cc1)
      if isBlank c then loop none st rest
      else if c = toInt '='.toUInt8 then
        match rest with
        | cc2 :: cc3 :: rest =>
            -- `strchr` finds the null character as well.
            if isXDigit cc1 && isXDigit cc2 &&
                (['=', '\n', '\r', '\t', ' ', '\x00'].map Char.toUInt8).contains cc3 then
              loop (some ((hexValue cc1 <<< 4) ||| hexValue cc2)) st (cc3 :: rest)
            else some st.stop
        | _ => some st.stop
      else
        match valueAt c with
        | none => none
        | some value =>
            let c := value.signExtend 32
            if c = 255 then loop none st rest else loop none (st.add c) rest

/-- `decode`. -/
def decode (buffer : List UInt8) : Option (List UInt8) :=
  (loop none ⟨0, 0, []⟩ buffer).map State.buf

/-! ### Encoding -/

/-- The loop of `encode`, and the two cases after it. -/
def letters : List UInt8 → List UInt8
  | d0 :: d1 :: d2 :: data =>
      letterAt ((toInt d0).sshiftRight 2 &&& 0o77) ::
      letterAt ((((toInt d0 <<< 4) &&& 0o60) ||| ((toInt d1).sshiftRight 4 &&& 0o17)) &&& 0o77) ::
      letterAt ((((toInt d1 <<< 2) &&& 0o74) ||| ((toInt d2).sshiftRight 6 &&& 0o3)) &&& 0o77) ::
      letterAt (toInt d2 &&& 0o77) :: letters data
  | [d0, d1] =>
      [letterAt ((toInt d0).sshiftRight 2 &&& 0o77),
        letterAt ((((toInt d0 <<< 4) &&& 0o60) ||| ((toInt d1).sshiftRight 4 &&& 0o17)) &&& 0o77),
        letterAt ((toInt d1 <<< 2) &&& 0o74), '='.toUInt8]
  | [d0] =>
      [letterAt ((toInt d0).sshiftRight 2 &&& 0o77), letterAt ((toInt d0 <<< 4) &&& 0o60),
        '='.toUInt8, '='.toUInt8]
  | [] => []

/-- `encode`.  The size of its buffer is an `int`. -/
def encode (data : List UInt8) : Option (List UInt8) :=
  if (data.length + 2) / 3 * 4 + 1 < 2 ^ 31 then some (letters data) else none

/-! ### The table of letters -/

/-- The letter of a group of six bits. -/
def letter (s : BitVec 6) : UInt8 := bintoasc.getD s.toNat 0

/-- What the table holds for an `unsigned char`. -/
def value (b : UInt8) : BitVec 8 := asctobin.getD b.toNat 255

/-- The group that a character counts for. -/
def sextet (b : UInt8) : BitVec 6 := (value b).setWidth 6

/-- What entries that are set one after the other leave: the last one for an index counts. -/
private theorem getElem?_foldl_set (i : Nat) (entries : List (Nat × Nat)) :
  ∀ s : List (BitVec 8), i < s.length →
    (entries.foldl (fun s p => s.set p.1 (BitVec.ofNat 8 p.2)) s)[i]? =
      ((entries.reverse.lookup i).map (BitVec.ofNat 8)).or s[i]?
  := by
  induction entries with
  | nil => exact fun s _ => rfl
  | cons p entries ih =>
    intro s hs
    rw [List.foldl_cons, ih _ (by rwa [List.length_set]), List.reverse_cons, List.lookup_append,
      List.lookup_cons, List.lookup_nil, List.getElem?_set]
    by_cases hi : p.1 = i
    · subst hi
      cases entries.reverse.lookup p.1 <;> simp [hs]
    · have hbeq : (i == p.1) = false := beq_false_of_ne (Ne.symm hi)
      cases entries.reverse.lookup i <;> simp [hi, hbeq]

/-- The codes of the letters, the last one first, with their numbers. -/
def codes : List (Nat × Nat) := (bintoasc.map UInt8.toNat).zipIdx.reverse

private theorem getElem?_asctobin (b : UInt8) :
  asctobin[b.toNat]? = some (((codes.lookup b.toNat).map (BitVec.ofNat 8)).getD 255)
  := by
  have hcodes : asctobin = (bintoasc.map UInt8.toNat).zipIdx.foldl
      (fun s p => s.set p.1 (BitVec.ofNat 8 p.2)) (List.replicate 256 255) := by
    rw [List.zipIdx_map, List.foldl_map]
    rfl
  rw [hcodes, getElem?_foldl_set b.toNat _ _ (List.length_replicate ▸ b.toNat_lt),
    List.getElem?_replicate_of_lt b.toNat_lt, ← codes]
  cases codes.lookup b.toNat <;> rfl

theorem value_eq (b : UInt8) :
  value b = ((codes.lookup b.toNat).map (BitVec.ofNat 8)).getD 255
  := by
  rw [value, List.getD_eq_getElem?_getD, getElem?_asctobin, Option.getD_some]

private theorem map_value :
  bintoasc.map value = (List.range 64).map (BitVec.ofNat 8)
  := by
  rw [List.map_congr_left fun b _ => value_eq b]
  decide +kernel

private theorem bintoasc_table :
  ∀ b ∈ bintoasc, b < 128 ∧ isBlank (toInt b) = false ∧ b ≠ '='.toUInt8
  := by
  rw [← List.all_iff_forall_prop]
  decide +kernel

variable (s : BitVec 6) {b : UInt8} (st : State) {text t : List UInt8}

theorem getElem?_letter :
  bintoasc[s.toNat]? = some (letter s)
  := by
  have hlt : s.toNat < bintoasc.length := s.isLt
  rw [letter, List.getD_eq_getElem?_getD, List.getElem?_eq_getElem hlt, Option.getD_some]

theorem mem_letter :
  letter s ∈ bintoasc
  := List.mem_of_getElem? (getElem?_letter s)

@[simp]
theorem sextet_letter :
  sextet (letter s) = s
  := by
  have h := congrArg (fun l => l[s.toNat]?) map_value
  simp only [List.getElem?_map, List.getElem?_range s.isLt, getElem?_letter, Option.map_some,
    Option.some_inj] at h
  rw [sextet, h, BitVec.setWidth_ofNat_of_le (by decide), BitVec.ofNat_toNat, BitVec.setWidth_eq]

theorem getElem?_value (b : UInt8) :
  asctobin[b.toNat]? = some (value b)
  := by
  rw [value_eq, getElem?_asctobin]

/-- A character that is no letter counts for the same group as the last of the letters. -/
theorem sextet_of_not_mem (hb : b ∉ bintoasc) :
  sextet b = 63
  := by
  have hnone : codes.lookup b.toNat = none := by
    rw [List.lookup_eq_none_iff]
    intro p hp
    simp only [bne_iff_ne, ne_eq]
    intro heq
    have hmem := List.fst_mem_of_mem_zipIdx (List.mem_reverse.1 hp)
    rw [← heq, List.mem_map] at hmem
    obtain ⟨c, hc, hcb⟩ := hmem
    exact hb (UInt8.toNat_inj.1 hcb ▸ hc)
  rw [sextet, value_eq, hnone]
  rfl

theorem toInt_toInt_of_lt (hb : b < 128) :
  (toInt b).toInt = b.toNat
  := by
  rw [toInt, BitVec.toInt_signExtend_of_le (by decide), BitVec.toInt_eq_toNat_of_lt]
  · rfl
  · have := UInt8.lt_iff_toNat_lt.1 hb
    change 2 * b.toNat < 256
    simp at this
    omega

theorem toInt_toInt_of_le (hb : 128 ≤ b) :
  (toInt b).toInt < 0
  := by
  rw [toInt, BitVec.toInt_signExtend_of_le (by decide)]
  have := UInt8.le_iff_toNat_le.1 hb
  rw [BitVec.toInt_neg_iff]
  change 256 ≤ 2 * b.toNat
  simp at this
  omega

/-- Every character below 128 has a place in the table. -/
theorem valueAt_of_lt (hb : b < 128) :
  valueAt (toInt b) = some (value b)
  := by
  rw [valueAt, toInt_toInt_of_lt hb, if_pos (Int.natCast_nonneg _), Int.toNat_natCast,
    getElem?_value]

/-- A character from 128 on has none. -/
theorem valueAt_of_le (hb : 128 ≤ b) :
  valueAt (toInt b) = none
  := by
  rw [valueAt, if_neg]
  exact Int.not_le.2 (toInt_toInt_of_le hb)

/-- The mark of the characters that are no letters is not found in a `char`. -/
theorem signExtend_ne (value : BitVec 8) :
  value.signExtend 32 ≠ 255
  := by
  intro h
  have hint := congrArg BitVec.toInt h
  rw [BitVec.toInt_signExtend_of_le (by decide)] at hint
  have hlt := BitVec.toInt_lt (x := value)
  change value.toInt = 255 at hint
  omega

/-! ### Adding groups -/

section Low

variable (c : BitVec 32) {k : Nat}

private theorem sshiftRight_low {m : BitVec 32} (hk : k = 4 ∧ m = 3 ∨ k = 2 ∧ m = 15) :
  c.sshiftRight k &&& m = ((c.setWidth 6).setWidth 32).sshiftRight k &&& m
  := by
  apply BitVec.eq_of_getLsbD_eq
  intro i hi
  obtain ⟨rfl, rfl⟩ | ⟨rfl, rfl⟩ := hk
  all_goals
    simp only [BitVec.getLsbD_setWidth, BitVec.getLsbD_and, BitVec.getLsbD_sshiftRight]
    interval_cases i <;> simp

private theorem and_low :
  c &&& 0x3f = (c.setWidth 6).setWidth 32 &&& 0x3f
  := by
  apply BitVec.eq_of_getLsbD_eq
  intro i hi
  simp only [BitVec.getLsbD_setWidth, BitVec.getLsbD_and]
  interval_cases i <;> simp

private theorem shiftLeft_low (hk : 2 ≤ k) :
  (c <<< k).setWidth 8 = (((c.setWidth 6).setWidth 32) <<< k).setWidth 8
  := by
  apply BitVec.eq_of_getLsbD_eq
  intro i hi
  simp only [BitVec.getLsbD_setWidth, BitVec.getLsbD_shiftLeft]
  have : i - k < 6 := by omega
  have : i - k < 32 := by omega
  simp [*]

private theorem shiftLeft_and_low (hk : 2 ≤ k) (m : BitVec 32) :
  (c <<< k &&& m).setWidth 8 = (((c.setWidth 6).setWidth 32) <<< k &&& m).setWidth 8
  := by
  rw [BitVec.setWidth_and, BitVec.setWidth_and, shiftLeft_low c hk]

theorem State.add_low (st : State) :
  st.add c = st.add ((c.setWidth 6).setWidth 32)
  := by
  obtain ⟨val, idx, buf⟩ := st
  match idx with
  | 0 =>
    simp only [State.add]
    rw [shiftLeft_low c (by decide)]
  | 1 =>
    simp only [State.add]
    rw [sshiftRight_low c (.inl ⟨rfl, rfl⟩), shiftLeft_and_low c (by decide)]
  | 2 =>
    simp only [State.add]
    rw [sshiftRight_low c (.inr ⟨rfl, rfl⟩), shiftLeft_and_low c (by decide)]
  | 3 =>
    simp only [State.add]
    rw [and_low c]

end Low

namespace State

/-- Adding a group of six bits. -/
def addSextet (st : State) (s : BitVec 6) : State := st.add (s.setWidth 32)

section Phases

variable (val : BitVec 8) (buf : List UInt8) (a b c d : BitVec 6)

theorem addSextet_first :
  addSextet ⟨val, 0, buf⟩ a = ⟨a.setWidth 8 <<< 2, 1, buf⟩
  := by
  simp only [addSextet, add, mk.injEq, and_true]
  refine ⟨?_, rfl⟩
  apply BitVec.eq_of_getLsbD_eq
  intro i hi
  simp only [BitVec.getLsbD_setWidth, BitVec.getLsbD_shiftLeft]
  interval_cases i <;> simp

theorem addSextet_second :
  addSextet ⟨a.setWidth 8 <<< 2, 1, buf⟩ b = ⟨b.setWidth 8 <<< 4, 2, buf ++ [joinFirst a b]⟩
  := by
  simp only [addSextet, add, mk.injEq, and_true, List.append_cancel_left_eq, List.cons.injEq]
  refine ⟨?_, rfl, ?_⟩
  · apply BitVec.eq_of_getLsbD_eq
    intro i hi
    simp only [BitVec.getLsbD_setWidth, BitVec.getLsbD_shiftLeft, BitVec.getLsbD_and]
    interval_cases i <;> simp
  · apply congrArg UInt8.ofBitVec
    apply BitVec.eq_of_getLsbD_eq
    intro i hi
    simp only [BitVec.getLsbD_setWidth, BitVec.getLsbD_shiftLeft, BitVec.getLsbD_and,
      BitVec.getLsbD_or, BitVec.getLsbD_signExtend, BitVec.getLsbD_sshiftRight,
      BitVec.getLsbD_extractLsb', BitVec.getLsbD_append]
    interval_cases i <;> simp

theorem addSextet_third :
  addSextet ⟨b.setWidth 8 <<< 4, 2, buf⟩ c = ⟨c.setWidth 8 <<< 6, 3, buf ++ [joinSecond b c]⟩
  := by
  simp only [addSextet, add, mk.injEq, and_true, List.append_cancel_left_eq, List.cons.injEq]
  refine ⟨?_, rfl, ?_⟩
  · apply BitVec.eq_of_getLsbD_eq
    intro i hi
    simp only [BitVec.getLsbD_setWidth, BitVec.getLsbD_shiftLeft, BitVec.getLsbD_and]
    interval_cases i <;> simp
  · apply congrArg UInt8.ofBitVec
    apply BitVec.eq_of_getLsbD_eq
    intro i hi
    simp only [BitVec.getLsbD_setWidth, BitVec.getLsbD_shiftLeft, BitVec.getLsbD_and,
      BitVec.getLsbD_or, BitVec.getLsbD_signExtend, BitVec.getLsbD_sshiftRight,
      BitVec.getLsbD_extractLsb', BitVec.getLsbD_append]
    interval_cases i <;> simp

theorem addSextet_fourth :
  ∃ val, addSextet ⟨c.setWidth 8 <<< 6, 3, buf⟩ d = ⟨val, 0, buf ++ [joinThird c d]⟩
  := by
  simp only [addSextet, add, mk.injEq, List.append_cancel_left_eq, List.cons.injEq, and_true]
  refine ⟨_, rfl, rfl, ?_⟩
  apply congrArg UInt8.ofBitVec
  apply BitVec.eq_of_getLsbD_eq
  intro i hi
  simp only [BitVec.getLsbD_setWidth, BitVec.getLsbD_shiftLeft, BitVec.getLsbD_and,
    BitVec.getLsbD_or, BitVec.getLsbD_signExtend, BitVec.getLsbD_extractLsb',
    BitVec.getLsbD_append]
  interval_cases i <;> simp

end Phases

/-- What comes out of some groups are their bytes. -/
theorem buf_foldl_addSextet (val : BitVec 8) (buf : List UInt8) (s : List (BitVec 6)) :
  (s.foldl addSextet ⟨val, 0, buf⟩).buf = buf ++ bytesOf s
  := by
  fun_induction bytesOf s generalizing val buf with
  | case1 a b c d s ih =>
    obtain ⟨val', hfourth⟩ :=
      addSextet_fourth (buf ++ [joinFirst a b] ++ [joinSecond b c]) c d
    simp only [List.foldl_cons]
    rw [addSextet_first, addSextet_second, addSextet_third, hfourth, ih]
    simp
  | case2 a b c =>
    simp only [List.foldl_cons, List.foldl_nil]
    rw [addSextet_first, addSextet_second, addSextet_third]
    simp
  | case3 a b =>
    simp only [List.foldl_cons, List.foldl_nil]
    rw [addSextet_first, addSextet_second]
  | case4 a =>
    simp only [List.foldl_cons, List.foldl_nil]
    rw [addSextet_first]
    simp
  | case5 => simp

theorem idx_addSextet (st : State) (s : BitVec 6) :
  (st.addSextet s).idx = st.idx + 1
  := by
  obtain ⟨val, idx, buf⟩ := st
  match idx with
  | 0 => rfl
  | 1 => rfl
  | 2 => rfl
  | 3 => rfl

theorem idx_foldl_addSextet (st : State) (s : List (BitVec 6)) :
  (s.foldl addSextet st).idx.val = (st.idx.val + s.length) % 4
  := by
  induction s generalizing st with
  | nil =>
    have := st.idx.isLt
    simp only [List.foldl_nil, List.length_nil]
    omega
  | cons a s ih =>
    rw [List.foldl_cons, ih, idx_addSextet, Fin.val_add]
    simp only [List.length_cons, Fin.val_one]
    omega

end State

/-! ### The loop -/

theorem loop_blank (hb : isBlank (toInt b)) (text : List UInt8) :
  loop none st (b :: text) = loop none st text
  := by
  rw [loop.eq_def]
  simp only [Option.getD_none, if_pos hb]

/-- The work-around for quoted-printable text never applies: it takes the pad character itself for
the first digit. -/
theorem loop_pad (text : List UInt8) :
  loop none st ('='.toUInt8 :: text) = some st.stop
  := by
  have hblank : isBlank (toInt '='.toUInt8) = false := by decide
  have hdigit : isXDigit '='.toUInt8 = false := by decide
  match text with
  | [] => simp [loop, hblank]
  | [_] => simp [loop, hblank]
  | _ :: _ :: _ => simp [loop, hblank, hdigit]

private theorem setWidth_signExtend {k : Nat} (hk : k ≤ 8) (value : BitVec 8) :
  (value.signExtend 32).setWidth k = value.setWidth k
  := by
  apply BitVec.eq_of_getLsbD_eq
  intro i hi
  simp only [BitVec.getLsbD_setWidth, BitVec.getLsbD_signExtend]
  have : i < 8 := by omega
  have : i < 32 := by omega
  simp [*]

theorem toInt_inj {b' : UInt8} :
  toInt b = toInt b' ↔ b = b'
  := by
  constructor
  · intro h
    have h8 := congrArg (BitVec.setWidth 8) h
    rw [toInt, toInt, setWidth_signExtend le_rfl, setWidth_signExtend le_rfl, BitVec.setWidth_eq,
      BitVec.setWidth_eq] at h8
    exact UInt8.toBitVec_inj.1 h8
  · rintro rfl
    rfl

section Character

variable (st : State) {b : UInt8} (hblank : isBlank (toInt b) = false) (hpad : b ≠ '='.toUInt8)
  (text : List UInt8)

include hblank hpad

/-- A character below 128 that is neither white space nor padding adds a group. -/
theorem loop_addSextet (hlt : b < 128) :
  loop none st (b :: text) = loop none (st.addSextet (sextet b)) text
  := by
  rw [loop.eq_def]
  simp only [Option.getD_none, hblank, Bool.false_eq_true, if_false, if_neg (toInt_inj.not.2 hpad),
    valueAt_of_lt hlt, if_neg (signExtend_ne _)]
  rw [State.add_low, setWidth_signExtend (by decide), ← sextet, State.addSextet]

/-- A character from 128 on is looked up in front of the table. -/
theorem loop_outside (hle : 128 ≤ b) :
  loop none st (b :: text) = none
  := by
  rw [loop.eq_def]
  simp only [Option.getD_none, hblank, Bool.false_eq_true, if_false, if_neg (toInt_inj.not.2 hpad),
    valueAt_of_le hle]

end Character

/-- The characters of a text that are not white space. -/
def printed (text : List UInt8) : List UInt8 := text.filter fun b => !isBlank (toInt b)

/-- The loop over a text without padding: what is not white space adds its group. -/
theorem loop_printed (hpad : '='.toUInt8 ∉ text) (hlt : ∀ b ∈ text, b < 128) (rest : List UInt8) :
  loop none st (text ++ rest) =
    loop none (((printed text).map sextet).foldl State.addSextet st) rest
  := by
  induction text generalizing st with
  | nil => rfl
  | cons b text ih =>
    obtain ⟨hb, htext⟩ := List.forall_mem_cons.1 hlt
    have hpad' := List.not_mem_of_not_mem_cons hpad
    rw [List.cons_append]
    cases hblank : isBlank (toInt b) with
    | true => rw [loop_blank st hblank, ih st hpad' htext, printed, printed,
        List.filter_cons_of_neg (by simpa using hblank)]
    | false =>
      have hne : b ≠ '='.toUInt8 := (List.ne_of_not_mem_cons hpad).symm
      rw [loop_addSextet st hblank hne _ hb, ih _ hpad' htext, printed, printed,
        List.filter_cons_of_pos (by simpa using hblank), List.map_cons, List.foldl_cons]

theorem decode_printed (hpad : '='.toUInt8 ∉ text) (hlt : ∀ b ∈ text, b < 128) :
  decode text = some (bytesOf ((printed text).map sextet))
  := by
  have h := loop_printed ⟨0, 0, []⟩ hpad hlt []
  rw [List.append_nil] at h
  rw [decode, h, loop, Option.map_some, State.buf_foldl_addSextet, List.nil_append]

theorem lt_of_isBlank (h : isBlank (toInt b)) :
  b < 128
  := by
  simp only [isBlank, toInt_inj, Bool.or_eq_true, decide_eq_true_eq] at h
  obtain ((rfl | rfl) | rfl) | rfl := h
  all_goals decide

/-- There is no result for a text without padding that has a character from 128 on. -/
theorem lt_of_decode {out : List UInt8} (hpad : '='.toUInt8 ∉ text) (h : decode text = some out) :
  ∀ b ∈ text, b < 128
  := by
  rw [decode, Option.map_eq_some_iff] at h
  obtain ⟨st', h, -⟩ := h
  generalize (⟨0, 0, []⟩ : State) = st at h
  induction text generalizing st with
  | nil => simp
  | cons b text ih =>
    have hpad' := List.not_mem_of_not_mem_cons hpad
    cases hblank : isBlank (toInt b) with
    | true =>
      rw [loop_blank st hblank] at h
      exact List.forall_mem_cons.2 ⟨lt_of_isBlank hblank, ih hpad' st h⟩
    | false =>
      have hne : b ≠ '='.toUInt8 := (List.ne_of_not_mem_cons hpad).symm
      by_cases hlt : b < 128
      · rw [loop_addSextet st hblank hne _ hlt] at h
        exact List.forall_mem_cons.2 ⟨hlt, ih hpad' _ h⟩
      · rw [loop_outside st hblank hne _ (UInt8.not_lt.1 hlt)] at h
        contradiction

/-! ### The round trip -/

/-- A text with white space put into it, at any places. -/
inductive Spread : List UInt8 → List UInt8 → Prop where
  | nil : Spread [] []
  | keep {t text : List UInt8} (b : UInt8) (h : Spread t text) : Spread (b :: t) (b :: text)
  | blank {t text : List UInt8} {b : UInt8} (hb : isBlank (toInt b)) (h : Spread t text) :
      Spread t (b :: text)

theorem letterAt_setWidth :
  letterAt (s.setWidth 32) = letter s
  := by
  rw [letterAt, letter, BitVec.toNat_setWidth_of_le (by decide)]

section Letters

variable (x y z : UInt8)

private theorem splitFirst_eq :
  (toInt x).sshiftRight 2 &&& 0o77 = (splitFirst x).setWidth 32
  := by
  apply BitVec.eq_of_getLsbD_eq
  intro i hi
  simp only [toInt, splitFirst, BitVec.getLsbD_setWidth, BitVec.getLsbD_and,
    BitVec.getLsbD_sshiftRight, BitVec.getLsbD_signExtend, BitVec.getLsbD_extractLsb']
  interval_cases i <;> simp

private theorem splitSecond_eq :
  (((toInt x <<< 4) &&& 0o60) ||| ((toInt y).sshiftRight 4 &&& 0o17)) &&& 0o77 =
    (splitSecond x y).setWidth 32
  := by
  apply BitVec.eq_of_getLsbD_eq
  intro i hi
  simp only [toInt, splitSecond, BitVec.getLsbD_setWidth, BitVec.getLsbD_and, BitVec.getLsbD_or,
    BitVec.getLsbD_shiftLeft, BitVec.getLsbD_sshiftRight, BitVec.getLsbD_signExtend,
    BitVec.getLsbD_extractLsb', BitVec.getLsbD_append]
  interval_cases i <;> simp

private theorem splitThird_eq :
  (((toInt y <<< 2) &&& 0o74) ||| ((toInt z).sshiftRight 6 &&& 0o3)) &&& 0o77 =
    (splitThird y z).setWidth 32
  := by
  apply BitVec.eq_of_getLsbD_eq
  intro i hi
  simp only [toInt, splitThird, BitVec.getLsbD_setWidth, BitVec.getLsbD_and, BitVec.getLsbD_or,
    BitVec.getLsbD_shiftLeft, BitVec.getLsbD_sshiftRight, BitVec.getLsbD_signExtend,
    BitVec.getLsbD_extractLsb', BitVec.getLsbD_append]
  interval_cases i <;> simp

private theorem splitFourth_eq :
  toInt z &&& 0o77 = (splitFourth z).setWidth 32
  := by
  apply BitVec.eq_of_getLsbD_eq
  intro i hi
  simp only [toInt, splitFourth, BitVec.getLsbD_setWidth, BitVec.getLsbD_and,
    BitVec.getLsbD_signExtend, BitVec.getLsbD_extractLsb']
  interval_cases i <;> simp

private theorem splitSecond_zero_eq :
  (toInt x <<< 4) &&& 0o60 = (splitSecond x 0).setWidth 32
  := by
  apply BitVec.eq_of_getLsbD_eq
  intro i hi
  simp only [toInt, splitSecond, BitVec.getLsbD_setWidth, BitVec.getLsbD_and,
    BitVec.getLsbD_shiftLeft, BitVec.getLsbD_signExtend, BitVec.getLsbD_extractLsb',
    BitVec.getLsbD_append]
  interval_cases i <;> simp

private theorem splitThird_zero_eq :
  (toInt y <<< 2) &&& 0o74 = (splitThird y 0).setWidth 32
  := by
  apply BitVec.eq_of_getLsbD_eq
  intro i hi
  simp only [toInt, splitThird, BitVec.getLsbD_setWidth, BitVec.getLsbD_and,
    BitVec.getLsbD_shiftLeft, BitVec.getLsbD_signExtend, BitVec.getLsbD_extractLsb',
    BitVec.getLsbD_append]
  interval_cases i <;> simp

end Letters

theorem letters_eq (data : List UInt8) :
  ∃ n, letters data = (sextetsOf data).map letter ++ List.replicate n '='.toUInt8
  := by
  fun_induction letters data with
  | case1 d0 d1 d2 data ih =>
    obtain ⟨n, ih⟩ := ih
    use n
    rw [splitFirst_eq, splitSecond_eq, splitThird_eq, splitFourth_eq, ih]
    simp [sextetsOf, letterAt_setWidth]
  | case2 d0 d1 =>
    use 1
    rw [splitFirst_eq, splitSecond_eq, splitThird_zero_eq]
    simp [sextetsOf, letterAt_setWidth]
  | case3 d0 =>
    use 2
    rw [splitFirst_eq, splitSecond_zero_eq]
    simp [sextetsOf, letterAt_setWidth]
  | case4 => exact ⟨0, rfl⟩

/-- White space is passed over in every place. -/
theorem loop_spread (h : Spread t text) (st : State) :
  loop none st text = loop none st t
  := by
  induction h generalizing st with
  | nil => rfl
  | blank hb h ih => rw [loop_blank st hb, ih]
  | keep b h ih =>
    cases hblank : isBlank (toInt b) with
    | true => rw [loop_blank st hblank, loop_blank st hblank, ih]
    | false =>
      by_cases hpad : b = '='.toUInt8
      · rw [hpad, loop_pad, loop_pad]
      · by_cases hlt : b < 128
        · rw [loop_addSextet st hblank hpad _ hlt, loop_addSextet st hblank hpad _ hlt, ih]
        · have hle := UInt8.not_lt.1 hlt
          rw [loop_outside st hblank hpad _ hle, loop_outside st hblank hpad _ hle]

theorem loop_replicate {st : State} (hidx : st.idx ≠ 1) (n : Nat) :
  loop none st (List.replicate n '='.toUInt8) = some st
  := by
  cases n with
  | zero => rfl
  | succ n => rw [List.replicate_succ, loop_pad, State.stop, if_neg hidx]

theorem printed_map_letter (s : List (BitVec 6)) :
  printed (s.map letter) = s.map letter
  := by
  apply List.filter_eq_self.2
  intro b hb
  obtain ⟨a, -, rfl⟩ := List.mem_map.1 hb
  simp [(bintoasc_table _ (mem_letter a)).2.1]

/-- What is encoded is decoded, also when white space has been put into the text. -/
theorem decode_spread {data t text : List UInt8} (ht : encode data = some t)
    (htext : Spread t text) :
  decode text = some data
  := by
  obtain ⟨n, hletters⟩ := letters_eq data
  rw [encode] at ht
  split at ht
  case isFalse => contradiction
  case isTrue =>
    obtain rfl := Option.some_inj.1 ht
    have hletter : ∀ b ∈ (sextetsOf data).map letter, b ∈ bintoasc := by
      intro b hb
      obtain ⟨a, -, rfl⟩ := List.mem_map.1 hb
      exact mem_letter a
    have hpad : '='.toUInt8 ∉ (sextetsOf data).map letter := by
      intro h
      exact (bintoasc_table _ (hletter _ h)).2.2 rfl
    have hsextet : ((sextetsOf data).map letter).map sextet = sextetsOf data := by
      simp [List.map_map, Function.comp_def]
    have hidx : ((sextetsOf data).foldl State.addSextet ⟨0, 0, []⟩).idx ≠ 1 := by
      intro h
      have hmod := State.idx_foldl_addSextet ⟨0, 0, []⟩ (sextetsOf data)
      rw [h, length_sextetsOf] at hmod
      simp only [Fin.val_one, Fin.val_zero] at hmod
      omega
    rw [decode, loop_spread htext, hletters,
      loop_printed _ hpad (fun b hb => (bintoasc_table b (hletter b hb)).1), printed_map_letter,
      hsextet, loop_replicate hidx, Option.map_some, State.buf_foldl_addSextet, List.nil_append,
      bytesOf_sextetsOf]

/-- A byte whose text has been spread over two lines. -/
theorem decode_spread_lines :
  decode [84, 32, 81, 13, 10, 61, 9, 61] = some [77]
  := by
  have ht : encode [77] = some [84, 81, 61, 61] := by decide
  apply decode_spread ht
  exact .keep 84 (.blank (by decide) (.keep 81 (.blank (by decide) (.blank (by decide)
    (.keep 61 (.blank (by decide) (.keep 61 .nil)))))))

/-! ### Foreign characters -/

/-- The letters of a text. -/
def lettersOf (text : List UInt8) : List UInt8 := text.filter (· ∈ bintoasc)

/-- The characters of a text that are neither letters nor white space. -/
def foreign (text : List UInt8) : List UInt8 := (printed text).filter (· ∉ bintoasc)

/-- The foreign characters of a text do no harm: there are none, or there is one alone, which the
letters of the text leave room for in their last group of four, and after it come only the letters
that it is taken for. -/
def Harmless (text : List UInt8) : Prop :=
  foreign text = [] ∨
    4 ∣ (lettersOf text).length ∧ ∃ s b t, printed text = s ++ b :: t ∧ b ∉ bintoasc ∧
      (∀ c ∈ s, c ∈ bintoasc) ∧ ∀ c ∈ t, c = '/'.toUInt8

theorem sextet_eq_iff (hb : b ∈ bintoasc) :
  sextet b = 63 ↔ b = '/'.toUInt8
  := by
  have hslash : letter 63 = '/'.toUInt8 := rfl
  constructor
  · obtain ⟨n, hn, rfl⟩ := List.getElem_of_mem hb
    have hletter : bintoasc[n] = letter (.ofNat 6 n) := by
      have hlast := getElem?_letter (.ofNat 6 n)
      rw [BitVec.toNat_ofNat, Nat.mod_eq_of_lt (show n < 2 ^ 6 from hn), List.getElem?_eq_getElem hn] at hlast
      exact Option.some_inj.1 hlast
    intro h
    rw [hletter, sextet_letter] at h
    rw [hletter, h, hslash]
  · rintro rfl
    rw [← hslash, sextet_letter]

theorem printed_lettersOf (text : List UInt8) :
  printed (lettersOf text) = lettersOf text
  := by
  apply List.filter_eq_self.2
  intro b hb
  have hmem : b ∈ bintoasc := by simpa using (List.mem_filter.1 hb).2
  simp [(bintoasc_table b hmem).2.1]

theorem lettersOf_printed (text : List UInt8) :
  (printed text).filter (· ∈ bintoasc) = lettersOf text
  := by
  rw [printed, List.filter_filter, lettersOf]
  apply List.filter_congr
  intro b hb
  by_cases hmem : b ∈ bintoasc
  · simp [hmem, (bintoasc_table b hmem).2.1]
  · simp [hmem]

theorem length_printed (text : List UInt8) :
  (printed text).length = (lettersOf text).length + (foreign text).length
  := by
  rw [← lettersOf_printed, foreign, List.length_eq_length_filter_add (· ∈ bintoasc)]
  simp

theorem decode_lettersOf (text : List UInt8) :
  decode (lettersOf text) = some (bytesOf ((lettersOf text).map sextet))
  := by
  have hmem : ∀ b ∈ lettersOf text, b ∈ bintoasc := by
    intro b hb
    simpa using (List.mem_filter.1 hb).2
  rw [decode_printed, printed_lettersOf]
  · intro h
    exact (bintoasc_table _ (hmem _ h)).2.2 rfl
  · intro b hb
    exact (bintoasc_table b (hmem b hb)).1

/-- The bytes of a text with one foreign character are those of its letters just when the letters
after it are those that it is taken for. -/
theorem bytesOf_foreign_iff {s : List UInt8} (hb : b ∉ bintoasc) (ht : ∀ c ∈ t, c ∈ bintoasc)
    (h : 4 ∣ (s ++ t).length) :
  bytesOf ((s ++ b :: t).map sextet) = bytesOf ((s ++ t).map sextet) ↔ ∀ c ∈ t, c = '/'.toUInt8
  := by
  have hlen : 4 ∣ (s.map sextet ++ t.map sextet).length := by simpa using h
  rw [List.map_append, List.map_append, List.map_cons, bytesOf_insert_iff hlen,
    sextet_of_not_mem hb, List.forall_mem_map]
  apply forall₂_congr
  intro c hc
  exact sextet_eq_iff (ht c hc)

theorem slash_mem (ht : ∀ c ∈ t, c = '/'.toUInt8) :
  ∀ c ∈ t, c ∈ bintoasc
  := by
  intro c hc
  rw [ht c hc]
  decide

theorem lettersOf_of_printed {s : List UInt8} (htext : printed text = s ++ b :: t)
    (hb : b ∉ bintoasc) (hs : ∀ c ∈ s, c ∈ bintoasc) (ht : ∀ c ∈ t, c ∈ bintoasc) :
  lettersOf text = s ++ t
  := by
  rw [← lettersOf_printed, htext, List.filter_append, List.filter_cons_of_neg (by simpa using hb),
    List.filter_eq_self.2 (by simpa using hs), List.filter_eq_self.2 (by simpa using ht)]

/-- More characters leave the number of bytes as it is only if it is one behind groups in fours. -/
theorem eq_of_bytes_eq {m n : Nat} (h : 3 * (m + n) / 4 = 3 * m / 4) :
  n = 0 ∨ n = 1 ∧ 4 ∣ m
  := by
  have hle : n ≤ 1 := by omega
  interval_cases n
  · exact .inl rfl
  · exact .inr ⟨rfl, by omega⟩

/-- The bytes of a text are those of its letters just when its foreign characters do no harm. -/
theorem bytesOf_printed_iff (text : List UInt8) :
  bytesOf ((printed text).map sextet) = bytesOf ((lettersOf text).map sextet) ↔ Harmless text
  := by
  constructor
  · intro h
    have hlen := congrArg List.length h
    rw [length_bytesOf, length_bytesOf, List.length_map, List.length_map, length_printed] at hlen
    obtain hnone | ⟨hone, hfour⟩ := eq_of_bytes_eq hlen
    · exact .inl (List.eq_nil_of_length_eq_zero hnone)
    · right
      obtain ⟨b, hb⟩ := List.length_eq_one_iff.1 hone
      obtain ⟨s, t, htext, hs, hb, ht⟩ := List.filter_eq_cons_iff.1 hb
      rw [List.filter_eq_nil_iff] at ht
      simp only [decide_not, Bool.not_eq_true', decide_eq_false_iff_not, not_not] at hs hb ht
      have hletters := lettersOf_of_printed htext hb hs ht
      rw [htext, hletters] at h
      refine ⟨hfour, s, b, t, htext, hb, hs, ?_⟩
      rw [hletters] at hfour
      exact (bytesOf_foreign_iff hb ht hfour).1 h
  · rintro (hnone | ⟨hfour, s, b, t, htext, hb, hs, ht⟩)
    · rw [← lettersOf_printed, List.filter_eq_self.2]
      simpa [foreign, List.filter_eq_nil_iff] using hnone
    · have hletters := lettersOf_of_printed htext hb hs (slash_mem ht)
      rw [hletters] at hfour
      rw [htext, hletters]
      exact (bytesOf_foreign_iff hb (slash_mem ht) hfour).2 ht

/-- The foreign characters of a text are passed over just when all its characters lie inside of the
table and the foreign ones do no harm. -/
theorem skipsForeign_iff {text : List UInt8} (hpad : '='.toUInt8 ∉ text) :
  (∃ out, decode text = some out ∧ decode (lettersOf text) = some out) ↔
    (∀ b ∈ text, b < 128) ∧ Harmless text
  := by
  constructor
  · rintro ⟨out, htext, hletters⟩
    have hlt := lt_of_decode hpad htext
    refine ⟨hlt, (bytesOf_printed_iff text).1 ?_⟩
    rw [decode_printed hpad hlt] at htext
    rw [decode_lettersOf] at hletters
    exact Option.some_inj.1 (htext.trans hletters.symm)
  · rintro ⟨hlt, hharmless⟩
    refine ⟨_, decode_printed hpad hlt, ?_⟩
    rw [decode_lettersOf, (bytesOf_printed_iff text).2 hharmless]

/-- An exclamation mark after four letters is passed over. -/
theorem skipsForeign_iff_last :
  ∃ out, decode [84, 87, 70, 117, 33] = some out ∧
    decode (lettersOf [84, 87, 70, 117, 33]) = some out
  := by
  have hharmless : Harmless [84, 87, 70, 117, 33] := by
    right
    refine ⟨by decide +kernel, [84, 87, 70, 117], 33, [], rfl, by decide, ?_, by simp⟩
    simp only [List.forall_mem_cons]
    decide +kernel
  have hlt : ∀ b ∈ ([84, 87, 70, 117, 33] : List UInt8), b < 128 := by
    simp only [List.forall_mem_cons]
    decide +kernel
  exact (skipsForeign_iff (by decide)).2 ⟨hlt, hharmless⟩

/-- An exclamation mark between the letters is taken for a `/`. -/
theorem not_skipsForeign_middle :
  '='.toUInt8 ∉ ([84, 87, 33, 70, 117] : List UInt8) ∧
    decode [84, 87, 33, 70, 117] = some [77, 111, 197] ∧
    decode (lettersOf [84, 87, 33, 70, 117]) = some [77, 97, 110]
  := by
  have hlt : ∀ b ∈ ([84, 87, 33, 70, 117] : List UInt8), b < 128 := by
    simp only [List.forall_mem_cons]
    decide +kernel
  have hsextets : sextet 84 = 19 ∧ sextet 87 = 22 ∧ sextet 33 = 63 ∧ sextet 70 = 5 ∧
      sextet 117 = 46 := by
    simp only [sextet, value_eq]
    decide +kernel
  have hprinted : printed [84, 87, 33, 70, 117] = [84, 87, 33, 70, 117] := by decide +kernel
  have hletters : lettersOf [84, 87, 33, 70, 117] = [84, 87, 70, 117] := by decide +kernel
  refine ⟨by decide, ?_, ?_⟩
  · rw [decode_printed (by decide) hlt, hprinted]
    simp only [List.map_cons, List.map_nil, hsextets]
    rfl
  · rw [decode_lettersOf, hletters]
    simp only [List.map_cons, List.map_nil, hsextets]
    rfl

end Radix64
