import RetroShare.Lib.CString

/-!
# Bencoding

`bencode.c` writes the messages of the DHT as trees of numbers, strings, lists and dictionaries, and
reads them again.  `be_encode` writes into a buffer, in which it looks up with `strlen` how far it
has come; `be_decoden` moves a pointer over the data and counts down what is left of it; here
this is the list of the bytes that are left.  There is no result where the code would read or write
outside of the data or of the buffer.

A tree of strings that are there, with keys that hold no null byte, is read back from what is
written of it (`roundTrip_encode`).
-/

namespace Dht

open CString (isDigit)

/-- `be_node`; a string is `none` when its pointer is null. -/
inductive BeNode where
  | str (s : Option (List UInt8))
  | int (i : Int64)
  | list (l : List BeNode)
  | dict (d : List (List UInt8 × BeNode))

namespace BeNode

/-! ### Decoding -/

/-- `_be_decode_int`. -/
def decodeInt (data : List UInt8) : Option (Int64 × List UInt8) :=
  (CString.strtoll data).map fun r => (Int64.ofInt r.1, r.2)

/-- `_be_decode_str`. -/
def decodeStr (data : List UInt8) : Option (Option (List UInt8) × List UInt8) := do
  let (sllen, data) ← decodeInt data
  if sllen.toInt < 0 then some (none, data)
  else if data.length - 1 < sllen.toInt then some (none, data)
  else
    match data with
    | [] => none
    | b :: rest =>
        if b = ':'.toUInt8 then
          some (some (rest.take sllen.toInt.toNat), rest.drop sllen.toInt.toNat)
        else some (none, data)

mutual

/-- `_be_decode`, with the recursion bounded by `fuel`; the tree is `none` when it is null. -/
def decode : Nat → List UInt8 → Option (Option BeNode × List UInt8)
  | 0, _ => none
  | _ + 1, [] => some (none, [])
  | fuel + 1, b :: rest =>
      if b = 'l'.toUInt8 then decodeList fuel [] rest
      else if b = 'd'.toUInt8 then decodeDict fuel [] rest
      else if b = 'i'.toUInt8 then do
        let (i, rest) ← decodeInt rest
        match rest with
        | [] => none
        | b :: rest' =>
            if b = 'e'.toUInt8 then some (some (.int i), rest') else some (none, rest)
      else if isDigit b then do
        let (s, rest) ← decodeStr (b :: rest)
        some (some (.str s), rest)
      else some (none, b :: rest)

/-- The loop of `_be_decode` over a list, of which `l` has been read. -/
def decodeList : Nat → List BeNode → List UInt8 → Option (Option BeNode × List UInt8)
  | 0, _, _ => none
  | _ + 1, _, [] => none
  | fuel + 1, l, b :: rest =>
      if b = 'e'.toUInt8 then some (some (.list l), rest)
      else
        match decode fuel (b :: rest) with
        | none => none
        | some (none, rest) => some (none, rest)
        | some (some node, rest) => decodeList fuel (l ++ [node]) rest

/-- The loop of `_be_decode` over a dictionary, of which `d` has been read. -/
def decodeDict : Nat → List (List UInt8 × BeNode) → List UInt8 →
    Option (Option BeNode × List UInt8)
  | 0, _, _ => none
  | _ + 1, _, [] => none
  | fuel + 1, d, b :: rest =>
      if b = 'e'.toUInt8 then some (some (.dict d), rest)
      else
        match decodeStr (b :: rest) with
        | none => none
        | some (key, rest) =>
            match decode fuel rest with
            | none => none
            | some (val, rest) =>
                match key, val with
                | some key, some val => decodeDict fuel (d ++ [(key, val)]) rest
                | _, _ => some (none, rest)

end

/-- `be_decoden`. -/
def decoden (data : List UInt8) : Option (Option BeNode) :=
  (decode (2 * data.length + 1) data).map Prod.fst

/-! ### Encoding -/

/-- `be_str_len`. -/
def strLen (s : Option (List UInt8)) : Nat := (s.map List.length).getD 0

/-- The key of a dictionary, printed with `%i:%s`.  Its length is cast to an `int`. -/
def keyText (key : List UInt8) : List UInt8 :=
  CString.decimalInt (Int.bmod (CString.cString key).length (2 ^ 32)) ++
    ':'.toUInt8 :: CString.cString key

mutual

/-- `be_encode` into the buffer `buf` from `off` on: the buffer, and the length that is returned. -/
def encode : BeNode → List UInt8 → Nat → Option (List UInt8 × Nat)
  | .str s, buf, off => do
      let buf ← CString.snprintf buf off (CString.decimalInt (strLen s) ++ [':'.toUInt8])
      let loc ← CString.strlen buf off
      let buf ← CString.memcpy buf (off + loc) (s.getD [])
      some (buf, loc + strLen s)
  | .int i, buf, off => do
      let buf ← CString.snprintf buf off
        ('i'.toUInt8 :: CString.decimalInt i.toInt ++ ['e'.toUInt8])
      let loc ← CString.strlen buf off
      some (buf, loc)
  | .list l, buf, off => do
      let buf ← CString.snprintf buf off ['l'.toUInt8]
      let (buf, loc) ← encodeList l buf off 1
      let buf ← CString.snprintf buf (off + loc) ['e'.toUInt8]
      some (buf, loc + 1)
  | .dict d, buf, off => do
      let buf ← CString.snprintf buf off ['d'.toUInt8]
      let (buf, loc) ← encodeDict d buf off 1
      let buf ← CString.snprintf buf (off + loc) ['e'.toUInt8]
      some (buf, loc + 1)

/-- The loop of `be_encode` over a list, which has come to `loc`. -/
def encodeList : List BeNode → List UInt8 → Nat → Nat → Option (List UInt8 × Nat)
  | [], buf, _, loc => some (buf, loc)
  | node :: l, buf, off, loc => do
      let (buf, n) ← encode node buf (off + loc)
      encodeList l buf off (loc + n)

/-- The loop of `be_encode` over a dictionary, which has come to `loc`. -/
def encodeDict : List (List UInt8 × BeNode) → List UInt8 → Nat → Nat →
    Option (List UInt8 × Nat)
  | [], buf, _, loc => some (buf, loc)
  | (key, val) :: d, buf, off, loc => do
      let buf ← CString.snprintf buf (off + loc) (keyText key)
      let n ← CString.strlen buf (off + loc)
      let (buf, n') ← encode val buf (off + (loc + n))
      encodeDict d buf off (loc + n + n')

end

/-! ### The format -/

mutual

/-- The bencoding of a tree. -/
def encoding : BeNode → List UInt8
  | .str s => CString.decimal (strLen s) ++ ':'.toUInt8 :: s.getD []
  | .int i => 'i'.toUInt8 :: CString.decimalInt i.toInt ++ ['e'.toUInt8]
  | .list l => 'l'.toUInt8 :: encodings l ++ ['e'.toUInt8]
  | .dict d => 'd'.toUInt8 :: entries d ++ ['e'.toUInt8]

/-- The bencodings of the elements of a list. -/
def encodings : List BeNode → List UInt8
  | [] => []
  | node :: l => encoding node ++ encodings l

/-- The bencodings of the keys and the values of a dictionary. -/
def entries : List (List UInt8 × BeNode) → List UInt8
  | [] => []
  | (key, val) :: d =>
      CString.decimal key.length ++ ':'.toUInt8 :: key ++ encoding val ++ entries d

end

mutual

/-- The strings of a tree are there, and its keys hold no null byte. -/
def Plain : BeNode → Prop
  | .str s => s.isSome
  | .int _ => True
  | .list l => PlainList l
  | .dict d => PlainDict d

def PlainList : List BeNode → Prop
  | [] => True
  | node :: l => node.Plain ∧ PlainList l

def PlainDict : List (List UInt8 × BeNode) → Prop
  | [] => True
  | (key, val) :: d => 0 ∉ key ∧ val.Plain ∧ PlainDict d

end

/-! ### What is written -/

open CString

variable {buf : List UInt8} {off : Nat} (node : BeNode)

/-- A text without null bytes is printed, and `strlen` finds its end. -/
theorem snprintf_strlen {text : List UInt8} (hnone : 0 ∉ text)
    (h : off + text.length < buf.length) :
  ∃ buf', snprintf buf off text = some buf' ∧ strlen buf' off = some text.length ∧
    Puts buf off text buf'
  := by
  obtain ⟨buf', hprint, hputs, hlen⟩ := snprintf_of_room h
  exact ⟨buf', hprint, hlen hnone, hputs⟩

theorem notMem_decimal (n : Nat) :
  0 ∉ decimal n
  := fun h => absurd (isDigit_of_mem_decimal h) (by decide)

theorem notMem_decimalInt (i : Int) :
  0 ∉ decimalInt i
  := by
  rw [decimalInt]
  split
  · rw [List.mem_cons, not_or]
    exact ⟨by decide, notMem_decimal _⟩
  · exact notMem_decimal _

/-- The text of a key without null bytes, whose length is an `int`. -/
theorem keyText_eq {key : List UInt8} (h : 0 ∉ key) (hint : key.length < 2 ^ 31) :
  keyText key = decimal key.length ++ ':'.toUInt8 :: key
  := by
  have hmod : Int.bmod (key.length : Int) (2 ^ 32) = key.length := by
    apply Int.bmod_eq_of_le
    · omega
    · omega
  rw [keyText, cString_of_notMem h, hmod, decimalInt_natCast]

theorem encoding_str (s : List UInt8) :
  encoding (.str (some s)) = (decimal s.length ++ [':'.toUInt8]) ++ s
  := by
  rw [encoding, List.append_assoc]
  rfl

/-- What is written between a byte and an `e`. -/
theorem bracket_of_room {bytes : List UInt8} {c : UInt8}
    {body : List UInt8 → Option (List UInt8 × Nat)} (hroom : off + (bytes.length + 2) < buf.length)
    (hbody : ∀ buf₁, buf₁.length = buf.length → ∃ buf₂, body buf₁ = some (buf₂, 1 + bytes.length) ∧
      Puts buf₁ (off + 1) bytes buf₂) :
  ∃ buf', (do
      let buf ← snprintf buf off [c]
      let (buf, loc) ← body buf
      let buf ← snprintf buf (off + loc) ['e'.toUInt8]
      some (buf, loc + 1)) = some (buf', bytes.length + 2) ∧
    Puts buf off (c :: bytes ++ ['e'.toUInt8]) buf'
  := by
  have hopen : off + [c].length < buf.length := by
    rw [List.length_singleton]
    omega
  obtain ⟨buf₁, hprint, hputs, -⟩ := snprintf_of_room hopen
  obtain ⟨buf₂, hbody, hputs'⟩ := hbody buf₁ hputs.1
  have hclose : off + (1 + bytes.length) + ['e'.toUInt8].length < buf₂.length := by
    rw [hputs'.1, hputs.1, List.length_singleton]
    omega
  obtain ⟨buf₃, hprint', hputs'', -⟩ := snprintf_of_room hclose
  refine ⟨buf₃, ?_, ?_⟩
  · rw [hprint, Option.bind_eq_bind, Option.bind_some, hbody, Option.bind_eq_bind,
      Option.bind_some]
    dsimp only
    rw [hprint', Option.bind_some, Nat.add_comm 1]
  · apply (hputs.append hputs').append
    rw [List.length_append, List.length_singleton]
    exact hputs''

mutual

theorem encode_of_room :
  ∀ (node : BeNode), node.Plain → ∀ {buf : List UInt8} (off : Nat), buf.length < 2 ^ 31 →
    off + (encoding node).length < buf.length →
    ∃ buf', encode node buf off = some (buf', (encoding node).length) ∧
      Puts buf off (encoding node) buf'
  | .str s, hplain, buf, off, _, hroom => by
      obtain ⟨s, rfl⟩ := Option.isSome_iff_exists.mp hplain
      rw [encoding_str, List.length_append] at hroom
      rw [encoding_str, List.length_append]
      have hnone : 0 ∉ decimal s.length ++ [':'.toUInt8] := by
        rw [List.mem_append, not_or]
        exact ⟨notMem_decimal _, by decide⟩
      have htext : decimalInt (strLen (some s)) = decimal s.length := decimalInt_natCast _
      obtain ⟨buf₁, hprint, hlen, hputs⟩ :=
        snprintf_strlen hnone (show off + _ < buf.length by omega)
      have hrest : off + (decimal s.length ++ [':'.toUInt8]).length + s.length ≤ buf₁.length := by
        rw [hputs.1]
        omega
      obtain ⟨buf₂, hcopy, hputs'⟩ := memcpy_of_room hrest
      refine ⟨buf₂, ?_, hputs.append hputs'⟩
      rw [encode, htext, hprint, Option.bind_eq_bind, Option.bind_some, hlen, Option.bind_eq_bind,
        Option.bind_some, Option.getD_some, hcopy]
      rfl
  | .int i, _, buf, off, _, hroom => by
      have hnone : 0 ∉ 'i'.toUInt8 :: decimalInt i.toInt ++ ['e'.toUInt8] := by
        rw [List.cons_append, List.mem_cons, List.mem_append, not_or, not_or]
        exact ⟨by decide, notMem_decimalInt _, by decide⟩
      rw [encoding] at hroom ⊢
      obtain ⟨buf', hprint, hlen, hputs⟩ := snprintf_strlen hnone hroom
      refine ⟨buf', ?_, hputs⟩
      rw [encode, hprint, Option.bind_eq_bind, Option.bind_some, hlen]
      rfl
  | .list l, hplain, buf, off, hint, hroom => by
      have hlength : (encoding (.list l)).length = (encodings l).length + 2 := by
        rw [encoding, List.length_append, List.length_cons, List.length_singleton]
      rw [hlength] at hroom ⊢
      rw [encode, encoding]
      apply bracket_of_room hroom
      intro buf₁ hsame
      apply encodeList_of_room l hplain
      · omega
      · omega
  | .dict d, hplain, buf, off, hint, hroom => by
      have hlength : (encoding (.dict d)).length = (entries d).length + 2 := by
        rw [encoding, List.length_append, List.length_cons, List.length_singleton]
      rw [hlength] at hroom ⊢
      rw [encode, encoding]
      apply bracket_of_room hroom
      intro buf₁ hsame
      apply encodeDict_of_room d hplain
      · omega
      · omega

theorem encodeList_of_room :
  ∀ (l : List BeNode), PlainList l → ∀ {buf : List UInt8} (off loc : Nat), buf.length < 2 ^ 31 →
    off + loc + (encodings l).length < buf.length →
    ∃ buf', encodeList l buf off loc = some (buf', loc + (encodings l).length) ∧
      Puts buf (off + loc) (encodings l) buf'
  | [], _, buf, off, loc, _, _ => ⟨buf, rfl, Puts.nil buf _⟩
  | node :: l, hplain, buf, off, loc, hint, hroom => by
      rw [encodings, List.length_append] at hroom ⊢
      obtain ⟨buf₁, hnode, hputs⟩ := encode_of_room node hplain.1 (off + loc) hint
        (show _ < buf.length by omega)
      obtain ⟨buf₂, hlist, hputs'⟩ := encodeList_of_room l hplain.2 off
        (loc + (encoding node).length) (hputs.1.trans_lt hint)
        (show _ < buf₁.length by rw [hputs.1]; omega)
      refine ⟨buf₂, ?_, ?_⟩
      · rw [encodeList, hnode, Option.bind_eq_bind, Option.bind_some]
        dsimp only
        rw [hlist, Nat.add_assoc]
      · rw [← Nat.add_assoc] at hputs'
        exact hputs.append hputs'

theorem encodeDict_of_room :
  ∀ (d : List (List UInt8 × BeNode)), PlainDict d → ∀ {buf : List UInt8} (off loc : Nat),
    buf.length < 2 ^ 31 → off + loc + (entries d).length < buf.length →
    ∃ buf', encodeDict d buf off loc = some (buf', loc + (entries d).length) ∧
      Puts buf (off + loc) (entries d) buf'
  | [], _, buf, off, loc, _, _ => ⟨buf, rfl, Puts.nil buf _⟩
  | (key, val) :: d, hplain, buf, off, loc, hint, hroom => by
      obtain ⟨hkey, hval, hd⟩ := hplain
      have hentries : entries ((key, val) :: d) =
          (decimal key.length ++ ':'.toUInt8 :: key) ++ encoding val ++ entries d := rfl
      have hlength : key.length < (decimal key.length ++ ':'.toUInt8 :: key).length := by
        rw [List.length_append, List.length_cons]
        omega
      rw [hentries, List.length_append, List.length_append] at hroom
      rw [hentries, List.length_append, List.length_append]
      have htext := keyText_eq hkey (by omega)
      have hnone : 0 ∉ keyText key := by
        rw [htext, List.mem_append, List.mem_cons, not_or, not_or]
        exact ⟨notMem_decimal _, by decide, hkey⟩
      rw [← htext] at hroom ⊢
      obtain ⟨buf₁, hprint, hlen, hputs⟩ := snprintf_strlen hnone
        (show off + loc + _ < buf.length by omega)
      obtain ⟨buf₂, hnode, hputs'⟩ := encode_of_room val hval (off + (loc + (keyText key).length))
        (hputs.1.trans_lt hint) (show _ < buf₁.length by rw [hputs.1]; omega)
      obtain ⟨buf₃, hrest, hputs''⟩ := encodeDict_of_room d hd off
        (loc + (keyText key).length + (encoding val).length)
        (hputs'.1.trans_lt (hputs.1.trans_lt hint))
        (show _ < buf₂.length by rw [hputs'.1, hputs.1]; omega)
      refine ⟨buf₃, ?_, ?_⟩
      · rw [encodeDict, hprint, Option.bind_eq_bind, Option.bind_some, hlen, Option.bind_eq_bind,
          Option.bind_some, hnode, Option.bind_eq_bind, Option.bind_some]
        dsimp only
        rw [hrest, Nat.add_assoc, Nat.add_assoc, Nat.add_assoc]
      · rw [← Nat.add_assoc] at hputs'
        apply (hputs.append hputs').append
        rw [List.length_append, ← Nat.add_assoc]
        rwa [← Nat.add_assoc, ← Nat.add_assoc] at hputs''

end

/-! ### What is read -/

theorem decodeInt_decimalInt (i : Int64) {b : UInt8} (hb : isDigit b = false)
    (rest : List UInt8) :
  decodeInt (decimalInt i.toInt ++ b :: rest) = some (i, b :: rest)
  := by
  rw [decodeInt, strtoll_decimalInt i.le_toInt i.toInt_lt hb, Option.map_some, Int64.ofInt_toInt]

theorem decodeStr_decimal {s : List UInt8} (hsize : s.length < 2 ^ 63) (rest : List UInt8) :
  decodeStr (decimal s.length ++ ':'.toUInt8 :: (s ++ rest)) = some (some s, rest)
  := by
  have hint : (Int64.ofNat s.length).toInt = s.length := by
    apply Int64.toInt_ofNat_of_lt hsize
  have hread := decodeInt_decimalInt (Int64.ofNat s.length)
    (show isDigit ':'.toUInt8 = false by decide) (s ++ rest)
  rw [hint, decimalInt_natCast] at hread
  rw [decodeStr, hread, Option.bind_eq_bind, Option.bind_some]
  dsimp only
  rw [hint, if_neg (by omega), if_neg, if_pos rfl, Int.toNat_natCast, List.take_left,
    List.drop_left]
  rw [List.length_cons, List.length_append]
  omega

theorem exists_digit (n : Nat) (rest : List UInt8) :
  ∃ b t, decimal n ++ rest = b :: t ∧ isDigit b ∧ b ≠ 'l'.toUInt8 ∧ b ≠ 'd'.toUInt8 ∧
    b ≠ 'i'.toUInt8 ∧ b ≠ 'e'.toUInt8
  := by
  obtain ⟨b, digits, heq⟩ := List.exists_cons_of_ne_nil (decimal_ne_nil n)
  have hdigit : isDigit b := by
    apply @isDigit_of_mem_decimal n
    rw [heq]
    exact List.mem_cons_self
  refine ⟨b, digits ++ rest, by rw [heq, List.cons_append], hdigit, ?_, ?_, ?_, ?_⟩
  all_goals
    rintro rfl
    exact absurd hdigit (by decide)

/-- A bencoding does not start with the end of a list. -/
theorem exists_encoding (rest : List UInt8) :
  ∃ b t, encoding node ++ rest = b :: t ∧ b ≠ 'e'.toUInt8
  := by
  cases node with
  | str s =>
    rw [encoding, List.append_assoc]
    obtain ⟨b, t, heq, -, -, -, -, hne⟩ :=
      exists_digit (strLen s) (':'.toUInt8 :: s.getD [] ++ rest)
    exact ⟨b, t, heq, hne⟩
  | int i => exact ⟨'i'.toUInt8, _, rfl, by decide⟩
  | list l => exact ⟨'l'.toUInt8, _, rfl, by decide⟩
  | dict d => exact ⟨'d'.toUInt8, _, rfl, by decide⟩

theorem length_encoding_pos :
  0 < (encoding node).length
  := by
  obtain ⟨b, t, heq, -⟩ := exists_encoding node []
  rw [List.append_nil] at heq
  rw [heq]
  exact Nat.succ_pos _

mutual

/-- The bencoding of a tree is read as the tree. -/
theorem decode_encoding :
  ∀ (node : BeNode), node.Plain → (encoding node).length < 2 ^ 63 →
    ∀ (fuel : Nat) (rest : List UInt8), 2 * (encoding node).length ≤ fuel →
      decode fuel (encoding node ++ rest) = some (some node, rest)
  | node, hplain, hsize, 0, rest, hfuel => by
      have := length_encoding_pos node
      omega
  | .str s, hplain, hsize, fuel + 1, rest, hfuel => by
      obtain ⟨s, rfl⟩ := Option.isSome_iff_exists.mp hplain
      rw [encoding_str, List.length_append] at hsize
      have hread := decodeStr_decimal (show s.length < 2 ^ 63 by omega) rest
      obtain ⟨b, t, heq, hdigit, hl, hd, hi, -⟩ :=
        exists_digit s.length (':'.toUInt8 :: (s ++ rest))
      rw [encoding_str, List.append_assoc, List.append_assoc, List.singleton_append, heq, decode,
        if_neg hl, if_neg hd, if_neg hi, if_pos hdigit, ← heq, hread]
      rfl
  | .int i, _, _, fuel + 1, rest, _ => by
      have hread := decodeInt_decimalInt i (show isDigit 'e'.toUInt8 = false by decide) rest
      rw [encoding, List.cons_append, List.cons_append, List.append_assoc, List.singleton_append,
        decode, if_neg (by decide), if_neg (by decide), if_pos rfl, hread, Option.bind_eq_bind,
        Option.bind_some]
      dsimp only
      rw [if_pos rfl]
  | .list l, hplain, hsize, fuel + 1, rest, hfuel => by
      rw [encoding, List.length_append, List.length_cons, List.length_singleton] at hsize hfuel
      rw [encoding, List.cons_append, List.cons_append, List.append_assoc, List.singleton_append,
        decode, if_pos rfl]
      apply decodeList_encodings l hplain
      · omega
      · omega
  | .dict d, hplain, hsize, fuel + 1, rest, hfuel => by
      rw [encoding, List.length_append, List.length_cons, List.length_singleton] at hsize hfuel
      rw [encoding, List.cons_append, List.cons_append, List.append_assoc, List.singleton_append,
        decode, if_neg (by decide), if_pos rfl]
      apply decodeDict_entries d hplain
      · omega
      · omega

theorem decodeList_encodings :
  ∀ (l : List BeNode), PlainList l → (encodings l).length < 2 ^ 63 →
    ∀ (fuel : Nat) (done : List BeNode) (rest : List UInt8), 2 * (encodings l).length + 1 ≤ fuel →
      decodeList fuel done (encodings l ++ 'e'.toUInt8 :: rest) =
        some (some (.list (done ++ l)), rest)
  | _, _, _, 0, _, _, hfuel => absurd hfuel (Nat.not_succ_le_zero _)
  | [], _, _, fuel + 1, done, rest, _ => by
      rw [encodings, List.nil_append, decodeList, if_pos rfl, List.append_nil]
  | node :: l, hplain, hsize, fuel + 1, done, rest, hfuel => by
      rw [encodings, List.length_append] at hsize hfuel
      have hpos := length_encoding_pos node
      have hnode := decode_encoding node hplain.1 (by omega) fuel
        (encodings l ++ 'e'.toUInt8 :: rest) (by omega)
      obtain ⟨b, t, heq, hne⟩ := exists_encoding node (encodings l ++ 'e'.toUInt8 :: rest)
      rw [heq] at hnode
      rw [encodings, List.append_assoc, heq, decodeList, if_neg hne, hnode]
      dsimp only
      rw [decodeList_encodings l hplain.2 (by omega) fuel _ rest (by omega), List.append_assoc,
        List.singleton_append]

theorem decodeDict_entries :
  ∀ (d : List (List UInt8 × BeNode)), PlainDict d → (entries d).length < 2 ^ 63 →
    ∀ (fuel : Nat) (done : List (List UInt8 × BeNode)) (rest : List UInt8),
      2 * (entries d).length + 1 ≤ fuel →
      decodeDict fuel done (entries d ++ 'e'.toUInt8 :: rest) =
        some (some (.dict (done ++ d)), rest)
  | _, _, _, 0, _, _, hfuel => absurd hfuel (Nat.not_succ_le_zero _)
  | [], _, _, fuel + 1, done, rest, _ => by
      rw [entries, List.nil_append, decodeDict, if_pos rfl, List.append_nil]
  | (key, val) :: d, hplain, hsize, fuel + 1, done, rest, hfuel => by
      obtain ⟨-, hval, hd⟩ := hplain
      have hentries : entries ((key, val) :: d) =
          (decimal key.length ++ ':'.toUInt8 :: key) ++ encoding val ++ entries d := rfl
      rw [hentries, List.length_append, List.length_append, List.length_append,
        List.length_cons] at hsize hfuel
      have hkey := decodeStr_decimal (show key.length < 2 ^ 63 by omega)
        (encoding val ++ (entries d ++ 'e'.toUInt8 :: rest))
      have hnode := decode_encoding val hval (by omega) fuel
        (entries d ++ 'e'.toUInt8 :: rest) (by omega)
      obtain ⟨b, t, heq, -, -, -, -, hne⟩ := exists_digit key.length
        (':'.toUInt8 :: (key ++ (encoding val ++ (entries d ++ 'e'.toUInt8 :: rest))))
      rw [heq] at hkey
      rw [hentries, List.append_assoc, List.append_assoc, List.append_assoc, List.cons_append,
        heq, decodeDict, if_neg hne, hkey]
      dsimp only
      rw [hnode]
      dsimp only
      rw [decodeDict_entries d hd (by omega) fuel _ rest (by omega), List.append_assoc,
        List.singleton_append]

end

/-- A tree is written into a buffer with room for one byte more, and is read from what has been
written. -/
theorem roundTrip_encode (node : BeNode) (hplain : node.Plain) {buf : List UInt8}
    (hint : buf.length < 2 ^ 31) (hroom : (encoding node).length < buf.length) :
  ∃ buf', encode node buf 0 = some (buf', (encoding node).length) ∧
    buf'.length = buf.length ∧
    decoden (buf'.take (encoding node).length) = some (some node)
  := by
  obtain ⟨buf', hencode, hlength, htake⟩ := encode_of_room node hplain 0 hint (by omega)
  refine ⟨buf', hencode, hlength, ?_⟩
  rw [Nat.zero_add, List.take_zero, List.nil_append] at htake
  have hdecode := decode_encoding node hplain (by omega) (2 * (encoding node).length + 1) []
    (by omega)
  rw [List.append_nil] at hdecode
  rw [htake, decoden, hdecode]
  rfl

/-- A message of the DHT: a list with a dictionary, in which an empty string and an empty list lie
under the keys `q` and the empty one, and a negative number. -/
def message : BeNode :=
  .list [.dict [(['q'.toUInt8], .str (some [])), ([], .list [])], .int (-42),
    .str (some [0, 'e'.toUInt8, ':'.toUInt8, '1'.toUInt8])]

theorem roundTrip_encode_message :
  ∃ buf', encode message (List.replicate 64 1) 0 = some (buf', (encoding message).length) ∧
    buf'.length = (List.replicate 64 (1 : UInt8)).length ∧
    decoden (buf'.take (encoding message).length) = some (some message)
  := by
  apply roundTrip_encode message
  · simp only [message, Plain, PlainList, PlainDict, Option.isSome_some, and_true, true_and]
    decide
  · decide
  · decide

/-- What follows an encoding does not change what is read: no encoding begins another one. -/
theorem eq_of_encoding_append {node node' : BeNode} {rest rest' : List UInt8} (h : node.Plain)
    (h' : node'.Plain) (hsize : (encoding node).length < 2 ^ 63)
    (hsize' : (encoding node').length < 2 ^ 63)
    (heq : encoding node ++ rest = encoding node' ++ rest') :
  node = node' ∧ rest = rest'
  := by
  have hread := decode_encoding node h hsize _ rest
    (Nat.le_add_right _ (2 * (encoding node').length))
  rw [heq, decode_encoding node' h' hsize' _ rest' (Nat.le_add_left _ _)] at hread
  simpa [eq_comm] using hread

theorem eq_of_encoding_append_message :
  message = message ∧ ['e'.toUInt8] = ['e'.toUInt8]
  := by
  have hplain : message.Plain := by
    simp only [message, Plain, PlainList, PlainDict, Option.isSome_some, and_true, true_and]
    decide
  exact eq_of_encoding_append hplain hplain (by decide) (by decide) rfl

end BeNode

end Dht
