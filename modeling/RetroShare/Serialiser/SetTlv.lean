import RetroShare.GRouter.Serialise
import RetroShare.Lib.Encoder

/-!
# Raw and TLV encoders

The encoders of `rsbaseserial.cc`, `rstlvbase.cc`, `rstlvbinary.cc` and of the keys of
`rstlvkeys.cc`, as parts of a format, and what the decoders read back from these parts.  Sizes
and offsets are 32-bit numbers, as those of the decoders.
-/

namespace Serialiser

open Decoder Encoder
open GRouter (setRaw toStdString HasBytes hasBytes_append)

/-! ### Encoders -/

/-- Nothing is written. -/
def failed : Encoder := fun data offset => ⟨false, data, offset⟩

/-- `memcpy` into the buffer, with the move of the offset. -/
def putBytes (bytes : List UInt8) : Encoder :=
  fun data offset => ⟨true, data.store offset bytes, add32 offset bytes.length⟩

/-- `bytes` are written if there is room for them. -/
def setBytes (bytes : List UInt8) (size : Nat) : Encoder := fun data offset =>
  if size < add32 offset bytes.length then failed data offset else putBytes bytes data offset

/-- `setRawUInt8`. -/
def setRawUInt8 (size value : Nat) : Encoder := setBytes (setRaw 1 value) size

/-- `setRawUInt16`. -/
def setRawUInt16 (size value : Nat) : Encoder := setBytes (setRaw 2 value) size

/-- `setRawUInt32`. -/
def setRawUInt32 (size value : Nat) : Encoder := setBytes (setRaw 4 value) size

/-- `t_RsGenericIdType::serialise`. -/
def serialiseId (size : Nat) (id : List UInt8) : Encoder := setBytes id size

/-- `SetTlvBase`. -/
def setTlvBase (size type len : Nat) : Encoder := setBytes (GRouter.setTlvBase type len) size

/-- The encoder of an item of `tlvsize` bytes; its content has room up to `tlvend`. -/
def setTlv (size tlvsize type : Nat) (content : Nat → Encoder) : Encoder := fun data offset =>
  let tlvend := add32 offset tlvsize
  if size < tlvend then
    failed data offset
  else
    all [setTlvBase tlvend type tlvsize, content tlvend] data offset

/-- `GetTlvStringSize`. -/
def getTlvStringSize (s : List UInt8) : Nat := add32 tlvHeaderSize s.length

/-- `SetTlvString`. -/
def setTlvString (size type : Nat) (out : List UInt8) : Encoder :=
  setTlv size (getTlvStringSize out) type fun _ =>
    putBytes (out.take (sub32 (getTlvStringSize out) tlvHeaderSize))

/-- `RsTlvBinaryData::TlvSize`: `bin_data` is `NULL` when there are no bytes. -/
def RsTlvBinaryData.tlvSize (self : RsTlvBinaryData) : Nat :=
  add32 tlvHeaderSize self.binData.length

/-- `RsTlvBinaryData::SetTlv`. -/
def RsTlvBinaryData.setTlv (self : RsTlvBinaryData) (size : Nat) : Encoder :=
  Serialiser.setTlv size self.tlvSize self.tlvtype fun _ => putBytes self.binData

/-- The sum of sizes, as it is computed with `uint32_t` numbers. -/
def sum32 (sizes : List Nat) : Nat := sizes.foldl add32 0

/-- `keyId.toStdString()`. -/
def RsTlvSecurityKey.keyIdString (self : RsTlvSecurityKey) : List UInt8 :=
  toStdString (2 * certSignLen) (idValue self.keyId)

/-- `RsTlvSecurityKey::TlvSize`. -/
def RsTlvSecurityKey.tlvSize (self : RsTlvSecurityKey) : Nat :=
  sum32 [tlvHeaderSize, getTlvStringSize self.keyIdString, 4, 4, 4, self.keyData.tlvSize]

/-- `RsTlvSecurityKey::SetTlv`. -/
def RsTlvSecurityKey.setTlv (self : RsTlvSecurityKey) (size : Nat) : Encoder :=
  Serialiser.setTlv size self.tlvSize tlvTypeSecuritykey fun tlvend => all [
    setTlvString tlvend tlvTypeStrKeyid self.keyIdString,
    setRawUInt32 tlvend self.keyFlags,
    setRawUInt32 tlvend self.startTS,
    setRawUInt32 tlvend self.endTS,
    self.keyData.setTlv tlvend]

/-! ### Parts -/

/-- A part of a format in a buffer whose size is a 32-bit number. -/
abbrev Part32 : Type := Component (2 ^ 32)

variable {bytes : List UInt8} (value type : Nat) (out : List UInt8) (data : RsTlvBinaryData)
  (self : RsTlvSecurityKey)

theorem writes_putBytes {p : Nat} (h : p + bytes.length < 2 ^ 32) :
  Writes (putBytes bytes) p bytes
  := by
  intro data
  rw [putBytes, add32, Nat.mod_eq_of_lt h]

theorem writes_setBytes (bytes : List UInt8) (size p : Nat) (hroom : p + bytes.length ≤ size)
    (hsize : size < 2 ^ 32) :
  Writes (setBytes bytes size) p bytes
  := by
  intro data
  have hend : p + bytes.length < 2 ^ 32 := by omega
  rw [setBytes, add32, Nat.mod_eq_of_lt hend, if_neg (by omega), writes_putBytes hend]

/-- `setRawUInt8`, as a part. -/
def Part32.uInt8 (value : Nat) : Part32 where
  bytes := setRaw 1 value
  set size := setRawUInt8 size value
  writes := writes_setBytes (setRaw 1 value)

/-- `setRawUInt16`, as a part. -/
def Part32.uInt16 (value : Nat) : Part32 where
  bytes := setRaw 2 value
  set size := setRawUInt16 size value
  writes := writes_setBytes (setRaw 2 value)

/-- `setRawUInt32`, as a part. -/
def Part32.uInt32 (value : Nat) : Part32 where
  bytes := setRaw 4 value
  set size := setRawUInt32 size value
  writes := writes_setBytes (setRaw 4 value)

/-- `t_RsGenericIdType::serialise`, as a part. -/
def Part32.id (id : List UInt8) : Part32 where
  bytes := id
  set size := serialiseId size id
  writes := writes_setBytes id

@[simp]
theorem Part32.bytes_uInt8 :
  (Part32.uInt8 value).bytes = setRaw 1 value
  := rfl

@[simp]
theorem Part32.bytes_uInt16 :
  (Part32.uInt16 value).bytes = setRaw 2 value
  := rfl

@[simp]
theorem Part32.bytes_uInt32 :
  (Part32.uInt32 value).bytes = setRaw 4 value
  := rfl

@[simp]
theorem Part32.bytes_id (id : List UInt8) :
  (Part32.id id).bytes = id
  := rfl

/-- An item with a header. -/
def tlvBytes (type : Nat) (content : List UInt8) : List UInt8 :=
  GRouter.setTlvBase type (tlvHeaderSize + content.length) ++ content

theorem length_setTlvBase (type len : Nat) :
  (GRouter.setTlvBase type len).length = tlvHeaderSize
  := by
  simp [GRouter.setTlvBase, tlvHeaderSize]

@[simp]
theorem length_tlvBytes (content : List UInt8) :
  (tlvBytes type content).length = tlvHeaderSize + content.length
  := by
  rw [tlvBytes, List.length_append, length_setTlvBase]

theorem writes_setTlv {size tlvsize type p : Nat} {content : Nat → Encoder}
    (htlvsize : tlvsize = tlvHeaderSize + bytes.length) (hroom : p + tlvsize ≤ size)
    (hsize : size < 2 ^ 32) (hcontent : Writes (content (p + tlvsize)) (p + tlvHeaderSize) bytes) :
  Writes (setTlv size tlvsize type content) p (tlvBytes type bytes)
  := by
  intro data
  have hend : add32 p tlvsize = p + tlvsize := Nat.mod_eq_of_lt (by omega)
  have hbase : Writes (setTlvBase (p + tlvsize) type tlvsize) p
      (GRouter.setTlvBase type tlvsize) := by
    apply writes_setBytes
    · rw [length_setTlvBase]
      omega
    · omega
  have hall : Writes (all [setTlvBase (p + tlvsize) type tlvsize, content (p + tlvsize)]) p
      (tlvBytes type bytes) := by
    rw [tlvBytes, ← htlvsize]
    apply hbase.cons
    rw [length_setTlvBase, ← List.append_nil bytes]
    exact hcontent.cons (writes_nil _)
  simp only [setTlv, hend]
  rw [if_neg (by omega), hall data]

theorem add32_eq_of_le {a b n : Nat} (h : a + b ≤ n) (hn : n < 2 ^ 32) :
  add32 a b = a + b
  := Nat.mod_eq_of_lt (by omega)

theorem writes_setTlvString (size p : Nat) (hroom : p + (tlvBytes type out).length ≤ size)
    (hsize : size < 2 ^ 32) :
  Writes (setTlvString size type out) p (tlvBytes type out)
  := by
  rw [length_tlvBytes] at hroom
  have htlvsize : getTlvStringSize out = tlvHeaderSize + out.length :=
    add32_eq_of_le (show _ ≤ size by omega) hsize
  have hlen : sub32 (getTlvStringSize out) tlvHeaderSize = out.length := by
    rw [htlvsize, sub32]
    omega
  apply writes_setTlv htlvsize (by omega) hsize
  rw [hlen, List.take_length]
  apply writes_putBytes
  omega

theorem RsTlvBinaryData.writes_setTlv (self : RsTlvBinaryData) (size p : Nat)
    (hroom : p + (tlvBytes self.tlvtype self.binData).length ≤ size) (hsize : size < 2 ^ 32) :
  Writes (self.setTlv size) p (tlvBytes self.tlvtype self.binData)
  := by
  rw [length_tlvBytes] at hroom
  have htlvsize : self.tlvSize = tlvHeaderSize + self.binData.length :=
    add32_eq_of_le (show _ ≤ size by omega) hsize
  apply Serialiser.writes_setTlv htlvsize (by omega) hsize
  apply writes_putBytes
  omega

/-- `SetTlvString`, as a part. -/
def Part32.string (type : Nat) (s : List UInt8) : Part32 where
  bytes := tlvBytes type s
  set size := setTlvString size type s
  writes := writes_setTlvString type s

/-- `RsTlvBinaryData::SetTlv`, as a part. -/
def Part32.binary (data : RsTlvBinaryData) : Part32 where
  bytes := tlvBytes data.tlvtype data.binData
  set := data.setTlv
  writes := data.writes_setTlv

@[simp]
theorem Part32.bytes_string (s : List UInt8) :
  (Part32.string type s).bytes = tlvBytes type s
  := rfl

@[simp]
theorem Part32.bytes_binary :
  (Part32.binary data).bytes = tlvBytes data.tlvtype data.binData
  := rfl

@[simp]
theorem Part32.set_uInt32 (value size : Nat) :
  (Part32.uInt32 value).set size = setRawUInt32 size value
  := rfl

@[simp]
theorem Part32.set_string (size : Nat) :
  (Part32.string type out).set size = setTlvString size type out
  := rfl

@[simp]
theorem Part32.set_binary (size : Nat) :
  (Part32.binary data).set size = data.setTlv size
  := rfl

/-- The content of a key. -/
def RsTlvSecurityKey.parts (self : RsTlvSecurityKey) : List Part32 := [
  .string tlvTypeStrKeyid self.keyIdString,
  .uInt32 self.keyFlags,
  .uInt32 self.startTS,
  .uInt32 self.endTS,
  .binary self.keyData]

/-- `sum32` is the sum, where this is a 32-bit number. -/
theorem sum32_eq (sizes : List Nat) :
  sum32 sizes = sizes.sum % 2 ^ 32
  := by
  have hfold : ∀ (sizes : List Nat) (n : Nat), n < 2 ^ 32 →
      sizes.foldl add32 n = (n + sizes.sum) % 2 ^ 32 := by
    intro sizes
    induction sizes with
    | nil =>
      intro n hn
      rw [List.foldl_nil, List.sum_nil, Nat.add_zero, Nat.mod_eq_of_lt hn]
    | cons size sizes ih =>
      intro n _
      have hadd : add32 n size < 2 ^ 32 := Nat.mod_lt _ (by decide)
      rw [List.foldl_cons, ih _ hadd, List.sum_cons, add32]
      omega
  rw [sum32, hfold sizes 0 (by decide), Nat.zero_add]

theorem RsTlvSecurityKey.tlvSize_eq :
  self.tlvSize = (tlvHeaderSize + (Component.bytesOf self.parts).length) % 2 ^ 32
  := by
  simp only [tlvSize, sum32_eq, List.sum_cons, List.sum_nil, getTlvStringSize,
    RsTlvBinaryData.tlvSize, add32, parts, Component.bytesOf_cons, Component.bytesOf_nil,
    List.length_append, List.length_nil, Part32.bytes_string, Part32.bytes_uInt32,
    Part32.bytes_binary, length_tlvBytes, GRouter.length_setRaw]
  omega

theorem RsTlvSecurityKey.writes_setTlv (size p : Nat)
    (hroom : p + (tlvBytes tlvTypeSecuritykey (Component.bytesOf self.parts)).length ≤ size)
    (hsize : size < 2 ^ 32) :
  Writes (self.setTlv size) p (tlvBytes tlvTypeSecuritykey (Component.bytesOf self.parts))
  := by
  rw [length_tlvBytes] at hroom
  have htlvsize : self.tlvSize = tlvHeaderSize + (Component.bytesOf self.parts).length := by
    rw [tlvSize_eq, Nat.mod_eq_of_lt (by omega)]
  apply Serialiser.writes_setTlv htlvsize (by omega) hsize
  have hparts : Writes (Component.setAll self.parts (p + self.tlvSize)) (p + tlvHeaderSize)
      (Component.bytesOf self.parts) :=
    Component.writes_parts (by omega) self.parts _ (by omega)
  simpa only [Component.setAll, parts, List.map_cons, List.map_nil, Part32.set_string,
    Part32.set_uInt32, Part32.set_binary] using hparts

/-- `RsTlvSecurityKey::SetTlv`, as a part. -/
def Part32.key (key : RsTlvSecurityKey) : Part32 where
  bytes := tlvBytes tlvTypeSecuritykey (Component.bytesOf key.parts)
  set := key.setTlv
  writes := key.writes_setTlv

@[simp]
theorem Part32.bytes_key (key : RsTlvSecurityKey) :
  (Part32.key key).bytes = tlvBytes tlvTypeSecuritykey (Component.bytesOf key.parts)
  := rfl

/-! ### What is read back -/

theorem hasBytes_store (data : Memory) (p : Nat) (bytes : List UInt8) :
  HasBytes (data.store p bytes) p bytes
  := by
  rw [GRouter.hasBytes_iff]
  intro k hk
  exact Memory.store_add hk

/-- Where `bytes` lie in the buffer, the decoder reads the value `a` and moves behind them. -/
def Reads {α : Type} (get : Memory → Nat → Dec (Bool × α)) (bytes : List UInt8) (a : α) : Prop :=
  ∀ data size p, HasBytes data p bytes → p + bytes.length ≤ size → size < 2 ^ 32 →
    Returns (get data size) p (true, a) (p + bytes.length)

section Reads

variable {α β : Type} {bytes bytes' : List UInt8} {key : RsTlvSecurityKey}

theorem Reads.nil (a : α) :
  Reads (fun _ _ => pure (true, a)) [] a
  := by
  intro data size p _ _ _
  apply returns_pure

theorem Reads.cons {get : Memory → Nat → Dec (Bool × α)} {a : α}
    {rest : Bool × α → Memory → Nat → Dec (Bool × β)} {b : β} (h : Reads get bytes a)
    (h' : Reads (rest (true, a)) bytes' b) :
  Reads (fun data size => do
    let r ← get data size
    rest r data size) (bytes ++ bytes') b
  := by
  intro data size p hbytes hroom hsize
  obtain ⟨hfirst, hrest⟩ := (hasBytes_append _ _ _ _).1 hbytes
  rw [List.length_append] at hroom ⊢
  apply (h data size p hfirst (by omega) hsize).bind
  rw [← Nat.add_assoc]
  exact h' data size _ hrest (by omega) hsize

theorem reads_getRawUInt32 {value : Nat} (hvalue : value < 2 ^ 32) (old : Nat) :
  Reads (fun data size => getRawUInt32 data size old) (setRaw 4 value) value
  := by
  intro data size p hbytes hroom hsize
  rw [GRouter.length_setRaw] at hroom ⊢
  have h := GRouter.returns_getRaw_of_le hsize hroom data.be32 old
  rwa [GRouter.be32_of_hasBytes hbytes hvalue] at h

theorem reads_getRawUInt16 {value : Nat} (hvalue : value < 2 ^ 16) (old : Nat) :
  Reads (fun data size => getRawUInt16 data size old) (setRaw 2 value) value
  := by
  intro data size p hbytes hroom hsize
  rw [GRouter.length_setRaw] at hroom ⊢
  have h := GRouter.returns_getRaw_of_le hsize hroom data.be16 old
  rwa [GRouter.be16_of_hasBytes hbytes hvalue] at h

theorem reads_getRawUInt8 {value : Nat} (hvalue : value < 2 ^ 8) (old : Nat) :
  Reads (fun data size => getRawUInt8 data size old) (setRaw 1 value) value
  := by
  intro data size p hbytes hroom hsize
  rw [GRouter.length_setRaw] at hroom ⊢
  have h := GRouter.returns_getRaw_of_le hsize hroom (fun p => (data p).toNat) old
  have hbyte : (data p).toNat = idValue (data.read p 1) := by
    simp [Memory.read, idValue]
  have hmod : value % 256 = value := Nat.mod_eq_of_lt hvalue
  rwa [hbyte, GRouter.read_of_hasBytes hbytes (GRouter.length_setRaw 1 value),
    GRouter.idValue_setRaw, Nat.pow_one, hmod] at h

theorem reads_deserialiseId {n : Nat} {id : List UInt8} (hid : id.length = n)
    (old : List UInt8) :
  Reads (fun data size => deserialiseId data n size old) id id
  := by
  intro data size p hbytes hroom hsize
  rw [hid] at hroom ⊢
  have h := GRouter.returns_getRaw_of_le hsize hroom (fun p => data.read p n) old
  rwa [GRouter.read_of_hasBytes hbytes hid] at h

theorem header_of_hasBytes {data : Memory} {type p size : Nat} (htype : type < 2 ^ 16)
    (hbytes : HasBytes data p (tlvBytes type bytes))
    (hroom : p + (tlvBytes type bytes).length ≤ size) (hsize : size < 2 ^ 32) :
  Accepted data type size p ∧ data.be32 (p + 2) = tlvHeaderSize + bytes.length ∧
    HasBytes data (p + tlvHeaderSize) bytes
  := by
  rw [length_tlvBytes] at hroom
  simp only [tlvBytes, GRouter.setTlvBase, hasBytes_append, List.length_append,
    GRouter.length_setRaw] at hbytes
  obtain ⟨⟨htypeBytes, hsizeBytes⟩, hcontent⟩ := hbytes
  have etype := GRouter.be16_of_hasBytes htypeBytes htype
  have esize := GRouter.be32_of_hasBytes hsizeBytes (by omega)
  refine ⟨⟨?_, etype⟩, esize, hcontent⟩
  rw [esize, add32_eq_of_le hroom hsize]
  exact hroom

theorem reads_getTlvString {type : Nat} (htype : type < 2 ^ 16) (s old : List UInt8) :
  Reads (fun data size => getTlvString data size type old) (tlvBytes type s) (sanitise type s)
  := by
  intro data size p hbytes hroom hsize
  obtain ⟨haccepted, hlen, hcontent⟩ := header_of_hasBytes htype hbytes hroom hsize
  rw [length_tlvBytes] at hroom ⊢
  have hdecoded : GRouter.StringDecoded data type size p := ⟨by omega, haccepted⟩
  have h := GRouter.returns_getTlvString data type size p old
  have hstrsize : sub32 (tlvHeaderSize + s.length) tlvHeaderSize = s.length := by
    rw [sub32]
    omega
  rwa [if_pos hdecoded, if_pos hdecoded, hlen, hstrsize, GRouter.read_of_hasBytes hcontent rfl,
    GRouter.tlvEnd, hlen, add32_eq_of_le hroom hsize] at h

theorem reads_binaryData {type : Nat} (htype : type < 2 ^ 16) (binData old : List UInt8) :
  Reads (fun data size => RsTlvBinaryData.getTlv data ⟨type, old⟩ size) (tlvBytes type binData)
    ⟨type, binData⟩
  := by
  intro data size p hbytes hroom hsize
  obtain ⟨haccepted, hlen, hcontent⟩ := header_of_hasBytes htype hbytes hroom hsize
  rw [length_tlvBytes] at hroom ⊢
  have hstart : add32 p tlvHeaderSize = p + tlvHeaderSize :=
    add32_eq_of_le (show _ ≤ size by omega) hsize
  have hdecoded : GRouter.BinaryDecoded data type size p :=
    ⟨by omega, haccepted, by omega⟩
  have h := GRouter.returns_binaryData data ⟨type, old⟩ size p
  rwa [if_pos hdecoded, if_pos hdecoded, hlen, Nat.add_sub_cancel_left, hstart,
    GRouter.read_of_hasBytes hcontent rfl, GRouter.tlvEnd, hlen, add32_eq_of_le hroom hsize] at h

theorem reads_withTlv {type : Nat} (htype : type < 2 ^ 16) {old a : α}
    {content : Memory → Nat → Dec (Bool × α)} (h : Reads content bytes a) :
  Reads (fun data size => withTlv data type size old (closeTlv (content data)))
    (tlvBytes type bytes) a
  := by
  intro data size p hbytes hroom hsize
  obtain ⟨haccepted, hlen, hcontent⟩ := header_of_hasBytes htype hbytes hroom hsize
  rw [length_tlvBytes] at hroom ⊢
  have hstart : add32 p tlvHeaderSize = p + tlvHeaderSize :=
    add32_eq_of_le (show _ ≤ size by omega) hsize
  have hend : GRouter.tlvEnd data p = p + (tlvHeaderSize + bytes.length) := by
    rw [GRouter.tlvEnd, hlen, add32_eq_of_le hroom hsize]
  apply GRouter.returns_withTlv (by omega) haccepted
  rw [hend, hstart]
  apply GRouter.returns_closeTlv
  exact h data _ _ hcontent (by omega) (by omega)

/-- The values that a key can have: ids have 16 bytes, and the data has the type that the
constructor gives it. -/
structure RsTlvSecurityKey.Valid (key : RsTlvSecurityKey) : Prop where
  keyId : key.keyId.length = certSignLen
  keyFlags : key.keyFlags < 2 ^ 32
  startTS : key.startTS < 2 ^ 32
  endTS : key.endTS < 2 ^ 32
  keyData : key.keyData.tlvtype = tlvTypeKeyEvpPkey

/-- The bytes of an id are those of its number. -/
theorem setRaw_idValue (id : List UInt8) :
  setRaw id.length (idValue id) = id
  := by
  induction id using List.reverseRecOn with
  | nil => rfl
  | append_singleton id b ih =>
    have hdiv : (idValue id * 256 + b.toNat) / 256 = idValue id := by
      have hb := b.toNat_lt
      omega
    have hbyte : UInt8.ofNat (idValue id * 256 + b.toNat) = b := by
      apply UInt8.toNat.inj
      have hb := b.toNat_lt
      rw [UInt8.toNat_ofNat']
      omega
    rw [List.length_append, List.length_singleton, GRouter.setRaw_succ,
      GRouter.idValue_append_singleton, hdiv, ih, hbyte]

theorem rsGxsId_keyIdString (h : key.Valid) :
  rsGxsId (sanitise tlvTypeStrKeyid key.keyIdString) = key.keyId
  := by
  rw [RsTlvSecurityKey.keyIdString, show 2 * certSignLen = 32 from rfl,
    GRouter.sanitise_toStdString, GRouter.rsGxsId_toStdString]
  have hid := setRaw_idValue key.keyId
  rwa [h.keyId] at hid

theorem reads_key (h : key.Valid) :
  Reads (fun data size => RsTlvSecurityKey.getTlv data size RsTlvSecurityKey.new)
    (tlvBytes tlvTypeSecuritykey (Component.bytesOf key.parts)) key
  := by
  have hkeyId := rsGxsId_keyIdString h
  obtain ⟨keyId, keyFlags, startTS, endTS, tlvtype, binData⟩ := key
  obtain rfl : tlvtype = tlvTypeKeyEvpPkey := h.keyData
  apply reads_withTlv (by decide)
  apply (reads_getTlvString (by decide) _ _).cons
  apply (reads_getRawUInt32 h.keyFlags _).cons
  apply (reads_getRawUInt32 h.startTS _).cons
  apply (reads_getRawUInt32 h.endTS _).cons
  apply (reads_binaryData (by decide) _ _).cons
  simp only [hkeyId]
  exact Reads.nil _

end Reads

end Serialiser
