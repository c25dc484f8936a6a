import Mathlib.Data.List.GetD
import Mathlib.Tactic.IntervalCases
import RetroShare.GRouter.Bounds

/-!
# Messages as packets

`serialise` writes a message into a packet, and `RsGRouterSerialiser.deserialise` reads it back:
`deserialise_serialise` is the round trip, for messages whose numbers have the width of their
fields.  `HasBytes` says which bytes lie at an address of a memory.
-/

namespace GRouter

open Serialiser Decoder

/-! ### Bytes in a memory -/

/-- The bytes `l` lie at `p`. -/
def HasBytes (data : Memory) (p : Nat) (l : List UInt8) : Prop := data.read p l.length = l

variable (data : Memory) (p keyId : Nat) {lim : Nat}

theorem hasBytes_iff (l : List UInt8) :
  HasBytes data p l ↔ ∀ k < l.length, data (p + k) = l.getD k 0
  := by
  constructor
  · intro h k hk
    have hget := congrArg (fun l => l.getD k 0) h
    simpa [Memory.read, hk] using hget
  · intro h
    exact Memory.read_eq h

theorem hasBytes_append (l l' : List UInt8) :
  HasBytes data p (l ++ l') ↔ HasBytes data p l ∧ HasBytes data (p + l.length) l'
  := by
  simp only [hasBytes_iff, List.length_append]
  constructor
  · intro h
    constructor
    · intro k hk
      rw [h k (by omega), List.getD_append _ _ _ _ hk]
    · intro k hk
      rw [Nat.add_assoc, h _ (by omega), List.getD_append_right _ _ _ _ (by omega),
        Nat.add_sub_cancel_left]
  · rintro ⟨h, h'⟩ k hk
    by_cases hl : k < l.length
    · rw [h k hl, List.getD_append _ _ _ _ hl]
    · rw [List.getD_append_right _ _ _ _ (by omega), ← h' _ (by omega)]
      congr 1
      omega

theorem hasBytes_toMemory (bytes : List UInt8) :
  HasBytes (Bytes.toMemory bytes) 0 bytes
  := by
  rw [hasBytes_iff]
  intro k _
  rw [Nat.zero_add, Bytes.toMemory]

/-! ### Numbers -/

@[simp]
theorem length_setRaw (width value : Nat) :
  (setRaw width value).length = width
  := by
  simp [setRaw]

@[simp]
theorem length_toStdString (width value : Nat) :
  (toStdString width value).length = width
  := by
  simp [toStdString]

theorem setRaw_succ (width value : Nat) :
  setRaw (width + 1) value = setRaw width (value / 256) ++ [UInt8.ofNat value]
  := by
  simp only [setRaw, List.range_succ, List.map_append, List.map_cons, List.map_nil,
    Nat.add_sub_cancel, Nat.sub_self, Nat.pow_zero, Nat.div_one]
  congr 1
  apply List.map_congr_left
  intro k hk
  have hlt := List.mem_range.1 hk
  rw [Nat.div_div_eq_div_mul, show width - k = width - 1 - k + 1 by omega, Nat.pow_succ']

theorem idValue_append_singleton (l : List UInt8) (b : UInt8) :
  idValue (l ++ [b]) = idValue l * 256 + b.toNat
  := by
  simp only [idValue, List.foldl_append, List.foldl_cons, List.foldl_nil]

/-- A number that is written in network order is read back. -/
theorem idValue_setRaw (width value : Nat) :
  idValue (setRaw width value) = value % 256 ^ width
  := by
  induction width generalizing value with
  | zero => simp [setRaw, idValue, Nat.mod_one]
  | succ width ih =>
    have hmod : value % 256 ^ (width + 1) = value % 256 + 256 * (value / 256 % 256 ^ width) := by
      rw [Nat.pow_succ', Nat.mod_mul]
    rw [setRaw_succ, idValue_append_singleton, ih, UInt8.toNat_ofNat', hmod]
    omega

theorem be32_eq :
  data.be32 p = idValue (data.read p 4)
  := by
  simp only [Memory.be32, Memory.be16, Memory.read, idValue, List.range_succ, List.range_zero,
    List.nil_append, List.cons_append, List.map_cons, List.map_nil, List.foldl_cons,
    List.foldl_nil, Nat.add_assoc, Nat.add_zero, Nat.reduceAdd]
  omega

theorem be16_eq :
  data.be16 p = idValue (data.read p 2)
  := by
  simp only [Memory.be16, Memory.read, idValue, List.range_succ, List.range_zero,
    List.nil_append, List.cons_append, List.map_cons, List.map_nil, List.foldl_cons,
    List.foldl_nil, Nat.add_zero]
  omega

theorem be64_eq :
  data.be64 p = idValue (data.read p 8)
  := by
  simp only [Memory.be64, Memory.be32, Memory.be16, Memory.read, idValue, List.range_succ,
    List.range_zero, List.nil_append, List.cons_append, List.map_cons, List.map_nil,
    List.foldl_cons, List.foldl_nil, Nat.add_assoc, Nat.add_zero, Nat.reduceAdd]
  omega

section Numbers

variable {data : Memory} {p value : Nat}

theorem read_of_hasBytes {l : List UInt8} {n : Nat} (h : HasBytes data p l) (hn : l.length = n) :
  data.read p n = l
  := by
  rw [← hn]
  exact h

theorem be16_of_hasBytes (h : HasBytes data p (setRaw 2 value)) (hvalue : value < 2 ^ 16) :
  data.be16 p = value
  := by
  rw [be16_eq, read_of_hasBytes h (length_setRaw 2 value), idValue_setRaw]
  exact Nat.mod_eq_of_lt hvalue

theorem be32_of_hasBytes (h : HasBytes data p (setRaw 4 value)) (hvalue : value < 2 ^ 32) :
  data.be32 p = value
  := by
  rw [be32_eq, read_of_hasBytes h (length_setRaw 4 value), idValue_setRaw]
  exact Nat.mod_eq_of_lt hvalue

theorem be64_of_hasBytes (h : HasBytes data p (setRaw 8 value)) (hvalue : value < 2 ^ 64) :
  data.be64 p = value
  := by
  rw [be64_eq, read_of_hasBytes h (length_setRaw 8 value), idValue_setRaw]
  exact Nat.mod_eq_of_lt hvalue

end Numbers

/-! ### Key ids as strings -/

theorem toStdString_succ (width value : Nat) :
  toStdString (width + 1) value =
    toStdString width (value / 16) ++
      [UInt8.ofNat (if value % 16 < 10 then 48 + value % 16 else 87 + value % 16)]
  := by
  simp only [toStdString, List.range_succ, List.map_append, List.map_cons, List.map_nil,
    Nat.add_sub_cancel, Nat.sub_self, Nat.pow_zero, Nat.div_one]
  congr 1
  apply List.map_congr_left
  intro k hk
  have hlt := List.mem_range.1 hk
  rw [Nat.div_div_eq_div_mul, show width - k = width - 1 - k + 1 by omega, Nat.pow_succ']

theorem hexDigit_digit (digit : Nat) (h : digit < 16) :
  hexDigit (UInt8.ofNat (if digit < 10 then 48 + digit else 87 + digit)) = some digit
  := by
  interval_cases digit <;> rfl

theorem hexBytes_append (s : List UInt8) (a b : UInt8) (bytes : List UInt8) (hi lo : Nat)
    (hs : hexBytes s = some bytes) (ha : hexDigit a = some hi) (hb : hexDigit b = some lo) :
  hexBytes (s ++ [a, b]) = some (bytes ++ [UInt8.ofNat (hi * 16 + lo)])
  := by
  induction s using hexBytes.induct generalizing bytes with
  | case1 =>
    obtain rfl := Option.some.inj hs
    simp [hexBytes, ha, hb]
  | case2 c => exact absurd hs (by simp [hexBytes])
  | case3 c d s ih =>
    simp only [hexBytes, Option.bind_eq_bind, Option.pure_def, Option.bind_eq_some_iff] at hs
    obtain ⟨hi', hc, lo', hd, rest, hrest, hbytes⟩ := hs
    obtain rfl := Option.some.inj hbytes
    simp [hexBytes, hc, hd, ih rest hrest]

theorem hexBytes_toStdString (n value : Nat) :
  hexBytes (toStdString (2 * n) value) = some (setRaw n value)
  := by
  induction n generalizing value with
  | zero => rfl
  | succ n ih =>
    rw [show 2 * (n + 1) = 2 * n + 1 + 1 by omega, toStdString_succ, toStdString_succ,
      List.append_assoc, List.singleton_append, setRaw_succ]
    rw [hexBytes_append _ _ _ _ _ _ (ih (value / 16 / 16))
      (hexDigit_digit _ (Nat.mod_lt _ (by omega))) (hexDigit_digit _ (Nat.mod_lt _ (by omega)))]
    rw [Nat.div_div_eq_div_mul]
    congr 3
    apply UInt8.toNat.inj
    simp only [UInt8.toNat_ofNat']
    omega

theorem rsGxsId_toStdString :
  rsGxsId (toStdString 32 keyId) = setRaw 16 keyId
  := by
  have hbytes : hexBytes (toStdString 32 keyId) = some (setRaw 16 keyId) :=
    hexBytes_toStdString 16 keyId
  rw [rsGxsId, length_toStdString, if_pos (by decide), hbytes, Option.getD_some]

/-- An identifier of 16 bytes is read back. -/
theorem idValue_id {id : Nat} (hid : id < 2 ^ 128) :
  idValue (setRaw 16 id) = id
  := by
  rw [idValue_setRaw, show 256 ^ 16 = 2 ^ 128 by norm_num, Nat.mod_eq_of_lt hid]

/-- The digits are digits or lower-case letters. -/
theorem mem_toStdString {width value : Nat} {b : UInt8} (h : b ∈ toStdString width value) :
  (48 ≤ b.toNat ∧ b.toNat < 58) ∨ (97 ≤ b.toNat ∧ b.toNat < 103)
  := by
  simp only [toStdString, List.mem_map] at h
  obtain ⟨k, -, rfl⟩ := h
  have hlt := Nat.mod_lt (value / 16 ^ (width - 1 - k)) (show 16 > 0 by omega)
  rw [UInt8.toNat_ofNat']
  split <;> omega

theorem sanitise_toStdString :
  sanitise tlvTypeStrKeyid (toStdString 32 keyId) = toStdString 32 keyId
  := by
  have htype : tlvTypeStrKeyid ∉ singleLineTypes := by decide
  rw [sanitise, if_neg htype]
  apply removeSuspicious_eq
  intro b hb
  obtain hdigit | hdigit := mem_toStdString hb <;> omega

/-! ### Items -/

/-- `RS_PKT_VERSION_SERVICE`. -/
def rsPktVersionService : Nat := 0x02

/-- `RS_SERVICE_TYPE_GROUTER`. -/
def rsServiceTypeGRouter : Nat := 0x0018

/-- `RS_PKT_SUBTYPE_GROUTER_DATA`. -/
def rsPktSubtypeGRouterData : Nat := 0x07

/-- `RS_PKT_SUBTYPE_GROUTER_SIGNED_RECEIPT`. -/
def rsPktSubtypeGRouterSignedReceipt : Nat := 0x08

/-- `serialise_header` of an item of `size` bytes. -/
def serialiseHeader (subtype size : Nat) : List UInt8 :=
  setRaw 4 (rsPktVersionService * 2 ^ 24 + rsServiceTypeGRouter * 2 ^ 8 + subtype) ++
    setRaw 4 size

/-- `RsGRouterGenericDataItem::serialise`, in a buffer that has room for the item. -/
def RsGRouterGenericDataItem.serialise (item : RsGRouterGenericDataItem) : List UInt8 :=
  serialiseHeader rsPktSubtypeGRouterData item.serialSize ++
    (setRaw 8 item.routingId ++ (setRaw 16 item.destinationKey ++ (setRaw 4 item.serviceId ++
    (setRaw 4 item.dataBytes.length ++ (item.dataBytes ++ (item.signature.setTlv ++
    (setRaw 4 item.randomizedDistance ++ setRaw 4 item.flags.toNat)))))))

/-- `RsGRouterSignedReceiptItem::serialise`, in a buffer that has room for the item. -/
def RsGRouterSignedReceiptItem.serialise (item : RsGRouterSignedReceiptItem) : List UInt8 :=
  serialiseHeader rsPktSubtypeGRouterSignedReceipt item.serialSize ++
    (setRaw 8 item.routingId ++ (setRaw 4 item.flags.toNat ++ (setRaw 16 item.destinationKey ++
    (setRaw 4 item.serviceId ++ (setRaw 20 item.dataHash ++ item.signature.setTlv)))))

namespace RsGRouterAbstractMsgItem

def routingId : RsGRouterAbstractMsgItem → GRouterMsgPropagationId
  | .data item => item.routingId
  | .receipt item => item.routingId

def serialSize : RsGRouterAbstractMsgItem → Nat
  | .data item => item.serialSize
  | .receipt item => item.serialSize

def serialise : RsGRouterAbstractMsgItem → List UInt8
  | .data item => item.serialise
  | .receipt item => item.serialise

/-- The item without the peer that it came from, which is not serialised. -/
def withoutPeer : RsGRouterAbstractMsgItem → RsGRouterAbstractMsgItem
  | .data item => .data { item with peerId := 0 }
  | .receipt item => .receipt { item with peerId := 0 }

/-- The numbers of the item have the width of their fields. -/
def WellFormed : RsGRouterAbstractMsgItem → Prop
  | .data item => item.routingId < 2 ^ 64 ∧ item.destinationKey < 2 ^ 128 ∧
      item.serviceId < 2 ^ 32 ∧ item.signature.keyId < 2 ^ 128 ∧
      item.randomizedDistance < 2 ^ 32 ∧ item.serialSize < 2 ^ 32
  | .receipt item => item.routingId < 2 ^ 64 ∧ item.destinationKey < 2 ^ 128 ∧
      item.serviceId < 2 ^ 32 ∧ item.signature.keyId < 2 ^ 128 ∧ item.dataHash < 2 ^ 160 ∧
      item.serialSize < 2 ^ 32

end RsGRouterAbstractMsgItem

/-- `RsGRouterSerialiser::deserialise` of the packet `bytes`, when the item is a message; the
items of other types are no `RsGRouterAbstractMsgItem`.  Zeros are read behind the packet. -/
def RsGRouterSerialiser.deserialise (bytes : List UInt8) : Option RsGRouterAbstractMsgItem :=
  let data := Bytes.toMemory bytes
  let rstype := data.be32 0
  if rstype / 2 ^ 24 ≠ rsPktVersionService ∨ rstype / 2 ^ 8 % 2 ^ 16 ≠ rsServiceTypeGRouter then
    none
  else if rstype % 2 ^ 8 = rsPktSubtypeGRouterData then
    (deserialiseRsGRouterGenericDataItem data 0 bytes.length 0).value.join.map .data
  else if rstype % 2 ^ 8 = rsPktSubtypeGRouterSignedReceipt then
    (deserialiseRsGRouterSignedReceiptItem data bytes.length 0).value.join.map .receipt
  else
    none

theorem length_setTlv (signature : RsTlvKeySignature) :
  signature.setTlv.length = signature.tlvSize
  := by
  simp only [RsTlvKeySignature.setTlv, setTlvBase, RsTlvKeySignature.tlvSize, tlvHeaderSize,
    List.length_append, length_setRaw, length_toStdString]

theorem RsGRouterAbstractMsgItem.length_serialise (item : RsGRouterAbstractMsgItem) :
  item.serialise.length = item.serialSize
  := by
  cases item with
  | data item =>
    simp only [serialise, serialSize, RsGRouterGenericDataItem.serialise, serialiseHeader,
      RsGRouterGenericDataItem.serialSize, List.length_append, length_setRaw, length_setTlv]
    omega
  | receipt item =>
    simp only [serialise, serialSize, RsGRouterSignedReceiptItem.serialise, serialiseHeader,
      RsGRouterSignedReceiptItem.serialSize, List.length_append, length_setRaw, length_setTlv]
    ac_rfl

theorem signatureDecoded_of_hasBytes {data : Memory} {p : Nat} {signature : RsTlvKeySignature}
    (h : HasBytes data p signature.setTlv) (hlim : p + signature.tlvSize ≤ lim)
    (hbound : lim < 2 ^ 32) (hkeyId : signature.keyId < 2 ^ 128) :
  SignatureDecoded data lim p ∧ tlvEnd data p = p + signature.tlvSize ∧
    RsTlvKeySignature.ofTlv (signatureAt data p) = signature
  := by
  simp only [RsTlvKeySignature.setTlv, setTlvBase, hasBytes_append, length_setRaw,
    length_toStdString, List.length_append, Nat.add_assoc, Nat.reduceAdd] at h
  obtain ⟨⟨⟨htype, hsize⟩, ⟨⟨hktype, hksize⟩, hkey⟩⟩, ⟨hstype, hssize⟩, hsign⟩ := h
  simp only [RsTlvKeySignature.tlvSize, tlvHeaderSize] at hlim
  have etype := be16_of_hasBytes htype (by omega)
  have esize := be32_of_hasBytes hsize (by omega)
  have ektype := be16_of_hasBytes hktype (by omega)
  have eksize := be32_of_hasBytes hksize (by omega)
  have estype := be16_of_hasBytes hstype (by omega)
  have essize := be32_of_hasBytes hssize (by omega)
  have hend : tlvEnd data p = p + (50 + signature.signData.length) := by
    rw [tlvEnd, esize]
    exact Nat.mod_eq_of_lt (by omega)
  have hadd {n : Nat} (hn : n ≤ 50 + signature.signData.length) : add32 p n = p + n :=
    Nat.mod_eq_of_lt (by omega)
  have hstart : add32 p tlvHeaderSize = p + 6 := hadd (by simp only [tlvHeaderSize]; omega)
  have hkeyEnd : tlvEnd data (p + 6) = p + 44 := by
    rw [tlvEnd, eksize]
    exact Nat.mod_eq_of_lt (by omega)
  have hkeyDecoded : StringDecoded data tlvTypeStrKeyid (tlvEnd data p) (p + 6) := by
    rw [hend]
    refine ⟨by omega, ?_, ektype⟩
    change tlvEnd data (p + 6) ≤ _
    rw [hkeyEnd]
    omega
  have hkeyIdEnd : keyIdEnd data p = p + 44 := by
    rw [keyIdEnd, hstart, if_pos hkeyDecoded, hkeyEnd]
  have hkeyString : data.read (p + 12) 32 = toStdString 32 signature.keyId :=
    read_of_hasBytes hkey (length_toStdString 32 _)
  have hsignData : data.read (p + 50) signature.signData.length = signature.signData := hsign
  refine ⟨⟨⟨?_, ?_, etype⟩, ?_, ?_⟩, ?_, ?_⟩
  · rw [hstart]
    omega
  · change tlvEnd data p ≤ lim
    rw [hend]
    omega
  · rwa [hstart]
  · rw [hkeyIdEnd, hend]
    refine ⟨?_, ⟨?_, estype⟩, ?_⟩
    · simp only [add32, tlvHeaderSize]
      omega
    · simp only [add32, Nat.add_assoc, Nat.reduceAdd, essize]
      omega
    · simp only [Nat.add_assoc, Nat.reduceAdd, essize, tlvHeaderSize]
      omega
  · rw [hend]
    simp only [RsTlvKeySignature.tlvSize, tlvHeaderSize]
    omega
  · have hkeySize : sub32 (data.be32 (p + 6 + 2)) tlvHeaderSize = 32 := by
      simp only [Nat.add_assoc, Nat.reduceAdd, eksize]
      rfl
    have hblob : add32 (p + 44) tlvHeaderSize = p + 50 := by
      simp only [add32, tlvHeaderSize]
      omega
    have hblobSize : data.be32 (p + 44 + 2) - tlvHeaderSize = signature.signData.length := by
      simp only [Nat.add_assoc, Nat.reduceAdd, essize, tlvHeaderSize]
      omega
    rw [signatureAt, hstart, hkeyIdEnd, hkeySize, hblob, hblobSize, hsignData]
    rw [show p + 6 + tlvHeaderSize = p + 12 from rfl, hkeyString, sanitise_toStdString,
      rsGxsId_toStdString, RsTlvKeySignature.ofTlv, idValue_id hkeyId]

theorem dataItem_of_hasBytes {data : Memory} {item : RsGRouterGenericDataItem}
    (h : HasBytes data 0 item.serialise) (hwell : (RsGRouterAbstractMsgItem.data item).WellFormed)
    (hlim : item.serialSize ≤ lim) (hbound : lim < 2 ^ 32) :
  DataItemDecoded data lim ∧ dataItemAt data = { item with peerId := 0 }
  := by
  obtain ⟨hroutingId, hkey, hservice, hkeyId, hdistance, hsize⟩ := hwell
  have hflags := item.flags.toNat_lt
  simp only [RsGRouterGenericDataItem.serialise, serialiseHeader, hasBytes_append, length_setRaw,
    length_setTlv, List.length_append, Nat.add_assoc, Nat.reduceAdd, Nat.zero_add] at h
  obtain ⟨⟨-, hbsize⟩, hbrouting, hbkey, hbservice, hblen, hbdata, hbsign, hbdistance, hbflags⟩ := h
  have hlen : item.serialSize = 48 + (item.dataBytes.length + item.signature.tlvSize) := by
    simp only [RsGRouterGenericDataItem.serialSize]
    omega
  have esize := be32_of_hasBytes hbsize hsize
  have elen := be32_of_hasBytes hblen (by omega)
  have hsignStart : add32 40 (data.be32 36) = 40 + item.dataBytes.length := by
    rw [elen]
    exact Nat.mod_eq_of_lt (by omega)
  have hroom : 40 + item.dataBytes.length + item.signature.tlvSize ≤ lim := by omega
  obtain ⟨hdecoded, hend, hsignature⟩ := signatureDecoded_of_hasBytes hbsign hroom hbound hkeyId
  have hsignEnd : signatureEnd data lim (40 + item.dataBytes.length) =
      40 + (item.dataBytes.length + item.signature.tlvSize) := by
    rw [signatureEnd, if_pos hdecoded.1, hend, Nat.add_assoc]
  have hadd4 : add32 (40 + (item.dataBytes.length + item.signature.tlvSize)) 4 =
      40 + (item.dataBytes.length + (item.signature.tlvSize + 4)) := by
    simp only [add32]
    omega
  have hadd8 : add32 (40 + (item.dataBytes.length + (item.signature.tlvSize + 4))) 4 =
      item.serialSize := by
    simp only [add32]
    omega
  constructor
  · rw [DataItemDecoded, hsignStart, hsignEnd, hadd4, hadd8, esize, elen]
    refine ⟨by omega, ?_, hdecoded, by omega, hlim, rfl⟩
    simp only [add32]
    omega
  · rw [dataItemAt, hsignStart, hend, hsignature, elen, Nat.add_assoc, hadd4,
      be64_of_hasBytes hbrouting hroutingId, be32_of_hasBytes hbservice hservice,
      be32_of_hasBytes hbdistance hdistance, be32_of_hasBytes hbflags hflags,
      read_of_hasBytes hbkey (length_setRaw 16 _), idValue_id hkey, read_of_hasBytes hbdata rfl,
      UInt32.ofNat_toNat]

/-- A number or an id that lies in the packet is decoded. -/
theorem returns_getRaw_of_le {α : Type} {n p : Nat} (hlim : lim < 2 ^ 32) (hp : p + n ≤ lim)
    (value : Nat → α) (old : α) :
  Returns (getRaw n value lim old) p (true, value p) (p + n)
  := by
  have hwrap : p + n < 2 ^ 32 := by omega
  have h := @returns_getRaw_of_lt lim p n α hwrap value old
  rwa [decide_eq_true hp, if_pos hp, fieldEnd_of_le hp] at h

theorem receipt_of_hasBytes {data : Memory} {item : RsGRouterSignedReceiptItem}
    (h : HasBytes data 0 item.serialise)
    (hwell : (RsGRouterAbstractMsgItem.receipt item).WellFormed) :
  Returns (deserialiseRsGRouterSignedReceiptItem data item.serialSize) 0
    (some { item with peerId := 0 }) item.serialSize
  := by
  obtain ⟨hroutingId, hkey, hservice, hkeyId, hhash, hsize⟩ := hwell
  have hflags := item.flags.toNat_lt
  simp only [RsGRouterSignedReceiptItem.serialise, serialiseHeader, hasBytes_append, length_setRaw,
    List.length_append, Nat.add_assoc, Nat.reduceAdd, Nat.zero_add] at h
  obtain ⟨⟨-, hbsize⟩, hbrouting, hbflags, hbkey, hbservice, hbhash, hbsign⟩ := h
  have hlen : item.serialSize = 60 + item.signature.tlvSize := by
    simp only [RsGRouterSignedReceiptItem.serialSize]
  obtain ⟨hdecoded, hend, hsignature⟩ := signatureDecoded_of_hasBytes hbsign hlen.ge hsize hkeyId
  obtain ⟨signature, hreturns, hsame⟩ := returns_signature data item.serialSize 60
  rw [decide_eq_true hdecoded, hsame hdecoded, signatureEnd, if_pos hdecoded.1, hend, ← hlen]
    at hreturns
  have hhash' : idValue (setRaw 20 item.dataHash) = item.dataHash := by
    rw [idValue_setRaw, show 256 ^ 20 = 2 ^ 160 by norm_num, Nat.mod_eq_of_lt hhash]
  rw [deserialiseRsGRouterSignedReceiptItem]
  apply (returns_seek 8 0).bind
  apply (returns_getRsItemSize data 8).bind
  apply (returns_getRaw_of_le hsize (by omega) _ _).bind
  apply (returns_getRaw_of_le hsize (by omega) _ _).bind
  apply (returns_getRaw_of_le hsize (by omega) _ _).bind
  apply (returns_getRaw_of_le hsize (by omega) _ _).bind
  apply (returns_getRaw_of_le hsize (by simp only [sha1Size]; omega) _ _).bind
  apply hreturns.bind
  have hfinish := returns_finish true (data.be32 4)
    ({ item with peerId := 0 } : RsGRouterSignedReceiptItem) item.serialSize
  rw [be32_of_hasBytes hbsize hsize, if_neg (by simp)] at hfinish
  convert hfinish using 2
  · rfl
  · exact be32_of_hasBytes hbsize hsize
  · simp only [Nat.reduceAdd, sha1Size, be64_of_hasBytes hbrouting hroutingId,
      be32_of_hasBytes hbservice hservice, be32_of_hasBytes hbflags hflags, hsignature,
      read_of_hasBytes hbkey (length_setRaw 16 _), idValue_id hkey,
      read_of_hasBytes hbhash (length_setRaw 20 _), hhash', UInt32.ofNat_toNat]

/-- A message that is written is read back. -/
theorem deserialise_serialise {item : RsGRouterAbstractMsgItem} (hwell : item.WellFormed) :
  RsGRouterSerialiser.deserialise item.serialise = some item.withoutPeer
  := by
  have h := hasBytes_toMemory item.serialise
  have hlength := item.length_serialise
  rw [RsGRouterSerialiser.deserialise, hlength]
  generalize Bytes.toMemory item.serialise = data at h ⊢
  cases item with
  | data item =>
    obtain ⟨⟨htype, -⟩, -⟩ := (hasBytes_append _ _ _ _).1 h |>.imp
      (hasBytes_append _ _ _ _).1 id
    obtain ⟨hdecoded, hitem⟩ := dataItem_of_hasBytes h hwell le_rfl hwell.2.2.2.2.2
    obtain ⟨q, hvalue, -⟩ := returns_dataItem data 0 item.serialSize
    rw [if_pos hdecoded, hitem] at hvalue
    simp only [be32_of_hasBytes htype (by decide)]
    rw [if_neg (by decide), if_pos (by decide)]
    simp only [RsGRouterAbstractMsgItem.serialSize, hvalue, Option.join_some, Option.map_some,
      RsGRouterAbstractMsgItem.withoutPeer]
  | receipt item =>
    obtain ⟨⟨htype, -⟩, -⟩ := (hasBytes_append _ _ _ _).1 h |>.imp
      (hasBytes_append _ _ _ _).1 id
    obtain ⟨hvalue, -⟩ := receipt_of_hasBytes h hwell
    simp only [be32_of_hasBytes htype (by decide)]
    rw [if_neg (by decide), if_neg (by decide), if_pos (by decide)]
    simp only [RsGRouterAbstractMsgItem.serialSize, hvalue, Option.join_some, Option.map_some,
      RsGRouterAbstractMsgItem.withoutPeer]

end GRouter
