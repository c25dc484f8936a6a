import RetroShare.Serialiser.NxsItems

/-!
# Items as packets

`RsNxsItem.toBytes` is the packet of an item.  `RsNxsSerialiser` writes these bytes into a buffer
that has room for them, and reads the item back from them, for every kind of item.
-/

namespace Nxs

open Serialiser Decoder Encoder
open GRouter (setRaw HasBytes hasBytes_append finish rsPktVersionService)

/-! ### The packet of an item -/

/-- The subtype of an item. -/
def RsNxsItem.subtype : RsNxsItem → Nat
  | .syncGrp _ => rsPktSubtypeNxsSyncGrp
  | .syncGrpItem _ => rsPktSubtypeNxsSyncGrpItem
  | .syncMsg _ => rsPktSubtypeNxsSyncMsg
  | .syncMsgItem _ => rsPktSubtypeNxsSyncMsgItem
  | .grp _ => rsPktSubtypeNxsGrp
  | .msg _ => rsPktSubtypeNxsMsg
  | .trans _ => rsPktSubtypeNxsTrans
  | .groupPublishKey _ => rsPktSubtypeNxsGrpPublishKey

variable (servtype : UInt16) (item : RsNxsItem)

/-- What is written of an item after the header. -/
def RsNxsItem.parts : RsNxsItem → List Part32
  | .syncGrp item => item.parts
  | .syncGrpItem item => item.parts
  | .syncMsg item => item.parts
  | .syncMsgItem item => item.parts
  | .grp item => item.parts servtype
  | .msg item => item.parts servtype
  | .trans item => item.parts
  | .groupPublishKey item => item.parts

/-- A packet with the given content. -/
def packet (subtype : Nat) (content : List UInt8) : List UInt8 :=
  setRaw 4 (packetId servtype subtype) ++ (setRaw 4 (8 + content.length) ++ content)

/-- The packet of an item. -/
def RsNxsItem.toBytes (item : RsNxsItem) : List UInt8 :=
  packet servtype item.subtype (Component.bytesOf (item.parts servtype))

/-- The item with the transmitted members: the transaction number of a publish key is not one. -/
def RsNxsItem.transmitted : RsNxsItem → RsNxsItem
  | .groupPublishKey item => .groupPublishKey { item with transactionNumber := 0 }
  | item => item

/-- `GetTlvString` does not change the hash of the item. -/
def RsNxsItem.HashUnchanged : RsNxsItem → Prop
  | .syncGrp item => sanitise tlvTypeStrHashSha1 item.syncHash = item.syncHash
  | .syncMsg item => sanitise tlvTypeStrHashSha1 item.syncHash = item.syncHash
  | _ => True

@[simp]
theorem length_packet (subtype : Nat) (content : List UInt8) :
  (packet servtype subtype content).length = 8 + content.length
  := by
  simp only [packet, List.length_append, GRouter.length_setRaw]
  omega

/-! ### Serialisation -/

theorem serialiseItem_eq {subtype tlvsize : Nat} {parts : List Part32} {data : Memory} {size : Nat}
    (htlvsize : tlvsize = 8 + (Component.bytesOf parts).length) (hbound : tlvsize < 2 ^ 32)
    (hsize : tlvsize ≤ size) :
  serialiseItem servtype subtype tlvsize parts data size =
    (true, data.store 0 (packet servtype subtype (Component.bytesOf parts)), tlvsize)
  := by
  have hheader : Writes (all [setRawUInt32 8 (packetId servtype subtype), setRawUInt32 8 tlvsize])
      0 (setRaw 4 (packetId servtype subtype) ++ (setRaw 4 tlvsize ++ [])) := by
    apply ((Part32.uInt32 _).writes 8 0 _ (by decide)).cons
    · apply ((Part32.uInt32 _).writes 8 _ _ (by decide)).cons (writes_nil _)
      simp
    · simp
  have hbody := Component.writes_parts hbound parts 8 (by omega)
  rw [serialiseItem, if_neg (by omega)]
  simp only [setRsItemHeader]
  rw [if_neg (by omega), hheader data]
  simp only [hbody _]
  simp [packet, htlvsize, Memory.store_append]

theorem size_eq_mod :
  size servtype item = (item.toBytes servtype).length % 2 ^ 32
  := by
  rw [RsNxsItem.toBytes, length_packet]
  cases item with
  | syncGrp item =>
    simp [size, sizeNxsSyncGrp, sum32_eq, RsNxsItem.parts, RsNxsSyncGrp.parts,
      getTlvStringSize, add32]
    omega
  | syncGrpItem item =>
    simp [size, sizeNxsSyncGrpItem, sum32_eq, RsNxsItem.parts, RsNxsSyncGrpItem.parts,
      item.grpId.2, item.authorId.2, certSignLen]
  | syncMsg item =>
    simp [size, sizeNxsSyncMsg, sum32_eq, RsNxsItem.parts, RsNxsSyncMsg.parts,
      getTlvStringSize, add32, item.grpId.2]
    omega
  | syncMsgItem item =>
    simp [size, sizeNxsSyncMsgItem, sum32_eq, RsNxsItem.parts, RsNxsSyncMsgItem.parts,
      item.grpId.2, item.msgId.2, item.authorId.2]
  | grp item =>
    simp [size, sizeNxsGrp, sum32_eq, RsNxsItem.parts, RsNxsGrp.parts, binaryData,
      RsTlvBinaryData.tlvSize, add32, item.grpId.2]
    omega
  | msg item =>
    simp [size, sizeNxsMsg, sum32_eq, RsNxsItem.parts, RsNxsMsg.parts, binaryData,
      RsTlvBinaryData.tlvSize, add32, item.grpId.2, item.msgId.2]
    omega
  | trans item =>
    simp [size, sizeNxsTrans, sum32_eq, RsNxsItem.parts, RsNxsTransac.parts]
  | groupPublishKey item =>
    simp [size, sizeNxsGroupPublishKeyItem, sum32_eq, RsNxsItem.parts,
      RsNxsGroupPublishKeyItem.parts, RsTlvSecurityKey.tlvSize_eq, item.grpId.2]
    omega

theorem serialise_eq :
  serialise servtype item =
    serialiseItem servtype item.subtype (size servtype item) (item.parts servtype)
  := by
  cases item <;> rfl

/-! ### Deserialisation -/

/-- The packet of an item lies in the buffer. -/
structure InBuffer (item : RsNxsItem) (data : Memory) (size : Nat) : Prop where
  bytes : HasBytes data 0 (item.toBytes servtype)
  bound : (item.toBytes servtype).length < 2 ^ 32
  room : (item.toBytes servtype).length ≤ size

section Deserialise

variable {servtype : UInt16} {data : Memory} {size : Nat} {item : RsNxsItem} {α : Type}
  (key : RsTlvSecurityKey)

theorem RsNxsItem.subtype_lt (item : RsNxsItem) :
  item.subtype < 2 ^ 8
  := by
  cases item <;> simp only [subtype] <;> decide

theorem packetId_fields (servtype : UInt16) (item : RsNxsItem) :
  getRsItemVersion (packetId servtype item.subtype) = rsPktVersionService ∧
    getRsItemService (packetId servtype item.subtype) = servtype.toNat ∧
    getRsItemSubType (packetId servtype item.subtype) = item.subtype
  := by
  have hservtype := servtype.toNat_lt
  have hsubtype := item.subtype_lt
  simp only [packetId, getRsItemVersion, getRsItemService, getRsItemSubType, rsPktVersionService]
  omega

section

variable (h : InBuffer servtype item data size)

include h

theorem InBuffer.header :
  data.be32 0 = packetId servtype item.subtype ∧
    data.be32 4 = (item.toBytes servtype).length ∧
    HasBytes data 8 (Component.bytesOf (item.parts servtype))
  := by
  obtain ⟨hbytes, hbound, -⟩ := h
  rw [RsNxsItem.toBytes, length_packet] at hbound ⊢
  simp only [RsNxsItem.toBytes, packet, hasBytes_append, GRouter.length_setRaw, Nat.zero_add,
    Nat.reduceAdd] at hbytes
  obtain ⟨htype, hsizeBytes, hcontent⟩ := hbytes
  refine ⟨?_, GRouter.be32_of_hasBytes hsizeBytes hbound, hcontent⟩
  apply GRouter.be32_of_hasBytes htype
  have hservtype := servtype.toNat_lt
  have hsubtype := item.subtype_lt
  simp only [packetId, rsPktVersionService]
  omega

theorem InBuffer.deserialItem_eq {a : α} {body : Memory → Nat → Dec (Bool × α)}
    (hbody : Reads body (Component.bytesOf (item.parts servtype)) a) :
  deserialItem servtype data item.subtype size (body data) =
    (some a, (item.toBytes servtype).length)
  := by
  obtain ⟨etype, esize, hcontent⟩ := h.header
  obtain ⟨hversion, hservice, hsubtype⟩ := packetId_fields servtype item
  have hroom := h.room
  have hlength : 8 + (Component.bytesOf (item.parts servtype)).length =
      (item.toBytes servtype).length :=
    (length_packet _ _ _).symm
  have hreads := hbody data (item.toBytes servtype).length 8 hcontent hlength.le h.bound
  rw [hlength] at hreads
  have hfinish := GRouter.returns_finish true (item.toBytes servtype).length a
    (item.toBytes servtype).length
  rw [if_neg (by simp)] at hfinish
  obtain ⟨hvalue, -⟩ := Returns.bind
    (f := fun r => finish r.1 (item.toBytes servtype).length r.2) hreads hfinish
  simp only [deserialItem, etype, esize, hversion, hservice, hsubtype]
  rw [if_neg (by simp), if_neg (by omega), hvalue]
  rfl

theorem InBuffer.deserialise_eq :
  deserialise servtype data size = deserialiseSubType servtype data size item.subtype
  := by
  obtain ⟨etype, -, -⟩ := h.header
  obtain ⟨hversion, hservice, hsubtype⟩ := packetId_fields servtype item
  simp only [deserialise, etype, hversion, hservice, hsubtype]
  rw [if_neg (by simp)]

end

theorem ofBytes_val {n : Nat} (id : RsGenericId n) :
  RsGenericId.ofBytes id.1 = id
  := by
  rw [RsGenericId.ofBytes, dif_pos id.2]

theorem reads_id {n : Nat} (id : RsGenericId n) :
  Reads (fun data size => RsGenericId.deserialise data n size) id.1 id
  := by
  rw [← List.append_nil id.1]
  apply (reads_deserialiseId id.2 _).cons
  rw [ofBytes_val]
  apply Reads.nil

theorem reads_getBinaryData (servtype : UInt16) (bytes : List UInt8) :
  Reads (fun data size => getBinaryData servtype data size) (tlvBytes servtype.toNat bytes) bytes
  := by
  rw [← List.append_nil (tlvBytes _ _)]
  apply (reads_binaryData servtype.toNat_lt bytes []).cons
  apply Reads.nil

theorem InBuffer.syncGrp {item : RsNxsSyncGrp} (h : InBuffer servtype (.syncGrp item) data size)
    (hhash : (RsNxsItem.syncGrp item).HashUnchanged) :
  deserialNxsSyncGrp servtype data size =
    (some item, ((RsNxsItem.syncGrp item).toBytes servtype).length)
  := by
  apply h.deserialItem_eq
  apply (reads_getRawUInt32 item.transactionNumber.toNat_lt 0).cons
  apply (reads_getRawUInt8 item.flag.toNat_lt 0).cons
  apply (reads_getRawUInt32 item.createdSince.toNat_lt 0).cons
  apply (reads_getTlvString (by decide) item.syncHash []).cons
  apply (reads_getRawUInt32 item.updateTS.toNat_lt 0).cons
  simp only [UInt32.ofNat_toNat, UInt8.ofNat_toNat, show sanitise _ _ = _ from hhash]
  apply Reads.nil

theorem InBuffer.syncGrpItem {item : RsNxsSyncGrpItem}
    (h : InBuffer servtype (.syncGrpItem item) data size) :
  deserialNxsSyncGrpItem servtype data size =
    (some item, ((RsNxsItem.syncGrpItem item).toBytes servtype).length)
  := by
  apply h.deserialItem_eq
  apply (reads_getRawUInt32 item.transactionNumber.toNat_lt 0).cons
  apply (reads_getRawUInt8 item.flag.toNat_lt 0).cons
  apply (reads_id item.grpId).cons
  apply (reads_getRawUInt32 item.publishTs.toNat_lt 0).cons
  apply (reads_id item.authorId).cons
  simp only [UInt32.ofNat_toNat, UInt8.ofNat_toNat]
  apply Reads.nil

theorem InBuffer.syncMsg {item : RsNxsSyncMsg} (h : InBuffer servtype (.syncMsg item) data size)
    (hhash : (RsNxsItem.syncMsg item).HashUnchanged) :
  deserialNxsSyncMsg servtype data size =
    (some item, ((RsNxsItem.syncMsg item).toBytes servtype).length)
  := by
  apply h.deserialItem_eq
  apply (reads_getRawUInt32 item.transactionNumber.toNat_lt 0).cons
  apply (reads_getRawUInt8 item.flag.toNat_lt 0).cons
  apply (reads_getRawUInt32 item.createdSince.toNat_lt 0).cons
  apply (reads_getTlvString (by decide) item.syncHash []).cons
  apply (reads_id item.grpId).cons
  apply (reads_getRawUInt32 item.updateTS.toNat_lt 0).cons
  simp only [UInt32.ofNat_toNat, UInt8.ofNat_toNat, show sanitise _ _ = _ from hhash]
  apply Reads.nil

theorem InBuffer.syncMsgItem {item : RsNxsSyncMsgItem}
    (h : InBuffer servtype (.syncMsgItem item) data size) :
  deserialNxsSyncMsgItem servtype data size =
    (some item, ((RsNxsItem.syncMsgItem item).toBytes servtype).length)
  := by
  apply h.deserialItem_eq
  apply (reads_getRawUInt32 item.transactionNumber.toNat_lt 0).cons
  apply (reads_getRawUInt8 item.flag.toNat_lt 0).cons
  apply (reads_id item.grpId).cons
  apply (reads_id item.msgId).cons
  apply (reads_id item.authorId).cons
  simp only [UInt32.ofNat_toNat, UInt8.ofNat_toNat]
  apply Reads.nil

theorem InBuffer.grp {item : RsNxsGrp} (h : InBuffer servtype (.grp item) data size) :
  deserialNxsGrp servtype data size =
    (some item, ((RsNxsItem.grp item).toBytes servtype).length)
  := by
  apply h.deserialItem_eq
  apply (reads_getRawUInt32 item.transactionNumber.toNat_lt 0).cons
  apply (reads_getRawUInt8 item.pos.toNat_lt 0).cons
  apply (reads_id item.grpId).cons
  apply (reads_getBinaryData servtype item.grp).cons
  apply (reads_getBinaryData servtype item.meta_).cons
  simp only [UInt32.ofNat_toNat, UInt8.ofNat_toNat]
  apply Reads.nil

theorem InBuffer.msg {item : RsNxsMsg} (h : InBuffer servtype (.msg item) data size) :
  deserialNxsMsg servtype data size =
    (some item, ((RsNxsItem.msg item).toBytes servtype).length)
  := by
  apply h.deserialItem_eq
  apply (reads_getRawUInt32 item.transactionNumber.toNat_lt 0).cons
  apply (reads_getRawUInt8 item.pos.toNat_lt 0).cons
  apply (reads_id item.msgId).cons
  apply (reads_id item.grpId).cons
  apply (reads_getBinaryData servtype item.msg).cons
  apply (reads_getBinaryData servtype item.meta_).cons
  simp only [UInt32.ofNat_toNat, UInt8.ofNat_toNat]
  apply Reads.nil

theorem InBuffer.trans {item : RsNxsTransac} (h : InBuffer servtype (.trans item) data size) :
  deserialNxsTrans servtype data size =
    (some item, ((RsNxsItem.trans item).toBytes servtype).length)
  := by
  apply h.deserialItem_eq
  apply (reads_getRawUInt32 item.transactionNumber.toNat_lt 0).cons
  apply (reads_getRawUInt16 item.transactFlag.toNat_lt 0).cons
  apply (reads_getRawUInt32 item.nItems.toNat_lt 0).cons
  apply (reads_getRawUInt32 item.updateTS.toNat_lt 0).cons
  simp only [UInt32.ofNat_toNat, UInt16.ofNat_toNat]
  apply Reads.nil

theorem RsTlvSecurityKey.valid_toTlv :
  key.toTlv.Valid
  := ⟨key.keyId.2, key.keyFlags.toNat_lt, key.startTS.toNat_lt, key.endTS.toNat_lt, rfl⟩

theorem RsTlvSecurityKey.ofTlv_toTlv :
  ofTlv key.toTlv = key
  := by
  simp only [ofTlv, toTlv, ofBytes_val, UInt32.ofNat_toNat]

theorem InBuffer.groupPublishKey {item : RsNxsGroupPublishKeyItem}
    (h : InBuffer servtype (.groupPublishKey item) data size) :
  deserialNxsGroupPublishKeyItem servtype data size =
    (some { item with transactionNumber := 0 },
      ((RsNxsItem.groupPublishKey item).toBytes servtype).length)
  := by
  apply h.deserialItem_eq
  apply (reads_id item.grpId).cons
  apply (reads_key item.key.valid_toTlv).cons
  rw [RsTlvSecurityKey.ofTlv_toTlv]
  apply Reads.nil

theorem InBuffer.deserialise (h : InBuffer servtype item data size) (hhash : item.HashUnchanged) :
  deserialise servtype data size =
    (some item.transmitted, (item.toBytes servtype).length)
  := by
  rw [h.deserialise_eq]
  cases item with
  | syncGrp item => exact congrArg (asItem .syncGrp) (h.syncGrp hhash)
  | syncGrpItem item => exact congrArg (asItem .syncGrpItem) h.syncGrpItem
  | syncMsg item => exact congrArg (asItem .syncMsg) (h.syncMsg hhash)
  | syncMsgItem item => exact congrArg (asItem .syncMsgItem) h.syncMsgItem
  | grp item => exact congrArg (asItem .grp) h.grp
  | msg item => exact congrArg (asItem .msg) h.msg
  | trans item => exact congrArg (asItem .trans) h.trans
  | groupPublishKey item => exact congrArg (asItem .groupPublishKey) h.groupPublishKey

/-- An item is read neither by the decoder of its kind nor by another when it is longer than the
buffer. -/
theorem deserialItem_of_lt {subtype : Nat} {body : Nat → Dec (Bool × α)} (h : size < data.be32 4) :
  deserialItem servtype data subtype size body = (none, size)
  := by
  simp only [deserialItem, if_pos h, ite_self]

theorem deserialise_of_lt (h : size < data.be32 4) :
  Nxs.deserialise servtype data size = (none, size)
  := by
  have hswitch : ∀ subtype, deserialiseSubType servtype data size subtype = (none, size) := by
    intro subtype
    simp only [deserialiseSubType, deserialNxsSyncGrp, deserialNxsSyncGrpItem, deserialNxsSyncMsg,
      deserialNxsSyncMsgItem, deserialNxsGrp, deserialNxsMsg, deserialNxsTrans,
      deserialNxsGroupPublishKeyItem, deserialItem_of_lt h, asItem, Option.map_none, ite_self]
  simp only [Nxs.deserialise, hswitch, ite_self]

end Deserialise

/-! ### Round trip -/

/-- An item whose hash is not changed and whose packet is not too long is written into every buffer
that has room for it: exactly its packet is written, and the item is read back from it.  Nothing is
read from a buffer that is shorter than the size in its header. -/
theorem serialise_deserialise :
  (∀ (item : RsNxsItem) (data : Memory) (capacity : Nat), item.HashUnchanged →
    (item.toBytes servtype).length < 2 ^ 32 → size servtype item ≤ capacity →
      (item.toBytes servtype).length = size servtype item ∧
      serialise servtype item data capacity =
        (true, data.store 0 (item.toBytes servtype), size servtype item) ∧
      ∀ n, size servtype item ≤ n →
        deserialise servtype (data.store 0 (item.toBytes servtype)) n =
          (some item.transmitted, size servtype item)) ∧
  ∀ (data : Memory) (n : Nat), n < data.be32 4 → deserialise servtype data n = (none, n)
  := by
  refine ⟨?_, fun data n h => deserialise_of_lt h⟩
  intro item data capacity hhash hbound hcapacity
  have hsize : size servtype item = (item.toBytes servtype).length := by
    rw [size_eq_mod, Nat.mod_eq_of_lt hbound]
  refine ⟨hsize.symm, ?_, ?_⟩
  · have hlength := length_packet servtype item.subtype (Component.bytesOf (item.parts servtype))
    rw [serialise_eq, serialiseItem_eq servtype (hsize.trans hlength) (hsize ▸ hbound) hcapacity]
    rfl
  · intro n hn
    have hbuffer : InBuffer servtype item (data.store 0 (item.toBytes servtype)) n :=
      ⟨hasBytes_store _ _ _, hbound, hsize ▸ hn⟩
    rw [hbuffer.deserialise hhash, hsize]

/-- The group whose data is one byte, and which has no meta data. -/
def oneByteGrp : RsNxsItem :=
  .grp { transactionNumber := 7, grpId := .ofBytes [], grp := [1], pos := 0, meta_ := [] }

/-- The packet of a group of the service `0x0215` is written and read back. -/
theorem serialise_deserialise_oneByteGrp :
  (oneByteGrp.toBytes 0x0215).length = size 0x0215 oneByteGrp ∧
    serialise 0x0215 oneByteGrp (fun _ => 0) 64 =
      (true, Memory.store (fun _ => 0) 0 (oneByteGrp.toBytes 0x0215), size 0x0215 oneByteGrp) ∧
    deserialise 0x0215 (Memory.store (fun _ => 0) 0 (oneByteGrp.toBytes 0x0215)) 42 =
      (some oneByteGrp, 42)
  := by
  have h := (serialise_deserialise 0x0215).1 oneByteGrp (fun _ => 0) 64 trivial (by decide)
    (by decide)
  exact ⟨h.1, h.2.1, h.2.2 42 (by decide)⟩

end Nxs
