import RetroShare.Serialiser.SetTlv

/-!
# The items of the network exchange service

`RsNxsSerialiser` of `rsnxsitems.cc`: for each kind of `RsNxsItem` the size of an item, the parts
that are written, and the decoder.  The service is `servtype`, which the constructors of the items
get and give to their binary data as its type.  The members that are not transmitted (`count`,
`timestamp` and `metaData`) are left out.
-/

namespace Nxs

open Serialiser Decoder Encoder
open GRouter (setRaw finish rsPktVersionService)

/-! ### Items -/

/-- An id of `n` bytes. -/
abbrev RsGenericId (n : Nat) : Type := { bytes : List UInt8 // bytes.length = n }

/-- The id with the given bytes, the null id when they are not as many as they have to be. -/
def RsGenericId.ofBytes {n : Nat} (bytes : List UInt8) : RsGenericId n :=
  if h : bytes.length = n then ⟨bytes, h⟩ else ⟨List.replicate n 0, List.length_replicate⟩

/-- `RsGxsGroupId`. -/
abbrev RsGxsGroupId : Type := RsGenericId 16

/-- `RsGxsMessageId`. -/
abbrev RsGxsMessageId : Type := RsGenericId sha1Size

/-- `RsGxsId`. -/
abbrev RsGxsId : Type := RsGenericId certSignLen

/-- `RsTlvSecurityKey`, whose data has the type that the constructor gives it. -/
structure RsTlvSecurityKey where
  keyId : RsGxsId
  keyFlags : UInt32
  startTS : UInt32
  endTS : UInt32
  keyData : List UInt8
  deriving DecidableEq

/-- The key as it is encoded. -/
def RsTlvSecurityKey.toTlv (key : RsTlvSecurityKey) : Serialiser.RsTlvSecurityKey where
  keyId := key.keyId.1
  keyFlags := key.keyFlags.toNat
  startTS := key.startTS.toNat
  endTS := key.endTS.toNat
  keyData := ⟨tlvTypeKeyEvpPkey, key.keyData⟩

/-- The key that has been decoded. -/
def RsTlvSecurityKey.ofTlv (key : Serialiser.RsTlvSecurityKey) : RsTlvSecurityKey where
  keyId := .ofBytes key.keyId
  keyFlags := .ofNat key.keyFlags
  startTS := .ofNat key.startTS
  endTS := .ofNat key.endTS
  keyData := key.keyData.binData

/-- `RsNxsSyncGrp`. -/
structure RsNxsSyncGrp where
  transactionNumber : UInt32
  flag : UInt8
  createdSince : UInt32
  updateTS : UInt32
  syncHash : List UInt8
  deriving DecidableEq

/-- `RsNxsGroupPublishKeyItem`. -/
structure RsNxsGroupPublishKeyItem where
  transactionNumber : UInt32
  grpId : RsGxsGroupId
  key : RsTlvSecurityKey
  deriving DecidableEq

/-- `RsNxsTransac`. -/
structure RsNxsTransac where
  transactionNumber : UInt32
  transactFlag : UInt16
  nItems : UInt32
  updateTS : UInt32
  deriving DecidableEq

/-- `RsNxsSyncGrpItem`. -/
structure RsNxsSyncGrpItem where
  transactionNumber : UInt32
  flag : UInt8
  publishTs : UInt32
  grpId : RsGxsGroupId
  authorId : RsGxsId
  deriving DecidableEq

/-- `RsNxsGrp`. -/
structure RsNxsGrp where
  transactionNumber : UInt32
  grpId : RsGxsGroupId
  grp : List UInt8
  pos : UInt8
  meta_ : List UInt8
  deriving DecidableEq

/-- `RsNxsSyncMsg`. -/
structure RsNxsSyncMsg where
  transactionNumber : UInt32
  grpId : RsGxsGroupId
  flag : UInt8
  createdSince : UInt32
  updateTS : UInt32
  syncHash : List UInt8
  deriving DecidableEq

/-- `RsNxsSyncMsgItem`. -/
structure RsNxsSyncMsgItem where
  transactionNumber : UInt32
  flag : UInt8
  grpId : RsGxsGroupId
  msgId : RsGxsMessageId
  authorId : RsGxsId
  deriving DecidableEq

/-- `RsNxsMsg`. -/
structure RsNxsMsg where
  transactionNumber : UInt32
  pos : UInt8
  grpId : RsGxsGroupId
  msgId : RsGxsMessageId
  meta_ : List UInt8
  msg : List UInt8
  deriving DecidableEq

/-- The items that `RsNxsSerialiser` knows. -/
inductive RsNxsItem where
  | syncGrp (item : RsNxsSyncGrp)
  | syncGrpItem (item : RsNxsSyncGrpItem)
  | syncMsg (item : RsNxsSyncMsg)
  | syncMsgItem (item : RsNxsSyncMsgItem)
  | grp (item : RsNxsGrp)
  | msg (item : RsNxsMsg)
  | trans (item : RsNxsTransac)
  | groupPublishKey (item : RsNxsGroupPublishKeyItem)
  deriving DecidableEq

/-! ### Types -/

/-- `RS_PKT_SUBTYPE_NXS_SYNC_GRP`. -/
def rsPktSubtypeNxsSyncGrp : Nat := 0x01
/-- `RS_PKT_SUBTYPE_NXS_SYNC_GRP_ITEM`. -/
def rsPktSubtypeNxsSyncGrpItem : Nat := 0x02
/-- `RS_PKT_SUBTYPE_NXS_GRP`. -/
def rsPktSubtypeNxsGrp : Nat := 0x04
/-- `RS_PKT_SUBTYPE_NXS_SYNC_MSG_ITEM`. -/
def rsPktSubtypeNxsSyncMsgItem : Nat := 0x08
/-- `RS_PKT_SUBTYPE_NXS_SYNC_MSG`. -/
def rsPktSubtypeNxsSyncMsg : Nat := 0x10
/-- `RS_PKT_SUBTYPE_NXS_MSG`. -/
def rsPktSubtypeNxsMsg : Nat := 0x20
/-- `RS_PKT_SUBTYPE_NXS_TRANS`. -/
def rsPktSubtypeNxsTrans : Nat := 0x40
/-- `RS_PKT_SUBTYPE_NXS_GRP_PUBLISH_KEY`. -/
def rsPktSubtypeNxsGrpPublishKey : Nat := 0x80

/-- `getRsItemVersion`. -/
def getRsItemVersion (type : Nat) : Nat := type / 2 ^ 24

/-- `getRsItemService`. -/
def getRsItemService (type : Nat) : Nat := type / 2 ^ 8 % 2 ^ 16

/-- `getRsItemSubType`. -/
def getRsItemSubType (type : Nat) : Nat := type % 2 ^ 8

variable (servtype : UInt16)

/-- `RsItem::PacketId`. -/
def packetId (subtype : Nat) : Nat :=
  rsPktVersionService * 2 ^ 24 + servtype.toNat * 2 ^ 8 + subtype

/-- The binary data of an item. -/
def binaryData (bytes : List UInt8) : RsTlvBinaryData := ⟨servtype.toNat, bytes⟩

/-! ### Sizes -/

/-- `sizeNxsMsg`. -/
def sizeNxsMsg (item : RsNxsMsg) : Nat :=
  sum32 [8, 4, 1, 16, sha1Size, (binaryData servtype item.msg).tlvSize,
    (binaryData servtype item.meta_).tlvSize]

/-- `sizeNxsGrp`. -/
def sizeNxsGrp (item : RsNxsGrp) : Nat :=
  sum32 [8, 4, 1, 16, (binaryData servtype item.grp).tlvSize,
    (binaryData servtype item.meta_).tlvSize]

/-- `sizeNxsGroupPublishKeyItem`. -/
def sizeNxsGroupPublishKeyItem (item : RsNxsGroupPublishKeyItem) : Nat :=
  sum32 [8, 16, item.key.toTlv.tlvSize]

/-- `sizeNxsSyncGrp`. -/
def sizeNxsSyncGrp (item : RsNxsSyncGrp) : Nat :=
  sum32 [8, 4, 1, 4, getTlvStringSize item.syncHash, 4]

/-- `sizeNxsSyncGrpItem`. -/
def sizeNxsSyncGrpItem (_item : RsNxsSyncGrpItem) : Nat := sum32 [8, 4, 4, 1, 16, certSignLen]

/-- `sizeNxsSyncMsg`. -/
def sizeNxsSyncMsg (item : RsNxsSyncMsg) : Nat :=
  sum32 [8, 4, 1, 4, 16, getTlvStringSize item.syncHash, 4]

/-- `sizeNxsSyncMsgItem`. -/
def sizeNxsSyncMsgItem (_item : RsNxsSyncMsgItem) : Nat :=
  sum32 [8, 4, 1, 16, sha1Size, certSignLen]

/-- `sizeNxsTrans`. -/
def sizeNxsTrans (_item : RsNxsTransac) : Nat := sum32 [8, 4, 2, 4, 4]

/-- `RsNxsSerialiser::size`. -/
def size : RsNxsItem → Nat
  | .groupPublishKey item => sizeNxsGroupPublishKeyItem item
  | .syncGrp item => sizeNxsSyncGrp item
  | .trans item => sizeNxsTrans item
  | .syncGrpItem item => sizeNxsSyncGrpItem item
  | .syncMsg item => sizeNxsSyncMsg item
  | .syncMsgItem item => sizeNxsSyncMsgItem item
  | .grp item => sizeNxsGrp servtype item
  | .msg item => sizeNxsMsg servtype item

/-! ### Serialisation -/

/-- `setRsItemHeader`. -/
def setRsItemHeader (size type pktsize : Nat) : Encoder := fun data _ =>
  if size < 8 then
    failed data 0
  else
    all [setRawUInt32 8 type, setRawUInt32 8 pktsize] data 0

/-- The encoder of an item of `tlvsize` bytes with the given parts: whether it succeeded, the
buffer, and `*size`. -/
def serialiseItem (subtype tlvsize : Nat) (parts : List Part32) (data : Memory) (size : Nat) :
    Bool × Memory × Nat :=
  if size < tlvsize then
    (false, data, size)
  else
    let header := setRsItemHeader tlvsize (packetId servtype subtype) tlvsize data 0
    let body := Component.setAll parts tlvsize header.data 8
    (header.ok && body.ok && body.offset == tlvsize, body.data, tlvsize)

/-- What `serialiseNxsSynMsgItem` writes. -/
def RsNxsSyncMsgItem.parts (item : RsNxsSyncMsgItem) : List Part32 := [
  .uInt32 item.transactionNumber.toNat,
  .uInt8 item.flag.toNat,
  .id item.grpId.1,
  .id item.msgId.1,
  .id item.authorId.1]

/-- What `serialiseNxsMsg` writes. -/
def RsNxsMsg.parts (item : RsNxsMsg) : List Part32 := [
  .uInt32 item.transactionNumber.toNat,
  .uInt8 item.pos.toNat,
  .id item.msgId.1,
  .id item.grpId.1,
  .binary (binaryData servtype item.msg),
  .binary (binaryData servtype item.meta_)]

/-- What `serialiseNxsGrp` writes. -/
def RsNxsGrp.parts (item : RsNxsGrp) : List Part32 := [
  .uInt32 item.transactionNumber.toNat,
  .uInt8 item.pos.toNat,
  .id item.grpId.1,
  .binary (binaryData servtype item.grp),
  .binary (binaryData servtype item.meta_)]

/-- What `serialiseNxsSyncGrp` writes. -/
def RsNxsSyncGrp.parts (item : RsNxsSyncGrp) : List Part32 := [
  .uInt32 item.transactionNumber.toNat,
  .uInt8 item.flag.toNat,
  .uInt32 item.createdSince.toNat,
  .string tlvTypeStrHashSha1 item.syncHash,
  .uInt32 item.updateTS.toNat]

/-- What `serialiseNxsTrans` writes. -/
def RsNxsTransac.parts (item : RsNxsTransac) : List Part32 := [
  .uInt32 item.transactionNumber.toNat,
  .uInt16 item.transactFlag.toNat,
  .uInt32 item.nItems.toNat,
  .uInt32 item.updateTS.toNat]

/-- What `serialiseNxsSyncGrpItem` writes. -/
def RsNxsSyncGrpItem.parts (item : RsNxsSyncGrpItem) : List Part32 := [
  .uInt32 item.transactionNumber.toNat,
  .uInt8 item.flag.toNat,
  .id item.grpId.1,
  .uInt32 item.publishTs.toNat,
  .id item.authorId.1]

/-- What `serialiseNxsSyncMsg` writes. -/
def RsNxsSyncMsg.parts (item : RsNxsSyncMsg) : List Part32 := [
  .uInt32 item.transactionNumber.toNat,
  .uInt8 item.flag.toNat,
  .uInt32 item.createdSince.toNat,
  .string tlvTypeStrHashSha1 item.syncHash,
  .id item.grpId.1,
  .uInt32 item.updateTS.toNat]

/-- What `serialiseNxsGroupPublishKeyItem` writes. -/
def RsNxsGroupPublishKeyItem.parts (item : RsNxsGroupPublishKeyItem) : List Part32 := [
  .id item.grpId.1,
  .key item.key.toTlv]

/-- `serialiseNxsSynMsgItem`. -/
def serialiseNxsSynMsgItem (item : RsNxsSyncMsgItem) : Memory → Nat → Bool × Memory × Nat :=
  serialiseItem servtype rsPktSubtypeNxsSyncMsgItem (sizeNxsSyncMsgItem item) item.parts

/-- `serialiseNxsMsg`. -/
def serialiseNxsMsg (item : RsNxsMsg) : Memory → Nat → Bool × Memory × Nat :=
  serialiseItem servtype rsPktSubtypeNxsMsg (sizeNxsMsg servtype item) (item.parts servtype)

/-- `serialiseNxsGrp`. -/
def serialiseNxsGrp (item : RsNxsGrp) : Memory → Nat → Bool × Memory × Nat :=
  serialiseItem servtype rsPktSubtypeNxsGrp (sizeNxsGrp servtype item) (item.parts servtype)

/-- `serialiseNxsSyncGrp`. -/
def serialiseNxsSyncGrp (item : RsNxsSyncGrp) : Memory → Nat → Bool × Memory × Nat :=
  serialiseItem servtype rsPktSubtypeNxsSyncGrp (sizeNxsSyncGrp item) item.parts

/-- `serialiseNxsTrans`. -/
def serialiseNxsTrans (item : RsNxsTransac) : Memory → Nat → Bool × Memory × Nat :=
  serialiseItem servtype rsPktSubtypeNxsTrans (sizeNxsTrans item) item.parts

/-- `serialiseNxsSyncGrpItem`. -/
def serialiseNxsSyncGrpItem (item : RsNxsSyncGrpItem) : Memory → Nat → Bool × Memory × Nat :=
  serialiseItem servtype rsPktSubtypeNxsSyncGrpItem (sizeNxsSyncGrpItem item) item.parts

/-- `serialiseNxsSyncMsg`. -/
def serialiseNxsSyncMsg (item : RsNxsSyncMsg) : Memory → Nat → Bool × Memory × Nat :=
  serialiseItem servtype rsPktSubtypeNxsSyncMsg (sizeNxsSyncMsg item) item.parts

/-- `serialiseNxsGroupPublishKeyItem`. -/
def serialiseNxsGroupPublishKeyItem (item : RsNxsGroupPublishKeyItem) :
    Memory → Nat → Bool × Memory × Nat :=
  serialiseItem servtype rsPktSubtypeNxsGrpPublishKey (sizeNxsGroupPublishKeyItem item) item.parts

/-- `RsNxsSerialiser::serialise`. -/
def serialise : RsNxsItem → Memory → Nat → Bool × Memory × Nat
  | .syncGrp item => serialiseNxsSyncGrp servtype item
  | .trans item => serialiseNxsTrans servtype item
  | .syncGrpItem item => serialiseNxsSyncGrpItem servtype item
  | .syncMsg item => serialiseNxsSyncMsg servtype item
  | .syncMsgItem item => serialiseNxsSynMsgItem servtype item
  | .grp item => serialiseNxsGrp servtype item
  | .msg item => serialiseNxsMsg servtype item
  | .groupPublishKey item => serialiseNxsGroupPublishKeyItem servtype item

/-! ### Deserialisation -/

section Deserialise

variable (data : Memory)

/-- The decoder of an item of type `subtype`: the item, and `*size`. -/
def deserialItem {α : Type} (subtype size : Nat) (body : Nat → Dec (Bool × α)) :
    Option α × Nat :=
  let rstype := data.be32 0
  let rssize := data.be32 4
  if getRsItemVersion rstype ≠ rsPktVersionService ∨
      getRsItemService rstype ≠ servtype.toNat ∨ getRsItemSubType rstype ≠ subtype then
    (none, size)
  else if size < rssize then
    (none, size)
  else
    let item : Dec (Option α) := do
      let r ← body rssize
      finish r.1 rssize r.2
    ((item 8).value.join, rssize)

/-- `t_RsGenericIdType::deserialise`. -/
def RsGenericId.deserialise (n size : Nat) : Dec (Bool × RsGenericId n) := do
  let id ← deserialiseId data n size (List.replicate n 0)
  pure (id.1, .ofBytes id.2)

/-- `RsTlvBinaryData::GetTlv`, for the binary data of an item. -/
def getBinaryData (size : Nat) : Dec (Bool × List UInt8) := do
  let r ← RsTlvBinaryData.getTlv data (binaryData servtype []) size
  pure (r.1, r.2.binData)

/-- `deserialNxsGrp`. -/
def deserialNxsGrp (size : Nat) : Option RsNxsGrp × Nat :=
  deserialItem servtype data rsPktSubtypeNxsGrp size fun size => do
    let transactionNumber ← getRawUInt32 data size 0
    let pos ← getRawUInt8 data size 0
    let grpId ← RsGenericId.deserialise data 16 size
    let grp ← getBinaryData servtype data size
    let meta_ ← getBinaryData servtype data size
    pure (transactionNumber.1 && pos.1 && grpId.1 && grp.1 && meta_.1,
      { transactionNumber := .ofNat transactionNumber.2
        grpId := grpId.2
        grp := grp.2
        pos := .ofNat pos.2
        meta_ := meta_.2 })

/-- `deserialNxsMsg`. -/
def deserialNxsMsg (size : Nat) : Option RsNxsMsg × Nat :=
  deserialItem servtype data rsPktSubtypeNxsMsg size fun size => do
    let transactionNumber ← getRawUInt32 data size 0
    let pos ← getRawUInt8 data size 0
    let msgId ← RsGenericId.deserialise data sha1Size size
    let grpId ← RsGenericId.deserialise data 16 size
    let msg ← getBinaryData servtype data size
    let meta_ ← getBinaryData servtype data size
    pure (transactionNumber.1 && pos.1 && msgId.1 && grpId.1 && msg.1 && meta_.1,
      { transactionNumber := .ofNat transactionNumber.2
        pos := .ofNat pos.2
        grpId := grpId.2
        msgId := msgId.2
        meta_ := meta_.2
        msg := msg.2 })

/-- `deserialNxsSyncGrp`. -/
def deserialNxsSyncGrp (size : Nat) : Option RsNxsSyncGrp × Nat :=
  deserialItem servtype data rsPktSubtypeNxsSyncGrp size fun size => do
    let transactionNumber ← getRawUInt32 data size 0
    let flag ← getRawUInt8 data size 0
    let createdSince ← getRawUInt32 data size 0
    let syncHash ← getTlvString data size tlvTypeStrHashSha1 []
    let updateTS ← getRawUInt32 data size 0
    pure (transactionNumber.1 && flag.1 && createdSince.1 && syncHash.1 && updateTS.1,
      { transactionNumber := .ofNat transactionNumber.2
        flag := .ofNat flag.2
        createdSince := .ofNat createdSince.2
        updateTS := .ofNat updateTS.2
        syncHash := syncHash.2 })

/-- `deserialNxsSyncGrpItem`. -/
def deserialNxsSyncGrpItem (size : Nat) : Option RsNxsSyncGrpItem × Nat :=
  deserialItem servtype data rsPktSubtypeNxsSyncGrpItem size fun size => do
    let transactionNumber ← getRawUInt32 data size 0
    let flag ← getRawUInt8 data size 0
    let grpId ← RsGenericId.deserialise data 16 size
    let publishTs ← getRawUInt32 data size 0
    let authorId ← RsGenericId.deserialise data certSignLen size
    pure (transactionNumber.1 && flag.1 && grpId.1 && publishTs.1 && authorId.1,
      { transactionNumber := .ofNat transactionNumber.2
        flag := .ofNat flag.2
        publishTs := .ofNat publishTs.2
        grpId := grpId.2
        authorId := authorId.2 })

/-- `deserialNxsTrans`. -/
def deserialNxsTrans (size : Nat) : Option RsNxsTransac × Nat :=
  deserialItem servtype data rsPktSubtypeNxsTrans size fun size => do
    let transactionNumber ← getRawUInt32 data size 0
    let transactFlag ← getRawUInt16 data size 0
    let nItems ← getRawUInt32 data size 0
    let updateTS ← getRawUInt32 data size 0
    pure (transactionNumber.1 && transactFlag.1 && nItems.1 && updateTS.1,
      { transactionNumber := .ofNat transactionNumber.2
        transactFlag := .ofNat transactFlag.2
        nItems := .ofNat nItems.2
        updateTS := .ofNat updateTS.2 })

/-- `deserialNxsSyncMsgItem`. -/
def deserialNxsSyncMsgItem (size : Nat) : Option RsNxsSyncMsgItem × Nat :=
  deserialItem servtype data rsPktSubtypeNxsSyncMsgItem size fun size => do
    let transactionNumber ← getRawUInt32 data size 0
    let flag ← getRawUInt8 data size 0
    let grpId ← RsGenericId.deserialise data 16 size
    let msgId ← RsGenericId.deserialise data sha1Size size
    let authorId ← RsGenericId.deserialise data certSignLen size
    pure (transactionNumber.1 && flag.1 && grpId.1 && msgId.1 && authorId.1,
      { transactionNumber := .ofNat transactionNumber.2
        flag := .ofNat flag.2
        grpId := grpId.2
        msgId := msgId.2
        authorId := authorId.2 })

/-- `deserialNxsSyncMsg`. -/
def deserialNxsSyncMsg (size : Nat) : Option RsNxsSyncMsg × Nat :=
  deserialItem servtype data rsPktSubtypeNxsSyncMsg size fun size => do
    let transactionNumber ← getRawUInt32 data size 0
    let flag ← getRawUInt8 data size 0
    let createdSince ← getRawUInt32 data size 0
    let syncHash ← getTlvString data size tlvTypeStrHashSha1 []
    let grpId ← RsGenericId.deserialise data 16 size
    let updateTS ← getRawUInt32 data size 0
    pure (transactionNumber.1 && flag.1 && createdSince.1 && syncHash.1 && grpId.1 && updateTS.1,
      { transactionNumber := .ofNat transactionNumber.2
        grpId := grpId.2
        flag := .ofNat flag.2
        createdSince := .ofNat createdSince.2
        updateTS := .ofNat updateTS.2
        syncHash := syncHash.2 })

/-- `deserialNxsGroupPublishKeyItem`: the constructor sets the transaction number. -/
def deserialNxsGroupPublishKeyItem (size : Nat) : Option RsNxsGroupPublishKeyItem × Nat :=
  deserialItem servtype data rsPktSubtypeNxsGrpPublishKey size fun size => do
    let grpId ← RsGenericId.deserialise data 16 size
    let key ← Serialiser.RsTlvSecurityKey.getTlv data size Serialiser.RsTlvSecurityKey.new
    pure (grpId.1 && key.1,
      { transactionNumber := 0
        grpId := grpId.2
        key := .ofTlv key.2 })

/-- An item as one of any kind. -/
def asItem {α : Type} (kind : α → RsNxsItem) (r : Option α × Nat) : Option RsNxsItem × Nat :=
  (r.1.map kind, r.2)

/-- The `switch` of `RsNxsSerialiser::deserialise`. -/
def deserialiseSubType (size subtype : Nat) : Option RsNxsItem × Nat :=
  if subtype = rsPktSubtypeNxsSyncGrp then
    asItem .syncGrp (deserialNxsSyncGrp servtype data size)
  else if subtype = rsPktSubtypeNxsSyncGrpItem then
    asItem .syncGrpItem (deserialNxsSyncGrpItem servtype data size)
  else if subtype = rsPktSubtypeNxsSyncMsg then
    asItem .syncMsg (deserialNxsSyncMsg servtype data size)
  else if subtype = rsPktSubtypeNxsSyncMsgItem then
    asItem .syncMsgItem (deserialNxsSyncMsgItem servtype data size)
  else if subtype = rsPktSubtypeNxsGrp then
    asItem .grp (deserialNxsGrp servtype data size)
  else if subtype = rsPktSubtypeNxsMsg then
    asItem .msg (deserialNxsMsg servtype data size)
  else if subtype = rsPktSubtypeNxsTrans then
    asItem .trans (deserialNxsTrans servtype data size)
  else if subtype = rsPktSubtypeNxsGrpPublishKey then
    asItem .groupPublishKey (deserialNxsGroupPublishKeyItem servtype data size)
  else
    (none, size)

/-- `RsNxsSerialiser::deserialise`: the item, and `*size`. -/
def deserialise (size : Nat) : Option RsNxsItem × Nat :=
  let rstype := data.be32 0
  if getRsItemVersion rstype ≠ rsPktVersionService ∨
      getRsItemService rstype ≠ servtype.toNat then
    (none, size)
  else
    deserialiseSubType servtype data size (getRsItemSubType rstype)

end Deserialise

end Nxs
