import RetroShare.Gxs.MetaData

/-!
# Metadata

The metadata of the groups and of the messages of a service (`rsgxsdata.cc`), with the keys and the
signatures that they carry (`rstlvkeys.cc`), and what is sent of them, whose bytes are those of
`Gxs.MetaData`.  Of the local fields only those are kept that are read or set when items are
received, less the hashes and the times of reception.

An id is the number whose bytes in network order it has: `memcmp` orders ids as these numbers, and
the null id is `0`.
-/

namespace GenExchange

open Serialiser
open GRouter (setRaw)

/-! ### Ids -/

/-- `t_RsGenericIdType`, of `n` bytes. -/
abbrev RsGenericId (n : Nat) : Type := Fin (2 ^ (8 * n))

scoped instance neZero16 : NeZero (2 ^ (8 * 16)) := ⟨by decide⟩

scoped instance neZero20 : NeZero (2 ^ (8 * 20)) := ⟨by decide⟩

/-- The bytes of an id. -/
def RsGenericId.bytes {n : Nat} (id : RsGenericId n) : List UInt8 := setRaw n id.val

theorem RsGenericId.length_bytes {n : Nat} (id : RsGenericId n) :
  id.bytes.length = n
  := GRouter.length_setRaw n id.val

/-- An id, as it is sent. -/
def RsGenericId.sent {n : Nat} (id : RsGenericId n) : Nxs.RsGenericId n :=
  ⟨id.bytes, id.length_bytes⟩

/-- `RsGxsGroupId`. -/
abbrev RsGxsGroupId : Type := RsGenericId 16

scoped instance lawfulBEq : LawfulBEq RsGxsGroupId := inferInstance

/-- `RsGxsMessageId`. -/
abbrev RsGxsMessageId : Type := RsGenericId 20

/-- `RsGxsId`. -/
abbrev RsGxsId : Type := RsGenericId 16

/-- `RsGxsCircleId`. -/
abbrev RsGxsCircleId : Type := RsGenericId 16

/-- `RsPeerId`. -/
abbrev RsPeerId : Type := RsGenericId 16

/-! ### Keys -/

/-- `RSTLV_KEY_TYPE_PUBLIC_ONLY`. -/
def rstlvKeyTypePublicOnly : UInt32 := 0x0001

/-- `RSTLV_KEY_TYPE_FULL`. -/
def rstlvKeyTypeFull : UInt32 := 0x0002

/-- `RSTLV_KEY_DISTRIB_PUBLIC_deprecated`. -/
def rstlvKeyDistribPublicDeprecated : UInt32 := 0x0010

/-- `RSTLV_KEY_DISTRIB_PUBLISH`. -/
def rstlvKeyDistribPublish : UInt32 := 0x0020

/-- `RSTLV_KEY_DISTRIB_ADMIN`. -/
def rstlvKeyDistribAdmin : UInt32 := 0x0040

/-- `RSTLV_KEY_DISTRIB_MASK`. -/
def rstlvKeyDistribMask : UInt32 := 0x00f0

/-- `RsTlvSecurityKey`. -/
structure RsTlvSecurityKey where
  keyId : RsGxsId
  keyFlags : UInt32
  startTS : UInt32
  endTS : UInt32
  keyData : List UInt8
  deriving DecidableEq

/-- `RsTlvSecurityKey::RsTlvSecurityKey`. -/
def RsTlvSecurityKey.new : RsTlvSecurityKey := ⟨0, 0, 0, 0, []⟩

/-- `RsTlvSecurityKeySet`.  Every key is kept under its id. -/
structure RsTlvSecurityKeySet where
  groupId : List UInt8
  keys : OrdMap RsGxsId RsTlvSecurityKey
  keyed : ∀ e ∈ keys.toList, e.2.keyId = e.1

/-- `RsTlvSecurityKeySet::RsTlvSecurityKeySet`. -/
def RsTlvSecurityKeySet.new : RsTlvSecurityKeySet where
  groupId := []
  keys := OrdMap.empty
  keyed := by
    rintro e ⟨⟩

/-- A key, as it is sent. -/
def RsTlvSecurityKey.sent (key : RsTlvSecurityKey) : Serialiser.RsTlvSecurityKey where
  keyId := key.keyId.bytes
  keyFlags := key.keyFlags.toNat
  startTS := key.startTS.toNat
  endTS := key.endTS.toNat
  keyData := ⟨tlvTypeKeyEvpPkey, key.keyData⟩

/-- A set of keys, as it is sent. -/
def RsTlvSecurityKeySet.sent (set : RsTlvSecurityKeySet) : Serialiser.RsTlvSecurityKeySet :=
  ⟨set.groupId, set.keys.mapKeys Fin.val Fin.val_strictMono RsTlvSecurityKey.sent⟩

/-! ### Signatures -/

/-- `RsTlvKeySignature`. -/
structure RsTlvKeySignature where
  keyId : RsGxsId
  signData : List UInt8
  deriving DecidableEq

/-- `RsTlvKeySignature::RsTlvKeySignature`. -/
def RsTlvKeySignature.new : RsTlvKeySignature := ⟨0, []⟩

/-- `SignType`. -/
abbrev SignType : Type := Fin (2 ^ 32)

scoped instance neZero32 : NeZero (2 ^ 32) := ⟨by decide⟩

/-- `FLAG_AUTHEN_IDENTITY`. -/
def flagAuthenIdentity : SignType := 0x10

/-- `FLAG_AUTHEN_PUBLISH`. -/
def flagAuthenPublish : SignType := 0x20

/-- `FLAG_AUTHEN_ADMIN`. -/
def flagAuthenAdmin : SignType := 0x40

/-- `RsTlvKeySignatureSet`. -/
abbrev RsTlvKeySignatureSet : Type := OrdMap SignType RsTlvKeySignature

/-- A signature, as it is sent. -/
def RsTlvKeySignature.sent (sign : RsTlvKeySignature) : Serialiser.RsTlvKeySignature :=
  ⟨sign.keyId.bytes, ⟨tlvTypeSignRsaSha1, sign.signData⟩⟩

/-- A set of signatures, as it is sent. -/
def sentSigns (signSet : RsTlvKeySignatureSet) : Serialiser.RsTlvKeySignatureSet :=
  signSet.mapKeys Fin.val Fin.val_strictMono RsTlvKeySignature.sent

/-- `keySignSet[type]`: the empty signature when there is none. -/
def signOf (signSet : RsTlvKeySignatureSet) (type : SignType) : RsTlvKeySignature :=
  (signSet.get? type).getD RsTlvKeySignature.new

/-! ### Metadata -/

/-- `RsGxsMsgMetaData`. -/
structure RsGxsMsgMetaData where
  mGroupId : RsGxsGroupId
  mMsgId : RsGxsMessageId
  mThreadId : RsGxsMessageId
  mParentId : RsGxsMessageId
  mOrigMsgId : RsGxsMessageId
  mAuthorId : RsGxsId
  signSet : RsTlvKeySignatureSet
  mMsgName : List UInt8
  mPublishTs : Nat
  mMsgFlags : UInt32
  mMsgStatus : UInt32
  deriving DecidableEq

/-- The metadata of a message, as they are sent: of the time what fits. -/
def RsGxsMsgMetaData.sent (metaData : RsGxsMsgMetaData) : Gxs.MetaData.RsGxsMsgMetaData where
  mGroupId := metaData.mGroupId.sent
  mMsgId := metaData.mMsgId.sent
  mThreadId := metaData.mThreadId.sent
  mParentId := metaData.mParentId.sent
  mOrigMsgId := metaData.mOrigMsgId.sent
  mAuthorId := metaData.mAuthorId.sent
  signSet := sentSigns metaData.signSet
  mMsgName := metaData.mMsgName
  mPublishTs := metaData.mPublishTs % 2 ^ 32
  mMsgFlags := metaData.mMsgFlags

/-- `RsGxsMsgMetaData::serialise`, in a buffer of `serial_size` bytes. -/
def RsGxsMsgMetaData.serialise (metaData : RsGxsMsgMetaData) : List UInt8 := metaData.sent.toBytes

/-- `RsGxsGrpMetaData`. -/
structure RsGxsGrpMetaData where
  mGroupId : RsGxsGroupId
  mOrigGrpId : RsGxsGroupId
  mParentGrpId : RsGxsGroupId
  mGroupName : List UInt8
  mGroupFlags : UInt32
  mPublishTs : UInt32
  mCircleType : UInt32
  mAuthenFlags : UInt32
  mAuthorId : RsGxsId
  mServiceString : List UInt8
  mCircleId : RsGxsCircleId
  signSet : RsTlvKeySignatureSet
  keys : RsTlvSecurityKeySet
  mSubscribeFlags : UInt32
  mGroupStatus : UInt32
  mOriginator : RsPeerId

/-- The metadata of a group, as they are sent. -/
def RsGxsGrpMetaData.sent (metaData : RsGxsGrpMetaData) : Gxs.MetaData.RsGxsGrpMetaData where
  mGroupId := metaData.mGroupId.sent
  mOrigGrpId := metaData.mOrigGrpId.sent
  mParentGrpId := metaData.mParentGrpId.sent
  mGroupName := metaData.mGroupName
  mGroupFlags := metaData.mGroupFlags
  mPublishTs := metaData.mPublishTs
  mCircleType := metaData.mCircleType
  mAuthenFlags := metaData.mAuthenFlags
  mAuthorId := metaData.mAuthorId.sent
  mServiceString := metaData.mServiceString
  mCircleId := metaData.mCircleId.sent
  signSet := sentSigns metaData.signSet
  keys := metaData.keys.sent

/-- `RsGxsGrpMetaData::serialise`, in a buffer of `serial_size` bytes. -/
def RsGxsGrpMetaData.serialise (metaData : RsGxsGrpMetaData) : List UInt8 := metaData.sent.toBytes

/-- `GXS_MAX_ITEM_SIZE`. -/
def gxsMaxItemSize : UInt32 := 1572864

/-- The metadata of a group without keys. -/
def plainGrpMeta (grpId : RsGxsGroupId) (grpFlags : UInt32) : RsGxsGrpMetaData where
  mGroupId := grpId
  mOrigGrpId := 0
  mParentGrpId := 0
  mGroupName := []
  mGroupFlags := grpFlags
  mPublishTs := 0
  mCircleType := 0
  mAuthenFlags := 0
  mAuthorId := 0
  mServiceString := []
  mCircleId := 0
  signSet := OrdMap.empty
  keys := .new
  mSubscribeFlags := 0
  mGroupStatus := 0
  mOriginator := 0

end GenExchange
