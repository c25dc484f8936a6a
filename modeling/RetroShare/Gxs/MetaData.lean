import RetroShare.Serialiser.KeySets
import RetroShare.Serialiser.NxsRoundTrip
import RetroShare.Serialiser.Shapes

/-!
# Metadata in a buffer

The encoders and the decoders of `rsgxsdata.cc` for the metadata of groups and of messages, with the
fields that they transmit.  The variable in which `RsTlvKeySignatureSet::GetTlv` keeps the type of a
signature is `currType`, as there.

Metadata comes back from its bytes when it is without signatures, and a buffer that is decoded is
only read inside when the items that its header announces lie in it; `Transfer.sound_iff` has the
exact conditions.
-/

namespace Gxs.MetaData

open Serialiser Decoder Encoder
open GRouter (HasBytes hasBytes_append getRsItemSize)
open Nxs (RsGenericId setRsItemHeader)

/-- `RsGxsCircleId`. -/
abbrev RsGxsCircleId : Type := RsGenericId 16

/-- `RsGxsGrpMetaData`, as far as it is transmitted. -/
structure RsGxsGrpMetaData where
  mGroupId : Nxs.RsGxsGroupId
  mOrigGrpId : Nxs.RsGxsGroupId
  mParentGrpId : Nxs.RsGxsGroupId
  mGroupName : List UInt8
  mGroupFlags : UInt32
  mPublishTs : UInt32
  mCircleType : UInt32
  mAuthenFlags : UInt32
  mAuthorId : Nxs.RsGxsId
  mServiceString : List UInt8
  mCircleId : RsGxsCircleId
  signSet : RsTlvKeySignatureSet
  keys : RsTlvSecurityKeySet

/-- `RsGxsMsgMetaData`, as far as it is transmitted. -/
structure RsGxsMsgMetaData where
  mGroupId : Nxs.RsGxsGroupId
  mMsgId : Nxs.RsGxsMessageId
  mThreadId : Nxs.RsGxsMessageId
  mParentId : Nxs.RsGxsMessageId
  mOrigMsgId : Nxs.RsGxsMessageId
  mAuthorId : Nxs.RsGxsId
  signSet : RsTlvKeySignatureSet
  mMsgName : List UInt8
  mPublishTs : Nat
  mMsgFlags : UInt32

/-! ### Encoders -/

/-- `RsTlvKeySignatureSet::SetTlv`, as a part. -/
def signSetPart (signSet : RsTlvKeySignatureSet) : Part32 where
  bytes := signSet.toBytes
  set := signSet.setTlv
  writes _ _ := signSet.writes_setTlv

/-- `RsTlvSecurityKeySet::SetTlv`, as a part. -/
def keySetPart (keys : RsTlvSecurityKeySet) : Part32 where
  bytes := keys.toBytes
  set := keys.setTlv
  writes := keys.writes_setTlv

variable (signSet : RsTlvKeySignatureSet) (keys : RsTlvSecurityKeySet) (self : RsGxsGrpMetaData)
  {α : Type} {data : Memory} {pktsize : Nat}

@[simp]
theorem bytes_signSetPart :
  (signSetPart signSet).bytes = signSet.toBytes
  := rfl

@[simp]
theorem bytes_keySetPart :
  (keySetPart keys).bytes = keys.toBytes
  := rfl

/-- The encoder of metadata of `tlvsize` bytes: whether it succeeded, the buffer, and the size of
what has been written. -/
def serialiseParts (tlvsize : Nat) (parts : List Part32) (data : Memory) (pktsize : Nat) :
    Bool × Memory × Nat :=
  if pktsize < tlvsize then
    (false, data, pktsize)
  else
    let header := setRsItemHeader tlvsize 0 tlvsize data 0
    let body := Component.setAll parts tlvsize header.data 8
    (header.ok && body.ok, body.data, tlvsize)

/-- `setRsItemHeader` of metadata, whose type is `0`, and the metadata. -/
def withHeader (content : List UInt8) : List UInt8 :=
  GRouter.setRaw 4 0 ++ (GRouter.setRaw 4 (8 + content.length) ++ content)

namespace RsGxsGrpMetaData

variable (self : RsGxsGrpMetaData)

/-- `RsGxsGrpMetaData::serial_size`. -/
def serialSize : Nat :=
  sum32 [8, 16, 16, getTlvStringSize self.mGroupName, 4, 4, 16,
    getTlvStringSize self.mServiceString, self.signSet.tlvSize, self.keys.tlvSize, 4, 16, 4, 16]

/-- What `RsGxsGrpMetaData::serialise` writes after the header. -/
def parts : List Part32 := [
  .id self.mGroupId.1,
  .id self.mOrigGrpId.1,
  .id self.mParentGrpId.1,
  .string 0 self.mGroupName,
  .uInt32 self.mGroupFlags.toNat,
  .uInt32 self.mPublishTs.toNat,
  .uInt32 self.mCircleType.toNat,
  .uInt32 self.mAuthenFlags.toNat,
  .id self.mAuthorId.1,
  .string 0 self.mServiceString,
  .id self.mCircleId.1,
  signSetPart self.signSet,
  keySetPart self.keys]

/-- `RsGxsGrpMetaData::serialise`. -/
def serialise : Memory → Nat → Bool × Memory × Nat := serialiseParts self.serialSize self.parts

/-- The bytes of metadata. -/
def toBytes : List UInt8 := withHeader (Component.bytesOf self.parts)

end RsGxsGrpMetaData

namespace RsGxsMsgMetaData

variable (self : RsGxsMsgMetaData)

/-- `RsGxsMsgMetaData::serial_size`. -/
def serialSize : Nat :=
  sum32 [8, 16, 20, 20, 20, 20, 16, self.signSet.tlvSize, getTlvStringSize self.mMsgName, 4, 4]

/-- What `RsGxsMsgMetaData::serialise` writes after the header. -/
def parts : List Part32 := [
  .id self.mGroupId.1,
  .id self.mMsgId.1,
  .id self.mThreadId.1,
  .id self.mParentId.1,
  .id self.mOrigMsgId.1,
  .id self.mAuthorId.1,
  signSetPart self.signSet,
  .string 0 self.mMsgName,
  .uInt32 self.mPublishTs,
  .uInt32 self.mMsgFlags.toNat]

/-- `RsGxsMsgMetaData::serialise`. -/
def serialise : Memory → Nat → Bool × Memory × Nat := serialiseParts self.serialSize self.parts

/-- The bytes of metadata. -/
def toBytes : List UInt8 := withHeader (Component.bytesOf self.parts)

end RsGxsMsgMetaData

theorem length_withHeader (content : List UInt8) :
  (withHeader content).length = 8 + content.length
  := by
  simp only [withHeader, List.length_append, GRouter.length_setRaw, ← Nat.add_assoc]

/-- Metadata is written when its size is the length of its bytes. -/
theorem serialiseParts_eq {tlvsize : Nat} {parts : List Part32}
    (hlength : (withHeader (Component.bytesOf parts)).length = tlvsize) (hbound : tlvsize < 2 ^ 32)
    (data : Memory) :
  serialiseParts tlvsize parts data tlvsize =
    (true, data.store 0 (withHeader (Component.bytesOf parts)), tlvsize)
  := by
  rw [length_withHeader] at hlength
  have hheader : Writes (all [setRawUInt32 8 0, setRawUInt32 8 tlvsize]) 0
      (GRouter.setRaw 4 0 ++ (GRouter.setRaw 4 tlvsize ++ [])) := by
    apply ((Part32.uInt32 0).writes 8 0 _ (by decide)).cons
    · apply ((Part32.uInt32 tlvsize).writes 8 _ _ (by decide)).cons (writes_nil _)
      simp
    · simp
  have hbody := Component.writes_parts hbound parts 8 (by omega)
  rw [serialiseParts, if_neg (lt_irrefl _)]
  simp only [setRsItemHeader]
  rw [if_neg (by omega), hheader data]
  simp only [hbody _]
  simp [withHeader, hlength, Memory.store_append]

theorem hasSize_id {n : Nat} (id : RsGenericId n) :
  (Part32.id id.1).HasSize n
  := by
  rw [Part32.HasSize, Part32.bytes_id, id.2]

theorem hasSize_uInt32 (value : Nat) :
  (Part32.uInt32 value).HasSize 4
  := by
  rw [Part32.HasSize, Part32.bytes_uInt32, GRouter.length_setRaw]

theorem hasSize_signSet :
  (signSetPart signSet).HasSize signSet.tlvSize
  := by
  rw [Part32.HasSize, signSet.tlvSize_eq, Nat.mod_mod, bytes_signSetPart]

theorem hasSize_keySet :
  (keySetPart keys).HasSize keys.tlvSize
  := by
  rw [Part32.HasSize, keys.tlvSize_eq, Nat.mod_mod, bytes_keySetPart]

theorem RsGxsGrpMetaData.serialSize_eq :
  self.serialSize = self.toBytes.length % 2 ^ 32
  := by
  have hparts : List.Forall₂ Part32.HasSize [16, 16, 16, getTlvStringSize self.mGroupName, 4, 4, 4,
      4, certSignLen, getTlvStringSize self.mServiceString, 16, self.signSet.tlvSize,
      self.keys.tlvSize] self.parts := by
    simp only [parts, List.forall₂_cons, hasSize_id, hasSize_string, hasSize_uInt32,
      hasSize_signSet, hasSize_keySet, List.Forall₂.nil, and_self]
  have hsum := sum32_eq_of_hasSize (n := 8) hparts
  rw [toBytes, length_withHeader, ← hsum, serialSize, sum32_eq, sum32_eq]
  simp only [List.sum_cons, List.sum_nil, certSignLen]
  apply congrArg (· % 2 ^ 32)
  omega

theorem RsGxsMsgMetaData.serialSize_eq (self : RsGxsMsgMetaData) :
  self.serialSize = self.toBytes.length % 2 ^ 32
  := by
  have hparts : List.Forall₂ Part32.HasSize [16, sha1Size, sha1Size, sha1Size, sha1Size,
      certSignLen, self.signSet.tlvSize, getTlvStringSize self.mMsgName, 4, 4] self.parts := by
    simp only [parts, List.forall₂_cons, hasSize_id, hasSize_string, hasSize_uInt32,
      hasSize_signSet, List.Forall₂.nil, and_self]
  rw [toBytes, length_withHeader]
  apply sum32_eq_of_hasSize hparts

/-! ### Decoders -/

/-- `RsGxsGrpMetaData::deserialise`, after the header. -/
def RsGxsGrpMetaData.getContent (data : Memory) (currType : Nat → Nat) (fuel pktsize : Nat)
    (self : RsGxsGrpMetaData) : Dec (Bool × RsGxsGrpMetaData) := do
  let mGroupId ← deserialiseId data 16 pktsize self.mGroupId.1
  let mOrigGrpId ← deserialiseId data 16 pktsize self.mOrigGrpId.1
  let mParentGrpId ← deserialiseId data 16 pktsize self.mParentGrpId.1
  let mGroupName ← getTlvString data pktsize 0 self.mGroupName
  let mGroupFlags ← getRawUInt32 data pktsize self.mGroupFlags.toNat
  let mPublishTs ← getRawUInt32 data pktsize self.mPublishTs.toNat
  let mCircleType ← getRawUInt32 data pktsize self.mCircleType.toNat
  let mAuthenFlags ← getRawUInt32 data pktsize self.mAuthenFlags.toNat
  let mAuthorId ← deserialiseId data 16 pktsize self.mAuthorId.1
  let mServiceString ← getTlvString data pktsize 0 self.mServiceString
  let mCircleId ← deserialiseId data 16 pktsize self.mCircleId.1
  let signSet ← RsTlvKeySignatureSet.getTlv data currType fuel pktsize self.signSet
  let keys ← RsTlvSecurityKeySet.getTlv data fuel pktsize self.keys
  pure (mGroupId.1 && mOrigGrpId.1 && mParentGrpId.1 && mGroupName.1 && mGroupFlags.1 &&
      mPublishTs.1 && mCircleType.1 && mAuthenFlags.1 && mAuthorId.1 && mServiceString.1 &&
      mCircleId.1 && signSet.1 && keys.1,
    ⟨.ofBytes mGroupId.2, .ofBytes mOrigGrpId.2, .ofBytes mParentGrpId.2, mGroupName.2,
      .ofNat mGroupFlags.2, .ofNat mPublishTs.2, .ofNat mCircleType.2, .ofNat mAuthenFlags.2,
      .ofBytes mAuthorId.2, mServiceString.2, .ofBytes mCircleId.2, signSet.2, keys.2⟩)

/-- `RsGxsMsgMetaData::deserialise`, after the header.  The time goes through a variable `t`, which
nothing has set before. -/
def RsGxsMsgMetaData.getContent (data : Memory) (currType : Nat → Nat) (t fuel size : Nat)
    (self : RsGxsMsgMetaData) : Dec (Bool × RsGxsMsgMetaData) := do
  let mGroupId ← deserialiseId data 16 size self.mGroupId.1
  let mMsgId ← deserialiseId data 20 size self.mMsgId.1
  let mThreadId ← deserialiseId data 20 size self.mThreadId.1
  let mParentId ← deserialiseId data 20 size self.mParentId.1
  let mOrigMsgId ← deserialiseId data 20 size self.mOrigMsgId.1
  let mAuthorId ← deserialiseId data 16 size self.mAuthorId.1
  let signSet ← RsTlvKeySignatureSet.getTlv data currType fuel size self.signSet
  let mMsgName ← getTlvString data size 0 self.mMsgName
  let mPublishTs ← getRawUInt32 data size t
  let mMsgFlags ← getRawUInt32 data size self.mMsgFlags.toNat
  pure (mGroupId.1 && mMsgId.1 && mThreadId.1 && mParentId.1 && mOrigMsgId.1 && mAuthorId.1 &&
      signSet.1 && mMsgName.1 && mPublishTs.1 && mMsgFlags.1,
    ⟨.ofBytes mGroupId.2, .ofBytes mMsgId.2, .ofBytes mThreadId.2, .ofBytes mParentId.2,
      .ofBytes mOrigMsgId.2, .ofBytes mAuthorId.2, signSet.2, mMsgName.2, mPublishTs.2,
      .ofNat mMsgFlags.2⟩)

/-- The decoder of metadata: what follows the header is only decoded when the size in the header is
that of the buffer. -/
def deserialise {α : Type} (data : Memory) (pktsize : Nat) (self : α)
    (content : Dec (Bool × α)) : Dec (Bool × α) := do
  seek 8
  let rssize ← getRsItemSize data
  if rssize ≠ pktsize then
    pure (false, self)
  else
    content

/-- `RsGxsGrpMetaData::deserialise`. -/
def RsGxsGrpMetaData.deserialise (data : Memory) (currType : Nat → Nat) (fuel pktsize : Nat)
    (self : RsGxsGrpMetaData) : Dec (Bool × RsGxsGrpMetaData) :=
  MetaData.deserialise data pktsize self (getContent data currType fuel pktsize self)

/-- `RsGxsMsgMetaData::deserialise`. -/
def RsGxsMsgMetaData.deserialise (data : Memory) (currType : Nat → Nat) (t fuel size : Nat)
    (self : RsGxsMsgMetaData) : Dec (Bool × RsGxsMsgMetaData) :=
  MetaData.deserialise data size self (getContent data currType t fuel size self)

/-! ### Round trips -/

/-- Metadata is written into a buffer of `serial_size` bytes and fills it, and from these bytes it
is read back, to be written in the same way again. -/
def RsGxsGrpMetaData.Survives (self : RsGxsGrpMetaData) : Prop :=
  self.toBytes.length = self.serialSize ∧
  (∀ data, self.serialise data self.serialSize =
    (true, data.store 0 self.toBytes, self.serialSize)) ∧
  ∀ (data : Memory) (currType : Nat → Nat) (old : RsGxsGrpMetaData),
    HasBytes data 0 self.toBytes → ∃ enough, ∀ fuel ≥ enough, ∃ v q,
      Returns (deserialise data currType fuel self.serialSize old) 0 (true, v) q ∧ v = self ∧
        ∀ buffer, v.serialise buffer v.serialSize = self.serialise buffer self.serialSize

/-- Metadata is written into a buffer of `serial_size` bytes and fills it, and from these bytes it
is read back, to be written in the same way again. -/
def RsGxsMsgMetaData.Survives (self : RsGxsMsgMetaData) : Prop :=
  self.toBytes.length = self.serialSize ∧
  (∀ data, self.serialise data self.serialSize =
    (true, data.store 0 self.toBytes, self.serialSize)) ∧
  ∀ (data : Memory) (currType : Nat → Nat) (t : Nat) (old : RsGxsMsgMetaData),
    HasBytes data 0 self.toBytes → ∃ enough, ∀ fuel ≥ enough, ∃ v q,
      Returns (deserialise data currType t fuel self.serialSize old) 0 (true, v) q ∧ v = self ∧
        ∀ buffer, v.serialise buffer v.serialSize = self.serialise buffer self.serialSize

/-- The metadata whose strings are as `GetTlvString` leaves them. -/
def RsGxsGrpMetaData.sanitised (metaData : RsGxsGrpMetaData) : RsGxsGrpMetaData :=
  { metaData with
    mGroupName := sanitise 0 metaData.mGroupName
    mServiceString := sanitise 0 metaData.mServiceString }

/-- The values that are sent: `GetTlvString` keeps the strings, and the sets are those that
services have. -/
structure RsGxsGrpMetaData.Valid (metaData : RsGxsGrpMetaData) : Prop where
  mGroupName : sanitise 0 metaData.mGroupName = metaData.mGroupName
  mServiceString : sanitise 0 metaData.mServiceString = metaData.mServiceString
  signSet : metaData.signSet.Valid
  keys : metaData.keys.Valid

/-- The values that are sent: `GetTlvString` keeps the name, the time is a 32-bit number, and the
set of signatures is one that services have. -/
structure RsGxsMsgMetaData.Valid (metaData : RsGxsMsgMetaData) : Prop where
  mMsgName : sanitise 0 metaData.mMsgName = metaData.mMsgName
  mPublishTs : metaData.mPublishTs < 2 ^ 32
  signSet : metaData.signSet.Valid

section Read

variable {data : Memory} (currType : Nat → Nat) (fuel : Nat) {pktsize : Nat} {q : Nat}

theorem returns_deserialise_iff {self : α} {content : Dec (Bool × α)} {r : Bool × α}
    (h : data.be32 4 = pktsize) :
  Returns (deserialise data pktsize self content) 0 r q ↔ Returns content 8 r q
  := by
  rw [deserialise, returns_bind_iff_of_returns (returns_seek 8 0),
    returns_bind_iff_of_returns (GRouter.returns_getRsItemSize data 8), h,
    if_neg (not_not.mpr rfl)]

theorem liesAt_of_withHeader {bytes content : List UInt8} (hbytes : bytes = withHeader content)
    (h : HasBytes data 0 bytes) (hbound : bytes.length < 2 ^ 32) :
  data.be32 4 = bytes.length ∧ LiesAt data bytes.length 8 content
  := by
  subst hbytes
  rw [length_withHeader] at hbound ⊢
  simp only [withHeader, hasBytes_append, GRouter.length_setRaw, Nat.zero_add, Nat.reduceAdd] at h
  refine ⟨GRouter.be32_of_hasBytes h.2.1 hbound, h.2.2, le_rfl⟩

theorem offset_of_returns_signSet {signSet old : RsTlvKeySignatureSet} {p : Nat}
    {r : Bool × RsTlvKeySignatureSet} (h : LiesAt data pktsize p signSet.toBytes)
    (hsize : pktsize < 2 ^ 32) {currType : Nat → Nat} {fuel : Nat}
    (hreturns : Returns (RsTlvKeySignatureSet.getTlv data currType fuel pktsize old) p r q) :
  q = p + signSet.toBytes.length
  := ((RsTlvKeySignatureSet.returns_getTlv_iff h.hasBytes h.room hsize old).mp hreturns).1

/-- What is read back of a group depends on what is read of its sets. -/
theorem RsGxsGrpMetaData.exists_returns_getContent_iff {self : RsGxsGrpMetaData}
    (hlies : LiesAt data pktsize 8 (Component.bytesOf self.parts)) (hsize : pktsize < 2 ^ 32)
    (old : RsGxsGrpMetaData) :
  ∃ p, LiesAt data pktsize p (self.signSet.toBytes ++ self.keys.toBytes) ∧
    p + self.signSet.toBytes.length + self.keys.toBytes.length = self.toBytes.length ∧
    ∀ r, (∃ q, Returns (getContent data currType fuel pktsize old) 8 r q) ↔
      ∃ signSet keys,
        Returns (RsTlvKeySignatureSet.getTlv data currType fuel pktsize old.signSet) p signSet
          (p + self.signSet.toBytes.length) ∧
        (∃ q, Returns (RsTlvSecurityKeySet.getTlv data fuel pktsize old.keys)
          (p + self.signSet.toBytes.length) keys q) ∧
        (signSet.1 && keys.1, { self.sanitised with signSet := signSet.2, keys := keys.2 }) = r
  := by
  simp only [parts, Component.bytesOf_cons, Component.bytesOf_nil, Part32.bytes_id,
    Part32.bytes_string, Part32.bytes_uInt32, bytes_signSetPart, bytes_keySetPart] at hlies
  have h1 := hlies.tail
  have h2 := h1.tail
  have h3 := h2.tail
  have h4 := h3.tail
  have h5 := h4.tail
  have h6 := h5.tail
  have h7 := h6.tail
  have h8 := h7.tail
  have h9 := h8.tail
  have h10 := h9.tail
  have h11 := h10.tail
  rw [List.append_nil] at h11
  refine ⟨_, h11, ?_, ?_⟩
  · simp only [toBytes, length_withHeader, parts, Component.bytesOf_cons, Component.bytesOf_nil,
      Part32.bytes_id, Part32.bytes_string, Part32.bytes_uInt32, bytes_signSetPart,
      bytes_keySetPart, List.length_append, List.length_nil, Nat.add_zero, Nat.add_assoc]
  · intro r
    simp only [getContent, (reads_deserialiseId self.mGroupId.2 _).bind_iff hlies hsize,
      (reads_deserialiseId self.mOrigGrpId.2 _).bind_iff h1 hsize,
      (reads_deserialiseId self.mParentGrpId.2 _).bind_iff h2 hsize,
      (reads_getTlvString (by decide) self.mGroupName _).bind_iff h3 hsize,
      (reads_getRawUInt32 self.mGroupFlags.toNat_lt _).bind_iff h4 hsize,
      (reads_getRawUInt32 self.mPublishTs.toNat_lt _).bind_iff h5 hsize,
      (reads_getRawUInt32 self.mCircleType.toNat_lt _).bind_iff h6 hsize,
      (reads_getRawUInt32 self.mAuthenFlags.toNat_lt _).bind_iff h7 hsize,
      (reads_deserialiseId (show _ = 16 from self.mAuthorId.2) _).bind_iff h8 hsize,
      (reads_getTlvString (by decide) self.mServiceString _).bind_iff h9 hsize,
      (reads_deserialiseId self.mCircleId.2 _).bind_iff h10 hsize]
    simp only [Nxs.ofBytes_val, UInt32.ofNat_toNat, Bool.and_self, Bool.true_and, sanitised]
    simp only [returns_bind_iff, returns_pure_iff]
    constructor
    · rintro ⟨q, signSet, p', hsignSet, keys, q', hkeys, hr, rfl⟩
      obtain rfl := offset_of_returns_signSet h11.head hsize hsignSet
      exact ⟨signSet, keys, hsignSet, ⟨q', hkeys⟩, hr⟩
    · rintro ⟨signSet, keys, hsignSet, ⟨q, hkeys⟩, hr⟩
      exact ⟨q, signSet, _, hsignSet, keys, q, hkeys, hr, rfl⟩

/-- What comes after the signatures of a message is read back. -/
theorem RsGxsMsgMetaData.returns_trailer_iff {self : RsGxsMsgMetaData} (h : self.Valid) {p : Nat}
    {r : Bool × RsGxsMsgMetaData}
    (hlies : LiesAt data pktsize p (tlvBytes 0 self.mMsgName ++ (GRouter.setRaw 4 self.mPublishTs ++
      (GRouter.setRaw 4 self.mMsgFlags.toNat ++ [])))) (hsize : pktsize < 2 ^ 32) (t : Nat)
    (old : RsGxsMsgMetaData) (signSet : Bool × RsTlvKeySignatureSet) :
  Returns (do
      let mMsgName ← getTlvString data pktsize 0 old.mMsgName
      let mPublishTs ← getRawUInt32 data pktsize t
      let mMsgFlags ← getRawUInt32 data pktsize old.mMsgFlags.toNat
      pure (signSet.1 && mMsgName.1 && mPublishTs.1 && mMsgFlags.1,
        { self with
          signSet := signSet.2, mMsgName := mMsgName.2, mPublishTs := mPublishTs.2,
          mMsgFlags := .ofNat mMsgFlags.2 }) : Dec (Bool × RsGxsMsgMetaData)) p r q ↔
    (signSet.1, { self with signSet := signSet.2 }) = r ∧
      p + (tlvBytes 0 self.mMsgName).length + (GRouter.setRaw 4 self.mPublishTs).length +
        (GRouter.setRaw 4 self.mMsgFlags.toNat).length = q
  := by
  have h1 := hlies.tail
  have h2 := h1.tail
  rw [(reads_getTlvString (by decide) self.mMsgName _).bind_iff hlies hsize,
    (reads_getRawUInt32 h.mPublishTs _).bind_iff h1 hsize,
    (reads_getRawUInt32 self.mMsgFlags.toNat_lt _).bind_iff h2 hsize, returns_pure_iff]
  simp only [h.mMsgName, UInt32.ofNat_toNat, Bool.and_true]

/-- What is read back of a message depends on what is read of its signatures. -/
theorem RsGxsMsgMetaData.exists_returns_getContent_iff {self : RsGxsMsgMetaData} (h : self.Valid)
    (hlies : LiesAt data pktsize 8 (Component.bytesOf self.parts)) (hsize : pktsize < 2 ^ 32)
    (t : Nat) (old : RsGxsMsgMetaData) :
  ∃ p, LiesAt data pktsize p self.signSet.toBytes ∧
    p + self.signSet.toBytes.length + 2 < 2 ^ 32 ∧
    ∀ r, (∃ q, Returns (getContent data currType t fuel pktsize old) 8 r q) ↔
      ∃ signSet,
        Returns (RsTlvKeySignatureSet.getTlv data currType fuel pktsize old.signSet) p signSet
          (p + self.signSet.toBytes.length) ∧
        (signSet.1, { self with signSet := signSet.2 }) = r
  := by
  simp only [parts, Component.bytesOf_cons, Component.bytesOf_nil, Part32.bytes_id,
    Part32.bytes_string, Part32.bytes_uInt32, bytes_signSetPart] at hlies
  have h1 := hlies.tail
  have h2 := h1.tail
  have h3 := h2.tail
  have h4 := h3.tail
  have h5 := h4.tail
  have h6 := h5.tail
  have h7 := h6.tail
  have h8 := h7.tail
  have h9 := h8.tail
  refine ⟨_, h6.head, ?_, ?_⟩
  · apply lt_of_le_of_lt _ (h7.room.trans_lt hsize)
    apply Nat.add_le_add_left
    rw [List.length_append, length_tlvBytes, tlvHeaderSize]
    omega
  · intro r
    simp only [getContent,
      (reads_deserialiseId (show _ = 16 from self.mGroupId.2) _).bind_iff hlies hsize,
      (reads_deserialiseId (show _ = 20 from self.mMsgId.2) _).bind_iff h1 hsize,
      (reads_deserialiseId (show _ = 20 from self.mThreadId.2) _).bind_iff h2 hsize,
      (reads_deserialiseId (show _ = 20 from self.mParentId.2) _).bind_iff h3 hsize,
      (reads_deserialiseId (show _ = 20 from self.mOrigMsgId.2) _).bind_iff h4 hsize,
      (reads_deserialiseId (show _ = 16 from self.mAuthorId.2) _).bind_iff h5 hsize]
    simp only [Nxs.ofBytes_val, Bool.and_self, Bool.true_and]
    constructor
    · rintro ⟨q, hq⟩
      obtain ⟨signSet, p', hsignSet, hq⟩ := returns_bind_iff.mp hq
      obtain rfl := offset_of_returns_signSet h6.head hsize hsignSet
      exact ⟨signSet, hsignSet, ((returns_trailer_iff h h7 hsize t old signSet).mp hq).1⟩
    · rintro ⟨signSet, hsignSet, hr⟩
      exact ⟨_, hsignSet.bind ((returns_trailer_iff h h7 hsize t old signSet).mpr ⟨hr, rfl⟩)⟩

/-- What is decoded has its size in the header. -/
theorem be32_of_returns_deserialise {self v : α} {content : Dec (Bool × α)}
    (h : Returns (deserialise data pktsize self content) 0 (true, v) q) :
  data.be32 4 = pktsize
  := by
  by_contra hne
  rw [deserialise, returns_bind_iff_of_returns (returns_seek 8 0),
    returns_bind_iff_of_returns (GRouter.returns_getRsItemSize data 8), if_pos hne,
    returns_pure_iff] at h
  cases h.1

/-- A group is read back with its strings as `GetTlvString` leaves them, and with its signatures
under the keys that the variable holds. -/
theorem RsGxsGrpMetaData.exists_returns_deserialise {self : RsGxsGrpMetaData}
    (hsignSet : self.signSet.Valid) (hkeys : self.keys.Valid) (hbytes : HasBytes data 0 self.toBytes)
    (hlast : self.toBytes.length + 2 < 2 ^ 32) (hfuel : self.toBytes.length ≤ fuel)
    {key : Nat → Nat} (hfit : ∀ p, HasBytes data p self.signSet.toBytes →
      Entry.FitFrom (p + tlvHeaderSize)
        (RsTlvKeySignatureSet.entries currType key self.signSet.toList))
    (old : RsGxsGrpMetaData) :
  ∃ q, Returns (deserialise data currType fuel self.toBytes.length old) 0 (true,
    { self.sanitised with
      signSet := Entry.updateAll
        (RsTlvKeySignatureSet.entries currType key self.signSet.toList) OrdMap.empty }) q
  := by
  have hbound : self.toBytes.length < 2 ^ 32 := by omega
  obtain ⟨hheader, hlies⟩ := liesAt_of_withHeader (show self.toBytes = _ from rfl) hbytes hbound
  obtain ⟨p, hsetsLie, hend, hiff⟩ := exists_returns_getContent_iff currType fuel hlies hbound old
  have hsigns := RsTlvKeySignatureSet.returns_getTlv hsignSet hsetsLie.head.hasBytes
    hsetsLie.head.room hbound (by omega) hfuel (hfit p hsetsLie.head.hasBytes) old.signSet
  have hkeys := RsTlvSecurityKeySet.returns_getTlv hkeys hsetsLie.tail.hasBytes
    hsetsLie.tail.room hbound (by omega) hfuel old.keys
  obtain ⟨q, hv⟩ := (hiff _).mpr ⟨_, _, hsigns, ⟨_, hkeys⟩, rfl⟩
  exact ⟨q, (returns_deserialise_iff hheader).mpr hv⟩

/-- Before zeros a group is only read when the guard of the loop over its keys does not wrap
around. -/
theorem RsGxsGrpMetaData.length_lt_of_returns_deserialise {self v old : RsGxsGrpMetaData}
    (hkeys : self.keys.Valid) (hbytes : HasBytes data 0 self.toBytes)
    (hzero : ∀ a, self.toBytes.length ≤ a → data a = 0)
    (hreturns : Returns (deserialise data currType fuel self.toBytes.length old) 0 (true, v) q) :
  self.toBytes.length + 2 < 2 ^ 32
  := by
  have hheader := be32_of_returns_deserialise hreturns
  have hbound : self.toBytes.length < 2 ^ 32 := hheader ▸ data.be32_lt 4
  obtain ⟨-, hlies⟩ := liesAt_of_withHeader (show self.toBytes = _ from rfl) hbytes hbound
  obtain ⟨p, hsetsLie, hend, hiff⟩ := exists_returns_getContent_iff currType fuel hlies hbound old
  obtain ⟨⟨ok, signSet⟩, ⟨ok', keys⟩, -, ⟨q', hkeys'⟩, hv⟩ :=
    (hiff _).mp ⟨q, (returns_deserialise_iff hheader).mp hreturns⟩
  obtain ⟨rfl, rfl⟩ := (Bool.and_eq_true _ _).mp (Prod.mk.inj hv).1
  rw [← hend]
  apply RsTlvSecurityKeySet.lt_of_returns_getTlv hkeys hsetsLie.tail.hasBytes hsetsLie.tail.room
    hbound _ hkeys'
  intro a ha
  apply hzero
  omega

/-- A message is read back with its signatures under the keys that the variable holds. -/
theorem RsGxsMsgMetaData.exists_returns_deserialise {self : RsGxsMsgMetaData} (h : self.Valid)
    (hbytes : HasBytes data 0 self.toBytes) (hbound : self.toBytes.length < 2 ^ 32)
    (hfuel : self.toBytes.length ≤ fuel) {key : Nat → Nat}
    (hfit : ∀ p, HasBytes data p self.signSet.toBytes →
      Entry.FitFrom (p + tlvHeaderSize)
        (RsTlvKeySignatureSet.entries currType key self.signSet.toList))
    (t : Nat) (old : RsGxsMsgMetaData) :
  ∃ q, Returns (deserialise data currType t fuel self.toBytes.length old) 0 (true,
    { self with
      signSet := Entry.updateAll
        (RsTlvKeySignatureSet.entries currType key self.signSet.toList) OrdMap.empty }) q
  := by
  obtain ⟨hheader, hlies⟩ := liesAt_of_withHeader (show self.toBytes = _ from rfl) hbytes hbound
  obtain ⟨p, hsetLies, hlast, hiff⟩ := exists_returns_getContent_iff currType fuel h hlies hbound
    t old
  have hsigns := RsTlvKeySignatureSet.returns_getTlv h.signSet hsetLies.hasBytes hsetLies.room
    hbound hlast hfuel (hfit p hsetLies.hasBytes) old.signSet
  obtain ⟨q, hv⟩ := (hiff _).mpr ⟨_, hsigns, rfl⟩
  exact ⟨q, (returns_deserialise_iff hheader).mpr hv⟩

end Read

theorem fitFrom_entries_const (c p : Nat)
    (l : List (Nat × RsTlvKeySignature)) :
  Entry.FitFrom p (RsTlvKeySignatureSet.entries (fun _ => c) (fun _ => c) l)
  := Entry.fitFrom_of_forall (fun _ he => RsTlvKeySignatureSet.fits_of_mem_entries_const he) p

/-- Without signatures the variable is not read. -/
theorem fitFrom_entries_of_nil {signSet : RsTlvKeySignatureSet} (hnil : signSet.toList = [])
    (currType : Nat → Nat) (p : Nat) :
  Entry.FitFrom p (RsTlvKeySignatureSet.entries currType id signSet.toList)
  := by
  rw [hnil]
  trivial

theorem zero_behind (bytes : List UInt8) (a : Nat) (ha : bytes.length ≤ a) :
  Memory.store (fun _ => 0) 0 bytes a = 0
  := by
  rw [Memory.store, if_neg (by omega)]

/-- A group comes back from its bytes if and only if it has no signatures, and the guard of the loop
over its keys does not wrap around. -/
theorem RsGxsGrpMetaData.survives_iff_unsigned (h : self.Valid) :
  self.Survives ↔ self.signSet.toList = [] ∧ self.toBytes.length + 2 < 2 ^ 32
  := by
  have hsize := self.serialSize_eq
  constructor
  · rintro ⟨hlength, -, hread⟩
    rw [← hlength] at hread
    have hbytes := hasBytes_store (fun _ => 0) 0 self.toBytes
    -- what is read back when the variable always holds `c`
    have hsets (c : Nat) : self.toBytes.length + 2 < 2 ^ 32 ∧
        ∀ k, k ≠ c → self.signSet.get? k = none := by
      obtain ⟨enough, hreturns⟩ := hread _ (fun _ => c) self hbytes
      obtain ⟨v, q, hv, rfl, -⟩ := hreturns _ (le_max_left enough self.toBytes.length)
      have hlast := length_lt_of_returns_deserialise _ _ h.keys hbytes (zero_behind _) hv
      obtain ⟨q', hconst⟩ := exists_returns_deserialise (fun _ => c) _ h.signSet h.keys hbytes hlast
        (le_max_right enough _) (fun p _ => fitFrom_entries_const c _ _) v
      have heq := congrArg (RsGxsGrpMetaData.signSet ∘ Prod.snd) (hv.unique hconst).1
      use hlast
      intro k hne
      apply (congrArg (fun signSet => OrdMap.get? signSet k) heq).trans
      apply RsTlvKeySignatureSet.get?_updateAll_entries (fun _ => c) hne
    use RsTlvKeySignatureSet.toList_eq_nil_of_forall fun c => (hsets c).2
    apply (hsets 0).1
  · rintro ⟨hnil, hlast⟩
    rw [Nat.mod_eq_of_lt (by omega)] at hsize
    refine ⟨hsize.symm, serialiseParts_eq hsize.symm (by omega), ?_⟩
    intro data currType old hbytes
    use self.toBytes.length
    intro fuel hfuel
    obtain ⟨q, hv⟩ := exists_returns_deserialise currType fuel h.signSet h.keys hbytes hlast hfuel
      (fun p _ => fitFrom_entries_of_nil hnil currType _) old
    rw [RsTlvKeySignatureSet.updateAll_entries, sanitised, h.mGroupName, h.mServiceString,
      ← hsize] at hv
    use self, q, hv, rfl
    exact fun _ => rfl

/-- A message comes back from its bytes if and only if it has no signatures. -/
theorem RsGxsMsgMetaData.survives_iff_unsigned (self : RsGxsMsgMetaData) (h : self.Valid) :
  self.Survives ↔ self.signSet.toList = [] ∧ self.toBytes.length < 2 ^ 32
  := by
  have hsize := self.serialSize_eq
  constructor
  · rintro ⟨hlength, -, hread⟩
    have hbound : self.toBytes.length < 2 ^ 32 := by omega
    rw [← hlength] at hread
    have hbytes := hasBytes_store (fun _ => 0) 0 self.toBytes
    refine ⟨RsTlvKeySignatureSet.toList_eq_nil_of_forall ?_, hbound⟩
    -- what is read back when the variable always holds `c`
    intro c k hne
    obtain ⟨enough, hreturns⟩ := hread _ (fun _ => c) 0 self hbytes
    obtain ⟨v, q, hv, rfl, -⟩ := hreturns _ (le_max_left enough self.toBytes.length)
    obtain ⟨q', hconst⟩ := exists_returns_deserialise (fun _ => c) _ h hbytes hbound
      (le_max_right enough _) (fun p _ => fitFrom_entries_const c _ _) 0 v
    have heq := congrArg (RsGxsMsgMetaData.signSet ∘ Prod.snd) (hv.unique hconst).1
    apply (congrArg (fun signSet => OrdMap.get? signSet k) heq).trans
    apply RsTlvKeySignatureSet.get?_updateAll_entries (fun _ => c) hne
  · rintro ⟨hnil, hbound⟩
    rw [Nat.mod_eq_of_lt hbound] at hsize
    refine ⟨hsize.symm, serialiseParts_eq hsize.symm (by omega), ?_⟩
    intro data currType t old hbytes
    use self.toBytes.length
    intro fuel hfuel
    obtain ⟨q, hv⟩ := exists_returns_deserialise currType fuel h hbytes hbound hfuel
      (fun p _ => fitFrom_entries_of_nil hnil currType _) t old
    rw [RsTlvKeySignatureSet.updateAll_entries, ← hsize] at hv
    use self, q, hv, rfl
    exact fun _ => rfl

/-! ### Buffers -/

/-- `RsGxsGrpMetaData::deserialise`, after the header. -/
def grpShape (data : Memory) (pktsize : Nat) : Shape :=
  .seq [
    rawShape 16 pktsize,
    rawShape 16 pktsize,
    rawShape 16 pktsize,
    stringShape data 0 pktsize pktsize,
    rawShape 4 pktsize,
    rawShape 4 pktsize,
    rawShape 4 pktsize,
    rawShape 4 pktsize,
    rawShape 16 pktsize,
    stringShape data 0 pktsize pktsize,
    rawShape 16 pktsize,
    signSetShape data pktsize,
    keySetShape data pktsize]

/-- `RsGxsMsgMetaData::deserialise`, after the header. -/
def msgShape (data : Memory) (size : Nat) : Shape :=
  .seq [
    rawShape 16 size,
    rawShape 20 size,
    rawShape 20 size,
    rawShape 20 size,
    rawShape 20 size,
    rawShape 16 size,
    signSetShape data size,
    stringShape data 0 size size,
    rawShape 4 size,
    rawShape 4 size]

/-- The condition for a buffer: the header lies in it, and what follows is safe when the size in the
header is that of the buffer. -/
def BufferSafe (data : Memory) (pktsize : Nat) (s : Shape) : Prop :=
  8 ≤ pktsize ∧ (data.be32 4 = pktsize → s.Safe 8)

theorem logs_deserialise (self : α) (content : Dec (Bool × α)) :
  Logs (Event.Within pktsize) (deserialise data pktsize self content) 0 ↔
    8 ≤ pktsize ∧ (data.be32 4 = pktsize → Logs (Event.Within pktsize) content 8)
  := by
  have hheader : Event.Within pktsize (.read 4 4) ↔ 8 ≤ pktsize := by
    simp only [Event.Within]
    omega
  rw [deserialise, GRouter.logs_seek_bind, GRouter.logs_getRsItemSize_bind, hheader, logs_ite_iff,
    and_iff_right fun _ => logs_pure _ _, not_not]

theorem follows_grp (hsize : pktsize < 2 ^ 32) (currType : Nat → Nat) (old : RsGxsGrpMetaData) :
  Follows (Event.Within pktsize)
    (fun fuel => RsGxsGrpMetaData.getContent data currType fuel pktsize old)
    (grpShape data pktsize) True 8
  := by
  unfold RsGxsGrpMetaData.getContent grpShape
  apply (follows_getRaw le_rfl hsize (by decide) _ _).bind
  intro _ _ mGroupId h1
  apply (follows_getRaw le_rfl hsize (by decide) _ _).bind
  intro _ _ mOrigGrpId h2
  apply (follows_getRaw le_rfl hsize (by decide) _ _).bind
  intro _ _ mParentGrpId h3
  apply (follows_getTlvString le_rfl hsize _ _).bind
  intro _ _ mGroupName h4
  apply (follows_getRaw le_rfl hsize (by decide) _ _).bind
  intro _ _ mGroupFlags h5
  apply (follows_getRaw le_rfl hsize (by decide) _ _).bind
  intro _ _ mPublishTs h6
  apply (follows_getRaw le_rfl hsize (by decide) _ _).bind
  intro _ _ mCircleType h7
  apply (follows_getRaw le_rfl hsize (by decide) _ _).bind
  intro _ _ mAuthenFlags h8
  apply (follows_getRaw le_rfl hsize (by decide) _ _).bind
  intro _ _ mAuthorId h9
  apply (follows_getTlvString le_rfl hsize _ _).bind
  intro _ _ mServiceString h10
  apply (follows_getRaw le_rfl hsize (by decide) _ _).bind
  intro _ _ mCircleId h11
  apply (follows_signSet hsize currType _).bind
  intro _ _ signSet h12
  apply (follows_keySet hsize _).bind
  intro _ _ keys h13
  apply Follows.done
  intro fuel
  simp only [Bool.and_eq_true, h1, h2, h3, h4, h5, h6, h7, h8, h9, h10, h11, h12, h13, true_and]

theorem follows_msg (hsize : pktsize < 2 ^ 32) (currType : Nat → Nat) (t : Nat)
    (old : RsGxsMsgMetaData) :
  Follows (Event.Within pktsize)
    (fun fuel => RsGxsMsgMetaData.getContent data currType t fuel pktsize old)
    (msgShape data pktsize) True 8
  := by
  unfold RsGxsMsgMetaData.getContent msgShape
  apply (follows_getRaw le_rfl hsize (by decide) _ _).bind
  intro _ _ mGroupId h1
  apply (follows_getRaw le_rfl hsize (by decide) _ _).bind
  intro _ _ mMsgId h2
  apply (follows_getRaw le_rfl hsize (by decide) _ _).bind
  intro _ _ mThreadId h3
  apply (follows_getRaw le_rfl hsize (by decide) _ _).bind
  intro _ _ mParentId h4
  apply (follows_getRaw le_rfl hsize (by decide) _ _).bind
  intro _ _ mOrigMsgId h5
  apply (follows_getRaw le_rfl hsize (by decide) _ _).bind
  intro _ _ mAuthorId h6
  apply (follows_signSet hsize currType _).bind
  intro _ _ signSet h7
  apply (follows_getTlvString le_rfl hsize _ _).bind
  intro _ _ mMsgName h8
  apply (follows_getRaw le_rfl hsize (by decide) _ _).bind
  intro _ _ mPublishTs h9
  apply (follows_getRaw le_rfl hsize (by decide) _ _).bind
  intro _ _ mMsgFlags h10
  apply Follows.done
  intro fuel
  simp only [Bool.and_eq_true, h1, h2, h3, h4, h5, h6, h7, h8, h9, h10, true_and]

/-- The decoder of a group only reads bytes of the buffer, which are those below `pktsize`. -/
def RsGxsGrpMetaData.ReadsWithin (data : Memory) (pktsize : Nat) : Prop :=
  ∀ (currType : Nat → Nat) (old : RsGxsGrpMetaData) (fuel : Nat),
    Logs (Event.Within pktsize) (deserialise data currType fuel pktsize old) 0

/-- The decoder of a message only reads bytes of the buffer, which are those below `size`. -/
def RsGxsMsgMetaData.ReadsWithin (data : Memory) (size : Nat) : Prop :=
  ∀ (currType : Nat → Nat) (t : Nat) (old : RsGxsMsgMetaData) (fuel : Nat),
    Logs (Event.Within size) (deserialise data currType t fuel size old) 0

theorem forall_logs_deserialise {content : Nat → Dec (Bool × α)} {s : Shape}
    (h : Follows (Event.Within pktsize) content s True 8) (self : α) :
  (∀ fuel, Logs (Event.Within pktsize) (deserialise data pktsize self (content fuel)) 0) ↔
    BufferSafe data pktsize s
  := by
  have hlogs := h.logs 0
  simp only [ge_iff_le, zero_le, forall_const] at hlogs
  simp only [logs_deserialise, BufferSafe, ← hlogs]
  constructor
  · intro h
    use (h 0).1
    intro hheader fuel
    apply (h fuel).2 hheader
  · rintro ⟨hroom, h⟩ fuel
    use hroom
    intro hheader
    apply h hheader

/-- Metadata without strings and signatures. -/
def RsGxsGrpMetaData.new : RsGxsGrpMetaData where
  mGroupId := .ofBytes []
  mOrigGrpId := .ofBytes []
  mParentGrpId := .ofBytes []
  mGroupName := []
  mGroupFlags := 0
  mPublishTs := 0
  mCircleType := 0
  mAuthenFlags := 0
  mAuthorId := .ofBytes []
  mServiceString := []
  mCircleId := .ofBytes []
  signSet := OrdMap.empty
  keys := ⟨[], OrdMap.empty⟩

/-- Metadata with the given signatures. -/
def RsGxsMsgMetaData.signed (signSet : RsTlvKeySignatureSet) : RsGxsMsgMetaData where
  mGroupId := .ofBytes []
  mMsgId := .ofBytes []
  mThreadId := .ofBytes []
  mParentId := .ofBytes []
  mOrigMsgId := .ofBytes []
  mAuthorId := .ofBytes []
  signSet := signSet
  mMsgName := []
  mPublishTs := 0
  mMsgFlags := 0

theorem RsGxsGrpMetaData.readsWithin_iff_bufferSafe (hsize : pktsize < 2 ^ 32) :
  ReadsWithin data pktsize ↔ BufferSafe data pktsize (grpShape data pktsize)
  := by
  constructor
  · intro h
    apply (forall_logs_deserialise (follows_grp hsize (fun _ => 0) .new) .new).mp
    apply h
  · intro h currType old
    apply (forall_logs_deserialise (follows_grp hsize currType old) old).mpr h

theorem RsGxsMsgMetaData.readsWithin_iff_bufferSafe (hsize : pktsize < 2 ^ 32) :
  ReadsWithin data pktsize ↔ BufferSafe data pktsize (msgShape data pktsize)
  := by
  constructor
  · intro h
    apply (forall_logs_deserialise (follows_msg hsize (fun _ => 0) 0 (.signed OrdMap.empty))
      (.signed OrdMap.empty)).mp
    apply h
  · intro h currType t old
    apply (forall_logs_deserialise (follows_msg hsize currType t old) old).mpr h

theorem signSetShape_of_empty (data : Memory) {size p : Nat} (hroom : p + 6 ≤ size ∧ p + 8 < 2 ^ 32)
    (htype : data.be16 p = tlvTypeKeysignatureset) (hsize : data.be32 (p + 2) = 6) :
  (signSetShape data size).Safe p ∧ ∀ q, (signSetShape data size).Ends p q → q = p + 6
  := by
  have hend : GRouter.tlvEnd data p = p + 6 := by
    rw [GRouter.tlvEnd, hsize, add32]
    omega
  have hstart : add32 p tlvHeaderSize = p + 6 := by
    rw [add32, tlvHeaderSize]
    omega
  have hguard : ¬ add32 (p + 6) 2 < p + 6 := by
    rw [add32]
    omega
  have hafter : ∀ k q, Shape.After (fun offset => add32 offset 2 < p + 6)
      (signSubShape data size (p + 6)) k (p + 6) q → q = p + 6 := by
    intro k q h
    cases k with
    | zero => exact h
    | succ k => exact absurd (of_decide_eq_true h.1) hguard
  have haccepted : Accepted data tlvTypeKeysignatureset size p := by
    rw [Accepted, hsize, htype, add32]
    exact ⟨by omega, rfl⟩
  simp only [signSetShape, itemShape, headerShape, closeShape, hend, hstart, Shape.loop]
  constructor
  · intro _
    refine ⟨by rw [HeaderSafe, tlvHeaderSize]; omega, fun _ k q h hlt => ?_⟩
    rw [hafter k q h] at hlt
    exact absurd (of_decide_eq_true hlt) hguard
  · intro q hq
    rw [if_pos ⟨hroom.1, haccepted⟩] at hq
    exact hq.2

/-! ### All transfers -/

/-- Metadata that is sent, or a buffer that is received. -/
inductive Transfer where
  | grp (metaData : RsGxsGrpMetaData)
  | msg (metaData : RsGxsMsgMetaData)
  | grpBuffer (data : Memory) (pktsize : Nat)
  | msgBuffer (data : Memory) (size : Nat)

namespace Transfer

/-- The values that are sent, and the buffers whose sizes are 32-bit numbers. -/
def Valid : Transfer → Prop
  | grp metaData => metaData.Valid
  | msg metaData => metaData.Valid
  | grpBuffer _ pktsize => 0 < pktsize ∧ pktsize < 2 ^ 32
  | msgBuffer _ size => 0 < size ∧ size < 2 ^ 32

/-- What is sent comes back from its bytes, and of what is received only the bytes are read. -/
def Sound : Transfer → Prop
  | grp metaData => metaData.Survives
  | msg metaData => metaData.Survives
  | grpBuffer data pktsize => RsGxsGrpMetaData.ReadsWithin data pktsize
  | msgBuffer data size => RsGxsMsgMetaData.ReadsWithin data size

/-- The condition for a transfer. -/
def Condition : Transfer → Prop
  | grp metaData => metaData.signSet.toList = [] ∧ metaData.toBytes.length + 2 < 2 ^ 32
  | msg metaData => metaData.signSet.toList = [] ∧ metaData.toBytes.length < 2 ^ 32
  | grpBuffer data pktsize => BufferSafe data pktsize (grpShape data pktsize)
  | msgBuffer data size => BufferSafe data size (msgShape data size)

/-- Metadata comes back if and only if it has no signatures and is not too long, and a buffer is
only read inside if and only if what it announces lies in it. -/
theorem sound_iff (transfer : Transfer) (h : transfer.Valid) :
  transfer.Sound ↔ transfer.Condition
  := by
  cases transfer with
  | grp metaData => apply metaData.survives_iff_unsigned h
  | msg metaData => apply metaData.survives_iff_unsigned h
  | grpBuffer data pktsize => apply RsGxsGrpMetaData.readsWithin_iff_bufferSafe h.2
  | msgBuffer data size => apply RsGxsMsgMetaData.readsWithin_iff_bufferSafe h.2

/-- A group with a name and a key. -/
def news : RsGxsGrpMetaData :=
  { RsGxsGrpMetaData.new with
    mGroupId := .ofBytes (List.replicate 16 1)
    mOrigGrpId := .ofBytes (List.replicate 16 1)
    mGroupName := [110, 101, 119, 115]
    mAuthorId := .ofBytes (List.replicate 16 3)
    mServiceString := [118, 49]
    keys := ⟨[103], OrdMap.insert OrdMap.empty (idValue (List.replicate 16 4))
      ⟨List.replicate 16 4, 0x22, 100, 200, ⟨tlvTypeKeyEvpPkey, [1, 2, 3]⟩⟩⟩ }

/-- A message with a name. -/
def greeting : RsGxsMsgMetaData :=
  { RsGxsMsgMetaData.signed OrdMap.empty with
    mGroupId := .ofBytes (List.replicate 16 1)
    mMsgId := .ofBytes (List.replicate 20 2)
    mAuthorId := .ofBytes (List.replicate 16 3)
    mMsgName := [104, 105]
    mPublishTs := 100 }

theorem bufferSafe_greeting :
  BufferSafe (Bytes.toMemory greeting.toBytes) 142 (msgShape (Bytes.toMemory greeting.toBytes) 142)
  := by
  have hset : (Bytes.toMemory greeting.toBytes).be16 120 = tlvTypeKeysignatureset := by
    decide +kernel
  have hsetSize : (Bytes.toMemory greeting.toBytes).be32 122 = 6 := by decide +kernel
  have hname : (Bytes.toMemory greeting.toBytes).be16 126 = 0 := by decide +kernel
  have hnameSize : (Bytes.toMemory greeting.toBytes).be32 128 = 8 := by decide +kernel
  refine ⟨by decide, fun _ => ?_⟩
  generalize Bytes.toMemory greeting.toBytes = data at hset hsetSize hname hnameSize ⊢
  obtain ⟨hsafe, hends⟩ := @signSetShape_of_empty data 142 120 (by decide) hset hsetSize
  simp only [msgShape, Shape.seq, Shape.andThen, rawShape, RawSafe, Nat.reducePow, add32,
    GRouter.rawEnd, stringShape, StringSafe, Accepted, and_imp, GRouter.StringDecoded,
    GRouter.tlvEnd, Shape.done, implies_true, and_true, exists_eq_left, exists_eq, forall_eq,
    Nat.reduceAdd, Nat.reduceLT, Nat.reduceMod, or_false, ↓reduceIte, hsafe, true_and]
  intro q hq
  obtain rfl := hends q hq
  simp [tlvHeaderSize, hname, hnameSize]

theorem sound_iff_news :
  (grp news).Sound ∧ (msg greeting).Sound ∧ (msgBuffer (Bytes.toMemory greeting.toBytes) 142).Sound
  := by
  have hkey : ∀ e ∈ news.keys.keys.toList,
      e = (idValue (List.replicate 16 4), ⟨List.replicate 16 4, 0x22, 100, 200,
        ⟨tlvTypeKeyEvpPkey, [1, 2, 3]⟩⟩) := fun e he => List.mem_singleton.mp he
  refine ⟨(sound_iff (grp news) ?_).mpr ⟨rfl, by decide +kernel⟩,
    (sound_iff (msg greeting) ?_).mpr ⟨rfl, by decide +kernel⟩,
    (sound_iff (msgBuffer _ 142) ⟨by decide, by decide⟩).mpr bufferSafe_greeting⟩
  · refine ⟨by decide, by decide, fun _ h => absurd h List.not_mem_nil, ⟨by decide, ?_, ?_⟩⟩
    · intro e he
      rw [hkey e he]
    · intro e he
      rw [hkey e he]
      exact ⟨rfl, by decide, by decide, by decide, rfl⟩
  · exact ⟨by decide, by decide, fun _ h => absurd h List.not_mem_nil⟩

/-- A signed message does not come back, and the size is read behind a buffer of four bytes. -/
theorem not_sound_oneSign :
  ¬ (msg (.signed RsTlvKeySignatureSet.oneSign)).Sound ∧
    ¬ (grpBuffer (Bytes.toMemory [0, 0, 0, 0]) 4).Sound
  := by
  constructor
  · intro h
    have hsurvives := (RsGxsMsgMetaData.survives_iff_unsigned _ ⟨by decide, by decide,
      RsTlvKeySignatureSet.oneSign_valid⟩).mp h
    exact absurd hsurvives.1 (by decide)
  · intro h
    have hsafe := (RsGxsGrpMetaData.readsWithin_iff_bufferSafe (by decide)).mp h
    exact absurd hsafe.1 (by decide)

end Transfer

end Gxs.MetaData
