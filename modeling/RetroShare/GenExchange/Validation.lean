import RetroShare.GenExchange.MetaData

/-!
# Authentication

The checks of signatures of `gxssecurity.cc`, and what `RsGenExchange` of `rsgenexchange.cc` makes
of them: which signatures a message or a group has to carry under the authentication policy of the
service, and whether it carries them.

The signatures themselves are those of a library: `OpenSSL` has what is used of it.  What the
service that keeps the identities answers is an `RsGixs`; it answers anew at every call.
-/

namespace GenExchange

open GRouter (setRaw)

/-! ### Signatures -/

/-- What is used of the library.  Keys and signatures are bytes. -/
structure OpenSSL where
  /-- `d2i_RSAPrivateKey` or `d2i_RSAPublicKey`, by the flags of the key: the public part. -/
  rsaKey : RsTlvSecurityKey → Option (List UInt8)
  /-- `EVP_VerifyFinal`: a key, data and a signature. -/
  verify : List UInt8 → List UInt8 → List UInt8 → Bool
  /-- `EVP_SignFinal`, with a key that has a private part. -/
  sign : RsTlvSecurityKey → List UInt8 → Option (List UInt8)
  /-- `pqihash`. -/
  sha1 : List UInt8 → RsGxsMessageId

/-- `RsGixs`. -/
structure RsGixs where
  haveKey : RsGxsId → Bool
  getKey : RsGxsId → Option RsTlvSecurityKey
  havePrivateKey : RsGxsId → Bool
  getPrivateKey : RsGxsId → RsTlvSecurityKey

/-- The check of the period of a key. -/
def RsTlvSecurityKey.inPeriod (key : RsTlvSecurityKey) (publishTs : Nat) : Bool :=
  !(publishTs < key.startTS.toNat || (key.endTS ≠ 0 && key.endTS.toNat < publishTs))

namespace GxsSecurity

variable (ssl : OpenSSL)

/-- The check of a signature of `data`, with a key that need not be one. -/
def verifies (key : RsTlvSecurityKey) (data : List UInt8) (sign : RsTlvKeySignature) : Bool :=
  (ssl.rsaKey key).any fun rsakey => ssl.verify rsakey data sign.signData

/-- The metadata that the signature of a message covers: the ids are cleared, as are the
signatures. -/
def msgMetaCleared (msgMeta : RsGxsMsgMetaData) : RsGxsMsgMetaData :=
  { msgMeta with signSet := OrdMap.empty, mMsgId := 0, mOrigMsgId := 0 }

/-- `validateNxsMsg`, of the data `msg` and its metadata. -/
def validateNxsMsg (msg : List UInt8) (msgMeta : RsGxsMsgMetaData) (sign : RsTlvKeySignature)
    (key : RsTlvSecurityKey) : Bool :=
  key.inPeriod msgMeta.mPublishTs &&
    verifies ssl key (msg ++ (msgMetaCleared msgMeta).serialise) sign

/-- The metadata that the signature of a group covers. -/
def grpMetaCleared (grpMeta : RsGxsGrpMetaData) : RsGxsGrpMetaData :=
  { grpMeta with signSet := OrdMap.empty }

/-- `validateNxsGrp`, of the data `grp` and its metadata. -/
def validateNxsGrp (grp : List UInt8) (grpMeta : RsGxsGrpMetaData) (sign : RsTlvKeySignature)
    (key : RsTlvSecurityKey) : Bool :=
  key.inPeriod grpMeta.mPublishTs.toNat &&
    verifies ssl key (grp ++ (grpMetaCleared grpMeta).serialise) sign

end GxsSecurity

/-! ### The policy -/

/-- `PrivacyBitPos`. -/
inductive PrivacyBitPos where
  | publicGrpBits
  | restrictedGrpBits
  | privateGrpBits
  | grpOptionBits
  deriving DecidableEq

/-- `RESTR_GRP_OFFSET`, `PRIV_GRP_OFFSET` and `GRP_OPTIONS_OFFSET`. -/
def PrivacyBitPos.offset : PrivacyBitPos → UInt32
  | .publicGrpBits => 0
  | .restrictedGrpBits => 8
  | .privateGrpBits => 16
  | .grpOptionBits => 24

/-- `FLAG_PRIVACY_PRIVATE`. -/
def flagPrivacyPrivate : UInt32 := 0x00000001

/-- `FLAG_PRIVACY_RESTRICTED`. -/
def flagPrivacyRestricted : UInt32 := 0x00000002

/-- `MSG_AUTHEN_ROOT_PUBLISH_SIGN`. -/
def msgAuthenRootPublishSign : UInt8 := 0x01

/-- `MSG_AUTHEN_CHILD_PUBLISH_SIGN`. -/
def msgAuthenChildPublishSign : UInt8 := 0x02

/-- `MSG_AUTHEN_ROOT_AUTHOR_SIGN`. -/
def msgAuthenRootAuthorSign : UInt8 := 0x04

/-- `MSG_AUTHEN_CHILD_AUTHOR_SIGN`. -/
def msgAuthenChildAuthorSign : UInt8 := 0x08

/-- `GRP_OPTION_AUTHEN_AUTHOR_SIGN`. -/
def grpOptionAuthenAuthorSign : UInt8 := 0x01

/-- `RsGenExchange::checkAuthenFlag`. -/
def checkAuthenFlag (mAuthenPolicy : UInt32) (pos : PrivacyBitPos) (flag : UInt8) : Bool :=
  (mAuthenPolicy >>> pos.offset) &&& flag.toUInt32 ≠ 0

/-- `author_flag`, of a root or of a child message. -/
def authorFlag (metaData : RsGxsMsgMetaData) : UInt8 :=
  if metaData.mParentId ≠ 0 then msgAuthenChildAuthorSign else msgAuthenRootAuthorSign

/-- `publish_flag`, of a root or of a child message. -/
def publishFlag (metaData : RsGxsMsgMetaData) : UInt8 :=
  if metaData.mParentId ≠ 0 then msgAuthenChildPublishSign else msgAuthenRootPublishSign

/-- `pos`, by the flags of the group. -/
def privacyBitPos (grpFlag : UInt32) : PrivacyBitPos :=
  if grpFlag &&& flagPrivacyRestricted ≠ 0 then .restrictedGrpBits
  else if grpFlag &&& flagPrivacyPrivate ≠ 0 then .privateGrpBits
  else .publicGrpBits

/-! ### Validation -/

/-- `VALIDATE_FAIL`, `VALIDATE_SUCCESS` and `VALIDATE_FAIL_TRY_LATER`. -/
inductive ValidateReturn where
  | fail
  | success
  | failTryLater
  deriving DecidableEq

/-- What a check that has an outcome returns. -/
def ValidateReturn.ofBool (valid : Bool) : ValidateReturn := if valid then .success else .fail

@[simp]
theorem ValidateReturn.ofBool_eq_success (valid : Bool) :
  ofBool valid = .success ↔ valid = true
  := by
  cases valid <;> simp [ofBool]

/-- What `RsGenExchange` is constructed with. -/
structure Service where
  mAuthenPolicy : UInt32
  messageStorePeriod : UInt32
  ssl : OpenSSL

variable (service : Service) (mGixs : Option RsGixs)

/-- The check of the signature of an author: `validate` is given his key. -/
def validateIdentity (authorId : RsGxsId) (validate : RsTlvSecurityKey → Bool) : ValidateReturn :=
  match mGixs with
  | none => .fail
  | some gixs =>
      if gixs.haveKey authorId then .ofBool ((gixs.getKey authorId).any validate)
      else .failTryLater

/-- The id of the first key that publishes, and the null id when there is none. -/
def publishKeyId (keySet : RsTlvSecurityKeySet) : RsGxsId :=
  match keySet.keys.toList.find? fun e =>
      e.2.keyFlags &&& rstlvKeyDistribPublicDeprecated ≠ 0 ||
        e.2.keyFlags &&& rstlvKeyDistribPublish ≠ 0 with
  | some e => e.2.keyId
  | none => 0

/-- `publishValidate`, where the signature is needed. -/
def validatePublish (msg : List UInt8) (metaData : RsGxsMsgMetaData)
    (grpKeySet : RsTlvSecurityKeySet) : Bool :=
  let keyId := publishKeyId grpKeySet
  keyId ≠ 0 &&
    GxsSecurity.validateNxsMsg service.ssl msg metaData (signOf metaData.signSet flagAuthenPublish)
      ((grpKeySet.keys.get? keyId).getD RsTlvSecurityKey.new)

/-- `needPublishSign` of `validateMsg`. -/
def needPublishSign (metaData : RsGxsMsgMetaData) (grpFlag : UInt32) : Bool :=
  checkAuthenFlag service.mAuthenPolicy (privacyBitPos grpFlag) (publishFlag metaData)

/-- `needIdentitySign` of `validateMsg`. -/
def needIdentitySign (metaData : RsGxsMsgMetaData) (grpFlag : UInt32) : Bool :=
  checkAuthenFlag service.mAuthenPolicy (privacyBitPos grpFlag) (authorFlag metaData) ||
    metaData.mAuthorId ≠ 0

/-- `RsGenExchange::validateMsg`, of the data `msg` and its metadata.  The empty signatures that
`operator[]` leaves where there are none are left out. -/
def validateMsg (msg : List UInt8) (metaData : RsGxsMsgMetaData) (grpFlag : UInt32)
    (grpKeySet : RsTlvSecurityKeySet) : ValidateReturn :=
  let publishValidate :=
    !needPublishSign service metaData grpFlag || validatePublish service msg metaData grpKeySet
  if needIdentitySign service metaData grpFlag then
    validateIdentity mGixs metaData.mAuthorId fun authorKey =>
      publishValidate &&
        GxsSecurity.validateNxsMsg service.ssl msg metaData
          (signOf metaData.signSet flagAuthenIdentity) authorKey
  else
    .ofBool publishValidate

theorem validateIdentity_eq_success {authorId : RsGxsId} {validate : RsTlvSecurityKey → Bool} :
  validateIdentity mGixs authorId validate = .success ↔
    ∃ gixs key, mGixs = some gixs ∧ gixs.haveKey authorId = true ∧
      gixs.getKey authorId = some key ∧ validate key = true
  := by
  unfold validateIdentity
  cases mGixs with
  | none => simp
  | some gixs =>
    cases hhave : gixs.haveKey authorId with
    | false => simp [hhave]
    | true =>
      cases hkey : gixs.getKey authorId with
      | none => simp [hhave, hkey]
      | some key => simp [hhave, hkey]

theorem validateMsg_eq_success {msg : List UInt8} {metaData : RsGxsMsgMetaData} {grpFlag : UInt32}
    {grpKeySet : RsTlvSecurityKeySet} :
  validateMsg service mGixs msg metaData grpFlag grpKeySet = .success ↔
    (needPublishSign service metaData grpFlag = true →
      validatePublish service msg metaData grpKeySet = true) ∧
    (needIdentitySign service metaData grpFlag = true →
      ∃ gixs key, mGixs = some gixs ∧ gixs.haveKey metaData.mAuthorId = true ∧
        gixs.getKey metaData.mAuthorId = some key ∧
        GxsSecurity.validateNxsMsg service.ssl msg metaData
          (signOf metaData.signSet flagAuthenIdentity) key = true)
  := by
  have hpublish : (!needPublishSign service metaData grpFlag ||
      validatePublish service msg metaData grpKeySet) = true ↔
      (needPublishSign service metaData grpFlag = true →
        validatePublish service msg metaData grpKeySet = true) := by
    cases needPublishSign service metaData grpFlag <;> simp
  rw [← hpublish, validateMsg]
  split
  case isTrue hneeded =>
    simp only [validateIdentity_eq_success, Bool.and_eq_true, hneeded, forall_true_left]
    constructor
    · rintro ⟨gixs, key, hgixs, hhave, hkey, hvalid, hidentity⟩
      exact ⟨hvalid, gixs, key, hgixs, hhave, hkey, hidentity⟩
    · rintro ⟨hvalid, gixs, key, hgixs, hhave, hkey, hidentity⟩
      exact ⟨gixs, key, hgixs, hhave, hkey, hvalid, hidentity⟩
  case isFalse hneeded =>
    simp [hneeded]

/-- `needIdentitySign` of `validateGrp`. -/
def grpNeedIdentitySign (metaData : RsGxsGrpMetaData) : Bool :=
  metaData.mAuthorId ≠ 0 ||
    checkAuthenFlag service.mAuthenPolicy .grpOptionBits grpOptionAuthenAuthorSign

/-- `RsGenExchange::validateGrp`, of the data `grp` and its metadata. -/
def validateGrp (grp : List UInt8) (metaData : RsGxsGrpMetaData) : ValidateReturn :=
  if grpNeedIdentitySign service metaData then
    validateIdentity mGixs metaData.mAuthorId fun authorKey =>
      GxsSecurity.validateNxsGrp service.ssl grp metaData
        (signOf metaData.signSet flagAuthenIdentity) authorKey
  else
    .success

/-- `RsGenExchange::updateValid`. -/
def updateValid (oldGrpMeta : RsGxsGrpMetaData) (grp : List UInt8) (metaData : RsGxsGrpMetaData) :
    Bool :=
  match metaData.signSet.get? flagAuthenAdmin with
  | none => false
  | some adminSign =>
      match oldGrpMeta.keys.keys.get? oldGrpMeta.mGroupId with
      | none => false
      | some key =>
          let latest := oldGrpMeta.mPublishTs < metaData.mPublishTs
          GxsSecurity.validateNxsGrp service.ssl grp metaData adminSign key && latest

/-- A library that knows no key. -/
def noKeys : OpenSSL where
  rsaKey _ := none
  verify _ _ _ := false
  sign _ _ := none
  sha1 _ := 0

/-- A service without a policy, that knows no key. -/
def openService : Service := ⟨0, 0, noKeys⟩

end GenExchange
