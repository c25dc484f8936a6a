import RetroShare.GenExchange.Validation

/-!
# Published messages

`RsGenExchange::createMsgSignatures` and `createMessage` of `rsgenexchange.cc`, and what
`publishMsgs` does with the metadata of a message before and after.
-/

namespace GenExchange

/-! ### Items -/

/-- `RsMsgMetaData`, the metadata of an `RsGxsMsgItem`. -/
structure RsMsgMetaData where
  mGroupId : RsGxsGroupId
  mMsgId : RsGxsMessageId
  mThreadId : RsGxsMessageId
  mParentId : RsGxsMessageId
  mOrigMsgId : RsGxsMessageId
  mAuthorId : RsGxsId
  mMsgName : List UInt8
  mMsgFlags : UInt32
  mMsgStatus : UInt32
  deriving DecidableEq

/-- `RsGxsMsgMetaData::operator=` on new metadata, and the time stamp of the publication. -/
def RsMsgMetaData.toMetaData (rMeta : RsMsgMetaData) (now : Nat) : RsGxsMsgMetaData where
  mGroupId := rMeta.mGroupId
  mMsgId := rMeta.mMsgId
  mThreadId := rMeta.mThreadId
  mParentId := rMeta.mParentId
  mOrigMsgId := rMeta.mOrigMsgId
  mAuthorId := rMeta.mAuthorId
  signSet := OrdMap.empty
  mMsgName := rMeta.mMsgName
  mPublishTs := now
  mMsgFlags := rMeta.mMsgFlags
  mMsgStatus := rMeta.mMsgStatus

/-! ### Signatures -/

/-- `SIGN_FAIL`, `SIGN_SUCCESS` and `SIGN_FAIL_TRY_LATER`; also `CREATE_FAIL`, `CREATE_SUCCESS` and
`CREATE_FAIL_TRY_LATER`. -/
inductive CreateReturn where
  | fail
  | success
  | failTryLater
  deriving DecidableEq

/-- `GxsSecurity::getSignature`: whether it succeeds, and the content of `sign`. -/
def GxsSecurity.getSignature (ssl : OpenSSL) (data : List UInt8) (privKey : RsTlvSecurityKey)
    (sign : RsTlvKeySignature) : Bool × RsTlvKeySignature :=
  match ssl.sign privKey data with
  | none => (false, sign)
  | some signData => (true, ⟨privKey.keyId, signData⟩)

/-- The first private key that publishes. -/
def publishSigningKey (keySet : RsTlvSecurityKeySet) : Option RsTlvSecurityKey :=
  (keySet.keys.toList.find? fun e =>
    e.2.keyFlags = rstlvKeyDistribPublish ||| rstlvKeyTypeFull).map Prod.snd

variable (service : Service) (mGixs : Option RsGixs)

/-- `needIdentitySign` of `createMsgSignatures`. -/
def createNeedsIdentitySign (msgMeta : RsGxsMsgMetaData) (grpFlag : UInt32) : Bool :=
  if msgMeta.mAuthorId ≠ 0 then true
  else checkAuthenFlag service.mAuthenPolicy (privacyBitPos grpFlag) (authorFlag msgMeta)

/-- The publish signature of `createMsgSignatures`: `publishSignSuccess` and the signatures. -/
def createPublishSign (signSet : RsTlvKeySignatureSet) (msgData : List UInt8)
    (msgMeta : RsGxsMsgMetaData) (grpMeta : RsGxsGrpMetaData) : Bool × RsTlvKeySignatureSet :=
  if checkAuthenFlag service.mAuthenPolicy (privacyBitPos grpMeta.mGroupFlags)
      (publishFlag msgMeta) then
    match publishSigningKey grpMeta.keys with
    | none => (false, signSet)
    | some publishKey =>
        let r := GxsSecurity.getSignature service.ssl msgData publishKey
          (signOf signSet flagAuthenPublish)
        (r.1, signSet.insert flagAuthenPublish r.2)
  else
    (true, signSet)

/-- The identity signature of `createMsgSignatures`: `id_ret` and the signatures. -/
def createIdentitySign (signSet : RsTlvKeySignatureSet) (msgData : List UInt8)
    (msgMeta : RsGxsMsgMetaData) (grpMeta : RsGxsGrpMetaData) :
    CreateReturn × RsTlvKeySignatureSet :=
  if createNeedsIdentitySign service msgMeta grpMeta.mGroupFlags then
    match mGixs with
    | none => (.fail, signSet)
    | some gixs =>
        if gixs.havePrivateKey msgMeta.mAuthorId then
          let r := GxsSecurity.getSignature service.ssl msgData
            (gixs.getPrivateKey msgMeta.mAuthorId) RsTlvKeySignature.new
          (if r.1 then .success else .fail, signSet.insert flagAuthenIdentity r.2)
        else
          (.failTryLater, signSet)
  else
    (.success, signSet)

/-- `RsGenExchange::createMsgSignatures`. -/
def createMsgSignatures (signSet : RsTlvKeySignatureSet) (msgData : List UInt8)
    (msgMeta : RsGxsMsgMetaData) (grpMeta : RsGxsGrpMetaData) :
    CreateReturn × RsTlvKeySignatureSet :=
  let publish := createPublishSign service signSet msgData msgMeta grpMeta
  let identity := createIdentitySign service mGixs publish.2 msgData msgMeta grpMeta
  (if publish.1 then identity.1 else .fail, identity.2)

/-! ### Messages -/

/-- `RsGenExchange::createMessage`, of the data `msg` and its metadata; `grpMeta` is the metadata of
the group, `none` when there is no such group.  The metadata are those that are left. -/
def createMessage (msg : List UInt8) (metaData : RsGxsMsgMetaData)
    (grpMeta : Option RsGxsGrpMetaData) : CreateReturn × RsGxsMsgMetaData :=
  match grpMeta with
  | none => (.fail, metaData)
  | some grpMeta =>
      let allMsgData := msg ++ metaData.serialise
      let r := createMsgSignatures service mGixs metaData.signSet allMsgData metaData grpMeta
      (r.1, { metaData with signSet := r.2, mMsgId := service.ssl.sha1 allMsgData })

/-- The metadata of a message that has been created, as `publishMsgs` writes it: a message that is
no version of another one is its own original. -/
def markOriginal (metaData : RsGxsMsgMetaData) : RsGxsMsgMetaData :=
  if metaData.mOrigMsgId = 0 then { metaData with mOrigMsgId := metaData.mMsgId } else metaData

/-- What `publishMsgs` transmits of an item with the data `msg`, if it can be created. -/
def publishedMeta (msg : List UInt8) (rMeta : RsMsgMetaData) (now : Nat)
    (grpMeta : Option RsGxsGrpMetaData) : Option (List UInt8) :=
  let r := createMessage service mGixs msg (rMeta.toMetaData now) grpMeta
  if r.1 = .success then some (markOriginal r.2).serialise else none

end GenExchange
