import Mathlib.Data.UInt
import RetroShare.GenExchange.Creation
import RetroShare.GenExchange.Reading

/-!
# What is published is accepted

A message is signed with its ids as the item has them, and checked with the ids cleared; it is
signed with the first private key that publishes, and checked with the first key that may.  Where
the variable of `RsTlvKeySignatureSet::GetTlv` keeps its value, `accepted_iff` says when these come
to the same, so that a receiver accepts what has been created; whatever it holds, he accepts only
what needs no signature.

The signatures are ideal ones: a signature is that of the data and the key that it was made with,
and of nothing else.
-/

namespace GenExchange

open Serialiser

/-! ### Ideal signatures -/

/-- A signature verifies for the data and the key that it was made with, and the empty one for
none. -/
structure IdealSignatures (ssl : OpenSSL) : Prop where
  verify_nil : ∀ rsakey data, ssl.verify rsakey data [] = false
  isSome_rsaKey : ∀ {key data signData}, ssl.sign key data = some signData →
    (ssl.rsaKey key).isSome
  verify_iff : ∀ {key data signData}, ssl.sign key data = some signData → ∀ rsakey data',
    ssl.verify rsakey data' signData = true ↔ ssl.rsaKey key = some rsakey ∧ data' = data

/-- What is known of a key to those who have its public part. -/
structure PublicPart (ssl : OpenSSL) (key publicKey : RsTlvSecurityKey) : Prop where
  keyId : publicKey.keyId = key.keyId
  keyFlags : publicKey.keyFlags &&& rstlvKeyDistribMask = key.keyFlags &&& rstlvKeyDistribMask
  rsaKey : ssl.rsaKey publicKey = ssl.rsaKey key

/-- The public keys of a set, under the same ids. -/
def PublicKeys (ssl : OpenSSL) (keySet publicKeySet : RsTlvSecurityKeySet) : Prop :=
  List.Forall₂ (fun e e' => PublicPart ssl e.2 e'.2) keySet.keys.toList publicKeySet.keys.toList

variable {ssl : OpenSSL} {key : RsTlvSecurityKey} {data' data : List UInt8}

/-- A signature that has been made verifies with a key exactly when this is the public part of the
key it was made with, and the data are the same. -/
theorem IdealSignatures.verifies_iff (h : IdealSignatures ssl) {key' : RsTlvSecurityKey}
    {sign : RsTlvKeySignature} (hsign : ssl.sign key data = some sign.signData) :
  GxsSecurity.verifies ssl key' data' sign = true ↔
    ssl.rsaKey key' = ssl.rsaKey key ∧ data' = data
  := by
  obtain ⟨rsakey, hrsa⟩ := Option.isSome_iff_exists.1 (h.isSome_rsaKey hsign)
  rw [GxsSecurity.verifies, hrsa]
  cases hkey' : ssl.rsaKey key' with
  | none => simp
  | some rsakey' =>
    rw [Option.any_some, h.verify_iff hsign, hrsa, Option.some.injEq, Option.some.injEq, eq_comm]

theorem IdealSignatures.validateNxsMsg_new (h : IdealSignatures ssl) (msg : List UInt8)
    (metaData : RsGxsMsgMetaData) (key : RsTlvSecurityKey) :
  GxsSecurity.validateNxsMsg ssl msg metaData RsTlvKeySignature.new key = false
  := by
  rw [GxsSecurity.validateNxsMsg, GxsSecurity.verifies]
  cases ssl.rsaKey key with
  | none => exact Bool.and_false _
  | some rsakey => rw [Option.any_some, RsTlvKeySignature.new, h.verify_nil, Bool.and_false]

/-! ### Keys -/

/-- A key that may check what is published. -/
def mayPublish (key : RsTlvSecurityKey) : Bool :=
  key.keyFlags &&& rstlvKeyDistribPublicDeprecated ≠ 0 ||
    key.keyFlags &&& rstlvKeyDistribPublish ≠ 0

/-- The first key that may check what is published. -/
def publishCheckingKey (keySet : RsTlvSecurityKeySet) : Option RsTlvSecurityKey :=
  (keySet.keys.toList.find? fun e => mayPublish e.2).map Prod.snd

theorem mayPublish_eq (key : RsTlvSecurityKey) :
  mayPublish key =
    mayPublish { key with keyFlags := key.keyFlags &&& rstlvKeyDistribMask }
  := by
  simp only [mayPublish, UInt32.and_assoc]
  rfl

theorem PublicPart.mayPublish_iff {publicKey : RsTlvSecurityKey}
    (h : PublicPart ssl key publicKey) :
  mayPublish publicKey = mayPublish key
  := by
  rw [mayPublish_eq, mayPublish_eq key, mayPublish, mayPublish, h.keyFlags]

theorem publishCheckingKey_rel {keySet publicKeySet : RsTlvSecurityKeySet}
    (h : PublicKeys ssl keySet publicKeySet) :
  Option.Rel (PublicPart ssl) (publishCheckingKey keySet) (publishCheckingKey publicKeySet)
  := by
  rw [publishCheckingKey, publishCheckingKey]
  unfold PublicKeys at h
  generalize keySet.keys.toList = es at h
  generalize publicKeySet.keys.toList = es' at h
  induction h with
  | nil => exact .none
  | cons he _ ih =>
    rw [List.find?_cons, List.find?_cons, he.mayPublish_iff]
    split
    · exact .some he
    · exact ih

/-- The check of the publish signature uses the key that checks, unless its id is null. -/
theorem validatePublish_iff (service : Service) (msg : List UInt8) (metaData : RsGxsMsgMetaData)
    (keySet : RsTlvSecurityKeySet) :
  validatePublish service msg metaData keySet = true ↔
    ∃ key, publishCheckingKey keySet = some key ∧ key.keyId ≠ 0 ∧
      GxsSecurity.validateNxsMsg service.ssl msg metaData
        (signOf metaData.signSet flagAuthenPublish) key = true
  := by
  have hfind : (keySet.keys.toList.find? fun e =>
      e.2.keyFlags &&& rstlvKeyDistribPublicDeprecated ≠ 0 ||
        e.2.keyFlags &&& rstlvKeyDistribPublish ≠ 0) =
      keySet.keys.toList.find? fun e => mayPublish e.2 := rfl
  rw [validatePublish, publishKeyId, hfind, publishCheckingKey]
  cases hkey : keySet.keys.toList.find? fun e => mayPublish e.2 with
  | none => simp
  | some e =>
    have hmem := List.mem_of_find?_eq_some hkey
    have hget : keySet.keys.get? e.2.keyId = some e.2 := by
      rw [keySet.keyed e hmem]
      exact OrdMap.mem_toList.1 hmem
    simp [hget]

/-! ### Signatures -/

section Created

variable {service : Service} {mGixs : Option RsGixs} {msgData : List UInt8}
  {msgMeta : RsGxsMsgMetaData} {grpMeta : RsGxsGrpMetaData}
  {r : CreateReturn × RsTlvKeySignatureSet}

theorem createNeedsIdentitySign_eq (grpFlag : UInt32) :
  createNeedsIdentitySign service msgMeta grpFlag = needIdentitySign service msgMeta grpFlag
  := by
  rw [createNeedsIdentitySign, needIdentitySign]
  split
  case isTrue h => simp [h]
  case isFalse h => simp [not_not.1 h]

theorem createPublishSign_spec
    {r : Bool × RsTlvKeySignatureSet}
    (h : createPublishSign service OrdMap.empty msgData msgMeta grpMeta = r) (hr : r.1 = true)
    (hneeded : needPublishSign service msgMeta grpMeta.mGroupFlags = true) :
  ∃ key sign, publishSigningKey grpMeta.keys = some key ∧
    service.ssl.sign key msgData = some sign.signData ∧ r.2.get? flagAuthenPublish = some sign
  := by
  subst h
  rw [needPublishSign] at hneeded
  rw [createPublishSign, if_pos hneeded] at hr ⊢
  cases hkey : publishSigningKey grpMeta.keys with
  | none => simp [hkey] at hr
  | some key =>
    simp only [hkey, GxsSecurity.getSignature] at hr ⊢
    cases hsign : service.ssl.sign key msgData with
    | none => simp [hsign] at hr
    | some signData => exact ⟨key, ⟨key.keyId, signData⟩, rfl, hsign, by simp⟩

/-- An identity signature that succeeds is made with the private key of the author; the publish
signature stays. -/
theorem createIdentitySign_spec {signSet : RsTlvKeySignatureSet}
    (h : createIdentitySign service mGixs signSet msgData msgMeta grpMeta = r) :
  r.2.get? flagAuthenPublish = signSet.get? flagAuthenPublish ∧
    (r.1 = .success → needIdentitySign service msgMeta grpMeta.mGroupFlags = true →
      ∃ gixs sign, mGixs = some gixs ∧
        service.ssl.sign (gixs.getPrivateKey msgMeta.mAuthorId) msgData = some sign.signData ∧
        r.2.get? flagAuthenIdentity = some sign)
  := by
  subst h
  rw [← createNeedsIdentitySign_eq]
  unfold createIdentitySign
  split
  case isFalse hneeded => exact ⟨rfl, fun _ h => absurd h hneeded⟩
  case isTrue =>
    cases hgixs : mGixs with
    | none => exact ⟨rfl, fun h => by cases h⟩
    | some gixs =>
      simp only
      split
      case isFalse => exact ⟨rfl, fun h => by cases h⟩
      case isTrue =>
        constructor
        · rw [OrdMap.get?_insert, if_neg (by decide)]
        · intro hsuccess _
          rw [GxsSecurity.getSignature] at hsuccess ⊢
          cases hsign : service.ssl.sign (gixs.getPrivateKey msgMeta.mAuthorId) msgData with
          | none => simp [hsign] at hsuccess
          | some signData =>
            exact ⟨gixs, ⟨(gixs.getPrivateKey msgMeta.mAuthorId).keyId, signData⟩, rfl, hsign,
              by simp⟩

/-- The signatures of a message that has been created. -/
structure Signed (service : Service) (mGixs : Option RsGixs) (msgData : List UInt8)
    (msgMeta : RsGxsMsgMetaData) (grpMeta : RsGxsGrpMetaData) (signSet : RsTlvKeySignatureSet) :
    Prop where
  publish : needPublishSign service msgMeta grpMeta.mGroupFlags = true →
    ∃ key, publishSigningKey grpMeta.keys = some key ∧
      service.ssl.sign key msgData = some (signOf signSet flagAuthenPublish).signData
  identity : needIdentitySign service msgMeta grpMeta.mGroupFlags = true →
    ∃ gixs, mGixs = some gixs ∧
      service.ssl.sign (gixs.getPrivateKey msgMeta.mAuthorId) msgData =
        some (signOf signSet flagAuthenIdentity).signData

theorem signed_of_createMsgSignatures
    (h : createMsgSignatures service mGixs OrdMap.empty msgData msgMeta grpMeta = r)
    (hr : r.1 = .success) :
  Signed service mGixs msgData msgMeta grpMeta r.2
  := by
  subst h
  simp only [createMsgSignatures] at hr ⊢
  split at hr
  case isFalse => cases hr
  case isTrue hpublish =>
    obtain ⟨hkept, hidentity⟩ := @createIdentitySign_spec service mGixs msgData msgMeta grpMeta
      _ _ rfl
    constructor
    · intro hneeded
      obtain ⟨key, sign, hkey, hsign, hget⟩ := createPublishSign_spec rfl hpublish hneeded
      rw [← hkept] at hget
      exact ⟨key, hkey, by rw [signOf, hget]; exact hsign⟩
    · intro hneeded
      obtain ⟨gixs, sign, hgixs, hsign, hget⟩ := hidentity hr hneeded
      exact ⟨gixs, hgixs, by rw [signOf, hget]; exact hsign⟩

theorem createMsgSignatures_of_unneeded
    (hpublish : needPublishSign service msgMeta grpMeta.mGroupFlags = false)
    (hidentity : needIdentitySign service msgMeta grpMeta.mGroupFlags = false)
    (signSet : RsTlvKeySignatureSet) :
  (createMsgSignatures service mGixs signSet msgData msgMeta grpMeta).2 = signSet
  := by
  rw [needPublishSign] at hpublish
  rw [← createNeedsIdentitySign_eq] at hidentity
  simp [createMsgSignatures, createPublishSign, createIdentitySign, hpublish, hidentity]

end Created

/-! ### The bytes that are signed -/

theorem RsGenericId.bytes_injective {n : Nat} :
  Function.Injective (RsGenericId.bytes : RsGenericId n → List UInt8)
  := by
  intro id id' h
  rw [← id.ofNat_idValue, h, id'.ofNat_idValue]

/-- The signature that is checked covers what has been signed exactly when this had no ids. -/
theorem serialise_cleared_iff {metaData : RsGxsMsgMetaData}
    (hsigns : metaData.signSet = OrdMap.empty) :
  (GxsSecurity.msgMetaCleared metaData).serialise = metaData.serialise ↔
    metaData.mMsgId = 0 ∧ metaData.mOrigMsgId = 0
  := by
  have hlen {id id' : RsGxsMessageId} : id.bytes.length = id'.bytes.length := by
    rw [id.length_bytes, id'.length_bytes]
  constructor
  · intro h
    have hcontent := List.append_inj_right (List.append_cancel_left h) (by simp)
    have hmsgId := List.append_inj (List.append_cancel_left hcontent) hlen
    have horigMsgId := List.append_inj
      (List.append_cancel_left (List.append_cancel_left hmsgId.2)) hlen
    constructor
    · exact (RsGenericId.bytes_injective hmsgId.1).symm
    · exact (RsGenericId.bytes_injective horigMsgId.1).symm
  · rintro ⟨hmsgId, horigMsgId⟩
    have hcleared : GxsSecurity.msgMetaCleared metaData = metaData := by
      cases metaData
      simp_all [GxsSecurity.msgMetaCleared]
    rw [hcleared]

/-- What is checked at the receiver: the metadata as they have been signed, with the ids cleared. -/
theorem serialise_cleared_transmitted (metaData : RsGxsMsgMetaData) (msgId : RsGxsMessageId)
    (signSet : RsTlvKeySignatureSet) :
  (GxsSecurity.msgMetaCleared
      (markOriginal { metaData with signSet := signSet, mMsgId := msgId }).transmitted).serialise =
    (GxsSecurity.msgMetaCleared metaData).serialise
  := by
  rw [markOriginal]
  split <;>
    simp only [GxsSecurity.msgMetaCleared, RsGxsMsgMetaData.transmitted,
      RsGxsMsgMetaData.serialise, RsGxsMsgMetaData.sent, Nat.mod_mod]

/-! ### Acceptance -/

/-- A message that needs a signature has no ids yet, and where the publish signature is needed the
first key that may check it is the one that it is made with, under an id that is not null. -/
def Acceptable (service : Service) (rMeta : RsMsgMetaData) (grpMeta : RsGxsGrpMetaData) : Prop :=
  (needPublishSign service (rMeta.toMetaData 0) grpMeta.mGroupFlags = true ∨
      needIdentitySign service (rMeta.toMetaData 0) grpMeta.mGroupFlags = true →
    rMeta.mMsgId = 0 ∧ rMeta.mOrigMsgId = 0) ∧
  (needPublishSign service (rMeta.toMetaData 0) grpMeta.mGroupFlags = true →
    ∃ key key', publishSigningKey grpMeta.keys = some key ∧
      publishCheckingKey grpMeta.keys = some key' ∧ key'.keyId ≠ 0 ∧
      service.ssl.rsaKey key' = service.ssl.rsaKey key)

/-- The public key of the author of a message is known to the receiver, and valid at a time. -/
def AuthorKnown (service : Service) (mGixs mGixs' : Option RsGixs) (authorId : RsGxsId)
    (publishTs : Nat) : Prop :=
  ∀ gixs, mGixs = some gixs → ∃ gixs' key, mGixs' = some gixs' ∧ gixs'.haveKey authorId = true ∧
    gixs'.getKey authorId = some key ∧
    service.ssl.rsaKey key = service.ssl.rsaKey (gixs.getPrivateKey authorId) ∧
    key.inPeriod publishTs = true

section Accepted

variable {service : Service} {mGixs mGixs' : Option RsGixs} {msg : List UInt8}
  {rMeta : RsMsgMetaData} {now : Nat} {grpMeta : RsGxsGrpMetaData} {keySet' : RsTlvSecurityKeySet}
  {metaData : RsGxsMsgMetaData} {signSet : RsTlvKeySignatureSet} {msgId : RsGxsMessageId}

/-- What a receiver reads of the metadata of a message that has been created. -/
def receivedMeta (metaData : RsGxsMsgMetaData) (msgId : RsGxsMessageId)
    (signSet : RsTlvKeySignatureSet) : RsGxsMsgMetaData :=
  (markOriginal { metaData with signSet := signSet, mMsgId := msgId }).transmitted

theorem receivedMeta_fields (metaData : RsGxsMsgMetaData) (msgId : RsGxsMessageId)
    (signSet : RsTlvKeySignatureSet) :
  (receivedMeta metaData msgId signSet).mParentId = metaData.mParentId ∧
    (receivedMeta metaData msgId signSet).mAuthorId = metaData.mAuthorId ∧
    (receivedMeta metaData msgId signSet).mPublishTs = metaData.mPublishTs % 2 ^ 32 ∧
    (receivedMeta metaData msgId signSet).signSet = signSet
  := by
  rw [receivedMeta, markOriginal]
  split <;> exact ⟨rfl, rfl, rfl, rfl⟩

theorem needs_receivedMeta (metaData : RsGxsMsgMetaData) (msgId : RsGxsMessageId)
    (signSet : RsTlvKeySignatureSet) (grpFlag : UInt32) :
  needPublishSign service (receivedMeta metaData msgId signSet) grpFlag =
      needPublishSign service metaData grpFlag ∧
    needIdentitySign service (receivedMeta metaData msgId signSet) grpFlag =
      needIdentitySign service metaData grpFlag
  := by
  obtain ⟨hparent, hauthor, -, -⟩ := receivedMeta_fields metaData msgId signSet
  constructor
  · rw [needPublishSign, needPublishSign, publishFlag, publishFlag, hparent]
  · rw [needIdentitySign, needIdentitySign, authorFlag, authorFlag, hparent, hauthor]

section

variable (hideal : IdealSignatures service.ssl)

include hideal

/-- The check of a signature that has been made, at the receiver. -/
theorem validateNxsMsg_iff (hsigns : metaData.signSet = OrdMap.empty) {key' : RsTlvSecurityKey}
    {sign : RsTlvKeySignature}
    (hsign : service.ssl.sign key (msg ++ metaData.serialise) = some sign.signData)
    (hperiod : key'.inPeriod (metaData.mPublishTs % 2 ^ 32) = true) :
  GxsSecurity.validateNxsMsg service.ssl msg (receivedMeta metaData msgId signSet) sign key' =
      true ↔
    service.ssl.rsaKey key' = service.ssl.rsaKey key ∧ metaData.mMsgId = 0 ∧
      metaData.mOrigMsgId = 0
  := by
  obtain ⟨-, -, hts, -⟩ := receivedMeta_fields metaData msgId signSet
  rw [GxsSecurity.validateNxsMsg, hts, hperiod, Bool.true_and, hideal.verifies_iff hsign,
    receivedMeta, serialise_cleared_transmitted, List.append_cancel_left_eq,
    serialise_cleared_iff hsigns]

theorem validatePublish_receivedMeta (hsigns : metaData.signSet = OrdMap.empty)
    {keySet : RsTlvSecurityKeySet} (hkeys : PublicKeys service.ssl keySet keySet')
    (hperiod : ∀ e ∈ keySet'.keys.toList, e.2.inPeriod (metaData.mPublishTs % 2 ^ 32) = true)
    (hsign : service.ssl.sign key (msg ++ metaData.serialise) = some (signOf signSet
      flagAuthenPublish).signData) :
  validatePublish service msg (receivedMeta metaData msgId signSet) keySet' = true ↔
    (metaData.mMsgId = 0 ∧ metaData.mOrigMsgId = 0) ∧
      ∃ key', publishCheckingKey keySet = some key' ∧ key'.keyId ≠ 0 ∧
        service.ssl.rsaKey key' = service.ssl.rsaKey key
  := by
  obtain ⟨-, -, -, hset⟩ := receivedMeta_fields metaData msgId signSet
  have hrel := publishCheckingKey_rel hkeys
  rw [validatePublish_iff, hset]
  generalize hchecking : publishCheckingKey keySet = checking at hrel
  generalize hchecking' : publishCheckingKey keySet' = checking' at hrel
  cases hrel with
  | none => simp
  | @some key₁ key₂ hpart =>
    have hmem : ∃ e ∈ keySet'.keys.toList, e.2 = key₂ := by
      obtain ⟨e, he, rfl⟩ := Option.map_eq_some_iff.1 hchecking'
      exact ⟨e, List.mem_of_find?_eq_some he, rfl⟩
    obtain ⟨e, he, rfl⟩ := hmem
    simp only [Option.some.injEq, exists_eq_left', hpart.keyId,
      validateNxsMsg_iff hideal hsigns hsign (hperiod e he), hpart.rsaKey]
    constructor
    · rintro ⟨hid, hrsa, hcleared⟩
      exact ⟨hcleared, hid, hrsa⟩
    · rintro ⟨hcleared, hid, hrsa⟩
      exact ⟨hid, hrsa, hcleared⟩

theorem validateIdentity_receivedMeta (hsigns : metaData.signSet = OrdMap.empty) {gixs : RsGixs}
    (hgixs : mGixs = some gixs)
    (hauthor : AuthorKnown service mGixs mGixs' metaData.mAuthorId (metaData.mPublishTs % 2 ^ 32))
    (hsign : service.ssl.sign (gixs.getPrivateKey metaData.mAuthorId) (msg ++ metaData.serialise) =
      some (signOf signSet flagAuthenIdentity).signData) :
  (∃ gixs' key, mGixs' = some gixs' ∧ gixs'.haveKey metaData.mAuthorId = true ∧
      gixs'.getKey metaData.mAuthorId = some key ∧
      GxsSecurity.validateNxsMsg service.ssl msg (receivedMeta metaData msgId signSet)
        (signOf signSet flagAuthenIdentity) key = true) ↔
    metaData.mMsgId = 0 ∧ metaData.mOrigMsgId = 0
  := by
  obtain ⟨gixs', key, hgixs', hhave, hkey, hrsa, hperiod⟩ := hauthor gixs hgixs
  have hiff := @validateNxsMsg_iff _ service msg metaData signSet msgId hideal hsigns _ _ hsign
    hperiod
  constructor
  · rintro ⟨gixs'', key', hgixs'', -, hkey', hvalid⟩
    obtain rfl := Option.some.inj (hgixs'.symm.trans hgixs'')
    obtain rfl := Option.some.inj (hkey.symm.trans hkey')
    exact (hiff.1 hvalid).2
  · intro hids
    exact ⟨gixs', key, hgixs', hhave, hkey, hiff.2 ⟨hrsa, hids⟩⟩

end

theorem markOriginal_mMsgName (metaData : RsGxsMsgMetaData) :
  (markOriginal metaData).mMsgName = metaData.mMsgName
  := by
  rw [markOriginal]
  split <;> rfl

/-- What has been created, with its signatures as they have been made, is validated exactly when it
is acceptable. -/
theorem validateMsg_receivedMeta (hideal : IdealSignatures service.ssl)
    (hsigned : Signed service mGixs (msg ++ (rMeta.toMetaData now).serialise)
      (rMeta.toMetaData now) grpMeta signSet)
    (hkeys : PublicKeys service.ssl grpMeta.keys keySet')
    (hperiod : ∀ e ∈ keySet'.keys.toList, e.2.inPeriod (now % 2 ^ 32) = true)
    (hauthor : needIdentitySign service (rMeta.toMetaData 0) grpMeta.mGroupFlags = true →
      AuthorKnown service mGixs mGixs' rMeta.mAuthorId (now % 2 ^ 32)) :
  validateMsg service mGixs' msg (receivedMeta (rMeta.toMetaData now) msgId signSet)
      grpMeta.mGroupFlags keySet' = .success ↔
    Acceptable service rMeta grpMeta
  := by
  obtain ⟨hpublishEq, hidentityEq⟩ := @needs_receivedMeta service (rMeta.toMetaData now) msgId
    signSet grpMeta.mGroupFlags
  obtain ⟨-, hauthorEq, -, hset⟩ := receivedMeta_fields (rMeta.toMetaData now) msgId signSet
  rw [validateMsg_eq_success, hpublishEq, hidentityEq, hauthorEq, hset]
  have hpublish (hneeded : needPublishSign service (rMeta.toMetaData now) grpMeta.mGroupFlags =
      true) :
      ∃ key, publishSigningKey grpMeta.keys = some key ∧
        (validatePublish service msg (receivedMeta (rMeta.toMetaData now) msgId signSet) keySet' =
          true ↔ (rMeta.mMsgId = 0 ∧ rMeta.mOrigMsgId = 0) ∧
            ∃ key', publishCheckingKey grpMeta.keys = some key' ∧ key'.keyId ≠ 0 ∧
              service.ssl.rsaKey key' = service.ssl.rsaKey key) := by
    obtain ⟨key, hkey, hsign⟩ := hsigned.publish hneeded
    use key, hkey
    exact validatePublish_receivedMeta hideal rfl hkeys hperiod hsign
  have hidentity (hneeded : needIdentitySign service (rMeta.toMetaData now)
      grpMeta.mGroupFlags = true) :
      (∃ gixs' key, mGixs' = some gixs' ∧
        gixs'.haveKey (rMeta.toMetaData now).mAuthorId = true ∧
        gixs'.getKey (rMeta.toMetaData now).mAuthorId = some key ∧
        GxsSecurity.validateNxsMsg service.ssl msg
          (receivedMeta (rMeta.toMetaData now) msgId signSet)
          (signOf signSet flagAuthenIdentity) key = true) ↔
        rMeta.mMsgId = 0 ∧ rMeta.mOrigMsgId = 0 := by
    obtain ⟨gixs, hgixs, hsign⟩ := hsigned.identity hneeded
    exact validateIdentity_receivedMeta hideal rfl hgixs (hauthor hneeded) hsign
  constructor
  · rintro ⟨hpublishValid, hidentityValid⟩
    constructor
    · rintro (hneeded | hneeded)
      · obtain ⟨key, -, hiff⟩ := hpublish hneeded
        exact (hiff.1 (hpublishValid hneeded)).1
      · exact (hidentity hneeded).1 (hidentityValid hneeded)
    · intro hneeded
      obtain ⟨key, hkey, hiff⟩ := hpublish hneeded
      obtain ⟨-, key', hkey'⟩ := hiff.1 (hpublishValid hneeded)
      exact ⟨key, key', hkey, hkey'⟩
  · rintro ⟨hids, hchecking⟩
    constructor
    · intro hneeded
      obtain ⟨key, hkey, hiff⟩ := hpublish hneeded
      obtain ⟨key₁, key', hkey₁, hkey'⟩ := hchecking hneeded
      obtain rfl := Option.some.inj (hkey.symm.trans hkey₁)
      exact hiff.2 ⟨hids (.inl hneeded), key', hkey'⟩
    · intro hneeded
      exact (hidentity hneeded).2 (hids (.inr hneeded))

theorem unneeded_of_validateMsg (hideal : IdealSignatures service.ssl) {grpFlag : UInt32}
    (hnone : ∀ type, type ≠ 0 → metaData.signSet.get? type = none)
    (h : validateMsg service mGixs' msg metaData grpFlag keySet' = .success) :
  needPublishSign service metaData grpFlag = false ∧
    needIdentitySign service metaData grpFlag = false
  := by
  have hsign {type : SignType} (htype : type ≠ 0) :
      signOf metaData.signSet type = RsTlvKeySignature.new := by
    rw [signOf, hnone type htype]
    rfl
  obtain ⟨hpublish, hidentity⟩ := (validateMsg_eq_success service mGixs').1 h
  rw [← Bool.not_eq_true, ← Bool.not_eq_true]
  constructor
  · intro hneeded
    obtain ⟨key, -, -, hvalid⟩ := (validatePublish_iff service msg metaData keySet').1
      (hpublish hneeded)
    rw [hsign (by decide), hideal.validateNxsMsg_new] at hvalid
    cases hvalid
  · intro hneeded
    obtain ⟨gixs, key, -, -, -, hvalid⟩ := hidentity hneeded
    rw [hsign (by decide), hideal.validateNxsMsg_new] at hvalid
    cases hvalid

variable (service mGixs' msg) in
/-- A receiver accepts a message that comes with these bytes as its metadata, when `currType` is
what the variable of `RsTlvKeySignatureSet::GetTlv` holds. -/
def Accepts (grpFlag : UInt32) (grpKeySet : RsTlvSecurityKeySet) (bytes : List UInt8)
    (currType : Memory → Nat → Nat) : Prop :=
  ∃ metaData, RsGxsMsgMetaData.deserialise currType bytes = some metaData ∧
    validateMsg service mGixs' msg metaData grpFlag grpKeySet = .success

/-- What a receiver reads, with the signatures under the keys that the variable holds. -/
theorem deserialise_published (hname : sanitise 0 metaData.mMsgName = metaData.mMsgName)
    {bytes : List UInt8}
    (hbytes : (markOriginal { metaData with signSet := signSet, mMsgId := msgId }).serialise = bytes)
    (hsize : bytes.length < 2 ^ 32) {currType : Memory → Nat → Nat} {key : Nat → Nat}
    (hfits : Fits currType bytes key signSet) :
  RsGxsMsgMetaData.deserialise currType bytes =
    some (receivedMeta metaData msgId (storedUnder currType bytes key signSet))
  := by
  have hset : (markOriginal { metaData with signSet := signSet, mMsgId := msgId }).signSet =
      signSet := by
    rw [markOriginal]
    split <;> rfl
  have hreceived (signSet' : RsTlvKeySignatureSet) : receivedMeta metaData msgId signSet' =
      { (markOriginal { metaData with signSet := signSet, mMsgId := msgId }).transmitted with
        signSet := signSet' } := by
    by_cases h : metaData.mOrigMsgId = 0
    · rw [receivedMeta, markOriginal, markOriginal, if_pos h, if_pos h]
      rfl
    · rw [receivedMeta, markOriginal, markOriginal, if_neg h, if_neg h]
      rfl
  have hmsgName := markOriginal_mMsgName { metaData with signSet := signSet, mMsgId := msgId }
  rw [hreceived]
  generalize markOriginal { metaData with signSet := signSet, mMsgId := msgId } = published at *
  subst hset hbytes
  apply RsGxsMsgMetaData.deserialise_serialise _ hsize hfits
  rw [hmsgName]
  exact hname

/-- What has been created is sent to a receiver with the public keys of the group and of the author,
at a time at which they are valid.  Whatever the variable holds, he accepts it exactly when it needs
no signature; where the variable keeps its value, exactly when it is acceptable. -/
theorem accepted_iff (hideal : IdealSignatures service.ssl)
    (hname : sanitise 0 rMeta.mMsgName = rMeta.mMsgName) {bytes : List UInt8}
    (hpublished : publishedMeta service mGixs msg rMeta now (some grpMeta) = some bytes)
    (hsize : bytes.length < 2 ^ 32) (hkeys : PublicKeys service.ssl grpMeta.keys keySet')
    (hperiod : ∀ e ∈ keySet'.keys.toList, e.2.inPeriod (now % 2 ^ 32) = true)
    (hauthor : needIdentitySign service (rMeta.toMetaData 0) grpMeta.mGroupFlags = true →
      AuthorKnown service mGixs mGixs' rMeta.mAuthorId (now % 2 ^ 32)) :
  ((∀ currType, Accepts service mGixs' msg grpMeta.mGroupFlags keySet' bytes currType) ↔
    needPublishSign service (rMeta.toMetaData 0) grpMeta.mGroupFlags = false ∧
      needIdentitySign service (rMeta.toMetaData 0) grpMeta.mGroupFlags = false) ∧
  (Accepts service mGixs' msg grpMeta.mGroupFlags keySet' bytes keptType ↔
    Acceptable service rMeta grpMeta)
  := by
  rw [publishedMeta, createMessage] at hpublished
  simp only [Option.ite_none_right_eq_some, Option.some.injEq] at hpublished
  obtain ⟨hsuccess, rfl⟩ := hpublished
  have hsigned : Signed service mGixs (msg ++ (rMeta.toMetaData now).serialise)
      (rMeta.toMetaData now) grpMeta (createMsgSignatures service mGixs
        (rMeta.toMetaData now).signSet (msg ++ (rMeta.toMetaData now).serialise)
        (rMeta.toMetaData now) grpMeta).2 := signed_of_createMsgSignatures rfl hsuccess
  have hunneeded := @createMsgSignatures_of_unneeded service mGixs
    (msg ++ (rMeta.toMetaData now).serialise) (rMeta.toMetaData now) grpMeta
  -- the signatures that have been made are all that matters from here on
  generalize hsignSet : (createMsgSignatures service mGixs (rMeta.toMetaData now).signSet
    (msg ++ (rMeta.toMetaData now).serialise) (rMeta.toMetaData now) grpMeta).2 = signSet at *
  generalize service.ssl.sha1 (msg ++ (rMeta.toMetaData now).serialise) = msgId at *
  generalize hbytes : (markOriginal { rMeta.toMetaData now with
    signSet := signSet, mMsgId := msgId }).serialise = bytes at *
  have hneeds (signSet' : RsTlvKeySignatureSet) := @needs_receivedMeta service
    (rMeta.toMetaData now) msgId signSet' grpMeta.mGroupFlags
  refine ⟨⟨?_, ?_⟩, ?_⟩
  · intro haccepts
    obtain ⟨metaData, hread, hvalid⟩ := haccepts fun _ _ => 0
    rw [deserialise_published hname hbytes hsize (fits_zero _ _)] at hread
    obtain rfl := Option.some.inj hread
    have hunsigned := unneeded_of_validateMsg hideal ?_ hvalid
    · rwa [(hneeds _).1, (hneeds _).2] at hunsigned
    · intro type htype
      rw [(receivedMeta_fields _ _ _).2.2.2]
      exact get?_storedUnder_zero _ _ htype _
  · rintro ⟨hpublish, hidentity⟩ currType
    obtain rfl : OrdMap.empty = signSet := (hunneeded hpublish hidentity _).symm.trans hsignSet
    have hfits : Fits currType bytes id OrdMap.empty :=
      fun p _ => Gxs.MetaData.fitFrom_entries_of_nil rfl _ _
    refine ⟨_, deserialise_published hname hbytes hsize hfits, ?_⟩
    · rw [validateMsg_eq_success, (hneeds _).1, (hneeds _).2]
      exact ⟨fun h => absurd (hpublish.symm.trans h) Bool.false_ne_true,
        fun h => absurd (hidentity.symm.trans h) Bool.false_ne_true⟩
  · have hread := deserialise_published hname hbytes hsize (fits_keptType bytes signSet)
    rw [storedUnder_id] at hread
    rw [Accepts, hread]
    simp only [Option.some.injEq, exists_eq_left']
    exact validateMsg_receivedMeta hideal hsigned hkeys hperiod hauthor

end Accepted

/-! ### A version of a message -/

/-- Signatures that hold the key and the data that they have been made with. -/
def holding : List UInt8 → List UInt8 → List UInt8
  | [], data => 0 :: data
  | b :: key, data => 1 :: b :: holding key data

theorem holding_eq_iff {key key' : List UInt8} :
  holding key data = holding key' data' ↔ key = key' ∧ data = data'
  := by
  induction key generalizing key' with
  | nil => cases key' <;> simp [holding]
  | cons b key ih => cases key' <;> simp [holding, ih, and_assoc]

/-- Ideal signatures: full keys sign. -/
def holdingSSL : OpenSSL where
  rsaKey key := some key.keyData
  verify rsakey data signData := signData = holding rsakey data
  sign key data :=
    if key.keyFlags &&& rstlvKeyTypeFull ≠ 0 then some (holding key.keyData data) else none
  sha1 data := Fin.ofNat _ data.sum.toNat

theorem idealSignatures_holdingSSL :
  IdealSignatures holdingSSL
  := by
  have hheld {key : RsTlvSecurityKey} {data signData : List UInt8}
      (hsign : holdingSSL.sign key data = some signData) :
      signData = holding key.keyData data := by
    simp only [holdingSSL, Option.ite_none_right_eq_some] at hsign
    exact (Option.some.inj hsign.2).symm
  constructor
  · intro rsakey data
    cases rsakey <;> rfl
  · intro key data signData _
    rfl
  · intro key data signData hsign rsakey data'
    rw [hheld hsign]
    simp only [holdingSSL, decide_eq_true_eq, holding_eq_iff, Option.some.injEq,
      @eq_comm _ data data']

/-- A key that publishes. -/
def publishKey (flags : UInt32) : RsTlvSecurityKey :=
  ⟨7, rstlvKeyDistribPublish ||| flags, 0, 0, [7]⟩

/-- The key of an author. -/
def authorKey (flags : UInt32) : RsTlvSecurityKey := ⟨5, flags, 0, 0, [5]⟩

/-- A set of one key. -/
def RsTlvSecurityKeySet.single (key : RsTlvSecurityKey) : RsTlvSecurityKeySet where
  groupId := []
  keys := OrdMap.empty.insert key.keyId key
  keyed := by
    rintro e (_ | ⟨_, ⟨⟩⟩)
    rfl

/-- Identities that know the author `5`. -/
def knowsAuthor : RsGixs where
  haveKey id := id = 5
  getKey id := if id = 5 then some (authorKey rstlvKeyTypePublicOnly) else none
  havePrivateKey id := id = 5
  getPrivateKey _ := authorKey rstlvKeyTypeFull

/-- A root message of the author `5`, new or a version of the message `origMsgId`. -/
def rootMessage (origMsgId : RsGxsMessageId) : RsMsgMetaData :=
  ⟨1, 0, 0, 0, origMsgId, 5, [104, 105], 0, 0⟩

/-- A service whose root messages are signed by those who publish. -/
def publishService : Service := ⟨msgAuthenRootPublishSign.toUInt32, 0, holdingSSL⟩

/-- A public group with its private publish key. -/
def publishGroup : RsGxsGrpMetaData :=
  { plainGrpMeta 1 0x4 with keys := .single (publishKey rstlvKeyTypeFull) }

theorem accepted_iff_rootMessage :
  ∃ bytes,
    publishedMeta publishService (some knowsAuthor) [1] (rootMessage 0) 100 (some publishGroup) =
      some bytes ∧
    Accepts publishService (some knowsAuthor) [1] 0x4
      (.single (publishKey rstlvKeyTypePublicOnly)) bytes keptType ∧
    ¬ ∀ currType, Accepts publishService (some knowsAuthor) [1] 0x4
      (.single (publishKey rstlvKeyTypePublicOnly)) bytes currType
  := by
  obtain ⟨bytes, hbytes, hsize⟩ : ∃ bytes, publishedMeta publishService (some knowsAuthor) [1]
      (rootMessage 0) 100 (some publishGroup) = some bytes ∧ bytes.length < 2 ^ 32 :=
    ⟨_, rfl, by decide +kernel⟩
  have hkeys : PublicKeys holdingSSL publishGroup.keys
      (.single (publishKey rstlvKeyTypePublicOnly)) :=
    .cons ⟨rfl, rfl, rfl⟩ .nil
  have hauthor : AuthorKnown publishService (some knowsAuthor) (some knowsAuthor) 5
      (100 % 2 ^ 32) := by
    rintro gixs ⟨⟩
    exact ⟨knowsAuthor, _, rfl, rfl, rfl, rfl, by decide⟩
  obtain ⟨hall, hkept⟩ := accepted_iff idealSignatures_holdingSSL (by decide) hbytes hsize hkeys
    (by decide) fun _ => hauthor
  refine ⟨bytes, hbytes, hkept.2 ⟨fun _ => ⟨rfl, rfl⟩, fun _ => ?_⟩, ?_⟩
  · exact ⟨_, _, rfl, rfl, by decide, rfl⟩
  · intro haccepts
    exact absurd (hall.1 haccepts).2 (by decide)

/-- A version of a message is published, and fails the check even where the variable keeps its
value. -/
theorem not_accepted_version :
  ∃ bytes metaData,
    publishedMeta publishService (some knowsAuthor) [1] (rootMessage 9) 100 (some publishGroup) =
      some bytes ∧
    RsGxsMsgMetaData.deserialise keptType bytes = some metaData ∧
    validateMsg publishService (some knowsAuthor) [1] metaData 0x4
      (.single (publishKey rstlvKeyTypePublicOnly)) = .fail
  := by
  refine ⟨_, _, rfl, RsGxsMsgMetaData.deserialise_keptType ?_ ?_, ?_⟩
  · decide
  · decide +kernel
  · decide +kernel

end GenExchange
