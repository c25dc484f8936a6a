import RetroShare.GenExchange.Creation
import RetroShare.GenExchange.Groups
import RetroShare.GenExchange.Reading

/-!
# Published groups

`RsGenExchange::createGroupSignatures` and `createGroup` of `rsgenexchange.cc`, and the metadata
that `publishGrps` makes of an item.

`updates_keptType_iff`: a version of a group that has been created is read as a valid update by those
who hold a version with its public key, when its time stamp is later, and in the period of that key,
and its strings are not changed on the way.
-/

namespace GenExchange

open Serialiser

/-! ### Items -/

/-- `RsGroupMetaData`, the metadata of an `RsGxsGrpItem`. -/
structure RsGroupMetaData where
  mGroupId : RsGxsGroupId
  mGroupName : List UInt8
  mGroupFlags : UInt32
  mPublishTs : Nat
  mAuthorId : RsGxsId
  mCircleId : RsGxsCircleId
  mCircleType : UInt32
  mAuthenFlags : UInt32
  mParentGrpId : RsGxsGroupId
  mGroupStatus : UInt32
  mServiceString : List UInt8
  mOriginator : RsPeerId
  deriving DecidableEq

/-- `GROUP_SUBSCRIBE_ADMIN | GROUP_SUBSCRIBE_SUBSCRIBED | GROUP_SUBSCRIBE_PUBLISH`. -/
def groupSubscribePublished : UInt32 := 0x01 ||| 0x04 ||| 0x02

/-- `RsGxsGrpMetaData::operator=` on new metadata, and the flags of a group that is published. -/
def RsGroupMetaData.toMetaData (rMeta : RsGroupMetaData) : RsGxsGrpMetaData where
  mGroupId := rMeta.mGroupId
  mOrigGrpId := 0
  mParentGrpId := rMeta.mParentGrpId
  mGroupName := rMeta.mGroupName
  mGroupFlags := rMeta.mGroupFlags
  mPublishTs := UInt32.ofNat rMeta.mPublishTs
  mCircleType := rMeta.mCircleType
  mAuthenFlags := rMeta.mAuthenFlags
  mAuthorId := rMeta.mAuthorId
  mServiceString := rMeta.mServiceString
  mCircleId := rMeta.mCircleId
  signSet := OrdMap.empty
  keys := .new
  mSubscribeFlags := groupSubscribePublished
  mGroupStatus := rMeta.mGroupStatus
  mOriginator := rMeta.mOriginator

/-- `GetTlvString` keeps the strings of an item. -/
def RsGroupMetaData.Clean (rMeta : RsGroupMetaData) : Prop :=
  sanitise 0 rMeta.mGroupName = rMeta.mGroupName ∧
    sanitise 0 rMeta.mServiceString = rMeta.mServiceString

instance decidableClean (rMeta : RsGroupMetaData) : Decidable rMeta.Clean :=
  inferInstanceAs (Decidable (_ ∧ _))

/-! ### Signatures -/

/-- The first private key of an administrator, by which `createGroup` signs. -/
def signingAdminKey (keySet : RsTlvSecurityKeySet) : Option RsTlvSecurityKey :=
  (keySet.keys.toList.find? fun e => isPrivateAdmin e.2).map Prod.snd

/-- The last key that is a private key of an administrator and nothing else, by which `publishGrps`
names a group. -/
def namingAdminKey (keySet : RsTlvSecurityKeySet) : Option RsTlvSecurityKey :=
  (keySet.keys.toList.filter fun e =>
    e.2.keyFlags = rstlvKeyDistribAdmin ||| rstlvKeyTypeFull).getLast?.map Prod.snd

variable (service : Service) (mGixs : Option RsGixs)

/-- `RsGenExchange::createGroupSignatures`. -/
def createGroupSignatures (signSet : RsTlvKeySignatureSet) (grpData : List UInt8)
    (grpMeta : RsGxsGrpMetaData) : CreateReturn × RsTlvKeySignatureSet :=
  if grpNeedIdentitySign service grpMeta then
    if grpMeta.mAuthorId = 0 then (.fail, signSet)
    else
      match mGixs with
      | none => (.fail, signSet)
      | some gixs =>
          if gixs.havePrivateKey grpMeta.mAuthorId then
            let r := GxsSecurity.getSignature service.ssl grpData
              (gixs.getPrivateKey grpMeta.mAuthorId) RsTlvKeySignature.new
            (if r.1 then .success else .fail, signSet.insert flagAuthenIdentity r.2)
          else
            (.failTryLater, signSet)
  else
    (.success, signSet)

/-- `RsGenExchange::createGroup`, of the data `grp` and its metadata.  The metadata are those that
are left. -/
def createGroup (grp : List UInt8) (metaData : RsGxsGrpMetaData)
    (privateKeySet publicKeySet : RsTlvSecurityKeySet) : CreateReturn × RsGxsGrpMetaData :=
  match signingAdminKey privateKeySet with
  | none => (.fail, metaData)
  | some privAdminKey =>
      let metaData := { metaData with keys := publicKeySet }
      let allGrpData := grp ++ metaData.serialise
      let admin := GxsSecurity.getSignature service.ssl allGrpData privAdminKey .new
      let signSet := metaData.signSet.insert flagAuthenAdmin admin.2
      let r := createGroupSignatures service mGixs signSet allGrpData metaData
      (if admin.1 then r.1 else .fail, { metaData with signSet := r.2 })

/-! ### What has been created -/

section Created

variable {service mGixs} {key : RsTlvSecurityKey}
  {keySet privateKeySet publicKeySet : RsTlvSecurityKeySet} {metaData : RsGxsGrpMetaData}
  {grp : List UInt8}

theorem get?_createGroupSignatures (signSet : RsTlvKeySignatureSet) (grpData : List UInt8)
    (grpMeta : RsGxsGrpMetaData) :
  (createGroupSignatures service mGixs signSet grpData grpMeta).2.get? flagAuthenAdmin =
    signSet.get? flagAuthenAdmin
  := by
  have hne : flagAuthenAdmin ≠ flagAuthenIdentity := by decide
  unfold createGroupSignatures
  repeat' split
  all_goals first | rfl | rw [OrdMap.get?_insert, if_neg hne]

theorem mem_of_signingAdminKey (h : signingAdminKey keySet = some key) :
  keySet.keys.get? key.keyId = some key ∧ isPrivateAdmin key = true
  := by
  obtain ⟨e, he, rfl⟩ := Option.map_eq_some_iff.1 h
  have hmem := List.mem_of_find?_eq_some he
  have hadmin := List.find?_some he
  constructor
  · rw [keySet.keyed e hmem]
    exact OrdMap.mem_toList.1 hmem
  · exact hadmin

theorem mem_of_namingAdminKey (h : namingAdminKey keySet = some key) :
  keySet.keys.get? key.keyId = some key ∧ isPrivateAdmin key = true
  := by
  obtain ⟨e, he, rfl⟩ := Option.map_eq_some_iff.1 h
  have hmem := List.mem_filter.1 (List.mem_of_getLast? he)
  constructor
  · rw [keySet.keyed e hmem.1]
    exact OrdMap.mem_toList.1 hmem.1
  · rw [isPrivateAdmin, of_decide_eq_true hmem.2]
    decide

theorem OwnKeys.signingAdminKey_keyId {rsa : RsaKeys service.ssl} (h : OwnKeys rsa keySet)
    {key' : RsTlvSecurityKey} (hsigning : signingAdminKey keySet = some key)
    (hnaming : namingAdminKey keySet = some key') :
  key.keyId = key'.keyId
  := by
  obtain ⟨hkey, hadmin⟩ := mem_of_signingAdminKey hsigning
  obtain ⟨hkey', hadmin'⟩ := mem_of_namingAdminKey hnaming
  exact h.admin hkey hkey' hadmin hadmin'

/-- What is left when a group has been created: the public keys, and the signature of the
administrator. -/
theorem createGroup_eq_success {metaData' : RsGxsGrpMetaData}
    (h : createGroup service mGixs grp metaData privateKeySet publicKeySet = (.success, metaData'))
      :
  ∃ key signData signSet, signingAdminKey privateKeySet = some key ∧
    service.ssl.sign key (grp ++ { metaData with keys := publicKeySet }.serialise) =
      some signData ∧
    signSet.get? flagAuthenAdmin = some ⟨key.keyId, signData⟩ ∧
    metaData' = { metaData with keys := publicKeySet, signSet := signSet }
  := by
  rw [createGroup] at h
  cases hkey : signingAdminKey privateKeySet with
  | none =>
    rw [hkey] at h
    cases h
  | some key =>
    simp only [hkey, GxsSecurity.getSignature] at h
    cases hsign : service.ssl.sign key
        (grp ++ { metaData with keys := publicKeySet }.serialise) with
    | none =>
      simp only [hsign] at h
      cases h
    | some signData =>
      simp only [hsign, if_true, Prod.mk.injEq] at h
      obtain ⟨-, rfl⟩ := h
      refine ⟨key, signData, _, rfl, hsign, ?_, rfl⟩
      rw [get?_createGroupSignatures, OrdMap.get?_insert_self]

theorem tlvBytes_injective (type : Nat) :
  Function.Injective (tlvBytes type)
  := by
  intro s s' h
  apply List.append_inj_right h
  rw [length_setTlvBase, length_setTlvBase]

/-- Metadata that are transmitted have the bytes of those that have been sent only when their strings
are clean. -/
theorem serialise_transmitted_iff (metaData : RsGxsGrpMetaData) :
  metaData.transmitted.serialise = metaData.serialise ↔
    sanitise 0 metaData.mGroupName = metaData.mGroupName ∧
      sanitise 0 metaData.mServiceString = metaData.mServiceString
  := by
  have hlength (s : List UInt8) : (tlvBytes 0 (sanitise 0 s)).length = (tlvBytes 0 s).length := by
    rw [length_tlvBytes, length_tlvBytes, length_sanitise]
  constructor
  · intro h
    have hcontent := List.append_inj_right (List.append_cancel_left h) (by simp)
    -- the ids stand before the name, and four numbers and the author before the other string
    have hids := List.append_cancel_left (List.append_cancel_left
      (List.append_cancel_left hcontent))
    obtain ⟨hname, hrest⟩ := List.append_inj hids (hlength metaData.mGroupName)
    have hnumbers := List.append_cancel_left (List.append_cancel_left (List.append_cancel_left
      (List.append_cancel_left (List.append_cancel_left hrest))))
    have hstring := List.append_inj_left hnumbers (hlength metaData.mServiceString)
    exact ⟨tlvBytes_injective 0 hname, tlvBytes_injective 0 hstring⟩
  · rintro ⟨hname, hstring⟩
    simp only [RsGxsGrpMetaData.serialise, RsGxsGrpMetaData.sent, RsGxsGrpMetaData.transmitted,
      hname, hstring]

/-- A version is read, with `currType` in the variable of the signatures, and is a valid update for
those who have stored the metadata `oldGrpMeta`. -/
def Updates (service : Service) (currType : Memory → Nat → Nat) (oldGrpMeta : RsGxsGrpMetaData)
    (grp : List UInt8) (metaData : RsGxsGrpMetaData) : Prop :=
  ∃ metaData', RsGxsGrpMetaData.deserialise currType metaData.serialise = some metaData' ∧
    updateValid service oldGrpMeta grp (markGrpReceived metaData') = true

/-- A version that has been created is a valid update for those who hold the public key of the
group, and read it with a variable that keeps its value, when its time stamp is in the period of the
key, and later than theirs, and its strings are clean. -/
theorem updates_keptType_iff (rsa : RsaKeys service.ssl) {rMeta : RsGroupMetaData}
    {oldGrpMeta : RsGxsGrpMetaData} {publicKey : RsTlvSecurityKey}
    (hown : OwnKeys rsa privateKeySet) (hnaming : namingAdminKey privateKeySet = some key)
    (hgroupId : publicKeySet.groupId = [])
    (hcreate : createGroup service mGixs grp rMeta.toMetaData privateKeySet publicKeySet =
      (.success, metaData)) (hid : oldGrpMeta.mGroupId = key.keyId)
    (hold : oldGrpMeta.keys.keys.get? key.keyId = some publicKey)
    (hpublic : IsPublicKey rsa key.keyId publicKey) :
  Updates service keptType oldGrpMeta grp metaData ↔
    (oldGrpMeta.mPublishTs < UInt32.ofNat rMeta.mPublishTs ∧
      publicKey.inPeriod (UInt32.ofNat rMeta.mPublishTs).toNat = true) ∧
    rMeta.Clean ∧ metaData.serialise.length + 2 < 2 ^ 32
  := by
  obtain ⟨signingKey, signData, signSet, hsigning, hsign, hadmin, rfl⟩ :=
    createGroup_eq_success hcreate
  have hsame := hown.signingAdminKey_keyId hsigning hnaming
  obtain ⟨hget, hprivate⟩ := mem_of_signingAdminKey hsigning
  have hfull : signingKey.keyFlags &&& rstlvKeyTypeFull ≠ 0 := by
    rw [isPrivateAdmin, Bool.and_eq_true] at hprivate
    exact of_decide_eq_true hprivate.2
  have hdata := hown.keyData hget hfull
  have hverifies (data : List UInt8) : GxsSecurity.verifies service.ssl publicKey data
      ⟨signingKey.keyId, signData⟩ = true ↔
        data = grp ++ { rMeta.toMetaData with keys := publicKeySet }.serialise := by
    rw [GxsSecurity.verifies, rsa.rsaKey_public publicKey hpublic.keyFlags
      (by rw [hpublic.keyData, hpublic.keyId]), Option.any_some, hpublic.keyId, ← hsame]
    exact rsa.verify_sign signingKey _ signData hfull hdata hsign data
  have hclean : sanitise tlvTypeStrGroupid publicKeySet.groupId = publicKeySet.groupId := by
    rw [hgroupId]
    rfl
  by_cases hlast : { rMeta.toMetaData with
      keys := publicKeySet, signSet := signSet }.serialise.length + 2 < 2 ^ 32
  · have hsigned : GxsSecurity.verifies service.ssl publicKey (grp ++ (GxsSecurity.grpMetaCleared
        (markGrpReceived { rMeta.toMetaData with
          keys := publicKeySet, signSet := signSet }.transmitted)).serialise)
        ⟨signingKey.keyId, signData⟩ = true ↔ rMeta.Clean := by
      rw [hverifies, List.append_cancel_left_eq]
      exact serialise_transmitted_iff { rMeta.toMetaData with keys := publicKeySet }
    rw [Updates, RsGxsGrpMetaData.deserialise_keptType hclean hlast]
    simp only [Option.some.injEq, exists_eq_left', updateValid, markGrpReceived,
      RsGxsGrpMetaData.transmitted, hadmin, hid, hold, GxsSecurity.validateNxsGrp,
      Bool.and_eq_true]
    constructor
    · rintro ⟨⟨hperiod, hverified⟩, hlatest⟩
      exact ⟨⟨of_decide_eq_true hlatest, hperiod⟩, hsigned.1 hverified, hlast⟩
    · rintro ⟨⟨hlatest, hperiod⟩, hstrings, -⟩
      exact ⟨⟨hperiod, hsigned.2 hstrings⟩, decide_eq_true hlatest⟩
  · constructor
    · rintro ⟨metaData', hread, -⟩
      exact absurd (RsGxsGrpMetaData.length_lt_of_deserialise hclean hread) hlast
    · exact fun h => absurd h.2.2 hlast

/-- Where the variable of the signatures holds `0`, no version is a valid update. -/
theorem not_updates_zero {oldGrpMeta : RsGxsGrpMetaData} (hgroupId : metaData.keys.groupId = []) :
  ¬ Updates service (fun _ _ => 0) oldGrpMeta grp metaData
  := by
  rintro ⟨metaData', hread, hvalid⟩
  have hclean : sanitise tlvTypeStrGroupid metaData.keys.groupId = metaData.keys.groupId := by
    rw [hgroupId]
    rfl
  rw [RsGxsGrpMetaData.deserialise_serialise hclean
    (RsGxsGrpMetaData.length_lt_of_deserialise hclean hread) (fits_zero _ _)] at hread
  obtain rfl := Option.some.inj hread
  have hnone := get?_storedUnder_zero (fun _ _ => 0) metaData.serialise
    (show flagAuthenAdmin ≠ 0 by decide) metaData.signSet
  simp [updateValid, markGrpReceived, hnone] at hvalid

end Created

end GenExchange
