import RetroShare.GenExchange.GroupKeys

/-!
# Metadata that is read back

`RsGxsMsgMetaData::deserialise` and `RsGxsGrpMetaData::deserialise` of `rsgxsdata.cc`, of new
metadata: what the decoders of `Gxs.MetaData` make of a buffer, with the ids as numbers.

The variable in which `RsTlvKeySignatureSet::GetTlv` keeps the type of a signature holds `currType`.
Where it keeps its value from one iteration to the next, which is `keptType`, all is read back but
the local fields, and what `GetTlvString` replaces (`deserialise_keptType`).  Where it holds `0` no
signature is found.
-/

namespace GenExchange

open Serialiser Decoder
open GRouter (HasBytes hasBytes_append)

/-! ### What is received -/

/-- An id that is received. -/
def RsGenericId.received {n : Nat} (id : Nxs.RsGenericId n) : RsGenericId n :=
  Fin.ofNat _ (idValue id.1)

/-- A signature that is received. -/
def RsTlvKeySignature.received (sign : Serialiser.RsTlvKeySignature) : RsTlvKeySignature :=
  ⟨Fin.ofNat _ (idValue sign.keyId), sign.signData.binData⟩

/-- A set of signatures that is received. -/
def receivedSigns (signSet : Serialiser.RsTlvKeySignatureSet) : RsTlvKeySignatureSet :=
  signSet.toList.foldl (fun signs e => signs.insert (Fin.ofNat _ e.1) (.received e.2)) OrdMap.empty

/-- A key that is received. -/
def RsTlvSecurityKey.received (key : Serialiser.RsTlvSecurityKey) : RsTlvSecurityKey where
  keyId := Fin.ofNat _ (idValue key.keyId)
  keyFlags := .ofNat key.keyFlags
  startTS := .ofNat key.startTS
  endTS := .ofNat key.endTS
  keyData := key.keyData.binData

/-- A set of keys that is received. -/
def RsTlvSecurityKeySet.received (set : Serialiser.RsTlvSecurityKeySet) : RsTlvSecurityKeySet :=
  set.keys.toList.foldl (fun keySet e => keySet.insert (.received e.2))
    { RsTlvSecurityKeySet.new with groupId := set.groupId }

/-- The metadata of a message that are received.  The status is not set, and taken to be `0`. -/
def RsGxsMsgMetaData.received (metaData : Gxs.MetaData.RsGxsMsgMetaData) : RsGxsMsgMetaData where
  mGroupId := .received metaData.mGroupId
  mMsgId := .received metaData.mMsgId
  mThreadId := .received metaData.mThreadId
  mParentId := .received metaData.mParentId
  mOrigMsgId := .received metaData.mOrigMsgId
  mAuthorId := .received metaData.mAuthorId
  signSet := receivedSigns metaData.signSet
  mMsgName := metaData.mMsgName
  mPublishTs := metaData.mPublishTs
  mMsgFlags := metaData.mMsgFlags
  mMsgStatus := 0

/-- The metadata of a group that are received, with the local fields of new ones. -/
def RsGxsGrpMetaData.received (metaData : Gxs.MetaData.RsGxsGrpMetaData) : RsGxsGrpMetaData where
  mGroupId := .received metaData.mGroupId
  mOrigGrpId := .received metaData.mOrigGrpId
  mParentGrpId := .received metaData.mParentGrpId
  mGroupName := metaData.mGroupName
  mGroupFlags := metaData.mGroupFlags
  mPublishTs := metaData.mPublishTs
  mCircleType := metaData.mCircleType
  mAuthenFlags := metaData.mAuthenFlags
  mAuthorId := .received metaData.mAuthorId
  mServiceString := metaData.mServiceString
  mCircleId := .received metaData.mCircleId
  signSet := receivedSigns metaData.signSet
  keys := .received metaData.keys
  mSubscribeFlags := 0
  mGroupStatus := 0
  mOriginator := 0

/-! ### Decoders -/

/-- What a decoder that succeeds makes of a buffer. -/
def decoded {α : Type} (content : Dec (Bool × α)) : Option α :=
  match (content 0).value with
  | some (true, v) => some v
  | _ => none

variable (currType : Memory → Nat → Nat) (bytes : List UInt8)

/-- `RsGxsMsgMetaData::deserialise`, of new metadata.  A loop has at most as many iterations as
there are bytes. -/
def RsGxsMsgMetaData.deserialise : Option RsGxsMsgMetaData :=
  let data := Bytes.toMemory bytes
  (decoded (Gxs.MetaData.RsGxsMsgMetaData.deserialise data (currType data) 0 bytes.length
    bytes.length (.signed OrdMap.empty))).map received

/-- `RsGxsGrpMetaData::deserialise`, of new metadata.  A loop has at most as many iterations as
there are bytes. -/
def RsGxsGrpMetaData.deserialise : Option RsGxsGrpMetaData :=
  let data := Bytes.toMemory bytes
  (decoded (Gxs.MetaData.RsGxsGrpMetaData.deserialise data (currType data) bytes.length
    bytes.length .new)).map received

/-- What the variable holds in the iteration that starts at `p` when it keeps its value: the type
that the iteration before has read, whose last four bytes it is. -/
def keptType (data : Memory) (p : Nat) : Nat := data.be32 (p - 4)

theorem decoded_eq_some {α : Type} {content : Dec (Bool × α)} {v : α} :
  decoded content = some v ↔ ∃ q, Returns content 0 (true, v) q
  := by
  unfold decoded
  constructor
  · intro h
    split at h
    case h_1 v' hvalue =>
      obtain rfl := Option.some.inj h
      exact ⟨_, hvalue, rfl⟩
    case h_2 => cases h
  · rintro ⟨q, hvalue, -⟩
    rw [hvalue]

/-! ### Round trips of the parts -/

theorem RsGenericId.idValue_bytes {n : Nat} (id : RsGenericId n) :
  idValue id.bytes = id.val
  := by
  have hpow : 256 ^ n = 2 ^ (8 * n) := by
    rw [pow_mul]
    norm_num
  rw [RsGenericId.bytes, GRouter.idValue_setRaw, hpow, Nat.mod_eq_of_lt id.isLt]

theorem RsGenericId.ofNat_idValue {n : Nat} (id : RsGenericId n) :
  Fin.ofNat (2 ^ (8 * n)) (idValue id.bytes) = id
  := by
  rw [id.idValue_bytes]
  exact Fin.ofNat_val_eq_self id

theorem RsGenericId.received_sent {n : Nat} (id : RsGenericId n) :
  received id.sent = id
  := id.ofNat_idValue

theorem RsTlvKeySignature.received_sent (sign : RsTlvKeySignature) :
  received sign.sent = sign
  := congrArg (RsTlvKeySignature.mk · sign.signData) sign.keyId.ofNat_idValue

theorem receivedSigns_sentSigns (signSet : RsTlvKeySignatureSet) :
  receivedSigns (sentSigns signSet) = signSet
  := signSet.foldl_insert_mapKeys _ (fun type => Fin.ofNat_val_eq_self type)
      RsTlvKeySignature.received_sent

theorem RsTlvSecurityKey.received_sent (key : RsTlvSecurityKey) :
  received key.sent = key
  := by
  simp only [received, sent, RsGenericId.ofNat_idValue, UInt32.ofNat_toNat]

theorem RsTlvSecurityKeySet.received_sent (set : RsTlvSecurityKeySet) :
  received set.sent = set
  := by
  have hfold : ∀ (l : List (RsGxsId × RsTlvSecurityKey)) (set' : RsTlvSecurityKeySet),
      (∀ e ∈ l, e.2.keyId = e.1) →
      (l.foldl (fun keySet e => keySet.insert (.received e.2.sent)) set').groupId = set'.groupId ∧
        (l.foldl (fun keySet e => keySet.insert (.received e.2.sent)) set').keys =
          l.foldl (fun keys e => keys.insert e.1 e.2) set'.keys := by
    intro l
    induction l with
    | nil => exact fun _ _ => ⟨rfl, rfl⟩
    | cons e l ih =>
      intro set' hkeyed
      rw [List.forall_mem_cons] at hkeyed
      have hinsert : (set'.insert (.received e.2.sent)).keys = set'.keys.insert e.1 e.2 := by
        rw [RsTlvSecurityKey.received_sent]
        exact congrArg (set'.keys.insert · e.2) hkeyed.1
      rw [List.foldl_cons, List.foldl_cons, ← hinsert]
      exact ih _ hkeyed.2
  obtain ⟨hgroupId, hkeys⟩ := hfold set.keys.toList { new with groupId := set.groupId } set.keyed
  rw [received, sent, OrdMap.mapKeys, List.foldl_map]
  obtain ⟨groupId, keys, keyed⟩ := set
  rw [show ({ new with groupId := groupId } : RsTlvSecurityKeySet).keys = OrdMap.empty from rfl,
    OrdMap.foldl_insert_toList] at hkeys
  generalize List.foldl _ _ _ = set' at hgroupId hkeys
  cases set'
  cases hgroupId
  cases hkeys
  rfl

/-! ### What is sent is valid -/

theorem valid_sentSigns (signSet : RsTlvKeySignatureSet) :
  (sentSigns signSet).Valid
  := by
  intro e he
  obtain ⟨e', -, rfl⟩ := List.mem_map.1 he
  exact ⟨e'.1.isLt, e'.2.keyId.length_bytes, rfl⟩

theorem RsTlvSecurityKeySet.valid_sent {set : RsTlvSecurityKeySet}
    (hgroupId : sanitise tlvTypeStrGroupid set.groupId = set.groupId) :
  set.sent.Valid
  := by
  refine ⟨hgroupId, ?_, ?_⟩
  · intro e he
    obtain ⟨e', he', rfl⟩ := List.mem_map.1 he
    exact e'.2.keyId.idValue_bytes.trans (congrArg Fin.val (set.keyed e' he'))
  · intro e he
    obtain ⟨e', -, rfl⟩ := List.mem_map.1 he
    exact ⟨e'.2.keyId.length_bytes, e'.2.keyFlags.toNat_lt, e'.2.startTS.toNat_lt,
      e'.2.endTS.toNat_lt, rfl⟩

/-! ### Signatures that are read -/

/-- The variable holds the keys under which the signatures of a set are stored. -/
def Fits (key : Nat → Nat) (signSet : RsTlvKeySignatureSet) : Prop :=
  ∀ p, HasBytes (Bytes.toMemory bytes) p (sentSigns signSet).toBytes →
    Entry.FitFrom (p + tlvHeaderSize)
      (Serialiser.RsTlvKeySignatureSet.entries (currType (Bytes.toMemory bytes)) key
        (sentSigns signSet).toList)

/-- A set whose signatures are stored under keys of their types. -/
def storedUnder (key : Nat → Nat) (signSet : RsTlvKeySignatureSet) : RsTlvKeySignatureSet :=
  receivedSigns (Entry.updateAll
    (Serialiser.RsTlvKeySignatureSet.entries (currType (Bytes.toMemory bytes)) key
      (sentSigns signSet).toList) OrdMap.empty)

theorem storedUnder_id (signSet : RsTlvKeySignatureSet) :
  storedUnder currType bytes id signSet = signSet
  := by
  rw [storedUnder, Serialiser.RsTlvKeySignatureSet.updateAll_entries, receivedSigns_sentSigns]

theorem get?_storedUnder_zero {type : SignType} (htype : type ≠ 0)
    (signSet : RsTlvKeySignatureSet) :
  (storedUnder currType bytes (fun _ => 0) signSet).get? type = none
  := by
  have hfold : ∀ (l : List (Nat × Serialiser.RsTlvKeySignature)) (signs : RsTlvKeySignatureSet),
      (∀ e ∈ l, e.1 = 0) →
      (l.foldl (fun signs e => signs.insert (Fin.ofNat _ e.1) (.received e.2)) signs).get? type =
        signs.get? type := by
    intro l
    induction l with
    | nil => exact fun _ _ => rfl
    | cons e l ih =>
      intro signs hl
      rw [List.forall_mem_cons] at hl
      have hne : type ≠ Fin.ofNat (2 ^ 32) 0 := htype
      rw [List.foldl_cons, ih _ hl.2, OrdMap.get?_insert, hl.1, if_neg hne]
  rw [storedUnder, receivedSigns, hfold]
  · rfl
  · intro e he
    by_contra hne
    rw [OrdMap.mem_toList, Serialiser.RsTlvKeySignatureSet.get?_updateAll_entries _ hne] at he
    cases he

theorem fits_zero (signSet : RsTlvKeySignatureSet) :
  Fits (fun _ _ => 0) bytes (fun _ => 0) signSet
  := fun _ _ => Gxs.MetaData.fitFrom_entries_const 0 _ _

theorem fits_keptType (signSet : RsTlvKeySignatureSet) :
  Fits keptType bytes id signSet
  := by
  intro p hbytes
  rw [Serialiser.RsTlvKeySignatureSet.fitFrom_entries_iff]
  have hcontent := hasBytes_content hbytes
  have hvalid := valid_sentSigns signSet
  rw [Serialiser.RsTlvKeySignatureSet.parts] at hcontent
  unfold Serialiser.RsTlvKeySignatureSet.Valid at hvalid
  generalize (sentSigns signSet).toList = l at hcontent hvalid
  generalize p + tlvHeaderSize = p at hcontent
  induction l generalizing p with
  | nil => trivial
  | cons e l ih =>
    rw [List.forall_mem_cons] at hvalid
    rw [List.flatMap_cons, List.cons_append, List.cons_append, List.nil_append,
      Encoder.Component.bytesOf_cons, Encoder.Component.bytesOf_cons, hasBytes_append,
      hasBytes_append] at hcontent
    obtain ⟨htype, -, hrest⟩ := hcontent
    have hlength : (tlvBytes tlvTypeKeysignaturetype (GRouter.setRaw 4 e.1)).length =
        getTlvUInt32Size := by
      rw [length_tlvBytes, GRouter.length_setRaw, getTlvUInt32Size]
    rw [Part32.bytes_tlvUInt32] at htype hrest
    rw [hlength] at hrest
    constructor
    · exact GRouter.be32_of_hasBytes (hasBytes_content htype) hvalid.1.1
    · exact ih hvalid.2 _ hrest

/-! ### Metadata -/

/-- The metadata that are read back when all signatures are. -/
def RsGxsMsgMetaData.transmitted (metaData : RsGxsMsgMetaData) : RsGxsMsgMetaData :=
  { metaData with mPublishTs := metaData.mPublishTs % 2 ^ 32, mMsgStatus := 0 }

/-- The metadata that are read back when all signatures are. -/
def RsGxsGrpMetaData.transmitted (metaData : RsGxsGrpMetaData) : RsGxsGrpMetaData :=
  { metaData with
    mGroupName := sanitise 0 metaData.mGroupName
    mServiceString := sanitise 0 metaData.mServiceString
    mSubscribeFlags := 0
    mGroupStatus := 0
    mOriginator := 0 }

variable {currType} {key : Nat → Nat}

/-- What has been written is read back, with the signatures under the keys that the variable
holds. -/
theorem RsGxsMsgMetaData.deserialise_serialise {metaData : RsGxsMsgMetaData}
    (hname : sanitise 0 metaData.mMsgName = metaData.mMsgName)
    (hsize : metaData.serialise.length < 2 ^ 32)
    (hfits : Fits currType metaData.serialise key metaData.signSet) :
  deserialise currType metaData.serialise =
    some { metaData.transmitted with
      signSet := storedUnder currType metaData.serialise key metaData.signSet }
  := by
  have hvalid : metaData.sent.Valid :=
    ⟨hname, Nat.mod_lt _ (by decide), valid_sentSigns metaData.signSet⟩
  have hreturns := Gxs.MetaData.RsGxsMsgMetaData.exists_returns_deserialise _ _ hvalid
    (GRouter.hasBytes_toMemory metaData.serialise) hsize le_rfl hfits 0 (.signed OrdMap.empty)
  apply (congrArg (Option.map received) (decoded_eq_some.2 hreturns)).trans
  simp only [Option.map_some, received, sent, RsGenericId.received_sent, transmitted, storedUnder]

/-- What has been written is read back, with the signatures under the keys that the variable
holds. -/
theorem RsGxsGrpMetaData.deserialise_serialise {metaData : RsGxsGrpMetaData}
    (hgroupId : sanitise tlvTypeStrGroupid metaData.keys.groupId = metaData.keys.groupId)
    (hsize : metaData.serialise.length + 2 < 2 ^ 32)
    (hfits : Fits currType metaData.serialise key metaData.signSet) :
  deserialise currType metaData.serialise =
    some { metaData.transmitted with
      signSet := storedUnder currType metaData.serialise key metaData.signSet }
  := by
  have hreturns := Gxs.MetaData.RsGxsGrpMetaData.exists_returns_deserialise _ _
    (valid_sentSigns metaData.signSet) (RsTlvSecurityKeySet.valid_sent hgroupId)
    (GRouter.hasBytes_toMemory metaData.serialise) hsize le_rfl hfits .new
  apply (congrArg (Option.map received) (decoded_eq_some.2 hreturns)).trans
  simp only [Option.map_some, received, sent, RsGenericId.received_sent,
    RsTlvSecurityKeySet.received_sent, transmitted, storedUnder,
    Gxs.MetaData.RsGxsGrpMetaData.sanitised]

/-- What is read back is not too long for the loop over the keys. -/
theorem RsGxsGrpMetaData.length_lt_of_deserialise {metaData v : RsGxsGrpMetaData}
    (hgroupId : sanitise tlvTypeStrGroupid metaData.keys.groupId = metaData.keys.groupId)
    (h : deserialise currType metaData.serialise = some v) :
  metaData.serialise.length + 2 < 2 ^ 32
  := by
  obtain ⟨v', hv', -⟩ := Option.map_eq_some_iff.1 h
  obtain ⟨q, hreturns⟩ := decoded_eq_some.1 hv'
  apply Gxs.MetaData.RsGxsGrpMetaData.length_lt_of_returns_deserialise _ _
    (RsTlvSecurityKeySet.valid_sent hgroupId) (GRouter.hasBytes_toMemory _) _ hreturns
  intro a ha
  exact congrArg (Option.getD · 0) (List.getElem?_eq_none ha)

/-- Where the variable keeps its value all signatures are read back. -/
theorem RsGxsMsgMetaData.deserialise_keptType {metaData : RsGxsMsgMetaData}
    (hname : sanitise 0 metaData.mMsgName = metaData.mMsgName)
    (hsize : metaData.serialise.length < 2 ^ 32) :
  deserialise keptType metaData.serialise = some metaData.transmitted
  := by
  rw [deserialise_serialise hname hsize (fits_keptType _ _), storedUnder_id]
  rfl

/-- Where the variable keeps its value all signatures are read back. -/
theorem RsGxsGrpMetaData.deserialise_keptType {metaData : RsGxsGrpMetaData}
    (hgroupId : sanitise tlvTypeStrGroupid metaData.keys.groupId = metaData.keys.groupId)
    (hsize : metaData.serialise.length + 2 < 2 ^ 32) :
  deserialise keptType metaData.serialise = some metaData.transmitted
  := by
  rw [deserialise_serialise hgroupId hsize (fits_keptType _ _), storedUnder_id]
  rfl

end GenExchange
