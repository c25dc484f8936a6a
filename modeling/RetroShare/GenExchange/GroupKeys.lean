import RetroShare.GenExchange.Validation

/-!
# Keys of groups

`generateKeyPair` and `extractPublicKey` of `gxssecurity.cc`, and what `rsgenexchange.cc` makes of
them: `generateGroupKeys`, `generatePublicFromPrivateKeys` and `checkKeys`.

A key of the library is named by its fingerprint, of which no two keys have the same.  `RsaKeys` has
what is written of such a key, and what is known of the signatures that are made with it.
-/

namespace GenExchange

/-! ### Pairs of keys -/

/-- The keys that `RSA_generate_key` makes, by their fingerprints. -/
structure RsaKeys (ssl : OpenSSL) where
  /-- `i2d_RSAPrivateKey`. -/
  privateData : RsGxsId → List UInt8
  /-- `i2d_RSAPublicKey`. -/
  publicData : RsGxsId → List UInt8
  rsaKey_private : ∀ key, key.keyFlags &&& rstlvKeyTypeFull ≠ 0 →
    key.keyData = privateData key.keyId → ssl.rsaKey key = some (publicData key.keyId)
  rsaKey_public : ∀ key, key.keyFlags &&& rstlvKeyTypeFull = 0 →
    key.keyData = publicData key.keyId → ssl.rsaKey key = some (publicData key.keyId)
  verify_sign : ∀ key data signData, key.keyFlags &&& rstlvKeyTypeFull ≠ 0 →
    key.keyData = privateData key.keyId → ssl.sign key data = some signData → ∀ data',
      ssl.verify (publicData key.keyId) data' signData = true ↔ data' = data

/-- `60 * 60 * 24 * 365 * 5`, the seconds for which a public key is valid. -/
def keyPeriod : UInt32 := 60 * 60 * 24 * 365 * 5

/-- `GxsSecurity::generateKeyPair`, of the key with the fingerprint `keyId`: the public and the
private key. -/
def GxsSecurity.generateKeyPair {ssl : OpenSSL} (rsa : RsaKeys ssl) (keyId : RsGxsId) (now : Nat) :
    RsTlvSecurityKey × RsTlvSecurityKey :=
  let startTS := UInt32.ofNat now
  (⟨keyId, rstlvKeyTypePublicOnly, startTS, startTS + keyPeriod, rsa.publicData keyId⟩,
    ⟨keyId, rstlvKeyTypeFull, startTS, 0, rsa.privateData keyId⟩)

/-- `GxsSecurity::extractPublicKey`.  The public key has the id of the private one, be this its
fingerprint or not. -/
def GxsSecurity.extractPublicKey (ssl : OpenSSL) (privateKey : RsTlvSecurityKey) :
    Option RsTlvSecurityKey :=
  if privateKey.keyFlags &&& rstlvKeyTypeFull = 0 then none
  else (ssl.rsaKey privateKey).map fun keyData =>
    { keyId := privateKey.keyId
      keyFlags := (privateKey.keyFlags &&& rstlvKeyDistribMask) ||| rstlvKeyTypePublicOnly
      startTS := privateKey.startTS
      endTS := privateKey.startTS + keyPeriod
      keyData := keyData }

/-! ### Sets of keys -/

/-- `keys[key.keyId] = key`. -/
def RsTlvSecurityKeySet.insert (set : RsTlvSecurityKeySet) (key : RsTlvSecurityKey) :
    RsTlvSecurityKeySet where
  groupId := set.groupId
  keys := set.keys.insert key.keyId key
  keyed := by
    rintro ⟨k, key'⟩ he
    rw [OrdMap.mem_toList] at he
    rcases OrdMap.get?_insert_iff.mp he with ⟨hk, rfl⟩ | ⟨-, he⟩
    · exact hk.symm
    · exact set.keyed (k, key') (OrdMap.mem_toList.2 he)

/-- `keys.insert(std::make_pair(key.keyId, key))`, which leaves a key that is there. -/
def RsTlvSecurityKeySet.insertNew (set : RsTlvSecurityKeySet) (key : RsTlvSecurityKey) :
    RsTlvSecurityKeySet :=
  if (set.keys.get? key.keyId).isSome then set else set.insert key

/-- A public and a private key that are generated, with the flags that they are given. -/
def generateFlagged {ssl : OpenSSL} (rsa : RsaKeys ssl) (distrib : UInt32) (keyId : RsGxsId)
    (now : Nat) : RsTlvSecurityKey × RsTlvSecurityKey :=
  let keys := GxsSecurity.generateKeyPair rsa keyId now
  ({ keys.1 with keyFlags := distrib ||| rstlvKeyTypePublicOnly },
    { keys.2 with keyFlags := distrib ||| rstlvKeyTypeFull })

/-- `RsGenExchange::generateGroupKeys`: the private and the public keys.  Those of the administrator
are made at `adminNow`, those that publish at `publishNow`. -/
def generateGroupKeys {ssl : OpenSSL} (rsa : RsaKeys ssl) (adminId publishId : RsGxsId)
    (adminNow publishNow : Nat) (genPublishKeys : Bool) :
    RsTlvSecurityKeySet × RsTlvSecurityKeySet :=
  let admin := generateFlagged rsa rstlvKeyDistribAdmin adminId adminNow
  let privatekeySet := RsTlvSecurityKeySet.new.insert admin.2
  let publickeySet := RsTlvSecurityKeySet.new.insert admin.1
  if genPublishKeys then
    let publish := generateFlagged rsa rstlvKeyDistribPublish publishId publishNow
    (privatekeySet.insert publish.2, publickeySet.insert publish.1)
  else
    (privatekeySet, publickeySet)

/-- An iteration of the loop of `generatePublicFromPrivateKeys`. -/
def insertPublicKey (ssl : OpenSSL) (publickeySet : RsTlvSecurityKeySet)
    (e : RsGxsId × RsTlvSecurityKey) : RsTlvSecurityKeySet :=
  match GxsSecurity.extractPublicKey ssl e.2 with
  | none => publickeySet
  | some pubkey => publickeySet.insertNew pubkey

/-- `RsGenExchange::generatePublicFromPrivateKeys`. -/
def generatePublicFromPrivateKeys (ssl : OpenSSL) (privatekeySet : RsTlvSecurityKeySet) :
    RsTlvSecurityKeySet :=
  privatekeySet.keys.toList.foldl (insertPublicKey ssl) .new

/-- A private key of an administrator. -/
def isPrivateAdmin (key : RsTlvSecurityKey) : Bool :=
  key.keyFlags &&& rstlvKeyDistribAdmin ≠ 0 && key.keyFlags &&& rstlvKeyTypeFull ≠ 0

/-- A private key that publishes. -/
def isPrivatePublish (key : RsTlvSecurityKey) : Bool :=
  key.keyFlags &&& rstlvKeyDistribPublish ≠ 0 && key.keyFlags &&& rstlvKeyTypeFull ≠ 0

/-- `RsGenExchange::checkKeys`. -/
def checkKeys (keySet : RsTlvSecurityKeySet) : Bool :=
  keySet.keys.toList.any (fun e => isPrivateAdmin e.2) &&
    keySet.keys.toList.any fun e => isPrivatePublish e.2

/-! ### Keys of own groups -/

section Own

variable {ssl : OpenSSL} {rsa : RsaKeys ssl}
  {privateKeys publicKeys publickeySet : RsTlvSecurityKeySet} {key publicKey : RsTlvSecurityKey}
  {keyId : RsGxsId} (keySet : RsTlvSecurityKeySet) {l : List (RsGxsId × RsTlvSecurityKey)}

/-- The keys of a group of one's own: the private ones are those of their fingerprints, and there is
one of an administrator at most. -/
structure OwnKeys (rsa : RsaKeys ssl) (keySet : RsTlvSecurityKeySet) : Prop where
  keyData : ∀ {keyId key}, keySet.keys.get? keyId = some key →
    key.keyFlags &&& rstlvKeyTypeFull ≠ 0 → key.keyData = rsa.privateData keyId
  admin : ∀ {keyId keyId' key key'}, keySet.keys.get? keyId = some key →
    keySet.keys.get? keyId' = some key' → isPrivateAdmin key = true →
      isPrivateAdmin key' = true → keyId = keyId'

/-- The public key with a fingerprint. -/
structure IsPublicKey (rsa : RsaKeys ssl) (id : RsGxsId) (key : RsTlvSecurityKey) : Prop where
  keyId : key.keyId = id
  keyFlags : key.keyFlags &&& rstlvKeyTypeFull = 0
  keyData : key.keyData = rsa.publicData id

/-- The public keys have that of the administrator. -/
def HasAdminKey (rsa : RsaKeys ssl) (privateKeys publicKeys : RsTlvSecurityKeySet) : Prop :=
  ∀ keyId key, privateKeys.keys.get? keyId = some key → isPrivateAdmin key = true →
    ∃ publicKey, publicKeys.keys.get? keyId = some publicKey ∧ IsPublicKey rsa keyId publicKey

theorem RsTlvSecurityKeySet.keyId_eq {keySet : RsTlvSecurityKeySet}
    (h : keySet.keys.get? keyId = some key) :
  key.keyId = keyId
  := keySet.keyed (keyId, key) (OrdMap.mem_toList.2 h)

theorem RsTlvSecurityKeySet.get?_insert (key : RsTlvSecurityKey) (keyId : RsGxsId) :
  (keySet.insert key).keys.get? keyId =
    if keyId = key.keyId then some key else keySet.keys.get? keyId
  := OrdMap.get?_insert _ _ _

theorem RsTlvSecurityKeySet.get?_insertNew (key : RsTlvSecurityKey) (keyId : RsGxsId) :
  (keySet.insertNew key).keys.get? keyId =
    (keySet.keys.get? keyId).or (if keyId = key.keyId then some key else none)
  := by
  rw [insertNew]
  split
  case isTrue hsome =>
    split
    case isTrue hk =>
      rw [hk]
      exact (Option.or_of_isSome hsome).symm
    case isFalse => rw [Option.or_none]
  case isFalse hnone =>
    rw [get?_insert]
    split
    case isTrue hk => rw [hk, Option.not_isSome_iff_eq_none.1 hnone, Option.none_or]
    case isFalse => rw [Option.or_none]

theorem RsTlvSecurityKeySet.get?_new (keyId : RsGxsId) :
  RsTlvSecurityKeySet.new.keys.get? keyId = none
  := rfl

theorem isPrivateAdmin_generateFlagged_publish (keyId : RsGxsId) (now : Nat) :
  isPrivateAdmin (generateFlagged rsa rstlvKeyDistribPublish keyId now).2 = false
  := by
  change ((rstlvKeyDistribPublish ||| rstlvKeyTypeFull) &&& rstlvKeyDistribAdmin ≠ 0 &&
    (rstlvKeyDistribPublish ||| rstlvKeyTypeFull) &&& rstlvKeyTypeFull ≠ 0) = false
  decide

theorem get?_generateGroupKeys_fst {adminId publishId : RsGxsId} {adminNow publishNow : Nat}
    {genPublishKeys : Bool}
    (h : (generateGroupKeys rsa adminId publishId adminNow publishNow genPublishKeys).1.keys.get?
      keyId = some key) :
  (keyId = adminId ∧ key = (generateFlagged rsa rstlvKeyDistribAdmin adminId adminNow).2 ∧
      (genPublishKeys = true → adminId ≠ publishId)) ∨
    (keyId = publishId ∧
      key = (generateFlagged rsa rstlvKeyDistribPublish publishId publishNow).2)
  := by
  have hadmin : (generateFlagged rsa rstlvKeyDistribAdmin adminId adminNow).2.keyId = adminId := rfl
  have hpublish :
      (generateFlagged rsa rstlvKeyDistribPublish publishId publishNow).2.keyId = publishId := rfl
  rw [generateGroupKeys] at h
  cases genPublishKeys with
  | false =>
    simp only [Bool.false_eq_true, if_false, RsTlvSecurityKeySet.get?_insert, hadmin,
      RsTlvSecurityKeySet.get?_new, Option.ite_none_right_eq_some, Option.some.injEq] at h
    exact .inl ⟨h.1, h.2.symm, fun h => by cases h⟩
  | true =>
    simp only [if_true, RsTlvSecurityKeySet.get?_insert, hadmin, hpublish,
      RsTlvSecurityKeySet.get?_new] at h
    split at h
    case isTrue hk => exact .inr ⟨hk, (Option.some.inj h).symm⟩
    case isFalse hne =>
      rw [Option.ite_none_right_eq_some] at h
      obtain ⟨rfl, h⟩ := h
      exact .inl ⟨rfl, (Option.some.inj h).symm, fun _ => hne⟩

theorem ownKeys_generateGroupKeys (adminId publishId : RsGxsId) (adminNow publishNow : Nat)
    (genPublishKeys : Bool) :
  OwnKeys rsa (generateGroupKeys rsa adminId publishId adminNow publishNow genPublishKeys).1
  := by
  have hid {keyId : RsGxsId} {key : RsTlvSecurityKey}
      (h : (generateGroupKeys rsa adminId publishId adminNow publishNow
        genPublishKeys).1.keys.get? keyId = some key) (hadmin : isPrivateAdmin key = true) :
      keyId = adminId := by
    rcases get?_generateGroupKeys_fst h with ⟨rfl, -, -⟩ | ⟨-, rfl⟩
    · rfl
    · rw [isPrivateAdmin_generateFlagged_publish] at hadmin
      cases hadmin
  constructor
  case keyData =>
    intro keyId key h _
    rcases get?_generateGroupKeys_fst h with ⟨rfl, rfl, -⟩ | ⟨rfl, rfl⟩
    · rfl
    · rfl
  case admin =>
    intro keyId keyId' key key' h h' hadmin hadmin'
    rw [hid h hadmin, hid h' hadmin']

theorem hasAdminKey_generateGroupKeys (adminId publishId : RsGxsId) (adminNow publishNow : Nat)
    (genPublishKeys : Bool) :
  HasAdminKey rsa
    (generateGroupKeys rsa adminId publishId adminNow publishNow genPublishKeys).1
    (generateGroupKeys rsa adminId publishId adminNow publishNow genPublishKeys).2
  := by
  intro keyId key h hadmin
  rcases get?_generateGroupKeys_fst h with ⟨rfl, rfl, hne⟩ | ⟨-, rfl⟩
  · use (generateFlagged rsa rstlvKeyDistribAdmin keyId adminNow).1
    constructor
    · rw [generateGroupKeys]
      have hid : (generateFlagged rsa rstlvKeyDistribAdmin keyId adminNow).1.keyId = keyId := rfl
      cases genPublishKeys with
      | false =>
        simp only [Bool.false_eq_true, if_false, RsTlvSecurityKeySet.get?_insert, hid, if_true]
      | true =>
        have hpublish :
            (generateFlagged rsa rstlvKeyDistribPublish publishId publishNow).1.keyId =
              publishId := rfl
        simp only [if_true, RsTlvSecurityKeySet.get?_insert, hid, hpublish, if_neg (hne rfl)]
    · constructor
      case keyId => rfl
      case keyFlags =>
        change (rstlvKeyDistribAdmin ||| rstlvKeyTypePublicOnly) &&& rstlvKeyTypeFull = 0
        decide
      case keyData => rfl
  · rw [isPrivateAdmin_generateFlagged_publish] at hadmin
    cases hadmin

theorem groupId_generateGroupKeys (adminId publishId : RsGxsId) (adminNow publishNow : Nat)
    (genPublishKeys : Bool) :
  (generateGroupKeys rsa adminId publishId adminNow publishNow genPublishKeys).2.groupId = []
  := by
  cases genPublishKeys <;> rfl

/-! ### Public keys of private ones -/

theorem groupId_generatePublicFromPrivateKeys (privateKeys : RsTlvSecurityKeySet) :
  (generatePublicFromPrivateKeys ssl privateKeys).groupId = []
  := by
  apply List.foldlRecOn (motive := fun set : RsTlvSecurityKeySet => set.groupId = []) _ _ rfl
  intro set hset e _
  rw [insertPublicKey]
  cases GxsSecurity.extractPublicKey ssl e.2 with
  | none => exact hset
  | some pubkey =>
    simp only [RsTlvSecurityKeySet.insertNew]
    split <;> exact hset

theorem keyId_of_extractPublicKey (h : GxsSecurity.extractPublicKey ssl key = some publicKey) :
  publicKey.keyId = key.keyId
  := by
  rw [GxsSecurity.extractPublicKey, Option.ite_none_left_eq_some, Option.map_eq_some_iff] at h
  obtain ⟨-, _, -, rfl⟩ := h
  rfl

theorem isPublicKey_of_extractPublicKey (hid : key.keyId = keyId)
    (hdata : key.keyData = rsa.privateData keyId)
    (h : GxsSecurity.extractPublicKey ssl key = some publicKey) :
  IsPublicKey rsa keyId publicKey
  := by
  subst hid
  rw [GxsSecurity.extractPublicKey, Option.ite_none_left_eq_some] at h
  obtain ⟨hfull, h⟩ := h
  rw [rsa.rsaKey_private key hfull hdata, Option.map_some] at h
  obtain rfl := Option.some.inj h
  constructor
  case keyId => rfl
  case keyFlags =>
    change (key.keyFlags &&& rstlvKeyDistribMask ||| rstlvKeyTypePublicOnly) &&&
      rstlvKeyTypeFull = 0
    have hdistrib (a b c : UInt32) : (a ||| b) &&& c = a &&& c ||| b &&& c :=
      UInt32.toBitVec_inj.1 BitVec.and_or_distrib_right
    have hmask : rstlvKeyDistribMask &&& rstlvKeyTypeFull = 0 := by decide
    have hpublic : rstlvKeyTypePublicOnly &&& rstlvKeyTypeFull = 0 := by decide
    rw [hdistrib, UInt32.and_assoc, hmask, hpublic]
    simp
  case keyData => rfl

theorem get?_foldl_insertPublicKey (h : publickeySet.keys.get? keyId = some publicKey) :
  (l.foldl (insertPublicKey ssl) publickeySet).keys.get? keyId = some publicKey
  := by
  induction l generalizing publickeySet with
  | nil => exact h
  | cons e l ih =>
    apply ih
    rw [insertPublicKey]
    cases GxsSecurity.extractPublicKey ssl e.2 with
    | none => exact h
    | some pubkey => rw [RsTlvSecurityKeySet.get?_insertNew, h, Option.some_or]

theorem get?_foldl_insertPublicKey_of_mem {e : RsGxsId × RsTlvSecurityKey}
    (hid : publicKey.keyId = e.1) (hextract : GxsSecurity.extractPublicKey ssl e.2 = some publicKey)
    (hl : ∀ e' ∈ l, e'.2.keyId = e'.1) (hnodup : (l.map Prod.fst).Nodup) (he : e ∈ l)
    (hnew : publickeySet.keys.get? e.1 = none) :
  (l.foldl (insertPublicKey ssl) publickeySet).keys.get? e.1 = some publicKey
  := by
  induction l generalizing publickeySet with
  | nil => cases he
  | cons e' l ih =>
    rw [List.map_cons, List.nodup_cons] at hnodup
    rw [List.forall_mem_cons] at hl
    rw [List.foldl_cons]
    rcases List.mem_cons.1 he with rfl | he
    · apply get?_foldl_insertPublicKey
      rw [insertPublicKey, hextract]
      rw [RsTlvSecurityKeySet.get?_insertNew, hnew, Option.none_or, if_pos hid.symm]
    · apply ih hl.2 hnodup.2 he
      have hne : e.1 ≠ e'.1 := by
        intro heq
        apply hnodup.1
        rw [← heq]
        exact List.mem_map_of_mem he
      rw [insertPublicKey]
      cases hextract' : GxsSecurity.extractPublicKey ssl e'.2 with
      | none => exact hnew
      | some pubkey =>
        rw [RsTlvSecurityKeySet.get?_insertNew, hnew, Option.none_or, if_neg]
        rw [keyId_of_extractPublicKey hextract', hl.1]
        exact hne

theorem hasAdminKey_generatePublicFromPrivateKeys (h : OwnKeys rsa privateKeys) :
  HasAdminKey rsa privateKeys (generatePublicFromPrivateKeys ssl privateKeys)
  := by
  intro keyId key hkey hadmin
  have hid := RsTlvSecurityKeySet.keyId_eq hkey
  have hfull : key.keyFlags &&& rstlvKeyTypeFull ≠ 0 := by
    rw [isPrivateAdmin, Bool.and_eq_true] at hadmin
    exact of_decide_eq_true hadmin.2
  have hdata := h.keyData hkey hfull
  have hrsa := rsa.rsaKey_private key hfull (by rw [hid, hdata])
  obtain ⟨publicKey, hextract⟩ :
      ∃ publicKey, GxsSecurity.extractPublicKey ssl key = some publicKey := by
    rw [GxsSecurity.extractPublicKey, if_neg hfull, hrsa, Option.map_some]
    exact ⟨_, rfl⟩
  have hpublic := isPublicKey_of_extractPublicKey hid hdata hextract
  use publicKey
  constructor
  · apply get?_foldl_insertPublicKey_of_mem (e := (keyId, key)) hpublic.keyId hextract
    · exact privateKeys.keyed
    · rw [List.Nodup, List.pairwise_map]
      exact privateKeys.keys.sorted.imp fun h => h.ne
    · exact OrdMap.mem_toList.2 hkey
    · rfl
  · exact hpublic

end Own

end GenExchange
