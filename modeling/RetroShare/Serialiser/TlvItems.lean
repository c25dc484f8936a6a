import RetroShare.Lib.OrdMap
import RetroShare.Serialiser.TlvBase

/-!
# TLV items and containers

The decoders of `rstlvidset`, `rstlvfileitem`, `rstlvstring`, `rstlvkeys`, `rstlvdsdv`,
`rstlvbanlist`, `rstlvaddrs` and `rstlvlist`.  The loops of the containers take a number of
iterations `fuel`; a decoder that needs more has no value.
-/

namespace Serialiser

open Decoder

/-! ### Types -/

/-- `TLV_TYPE_UINT32_SIZE`. -/
def tlvTypeUInt32Size : Nat := 0x0030
/-- `TLV_TYPE_UINT32_POP`. -/
def tlvTypeUInt32Pop : Nat := 0x0031
/-- `TLV_TYPE_UINT32_AGE`. -/
def tlvTypeUInt32Age : Nat := 0x0032
/-- `TLV_TYPE_UINT32_SERID`. -/
def tlvTypeUInt32Serid : Nat := 0x0034
/-- `TLV_TYPE_STR_NAME`. -/
def tlvTypeStrName : Nat := 0x0051
/-- `TLV_TYPE_STR_PATH`. -/
def tlvTypeStrPath : Nat := 0x0052
/-- `TLV_TYPE_STR_COMMENT`. -/
def tlvTypeStrComment : Nat := 0x0055
/-- `TLV_TYPE_STR_TITLE`. -/
def tlvTypeStrTitle : Nat := 0x0056
/-- `TLV_TYPE_STR_GENID`. -/
def tlvTypeStrGenid : Nat := 0x005a
/-- `TLV_TYPE_STR_HASH_SHA1`. -/
def tlvTypeStrHashSha1 : Nat := 0x0070
/-- `TLV_TYPE_IPV4`. -/
def tlvTypeIpv4 : Nat := 0x0085
/-- `TLV_TYPE_IPV6`. -/
def tlvTypeIpv6 : Nat := 0x0086
/-- `TLV_TYPE_STR_GROUPID`. -/
def tlvTypeStrGroupid : Nat := 0x00a0
/-- `TLV_TYPE_STR_KEYID`. -/
def tlvTypeStrKeyid : Nat := 0x00a4
/-- `TLV_TYPE_KEY_EVP_PKEY`. -/
def tlvTypeKeyEvpPkey : Nat := 0x0110
/-- `TLV_TYPE_SIGN_RSA_SHA1`. -/
def tlvTypeSignRsaSha1 : Nat := 0x0120
/-- `TLV_TYPE_FILEITEM`. -/
def tlvTypeFileitem : Nat := 0x1000
/-- `TLV_TYPE_FILESET`. -/
def tlvTypeFileset : Nat := 0x1001
/-- `TLV_TYPE_HASHSET`. -/
def tlvTypeHashset : Nat := 0x1022
/-- `TLV_TYPE_SERVICESET`. -/
def tlvTypeServiceset : Nat := 0x1030
/-- `TLV_TYPE_SECURITYKEY`. -/
def tlvTypeSecuritykey : Nat := 0x1040
/-- `TLV_TYPE_SECURITYKEYSET`. -/
def tlvTypeSecuritykeyset : Nat := 0x1041
/-- `TLV_TYPE_KEYSIGNATURE`. -/
def tlvTypeKeysignature : Nat := 0x1050
/-- `TLV_TYPE_KEYSIGNATURESET`. -/
def tlvTypeKeysignatureset : Nat := 0x1051
/-- `TLV_TYPE_KEYSIGNATURETYPE`. -/
def tlvTypeKeysignaturetype : Nat := 0x1052
/-- `TLV_TYPE_ADDRESS_INFO`. -/
def tlvTypeAddressInfo : Nat := 0x1070
/-- `TLV_TYPE_ADDRESS_SET`. -/
def tlvTypeAddressSet : Nat := 0x1071
/-- `TLV_TYPE_ADDRESS`. -/
def tlvTypeAddress : Nat := 0x1072
/-- `TLV_TYPE_DSDV_ENDPOINT`. -/
def tlvTypeDsdvEndpoint : Nat := 0x1080
/-- `TLV_TYPE_DSDV_ENTRY`. -/
def tlvTypeDsdvEntry : Nat := 0x1081
/-- `TLV_TYPE_DSDV_ENTRY_SET`. -/
def tlvTypeDsdvEntrySet : Nat := 0x1082
/-- `TLV_TYPE_BAN_LIST`. -/
def tlvTypeBanList : Nat := 0x1091
/-- `TLV_TYPE_BAN_ENTRY`. -/
def tlvTypeBanEntry : Nat := 0x1092

variable (data : Memory)

/-- The loop `while ((*offset) + n < tlvend)` over the content of a container. -/
def contentLoop {α : Type} (l : Loop) (n tlvend : Nat) (body : α → Dec (Bool × α)) :
    Nat → Bool → α → Dec (Bool × α) :=
  loop (fun offset => add32 offset n < tlvend) (.enter l) (.leave l) body

/-- Fills a part of an object with what a decoder returns. -/
def fill {α β : Type} (x : Dec (Bool × α)) (set : α → β) : Dec (Bool × β) := do
  let r ← x
  pure (r.1, set r.2)

/-- Skips an item that is not known, and keeps the object. -/
def skip {α : Type} (tlvend : Nat) (v : α) : Dec (Bool × α) := do
  let ok ← skipUnknownTlv data tlvend
  pure (ok, v)

/-! ### Sets of ids -/

/-- The number whose bytes in network order are those of an id: ids of one size are in the
order of these numbers. -/
def idValue (id : List UInt8) : Nat := id.foldl (fun n b => n * 256 + b.toNat) 0

/-- A `std::set` of ids. -/
abbrev IdSet : Type := OrdMap Nat (List UInt8)

/-- `std::set::insert`. -/
def IdSet.add (ids : IdSet) (id : List UInt8) : IdSet := ids.insert (idValue id) id

/-- The body of the loop of `t_RsTlvIdSet::GetTlv`: an id is read only while `ok` holds, and
is inserted in any case. -/
def IdSet.getId (n tlvend : Nat) (v : Bool × IdSet) : Dec (Bool × Bool × IdSet) :=
  if v.1 then do
    let id ← deserialiseId data n tlvend (List.replicate n 0)
    pure (true, id.1, IdSet.add v.2 id.2)
  else
    pure (true, false, IdSet.add v.2 (List.replicate n 0))

/-- `t_RsTlvIdSet::GetTlv`, of ids of `n` bytes.  The loop ignores whether ids could be
read. -/
def rsTlvIdSetGetTlv (n type fuel size : Nat) (self : IdSet) : Dec (Bool × IdSet) :=
  withTlv data type size self fun tlvend => do
    let r ← loop (fun offset => add32 offset n ≤ tlvend) (.enter .idSet) (.leave .idSet)
      (IdSet.getId data n tlvend) fuel true (true, OrdMap.empty)
    let offset ← here
    pure (offset == tlvend, r.2.2)

/-! ### Files -/

/-- `SHA1_SIZE`. -/
def sha1Size : Nat := 20

/-- `RsTlvFileItem`. -/
structure RsTlvFileItem where
  filesize : Nat
  hash : List UInt8
  name : List UInt8
  path : List UInt8
  pop : Nat
  age : Nat
  piecesize : Nat
  hashset : IdSet

/-- `RsTlvFileItem::TlvClear`. -/
def RsTlvFileItem.cleared : RsTlvFileItem where
  filesize := 0
  hash := List.replicate sha1Size 0
  name := []
  path := []
  pop := 0
  age := 0
  piecesize := 0
  hashset := OrdMap.empty

/-- The body of the loop of `RsTlvFileItem::GetTlv`. -/
def RsTlvFileItem.getOptional (fuel tlvend : Nat) (self : RsTlvFileItem) :
    Dec (Bool × RsTlvFileItem) := do
  let offset ← here
  let tlvsubtype ← getTlvType data offset
  if tlvsubtype = tlvTypeStrName then
    fill (getTlvString data tlvend tlvTypeStrName self.name) fun v => { self with name := v }
  else if tlvsubtype = tlvTypeStrPath then
    fill (getTlvString data tlvend tlvTypeStrPath self.path) fun v => { self with path := v }
  else if tlvsubtype = tlvTypeUInt32Pop then
    fill (getTlvUInt32 data tlvend tlvTypeUInt32Pop self.pop) fun v => { self with pop := v }
  else if tlvsubtype = tlvTypeUInt32Age then
    fill (getTlvUInt32 data tlvend tlvTypeUInt32Age self.age) fun v => { self with age := v }
  else if tlvsubtype = tlvTypeUInt32Size then
    fill (getTlvUInt32 data tlvend tlvTypeUInt32Size self.piecesize)
      fun v => { self with piecesize := v }
  else if tlvsubtype = tlvTypeHashset then
    fill (rsTlvIdSetGetTlv data sha1Size tlvTypeHashset fuel tlvend self.hashset)
      fun v => { self with hashset := v }
  else
    skip data tlvend self

/-- `RsTlvFileItem::GetTlv`: it does not check that there is room for a header. -/
def RsTlvFileItem.getTlv (fuel size : Nat) (self : RsTlvFileItem) : Dec (Bool × RsTlvFileItem) :=
  withTlvHeader data tlvTypeFileitem size self <| closeTlv fun tlvend => do
    let filesize ← getRawUInt64 data tlvend 0
    let hash ← deserialiseId data sha1Size tlvend RsTlvFileItem.cleared.hash
    contentLoop .fileItem 2 tlvend (RsTlvFileItem.getOptional data fuel tlvend) fuel
      (filesize.1 && hash.1)
      { RsTlvFileItem.cleared with filesize := filesize.2, hash := hash.2 }

/-- `RsTlvFileSet`. -/
structure RsTlvFileSet where
  title : List UInt8
  comment : List UInt8
  items : List RsTlvFileItem

/-- The body of the loop of `RsTlvFileSet::GetTlv`.  File items are decoded with the size of
the buffer, not with the end of the set. -/
def RsTlvFileSet.getSub (fuel size tlvend : Nat) (self : RsTlvFileSet) :
    Dec (Bool × RsTlvFileSet) := do
  let offset ← here
  let tlvsubtype ← getTlvType data offset
  if tlvsubtype = tlvTypeFileitem then do
    let newitem ← RsTlvFileItem.getTlv data fuel size RsTlvFileItem.cleared
    if newitem.1 then
      pure (true, { self with items := self.items ++ [newitem.2] })
    else
      pure (false, self)
  else if tlvsubtype = tlvTypeStrTitle then
    fill (getTlvString data tlvend tlvTypeStrTitle self.title) fun v => { self with title := v }
  else if tlvsubtype = tlvTypeStrComment then
    fill (getTlvString data tlvend tlvTypeStrComment self.comment)
      fun v => { self with comment := v }
  else
    skip data tlvend self

/-- `RsTlvFileSet::GetTlv`. -/
def RsTlvFileSet.getTlv (fuel size : Nat) (self : RsTlvFileSet) : Dec (Bool × RsTlvFileSet) :=
  withTlv data tlvTypeFileset size self <| closeTlv fun tlvend =>
    contentLoop .fileSet 2 tlvend (RsTlvFileSet.getSub data fuel size tlvend) fuel true ⟨[], [], []⟩

/-! ### Services and strings -/

/-- The body of the loop of `RsTlvServiceIdSet::GetTlv`. -/
def rsTlvServiceIdSetGetSub (tlvend : Nat) (ids : List Nat) : Dec (Bool × List Nat) := do
  let offset ← here
  let tlvsubtype ← getTlvType data offset
  if tlvsubtype = tlvTypeUInt32Serid then do
    let newIds ← getTlvUInt32 data tlvend tlvTypeUInt32Serid 0
    pure (newIds.1, if newIds.1 then ids ++ [newIds.2] else ids)
  else
    skip data tlvend ids

/-- `RsTlvServiceIdSet::GetTlv`. -/
def rsTlvServiceIdSetGetTlv (fuel size : Nat) (self : List Nat) : Dec (Bool × List Nat) :=
  withTlv data tlvTypeServiceset size self <| closeTlv fun tlvend =>
    contentLoop .serviceIdSet 2 tlvend (rsTlvServiceIdSetGetSub data tlvend) fuel true []

/-- `RsTlvStringSet`. -/
structure RsTlvStringSet where
  mType : Nat
  ids : List (List UInt8)
  deriving DecidableEq, Repr

/-- The body of the loop of `RsTlvStringSet::GetTlv`. -/
def RsTlvStringSet.getSub (tlvend : Nat) (self : RsTlvStringSet) :
    Dec (Bool × RsTlvStringSet) := do
  let offset ← here
  let tlvsubtype ← getTlvType data offset
  if tlvsubtype = tlvTypeStrGenid then do
    let newIds ← getTlvString data tlvend tlvTypeStrGenid []
    pure (newIds.1, if newIds.1 then { self with ids := self.ids ++ [newIds.2] } else self)
  else
    skip data tlvend self

/-- `RsTlvStringSet::GetTlv`. -/
def RsTlvStringSet.getTlv (fuel size : Nat) (self : RsTlvStringSet) :
    Dec (Bool × RsTlvStringSet) :=
  withTlv data self.mType size self <| closeTlv fun tlvend =>
    contentLoop .stringSet 2 tlvend (RsTlvStringSet.getSub data tlvend) fuel true
      { self with ids := [] }

/-! ### Keys and signatures -/

/-- `CERT_SIGN_LEN`, the size of a `RsGxsId`. -/
def certSignLen : Nat := 16

/-- The value of a hexadecimal digit. -/
def hexDigit (b : UInt8) : Option Nat :=
  if 0x41 ≤ b.toNat ∧ b.toNat ≤ 0x46 then some (b.toNat - 0x41 + 10)
  else if 0x61 ≤ b.toNat ∧ b.toNat ≤ 0x66 then some (b.toNat - 0x61 + 10)
  else if 0x30 ≤ b.toNat ∧ b.toNat ≤ 0x39 then some (b.toNat - 0x30)
  else none

/-- The bytes that pairs of hexadecimal digits stand for. -/
def hexBytes : List UInt8 → Option (List UInt8)
  | [] => some []
  | [_] => none
  | a :: b :: s => do
      let hi ← hexDigit a
      let lo ← hexDigit b
      let rest ← hexBytes s
      pure (UInt8.ofNat (hi * 16 + lo) :: rest)

/-- `RsGxsId(s)`: the id that a hexadecimal string stands for, the null id when it stands for
none. -/
def rsGxsId (s : List UInt8) : List UInt8 :=
  if s.length = 2 * certSignLen then (hexBytes s).getD (List.replicate certSignLen 0)
  else List.replicate certSignLen 0

/-- `RsTlvSecurityKey`. -/
structure RsTlvSecurityKey where
  keyId : List UInt8
  keyFlags : Nat
  startTS : Nat
  endTS : Nat
  keyData : RsTlvBinaryData
  deriving DecidableEq, Repr

/-- `RsTlvSecurityKey::RsTlvSecurityKey`. -/
def RsTlvSecurityKey.new : RsTlvSecurityKey where
  keyId := List.replicate certSignLen 0
  keyFlags := 0
  startTS := 0
  endTS := 0
  keyData := ⟨tlvTypeKeyEvpPkey, []⟩

/-- `RsTlvSecurityKey::GetTlv`. -/
def RsTlvSecurityKey.getTlv (size : Nat) (self : RsTlvSecurityKey) :
    Dec (Bool × RsTlvSecurityKey) :=
  withTlv data tlvTypeSecuritykey size self <| closeTlv fun tlvend => do
    let s ← getTlvString data tlvend tlvTypeStrKeyid []
    let keyFlags ← getRawUInt32 data tlvend 0
    let startTS ← getRawUInt32 data tlvend 0
    let endTS ← getRawUInt32 data tlvend 0
    let keyData ← RsTlvBinaryData.getTlv data ⟨self.keyData.tlvtype, []⟩ tlvend
    pure (s.1 && keyFlags.1 && startTS.1 && endTS.1 && keyData.1,
      ⟨rsGxsId s.2, keyFlags.2, startTS.2, endTS.2, keyData.2⟩)

/-- `RsTlvSecurityKeySet`. -/
structure RsTlvSecurityKeySet where
  groupId : List UInt8
  keys : OrdMap Nat RsTlvSecurityKey

/-- The body of the loop of `RsTlvSecurityKeySet::GetTlv`.  Keys are decoded with the size of
the buffer, and a key counts as a success only together with the group id: `ok` is what came
before. -/
def RsTlvSecurityKeySet.getSub (ok : Bool) (size tlvend : Nat) (self : RsTlvSecurityKeySet) :
    Dec (Bool × RsTlvSecurityKeySet) := do
  let offset ← here
  let tlvsubtype ← getTlvType data offset
  if tlvsubtype = tlvTypeSecuritykey then do
    let key ← RsTlvSecurityKey.getTlv data size RsTlvSecurityKey.new
    if ok && key.1 then
      pure (true, { self with keys := self.keys.insert (idValue key.2.keyId) key.2 })
    else
      pure (false, self)
  else
    skip data tlvend self

/-- `RsTlvSecurityKeySet::GetTlv`. -/
def RsTlvSecurityKeySet.getTlv (fuel size : Nat) (self : RsTlvSecurityKeySet) :
    Dec (Bool × RsTlvSecurityKeySet) :=
  withTlv data tlvTypeSecuritykeyset size self <| closeTlv fun tlvend => do
    let groupId ← getTlvString data tlvend tlvTypeStrGroupid []
    contentLoop .securityKeySet 2 tlvend
      (RsTlvSecurityKeySet.getSub data groupId.1 size tlvend) fuel groupId.1
      ⟨groupId.2, OrdMap.empty⟩

/-- `RsTlvKeySignature`. -/
structure RsTlvKeySignature where
  keyId : List UInt8
  signData : RsTlvBinaryData
  deriving DecidableEq, Repr

/-- `RsTlvKeySignature::RsTlvKeySignature`. -/
def RsTlvKeySignature.new : RsTlvKeySignature where
  keyId := List.replicate certSignLen 0
  signData := ⟨tlvTypeSignRsaSha1, []⟩

/-- `RsTlvKeySignature::GetTlv`. -/
def RsTlvKeySignature.getTlv (size : Nat) (self : RsTlvKeySignature) :
    Dec (Bool × RsTlvKeySignature) :=
  withTlv data tlvTypeKeysignature size self <| closeTlv fun tlvend => do
    let s ← getTlvString data tlvend tlvTypeStrKeyid []
    let signData ← RsTlvBinaryData.getTlv data ⟨self.signData.tlvtype, []⟩ tlvend
    pure (s.1 && signData.1, ⟨rsGxsId s.2, signData.2⟩)

/-- The body of the loop of `RsTlvKeySignatureSet::GetTlv`.  A signature is stored under the
variable `currType` of its own iteration, which nothing has set: `currType` is whatever it
holds. -/
def rsTlvKeySignatureSetGetSub (currType size tlvend : Nat)
    (keySignSet : OrdMap Nat RsTlvKeySignature) :
    Dec (Bool × OrdMap Nat RsTlvKeySignature) := do
  let offset ← here
  let tlvsubtype ← getTlvType data offset
  if tlvsubtype = tlvTypeKeysignature then do
    let sign ← RsTlvKeySignature.getTlv data size RsTlvKeySignature.new
    pure (sign.1, if sign.1 then keySignSet.insert currType sign.2 else keySignSet)
  else if tlvsubtype = tlvTypeKeysignaturetype then do
    let signType ← getTlvUInt32 data size tlvTypeKeysignaturetype 0
    pure (signType.1, keySignSet)
  else
    skip data tlvend keySignSet

/-- `RsTlvKeySignatureSet::GetTlv`. -/
def rsTlvKeySignatureSetGetTlv (currType fuel size : Nat)
    (self : OrdMap Nat RsTlvKeySignature) : Dec (Bool × OrdMap Nat RsTlvKeySignature) :=
  withTlv data tlvTypeKeysignatureset size self <| closeTlv fun tlvend =>
    contentLoop .keySignatureSet 2 tlvend
      (rsTlvKeySignatureSetGetSub data currType size tlvend) fuel true OrdMap.empty

/-! ### Entries of lists -/

/-- `RsTlvDsdvEndPoint`. -/
structure RsTlvDsdvEndPoint where
  idType : Nat
  anonChunk : List UInt8
  serviceId : List UInt8
  deriving DecidableEq, Repr

/-- `RsTlvDsdvEndPoint::GetTlv`. -/
def RsTlvDsdvEndPoint.getTlv (size : Nat) (self : RsTlvDsdvEndPoint) :
    Dec (Bool × RsTlvDsdvEndPoint) :=
  withTlv data tlvTypeDsdvEndpoint size self <| closeTlv fun tlvend => do
    let idType ← getRawUInt32 data tlvend 0
    let anonChunk ← getTlvString data tlvend tlvTypeStrGenid []
    let serviceId ← getTlvString data tlvend tlvTypeStrHashSha1 []
    pure (idType.1 && anonChunk.1 && serviceId.1, ⟨idType.2, anonChunk.2, serviceId.2⟩)

/-- `RsTlvDsdvEntry`. -/
structure RsTlvDsdvEntry where
  endPoint : RsTlvDsdvEndPoint
  sequence : Nat
  distance : Nat
  deriving DecidableEq, Repr

/-- `RsTlvDsdvEntry::RsTlvDsdvEntry`. -/
def RsTlvDsdvEntry.new : RsTlvDsdvEntry := ⟨⟨0, [], []⟩, 0, 0⟩

/-- `RsTlvDsdvEntry::GetTlv`.  The end point is decoded with the size of the buffer. -/
def RsTlvDsdvEntry.getTlv (size : Nat) (self : RsTlvDsdvEntry) : Dec (Bool × RsTlvDsdvEntry) :=
  withTlv data tlvTypeDsdvEntry size self <| closeTlv fun tlvend => do
    let endPoint ← RsTlvDsdvEndPoint.getTlv data size ⟨0, [], []⟩
    let sequence ← getRawUInt32 data tlvend 0
    let distance ← getRawUInt32 data tlvend 0
    pure (endPoint.1 && sequence.1 && distance.1, ⟨endPoint.2, sequence.2, distance.2⟩)

/-- `RsTlvIpAddress::GetTlv`.  An empty address is the cleared one. -/
def rsTlvIpAddressGetTlv (size : Nat) (self : SockAddr) : Dec (Bool × SockAddr) :=
  withTlv data tlvTypeAddress size self <| closeTlv fun tlvend => do
    let offset ← here
    if offset = tlvend then
      pure (true, ⟨0, [], 0⟩)
    else do
      let iptype ← getTlvType data offset
      if iptype = tlvTypeIpv4 then
        getTlvIpAddrPortV4 data tlvend tlvTypeIpv4 ⟨0, [], 0⟩
      else if iptype = tlvTypeIpv6 then
        getTlvIpAddrPortV6 data tlvend tlvTypeIpv6 ⟨0, [], 0⟩
      else
        pure (true, ⟨0, [], 0⟩)

/-- `RsTlvBanListEntry`. -/
structure RsTlvBanListEntry where
  addr : SockAddr
  level : Nat
  reason : Nat
  age : Nat
  maskedBytes : Nat
  comment : List UInt8
  deriving DecidableEq, Repr

/-- `RsTlvBanListEntry::TlvClear`. -/
def RsTlvBanListEntry.cleared : RsTlvBanListEntry := ⟨⟨0, [], 0⟩, 0, 0, 0, 0, []⟩

/-- `RsTlvBanListEntry::GetTlv`. -/
def RsTlvBanListEntry.getTlv (size : Nat) (self : RsTlvBanListEntry) :
    Dec (Bool × RsTlvBanListEntry) :=
  withTlv data tlvTypeBanEntry size self <| closeTlv fun tlvend => do
    let addr ← rsTlvIpAddressGetTlv data tlvend ⟨0, [], 0⟩
    let level ← getRawUInt32 data tlvend 0
    let reason ← getRawUInt32 data tlvend 0
    let age ← getRawUInt32 data tlvend 0
    let tmp ← getRawUInt8 data tlvend 0
    let comment ← getTlvString data tlvend tlvTypeStrComment []
    pure (addr.1 && level.1 && reason.1 && age.1 && tmp.1 && comment.1,
      ⟨addr.2, level.2, reason.2, age.2, tmp.2, comment.2⟩)

/-- `RsTlvIpAddressInfo`. -/
structure RsTlvIpAddressInfo where
  addr : SockAddr
  seenTime : Nat
  source : Nat
  deriving DecidableEq, Repr

/-- `RsTlvIpAddressInfo::TlvClear`. -/
def RsTlvIpAddressInfo.cleared : RsTlvIpAddressInfo := ⟨⟨0, [], 0⟩, 0, 0⟩

/-- `RsTlvIpAddressInfo::GetTlv`. -/
def RsTlvIpAddressInfo.getTlv (size : Nat) (self : RsTlvIpAddressInfo) :
    Dec (Bool × RsTlvIpAddressInfo) :=
  withTlv data tlvTypeAddressInfo size self <| closeTlv fun tlvend => do
    let addr ← rsTlvIpAddressGetTlv data tlvend ⟨0, [], 0⟩
    let seenTime ← getRawUInt64 data tlvend 0
    let source ← getRawUInt32 data tlvend 0
    pure (addr.1 && seenTime.1 && source.1, ⟨addr.2, seenTime.2, source.2⟩)

/-- `t_RsTlvList::GetTlv`, of items that start as `new` and are decoded by `getTlv`. -/
def rsTlvListGetTlv {α : Type} (getTlv : Nat → α → Dec (Bool × α)) (new : α)
    (type fuel size : Nat) (self : List α) : Dec (Bool × List α) :=
  withTlv data type size self fun tlvend => do
    let r ← contentLoop .tlvList 6 tlvend
      (fun mList => do
        let item ← getTlv tlvend new
        pure (item.1, if item.1 then mList ++ [item.2] else mList))
      fuel true []
    let offset ← here
    pure (offset == tlvend, r.2)

/-- `RsTlvDsdvEntrySet::GetTlv`. -/
def rsTlvDsdvEntrySetGetTlv : Nat → Nat → List RsTlvDsdvEntry → Dec (Bool × List RsTlvDsdvEntry) :=
  rsTlvListGetTlv data (RsTlvDsdvEntry.getTlv data) RsTlvDsdvEntry.new tlvTypeDsdvEntrySet

/-- `RsTlvBanList::GetTlv`. -/
def rsTlvBanListGetTlv :
    Nat → Nat → List RsTlvBanListEntry → Dec (Bool × List RsTlvBanListEntry) :=
  rsTlvListGetTlv data (RsTlvBanListEntry.getTlv data) RsTlvBanListEntry.cleared tlvTypeBanList

/-- `RsTlvIpAddrSet::GetTlv`. -/
def rsTlvIpAddrSetGetTlv :
    Nat → Nat → List RsTlvIpAddressInfo → Dec (Bool × List RsTlvIpAddressInfo) :=
  rsTlvListGetTlv data (RsTlvIpAddressInfo.getTlv data) RsTlvIpAddressInfo.cleared
    tlvTypeAddressSet

end Serialiser
