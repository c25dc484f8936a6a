import RetroShare.Serialiser.Containers

/-!
# Sets of key signatures

`RsTlvKeySignatureSet::SetTlv` writes every signature behind its type, and `GetTlv` reads the two in
two iterations of its loop.  The type is kept in a variable that every iteration declares anew, so a
signature is stored under whatever this variable holds: only the empty set is read back whatever
that is (`roundTrips_all_iff`), and every set is where the variable holds the type that has just
been read (`roundTrips_of_holds`).
-/

namespace Serialiser

open Decoder Encoder
open GRouter (setRaw HasBytes)

/-! ### Encoders -/

variable (self : RsTlvKeySignature) {sign : RsTlvKeySignature}

/-- `keyId.toStdString()`. -/
def RsTlvKeySignature.keyIdString : List UInt8 :=
  GRouter.toStdString (2 * certSignLen) (idValue self.keyId)

/-- `RsTlvKeySignature::TlvSize`. -/
def RsTlvKeySignature.tlvSize : Nat :=
  sum32 [tlvHeaderSize, getTlvStringSize self.keyIdString, self.signData.tlvSize]

/-- `RsTlvKeySignature::SetTlv`. -/
def RsTlvKeySignature.setTlv (size : Nat) : Encoder :=
  Serialiser.setTlv size self.tlvSize tlvTypeKeysignature fun tlvend => all [
    setTlvString tlvend tlvTypeStrKeyid self.keyIdString,
    self.signData.setTlv tlvend]

/-- `RsTlvKeySignatureSet`. -/
abbrev RsTlvKeySignatureSet : Type := OrdMap Nat RsTlvKeySignature

namespace RsTlvKeySignatureSet

/-- `RsTlvKeySignatureSet::TlvSize`. -/
def tlvSize (self : RsTlvKeySignatureSet) : Nat :=
  sum32 (tlvHeaderSize :: self.toList.flatMap fun e => [getTlvUInt32Size, e.2.tlvSize])

/-- `RsTlvKeySignatureSet::SetTlv`: the types and the signatures have room up to the end of the
buffer. -/
def setTlv (self : RsTlvKeySignatureSet) (size : Nat) : Encoder :=
  Serialiser.setTlv size self.tlvSize tlvTypeKeysignatureset fun _ =>
    all (self.toList.flatMap fun e =>
      [setTlvUInt32 size tlvTypeKeysignaturetype e.1, e.2.setTlv size])

/-- `RsTlvKeySignatureSet::GetTlv`, where the variable `currType` of the iteration that starts at
the offset `p` holds `currType p`. -/
def getTlv (data : Memory) (currType : Nat → Nat) (fuel size : Nat) (self : RsTlvKeySignatureSet) :
    Dec (Bool × RsTlvKeySignatureSet) :=
  withTlv data tlvTypeKeysignatureset size self <| closeTlv fun tlvend =>
    contentLoop .keySignatureSet 2 tlvend
      (fun v => do
        let offset ← here
        rsTlvKeySignatureSetGetSub data (currType offset) size tlvend v) fuel true OrdMap.empty

end RsTlvKeySignatureSet

/-! ### Signatures -/

/-- The content of a signature. -/
def RsTlvKeySignature.parts : List Part32 := [
  .string tlvTypeStrKeyid self.keyIdString,
  .binary self.signData]

/-- A signature, as it is written. -/
def RsTlvKeySignature.toBytes : List UInt8 :=
  tlvBytes tlvTypeKeysignature (Component.bytesOf self.parts)

theorem hasSize_binary (data : RsTlvBinaryData) :
  (Part32.binary data).HasSize data.tlvSize
  := by
  rw [Part32.HasSize, Part32.bytes_binary, length_tlvBytes, RsTlvBinaryData.tlvSize, add32,
    Nat.mod_mod]

theorem RsTlvKeySignature.tlvSize_eq (self : RsTlvKeySignature) :
  self.tlvSize = self.toBytes.length % 2 ^ 32
  := by
  rw [toBytes, length_tlvBytes]
  apply sum32_eq_of_hasSize
  apply List.Forall₂.cons (hasSize_string _ _)
  apply List.Forall₂.cons (hasSize_binary _)
  exact List.Forall₂.nil

theorem RsTlvKeySignature.writes_setTlv (self : RsTlvKeySignature) (size p : Nat)
    (hroom : p + self.toBytes.length ≤ size) (hsize : size < 2 ^ 32) :
  Writes (self.setTlv size) p self.toBytes
  := by
  have hlength := length_tlvBytes tlvTypeKeysignature (Component.bytesOf self.parts)
  rw [← toBytes] at hlength
  have htlvsize : self.tlvSize = self.toBytes.length := by
    rw [tlvSize_eq, Nat.mod_eq_of_lt (by omega)]
  have hparts : Writes (Component.setAll self.parts (p + self.tlvSize)) (p + tlvHeaderSize)
      (Component.bytesOf self.parts) :=
    Component.writes_parts (by omega) self.parts _ (by omega)
  apply Serialiser.writes_setTlv (htlvsize.trans hlength) (by omega) hsize
  simpa only [Component.setAll, parts, List.map_cons, List.map_nil, Part32.set_string,
    Part32.set_binary] using hparts

/-- `RsTlvKeySignature::SetTlv`, as a part. -/
def Part32.signature (sign : RsTlvKeySignature) : Part32 where
  bytes := sign.toBytes
  set := sign.setTlv
  writes := sign.writes_setTlv

/-- The values that a signature can have: the id of its key has 16 bytes, and the data has the type
that the constructor gives it. -/
structure RsTlvKeySignature.Valid (sign : RsTlvKeySignature) : Prop where
  keyId : sign.keyId.length = certSignLen
  signData : sign.signData.tlvtype = tlvTypeSignRsaSha1

theorem RsTlvKeySignature.rsGxsId_keyIdString (h : sign.Valid) :
  rsGxsId (sanitise tlvTypeStrKeyid sign.keyIdString) = sign.keyId
  := by
  rw [keyIdString, show 2 * certSignLen = 32 from rfl, GRouter.sanitise_toStdString,
    GRouter.rsGxsId_toStdString]
  have hid := setRaw_idValue sign.keyId
  rwa [h.keyId] at hid

theorem reads_signature (h : sign.Valid) :
  Reads (fun data size => RsTlvKeySignature.getTlv data size RsTlvKeySignature.new) sign.toBytes
    sign
  := by
  have hkeyId := sign.rsGxsId_keyIdString h
  obtain ⟨keyId, tlvtype, binData⟩ := sign
  obtain rfl : tlvtype = tlvTypeSignRsaSha1 := h.signData
  apply reads_withTlv (by decide)
  apply (reads_getTlvString (by decide) _ _).cons
  apply (reads_binaryData (by decide) _ _).cons
  simp only [hkeyId]
  exact Reads.nil _

/-! ### Sets -/

namespace RsTlvKeySignatureSet

/-- The content of a set. -/
def parts (self : RsTlvKeySignatureSet) : List Part32 :=
  self.toList.flatMap fun e =>
    [.tlvUInt32 tlvTypeKeysignaturetype e.1, .signature e.2]

/-- A set, as it is written. -/
def toBytes (self : RsTlvKeySignatureSet) : List UInt8 :=
  tlvBytes tlvTypeKeysignatureset (Component.bytesOf self.parts)

/-- The values that a set can have: the types are 32-bit numbers. -/
def Valid (self : RsTlvKeySignatureSet) : Prop :=
  ∀ e ∈ self.toList, e.1 < 2 ^ 32 ∧ e.2.Valid

variable (self : RsTlvKeySignatureSet) {size c p : Nat} (currType : Nat → Nat)

theorem tlvSize_eq :
  self.tlvSize = self.toBytes.length % 2 ^ 32
  := by
  rw [toBytes, length_tlvBytes]
  apply sum32_eq_of_hasSize
  have hsizes : ∀ l : List (Nat × RsTlvKeySignature), List.Forall₂ Part32.HasSize
      (l.flatMap fun e => [getTlvUInt32Size, e.2.tlvSize])
      (l.flatMap fun e =>
        [Part32.tlvUInt32 tlvTypeKeysignaturetype e.1, Part32.signature e.2]) := by
    intro l
    induction l with
    | nil => exact List.Forall₂.nil
    | cons e l ih =>
      rw [List.flatMap_cons, List.flatMap_cons]
      apply List.Forall₂.cons (hasSize_tlvUInt32 _ _)
      apply List.Forall₂.cons _ ih
      rw [Part32.HasSize, RsTlvKeySignature.tlvSize_eq, Nat.mod_mod]
      rfl
  exact hsizes self.toList

theorem writes_setTlv (hroom : p + self.toBytes.length ≤ size) (hsize : size < 2 ^ 32) :
  Writes (self.setTlv size) p self.toBytes
  := by
  have hlength := length_tlvBytes tlvTypeKeysignatureset (Component.bytesOf self.parts)
  rw [← toBytes] at hlength
  have htlvsize : self.tlvSize = self.toBytes.length := by
    rw [tlvSize_eq, Nat.mod_eq_of_lt (by omega)]
  have hall : (all (self.toList.flatMap fun e =>
      [setTlvUInt32 size tlvTypeKeysignaturetype e.1, e.2.setTlv size])) =
      Component.setAll self.parts size := by
    rw [Component.setAll, parts, List.map_flatMap]
    rfl
  apply Serialiser.writes_setTlv (htlvsize.trans hlength) (by omega) hsize
  rw [hall]
  apply Component.writes_parts hsize
  omega

/-- The sub-item of a type. -/
def typeEntry (signType : Nat) : Entry RsTlvKeySignatureSet :=
  .tlv tlvTypeKeysignaturetype (setRaw 4 signType) id fun _ => True

/-- The sub-item of a signature, which is stored under `key`: the variable has to hold `key` in the
iteration that reads it. -/
def signEntry (currType : Nat → Nat) (key : Nat) (sign : RsTlvKeySignature) :
    Entry RsTlvKeySignatureSet :=
  .tlv tlvTypeKeysignature (Component.bytesOf sign.parts) (fun v => v.insert key sign)
    fun q => currType (q - sign.toBytes.length) = key

/-- The sub-items of a set, whose signatures are stored under `key` of their types. -/
def entries (currType : Nat → Nat) (key : Nat → Nat) (l : List (Nat × RsTlvKeySignature)) :
    List (Entry RsTlvKeySignatureSet) :=
  l.flatMap fun e => [typeEntry e.1, signEntry currType (key e.1) e.2]

theorem bytesOf_entries (currType key : Nat → Nat) (self : RsTlvKeySignatureSet) :
  Entry.bytesOf (entries currType key self.toList) = Component.bytesOf self.parts
  := by
  rw [Entry.bytesOf, entries, List.flatMap_assoc, Component.bytesOf, parts, List.flatMap_assoc]
  rfl

section Read

variable {data : Memory} {currType key : Nat → Nat} {size tlvend p q fuel : Nat}
  {r : Bool × RsTlvKeySignatureSet} {self v : RsTlvKeySignatureSet}

theorem returns_getSub_iff {type : Nat} (htype : data.be16 p = type) :
  Returns (rsTlvKeySignatureSetGetSub data c size tlvend v) p r q ↔
    Returns (if type = tlvTypeKeysignature then do
      let sign ← RsTlvKeySignature.getTlv data size RsTlvKeySignature.new
      pure (sign.1, if sign.1 then v.insert c sign.2 else v)
    else if type = tlvTypeKeysignaturetype then do
      let signType ← getTlvUInt32 data size tlvTypeKeysignaturetype 0
      pure (signType.1, v)
    else
      skip data tlvend v) p r q
  := by
  subst htype
  rw [rsTlvKeySignatureSetGetSub, returns_bind_iff_of_returns (returns_here p),
    returns_bind_iff_of_returns (GRouter.returns_getTlvType data p p)]

/-- The body of the loop. -/
def body (data : Memory) (currType : Nat → Nat) (size tlvend : Nat) (v : RsTlvKeySignatureSet) :
    Dec (Bool × RsTlvKeySignatureSet) := do
  let offset ← here
  rsTlvKeySignatureSetGetSub data (currType offset) size tlvend v

theorem returns_body_iff :
  Returns (body data currType size tlvend v) p r q ↔
    Returns (rsTlvKeySignatureSetGetSub data (currType p) size tlvend v) p r q
  := returns_bind_iff_of_returns (returns_here p)

theorem readIfFits_typeEntry {signType : Nat} (htype : signType < 2 ^ 32) (hend : tlvend ≤ size)
    (hsize : size < 2 ^ 32) :
  (typeEntry signType).ReadIfFits data tlvend (body data currType size tlvend)
  := by
  intro p v hbytes hroom _
  obtain ⟨haccepted, -⟩ := header_of_hasBytes (by decide) hbytes hroom (by omega)
  rw [returns_body_iff, returns_getSub_iff haccepted.2]
  exact (reads_getTlvUInt32 (by decide) htype 0 data size p hbytes (hroom.trans hend) hsize).bind
    (returns_pure _ _)

theorem readIfFits_signEntry {k : Nat} (h : sign.Valid) (hend : tlvend ≤ size)
    (hsize : size < 2 ^ 32) :
  (signEntry currType k sign).ReadIfFits data tlvend (body data currType size tlvend)
  := by
  intro p v hbytes hroom hfits
  obtain ⟨haccepted, -⟩ := header_of_hasBytes (by decide) hbytes hroom (by omega)
  have hkey : currType p = k := by
    change currType (p + sign.toBytes.length - sign.toBytes.length) = k at hfits
    rwa [Nat.add_sub_cancel] at hfits
  rw [returns_body_iff, returns_getSub_iff haccepted.2, hkey]
  exact (reads_signature h data size p hbytes (hroom.trans hend) hsize).bind (returns_pure _ _)

theorem readIfFits_entries (h : self.Valid) (hend : tlvend ≤ size) (hsize : size < 2 ^ 32) :
  ∀ e ∈ entries currType key self.toList,
    e.ReadIfFits data tlvend (body data currType size tlvend)
  := by
  intro e he
  simp only [entries, List.mem_flatMap, List.mem_cons, List.not_mem_nil, or_false] at he
  obtain ⟨e', he', rfl | rfl⟩ := he
  · exact readIfFits_typeEntry (h e' he').1 hend hsize
  · exact readIfFits_signEntry (h e' he').2 hend hsize

theorem returns_body_of_zero (hlim : tlvend < 2 ^ 32) (hwrap : 2 ^ 32 ≤ tlvend + 2)
    (hzero : ∀ a, tlvend ≤ a → data a = 0) (v : RsTlvKeySignatureSet) :
  Returns (body data currType size tlvend v) tlvend (true, v) tlvend
  := by
  have htype : data.be16 tlvend = 0 := by
    simp [Memory.be16, hzero]
  rw [returns_body_iff, returns_getSub_iff htype]
  exact returns_skip_of_zero hlim hwrap hzero v

theorem returns_getTlv_iff (hbytes : HasBytes data p self.toBytes)
    (hroom : p + self.toBytes.length ≤ size) (hsize : size < 2 ^ 32) (old : RsTlvKeySignatureSet) :
  Returns (getTlv data currType fuel size old) p r q ↔
    q = p + self.toBytes.length ∧
      ∃ q', Returns (contentLoop .keySignatureSet 2 (p + self.toBytes.length)
        (body data currType size (p + self.toBytes.length)) fuel true OrdMap.empty)
        (p + tlvHeaderSize) r q'
  := by
  rw [getTlv, toBytes, returns_withTlv_iff (by decide) hbytes hroom hsize, returns_closeTlv_iff]
  exact Iff.rfl

/-- A set is read with its signatures under the keys that the variable holds. -/
theorem returns_getTlv (h : self.Valid) (hbytes : HasBytes data p self.toBytes)
    (hroom : p + self.toBytes.length ≤ size) (hsize : size < 2 ^ 32)
    (hlast : p + self.toBytes.length + 2 < 2 ^ 32) (hfuel : size ≤ fuel)
    (hfit : Entry.FitFrom (p + tlvHeaderSize) (entries currType key self.toList))
    (old : RsTlvKeySignatureSet) :
  Returns (getTlv data currType fuel size old) p
    (true, Entry.updateAll (entries currType key self.toList) OrdMap.empty)
    (p + self.toBytes.length)
  := by
  have hcount := Entry.length_le (entries currType key self.toList)
  have hlength : self.toBytes.length = tlvHeaderSize +
      (Entry.bytesOf (entries currType key self.toList)).length := by
    rw [toBytes, length_tlvBytes, bytesOf_entries]
  have hcontent := hasBytes_content hbytes
  rw [← bytesOf_entries currType key] at hcontent
  apply (returns_getTlv_iff hbytes hroom hsize old).mpr
  refine ⟨rfl, p + self.toBytes.length, ?_⟩
  apply Entry.returns_contentLoop hlast _ _ (readIfFits_entries h hroom hsize) hcontent (by omega)
    hfit
  omega

end Read

/-! ### Round trip -/

/-- In every iteration that reads a signature of a set whose content starts at `p`, the variable
holds the type of this signature. -/
def HoldsTypes (currType : Nat → Nat) : Nat → List (Nat × RsTlvKeySignature) → Prop
  | _, [] => True
  | p, e :: l =>
      currType (p + getTlvUInt32Size) = e.1 ∧
        HoldsTypes currType (p + getTlvUInt32Size + e.2.toBytes.length) l

/-- `SetTlv` writes exactly `TlvSize()` bytes at `p` into a buffer of `size` bytes, and `GetTlv`
reads the set back from these bytes and moves behind them, when its variable holds `currType`. -/
def RoundTrips (self : RsTlvKeySignatureSet) (currType : Nat → Nat) (size p : Nat) : Prop :=
  self.toBytes.length = self.tlvSize ∧ Writes (self.setTlv size) p self.toBytes ∧
    ∀ (data : Memory) (n : Nat) (old : RsTlvKeySignatureSet), HasBytes data p self.toBytes →
      p + self.tlvSize ≤ n → n < 2 ^ 32 →
      ∃ enough, ∀ fuel ≥ enough,
        Returns (getTlv data currType fuel n old) p (true, self) (p + self.tlvSize)

theorem fitFrom_entries_iff (p : Nat) (l : List (Nat × RsTlvKeySignature)) :
  Entry.FitFrom p (entries currType id l) ↔ HoldsTypes currType p l
  := by
  induction l generalizing p with
  | nil => exact Iff.rfl
  | cons e l ih =>
    have hlength : (typeEntry e.1).bytes.length = getTlvUInt32Size := by
      rw [typeEntry, Entry.tlv, length_tlvBytes, GRouter.length_setRaw, getTlvUInt32Size]
    have hsign : (signEntry currType e.1 e.2).bytes.length = e.2.toBytes.length := rfl
    rw [entries, List.flatMap_cons, ← entries, List.cons_append, List.cons_append,
      List.nil_append, Entry.FitFrom, Entry.FitFrom, id, ih, HoldsTypes, hlength, hsign]
    have hfits : (signEntry currType e.1 e.2).Fits
        (p + getTlvUInt32Size + e.2.toBytes.length) ↔
          currType (p + getTlvUInt32Size) = e.1 := by
      change currType (p + getTlvUInt32Size + e.2.toBytes.length - e.2.toBytes.length) = _ ↔ _
      rw [Nat.add_sub_cancel]
    rw [hfits]
    apply and_iff_right
    trivial

/-- Signatures that are stored under their types make up the set. -/
theorem updateAll_entries :
  Entry.updateAll (entries currType id self.toList) OrdMap.empty = self
  := by
  have hfold : ∀ (l : List (Nat × RsTlvKeySignature)) (v : RsTlvKeySignatureSet),
      Entry.updateAll (entries currType id l) v = l.foldl (fun v e => v.insert e.1 e.2) v := by
    intro l
    induction l with
    | nil => exact fun _ => rfl
    | cons e l ih => exact fun v => ih (v.insert e.1 e.2)
  rw [hfold]
  apply OrdMap.foldl_insert_toList

/-- Signatures that are stored under one key. -/
theorem get?_updateAll_entries {k : Nat} (hne : k ≠ c) (l : List (Nat × RsTlvKeySignature))
    (v : RsTlvKeySignatureSet) :
  (Entry.updateAll (entries currType (fun _ => c) l) v).get? k = v.get? k
  := by
  induction l generalizing v with
  | nil => rfl
  | cons e l ih =>
    apply (ih (v.insert c e.2)).trans
    rw [OrdMap.get?_insert, if_neg hne]

theorem fits_of_mem_entries_const {l : List (Nat × RsTlvKeySignature)}
    {e : Entry RsTlvKeySignatureSet} (he : e ∈ entries (fun _ => c) (fun _ => c) l) (q : Nat) :
  e.Fits q
  := by
  simp only [entries, List.mem_flatMap, List.mem_cons, List.not_mem_nil, or_false] at he
  obtain ⟨e', -, rfl | rfl⟩ := he
  · trivial
  · rfl

/-- A set that is read back when the variable always holds `c` has no signature of another type. -/
theorem get?_eq_none_of_returns {self : RsTlvKeySignatureSet} {data : Memory} {fuel q : Nat}
    (h : self.Valid) (hbytes : HasBytes data p self.toBytes)
    (hroom : p + self.toBytes.length ≤ size) (hsize : size < 2 ^ 32)
    (hlast : p + self.toBytes.length + 2 < 2 ^ 32) (hfuel : size ≤ fuel)
    {old : RsTlvKeySignatureSet}
    (hreturns : Returns (getTlv data (fun _ => c) fuel size old) p (true, self) q) {k : Nat}
    (hne : k ≠ c) :
  self.get? k = none
  := by
  have hfit : Entry.FitFrom (p + tlvHeaderSize)
      (entries (fun _ => c) (fun _ => c) self.toList) :=
    Entry.fitFrom_of_forall (fun _ he => fits_of_mem_entries_const he) _
  have hconst := returns_getTlv h hbytes hroom hsize hlast hfuel hfit old
  have heq := congrArg Prod.snd (hreturns.unique hconst).1
  apply (congrArg (fun v => OrdMap.get? v k) heq).trans
  apply get?_updateAll_entries (fun _ => c) hne

/-- A set that is read back when the variable always holds `c`, whatever follows it, ends in time,
and has no signature of another type. -/
theorem RoundTrips.get?_eq_none {self : RsTlvKeySignatureSet}
    (hround : self.RoundTrips (fun _ => c) size p) (h : self.Valid)
    (hroom : p + self.toBytes.length ≤ size) (hsize : size < 2 ^ 32) :
  p + self.toBytes.length + 2 < 2 ^ 32 ∧ ∀ k, k ≠ c → self.get? k = none
  := by
  obtain ⟨hlength, -, hread⟩ := hround
  rw [← hlength] at hread
  have hbytes := hasBytes_store (fun _ => 0) p self.toBytes
  have hzero : ∀ a, p + self.toBytes.length ≤ a →
      Memory.store (fun _ => 0) p self.toBytes a = 0 := by
    intro a ha
    rw [Memory.store, if_neg (by omega)]
  obtain ⟨enough, hreturns⟩ := hread _ size OrdMap.empty hbytes hroom hsize
  have hself := hreturns _ (le_max_left enough size)
  have hlast : p + self.toBytes.length + 2 < 2 ^ 32 := by
    obtain ⟨-, q', hloop⟩ := (returns_getTlv_iff hbytes hroom hsize _).mp hself
    have hcontent := hasBytes_content hbytes
    rw [← bytesOf_entries (fun _ => c) fun _ => c] at hcontent
    refine (Entry.fits_of_returns_contentLoop (by omega) (fun _ => hzero)
      (fun hwrap v => returns_body_of_zero (by omega) hwrap hzero v) _ ?_ hcontent ?_ hloop).1
    · intro e he
      exact ⟨readIfFits_entries h hroom hsize e he,
        fun _ _ _ _ _ _ _ _ => fits_of_mem_entries_const he _⟩
    · rw [bytesOf_entries, toBytes, length_tlvBytes]
      omega
  refine ⟨hlast, ?_⟩
  intro k hne
  apply get?_eq_none_of_returns h hbytes hroom hsize hlast (le_max_right enough size) hself hne

/-- A set without a signature of any type. -/
theorem toList_eq_nil_of_forall {self : RsTlvKeySignatureSet}
    (h : ∀ c k, k ≠ c → self.get? k = none) :
  self.toList = []
  := by
  apply List.eq_nil_iff_forall_not_mem.mpr
  rintro ⟨k, sign⟩ he
  rw [OrdMap.mem_toList, h (k + 1) k (by omega)] at he
  cases he

/-- Only the empty set is read back whatever the variable holds.  Where the variable holds the type
that has just been read, every set is. -/
theorem roundTrips_all_iff (self : RsTlvKeySignatureSet) (size p : Nat) (h : self.Valid)
    (hroom : p + self.toBytes.length ≤ size) (hsize : size < 2 ^ 32) :
  ((∀ currType, self.RoundTrips currType size p) ↔
    self.toList = [] ∧ p + self.toBytes.length + 2 < 2 ^ 32) ∧
  (p + self.toBytes.length + 2 < 2 ^ 32 →
    ∀ currType, HoldsTypes currType (p + tlvHeaderSize) self.toList →
      self.RoundTrips currType size p)
  := by
  have hholds : p + self.toBytes.length + 2 < 2 ^ 32 →
      ∀ currType, HoldsTypes currType (p + tlvHeaderSize) self.toList →
        self.RoundTrips currType size p := by
    intro hlast currType htypes
    have hlength : self.tlvSize = self.toBytes.length := by
      rw [tlvSize_eq, Nat.mod_eq_of_lt (by omega)]
    refine ⟨hlength.symm, self.writes_setTlv hroom hsize, ?_⟩
    intro data n old hbytes hn hlim
    rw [hlength] at hn ⊢
    refine ⟨n, ?_⟩
    intro fuel hfuel
    have hread := returns_getTlv h hbytes hn hlim hlast hfuel
      ((fitFrom_entries_iff currType _ _).mpr htypes) old
    rwa [updateAll_entries] at hread
  refine ⟨⟨?_, ?_⟩, hholds⟩
  · intro hall
    use toList_eq_nil_of_forall fun c => ((hall fun _ => c).get?_eq_none h hroom hsize).2
    apply ((hall fun _ => 0).get?_eq_none h hroom hsize).1
  · rintro ⟨hnil, hlast⟩ currType
    apply hholds hlast
    rw [hnil]
    trivial

/-- One signature of the type `5`. -/
def oneSign : RsTlvKeySignatureSet :=
  OrdMap.insert OrdMap.empty 5 ⟨List.replicate certSignLen 0, ⟨tlvTypeSignRsaSha1, [1]⟩⟩

theorem oneSign_valid :
  oneSign.Valid
  := by
  intro e he
  obtain rfl := List.mem_singleton.mp he
  exact ⟨by decide, by decide, rfl⟩

/-- The set is read back when the variable holds `5`, and not whatever it holds. -/
theorem roundTrips_all_iff_oneSign :
  ¬ (∀ currType, oneSign.RoundTrips currType 200 4) ∧ oneSign.RoundTrips (fun _ => 5) 200 4
  := by
  obtain ⟨hall, hholds⟩ := roundTrips_all_iff oneSign 200 4 oneSign_valid (by decide +kernel)
    (by decide)
  constructor
  · intro hround
    exact absurd (hall.mp hround).1 (by decide)
  · apply hholds (by decide +kernel)
    exact ⟨rfl, trivial⟩

/-- The set is not read back when the variable holds `0`. -/
theorem not_roundTrips_oneSign :
  ¬ oneSign.RoundTrips (fun _ => 0) 200 4
  := by
  intro hround
  obtain ⟨-, hnone⟩ := hround.get?_eq_none oneSign_valid (by decide +kernel) (by decide)
  exact absurd (hnone 5 (by decide)) (by decide)

end RsTlvKeySignatureSet

end Serialiser
