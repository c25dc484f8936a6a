import RetroShare.Serialiser.Containers

/-!
# Sets of keys

`RsTlvSecurityKeySet::SetTlv` writes the group id and the keys, and `GetTlv` stores every key that
it reads under the id of this key.  So every set is read back whose keys are stored in this way,
`RsTlvSecurityKeySet.returns_getTlv`, unless the set ends so near `2 ^ 32` that the guard of the
loop wraps around (`RsTlvSecurityKeySet.lt_of_returns_getTlv`).
-/

namespace Serialiser

open Decoder Encoder
open GRouter (HasBytes hasBytes_append)

namespace RsTlvSecurityKeySet

/-! ### Encoders -/

/-- `RsTlvSecurityKeySet::TlvSize`. -/
def tlvSize (self : RsTlvSecurityKeySet) : Nat :=
  sum32 (tlvHeaderSize :: getTlvStringSize self.groupId ::
    self.keys.toList.map fun e => e.2.tlvSize)

/-- `RsTlvSecurityKeySet::SetTlv`: the keys have room up to the end of the buffer. -/
def setTlv (self : RsTlvSecurityKeySet) (size : Nat) : Encoder :=
  Serialiser.setTlv size self.tlvSize tlvTypeSecuritykeyset fun tlvend =>
    all (setTlvString tlvend tlvTypeStrGroupid self.groupId ::
      self.keys.toList.map fun e => e.2.setTlv size)

/-- The keys of a set. -/
def keyParts (self : RsTlvSecurityKeySet) : List Part32 :=
  self.keys.toList.map fun e => .key e.2

/-- A set, as it is written. -/
def toBytes (self : RsTlvSecurityKeySet) : List UInt8 :=
  tlvBytes tlvTypeSecuritykeyset
    (tlvBytes tlvTypeStrGroupid self.groupId ++ Component.bytesOf self.keyParts)

/-- The sets that services have: every key is stored under its id.  The group id is kept by
`GetTlvString`. -/
structure Valid (set : RsTlvSecurityKeySet) : Prop where
  groupId : sanitise tlvTypeStrGroupid set.groupId = set.groupId
  keyed : ∀ e ∈ set.keys.toList, idValue e.2.keyId = e.1
  keys : ∀ e ∈ set.keys.toList, e.2.Valid

theorem hasSize_key (key : RsTlvSecurityKey) :
  (Part32.key key).HasSize key.tlvSize
  := by
  rw [Part32.HasSize, RsTlvSecurityKey.tlvSize_eq, Nat.mod_mod, Part32.bytes_key, length_tlvBytes]

variable (self : RsTlvSecurityKeySet)

theorem tlvSize_eq :
  self.tlvSize = self.toBytes.length % 2 ^ 32
  := by
  have hkeys : List.Forall₂ Part32.HasSize (self.keys.toList.map fun e => e.2.tlvSize)
      self.keyParts := by
    rw [keyParts, List.forall₂_map_left_iff, List.forall₂_map_right_iff, List.forall₂_same]
    intro e _
    apply hasSize_key
  rw [toBytes, length_tlvBytes]
  apply sum32_eq_of_hasSize (hkeys.cons (hasSize_string tlvTypeStrGroupid self.groupId))

theorem writes_setTlv (size p : Nat) (hroom : p + self.toBytes.length ≤ size)
    (hsize : size < 2 ^ 32) :
  Writes (self.setTlv size) p self.toBytes
  := by
  have hlength := length_tlvBytes tlvTypeSecuritykeyset
    (tlvBytes tlvTypeStrGroupid self.groupId ++ Component.bytesOf self.keyParts)
  rw [← toBytes] at hlength
  have htlvsize : self.tlvSize = self.toBytes.length := by
    rw [tlvSize_eq, Nat.mod_eq_of_lt (by omega)]
  apply Serialiser.writes_setTlv (htlvsize.trans hlength) (by omega) hsize
  rw [List.length_append] at hlength
  apply Writes.cons
  · apply writes_setTlvString
    · omega
    · omega
  · have hkeys := Component.writes_parts hsize self.keyParts
      (p + tlvHeaderSize + (tlvBytes tlvTypeStrGroupid self.groupId).length) (by omega)
    rw [Component.setAll, keyParts, List.map_map] at hkeys
    apply hkeys

/-! ### Decoders -/

/-- The sub-item of a key. -/
def keyEntry (key : RsTlvSecurityKey) : Entry RsTlvSecurityKeySet :=
  .tlv tlvTypeSecuritykey (Component.bytesOf key.parts)
    (fun v => { v with keys := v.keys.insert (idValue key.keyId) key }) fun _ => True

/-- The sub-items of a set, after the group id. -/
def entries (self : RsTlvSecurityKeySet) : List (Entry RsTlvSecurityKeySet) :=
  self.keys.toList.map fun e => keyEntry e.2

theorem bytesOf_entries :
  Entry.bytesOf self.entries = Component.bytesOf self.keyParts
  := by
  rw [Entry.bytesOf, entries, List.flatMap_map, Component.bytesOf, keyParts, List.flatMap_map]
  rfl

theorem updateAll_entries {self : RsTlvSecurityKeySet} (h : self.Valid) :
  Entry.updateAll self.entries ⟨self.groupId, OrdMap.empty⟩ = self
  := by
  have hfold : ∀ (l : List (Nat × RsTlvSecurityKey)) (keys : OrdMap Nat RsTlvSecurityKey),
      (∀ e ∈ l, idValue e.2.keyId = e.1) →
      Entry.updateAll (l.map fun e => keyEntry e.2) ⟨self.groupId, keys⟩ =
        ⟨self.groupId, l.foldl (fun keys e => keys.insert e.1 e.2) keys⟩ := by
    intro l
    induction l with
    | nil => exact fun _ _ => rfl
    | cons e l ih =>
      intro keys hkeyed
      rw [List.forall_mem_cons] at hkeyed
      rw [List.foldl_cons, ← hkeyed.1]
      apply ih _ hkeyed.2
  rw [entries, hfold _ _ h.keyed, OrdMap.foldl_insert_toList]

theorem fits_of_mem_entries {self : RsTlvSecurityKeySet} {e : Entry RsTlvSecurityKeySet}
    (he : e ∈ self.entries) (q : Nat) :
  e.Fits q
  := by
  obtain ⟨e', -, rfl⟩ := List.mem_map.mp he
  trivial

section Read

variable {data : Memory} {size tlvend p fuel : Nat} {self : RsTlvSecurityKeySet}

theorem readIfFits_entries (h : self.Valid) (hend : tlvend ≤ size) (hsize : size < 2 ^ 32) :
  ∀ e ∈ self.entries, e.ReadIfFits data tlvend (getSub data true size tlvend)
  := by
  intro e he p v hbytes hroom _
  obtain ⟨e', he', rfl⟩ := List.mem_map.mp he
  obtain ⟨haccepted, -⟩ := header_of_hasBytes (by decide) hbytes hroom (by omega)
  apply (returns_here p).bind
  apply (GRouter.returns_getTlvType data p p).bind
  rw [if_pos haccepted.2]
  apply (reads_key (h.keys e' he') data size p hbytes (hroom.trans hend) hsize).bind
  apply returns_pure

theorem returns_getSub_of_zero (hlim : tlvend < 2 ^ 32) (hwrap : 2 ^ 32 ≤ tlvend + 2)
    (hzero : ∀ a, tlvend ≤ a → data a = 0) (v : RsTlvSecurityKeySet) :
  Returns (getSub data true size tlvend v) tlvend (true, v) tlvend
  := by
  have htype : data.be16 tlvend = 0 := by
    simp [Memory.be16, hzero]
  apply (returns_here tlvend).bind
  apply (GRouter.returns_getTlvType data tlvend tlvend).bind
  rw [htype, if_neg (by decide)]
  apply returns_skip_of_zero hlim hwrap hzero

/-- A set is read by the loop over its keys. -/
theorem returns_getTlv_iff (h : self.Valid) {q : Nat} {r : Bool × RsTlvSecurityKeySet}
    (hbytes : HasBytes data p self.toBytes) (hroom : p + self.toBytes.length ≤ size)
    (hsize : size < 2 ^ 32) (old : RsTlvSecurityKeySet) :
  Returns (getTlv data fuel size old) p r q ↔
    q = p + self.toBytes.length ∧
      ∃ q', Returns (contentLoop .securityKeySet 2 (p + self.toBytes.length)
        (getSub data true size (p + self.toBytes.length)) fuel true ⟨self.groupId, OrdMap.empty⟩)
        (p + tlvHeaderSize + (tlvBytes tlvTypeStrGroupid self.groupId).length) r q'
  := by
  have hlength := length_tlvBytes tlvTypeSecuritykeyset
    (tlvBytes tlvTypeStrGroupid self.groupId ++ Component.bytesOf self.keyParts)
  rw [← toBytes, List.length_append] at hlength
  have hcontent := ((hasBytes_append _ _ _ _).mp (hasBytes_content hbytes)).1
  have hgroupId := @reads_getTlvString tlvTypeStrGroupid (by decide) self.groupId [] data
    (p + self.toBytes.length) (p + tlvHeaderSize) hcontent (by omega) (by omega)
  rw [h.groupId] at hgroupId
  rw [getTlv, toBytes, returns_withTlv_iff (by decide) hbytes hroom hsize, returns_closeTlv_iff,
    ← toBytes]
  simp only [returns_bind_iff_of_returns hgroupId]

/-- What the loop starts with. -/
theorem hasBytes_entries (hbytes : HasBytes data p self.toBytes) :
  HasBytes data (p + tlvHeaderSize + (tlvBytes tlvTypeStrGroupid self.groupId).length)
      (Entry.bytesOf self.entries) ∧
    p + tlvHeaderSize + (tlvBytes tlvTypeStrGroupid self.groupId).length +
      (Entry.bytesOf self.entries).length = p + self.toBytes.length
  := by
  rw [bytesOf_entries]
  use ((hasBytes_append _ _ _ _).mp (hasBytes_content hbytes)).2
  rw [toBytes, length_tlvBytes tlvTypeSecuritykeyset, List.length_append]
  omega

/-- A set is read back. -/
theorem returns_getTlv (h : self.Valid) (hbytes : HasBytes data p self.toBytes)
    (hroom : p + self.toBytes.length ≤ size) (hsize : size < 2 ^ 32)
    (hlast : p + self.toBytes.length + 2 < 2 ^ 32) (hfuel : size ≤ fuel)
    (old : RsTlvSecurityKeySet) :
  Returns (getTlv data fuel size old) p (true, self) (p + self.toBytes.length)
  := by
  obtain ⟨hcontent, hlength⟩ := hasBytes_entries hbytes
  have hcount := Entry.length_le self.entries
  apply (returns_getTlv_iff h hbytes hroom hsize old).mpr
  refine ⟨rfl, p + self.toBytes.length, ?_⟩
  have hloop := Entry.returns_contentLoop (l := .securityKeySet) hlast self.entries
    (⟨self.groupId, OrdMap.empty⟩ : RsTlvSecurityKeySet) (readIfFits_entries h hroom hsize) hcontent
    hlength (Entry.fitFrom_of_forall (fun _ he => fits_of_mem_entries he) _)
    (show self.entries.length ≤ fuel by omega)
  rwa [updateAll_entries h] at hloop

/-- A set with zeros behind it is not read unless the guard of its loop fails at its end. -/
theorem lt_of_returns_getTlv (h : self.Valid) {q : Nat} {v : RsTlvSecurityKeySet}
    (hbytes : HasBytes data p self.toBytes) (hroom : p + self.toBytes.length ≤ size)
    (hsize : size < 2 ^ 32) (hzero : ∀ a, p + self.toBytes.length ≤ a → data a = 0)
    {old : RsTlvSecurityKeySet} (hreturns : Returns (getTlv data fuel size old) p (true, v) q) :
  p + self.toBytes.length + 2 < 2 ^ 32
  := by
  obtain ⟨hcontent, hlength⟩ := hasBytes_entries hbytes
  obtain ⟨-, q', hloop⟩ := (returns_getTlv_iff h hbytes hroom hsize old).mp hreturns
  refine (Entry.fits_of_returns_contentLoop (by omega) (fun _ => hzero)
    (fun hwrap v => returns_getSub_of_zero (by omega) hwrap hzero v) self.entries ?_ hcontent
    hlength hloop).1
  intro e he
  use readIfFits_entries h hroom hsize e he
  intro _ _ _ _ _ _ _ _
  apply fits_of_mem_entries he

end Read

end RsTlvSecurityKeySet

end Serialiser
