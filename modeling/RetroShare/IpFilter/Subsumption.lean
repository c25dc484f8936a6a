import RetroShare.IpFilter.Sources

/-!
# Ranges inside of a new range

`addIpRange` removes what lies in the range that it adds.  It does not look at the ranges of the
list, but at the keys that are derived from the given address, one for each width: narrower ranges
around other addresses stay, and a range that happens to have one of these keys goes
(`subsumesRange_iff`).
-/

namespace IpFilter

open GRouter (RsPeerId)

namespace p3BanList

/-! ### What is inside of a range -/

/-- The entry, an address or a range, lies in the range of `ip` with some octets masked. -/
def Inside (e : BanListPeer) (ip : IpAddress) (maskedBytes : Int) : Prop :=
  ∀ a, makeBitsRange a e.maskedBytes = makeBitsRange e.addr.ip e.maskedBytes →
    makeBitsRange a maskedBytes = makeBitsRange ip maskedBytes

/-- After the range of `ip` has been added no other entry lies in it, and the entries that did not
are as before. -/
structure SubsumesRange (before after : OrdMap IpAddress BanListPeer) (ip : IpAddress)
    (maskedBytes : Int) : Prop where
  narrower : ∀ key e, after.get? key = some e → key ≠ makeBitsRange ip maskedBytes →
    ¬ Inside e ip maskedBytes
  others : ∀ key e, before.get? key = some e → ¬ Inside e ip maskedBytes → after.get? key = some e

/-- The keys that `addIpRange` looks up and writes. -/
def IsKeyOf (key ip : IpAddress) (maskedBytes : Int) : Prop :=
  ∃ i : Nat, (i : Int) ≤ maskedBytes ∧ key = makeBitsRange ip i

/-- The list to which a range is added. -/
def rangesOf (s : p3BanList) (listType : BitVec 32) : OrdMap IpAddress BanListPeer :=
  if listType = typeBlacklist then s.banRanges else s.whiteListedRanges

/-- `addIpRange` returns true. -/
def addsIpRange (addr : SockaddrStorage) (maskedBytes : Int) (listType : BitVec 32) : Bool :=
  !(getBitRange addr.ip > maskedBytes % 2 ^ 32) &&
    (maskedBytes = 0 || maskedBytes = 1 || maskedBytes = 2) &&
    (listType = typeBlacklist || listType = typeWhitelist)

/-! ### What is left of the list -/

section List

variable (list : OrdMap IpAddress BanListPeer) (ip : IpAddress) {key : IpAddress} {m : Nat}
  {blp : BanListPeer} {l : List Nat}

theorem get?_foldl_erase_of_mem {i : Nat} (hi : i ∈ l) :
  (l.foldl (fun list i => list.erase (makeBitsRange ip (i : Nat))) list).get?
    (makeBitsRange ip i) = none
  := by
  have hkeep : ∀ (l : List Nat) (list : OrdMap IpAddress BanListPeer),
      list.get? (makeBitsRange ip i) = none →
      (l.foldl (fun list i => list.erase (makeBitsRange ip (i : Nat))) list).get?
        (makeBitsRange ip i) = none := by
    intro l
    induction l with
    | nil => exact fun _ hnone => hnone
    | cons j l ih =>
      intro list hnone
      apply ih
      rw [OrdMap.get?_erase, hnone, ite_self]
  induction l generalizing list with
  | nil => exact absurd hi List.not_mem_nil
  | cons j l ih =>
    rw [List.foldl_cons]
    obtain rfl | hi := List.mem_cons.1 hi
    · exact hkeep l _ (OrdMap.get?_erase_self _)
    · exact ih _ hi

/-- The other keys are left alone. -/
theorem get?_foldl_erase_of_ne (hkey : ∀ i ∈ l, key ≠ makeBitsRange ip (i : Nat)) :
  (l.foldl (fun list i => list.erase (makeBitsRange ip (i : Nat))) list).get? key = list.get? key
  := by
  induction l generalizing list with
  | nil => rfl
  | cons j l ih =>
    obtain ⟨hj, hkey⟩ := List.forall_mem_cons.1 hkey
    rw [List.foldl_cons, ih _ hkey, OrdMap.get?_erase, if_neg hj]

theorem get?_withRange_of_isKeyOf (h : IsKeyOf key ip m) {e : BanListPeer}
    (he : (withRange list ip m blp).get? key = some e) :
  key = makeBitsRange ip m ∧ e = blp
  := by
  rw [withRange, OrdMap.get?_insert] at he
  split at he
  case isTrue hkey => exact ⟨hkey, (Option.some_inj.1 he).symm⟩
  case isFalse hkey =>
    obtain ⟨i, hi, rfl⟩ := h
    have hlt : i ∈ List.range m := by
      rw [List.mem_range]
      have hne : i ≠ m := by
        rintro rfl
        exact hkey rfl
      omega
    rw [get?_foldl_erase_of_mem list ip hlt] at he
    contradiction

theorem get?_withRange_of_not_isKeyOf (h : ¬ IsKeyOf key ip m) :
  (withRange list ip m blp).get? key = list.get? key
  := by
  have hne : ∀ i ≤ m, key ≠ makeBitsRange ip (i : Nat) := by
    rintro i hi rfl
    exact h ⟨i, Int.ofNat_le.2 hi, rfl⟩
  rw [withRange, OrdMap.get?_insert, if_neg (hne m le_rfl), get?_foldl_erase_of_ne]
  intro i hi
  exact hne i (List.mem_range.1 hi).le

/-- The list after a range has been added is right just when the entries with the keys of the range
were those that lie in it. -/
theorem subsumesRange_withRange_iff (hblp : Inside blp ip m) :
  SubsumesRange list (withRange list ip m blp) ip m ↔
    ∀ key e, list.get? key = some e → (Inside e ip m ↔ IsKeyOf key ip m)
  := by
  constructor
  · intro h key e he
    constructor
    · intro hinside
      by_contra hkey
      apply h.narrower key e _ _ hinside
      · rw [get?_withRange_of_not_isKeyOf list ip hkey, he]
      · rintro rfl
        exact hkey ⟨m, le_rfl, rfl⟩
    · intro hkey
      by_contra hinside
      have hafter := h.others key e he hinside
      obtain ⟨-, rfl⟩ := get?_withRange_of_isKeyOf list ip hkey hafter
      exact hinside hblp
  · intro h
    constructor
    · intro key e he hne hinside
      by_cases hkey : IsKeyOf key ip m
      · exact hne (get?_withRange_of_isKeyOf list ip hkey he).1
      · rw [get?_withRange_of_not_isKeyOf list ip hkey] at he
        exact hkey ((h key e he).1 hinside)
    · intro key e he hinside
      have hkey : ¬ IsKeyOf key ip m := fun hkey => hinside ((h key e he).2 hkey)
      rw [get?_withRange_of_not_isKeyOf list ip hkey, he]

end List

/-! ### The service -/

theorem rangesOf_addIpRange (s : p3BanList) (ownId : RsPeerId) {addr : SockaddrStorage}
    {maskedBytes : Int} {listType : BitVec 32} (comment : String) (now : Int)
    (h : addsIpRange addr maskedBytes listType) :
  (s.addIpRange ownId addr maskedBytes listType comment now).rangesOf listType =
    withRange (s.rangesOf listType) addr.ip maskedBytes.toNat
      (userRange addr maskedBytes.toNat comment now)
  := by
  simp only [addsIpRange, Bool.and_eq_true, Bool.or_eq_true, Bool.not_eq_true',
    decide_eq_false_iff_not, decide_eq_true_eq] at h
  obtain ⟨⟨hbits, hmasked⟩, htype⟩ := h
  have hbytes : ¬ (maskedBytes ≠ 0 ∧ maskedBytes ≠ 1 ∧ maskedBytes ≠ 2) := by omega
  have hlist : ¬ (listType ≠ typeBlacklist ∧ listType ≠ typeWhitelist) := by tauto
  rw [addIpRange, if_neg hbits, if_neg hbytes, if_neg hlist]
  by_cases hblack : listType = typeBlacklist
  · simp [rangesOf, hblack]
  · simp [rangesOf, hblack]

/-- Adding a range takes out of the list what lies in it, and nothing else, just when the entries
that lie in it are those with one of its keys. -/
theorem subsumesRange_iff (s : p3BanList) (ownId : RsPeerId) {addr : SockaddrStorage}
    {maskedBytes : Int} {listType : BitVec 32} (comment : String) (now : Int)
    (h : addsIpRange addr maskedBytes listType) :
  SubsumesRange (s.rangesOf listType)
      ((s.addIpRange ownId addr maskedBytes listType comment now).rangesOf listType)
      addr.ip maskedBytes ↔
    ∀ key e, (s.rangesOf listType).get? key = some e →
      (Inside e addr.ip maskedBytes ↔ IsKeyOf key addr.ip maskedBytes)
  := by
  have hbytes : maskedBytes = maskedBytes.toNat := by
    simp only [addsIpRange, Bool.and_eq_true, Bool.or_eq_true, decide_eq_true_eq] at h
    omega
  rw [rangesOf_addIpRange s ownId comment now h]
  generalize maskedBytes.toNat = m at hbytes
  subst hbytes
  apply subsumesRange_withRange_iff
  exact fun a ha => ha

/-- The black list of a user who has banned a single address. -/
def bannedOne (d : BitVec 8) : p3BanList :=
  init.addIpRange 1 ⟨ipv4 1 2 3 d, 0⟩ 0 typeBlacklist "" 10

theorem toList_bannedOne :
  ((bannedOne 4).rangesOf typeBlacklist).toList =
      [(ipv4 1 2 3 4, userRange ⟨ipv4 1 2 3 4, 0⟩ 0 "" 10)] ∧
    ((bannedOne 5).rangesOf typeBlacklist).toList =
      [(ipv4 1 2 3 5, userRange ⟨ipv4 1 2 3 5, 0⟩ 0 "" 10)]
  := by
  decide +kernel

/-- The range is added around the address that was banned. -/
theorem subsumesRange_iff_same :
  SubsumesRange ((bannedOne 4).rangesOf typeBlacklist)
    (((bannedOne 4).addIpRange 1 ⟨ipv4 1 2 3 4, 0⟩ 1 typeBlacklist "" 20).rangesOf typeBlacklist)
    (ipv4 1 2 3 4) 1
  := by
  have hadds : addsIpRange ⟨ipv4 1 2 3 4, 0⟩ 1 typeBlacklist := by decide +kernel
  apply (subsumesRange_iff (bannedOne 4) 1 "" 20 hadds).2
  intro key e he
  rw [← OrdMap.mem_toList, toList_bannedOne.1, List.mem_singleton, Prod.mk.injEq] at he
  obtain ⟨rfl, rfl⟩ := he
  apply iff_of_true
  · intro a ha
    change makeBitsRange a 0 = makeBitsRange (ipv4 1 2 3 4) 0 at ha
    rw [makeBitsRange_zero, makeBitsRange_zero] at ha
    rw [ha]
  · exact ⟨0, by decide, (makeBitsRange_zero _).symm⟩

/-- The range is added around the address next to it. -/
theorem not_subsumesRange_next :
  addsIpRange ⟨ipv4 1 2 3 4, 0⟩ 1 typeBlacklist ∧
    ¬ SubsumesRange ((bannedOne 5).rangesOf typeBlacklist)
      (((bannedOne 5).addIpRange 1 ⟨ipv4 1 2 3 4, 0⟩ 1 typeBlacklist "" 20).rangesOf typeBlacklist)
      (ipv4 1 2 3 4) 1
  := by
  refine ⟨by decide +kernel, ?_⟩
  intro h
  have hstays : (((bannedOne 5).addIpRange 1 ⟨ipv4 1 2 3 4, 0⟩ 1 typeBlacklist "" 20).rangesOf
      typeBlacklist).get? (ipv4 1 2 3 5) = some (userRange ⟨ipv4 1 2 3 5, 0⟩ 0 "" 10) := by
    decide +kernel
  apply h.narrower _ _ hstays (by decide +kernel)
  intro a ha
  change makeBitsRange a 0 = makeBitsRange (ipv4 1 2 3 5) 0 at ha
  rw [makeBitsRange_zero, makeBitsRange_zero] at ha
  rw [ha]
  decide +kernel

end p3BanList

end IpFilter
