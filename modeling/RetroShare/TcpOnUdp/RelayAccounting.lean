import Mathlib.Data.Sym.Sym2
import RetroShare.TcpOnUdp.UdpRelay

/-!
# The accounting of UDP relays

`UdpRelayReceiver.Accounted` says that the relays are stored in both directions and that the counts
are those of the relays, as unordered pairs of addresses.  It is kept by every call but the
installation of a relay of class `UDP_RELAY_CLASS_ALL`, which is counted twice in the total.
-/

namespace TcpOnUdp

namespace UdpRelayAddrSet

variable {a b : UdpRelayAddrSet}

/-- The addresses as an unordered pair. -/
def pair (a : UdpRelayAddrSet) : Sym2 SockaddrIn := s(a.mSrcAddr, a.mDestAddr)

theorem pair_eq_iff :
  a.pair = b.pair ↔ a = b ∨ a = b.flippedSet
  := by
  cases a
  cases b
  simp [pair, flippedSet]

theorem flippedSet_eq_iff :
  a.flippedSet = b ∨ a.flippedSet = b.flippedSet ↔ a = b ∨ a = b.flippedSet
  := by
  rw [← pair_eq_iff, ← pair_eq_iff, pair, flippedSet, Sym2.eq_swap]
  rfl

end UdpRelayAddrSet

namespace UdpRelayReceiver

variable {β : Type} (bandwidths : Bandwidths β) (receiver : UdpRelayReceiver β)

/-- The class of the relay between two addresses, in this direction. -/
def classOf (a : UdpRelayAddrSet) : Option Int :=
  (receiver.mRelays.get? a).map UdpRelayProxy.mRelayClass

/-- The relays whose classes satisfy `p`. -/
def installed (p : Int → Bool) : Finset (Sym2 SockaddrIn) :=
  ((receiver.mRelays.toList.filter fun e => p e.2.mRelayClass).map fun e => e.1.pair).toFinset

/-- Every relay is stored in both directions, with one class, and the counts are the numbers of
relays. -/
structure Accounted : Prop where
  flipped : ∀ a, receiver.classOf a.flippedSet = receiver.classOf a
  total : receiver.mClassCount relayClassAll = (receiver.installed fun _ => true).card
  count : ∀ c, relayClassAll < c → c < relayNumClass →
    receiver.mClassCount c = (receiver.installed fun c' => c' = c).card

/-- A relay is installed only while the count of its class and the total are below their limits. -/
def InstallsWithin (input : Input) : Prop :=
  ∀ c ∈ (machine bandwidths).emit receiver input,
    receiver.mClassCount c < receiver.mClassLimit c ∧
      receiver.mClassCount relayClassAll < receiver.mClassLimit relayClassAll

/-- A call installs relays within their limits and leaves them accounted. -/
def Accounts (input : Input) : Prop :=
  receiver.InstallsWithin bandwidths input ∧ ((machine bandwidths).next receiver input).Accounted

/-- The call adds a relay of class `UDP_RELAY_CLASS_ALL` between addresses without one, while there
is space. -/
def AddsClassAll : Input → Prop
  | .add addrSet relayClass _ =>
      relayClass = relayClassAll ∧ receiver.mRelays.get? addrSet = none ∧
        receiver.mClassCount relayClassAll < receiver.mClassLimit relayClassAll
  | _ => False

variable {bandwidths} {receiver} {receiver' : UdpRelayReceiver β} {c : Int}
  {addrSet : UdpRelayAddrSet} (eraseList : List UdpRelayAddrSet) {input : Input}

theorem mem_installed {p : Int → Bool} {e : Sym2 SockaddrIn} :
  e ∈ receiver.installed p ↔ ∃ a c, receiver.classOf a = some c ∧ p c ∧ a.pair = e
  := by
  simp only [installed, classOf, List.mem_toFinset, List.mem_map, List.mem_filter, Prod.exists,
    OrdMap.mem_toList, Option.map_eq_some_iff]
  constructor
  · rintro ⟨a, relay, ⟨hget, hp⟩, rfl⟩
    exact ⟨a, _, ⟨relay, hget, rfl⟩, hp, rfl⟩
  · rintro ⟨a, _, ⟨relay, hget, rfl⟩, hp, rfl⟩
    exact ⟨a, relay, ⟨hget, hp⟩, rfl⟩

theorem installed_congr (h : ∀ a, receiver'.classOf a = receiver.classOf a) (p : Int → Bool) :
  receiver'.installed p = receiver.installed p
  := by
  ext e
  simp only [mem_installed, h]

/-- The relays are accounted, and none has the class `UDP_RELAY_CLASS_ALL`. -/
structure WellAccounted (receiver : UdpRelayReceiver β) : Prop extends receiver.Accounted where
  range : ∀ a c, receiver.classOf a = some c → relayClassAll < c ∧ c < relayNumClass

namespace WellAccounted

theorem congr (h : receiver.WellAccounted) (hclass : ∀ a, receiver'.classOf a = receiver.classOf a)
    (hcount : receiver'.mClassCount = receiver.mClassCount) :
  receiver'.WellAccounted
  := by
  refine ⟨⟨?_, ?_, ?_⟩, ?_⟩
  · intro a
    rw [hclass, hclass, h.flipped]
  · rw [hcount, installed_congr hclass, h.total]
  · intro c hpos hlt
    rw [hcount, installed_congr hclass, h.count c hpos hlt]
  · intro a c ha
    apply h.range a
    rw [← hclass, ha]

/-- A relay is among those of a class exactly when its class is the one. -/
theorem pair_mem_installed_iff (h : receiver.WellAccounted) {p : Int → Bool}
    {a : UdpRelayAddrSet} :
  a.pair ∈ receiver.installed p ↔ ∃ c, receiver.classOf a = some c ∧ p c
  := by
  rw [mem_installed]
  constructor
  · rintro ⟨b, c, hb, hp, hpair⟩
    rcases UdpRelayAddrSet.pair_eq_iff.1 hpair with rfl | rfl
    · exact ⟨c, hb, hp⟩
    · rw [h.flipped] at hb
      exact ⟨c, hb, hp⟩
  · rintro ⟨c, ha, hp⟩
    exact ⟨a, c, ha, hp, rfl⟩

end WellAccounted

/-! ### Installing a relay -/

theorem classOf_insert_insert (relays : OrdMap UdpRelayAddrSet (UdpRelayProxy β))
    (addrSet : UdpRelayAddrSet) (c bandwidth now : Int) (a : UdpRelayAddrSet) :
  (((relays.insert addrSet (.new bandwidths addrSet c bandwidth now)).insert addrSet.flippedSet
      (.new bandwidths addrSet.flippedSet c bandwidth now)).get? a).map
        UdpRelayProxy.mRelayClass =
    if a = addrSet ∨ a = addrSet.flippedSet then some c
    else (relays.get? a).map UdpRelayProxy.mRelayClass
  := by
  rw [OrdMap.get?_insert, OrdMap.get?_insert]
  by_cases hflipped : a = addrSet.flippedSet
  · rw [if_pos hflipped, if_pos (.inr hflipped)]
    rfl
  · rw [if_neg hflipped]
    by_cases haddr : a = addrSet
    · rw [if_pos haddr, if_pos (.inl haddr)]
      rfl
    · rw [if_neg haddr, if_neg (by simp [haddr, hflipped])]

/-- What a relay of class `c` between `addrSet` adds. -/
structure Adds (receiver receiver' : UdpRelayReceiver β) (addrSet : UdpRelayAddrSet) (c : Int) :
    Prop where
  new : receiver.classOf addrSet = none
  class_space : receiver.mClassCount c < receiver.mClassLimit c
  space : receiver.mClassCount relayClassAll < receiver.mClassLimit relayClassAll
  classOf : ∀ a, receiver'.classOf a =
    if a = addrSet ∨ a = addrSet.flippedSet then some c else receiver.classOf a
  counts : receiver'.mClassCount =
    let counted := Function.update receiver.mClassCount relayClassAll
      (receiver.mClassCount relayClassAll + 1)
    Function.update counted c (counted c + 1)

theorem degraded_eq_some {n : Nat} (h : receiver.degraded n = some c) :
  receiver.mClassCount c < receiver.mClassLimit c ∧ c ≤ n ∧ (n ≠ 0 → 0 < c) ∧ (n = 0 → c = 0)
  := by
  induction n with
  | zero =>
    rw [degraded] at h
    split at h
    · cases h
      exact ⟨‹_›, le_rfl, fun h => absurd rfl h, fun _ => rfl⟩
    · cases h
  | succ n ih =>
    rw [degraded] at h
    split at h
    · cases h
      exact ⟨‹_›, le_rfl, fun _ => Int.natCast_pos.2 n.succ_pos, fun h => absurd h n.succ_ne_zero⟩
    · split at h
      · cases h
      · rename_i hn
        obtain ⟨hspace, hle, hpos, -⟩ := ih h
        exact ⟨hspace, hle.trans (by simp), fun _ => hpos hn, fun h => absurd h n.succ_ne_zero⟩

theorem installRelayClass_cases (receiver : UdpRelayReceiver β) (classIdx : Int) :
  (receiver.installRelayClass classIdx = (receiver, none) ∧
      ¬(classIdx = relayClassAll ∧
        receiver.mClassCount relayClassAll < receiver.mClassLimit relayClassAll)) ∨
    ∃ c, receiver.installRelayClass classIdx =
        ({ receiver with
            mClassCount :=
              let counted := Function.update receiver.mClassCount relayClassAll
                (receiver.mClassCount relayClassAll + 1)
              Function.update counted c (counted c + 1) },
          some (c, receiver.mClassBandwidth c)) ∧
      receiver.mClassCount c < receiver.mClassLimit c ∧
      receiver.mClassCount relayClassAll < receiver.mClassLimit relayClassAll ∧
      0 ≤ c ∧ c < relayNumClass ∧ (c = relayClassAll ↔ classIdx = relayClassAll)
  := by
  rw [installRelayClass]
  split
  case isTrue hfull => exact .inl ⟨rfl, fun hspace => absurd hspace.2 (not_lt.2 hfull)⟩
  case isFalse hspace =>
    rw [not_le] at hspace
    split
    case isTrue hrange =>
      refine .inl ⟨rfl, ?_⟩
      rintro ⟨rfl, -⟩
      revert hrange
      decide
    case isFalse hrange =>
      rw [not_or, not_lt, not_le] at hrange
      cases hdegraded : receiver.degraded classIdx.toNat with
      | none =>
        refine .inl ⟨rfl, ?_⟩
        rintro ⟨rfl, -⟩
        have hzero : receiver.degraded relayClassAll.toNat = some 0 := if_pos hspace
        rw [hzero] at hdegraded
        cases hdegraded
      | some c =>
        obtain ⟨hclass, hle, hpos, hzero⟩ := degraded_eq_some hdegraded
        rw [Int.toNat_of_nonneg hrange.1] at hle
        refine .inr ⟨c, rfl, hclass, hspace, ?_, hle.trans_lt hrange.2, ?_⟩
        · by_cases hn : classIdx.toNat = 0
          · exact (hzero hn).ge
          · exact (hpos hn).le
        · constructor
          · intro hall
            by_contra hne
            apply (hpos _).ne' hall
            intro hn
            exact hne (le_antisymm (Int.toNat_eq_zero.1 hn) hrange.1)
          · rintro rfl
            exact hzero rfl

theorem addUdpRelay_cases (bandwidths : Bandwidths β) (receiver : UdpRelayReceiver β)
    (addrSet : UdpRelayAddrSet) (relayClass now : Int) :
  ((receiver.addUdpRelay bandwidths addrSet relayClass now).1 = receiver ∧
      (receiver.addUdpRelay bandwidths addrSet relayClass now).2 = none ∧
      ¬receiver.AddsClassAll (.add addrSet relayClass now)) ∨
    ∃ c limit, (receiver.addUdpRelay bandwidths addrSet relayClass now).2 = some (c, limit) ∧
      Adds receiver (receiver.addUdpRelay bandwidths addrSet relayClass now).1 addrSet c ∧
      0 ≤ c ∧ c < relayNumClass ∧
      (c = relayClassAll ↔ receiver.AddsClassAll (.add addrSet relayClass now))
  := by
  rw [addUdpRelay]
  split
  case isTrue hsome =>
    refine .inl ⟨rfl, rfl, ?_⟩
    rintro ⟨-, hnone, -⟩
    rw [hnone] at hsome
    cases hsome
  case isFalse hnone =>
    rw [Bool.not_eq_true, Option.isSome_eq_false_iff, Option.isNone_iff_eq_none] at hnone
    rcases receiver.installRelayClass_cases relayClass with
      ⟨heq, hnot⟩ | ⟨c, heq, hclass, hspace, hnonneg, hlt, hall⟩
    · rw [heq]
      refine .inl ⟨rfl, rfl, ?_⟩
      rintro ⟨hzero, -, hspace⟩
      exact hnot ⟨hzero, hspace⟩
    · rw [heq]
      refine .inr ⟨c, _, rfl, ⟨?_, hclass, hspace, ?_, rfl⟩, hnonneg, hlt, ?_⟩
      · rw [classOf, hnone]
        rfl
      · intro a
        exact classOf_insert_insert receiver.mRelays addrSet c _ now a
      · rw [hall]
        constructor
        · intro hzero
          exact ⟨hzero, hnone, hspace⟩
        · intro hadds
          exact hadds.1

section

variable (hadds : Adds receiver receiver' addrSet c)

include hadds

theorem Adds.installed (h : receiver.WellAccounted) (p : Int → Bool) :
  receiver'.installed p =
    if p c then insert addrSet.pair (receiver.installed p) else receiver.installed p
  := by
  have hflipped : receiver.classOf addrSet.flippedSet = none := by rw [h.flipped, hadds.new]
  have hmem : ∀ e, e ∈ receiver'.installed p ↔
      e = addrSet.pair ∧ p c ∨ e ∈ receiver.installed p := by
    intro e
    rw [mem_installed, mem_installed]
    constructor
    · rintro ⟨a, c', ha, hp, rfl⟩
      rw [hadds.classOf] at ha
      split at ha
      case isTrue hpair =>
        cases ha
        exact .inl ⟨UdpRelayAddrSet.pair_eq_iff.2 hpair, hp⟩
      case isFalse => exact .inr ⟨a, c', ha, hp, rfl⟩
    · rintro (⟨rfl, hp⟩ | ⟨a, c', ha, hp, rfl⟩)
      · exact ⟨addrSet, c, by rw [hadds.classOf, if_pos (.inl rfl)], hp, rfl⟩
      · refine ⟨a, c', ?_, hp, rfl⟩
        rw [hadds.classOf, if_neg, ha]
        rintro (rfl | rfl)
        · rw [hadds.new] at ha
          cases ha
        · rw [hflipped] at ha
          cases ha
  ext e
  rw [hmem]
  split
  case isTrue hp => simp [hp]
  case isFalse hp => simp [hp]

theorem Adds.card_installed (h : receiver.WellAccounted) (p : Int → Bool) :
  (receiver'.installed p).card = (receiver.installed p).card + if p c then 1 else 0
  := by
  rw [hadds.installed h p]
  split
  · apply Finset.card_insert_of_notMem
    rw [h.pair_mem_installed_iff, hadds.new]
    rintro ⟨c, hc, -⟩
    cases hc
  · rfl

theorem Adds.flipped (h : receiver.WellAccounted) (a : UdpRelayAddrSet) :
  receiver'.classOf a.flippedSet = receiver'.classOf a
  := by
  simp only [hadds.classOf, UdpRelayAddrSet.flippedSet_eq_iff, h.flipped]

end

theorem WellAccounted.adds (h : receiver.WellAccounted) (hadds : Adds receiver receiver' addrSet c)
    (hpos : relayClassAll < c) (hlt : c < relayNumClass) :
  receiver'.WellAccounted
  := by
  refine ⟨⟨hadds.flipped h, ?_, ?_⟩, ?_⟩
  · rw [hadds.card_installed h, hadds.counts, Function.update_of_ne hpos.ne,
      Function.update_self, h.total]
    rfl
  · intro c' hpos' hlt'
    rw [hadds.card_installed h, hadds.counts]
    by_cases hc : c = c'
    · subst hc
      rw [Function.update_self, Function.update_of_ne hpos'.ne', h.count c hpos' hlt']
      simp
    · rw [Function.update_of_ne (Ne.symm hc), Function.update_of_ne hpos'.ne',
        h.count c' hpos' hlt']
      simp [hc]
  · intro a c' ha
    rw [hadds.classOf] at ha
    split at ha
    · cases ha
      exact ⟨hpos, hlt⟩
    · exact h.range a c' ha

/-- A relay of class `UDP_RELAY_CLASS_ALL` is counted twice in the total. -/
theorem WellAccounted.not_accounted_of_adds (h : receiver.WellAccounted)
    (hadds : Adds receiver receiver' addrSet relayClassAll) :
  ¬receiver'.Accounted
  := by
  intro haccounted
  have htotal := haccounted.total
  rw [hadds.card_installed h, hadds.counts, Function.update_self, Function.update_self,
    h.total] at htotal
  simp at htotal

/-! ### Removing relays -/

@[simp]
theorem removeRelayClass_mRelays (receiver : UdpRelayReceiver β) (classIdx : Int) :
  (receiver.removeRelayClass classIdx).mRelays = receiver.mRelays
  := by
  rw [removeRelayClass]
  split
  · rfl
  · split
    · rfl
    · split
      · rfl
      · rfl

theorem classOf_removeUdpRelay (receiver : UdpRelayReceiver β) (addrSet a : UdpRelayAddrSet) :
  (receiver.removeUdpRelay addrSet).classOf a =
    if a = addrSet ∨ a = addrSet.flippedSet then none else receiver.classOf a
  := by
  have hrelays : (receiver.removeUdpRelay addrSet).mRelays =
      (receiver.mRelays.erase addrSet).erase addrSet.flippedSet := by
    rw [removeUdpRelay]
    cases hget : receiver.mRelays.get? addrSet with
    | none => rw [OrdMap.erase_of_get?_eq_none hget]
    | some relay => simp only [removeRelayClass_mRelays]
  rw [classOf, hrelays, OrdMap.get?_erase, OrdMap.get?_erase]
  by_cases hflipped : a = addrSet.flippedSet
  · rw [if_pos hflipped, if_pos (.inr hflipped)]
    rfl
  · rw [if_neg hflipped]
    by_cases haddr : a = addrSet
    · rw [if_pos haddr, if_pos (.inl haddr)]
      rfl
    · rw [if_neg haddr, if_neg (by simp [haddr, hflipped])]
      rfl

theorem classOf_foldl_removeUdpRelay (receiver : UdpRelayReceiver β) (a : UdpRelayAddrSet) :
  (eraseList.foldl removeUdpRelay receiver).classOf a =
    if ∃ addrSet ∈ eraseList, a.pair = addrSet.pair then none else receiver.classOf a
  := by
  induction eraseList generalizing receiver with
  | nil => simp
  | cons addrSet eraseList ih =>
    rw [List.foldl_cons, ih, classOf_removeUdpRelay]
    simp only [← UdpRelayAddrSet.pair_eq_iff, List.mem_cons, exists_eq_or_imp]
    by_cases hhead : a.pair = addrSet.pair
    · simp [hhead]
    · simp [hhead]

theorem classOf_measured (bandwidths : Bandwidths β) (receiver : UdpRelayReceiver β) (now : Int)
    (a : UdpRelayAddrSet) :
  classOf { receiver with
      mRelays := receiver.mRelays.map fun _ relay => relay.measured bandwidths now } a =
    receiver.classOf a
  := by
  rw [classOf, OrdMap.get?_map, Option.map_map]
  rfl

theorem classOf_relayPkt (receiver : UdpRelayReceiver β) (addrSet : UdpRelayAddrSet) (size : Nat)
    (now : Int) (a : UdpRelayAddrSet) :
  (receiver.relayPkt addrSet size now).classOf a = receiver.classOf a
  := by
  rw [relayPkt]
  cases hget : receiver.mRelays.get? addrSet with
  | none => rfl
  | some relay =>
    rw [classOf, OrdMap.get?_insert]
    split
    case isTrue ha =>
      rw [classOf, ha, hget]
      rfl
    case isFalse => rfl

/-- The relays that are left are the ones that were there, without the one between `addrSet`. -/
theorem installed_removeUdpRelay (receiver : UdpRelayReceiver β)
    (addrSet : UdpRelayAddrSet) (p : Int → Bool) :
  (receiver.removeUdpRelay addrSet).installed p = (receiver.installed p).erase addrSet.pair
  := by
  ext e
  rw [Finset.mem_erase, mem_installed, mem_installed]
  constructor
  · rintro ⟨a, c, ha, hp, rfl⟩
    rw [classOf_removeUdpRelay] at ha
    split at ha
    · cases ha
    · rename_i hne
      exact ⟨fun hpair => hne (UdpRelayAddrSet.pair_eq_iff.1 hpair), a, c, ha, hp, rfl⟩
  · rintro ⟨hne, a, c, ha, hp, rfl⟩
    refine ⟨a, c, ?_, hp, rfl⟩
    rw [classOf_removeUdpRelay, if_neg, ha]
    intro hpair
    exact hne (UdpRelayAddrSet.pair_eq_iff.2 hpair)

theorem removeUdpRelay_mClassCount (receiver : UdpRelayReceiver β) (addrSet : UdpRelayAddrSet) :
  (receiver.removeUdpRelay addrSet).mClassCount =
    match receiver.classOf addrSet with
    | none => receiver.mClassCount
    | some c => (receiver.removeRelayClass c).mClassCount
  := by
  rw [removeUdpRelay, classOf]
  cases receiver.mRelays.get? addrSet <;> rfl

section

variable (h : receiver.WellAccounted)

include h

theorem WellAccounted.removeRelayClass {a : UdpRelayAddrSet} (hc : receiver.classOf a = some c) :
  (receiver.removeRelayClass c).mClassCount =
    let counted := Function.update receiver.mClassCount relayClassAll
      (receiver.mClassCount relayClassAll - 1)
    Function.update counted c (counted c - 1)
  := by
  obtain ⟨hpos, hlt⟩ := h.range a c hc
  have htotal : 0 < (receiver.installed fun _ => true).card := by
    apply Finset.card_pos.2
    exact ⟨a.pair, h.pair_mem_installed_iff.2 ⟨c, hc, rfl⟩⟩
  have hcount : 0 < (receiver.installed fun c' => c' = c).card := by
    apply Finset.card_pos.2
    exact ⟨a.pair, h.pair_mem_installed_iff.2 ⟨c, hc, decide_eq_true rfl⟩⟩
  rw [UdpRelayReceiver.removeRelayClass, if_neg, if_neg, if_neg]
  · rw [h.count c hpos hlt]
    omega
  · rw [not_or, not_lt, not_le]
    exact ⟨hpos.le, hlt⟩
  · rw [h.total]
    omega

theorem WellAccounted.card_removeUdpRelay (addrSet : UdpRelayAddrSet) (p : Int → Bool) :
  ((receiver.removeUdpRelay addrSet).installed p).card =
    (receiver.installed p).card - if (receiver.classOf addrSet).any p then 1 else 0
  := by
  rw [installed_removeUdpRelay]
  split
  case isTrue hany =>
    apply Finset.card_erase_of_mem
    rw [h.pair_mem_installed_iff]
    exact (Option.any_eq_true _ _).1 hany
  case isFalse hany =>
    rw [Finset.erase_eq_of_notMem, Nat.sub_zero]
    rw [h.pair_mem_installed_iff]
    rintro ⟨c, hc, hp⟩
    rw [hc] at hany
    exact hany hp

theorem WellAccounted.removeUdpRelay (addrSet : UdpRelayAddrSet) :
  (receiver.removeUdpRelay addrSet).WellAccounted
  := by
  refine ⟨⟨?_, ?_, ?_⟩, ?_⟩
  · intro a
    simp only [classOf_removeUdpRelay, UdpRelayAddrSet.flippedSet_eq_iff, h.flipped]
  · rw [h.card_removeUdpRelay, removeUdpRelay_mClassCount]
    cases hc : receiver.classOf addrSet with
    | none => exact h.total
    | some c =>
      obtain ⟨hpos, -⟩ := h.range addrSet c hc
      have hmem : addrSet.pair ∈ receiver.installed fun _ => true :=
        h.pair_mem_installed_iff.2 ⟨c, hc, rfl⟩
      have hcard := Finset.card_pos.2 ⟨_, hmem⟩
      simp only [h.removeRelayClass hc, Option.any_some, if_true]
      rw [Function.update_of_ne hpos.ne, Function.update_self, h.total]
      omega
  · intro c' hpos' hlt'
    rw [h.card_removeUdpRelay, removeUdpRelay_mClassCount]
    cases hc : receiver.classOf addrSet with
    | none => exact h.count c' hpos' hlt'
    | some c =>
      simp only [h.removeRelayClass hc, Option.any_some, decide_eq_true_eq]
      by_cases hcc : c = c'
      · subst hcc
        have hmem : addrSet.pair ∈ receiver.installed fun c' => c' = c :=
          h.pair_mem_installed_iff.2 ⟨c, hc, decide_eq_true rfl⟩
        have hcard := Finset.card_pos.2 ⟨_, hmem⟩
        rw [if_pos rfl, Function.update_self, Function.update_of_ne hpos'.ne',
          h.count c hpos' hlt']
        omega
      · rw [if_neg hcc, Function.update_of_ne (Ne.symm hcc), Function.update_of_ne hpos'.ne',
          h.count c' hpos' hlt', Nat.sub_zero]
  · intro a c ha
    rw [classOf_removeUdpRelay] at ha
    split at ha
    · cases ha
    · exact h.range a c ha

theorem WellAccounted.foldl_removeUdpRelay :
  (eraseList.foldl UdpRelayReceiver.removeUdpRelay receiver).WellAccounted
  := by
  induction eraseList generalizing receiver with
  | nil => exact h
  | cons addrSet eraseList ih => exact ih (h.removeUdpRelay addrSet)

end

/-! ### Runs -/

theorem wellAccounted_new :
  (new : UdpRelayReceiver β).WellAccounted
  := by
  refine ⟨⟨?_, ?_, ?_⟩, ?_⟩
  · intro a
    rfl
  · rfl
  · intro c _ _
    rfl
  · rintro a c ⟨⟩

section

variable (h : receiver.WellAccounted)

include h

theorem WellAccounted.checkRelays (now : Int) :
  (receiver.checkRelays bandwidths now).WellAccounted
  := by
  apply WellAccounted.foldl_removeUdpRelay
  apply h.congr (classOf_measured bandwidths receiver now) rfl

theorem WellAccounted.relayPkt (addrSet : UdpRelayAddrSet) (size : Nat) (now : Int) :
  (receiver.relayPkt addrSet size now).WellAccounted
  := by
  apply h.congr (classOf_relayPkt receiver addrSet size now)
  rw [UdpRelayReceiver.relayPkt]
  cases receiver.mRelays.get? addrSet with
  | none => rfl
  | some relay => rfl

theorem WellAccounted.setRelayClassMax (classIdx count bandwidth : Int) :
  (receiver.setRelayClassMax classIdx count bandwidth).WellAccounted
  := by
  rw [UdpRelayReceiver.setRelayClassMax]
  split
  · exact h
  · exact h.congr (fun _ => rfl) rfl

/-- A call that adds no relay of class `UDP_RELAY_CLASS_ALL` accounts, and keeps the accounts. -/
theorem WellAccounted.next (hinput : ¬receiver.AddsClassAll input) :
  receiver.Accounts bandwidths input ∧
    ((machine bandwidths).next receiver input).WellAccounted
  := by
  have hkeeps : (machine bandwidths).emit receiver input = [] →
      ((machine bandwidths).next receiver input).WellAccounted →
      receiver.Accounts bandwidths input ∧
        ((machine bandwidths).next receiver input).WellAccounted := by
    intro hemit hnext
    refine ⟨⟨?_, hnext.toAccounted⟩, hnext⟩
    intro c hc
    rw [hemit] at hc
    cases hc
  cases input with
  | add addrSet relayClass now =>
    rcases addUdpRelay_cases bandwidths receiver addrSet relayClass now with
      ⟨hreceiver, hnone, -⟩ | ⟨c, limit, hsome, hadds, hnonneg, hlt, hall⟩
    · apply hkeeps
      · change (Option.map _ (receiver.addUdpRelay bandwidths addrSet relayClass now).2).toList = []
        rw [hnone]
        rfl
      · change (receiver.addUdpRelay bandwidths addrSet relayClass now).1.WellAccounted
        rw [hreceiver]
        exact h
    · have hpos : relayClassAll < c :=
        lt_of_le_of_ne hnonneg fun hzero => hinput (hall.1 hzero.symm)
      have hnext := h.adds hadds hpos hlt
      refine ⟨⟨?_, hnext.toAccounted⟩, hnext⟩
      intro c' hc'
      have hemit : c' ∈ (Option.map Prod.fst
          (receiver.addUdpRelay bandwidths addrSet relayClass now).2).toList := hc'
      rw [hsome] at hemit
      cases List.mem_singleton.1 hemit
      exact ⟨hadds.class_space, hadds.space⟩
  | remove addrSet => exact hkeeps rfl (h.removeUdpRelay addrSet)
  | check now => exact hkeeps rfl (h.checkRelays now)
  | setTotal count => exact hkeeps rfl (h.congr (fun _ => rfl) rfl)
  | setClassMax classIdx count bandwidth =>
    exact hkeeps rfl (h.setRelayClassMax classIdx count bandwidth)
  | relay addrSet size now => exact hkeeps rfl (h.relayPkt addrSet size now)

theorem WellAccounted.not_accounts (hinput : receiver.AddsClassAll input) :
  ¬receiver.Accounts bandwidths input
  := by
  cases input with
  | add addrSet relayClass now =>
    rcases addUdpRelay_cases bandwidths receiver addrSet relayClass now with
      ⟨-, -, hnot⟩ | ⟨c, limit, hsome, hadds, hnonneg, hlt, hall⟩
    · exact absurd hinput hnot
    · have hzero := hall.2 hinput
      subst hzero
      intro haccounts
      exact h.not_accounted_of_adds hadds haccounts.2
  | _ => cases hinput

end

/-- In a run, relays are accounted and installed within their limits exactly when none is added with
the class `UDP_RELAY_CLASS_ALL`. -/
theorem accounts_run_iff (bandwidths : Bandwidths β) (inputs : List Input) :
  (machine bandwidths).Along (fun receiver input => receiver.Accounts bandwidths input) new inputs ↔
    (machine bandwidths).Along (fun receiver input => ¬receiver.AddsClassAll input) new inputs
  := by
  have hkeeps : ∀ (receiver : UdpRelayReceiver β) (input : Input), receiver.WellAccounted →
      ¬receiver.AddsClassAll input → receiver.Accounts bandwidths input ∧
        ((machine bandwidths).next receiver input).WellAccounted :=
    fun receiver input h hinput => h.next hinput
  constructor
  · apply Machine.along_of_step _ wellAccounted_new
    intro receiver input h haccounts
    have hinput : ¬receiver.AddsClassAll input := fun hadds => h.not_accounts hadds haccounts
    exact ⟨hinput, (hkeeps receiver input h hinput).2⟩
  · apply Machine.along_of_step _ wellAccounted_new
    exact hkeeps

/-- Bandwidths of one number. -/
def unitBandwidths : Bandwidths Unit where
  ofInt _ := ()
  filtered _ _ _ := ()
  exceeds _ _ := false

/-- A relay of class `UDP_RELAY_CLASS_ALL` in a new receiver. -/
theorem not_accounts_classAll :
  ¬∀ inputs : List Input, (machine unitBandwidths).Along
      (fun receiver input => receiver.Accounts unitBandwidths input) new inputs
  := by
  intro h
  have htotal := (h [.add ⟨⟨2, 1, 1⟩, ⟨2, 2, 2⟩⟩ 0 0]).1.2.total
  revert htotal
  decide

end UdpRelayReceiver

end TcpOnUdp
