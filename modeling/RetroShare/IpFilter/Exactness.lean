import Mathlib.Tactic.IntervalCases
import RetroShare.IpFilter.Sources

/-!
# Exactness of the filter

Ranges are stored under addresses whose masked octets are 255, and the width of a range that is
found is not compared with the width that is looked up.  A stored range is therefore exact only when
its key tells its width.  The check of `addIpRange` sees to this except for ranges `a.b.255.0/24`:
their key is that of `a.b.0.0/16`.
-/

namespace IpFilter

open GRouter (RsPeerId)

/-! ### Keys that tell their width -/

/-- The bits of an IPv4 address that a range with masked octets fixes. -/
def netmask : Nat → BitVec 32
  | 0 => 0xffffffff#32
  | 1 => 0x00ffffff#32
  | _ => 0x0000ffff#32

/-- The third octet is 255. -/
def thirdOctetIs255 : IpAddress → Bool
  | .inet a => a &&& 0x00ff0000#32 = 0x00ff0000#32
  | _ => false

/-- The entry, as the range its masked octets say, contains an IPv4 address. -/
def BanListPeer.Covers (e : BanListPeer) (a : BitVec 32) : Prop :=
  ∃ net, e.addr.ip = .inet net ∧ a &&& netmask e.maskedBytes = net &&& netmask e.maskedBytes

/-- The entry is stored under the key of its range, and no wider range has this key. -/
structure BanListPeer.StoredAt (e : BanListPeer) (key : IpAddress) : Prop where
  maskedBytes_le : e.maskedBytes ≤ 2
  key_eq : makeBitsRange e.addr.ip e.maskedBytes = key
  last_octet : ∀ a, key = .inet a → e.maskedBytes = 0 → a &&& 0xff000000#32 ≠ 0xff000000#32
  third_octet : e.maskedBytes = 1 → thirdOctetIs255 key = false

/-- All ranges of a list are stored at their keys. -/
def AllStored (list : OrdMap IpAddress BanListPeer) : Prop :=
  ∀ key e, list.get? key = some e → e.StoredAt key

variable {m : Nat} {e : BanListPeer} {list : OrdMap IpAddress BanListPeer} {key : IpAddress}
  {a : BitVec 32}

theorem not_maskedBits_eq_netmask (h : m ≤ 2) :
  ~~~maskedBits m = netmask m
  := by
  match m, h with
  | 0, _ => rfl
  | 1, _ => rfl
  | 2, _ => rfl

theorem BanListPeer.covers_iff (h : e.StoredAt key) :
  e.Covers a ↔ makeBitsRange (.inet a) e.maskedBytes = key
  := by
  rw [← h.key_eq, Covers, makeBitsRange, ← not_maskedBits_eq_netmask h.maskedBytes_le]
  cases hip : e.addr.ip with
  | inet net =>
    simp only [makeBitsRange, IpAddress.inet.injEq, or_eq_or_iff]
    constructor
    · rintro ⟨net', rfl, heq⟩
      exact heq
    · intro heq
      exact ⟨net, rfl, heq⟩
  | unspec => simp [makeBitsRange]
  | inet6 b => simp [makeBitsRange]

theorem makeBitsRange_makeBitsRange {j : Nat} (hm : m ≤ 2) (hjm : j ≤ m) (ip : IpAddress) :
  makeBitsRange (makeBitsRange ip j) m = makeBitsRange ip m
  := by
  cases ip with
  | inet a =>
    simp only [makeBitsRange, IpAddress.inet.injEq, BitVec.or_assoc]
    congr 1
    interval_cases m <;> interval_cases j <;> rfl
  | unspec => rfl
  | inet6 a => rfl

theorem BanListPeer.StoredAt.covers_of_makeBitsRange {j : Nat} (hj : j ≤ 2)
    (h : e.StoredAt (makeBitsRange (.inet a) j)) :
  e.Covers a
  := by
  rw [BanListPeer.covers_iff h]
  have hm := h.maskedBytes_le
  have hjm : j ≤ e.maskedBytes := by
    by_contra hlt
    have hmb : e.maskedBytes = 0 ∨ e.maskedBytes = 1 := by omega
    rcases hmb with hmb | hmb
    · apply h.last_octet _ rfl hmb
      have hj' : j = 1 ∨ j = 2 := by omega
      rcases hj' with rfl | rfl
      · exact or_and_of_and_eq a (by decide)
      · exact or_and_of_and_eq a (by decide)
    · have hj' : j = 2 := by omega
      subst hj'
      have hthird := h.third_octet hmb
      have hset : (a ||| maskedBits 2) &&& 0x00ff0000#32 = 0x00ff0000#32 :=
        or_and_of_and_eq a (by decide)
      simp only [makeBitsRange, thirdOctetIs255, decide_eq_false_iff_not] at hthird
      exact hthird hset
  have hidem : makeBitsRange (makeBitsRange (.inet a) j) e.maskedBytes =
      makeBitsRange (.inet a) j := by
    conv_rhs => rw [← h.key_eq]
    rw [← h.key_eq]
    apply makeBitsRange_makeBitsRange hm (le_refl _)
  rw [← hidem, makeBitsRange_makeBitsRange hm hjm]

/-- Looking a list up at the three widths finds the ranges that contain the address. -/
theorem AllStored.exists_covers_iff (h : AllStored list) (p : BanListPeer → Prop) (a : BitVec 32) :
  (∃ key e, list.get? key = some e ∧ p e ∧ e.Covers a) ↔
    ∃ j ≤ 2, ∃ e, list.get? (makeBitsRange (.inet a) (j : Nat)) = some e ∧ p e
  := by
  constructor
  · rintro ⟨key, e, hget, hp, hcovers⟩
    have hstored := h key e hget
    rw [BanListPeer.covers_iff hstored] at hcovers
    subst hcovers
    exact ⟨e.maskedBytes, hstored.maskedBytes_le, e, hget, hp⟩
  · rintro ⟨j, hj, e, hget, hp⟩
    exact ⟨_, e, hget, hp, (h _ e hget).covers_of_makeBitsRange hj⟩

/-! ### Operations on lists of ranges -/

theorem AllStored.empty : AllStored OrdMap.empty := by
  intro key e h
  cases h

theorem AllStored.erase (h : AllStored list) (key : IpAddress) :
  AllStored (list.erase key)
  := by
  intro key' e he
  apply h key' e (OrdMap.get?_of_get?_erase he)

theorem AllStored.filter (h : AllStored list) (p : IpAddress → BanListPeer → Bool) :
  AllStored (list.filter p)
  := by
  intro key e he
  rw [OrdMap.get?_filter, Option.filter_eq_some_iff] at he
  apply h key e he.1

theorem AllStored.insert (h : AllStored list) (he : e.StoredAt key) :
  AllStored (list.insert key e)
  := by
  intro key' e' he'
  rw [OrdMap.get?_insert] at he'
  split at he'
  case isTrue hkey =>
    rw [Option.some.injEq] at he'
    subst hkey he'
    exact he
  case isFalse => apply h key' e' he'

open p3BanList

theorem AllStored.withRange (h : AllStored list) {ip : IpAddress}
    (he : e.StoredAt (makeBitsRange ip m)) :
  AllStored (withRange list ip m e)
  := by
  apply AllStored.insert _ he
  generalize List.range m = l
  induction l generalizing list with
  | nil => exact h
  | cons i l ih =>
    rw [List.foldl_cons]
    apply ih (h.erase _)

/-- The check of `addIpRange` excludes keys of wider ranges, but for a third octet 255. -/
theorem storedAt_userRange {addr : SockaddrStorage} (hm : m ≤ 2) (hbits : getBitRange addr.ip ≤ m)
    (hthird : m = 1 → thirdOctetIs255 addr.ip = false) (comment : String) (now : Int) :
  (userRange addr m comment now).StoredAt (makeBitsRange addr.ip m)
  where
  maskedBytes_le := hm
  key_eq := rfl
  last_octet a ha hzero := by
    change m = 0 at hzero
    subst hzero
    change makeBitsRange addr.ip 0 = .inet a at ha
    rw [makeBitsRange_zero] at ha
    intro hset
    rw [ha] at hbits
    simp only [getBitRange, hset, ne_eq, not_true_eq_false, if_false] at hbits
    split at hbits
    · cases hbits
    · split at hbits
      · cases hbits
      · split at hbits <;> cases hbits
  third_octet hone := by
    change m = 1 at hone
    subst hone
    have hthird := hthird rfl
    cases hip : addr.ip with
    | inet a =>
      rw [hip] at hthird
      simp only [thirdOctetIs255, makeBitsRange, decide_eq_false_iff_not] at hthird ⊢
      have hsame : (a ||| maskedBits 1) &&& 0x00ff0000#32 = a &&& 0x00ff0000#32 := by
        rw [BitVec.and_or_distrib_right]
        exact BitVec.or_zero
      rw [← hsame] at hthird
      exact hthird
    | unspec => rfl
    | inet6 a => rfl

/-! ### Well-formed lists -/

namespace p3BanList

/-- The ranges are stored at their keys, the sources report IPv4 addresses, and the set has its
entries under their addresses. -/
structure WellFormed (s : p3BanList) : Prop where
  ranges : AllStored s.banRanges
  white : AllStored s.whiteListedRanges
  sources : ∀ peer source, s.banSources.get? peer = some source →
    ∀ a e, source.banPeers.get? a = some e → ∃ ip, e.addr.ip = .inet ip
  set : ∀ key bp, s.banSet.get? key = some bp → bp.addr.ip = key

variable {s : p3BanList}

theorem WellFormed.init : init.WellFormed where
  ranges := AllStored.empty
  white := AllStored.empty
  sources := fun peer source h => by cases h
  set := fun key bp h => by cases h

theorem WellFormed.condenseBanSources (ownId : RsPeerId) (now : Int)
    (hranges : AllStored s.banRanges) (hwhite : AllStored s.whiteListedRanges)
    (hsources : ∀ peer source, s.banSources.get? peer = some source →
      ∀ a e, source.banPeers.get? a = some e → ∃ ip, e.addr.ip = .inet ip) :
  (s.condenseBanSources ownId now).WellFormed
  where
  ranges := hranges
  white := hwhite
  sources := hsources
  set := by
    have hentry : ∀ (peer : RsPeerId) (set : OrdMap IpAddress BanListPeer) (e : BanListPeer),
        (∀ key bp, set.get? key = some bp → bp.addr.ip = key) → (∃ ip, e.addr.ip = .inet ip) →
        ∀ key bp, (s.condenseEntry ownId now peer set e).get? key = some bp →
          bp.addr.ip = key := by
      rintro peer set e hset ⟨ip, hip⟩ key bp hbp
      have hinsert : ∀ bp', bp'.addr.ip = bannedAddr e.addr.ip →
          (set.insert (bannedAddr e.addr.ip) bp').get? key = some bp → bp.addr.ip = key := by
        intro bp' hbp' hget
        rw [OrdMap.get?_insert] at hget
        split at hget
        case isTrue hkey =>
          rw [Option.some.injEq] at hget
          rw [← hget, hbp', hkey]
        case isFalse => exact hset key bp hget
      have hnew : (e.addr.ip : IpAddress) = bannedAddr e.addr.ip := by rw [hip]; rfl
      rw [condenseEntry] at hbp
      simp only at hbp
      split at hbp
      · exact hset key bp hbp
      · split at hbp
        · exact hset key bp hbp
        · split at hbp
          · apply hinsert _ _ hbp
            exact hnew
          · rename_i bp' hold
            split at hbp
            · apply hinsert _ _ hbp
              exact hnew
            · split at hbp
              · apply hinsert _ _ hbp
                exact hset _ bp' hold
              · exact hset key bp hbp
    have hentries : ∀ (peer : RsPeerId) (l : List (SockaddrStorage × BanListPeer))
        (set : OrdMap IpAddress BanListPeer), (∀ e ∈ l, ∃ ip, e.2.addr.ip = .inet ip) →
        (∀ key bp, set.get? key = some bp → bp.addr.ip = key) →
        ∀ key bp, (l.foldl (fun set e => s.condenseEntry ownId now peer set e.2) set).get? key =
          some bp → bp.addr.ip = key := by
      intro peer l
      induction l with
      | nil => exact fun set _ hset => hset
      | cons e l ih =>
        intro set hl hset
        apply ih _ fun e' he' => hl e' (List.mem_cons_of_mem e he')
        exact hentry peer set e.2 hset (hl e List.mem_cons_self)
    have hall : ∀ (l : List (RsPeerId × BanList)) (set : OrdMap IpAddress BanListPeer),
        (∀ source ∈ l, ∀ e ∈ source.2.banPeers.toList, ∃ ip, e.2.addr.ip = .inet ip) →
        (∀ key bp, set.get? key = some bp → bp.addr.ip = key) →
        ∀ key bp, (l.foldl (s.condenseSource ownId now) set).get? key = some bp →
          bp.addr.ip = key := by
      intro l
      induction l with
      | nil => exact fun set _ hset => hset
      | cons source l ih =>
        intro set hl hset
        apply ih _ fun source' hs' => hl source' (List.mem_cons_of_mem source hs')
        intro key bp hbp
        rw [condenseSource] at hbp
        split at hbp
        · exact hset key bp hbp
        · exact hentries source.1 _ set (hl source List.mem_cons_self) hset key bp hbp
    apply hall s.banSources.toList OrdMap.empty
    · rintro ⟨peer, source⟩ hsource ⟨a, e⟩ he
      rw [OrdMap.mem_toList] at hsource he
      exact hsources peer source hsource a e he
    · intro key bp h
      cases h

theorem WellFormed.addBanEntry (h : s.WellFormed) (peerId : RsPeerId) (addr : SockaddrStorage)
    (level reason : BitVec 32) (timeStamp now : Int) :
  (s.addBanEntry peerId addr level reason timeStamp now).2.WellFormed
  := by
  by_cases hnew : s.IsNews peerId addr level reason timeStamp
  case neg => rwa [addBanEntry_of_not_isNews now hnew]
  case pos =>
    rw [addBanEntry_of_isNews now hnew]
    refine ⟨h.ranges, h.white, ?_, h.set⟩
    intro peer source hsource a e he
    rcases OrdMap.get?_insert_iff.mp hsource with ⟨-, rfl⟩ | ⟨-, hsource⟩
    · simp only [sourceWith, OrdMap.get?_insert] at he
      split at he
      case isTrue =>
        rw [Option.some.injEq] at he
        subst he
        exact exists_inet_of_isExternalNet hnew.1
      case isFalse =>
        rw [sourceOf] at he
        cases hget : s.banSources.get? peerId with
        | none =>
          rw [hget] at he
          cases he
        | some source =>
          rw [hget] at he
          exact h.sources peerId source hget a e he
    · exact h.sources peer source hsource a e he

theorem WellFormed.isAddressAccepted (h : s.WellFormed) (addr : SockaddrStorage)
    (checkingFlags : BitVec 32) :
  (s.isAddressAccepted addr checkingFlags).2.2.WellFormed
  := by
  have hattempt : ∀ key blp, s.bannedRange key = some blp → (s.attemptRange key blp).WellFormed := by
    intro key blp hblp
    rw [bannedRange, Option.filter_eq_some_iff] at hblp
    have hstored := h.ranges key blp hblp.1
    refine ⟨?_, h.white, h.sources, h.set⟩
    apply h.ranges.insert
    exact ⟨hstored.maskedBytes_le, hstored.key_eq, hstored.last_octet, hstored.third_octet⟩
  rw [p3BanList.isAddressAccepted]
  simp only
  split
  · exact h
  · split
    · exact h
    · split
      · exact h
      · split
        · exact h
        · split
          · exact h
          · split
            · exact hattempt _ _ ‹_›
            · split
              · exact hattempt _ _ ‹_›
              · split
                · exact hattempt _ _ ‹_›
                · split
                  case h_1 blp hblp =>
                    rw [Option.filter_eq_some_iff] at hblp
                    refine ⟨h.ranges, h.white, h.sources, ?_⟩
                    intro key bp hbp
                    rcases OrdMap.get?_insert_iff.mp hbp with ⟨hkey, rfl⟩ | ⟨-, hbp⟩
                    · rw [hkey]
                      exact h.set _ blp hblp.1
                    · exact h.set key bp hbp
                  case h_2 => exact h

/-! ### The condition on a call -/

/-- No range `a.b.255.0/24` is about to be made: none of them holds as many addresses of the set as
the limit, unless the user has a range under its key. -/
def rangesTellWidth (s : p3BanList) : Bool :=
  !s.autoRangeIps || (rangeMap s.banSet).toList.all fun r =>
    r.2 < s.autoRangeLimit || !thirdOctetIs255 r.1 ||
      (s.banRanges.get? r.1).any fun e => e.reason = reasonUser

end p3BanList

/-- The call stores no range `a.b.255.0/24`. -/
def Call.tellsWidth (s : p3BanList) : Call → Bool
  | .addIpRange addr m listType _ =>
      !(m = 1 && thirdOctetIs255 addr.ip && getBitRange addr.ip ≤ 1 &&
        (listType = typeBlacklist || listType = typeWhitelist))
  | .enableAutoRange b => { s with autoRangeIps := b }.rangesTellWidth
  | .setAutoRangeLimit n => { s with autoRangeLimit := (n % 2 ^ 32).toNat }.rangesTellWidth
  | .autoFigureOutBanRanges => s.rangesTellWidth
  | _ => true

namespace p3BanList

variable {s : p3BanList}

theorem WellFormed.addIpRange (h : s.WellFormed) (ownId : RsPeerId) {addr : SockaddrStorage}
    {m : Int} {listType : BitVec 32} {comment : String} (now : Int)
    (hcall : (Call.addIpRange addr m listType comment).tellsWidth s = true) :
  (s.addIpRange ownId addr m listType comment now).WellFormed
  := by
  rw [p3BanList.addIpRange]
  split
  case isTrue => exact h
  case isFalse hbits =>
    split
    case isTrue => exact h
    case isFalse hm =>
      split
      case isTrue => exact h
      case isFalse hlist =>
        have hm' : (m.toNat : Int) = m ∧ m.toNat ≤ 2 := by omega
        have hbits' : getBitRange addr.ip ≤ m.toNat := by omega
        have hthird : m.toNat = 1 → thirdOctetIs255 addr.ip = false := by
          intro hone
          have hm1 : m = 1 := by omega
          rw [hone] at hbits'
          have hcases : thirdOctetIs255 addr.ip = false ∨
              listType ≠ typeBlacklist ∧ listType ≠ typeWhitelist := by
            simpa [Call.tellsWidth, hm1, hbits'] using hcall
          exact hcases.resolve_right hlist
        have hstored := storedAt_userRange hm'.2 hbits' hthird comment now
        apply WellFormed.condenseBanSources
        · split
          · exact h.ranges.withRange hstored
          · exact h.ranges
        · split
          · exact h.white
          · exact h.white.withRange hstored
        · split <;> exact h.sources

theorem WellFormed.removeIpRange (h : s.WellFormed) (ownId : RsPeerId) (addr : SockaddrStorage)
    (m : Int) (listType : BitVec 32) (now : Int) :
  (s.removeIpRange ownId addr m listType now).WellFormed
  := by
  apply WellFormed.condenseBanSources
  · split
    · exact h.ranges.erase _
    · split <;> exact h.ranges
  · split
    · exact h.white
    · split
      · exact h.white.erase _
      · exact h.white
  · split
    · exact h.sources
    · split <;> exact h.sources

theorem storedAt_autoRange (old : BanListPeer) {ip r : IpAddress} (n : Nat) (now : Int)
    (hr : r = makeBitsRange ip 1) (hthird : thirdOctetIs255 r = false) :
  (autoRange old r n now).StoredAt r
  where
  maskedBytes_le := by simp [autoRange]
  key_eq := by
    subst hr
    apply makeBitsRange_makeBitsRange (j := 1) (m := 1)
    · decide
    · decide
  last_octet a ha hzero := by simp [autoRange] at hzero
  third_octet _ := hthird

theorem WellFormed.autoFigureOutBanRanges (h : s.WellFormed) (ownId : RsPeerId) (now : Int)
    (htells : s.rangesTellWidth = true) :
  (s.autoFigureOutBanRanges ownId now).WellFormed
  := by
  rw [p3BanList.autoFigureOutBanRanges]
  have hkept := h.ranges.filter fun _ blp => blp.reason ≠ reasonAutoRange
  split
  case isTrue => exact ⟨hkept, h.white, h.sources, h.set⟩
  case isFalse hauto =>
    apply WellFormed.condenseBanSources
    · intro k e he
      simp only [get?_foldl_figureOutRange] at he
      cases hr : (rangeMap s.banSet).get? k with
      | none =>
        rw [hr] at he
        exact hkept k e he
      | some n =>
        rw [hr, Option.map_some, Option.getD_some, figuredOut] at he
        split at he
        case isFalse => exact hkept k e he
        case isTrue hnew =>
          rw [Option.some.injEq] at he
          subst he
          obtain ⟨ip, hip⟩ := exists_of_get?_rangeMap hr
          apply storedAt_autoRange _ n now hip
          by_contra hthird
          rw [Bool.not_eq_false] at hthird
          have hall : ((rangeMap s.banSet).toList.all fun r =>
              r.2 < s.autoRangeLimit || !thirdOctetIs255 r.1 ||
                (s.banRanges.get? r.1).any fun e => e.reason = reasonUser) = true := by
            simpa [rangesTellWidth, hauto] using htells
          have hkn := List.all_eq_true.mp hall (k, n) (OrdMap.mem_toList.mpr hr)
          simp only [hthird, not_lt.mpr hnew.1, decide_false, Bool.not_true, Bool.false_or] at hkn
          obtain ⟨e', he', huser⟩ := (Option.any_eq_true _ _).mp hkn
          apply hnew.2
          rw [decide_eq_true_eq] at huser
          rw [OrdMap.get?_filter, he', Option.filter, huser]
          exact huser
    · exact h.white
    · exact h.sources

/-- A call that makes no range `a.b.255.0/24` keeps a list well-formed. -/
theorem WellFormed.next (h : s.WellFormed) (ownId : RsPeerId) (i : Input)
    (hcall : i.call.tellsWidth s = true) :
  ((service ownId).next s i).WellFormed
  := by
  obtain ⟨now, call⟩ := i
  cases call with
  | addIpRange addr m listType comment => exact h.addIpRange ownId now hcall
  | removeIpRange addr m listType => exact h.removeIpRange ownId addr m listType now
  | isAddressAccepted addr flags => exact h.isAddressAccepted addr flags
  | enableIPFiltering b => exact ⟨h.ranges, h.white, h.sources, h.set⟩
  | enableIPsFromFriends b => exact ⟨h.ranges, h.white, h.sources, h.set⟩
  | enableIPsFromDHT b => exact ⟨h.ranges, h.white, h.sources, h.set⟩
  | enableAutoRange b =>
    apply WellFormed.autoFigureOutBanRanges _ ownId now hcall
    exact ⟨h.ranges, h.white, h.sources, h.set⟩
  | setAutoRangeLimit n =>
    apply WellFormed.autoFigureOutBanRanges _ ownId now hcall
    exact ⟨h.ranges, h.white, h.sources, h.set⟩
  | updatePeer addr timeStamp =>
    have h' := h.addBanEntry ownId addr originSelf reasonDht timeStamp now
    exact WellFormed.condenseBanSources ownId now h'.ranges h'.white h'.sources
  | addBanEntry peerId addr level reason timeStamp =>
    exact h.addBanEntry peerId addr level reason timeStamp now
  | condenseBanSources => exact WellFormed.condenseBanSources ownId now h.ranges h.white h.sources
  | autoFigureOutBanRanges => exact h.autoFigureOutBanRanges ownId now hcall
  | processIncoming items =>
    have h' : (s.recvItems items now).2.WellFormed := by
      apply recvItems_keeps _ h
      intro item _ e _ s' hs'
      apply hs'.addBanEntry
    change (s.processIncoming ownId items now).WellFormed
    rw [processIncoming]
    split
    · exact WellFormed.condenseBanSources ownId now h'.ranges h'.white h'.sources
    · exact h'
  | sendPackets peersConnected =>
    change (s.sendPackets peersConnected now).1.WellFormed
    rw [sendPackets]
    split
    · exact ⟨h.ranges, h.white, h.sources, h.set⟩
    · exact h
  | getDhtInfo filteredPeers =>
    have h' : (filteredPeers.foldl
        (fun s p => (s.addBanEntry ownId ⟨.inet p.sAddr, p.sinPort⟩ originSelf reasonDht
          (p.lastSeen.bmod (2 ^ 32)) now).2) s).WellFormed := by
      induction filteredPeers generalizing s with
      | nil => exact h
      | cons p l ih => exact ih (h.addBanEntry _ _ _ _ _ _) rfl
    have h'' := WellFormed.condenseBanSources ownId now h'.ranges h'.white h'.sources
    exact ⟨h''.ranges, h''.white, h''.sources, h''.set⟩

/-! ### Exactness -/

/-- Under the black list, an IPv4 address is rejected exactly when no white-listed range contains it
and an accepted range, or an accepted entry of the set, does. -/
def Exact (s : p3BanList) : Prop :=
  ∀ (a : BitVec 32) (port : BitVec 16), isLoopbackNet (.inet a) = false →
    ((s.isAddressAccepted ⟨.inet a, port⟩ checkingFlagsBlacklist).1 = false ↔
      (¬ ∃ key e, s.whiteListedRanges.get? key = some e ∧ e.Covers a) ∧
        ((∃ key e, s.banRanges.get? key = some e ∧ s.acceptedBanRanges e = true ∧ e.Covers a) ∨
          ∃ key e, s.banSet.get? key = some e ∧ s.acceptedBanSet e = true ∧
            e.addr.ip = .inet a))

theorem WellFormed.exact (h : s.WellFormed) (hon : s.ipFilteringEnabled = true) :
  s.Exact
  := by
  intro a port hloop
  have hthree : ∀ p : Nat → Prop, (∃ j ≤ 2, p j) ↔ p 0 ∨ p 1 ∨ p 2 := by
    intro p
    constructor
    · rintro ⟨j, hj, hp⟩
      obtain rfl | rfl | rfl : j = 0 ∨ j = 1 ∨ j = 2 := by omega
      · exact .inl hp
      · exact .inr (.inl hp)
      · exact .inr (.inr hp)
    · rintro (hp | hp | hp)
      · exact ⟨0, by decide, hp⟩
      · exact ⟨1, by decide, hp⟩
      · exact ⟨2, by decide, hp⟩
  have hwhite : s.isWhiteListed (.inet a) = true ↔
      ∃ key e, s.whiteListedRanges.get? key = some e ∧ e.Covers a := by
    have hcovers := h.white.exists_covers_iff (fun _ => True) a
    simp only [true_and, and_true] at hcovers
    rw [hcovers, hthree, isWhiteListed]
    simp only [Bool.or_eq_true, Option.isSome_iff_exists, or_assoc]
    rfl
  have hranges : ((s.bannedRange (makeBitsRange (.inet a) 2)).isSome = true ∨
      (s.bannedRange (makeBitsRange (.inet a) 1)).isSome = true) ∨
      (s.bannedRange (.inet a)).isSome = true ↔
      ∃ key e, s.banRanges.get? key = some e ∧ s.acceptedBanRanges e = true ∧ e.Covers a := by
    rw [h.ranges.exists_covers_iff (fun e => s.acceptedBanRanges e = true), hthree,
      ← makeBitsRange_zero (.inet a)]
    simp only [makeBitsRange_zero, bannedRange, Option.isSome_iff_exists,
      Option.filter_eq_some_iff]
    constructor
    · rintro ((hr | hr) | hr)
      · exact .inr (.inr hr)
      · exact .inr (.inl hr)
      · exact .inl (by simpa using hr)
    · rintro (hr | hr | hr)
      · exact .inr (by simpa using hr)
      · exact .inl (.inr hr)
      · exact .inl (.inl hr)
  have hset : ((s.banSet.get? (.inet a)).filter s.acceptedBanSet).isSome = true ↔
      ∃ key e, s.banSet.get? key = some e ∧ s.acceptedBanSet e = true ∧ e.addr.ip = .inet a := by
    simp only [Option.isSome_iff_exists, Option.filter_eq_some_iff]
    constructor
    · rintro ⟨bp, hget, haccepted⟩
      exact ⟨_, bp, hget, haccepted, h.set _ bp hget⟩
    · rintro ⟨key, bp, hget, haccepted, hip⟩
      rw [← hip, h.set key bp hget]
      exact ⟨bp, hget, haccepted⟩
  rw [rejected_iff, bans, ← hwhite, ← hset, ← hranges]
  simp only [Bool.or_eq_true, Bool.not_eq_true, hloop, hon, true_and]

/-- The filter is exact after every run that makes no range `a.b.255.0/24`. -/
theorem exact_run (ownId : RsPeerId) (is : List Input)
    (hcalls : (service ownId).Along (fun s i => i.call.tellsWidth s = true) init is)
    (hon : ((service ownId).run init is).ipFilteringEnabled = true) :
  ((service ownId).run init is).Exact
  := by
  have h : ((service ownId).run init is).WellFormed := by
    apply Machine.run_of_step _ WellFormed.init hcalls
    intro s i hs hi
    exact hs.next ownId i hi
  exact h.exact hon

/-- A user bans 1.2.0.0/16 and allows 1.2.3.0/24. -/
theorem exact_run_userRanges :
  ((service 1).run init [⟨10, .addIpRange ⟨ipv4 1 2 3 4, 0⟩ 2 typeBlacklist "ban"⟩,
    ⟨20, .addIpRange ⟨ipv4 1 2 3 4, 0⟩ 1 typeWhitelist "but"⟩,
    ⟨30, .autoFigureOutBanRanges⟩]).Exact
  := exact_run 1 _ (by decide +kernel) (by decide +kernel)

/-- Banning 1.2.255.0/24 also rejects 1.2.3.4. -/
theorem not_exact_run_thirdOctet :
  ¬ ∀ (ownId : RsPeerId) (is : List Input),
    ((service ownId).run init is).ipFilteringEnabled = true →
    ((service ownId).run init is).Exact
  := by
  intro h
  have hexact := h 1 [⟨10, .addIpRange ⟨ipv4 1 2 255 7, 0⟩ 1 typeBlacklist ""⟩] (by decide +kernel)
    0x04030201#32 0 (by decide)
  have hrejected : (((service 1).run init
      [⟨10, .addIpRange ⟨ipv4 1 2 255 7, 0⟩ 1 typeBlacklist ""⟩]).isAddressAccepted
        ⟨.inet 0x04030201#32, 0⟩ checkingFlagsBlacklist).1 = false := by decide +kernel
  have hranges : ((service 1).run init
      [⟨10, .addIpRange ⟨ipv4 1 2 255 7, 0⟩ 1 typeBlacklist ""⟩]).banRanges.toList =
        [(ipv4 1 2 255 255, userRange ⟨ipv4 1 2 255 7, 0⟩ 1 "" 10)] := by decide +kernel
  have hset : ((service 1).run init
      [⟨10, .addIpRange ⟨ipv4 1 2 255 7, 0⟩ 1 typeBlacklist ""⟩]).banSet.toList = [] := by
    decide +kernel
  obtain ⟨key, e, he, -, net, hnet, hcovers⟩ | ⟨key, e, he, -⟩ := (hexact.mp hrejected).2
  · rw [← OrdMap.mem_toList, hranges, List.mem_singleton, Prod.mk.injEq] at he
    rw [he.2] at hnet hcovers
    have hnet' : net = 0x07ff0201#32 := by
      rw [userRange, ipv4, IpAddress.inet.injEq] at hnet
      exact hnet.symm
    rw [hnet'] at hcovers
    exact absurd hcovers (by decide)
  · rw [← OrdMap.mem_toList, hset] at he
    cases he

end p3BanList

end IpFilter
