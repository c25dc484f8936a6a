import RetroShare.IpFilter.Sources

/-!
# When a new entry leaves a ban in place

Storing an entry and condensing can lift a ban: the merged record of an address may lose the level
or the reason that made it count, because a friend's entry is given a level below our own or adds
bits to the reason.  We say exactly when an address that was rejected is still rejected.
-/

namespace IpFilter

open GRouter (RsPeerId)

namespace p3BanList

variable (s : p3BanList) (ownId : RsPeerId)

/-! ### Merged records that ban -/

/-- The reports at a level are for the reason `v`, or for no reason. -/
def AllFor (v : BitVec 32) (P : BitVec 32 → Prop) : Prop :=
  (∀ reason, P reason → reason = reasonUnknown ∨ reason = v) ∧ P v

/-- Reports with these levels and reasons ban an address: the least level is that of a friend and
friends are listened to, or all reports at this level are by the user, or they are by the DHT, at
our own level, and the DHT is listened to. -/
def ReportsBan (P : BitVec 32 → BitVec 32 → Prop) : Prop :=
  ∃ lvl, (∃ reason, P lvl reason) ∧ (∀ l reason, P l reason → lvl ≤ l) ∧
    (1 < lvl ∧ s.ipFriendGatheringEnabled = true ∨ AllFor reasonUser (P lvl) ∨
      AllFor reasonDht (P lvl) ∧ s.ipDHTGatheringEnabled = true ∧ lvl = 1)

/-- Reasons put together are a single flag exactly when they all are this flag or nothing. -/
theorem eq_twoPow_iff_allFor {P : BitVec 32 → Prop} {x : BitVec 32} {j : Nat} (hj : j < 32)
    (h : ∀ i, x.getLsbD i = true ↔ ∃ reason, P reason ∧ reason.getLsbD i = true) :
  x = BitVec.twoPow 32 j ↔ AllFor (BitVec.twoPow 32 j) P
  := by
  constructor
  · rintro rfl
    have hsub : ∀ reason, P reason → ∀ i, reason.getLsbD i = true → i = j := by
      intro reason hreason i hi
      have := (h i).mpr ⟨reason, hreason, hi⟩
      simp only [BitVec.getLsbD_twoPow, Bool.and_eq_true, decide_eq_true_eq] at this
      exact this.2.symm
    have hflag : ∀ reason, P reason → reason.getLsbD j = true →
        reason = BitVec.twoPow 32 j := by
      intro reason hreason hbit
      apply BitVec.eq_of_getLsbD_eq
      intro i hi
      rw [Bool.eq_iff_iff, BitVec.getLsbD_twoPow]
      constructor
      · intro hbit'
        simp [hj, hsub reason hreason i hbit']
      · intro hij
        simp only [Bool.and_eq_true, decide_eq_true_eq] at hij
        rwa [← hij.2]
    constructor
    · intro reason hreason
      cases hbit : reason.getLsbD j with
      | true => exact .inr (hflag reason hreason hbit)
      | false =>
        left
        apply BitVec.eq_of_getLsbD_eq
        intro i hi
        cases hbit' : reason.getLsbD i with
        | true =>
          rw [hsub reason hreason i hbit', hbit] at hbit'
          cases hbit'
        | false => simp [reasonUnknown]
    · obtain ⟨reason, hreason, hbit⟩ := (h j).mp (by simp [hj])
      rw [← hflag reason hreason hbit]
      exact hreason
  · rintro ⟨hall, hP⟩
    apply BitVec.eq_of_getLsbD_eq
    intro i _
    rw [Bool.eq_iff_iff, h]
    constructor
    · rintro ⟨reason, hreason, hbit⟩
      rcases hall reason hreason with rfl | rfl
      · simp [reasonUnknown] at hbit
      · exact hbit
    · intro hbit
      exact ⟨_, hP, hbit⟩

variable {s ownId}

theorem Merged.acceptedBanSet_iff {P : BitVec 32 → BitVec 32 → Prop} {bp : BanListPeer}
    (h : Merged P (some bp)) :
  s.acceptedBanSet bp = true ↔ s.ReportsBan P
  := by
  obtain ⟨⟨r₀, hr₀⟩, hle, hbits⟩ := h
  have huser : bp.reason = reasonUser ↔ AllFor reasonUser (P bp.level) :=
    eq_twoPow_iff_allFor (j := 0) (by decide) hbits
  have hdht : bp.reason = reasonDht ↔ AllFor reasonDht (P bp.level) :=
    eq_twoPow_iff_allFor (j := 1) (by decide) hbits
  have haccepted : s.acceptedBanSet bp = true ↔
      1 < bp.level ∧ s.ipFriendGatheringEnabled = true ∨ bp.reason = reasonUser ∨
        bp.reason = reasonDht ∧ s.ipDHTGatheringEnabled = true ∧ bp.level = 1 := by
    rw [acceptedBanSet]
    split
    case isTrue hf =>
      rw [Bool.and_eq_true, decide_eq_true_eq] at hf
      exact iff_of_true rfl (.inl hf)
    case isFalse hf =>
      rw [Bool.and_eq_true, decide_eq_true_eq] at hf
      rw [or_iff_right hf]
      split
      case isTrue hu => exact iff_of_true rfl (.inl hu)
      case isFalse hu =>
        rw [or_iff_right hu]
        split
        case isTrue hd =>
          rw [and_iff_right hd, Bool.and_eq_true, decide_eq_true_eq]
        case isFalse hd =>
          exact iff_of_false Bool.false_ne_true fun h => hd h.1
  rw [haccepted, huser, hdht]
  constructor
  · intro hban
    exact ⟨bp.level, ⟨r₀, hr₀⟩, hle, hban⟩
  · rintro ⟨lvl, ⟨r, hr⟩, hleast, hban⟩
    have : lvl = bp.level := BitVec.le_antisymm (hleast _ _ hr₀) (hle _ _ hr)
    rwa [this] at hban

theorem accepted_condensed_iff (s : p3BanList) (ownId : RsPeerId) (now : Int) (ip : IpAddress) :
  (((s.condenseBanSources ownId now).banSet.get? ip).filter s.acceptedBanSet).isSome = true ↔
    s.ReportsBan (s.Counts ownId now ip)
  := by
  have h := merged_condenseBanSources s ownId now ip
  cases hget : (s.condenseBanSources ownId now).banSet.get? ip with
  | none =>
    rw [hget] at h
    constructor
    · intro hsome
      cases hsome
    · rintro ⟨lvl, ⟨reason, hreason⟩, -⟩
      exact absurd hreason (h lvl reason)
  | some bp =>
    rw [hget] at h
    rw [← h.acceptedBanSet_iff]
    cases haccepted : s.acceptedBanSet bp <;> simp [Option.filter, haccepted]

/-! ### The reports once an entry is stored -/

variable (s ownId)

/-- The entries that count for an address once a source reports `addr`.  An entry that is news takes
the place of what the source reported for the address, and keeps the source up to date. -/
def CountsWith (peerId : RsPeerId) (addr : SockaddrStorage) (level reason : BitVec 32)
    (timeStamp now : Int) (key : IpAddress) (lvl rsn : BitVec 32) : Prop :=
  s.IsNews peerId addr level reason timeStamp ∧
    ((∃ peer source, s.banSources.get? peer = some source ∧
      (peer = peerId ∨ ¬ now - source.lastUpdate > entryMaxAge) ∧
        ∃ a e, source.banPeers.get? a = some e ∧ (peer = peerId → a ≠ ⟨addr.ip, 0⟩) ∧
          s.CountsAs ownId now key peer e lvl rsn) ∨
      (¬ now > entryMaxAge + timeStamp ∧ addr.ip = key ∧ ¬ s.isWhiteListed key ∧
        lvl = condensedLevel ownId peerId level ∧ rsn = reason)) ∨
  ¬ s.IsNews peerId addr level reason timeStamp ∧ s.Counts ownId now key lvl rsn

variable {s ownId}

theorem counts_addBanEntry (peerId : RsPeerId) (addr : SockaddrStorage)
    (level reason : BitVec 32) (timeStamp now : Int) (key : IpAddress) (lvl rsn : BitVec 32) :
  (s.addBanEntry peerId addr level reason timeStamp now).2.Counts ownId now key lvl rsn ↔
    s.CountsWith ownId peerId addr level reason timeStamp now key lvl rsn
  := by
  by_cases hnew : s.IsNews peerId addr level reason timeStamp
  case neg =>
    rw [CountsWith, addBanEntry_of_not_isNews now hnew, and_iff_right hnew,
      or_iff_right fun h => hnew h.1]
  case pos =>
    rw [CountsWith, addBanEntry_of_isNews now hnew, and_iff_right hnew,
      or_iff_left fun h => h.1 hnew]
    obtain ⟨a₀, ha₀⟩ := exists_inet_of_isExternalNet hnew.1
    have hnone : ¬ now - now > entryMaxAge := by simp [entryMaxAge]
    constructor
    · rintro ⟨peer, source, hsource, hdate, a, e, he, hcounts⟩
      rw [OrdMap.get?_insert] at hsource
      split at hsource
      case isFalse hpeer =>
        left
        exact ⟨peer, source, hsource, .inr hdate, a, e, he, fun h => absurd h hpeer, hcounts⟩
      case isTrue hpeer =>
        subst hpeer
        rw [Option.some.injEq] at hsource
        subst hsource
        simp only [sourceWith, OrdMap.get?_insert] at he
        split at he
        case isTrue ha =>
          right
          rw [Option.some.injEq] at he
          subst he
          obtain ⟨hts, hkey, hwhite, hlvl, hrsn⟩ := hcounts
          simp only [banEntry] at hts hkey hlvl hrsn
          rw [ha₀] at hkey ⊢
          exact ⟨hts, hkey, hwhite, hlvl, hrsn⟩
        case isFalse ha =>
          left
          rw [sourceOf] at he
          cases hget : s.banSources.get? peer with
          | none =>
            rw [hget] at he
            simp at he
          | some source =>
            rw [hget] at he
            exact ⟨peer, source, hget, .inl rfl, a, e, he, fun _ => ha, hcounts⟩
    · rintro (⟨peer, source, hsource, hdate, a, e, he, hne, hcounts⟩ |
        ⟨hts, hkey, hwhite, hlvl, hrsn⟩)
      · by_cases hpeer : peer = peerId
        · subst hpeer
          refine ⟨peer, s.sourceWith peer addr level reason timeStamp now, ?_, hnone, a, e, ?_,
            hcounts⟩
          · rw [OrdMap.get?_insert_self]
          · simp only [sourceWith, sourceOf, hsource, Option.getD_some]
            rw [OrdMap.get?_insert, if_neg (hne rfl)]
            exact he
        · refine ⟨peer, source, ?_, hdate.resolve_left hpeer, a, e, he, hcounts⟩
          rw [OrdMap.get?_insert, if_neg hpeer]
          exact hsource
      · refine ⟨peerId, s.sourceWith peerId addr level reason timeStamp now, ?_, hnone,
          ⟨addr.ip, 0⟩, ?_⟩
        · rw [OrdMap.get?_insert_self]
        · refine ⟨_, OrdMap.get?_insert_self _ _, hts, ?_, hwhite, hlvl, hrsn⟩
          rw [← hkey, banEntry, ha₀]
          rfl

/-- After an entry is stored and the sources are condensed, a rejected address is still rejected
exactly when a range bans it or the reports that then count for it do. -/
theorem rejected_addBanEntry_iff (s : p3BanList) (ownId peerId : RsPeerId)
    (addr : SockaddrStorage) (level reason : BitVec 32) (timeStamp now : Int)
    (addr' : SockaddrStorage)
    (hrejected : (s.isAddressAccepted addr' checkingFlagsBlacklist).1 = false) :
  ((((s.addBanEntry peerId addr level reason timeStamp now).2.condenseBanSources ownId
      now).isAddressAccepted addr' checkingFlagsBlacklist).1 = false) ↔
    (∃ m ∈ [0, 1, 2], (s.bannedRange (makeBitsRange addr'.ip m)).isSome = true) ∨
      s.ReportsBan (s.CountsWith ownId peerId addr level reason timeStamp now addr'.ip)
  := by
  rw [rejected_iff] at hrejected ⊢
  obtain ⟨hloop, hon, hwhite, -⟩ := hrejected
  have hcounts : s.CountsWith ownId peerId addr level reason timeStamp now addr'.ip =
      (s.addBanEntry peerId addr level reason timeStamp now).2.Counts ownId now addr'.ip := by
    funext lvl rsn
    exact propext (counts_addBanEntry peerId addr level reason timeStamp now addr'.ip lvl rsn).symm
  rw [hcounts]
  obtain ⟨banSources, hs'⟩ := addBanEntry_eq s peerId addr level reason timeStamp now
  rw [hs']
  have hset := accepted_condensed_iff { s with banSources := banSources } ownId now addr'.ip
  change _ ↔ s.ReportsBan _ at hset
  rw [← hset]
  have hbans : ({ s with banSources := banSources }.condenseBanSources ownId now).bans addr'.ip =
      ((s.bannedRange (makeBitsRange addr'.ip 2)).isSome ||
        (s.bannedRange (makeBitsRange addr'.ip 1)).isSome ||
        (s.bannedRange addr'.ip).isSome ||
        (((({ s with banSources := banSources }.condenseBanSources ownId now).banSet.get?
          addr'.ip).filter s.acceptedBanSet).isSome)) := rfl
  have hrest : isLoopbackNet addr'.ip = false ∧
      ({ s with banSources := banSources }.condenseBanSources ownId now).ipFilteringEnabled = true ∧
      ({ s with banSources := banSources }.condenseBanSources ownId now).isWhiteListed addr'.ip =
        false := ⟨hloop, hon, hwhite⟩
  rw [hbans]
  constructor
  · rintro ⟨-, -, -, hban⟩
    simp only [Bool.or_eq_true] at hban
    rcases hban with ((h | h) | h) | h
    · exact .inl ⟨2, by simp, h⟩
    · exact .inl ⟨1, by simp, h⟩
    · exact .inl ⟨0, by simp, by rwa [makeBitsRange_zero]⟩
    · exact .inr h
  · intro hban
    refine ⟨hrest.1, hrest.2.1, hrest.2.2, ?_⟩
    simp only [Bool.or_eq_true]
    rcases hban with ⟨m, hm, h⟩ | h
    · simp only [List.mem_cons, List.not_mem_nil, or_false] at hm
      rcases hm with rfl | rfl | rfl
      · rw [makeBitsRange_zero] at h
        exact .inl (.inr h)
      · exact .inl (.inl (.inr h))
      · exact .inl (.inl (.inl h))
    · exact .inr h

/-- The list of node 1, which listens to the DHT, once the DHT reports 1.2.3.4 at time 1000. -/
def reportedByDht : p3BanList :=
  (service 1).run init
    [⟨1000, .enableIPsFromDHT true⟩, ⟨1000, .updatePeer ⟨ipv4 1 2 3 4, 0⟩ 1000⟩]

/-- The address is still rejected when friend 5 reports it too. -/
theorem rejected_addBanEntry_iff_friend :
  ((((reportedByDht.addBanEntry 5 ⟨ipv4 1 2 3 4, 0⟩ 2 reasonDht 1000 1000).2.condenseBanSources 1
      1000).isAddressAccepted ⟨ipv4 1 2 3 4, 0⟩ checkingFlagsBlacklist).1 = false) ↔
    (∃ m ∈ [0, 1, 2],
      (reportedByDht.bannedRange (makeBitsRange (ipv4 1 2 3 4) m)).isSome = true) ∨
      reportedByDht.ReportsBan
        (reportedByDht.CountsWith 1 5 ⟨ipv4 1 2 3 4, 0⟩ 2 reasonDht 1000 1000 (ipv4 1 2 3 4))
  := rejected_addBanEntry_iff reportedByDht 1 5 ⟨ipv4 1 2 3 4, 0⟩ 2 reasonDht 1000 1000
      ⟨ipv4 1 2 3 4, 0⟩ (by decide +kernel)

/-- Friend 5 lifts the ban: its report has level 0, so that it counts as ours, and the reasons of the
two put together are those of an automatic range, which do not count. -/
theorem not_rejected_addBanEntry_levelZero :
  ¬ ∀ (s : p3BanList) (ownId peerId : RsPeerId) (addr : SockaddrStorage)
      (level reason : BitVec 32) (timeStamp now : Int) (addr' : SockaddrStorage),
    s.ipFilteringEnabled = true →
    (s.isAddressAccepted addr' checkingFlagsBlacklist).1 = false →
    (((s.addBanEntry peerId addr level reason timeStamp now).2.condenseBanSources ownId
      now).isAddressAccepted addr' checkingFlagsBlacklist).1 = false
  := by
  intro h
  have hrejected := h reportedByDht 1 5 ⟨ipv4 1 2 3 4, 0⟩ 0 reasonUser 1000 1000
    ⟨ipv4 1 2 3 4, 0⟩ (by decide +kernel) (by decide +kernel)
  have haccepted : (((reportedByDht.addBanEntry 5 ⟨ipv4 1 2 3 4, 0⟩ 0 reasonUser 1000
      1000).2.condenseBanSources 1 1000).isAddressAccepted ⟨ipv4 1 2 3 4, 0⟩
        checkingFlagsBlacklist).1 = true := by decide +kernel
  rw [haccepted] at hrejected
  cases hrejected

end p3BanList

end IpFilter
