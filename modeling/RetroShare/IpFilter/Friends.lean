import RetroShare.IpFilter.Merging

/-!
# What friends can do to the filter

Friends choose the level, the reason and the number of the entries they send.  When gathering from
friends is off, the filter should not depend on them.  We compare two runs that receive different
items: both decide alike as long as no entry of a friend is given the reason of a user or a level
that wraps to our own, no automatic range needs an entry of a friend, and no item of a friend makes
the list be condensed after a report of our own ran out.

What decides is collected in a `View` of the list: our own reports and what the set holds of them,
and the reasons of the ranges.
-/

namespace IpFilter

open GRouter (RsPeerId)

namespace p3BanList

variable (s : p3BanList) (ownId : RsPeerId)

/-! ### The view -/

/-- The reasons of the entries of the set that have our own level. -/
def ownBans : OrdMap IpAddress (BitVec 32) :=
  (s.banSet.filter fun _ bp => bp.level = originSelf).map fun _ bp => bp.reason

/-- The reasons of the ranges. -/
def rangeReasons : OrdMap IpAddress (BitVec 32) := s.banRanges.map fun _ blp => blp.reason

/-- What the verdicts depend on when friends are not listened to. -/
structure View where
  ownSource : Option BanList
  ownBans : OrdMap IpAddress (BitVec 32)
  rangeReasons : OrdMap IpAddress (BitVec 32)
  whiteListedRanges : OrdMap IpAddress BanListPeer
  ipFilteringEnabled : Bool
  ipFriendGatheringEnabled : Bool
  ipDHTGatheringEnabled : Bool
  autoRangeLimit : Nat
  autoRangeIps : Bool

/-- The view of a list. -/
def view : View where
  ownSource := s.banSources.get? ownId
  ownBans := s.ownBans
  rangeReasons := s.rangeReasons
  whiteListedRanges := s.whiteListedRanges
  ipFilteringEnabled := s.ipFilteringEnabled
  ipFriendGatheringEnabled := s.ipFriendGatheringEnabled
  ipDHTGatheringEnabled := s.ipDHTGatheringEnabled
  autoRangeLimit := s.autoRangeLimit
  autoRangeIps := s.autoRangeIps

/-- An entry that `peerId` may report: our own have our own level, and those of others get another
level and are not for the reason of a user. -/
def mayReport (peerId : RsPeerId) (level reason : BitVec 32) : Bool :=
  if peerId = ownId then level = originSelf
  else level ≠ 0 && level ≠ 0xffffffff#32 && reason ≠ reasonUser

/-- The entries of friends count for nothing: they do not get our own level, nor the reason of a
user. -/
structure Guarded : Prop where
  sources : ∀ peer source, s.banSources.get? peer = some source →
    ∀ a e, source.banPeers.get? a = some e → mayReport ownId peer e.level e.reason = true
  set : ∀ key bp, s.banSet.get? key = some bp →
    bp.level = originSelf ∨ originSelf < bp.level ∧ bp.reason ≠ reasonUser

variable {s ownId} {t : p3BanList} {reason level lvl : BitVec 32} (key : IpAddress) {now : Int}
  {peerId : RsPeerId} {items : List RsBanListItem}

theorem get?_ownBans :
  s.ownBans.get? key =
    ((s.banSet.get? key).filter fun bp => bp.level = originSelf).map fun bp => bp.reason
  := by
  rw [ownBans, OrdMap.get?_map, OrdMap.get?_filter]

theorem Guarded.init (ownId : RsPeerId) : Guarded init ownId where
  sources := fun peer source h => by cases h
  set := fun key bp h => by cases h

/-! ### Verdicts -/

/-- A reason of a range that `acceptedBanRanges_locked` takes. -/
def View.acceptsRange (v : View) (reason : BitVec 32) : Bool :=
  reason = reasonUser || reason = reasonAutoRange && v.autoRangeIps

/-- A reason of one of our own bans that `acceptedBanSet_locked` takes. -/
def View.acceptsOwn (v : View) (reason : BitVec 32) : Bool :=
  reason = reasonUser || reason = reasonDht && v.ipDHTGatheringEnabled

theorem isSome_bannedRange :
  (s.bannedRange key).isSome =
    ((s.view ownId).rangeReasons.get? key).any (s.view ownId).acceptsRange
  := by
  have hreasons : (s.view ownId).rangeReasons = s.rangeReasons := rfl
  rw [bannedRange, hreasons, rangeReasons, OrdMap.get?_map]
  cases s.banRanges.get? key with
  | none => rfl
  | some blp =>
    have haccepts : s.acceptedBanRanges blp = (s.view ownId).acceptsRange blp.reason := by
      rw [acceptedBanRanges, View.acceptsRange, view]
      split
      case isTrue hu => simp [hu]
      case isFalse hu =>
        split
        case isTrue hr =>
          rw [hr] at hu
          simp [hr, hu]
        case isFalse hr => simp [hu, hr]
    rw [Option.map_some, Option.any_some, ← haccepts]
    cases h : s.acceptedBanRanges blp <;> simp [Option.filter, h]

theorem Guarded.isSome_banSet (h : s.Guarded ownId) (hoff : s.ipFriendGatheringEnabled = false)
    (key : IpAddress) :
  ((s.banSet.get? key).filter s.acceptedBanSet).isSome =
    ((s.view ownId).ownBans.get? key).any (s.view ownId).acceptsOwn
  := by
  have hown : (s.view ownId).ownBans = s.ownBans := rfl
  rw [hown, get?_ownBans]
  cases hget : s.banSet.get? key with
  | none => rfl
  | some bp =>
    rcases h.set key bp hget with hself | ⟨hlt, hreason⟩
    · have haccepts : s.acceptedBanSet bp = (s.view ownId).acceptsOwn bp.reason := by
        rw [acceptedBanSet, View.acceptsOwn, view, hoff, hself]
        simp only [Bool.and_false, Bool.false_eq_true, if_false]
        split
        case isTrue hu => simp [hu]
        case isFalse hu =>
          split
          case isTrue hr =>
            rw [hr] at hu
            simp [hr, hu, originSelf]
          case isFalse hr => simp [hu, hr]
      have hfilter : (some bp).filter (fun bp : BanListPeer => bp.level = originSelf) = some bp :=
        by simp [Option.filter, hself]
      rw [hfilter, Option.map_some, Option.any_some, ← haccepts]
      cases h : s.acceptedBanSet bp <;> simp [Option.filter, h]
    · have hne : bp.level ≠ originSelf := by
        intro heq
        rw [heq] at hlt
        exact absurd hlt (BitVec.lt_irrefl _)
      have hrefused : s.acceptedBanSet bp = false := by
        rw [acceptedBanSet, hoff]
        simp only [Bool.and_false, Bool.false_eq_true, if_false, if_neg hreason]
        split
        case isTrue =>
          rw [Bool.and_eq_false_iff, decide_eq_false_iff_not]
          exact .inr hne
        case isFalse => rfl
      simp [Option.filter, hne, hrefused]

theorem isAddressAccepted_eq_of_view_eq (hs : s.Guarded ownId) (ht : t.Guarded ownId)
    (hoff : s.ipFriendGatheringEnabled = false) (hview : s.view ownId = t.view ownId)
    (addr : SockaddrStorage) (checkingFlags : BitVec 32) :
  (s.isAddressAccepted addr checkingFlags).1 = (t.isAddressAccepted addr checkingFlags).1
  := by
  have hoff' : t.ipFriendGatheringEnabled = false := by
    rw [← hoff]
    exact (congrArg View.ipFriendGatheringEnabled hview).symm
  have hfilter : s.ipFilteringEnabled = t.ipFilteringEnabled :=
    congrArg View.ipFilteringEnabled hview
  have hwhite : s.isWhiteListed addr.ip = t.isWhiteListed addr.ip := by
    have : s.whiteListedRanges = t.whiteListedRanges := congrArg View.whiteListedRanges hview
    rw [isWhiteListed, isWhiteListed, this]
  have hbans : s.bans addr.ip = t.bans addr.ip := by
    rw [bans, bans, hs.isSome_banSet hoff, ht.isSome_banSet hoff', isSome_bannedRange (s := s),
      isSome_bannedRange (s := s), isSome_bannedRange (s := s), isSome_bannedRange (s := t),
      isSome_bannedRange (s := t), isSome_bannedRange (s := t), hview]
  rw [isAddressAccepted_fst, isAddressAccepted_fst, hfilter, hwhite, hbans]

/-! ### Condensing -/

/-- What the merged records have at our own level depends on the reports at this level only. -/
theorem Merged.ownReason_eq {P Q : BitVec 32 → BitVec 32 → Prop} {o o' : Option BanListPeer}
    (h : Merged P o) (h' : Merged Q o') (hPQ : ∀ reason, P originSelf reason ↔ Q originSelf reason)
    (hP : ∀ lvl reason, P lvl reason → originSelf ≤ lvl)
    (hQ : ∀ lvl reason, Q lvl reason → originSelf ≤ lvl) :
  (o.filter fun bp => bp.level = originSelf).map (fun bp => bp.reason) =
    (o'.filter fun bp => bp.level = originSelf).map fun bp => bp.reason
  := by
  -- a record at our own level exists exactly when there is a report at this level
  have hself : ∀ {R : BitVec 32 → BitVec 32 → Prop} {o : Option BanListPeer}, Merged R o →
      (∀ lvl reason, R lvl reason → originSelf ≤ lvl) → (∃ reason, R originSelf reason) →
      ∃ bp, o = some bp ∧ bp.level = originSelf := by
    rintro R o hR hle ⟨reason, hreason⟩
    cases o with
    | none => exact absurd hreason (hR _ _)
    | some bp =>
      obtain ⟨⟨r, hr⟩, hleast, -⟩ := hR
      exact ⟨bp, rfl, BitVec.le_antisymm (hleast _ _ hreason) (hle _ _ hr)⟩
  have hnone : ∀ {R : BitVec 32 → BitVec 32 → Prop} {o : Option BanListPeer}, Merged R o →
      (¬ ∃ reason, R originSelf reason) →
      (o.filter fun bp => bp.level = originSelf).map (fun bp => bp.reason) = none := by
    intro R o hR hno
    cases o with
    | none => rfl
    | some bp =>
      have hne : bp.level ≠ originSelf := by
        intro heq
        apply hno
        rw [← heq]
        exact hR.1
      simp [Option.filter, hne]
  by_cases hex : ∃ reason, P originSelf reason
  · have hex' : ∃ reason, Q originSelf reason := by
      obtain ⟨reason, hreason⟩ := hex
      exact ⟨reason, (hPQ reason).mp hreason⟩
    obtain ⟨bp, rfl, hbp⟩ := hself h hP hex
    obtain ⟨bp', rfl, hbp'⟩ := hself h' hQ hex'
    have hreason : bp.reason = bp'.reason := by
      apply BitVec.eq_of_getLsbD_eq
      intro i _
      rw [Bool.eq_iff_iff, h.2.2 i, h'.2.2 i, hbp, hbp']
      simp only [hPQ]
    simp [Option.filter, hbp, hbp', hreason]
  · have hex' : ¬ ∃ reason, Q originSelf reason := by
      rintro ⟨reason, hreason⟩
      exact hex ⟨reason, (hPQ reason).mpr hreason⟩
    rw [hnone h hex, hnone h' hex']

theorem originSelf_lt_condensedLevel {peer : RsPeerId}
    (h : mayReport ownId peer level reason = true) (hpeer : peer ≠ ownId) :
  originSelf < condensedLevel ownId peer level ∧ reason ≠ reasonUser
  := by
  rw [mayReport, if_neg hpeer] at h
  simp only [Bool.and_eq_true, decide_eq_true_eq] at h
  obtain ⟨⟨hzero, hmax⟩, hreason⟩ := h
  refine ⟨?_, hreason⟩
  rw [condensedLevel, if_pos hpeer, originSelf]
  bv_omega

theorem condensedLevel_self (h : mayReport ownId ownId level reason = true) :
  condensedLevel ownId ownId level = originSelf
  := by
  rw [mayReport, if_pos rfl, decide_eq_true_eq] at h
  rw [condensedLevel, if_neg (not_not.mpr rfl), h]

theorem Guarded.level_of_counts (h : s.Guarded ownId) {key : IpAddress}
    (hcounts : s.Counts ownId now key lvl reason) :
  lvl = originSelf ∨ originSelf < lvl ∧ reason ≠ reasonUser
  := by
  obtain ⟨peer, source, hsource, -, a, e, he, -, -, -, rfl, rfl⟩ := hcounts
  have hmay := h.sources peer source hsource a e he
  by_cases hpeer : peer = ownId
  · subst hpeer
    exact .inl (condensedLevel_self hmay)
  · exact .inr (originSelf_lt_condensedLevel hmay hpeer)

theorem Guarded.originSelf_le (h : s.Guarded ownId) {key : IpAddress}
    (hcounts : s.Counts ownId now key lvl reason) :
  originSelf ≤ lvl
  := by
  rcases h.level_of_counts hcounts with rfl | ⟨hlt, -⟩
  · exact BitVec.le_refl _
  · exact BitVec.le_of_lt hlt

theorem Guarded.condenseBanSources (h : s.Guarded ownId) (now : Int) :
  (s.condenseBanSources ownId now).Guarded ownId
  where
  sources := h.sources
  set := by
    intro key bp hbp
    have hmerged := merged_condenseBanSources s ownId now key
    rw [hbp] at hmerged
    obtain ⟨⟨reason, hreason⟩, -, hbits⟩ := hmerged
    rcases h.level_of_counts hreason with hself | ⟨hlt, -⟩
    · exact .inl hself
    · right
      refine ⟨hlt, ?_⟩
      intro huser
      have hall : AllFor reasonUser (s.Counts ownId now key bp.level) :=
        (eq_twoPow_iff_allFor (j := 0) (by decide) hbits).mp huser
      rcases h.level_of_counts hall.2 with hself | ⟨-, hne⟩
      · rw [hself] at hlt
        exact absurd hlt (BitVec.lt_irrefl _)
      · exact hne rfl

theorem ownBans_condenseBanSources_eq (hs : s.Guarded ownId) (ht : t.Guarded ownId)
    (hown : s.banSources.get? ownId = t.banSources.get? ownId)
    (hwhite : s.whiteListedRanges = t.whiteListedRanges) (now : Int) :
  (s.condenseBanSources ownId now).ownBans = (t.condenseBanSources ownId now).ownBans
  := by
  have hcounts : ∀ {s t : p3BanList}, s.Guarded ownId →
      s.banSources.get? ownId = t.banSources.get? ownId →
      s.whiteListedRanges = t.whiteListedRanges → ∀ key reason,
      s.Counts ownId now key originSelf reason → t.Counts ownId now key originSelf reason := by
    rintro s t hs hown hwhite key reason
      ⟨peer, source, hsource, hdate, a, e, he, hts, hkey, hlisted, hlvl, hreason⟩
    have hpeer : peer = ownId := by
      by_contra hpeer
      have hlt := (originSelf_lt_condensedLevel (hs.sources peer source hsource a e he) hpeer).1
      rw [← hlvl] at hlt
      exact absurd hlt (BitVec.lt_irrefl _)
    subst hpeer
    refine ⟨peer, source, hown ▸ hsource, hdate, a, e, he, hts, hkey, ?_, hlvl, hreason⟩
    rwa [isWhiteListed, ← hwhite]
  apply OrdMap.ext_get?
  intro key
  rw [get?_ownBans, get?_ownBans]
  apply (merged_condenseBanSources s ownId now key).ownReason_eq
    (merged_condenseBanSources t ownId now key)
  · intro reason
    exact ⟨hcounts hs hown hwhite key reason, hcounts ht hown.symm hwhite.symm key reason⟩
  · intro lvl reason h
    exact hs.originSelf_le h
  · intro lvl reason h
    exact ht.originSelf_le h

theorem view_condenseBanSources_eq (hs : s.Guarded ownId) (ht : t.Guarded ownId)
    (hview : s.view ownId = t.view ownId) (now : Int) :
  (s.condenseBanSources ownId now).view ownId = (t.condenseBanSources ownId now).view ownId
  := by
  have hbans := ownBans_condenseBanSources_eq hs ht (congrArg View.ownSource hview)
    (congrArg View.whiteListedRanges hview) now
  have hs' : (s.condenseBanSources ownId now).view ownId =
      { s.view ownId with ownBans := (s.condenseBanSources ownId now).ownBans } := rfl
  have ht' : (t.condenseBanSources ownId now).view ownId =
      { t.view ownId with ownBans := (t.condenseBanSources ownId now).ownBans } := rfl
  rw [hs', ht', hbans, hview]

/-! ### Storing entries -/

theorem Guarded.addBanEntry (h : s.Guarded ownId) {addr : SockaddrStorage}
    (hmay : isExternalNet addr.ip = true → mayReport ownId peerId level reason = true)
    (timeStamp now : Int) :
  (s.addBanEntry peerId addr level reason timeStamp now).2.Guarded ownId
  := by
  by_cases hnew : s.IsNews peerId addr level reason timeStamp
  case neg => rwa [addBanEntry_of_not_isNews now hnew]
  case pos =>
    rw [addBanEntry_of_isNews now hnew]
    refine ⟨?_, h.set⟩
    intro peer source hsource a e he
    rcases OrdMap.get?_insert_iff.mp hsource with ⟨hpeer, rfl⟩ | ⟨-, hsource⟩
    · simp only [sourceWith, OrdMap.get?_insert] at he
      split at he
      case isTrue =>
        rw [Option.some.injEq] at he
        subst he
        rw [hpeer]
        exact hmay hnew.1
      case isFalse =>
        rw [sourceOf] at he
        cases hget : s.banSources.get? peerId with
        | none =>
          rw [hget] at he
          cases he
        | some source =>
          rw [hget] at he
          rw [hpeer]
          exact h.sources peerId source hget a e he
    · exact h.sources peer source hsource a e he

theorem view_addBanEntry_of_ne (hpeer : peerId ≠ ownId) (addr : SockaddrStorage)
    (level reason : BitVec 32) (timeStamp now : Int) :
  (s.addBanEntry peerId addr level reason timeStamp now).2.view ownId = s.view ownId
  := by
  by_cases hnew : s.IsNews peerId addr level reason timeStamp
  case neg => rw [addBanEntry_of_not_isNews now hnew]
  case pos =>
    rw [addBanEntry_of_isNews now hnew]
    have hown : (s.banSources.insert peerId
        (s.sourceWith peerId addr level reason timeStamp now)).get? ownId =
        s.banSources.get? ownId := by
      rw [OrdMap.get?_insert, if_neg (Ne.symm hpeer)]
    have hview : ∀ banSources : OrdMap RsPeerId BanList,
        banSources.get? ownId = s.banSources.get? ownId →
        p3BanList.view { s with banSources := banSources } ownId = s.view ownId := by
      intro banSources hsame
      simp only [view, hsame]
      rfl
    exact hview _ hown

theorem view_addBanEntry_eq (hview : s.view ownId = t.view ownId) (peerId : RsPeerId)
    (addr : SockaddrStorage) (level reason : BitVec 32) (timeStamp now : Int) :
  (s.addBanEntry peerId addr level reason timeStamp now).2.view ownId =
    (t.addBanEntry peerId addr level reason timeStamp now).2.view ownId
  := by
  by_cases hpeer : peerId = ownId
  case neg => rw [view_addBanEntry_of_ne hpeer, view_addBanEntry_of_ne hpeer, hview]
  case pos =>
    subst hpeer
    have hown : s.banSources.get? peerId = t.banSources.get? peerId :=
      congrArg View.ownSource hview
    have hnews : s.IsNews peerId addr level reason timeStamp ↔
        t.IsNews peerId addr level reason timeStamp := by
      rw [IsNews, IsNews, hown]
    by_cases hnew : s.IsNews peerId addr level reason timeStamp
    case neg =>
      rw [addBanEntry_of_not_isNews now hnew, addBanEntry_of_not_isNews now (hnews.not.mp hnew),
        hview]
    case pos =>
      rw [addBanEntry_of_isNews now hnew, addBanEntry_of_isNews now (hnews.mp hnew)]
      have hsource : s.sourceWith peerId addr level reason timeStamp now =
          t.sourceWith peerId addr level reason timeStamp now := by
        rw [sourceWith, sourceWith, sourceOf, sourceOf, hown]
      have hstored : ∀ (s : p3BanList) (source : BanList),
          p3BanList.view { s with banSources := s.banSources.insert peerId source } peerId =
            { s.view peerId with ownSource := some source } := by
        intro s source
        simp only [view, OrdMap.get?_insert_self]
        rfl
      rw [hstored, hstored, hsource, hview]

/-! ### Automatic ranges -/

/-- A range holds as many addresses of a set as the limit. -/
def reached {ν : Type} (limit : Nat) (set : OrdMap IpAddress ν) (range : IpAddress) : Bool :=
  ((rangeMap set).get? range).any fun n => limit ≤ n

/-- Every range that reaches the limit does so by our own bans. -/
def reachesByOwnBans (s : p3BanList) : Bool :=
  !s.autoRangeIps || (rangeMap s.banSet).toList.all fun r =>
    !reached s.autoRangeLimit s.banSet r.1 || reached s.autoRangeLimit s.ownBans r.1

theorem reached_iff {ν : Type} {limit : Nat} {set : OrdMap IpAddress ν} {range : IpAddress} :
  reached limit set range = true ↔ ∃ n, (rangeMap set).get? range = some n ∧ limit ≤ n
  := by
  simp [reached, Option.any_eq_true]

theorem reached_banSet_eq (h : s.reachesByOwnBans = true) (hauto : s.autoRangeIps = true)
    (range : IpAddress) :
  reached s.autoRangeLimit s.banSet range = reached s.autoRangeLimit s.ownBans range
  := by
  rw [Bool.eq_iff_iff]
  constructor
  · intro hreached
    obtain ⟨n, hn, -⟩ := reached_iff.mp hreached
    have hall : ((rangeMap s.banSet).toList.all fun r =>
        !reached s.autoRangeLimit s.banSet r.1 || reached s.autoRangeLimit s.ownBans r.1) =
        true := by
      simpa [reachesByOwnBans, hauto] using h
    have hrange := List.all_eq_true.mp hall (range, n) (OrdMap.mem_toList.mpr hn)
    simpa [hreached] using hrange
  · intro hreached
    obtain ⟨n, hn, hlimit⟩ := reached_iff.mp hreached
    have hle : s.ownBans.toList.countP (fun e => makeBitsRange e.1 1 = range) ≤
        s.banSet.toList.countP fun e => makeBitsRange e.1 1 = range := by
      simp only [ownBans, OrdMap.map, OrdMap.filter, List.countP_map]
      apply List.Sublist.countP_le List.filter_sublist
    rw [get?_rangeMap] at hn
    split at hn
    case isTrue => cases hn
    case isFalse hpos =>
      rw [Option.some.injEq] at hn
      rw [reached_iff, get?_rangeMap, if_neg]
      · exact ⟨_, rfl, hlimit.trans (hn ▸ hle)⟩
      · omega

/-- The reason that `autoFigureOutBanRanges` leaves at a key. -/
def figuredReason (reached : Bool) (old : Option (BitVec 32)) : Option (BitVec 32) :=
  if reached && old ≠ some reasonUser then some reasonAutoRange else old

theorem get?_rangeReasons_autoFigureOut (hauto : s.autoRangeIps = true) (now : Int)
    (k : IpAddress) :
  (s.autoFigureOutBanRanges ownId now).rangeReasons.get? k =
    figuredReason (reached s.autoRangeLimit s.banSet k)
      ((s.rangeReasons.get? k).filter fun r => r ≠ reasonAutoRange)
  := by
  have hranges : (s.autoFigureOutBanRanges ownId now).banRanges =
      (rangeMap s.banSet).toList.foldl (s.figureOutRange now)
        (s.banRanges.filter fun _ blp => blp.reason ≠ reasonAutoRange) := by
    simp [autoFigureOutBanRanges, hauto]
  have hkept : (s.rangeReasons.get? k).filter (fun r => r ≠ reasonAutoRange) =
      ((s.banRanges.filter fun _ blp => blp.reason ≠ reasonAutoRange).get? k).map
        fun blp => blp.reason := by
    rw [rangeReasons, OrdMap.get?_map, OrdMap.get?_filter]
    cases s.banRanges.get? k with
    | none => rfl
    | some blp =>
      simp only [Option.map_some, Option.filter]
      split <;> rfl
  rw [hkept]
  generalize (s.banRanges.filter fun _ blp => blp.reason ≠ reasonAutoRange) = kept at hranges
  rw [rangeReasons, OrdMap.get?_map, hranges, get?_foldl_figureOutRange, reached]
  cases (rangeMap s.banSet).get? k with
  | none => simp [figuredReason]
  | some n =>
    simp only [Option.map_some, Option.getD_some, Option.any_some, figuredReason, figuredOut]
    have huser : (((kept.get? k).getD BanListPeer.init).reason ≠ reasonUser) ↔
        (kept.get? k).map (fun blp => blp.reason) ≠ some reasonUser := by
      cases kept.get? k with
      | none => simp [BanListPeer.init, reasonUnknown, reasonUser]
      | some blp => simp
    by_cases hn : n ≥ s.autoRangeLimit
    · by_cases hu : ((kept.get? k).getD BanListPeer.init).reason ≠ reasonUser
      · have hu' := huser.mp hu
        simp [hn, hu, hu', autoRange]
      · have hu' := huser.not.mp hu
        simp only [ne_eq, not_not] at hu hu'
        simp [hu, hu']
    · simp [hn]

theorem view_autoFigureOutBanRanges_eq (hs : s.Guarded ownId) (ht : t.Guarded ownId)
    (hview : s.view ownId = t.view ownId) (hsown : s.reachesByOwnBans = true)
    (htown : t.reachesByOwnBans = true) (now : Int) :
  (s.autoFigureOutBanRanges ownId now).view ownId = (t.autoFigureOutBanRanges ownId now).view ownId
  := by
  have hauto : s.autoRangeIps = t.autoRangeIps := congrArg View.autoRangeIps hview
  have hlimit : s.autoRangeLimit = t.autoRangeLimit := congrArg View.autoRangeLimit hview
  have hbans : s.ownBans = t.ownBans := congrArg View.ownBans hview
  have hreasons : s.rangeReasons = t.rangeReasons := congrArg View.rangeReasons hview
  have hranges : (s.autoFigureOutBanRanges ownId now).rangeReasons =
      (t.autoFigureOutBanRanges ownId now).rangeReasons := by
    apply OrdMap.ext_get?
    intro k
    cases hs' : s.autoRangeIps with
    | true =>
      have ht' : t.autoRangeIps = true := by rw [← hauto, hs']
      rw [get?_rangeReasons_autoFigureOut hs', get?_rangeReasons_autoFigureOut ht',
        reached_banSet_eq hsown hs', reached_banSet_eq htown ht', hlimit, hbans, hreasons]
    | false =>
      have hkept : ∀ u : p3BanList, u.autoRangeIps = false →
          (u.autoFigureOutBanRanges ownId now).rangeReasons.get? k =
            (u.rangeReasons.get? k).filter fun r => r ≠ reasonAutoRange := by
        intro u hu
        simp only [autoFigureOutBanRanges, hu, Bool.not_false, if_true, rangeReasons,
          OrdMap.get?_map, OrdMap.get?_filter]
        cases u.banRanges.get? k with
        | none => rfl
        | some blp =>
          simp only [Option.map_some, Option.filter]
          split <;> rfl
      rw [hkept s hs', hkept t (by rw [← hauto, hs']), hreasons]
  -- what is left to compare is the set, which is condensed again
  have hcondensed : ∀ {u : p3BanList}, u.autoRangeIps = true →
      (u.autoFigureOutBanRanges ownId now).view ownId =
        { (u.condenseBanSources ownId now).view ownId with
          rangeReasons := (u.autoFigureOutBanRanges ownId now).rangeReasons } := by
    intro u hu
    have heq : u.autoFigureOutBanRanges ownId now =
        { u with
          banRanges := (rangeMap u.banSet).toList.foldl (u.figureOutRange now)
            (u.banRanges.filter fun _ blp => blp.reason ≠ reasonAutoRange)
        }.condenseBanSources ownId now := if_neg (by simp [hu])
    rw [heq]
    rfl
  have hleft : ∀ {u : p3BanList}, u.autoRangeIps = false →
      (u.autoFigureOutBanRanges ownId now).view ownId =
        { u.view ownId with
          rangeReasons := (u.autoFigureOutBanRanges ownId now).rangeReasons } := by
    intro u hu
    have heq : u.autoFigureOutBanRanges ownId now =
        { u with banRanges := u.banRanges.filter fun _ blp => blp.reason ≠ reasonAutoRange } :=
      if_pos (by simp [hu])
    rw [heq]
    rfl
  cases hs' : s.autoRangeIps with
  | true =>
    rw [hcondensed hs', hcondensed (by rw [← hauto, hs']), hranges,
      view_condenseBanSources_eq hs ht hview now]
  | false => rw [hleft hs', hleft (by rw [← hauto, hs']), hranges, hview]

theorem Guarded.autoFigureOutBanRanges (h : s.Guarded ownId) (now : Int) :
  (s.autoFigureOutBanRanges ownId now).Guarded ownId
  := by
  rw [p3BanList.autoFigureOutBanRanges]
  split
  case isTrue => exact ⟨h.sources, h.set⟩
  case isFalse =>
    apply Guarded.condenseBanSources _ now
    exact ⟨h.sources, h.set⟩

/-! ### Checks -/

/-- A check changes nothing but numbers of attempts. -/
theorem isAddressAccepted_keeps (h : s.Guarded ownId) (addr : SockaddrStorage)
    (checkingFlags : BitVec 32) :
  (s.isAddressAccepted addr checkingFlags).2.2.Guarded ownId ∧
    (s.isAddressAccepted addr checkingFlags).2.2.view ownId = s.view ownId
  := by
  have hattempt : ∀ key blp, s.bannedRange key = some blp →
      (s.attemptRange key blp).Guarded ownId ∧
        (s.attemptRange key blp).view ownId = s.view ownId := by
    intro key blp hblp
    rw [bannedRange, Option.filter_eq_some_iff] at hblp
    refine ⟨⟨h.sources, h.set⟩, ?_⟩
    have hreasons : (s.attemptRange key blp).rangeReasons = s.rangeReasons := by
      apply OrdMap.ext_get?
      intro k
      rw [rangeReasons, rangeReasons, attemptRange, OrdMap.get?_map, OrdMap.get?_map,
        OrdMap.get?_insert]
      split
      case isTrue hk => rw [hk, hblp.1, Option.map_some, Option.map_some]
      case isFalse => rfl
    have hview : (s.attemptRange key blp).view ownId =
        { s.view ownId with rangeReasons := (s.attemptRange key blp).rangeReasons } := rfl
    rw [hview, hreasons]
    rfl
  rw [p3BanList.isAddressAccepted]
  simp only
  split
  · exact ⟨h, rfl⟩
  · split
    · exact ⟨h, rfl⟩
    · split
      · exact ⟨h, rfl⟩
      · split
        · exact ⟨h, rfl⟩
        · split
          · exact ⟨h, rfl⟩
          · split
            · exact hattempt _ _ ‹_›
            · split
              · exact hattempt _ _ ‹_›
              · split
                · exact hattempt _ _ ‹_›
                · split
                  case h_1 blp hblp =>
                    rw [Option.filter_eq_some_iff] at hblp
                    constructor
                    · refine ⟨h.sources, ?_⟩
                      intro key bp hbp
                      rcases OrdMap.get?_insert_iff.mp hbp with ⟨hkey, rfl⟩ | ⟨-, hbp⟩
                      · exact h.set _ blp hblp.1
                      · exact h.set key bp hbp
                    · have hbans : ownBans { s with
                            banSet := s.banSet.insert (makeBitsRange addr.ip 0)
                              { blp with connectAttempts := blp.connectAttempts + 1 } } =
                          s.ownBans := by
                        apply OrdMap.ext_get?
                        intro k
                        rw [get?_ownBans, get?_ownBans, OrdMap.get?_insert]
                        split
                        case isTrue hk =>
                          rw [hk, hblp.1]
                          simp only [Option.filter]
                          split <;> rfl
                        case isFalse => rfl
                      rw [view, hbans]
                      rfl
                  case h_2 => exact ⟨h, rfl⟩

/-! ### Items of friends -/

/-- An item of another source whose entries may be reported. -/
def mayReceive (ownId : RsPeerId) (item : RsBanListItem) : Bool :=
  item.peerId ≠ ownId && item.peerList.all fun e =>
    !isExternalNet e.addr.ip || mayReport ownId item.peerId e.level e.reason

/-- Condensing now leaves our own bans as they are. -/
def condensed (s : p3BanList) (ownId : RsPeerId) (now : Int) : Bool :=
  (s.condenseBanSources ownId now).ownBans = s.ownBans

theorem recvItems_keeps_view (h : s.Guarded ownId) (hitems : items.all (mayReceive ownId) = true)
    (now : Int) :
  (s.recvItems items now).2.Guarded ownId ∧
    (s.recvItems items now).2.view ownId = s.view ownId
  := by
  apply recvItems_keeps (P := fun s' => s'.Guarded ownId ∧ s'.view ownId = s.view ownId) _ ⟨h, rfl⟩
  rintro item hitem e he s' ⟨hs', hview⟩
  have hmay := List.all_eq_true.mp hitems item hitem
  rw [mayReceive, Bool.and_eq_true, decide_eq_true_eq] at hmay
  constructor
  · apply hs'.addBanEntry
    intro hext
    have := List.all_eq_true.mp hmay.2 e he
    simpa [hext] using this
  · rw [view_addBanEntry_of_ne hmay.1, hview]

theorem processIncoming_keeps_view (h : s.Guarded ownId)
    (hitems : items.all (mayReceive ownId) = true) (now : Int)
    (hcondensed : (s.recvItems items now).1 = true → s.condensed ownId now = true) :
  (s.processIncoming ownId items now).Guarded ownId ∧
    (s.processIncoming ownId items now).view ownId = s.view ownId
  := by
  obtain ⟨h', hview⟩ := recvItems_keeps_view h hitems now
  rw [processIncoming]
  split
  case isFalse => exact ⟨h', hview⟩
  case isTrue hupdated =>
    refine ⟨h'.condenseBanSources now, ?_⟩
    rw [view_condenseBanSources_eq h' h hview]
    have hbans := hcondensed hupdated
    rw [condensed, decide_eq_true_eq] at hbans
    have hview' : (s.condenseBanSources ownId now).view ownId =
        { s.view ownId with ownBans := (s.condenseBanSources ownId now).ownBans } := rfl
    rw [hview', hbans]
    rfl

/-! ### Ranges of users -/

theorem map_withRange (list : OrdMap IpAddress BanListPeer) (ip : IpAddress) (m : Nat)
    (e : BanListPeer) :
  (withRange list ip m e).map (fun _ blp => blp.reason) =
    ((List.range m).foldl (fun list i => list.erase (makeBitsRange ip i))
      (list.map fun _ blp => blp.reason)).insert (makeBitsRange ip m) e.reason
  := by
  rw [withRange, OrdMap.map_insert]
  congr 1
  generalize List.range m = l
  induction l generalizing list with
  | nil => rfl
  | cons i l ih => rw [List.foldl_cons, ih, OrdMap.map_erase, List.foldl_cons]

theorem condense_ranges_keeps (hs : s.Guarded ownId) (ht : t.Guarded ownId)
    (hview : s.view ownId = t.view ownId)
    {ranges ranges' white white' : OrdMap IpAddress BanListPeer}
    (hranges : ranges.map (fun _ blp => blp.reason) = ranges'.map fun _ blp => blp.reason)
    (hwhite : white = white') (now : Int) :
  (p3BanList.condenseBanSources { s with banRanges := ranges, whiteListedRanges := white } ownId
      now).Guarded ownId ∧
    (p3BanList.condenseBanSources { t with banRanges := ranges', whiteListedRanges := white' } ownId
      now).Guarded ownId ∧
    (p3BanList.condenseBanSources { s with banRanges := ranges, whiteListedRanges := white } ownId
      now).view ownId =
      (p3BanList.condenseBanSources { t with banRanges := ranges', whiteListedRanges := white' }
        ownId now).view ownId
  := by
  have hguarded : ∀ {u : p3BanList}, u.Guarded ownId → ∀ ranges white,
      Guarded { u with banRanges := ranges, whiteListedRanges := white } ownId :=
    fun hu _ _ => ⟨hu.sources, hu.set⟩
  have hview' : p3BanList.view { s with banRanges := ranges, whiteListedRanges := white } ownId =
      p3BanList.view { t with banRanges := ranges', whiteListedRanges := white' } ownId := by
    have heq : ∀ (u : p3BanList) ranges white,
        p3BanList.view { u with banRanges := ranges, whiteListedRanges := white } ownId =
          { u.view ownId with
            rangeReasons := ranges.map fun _ blp => blp.reason
            whiteListedRanges := white } := fun _ _ _ => rfl
    rw [heq s ranges white, heq t ranges' white', hview, hranges, hwhite]
  exact ⟨(hguarded hs _ _).condenseBanSources now, (hguarded ht _ _).condenseBanSources now,
    view_condenseBanSources_eq (hguarded hs _ _) (hguarded ht _ _) hview' now⟩

theorem addIpRange_keeps (hs : s.Guarded ownId) (ht : t.Guarded ownId)
    (hview : s.view ownId = t.view ownId) (addr : SockaddrStorage) (m : Int) (listType : BitVec 32)
    (comment : String) (now : Int) :
  (s.addIpRange ownId addr m listType comment now).Guarded ownId ∧
    (t.addIpRange ownId addr m listType comment now).Guarded ownId ∧
    (s.addIpRange ownId addr m listType comment now).view ownId =
      (t.addIpRange ownId addr m listType comment now).view ownId
  := by
  have hreasons : s.banRanges.map (fun _ blp => blp.reason) =
      t.banRanges.map fun _ blp => blp.reason := congrArg View.rangeReasons hview
  have hwhite : s.whiteListedRanges = t.whiteListedRanges :=
    congrArg View.whiteListedRanges hview
  by_cases hbits : getBitRange addr.ip > m % 2 ^ 32
  · simp only [p3BanList.addIpRange, if_pos hbits]
    exact ⟨hs, ht, hview⟩
  · by_cases hm : m ≠ 0 ∧ m ≠ 1 ∧ m ≠ 2
    · simp only [p3BanList.addIpRange, if_neg hbits, if_pos hm]
      exact ⟨hs, ht, hview⟩
    · by_cases hlist : listType ≠ typeBlacklist ∧ listType ≠ typeWhitelist
      · simp only [p3BanList.addIpRange, if_neg hbits, if_neg hm, if_pos hlist]
        exact ⟨hs, ht, hview⟩
      · simp only [p3BanList.addIpRange, if_neg hbits, if_neg hm, if_neg hlist]
        by_cases hblack : listType = typeBlacklist
        · simp only [if_pos hblack]
          apply condense_ranges_keeps hs ht hview _ hwhite
          rw [map_withRange, map_withRange, hreasons]
        · simp only [if_neg hblack]
          apply condense_ranges_keeps hs ht hview hreasons
          rw [hwhite]

theorem removeIpRange_keeps (hs : s.Guarded ownId) (ht : t.Guarded ownId)
    (hview : s.view ownId = t.view ownId) (addr : SockaddrStorage) (m : Int) (listType : BitVec 32)
    (now : Int) :
  (s.removeIpRange ownId addr m listType now).Guarded ownId ∧
    (t.removeIpRange ownId addr m listType now).Guarded ownId ∧
    (s.removeIpRange ownId addr m listType now).view ownId =
      (t.removeIpRange ownId addr m listType now).view ownId
  := by
  have hreasons : s.banRanges.map (fun _ blp => blp.reason) =
      t.banRanges.map fun _ blp => blp.reason := congrArg View.rangeReasons hview
  have hwhite : s.whiteListedRanges = t.whiteListedRanges :=
    congrArg View.whiteListedRanges hview
  rw [p3BanList.removeIpRange, p3BanList.removeIpRange]
  by_cases hblack : listType = typeBlacklist
  · simp only [if_pos hblack]
    apply condense_ranges_keeps hs ht hview _ hwhite
    rw [OrdMap.map_erase, OrdMap.map_erase, hreasons]
  · by_cases hlisted : listType = typeWhitelist
    · simp only [if_neg hblack, if_pos hlisted]
      apply condense_ranges_keeps hs ht hview hreasons
      rw [hwhite]
    · simp only [if_neg hblack, if_neg hlisted]
      exact ⟨hs.condenseBanSources now, ht.condenseBanSources now,
        view_condenseBanSources_eq hs ht hview now⟩

/-! ### Runs -/

end p3BanList

/-- A call under which friends do not count: they get no entry with our own level or the reason of a
user, no automatic range that our own bans do not reach, and no condensing that our own bans would
not survive. -/
def Call.unswayed (ownId : RsPeerId) (s : p3BanList) (now : Int) : Call → Bool
  | .addBanEntry peerId addr level reason _ =>
      !isExternalNet addr.ip || p3BanList.mayReport ownId peerId level reason
  | .processIncoming items =>
      items.all (p3BanList.mayReceive ownId) &&
        (!(s.recvItems items now).1 || s.condensed ownId now)
  | .enableAutoRange b => { s with autoRangeIps := b }.reachesByOwnBans
  | .setAutoRangeLimit n => { s with autoRangeLimit := (n % 2 ^ 32).toNat }.reachesByOwnBans
  | .autoFigureOutBanRanges => s.reachesByOwnBans
  | _ => true

/-- The same call, but for the items of friends. -/
inductive Call.SameButItems : Call → Call → Prop
  | same (call : Call) : SameButItems call call
  | items (items items' : List RsBanListItem) :
      SameButItems (.processIncoming items) (.processIncoming items')

/-- The same call at the same time, but for the items of friends. -/
def Input.SameButItems (i j : Input) : Prop := i.now = j.now ∧ i.call.SameButItems j.call

namespace p3BanList

variable {s t : p3BanList} {ownId : RsPeerId}

theorem Guarded.updatePeer (h : s.Guarded ownId) (addr : SockaddrStorage)
    (timeStamp now : Int) :
  (s.updatePeer ownId addr timeStamp now).Guarded ownId
  := by
  apply Guarded.condenseBanSources
  apply h.addBanEntry
  intro _
  simp [mayReport]

theorem getDhtInfo_keeps (hs : s.Guarded ownId) (ht : t.Guarded ownId)
    (hview : s.view ownId = t.view ownId) (filteredPeers : List RsDhtFilteredPeer) (now : Int) :
  (s.getDhtInfo ownId filteredPeers now).Guarded ownId ∧
    (t.getDhtInfo ownId filteredPeers now).Guarded ownId ∧
      (s.getDhtInfo ownId filteredPeers now).view ownId =
        (t.getDhtInfo ownId filteredPeers now).view ownId
  := by
  have hfold : ∀ (l : List RsDhtFilteredPeer) (s t : p3BanList), s.Guarded ownId →
      t.Guarded ownId → s.view ownId = t.view ownId →
      ∀ s' t', s' = l.foldl (fun s p => (s.addBanEntry ownId ⟨.inet p.sAddr, p.sinPort⟩ originSelf
          reasonDht (p.lastSeen.bmod (2 ^ 32)) now).2) s →
        t' = l.foldl (fun s p => (s.addBanEntry ownId ⟨.inet p.sAddr, p.sinPort⟩ originSelf
          reasonDht (p.lastSeen.bmod (2 ^ 32)) now).2) t →
        s'.Guarded ownId ∧ t'.Guarded ownId ∧ s'.view ownId = t'.view ownId := by
    intro l
    induction l with
    | nil =>
      rintro s t hs ht hview s' t' rfl rfl
      exact ⟨hs, ht, hview⟩
    | cons p l ih =>
      intro s t hs ht hview s' t' hs' ht'
      have hmay : ∀ addr : SockaddrStorage, isExternalNet addr.ip = true →
          mayReport ownId ownId originSelf reasonDht = true := by
        intro _ _
        simp [mayReport]
      exact ih _ _ (hs.addBanEntry (hmay _) _ now) (ht.addBanEntry (hmay _) _ now)
        (view_addBanEntry_eq hview _ _ _ _ _ _) s' t' hs' ht'
  obtain ⟨hs', ht', hview'⟩ := hfold filteredPeers s t hs ht hview _ _ rfl rfl
  exact ⟨hs'.condenseBanSources now, ht'.condenseBanSources now,
    view_condenseBanSources_eq hs' ht' hview' now⟩

/-- Two lists with the same view have the same view after calls that differ in the items of friends
only. -/
theorem next_keeps_view {i j : Input} (hs : s.Guarded ownId) (ht : t.Guarded ownId)
    (hview : s.view ownId = t.view ownId) (hij : i.SameButItems j)
    (hi : i.call.unswayed ownId s i.now = true) (hj : j.call.unswayed ownId t j.now = true) :
  ((service ownId).next s i).Guarded ownId ∧ ((service ownId).next t j).Guarded ownId ∧
    ((service ownId).next s i).view ownId = ((service ownId).next t j).view ownId
  := by
  obtain ⟨now, call⟩ := i
  obtain ⟨now', call'⟩ := j
  obtain ⟨hnow, hcall⟩ := hij
  change now = now' at hnow
  subst hnow
  change call.SameButItems call' at hcall
  -- the calls that only set fields of the view, or none of them
  have hset : ∀ (f : View → View) (g : p3BanList → p3BanList),
      (∀ u : p3BanList, u.Guarded ownId → (g u).Guarded ownId) →
      (∀ u : p3BanList, (g u).view ownId = f (u.view ownId)) →
      (g s).Guarded ownId ∧ (g t).Guarded ownId ∧ (g s).view ownId = (g t).view ownId := by
    intro f g hguarded hg
    exact ⟨hguarded s hs, hguarded t ht, by rw [hg, hg, hview]⟩
  cases hcall with
  | items items items' =>
    simp only [Call.unswayed, Bool.and_eq_true, Bool.or_eq_true, Bool.not_eq_true'] at hi hj
    have hs' := processIncoming_keeps_view hs hi.1 now fun h =>
      hi.2.resolve_left (by simp [h])
    have ht' := processIncoming_keeps_view ht hj.1 now fun h =>
      hj.2.resolve_left (by simp [h])
    exact ⟨hs'.1, ht'.1, hs'.2.trans (hview.trans ht'.2.symm)⟩
  | same =>
    cases call with
    | addIpRange addr m listType comment =>
      exact addIpRange_keeps hs ht hview addr m listType comment now
    | removeIpRange addr m listType =>
      exact removeIpRange_keeps hs ht hview addr m listType now
    | isAddressAccepted addr flags =>
      have hs' := isAddressAccepted_keeps hs addr flags
      have ht' := isAddressAccepted_keeps ht addr flags
      exact ⟨hs'.1, ht'.1, hs'.2.trans (hview.trans ht'.2.symm)⟩
    | enableIPFiltering b =>
      exact hset (fun v => { v with ipFilteringEnabled := b })
        (fun u => { u with ipFilteringEnabled := b }) (fun _ hu => ⟨hu.sources, hu.set⟩) fun _ => rfl
    | enableIPsFromFriends b =>
      exact hset (fun v => { v with ipFriendGatheringEnabled := b })
        (fun u => { u with ipFriendGatheringEnabled := b, lastDhtInfoRequest := 0 })
        (fun _ hu => ⟨hu.sources, hu.set⟩) fun _ => rfl
    | enableIPsFromDHT b =>
      exact hset (fun v => { v with ipDHTGatheringEnabled := b })
        (fun u => { u with ipDHTGatheringEnabled := b, lastDhtInfoRequest := 0 })
        (fun _ hu => ⟨hu.sources, hu.set⟩) fun _ => rfl
    | enableAutoRange b =>
      obtain ⟨hs', ht', hview'⟩ := hset (fun v => { v with autoRangeIps := b })
        (fun u => { u with autoRangeIps := b }) (fun _ hu => ⟨hu.sources, hu.set⟩) fun _ => rfl
      exact ⟨hs'.autoFigureOutBanRanges now, ht'.autoFigureOutBanRanges now,
        view_autoFigureOutBanRanges_eq hs' ht' hview' hi hj now⟩
    | setAutoRangeLimit n =>
      obtain ⟨hs', ht', hview'⟩ := hset
        (fun v => { v with autoRangeLimit := (n % 2 ^ 32).toNat })
        (fun u => { u with autoRangeLimit := (n % 2 ^ 32).toNat }) (fun _ hu => ⟨hu.sources, hu.set⟩) fun _ => rfl
      exact ⟨hs'.autoFigureOutBanRanges now, ht'.autoFigureOutBanRanges now,
        view_autoFigureOutBanRanges_eq hs' ht' hview' hi hj now⟩
    | updatePeer addr timeStamp =>
      have hmay : isExternalNet addr.ip = true →
          mayReport ownId ownId originSelf reasonDht = true := fun _ => by simp [mayReport]
      exact ⟨hs.updatePeer addr timeStamp now, ht.updatePeer addr timeStamp now,
        view_condenseBanSources_eq (hs.addBanEntry hmay timeStamp now)
          (ht.addBanEntry hmay timeStamp now)
          (view_addBanEntry_eq hview ownId addr originSelf reasonDht timeStamp now) now⟩
    | addBanEntry peerId addr level reason timeStamp =>
      simp only [Call.unswayed, Bool.or_eq_true, Bool.not_eq_true'] at hi
      have hmay : isExternalNet addr.ip = true → mayReport ownId peerId level reason = true :=
        fun h => hi.resolve_left (by simp [h])
      exact ⟨hs.addBanEntry hmay timeStamp now, ht.addBanEntry hmay timeStamp now,
        view_addBanEntry_eq hview peerId addr level reason timeStamp now⟩
    | condenseBanSources =>
      exact ⟨hs.condenseBanSources now, ht.condenseBanSources now,
        view_condenseBanSources_eq hs ht hview now⟩
    | autoFigureOutBanRanges =>
      exact ⟨hs.autoFigureOutBanRanges now, ht.autoFigureOutBanRanges now,
        view_autoFigureOutBanRanges_eq hs ht hview hi hj now⟩
    | processIncoming items =>
      simp only [Call.unswayed, Bool.and_eq_true, Bool.or_eq_true, Bool.not_eq_true'] at hi hj
      have hs' := processIncoming_keeps_view hs hi.1 now fun h =>
        hi.2.resolve_left (by simp [h])
      have ht' := processIncoming_keeps_view ht hj.1 now fun h =>
        hj.2.resolve_left (by simp [h])
      exact ⟨hs'.1, ht'.1, hs'.2.trans (hview.trans ht'.2.symm)⟩
    | sendPackets peersConnected =>
      have hsend : ∀ u : p3BanList, (u.sendPackets peersConnected now).1.view ownId =
          u.view ownId := by
        intro u
        rw [sendPackets]
        split <;> rfl
      have hguarded : ∀ u : p3BanList, u.Guarded ownId →
          (u.sendPackets peersConnected now).1.Guarded ownId := by
        intro u hu
        rw [sendPackets]
        split
        · exact ⟨hu.sources, hu.set⟩
        · exact hu
      exact hset id _ hguarded hsend
    | getDhtInfo filteredPeers =>
      obtain ⟨hs', ht', hview'⟩ := getDhtInfo_keeps hs ht hview filteredPeers now
      exact ⟨⟨hs'.sources, hs'.set⟩, ⟨ht'.sources, ht'.set⟩, hview'⟩

theorem run_keeps_view {is js : List Input} (hsame : List.Forall₂ Input.SameButItems is js) :
  ∀ {s t : p3BanList}, s.Guarded ownId → t.Guarded ownId → s.view ownId = t.view ownId →
    (service ownId).Along (fun s i => i.call.unswayed ownId s i.now = true) s is →
    (service ownId).Along (fun s i => i.call.unswayed ownId s i.now = true) t js →
    ((service ownId).run s is).Guarded ownId ∧ ((service ownId).run t js).Guarded ownId ∧
      ((service ownId).run s is).view ownId = ((service ownId).run t js).view ownId
  := by
  induction hsame with
  | nil =>
    intro s t hs ht hview _ _
    exact ⟨hs, ht, hview⟩
  | cons hij _ ih =>
    rintro s t hs ht hview ⟨hi, his⟩ ⟨hj, hjs⟩
    obtain ⟨hs', ht', hview'⟩ := next_keeps_view hs ht hview hij hi hj
    exact ih hs' ht' hview' his hjs

/-- Friends who are not listened to do not influence verdicts, in runs whose calls they do not sway. -/
theorem isAddressAccepted_eq_of_sameButItems (ownId : RsPeerId) {is js : List Input}
    (hsame : List.Forall₂ Input.SameButItems is js)
    (hoff : ((service ownId).run init is).ipFriendGatheringEnabled = false)
    (his : (service ownId).Along (fun s i => i.call.unswayed ownId s i.now = true) init is)
    (hjs : (service ownId).Along (fun s i => i.call.unswayed ownId s i.now = true) init js)
    (addr : SockaddrStorage) (checkingFlags : BitVec 32) :
  (((service ownId).run init is).isAddressAccepted addr checkingFlags).1 =
    (((service ownId).run init js).isAddressAccepted addr checkingFlags).1
  := by
  obtain ⟨hs, ht, hview⟩ := run_keeps_view hsame (Guarded.init ownId) (Guarded.init ownId) rfl his
    hjs
  exact isAddressAccepted_eq_of_view_eq hs ht hoff hview addr checkingFlags

/-- The node bans what the DHT reports; friend 5 repeats the report, or is silent. -/
theorem isAddressAccepted_eq_of_sameButItems_repeated :
  (((service 1).run init [⟨10, .enableIPsFromDHT true⟩, ⟨20, .updatePeer ⟨ipv4 1 2 3 4, 0⟩ 20⟩,
      ⟨30, .processIncoming [⟨5, [⟨⟨ipv4 1 2 3 4, 0⟩, 2, reasonDht, 0, 0, ""⟩]⟩]⟩,
      ⟨40, .autoFigureOutBanRanges⟩]).isAddressAccepted ⟨ipv4 1 2 3 4, 0⟩
        checkingFlagsBlacklist).1 =
    (((service 1).run init [⟨10, .enableIPsFromDHT true⟩, ⟨20, .updatePeer ⟨ipv4 1 2 3 4, 0⟩ 20⟩,
      ⟨30, .processIncoming []⟩, ⟨40, .autoFigureOutBanRanges⟩]).isAddressAccepted
        ⟨ipv4 1 2 3 4, 0⟩ checkingFlagsBlacklist).1
  := by
  apply isAddressAccepted_eq_of_sameButItems 1
  · exact .cons ⟨rfl, .same _⟩ (.cons ⟨rfl, .same _⟩ (.cons ⟨rfl, .items _ _⟩
      (.cons ⟨rfl, .same _⟩ .nil)))
  · decide +kernel
  · decide +kernel
  · decide +kernel

/-- Friend 5 bans an address by giving its entry the reason of a user. -/
theorem not_isAddressAccepted_eq_of_sameButItems_userReason :
  ¬ ∀ (ownId : RsPeerId) (is js : List Input), List.Forall₂ Input.SameButItems is js →
    (∀ i ∈ is, i.call ≠ .enableIPsFromFriends true) →
    ∀ (addr : SockaddrStorage) (checkingFlags : BitVec 32),
      (((service ownId).run init is).isAddressAccepted addr checkingFlags).1 =
        (((service ownId).run init js).isAddressAccepted addr checkingFlags).1
  := by
  intro h
  have heq := h 1 [⟨10, .processIncoming [⟨5, [⟨⟨ipv4 1 2 3 4, 0⟩, 2, reasonUser, 0, 0, ""⟩]⟩]⟩]
    [⟨10, .processIncoming []⟩] (.cons ⟨rfl, .items _ _⟩ .nil) (by decide)
    ⟨ipv4 1 2 3 4, 0⟩ checkingFlagsBlacklist
  have hrejected : (((service 1).run init
      [⟨10, .processIncoming [⟨5, [⟨⟨ipv4 1 2 3 4, 0⟩, 2, reasonUser, 0, 0, ""⟩]⟩]⟩]).isAddressAccepted
        ⟨ipv4 1 2 3 4, 0⟩ checkingFlagsBlacklist).1 = false := by decide +kernel
  have haccepted : (((service 1).run init [⟨10, .processIncoming []⟩]).isAddressAccepted
      ⟨ipv4 1 2 3 4, 0⟩ checkingFlagsBlacklist).1 = true := by decide +kernel
  rw [hrejected, haccepted] at heq
  cases heq

end p3BanList

end IpFilter
