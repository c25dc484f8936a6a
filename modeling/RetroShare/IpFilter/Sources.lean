import RetroShare.IpFilter.BanList

/-!
# Verdicts, entries and their condensing

What `isAddressAccepted` answers, what `addBanEntry` does to the sources, and what condensing makes
of them: for an address, the set holds the least level at which a source reports it, with the
reasons of all the reports at that level put together.
-/

namespace IpFilter

open GRouter (RsPeerId)

namespace p3BanList

variable (s : p3BanList) (ownId : RsPeerId) (addr : SockaddrStorage)

/-! ### Verdicts -/

/-- An entry bans the address. -/
def bans (ip : IpAddress) : Bool :=
  (s.bannedRange (makeBitsRange ip 2)).isSome || (s.bannedRange (makeBitsRange ip 1)).isSome ||
    (s.bannedRange ip).isSome || ((s.banSet.get? ip).filter s.acceptedBanSet).isSome

/-- The verdict of `isAddressAccepted`. -/
theorem isAddressAccepted_fst (checkingFlags : BitVec 32) :
  (s.isAddressAccepted addr checkingFlags).1 =
    (isLoopbackNet addr.ip || !s.ipFilteringEnabled || s.isWhiteListed addr.ip ||
      decide (checkingFlags &&& checkingFlagsWhitelist = 0) &&
        (decide (checkingFlags &&& checkingFlagsBlacklist = 0) || !s.bans addr.ip))
  := by
  have hwhite : (((s.whiteListedRanges.get? (makeBitsRange addr.ip 2)).isSome ||
      (s.whiteListedRanges.get? (makeBitsRange addr.ip 1)).isSome ||
      (s.whiteListedRanges.get? (makeBitsRange addr.ip 0)).isSome) = s.isWhiteListed addr.ip) := by
    simp only [isWhiteListed, Bool.or_comm, Bool.or_assoc]
  rw [isAddressAccepted]
  simp only [hwhite]
  split
  case isTrue hloop => simp [hloop]
  case isFalse hloop =>
    split
    case isTrue hoff => simp [hoff]
    case isFalse hoff =>
      split
      case isTrue hlisted => simp [hlisted]
      case isFalse hlisted =>
        split
        case isTrue hw =>
          rw [decide_eq_false hw]
          simp [hloop, hoff, hlisted]
        case isFalse hw =>
          split
          case isTrue hb => simp [hb, not_not.mp hw]
          case isFalse hb =>
            have hverdict : (isLoopbackNet addr.ip || !s.ipFilteringEnabled ||
                s.isWhiteListed addr.ip ||
                decide (checkingFlags &&& checkingFlagsWhitelist = 0) &&
                  (decide (checkingFlags &&& checkingFlagsBlacklist = 0) || !s.bans addr.ip)) =
                !s.bans addr.ip := by
              rw [decide_eq_false hb]
              simp [hloop, hoff, hlisted, not_not.mp hw]
            rw [hverdict, bans, ← makeBitsRange_zero addr.ip]
            simp only [makeBitsRange_zero]
            cases h16 : s.bannedRange (makeBitsRange addr.ip 2) with
            | some blp => simp
            | none =>
              cases h24 : s.bannedRange (makeBitsRange addr.ip 1) with
              | some blp => simp
              | none =>
                cases h32 : s.bannedRange addr.ip with
                | some blp => simp
                | none =>
                  cases hset : (s.banSet.get? addr.ip).filter s.acceptedBanSet with
                  | some blp => simp
                  | none => simp

theorem rejected_iff :
  (s.isAddressAccepted addr checkingFlagsBlacklist).1 = false ↔
    isLoopbackNet addr.ip = false ∧ s.ipFilteringEnabled = true ∧
      s.isWhiteListed addr.ip = false ∧ s.bans addr.ip = true
  := by
  rw [isAddressAccepted_fst]
  simp [checkingFlagsWhitelist, checkingFlagsBlacklist, and_assoc]

/-! ### Storing an entry -/

/-- `addBanEntry` stores the entry: its source does not report the same already. -/
def IsNews (peerId : RsPeerId) (addr : SockaddrStorage) (level reason : BitVec 32)
    (timeStamp : Int) : Prop :=
  isExternalNet addr.ip ∧
    ∀ source, s.banSources.get? peerId = some source →
      ∀ e, source.banPeers.get? ⟨addr.ip, 0⟩ = some e →
        e.reason ≠ reason ∨ e.level ≠ level ∨ e.ts < timeStamp

/-- The source that `addBanEntry` finds or makes. -/
def sourceOf (peerId : RsPeerId) (now : Int) : BanList :=
  (s.banSources.get? peerId).getD ⟨peerId, now, OrdMap.empty⟩

/-- The source with the entry stored. -/
def sourceWith (peerId : RsPeerId) (addr : SockaddrStorage) (level reason : BitVec 32)
    (timeStamp now : Int) : BanList :=
  let source := s.sourceOf peerId now
  { source with
    banPeers := source.banPeers.insert ⟨addr.ip, 0⟩
      (banEntry ((source.banPeers.get? ⟨addr.ip, 0⟩).getD BanListPeer.init) addr level reason
        timeStamp)
    lastUpdate := now }

variable {s} {reason level : BitVec 32} (now : Int) {peerId : RsPeerId} {timeStamp : Int}

theorem addBanEntry_of_isNews {addr : SockaddrStorage}
    (h : s.IsNews peerId addr level reason timeStamp) :
  s.addBanEntry peerId addr level reason timeStamp now =
    (true, { s with
      banSources := s.banSources.insert peerId
        (s.sourceWith peerId addr level reason timeStamp now) })
  := by
  obtain ⟨hext, hnew⟩ := h
  simp only [addBanEntry, hext, Bool.not_true, Bool.false_eq_true, if_false, sourceWith, sourceOf]
  cases hsource : s.banSources.get? peerId with
  | none => simp
  | some source =>
    simp only [Option.getD_some]
    cases he : source.banPeers.get? ⟨addr.ip, 0⟩ with
    | none => simp
    | some e => simp [hnew source hsource e he]

theorem addBanEntry_of_not_isNews {addr : SockaddrStorage}
    (h : ¬ s.IsNews peerId addr level reason timeStamp) :
  s.addBanEntry peerId addr level reason timeStamp now = (false, s)
  := by
  rw [addBanEntry]
  cases hext : isExternalNet addr.ip with
  | false => rfl
  | true =>
    simp only [IsNews, hext, true_and, not_forall] at h
    obtain ⟨source, hsource, e, he, hold⟩ := h
    simp only [hsource, he, if_neg hold, Bool.not_true, Bool.false_eq_true, if_false,
      OrdMap.insert_of_get?_eq_some hsource]

theorem addBanEntry_eq (s : p3BanList) (peerId : RsPeerId) (addr : SockaddrStorage)
    (level reason : BitVec 32) (timeStamp now : Int) :
  ∃ banSources, (s.addBanEntry peerId addr level reason timeStamp now).2 =
    { s with banSources := banSources }
  := by
  by_cases h : s.IsNews peerId addr level reason timeStamp
  · exact ⟨_, by rw [addBanEntry_of_isNews now h]⟩
  · exact ⟨s.banSources, by rw [addBanEntry_of_not_isNews now h]⟩

theorem recvItems_keeps {P : p3BanList → Prop} {items : List RsBanListItem} {now : Int}
    (h : ∀ item ∈ items, ∀ e ∈ item.peerList, ∀ s, P s →
      P (s.addBanEntry item.peerId e.addr e.level e.reason (now - e.age.toNat) now).2)
    (hs : P s) :
  P (s.recvItems items now).2
  := by
  have hitems : ∀ (items' : List RsBanListItem) (r : Bool × p3BanList), items' ⊆ items → P r.2 →
      P (items'.foldl (fun r item =>
        ((r.2.recvBanItem item now).1 || r.1, (r.2.recvBanItem item now).2)) r).2 := by
    intro items'
    induction items' with
    | nil => exact fun r _ hr => hr
    | cons item items' ih =>
      intro r hsub hr
      rw [List.cons_subset] at hsub
      apply ih _ hsub.2
      have hentries : ∀ (es : List RsTlvBanListEntry) (r : Bool × p3BanList),
          es ⊆ item.peerList → P r.2 →
          P (es.foldl (fun r e =>
            let r' := r.2.addBanEntry item.peerId e.addr e.level e.reason (now - e.age.toNat) now
            (r'.1 || r.1, r'.2)) r).2 := by
        intro es
        induction es with
        | nil => exact fun r _ hr => hr
        | cons e es ih' =>
          intro r hsub' hr
          rw [List.cons_subset] at hsub'
          apply ih' _ hsub'.2
          apply h item hsub.1 e hsub'.1 r.2 hr
      apply hentries item.peerList (false, r.2) (List.Subset.refl _) hr
  apply hitems items (false, s) (List.Subset.refl _) hs

/-! ### Condensing -/

variable (s)

@[simp]
theorem condenseBanSources_banRanges :
  (s.condenseBanSources ownId now).banRanges = s.banRanges
  := rfl

@[simp]
theorem condenseBanSources_whiteListedRanges :
  (s.condenseBanSources ownId now).whiteListedRanges = s.whiteListedRanges
  := rfl

/-- At `now`, an entry of a source counts for an address with a level and a reason. -/
def CountsAs (now : Int) (key : IpAddress) (peer : RsPeerId) (e : BanListPeer)
    (lvl reason : BitVec 32) : Prop :=
  ¬ now > entryMaxAge + e.ts ∧ bannedAddr e.addr.ip = key ∧ ¬ s.isWhiteListed key ∧
    lvl = condensedLevel ownId peer e.level ∧ reason = e.reason

/-- At `now`, some entry counts for an address with a level and a reason. -/
def Counts (now : Int) (key : IpAddress) (lvl reason : BitVec 32) : Prop :=
  ∃ peer source, s.banSources.get? peer = some source ∧ ¬ now - source.lastUpdate > entryMaxAge ∧
    ∃ a e, source.banPeers.get? a = some e ∧ s.CountsAs ownId now key peer e lvl reason

/-- What the set holds for an address when the reports on it have the levels and reasons `P`: the
least level, and the reasons of all reports at this level. -/
def Merged (P : BitVec 32 → BitVec 32 → Prop) : Option BanListPeer → Prop
  | none => ∀ lvl reason, ¬ P lvl reason
  | some bp =>
      (∃ reason, P bp.level reason) ∧ (∀ lvl reason, P lvl reason → bp.level ≤ lvl) ∧
        ∀ i, bp.reason.getLsbD i = true ↔
          ∃ reason, P bp.level reason ∧ reason.getLsbD i = true

variable {s ownId} {P : BitVec 32 → BitVec 32 → Prop} {bp : BanListPeer} {lvl : BitVec 32}
  {set : OrdMap IpAddress BanListPeer} {key : IpAddress} {ν : Type}

theorem Merged.congr {Q : BitVec 32 → BitVec 32 → Prop} {o : Option BanListPeer} (h : Merged P o)
    (hPQ : ∀ lvl reason, P lvl reason ↔ Q lvl reason) :
  Merged Q o
  := by
  have : P = Q := by
    funext lvl reason
    exact propext (hPQ lvl reason)
  rwa [← this]

/-- A report at a level below that of the others. -/
theorem Merged.of_lt (h : ∀ lvl' reason', P lvl' reason' → lvl < lvl') (hlvl : bp.level = lvl)
    (hreason : bp.reason = reason) :
  Merged (fun l r => P l r ∨ l = lvl ∧ r = reason) (some bp)
  := by
  subst hlvl hreason
  refine ⟨⟨bp.reason, .inr ⟨rfl, rfl⟩⟩, ?_, ?_⟩
  · rintro l r (hP | ⟨rfl, -⟩)
    · exact BitVec.le_of_lt (h l r hP)
    · exact BitVec.le_refl _
  · intro i
    constructor
    · intro hi
      exact ⟨bp.reason, .inr ⟨rfl, rfl⟩, hi⟩
    · rintro ⟨r, hP | ⟨-, rfl⟩, hi⟩
      · exact absurd (h _ _ hP) (BitVec.lt_irrefl _)
      · exact hi

/-- A report at the least level so far. -/
theorem Merged.of_eq {bp' : BanListPeer} (h : Merged P (some bp)) (hbp : bp.level = lvl)
    (hlvl : bp'.level = bp.level) (hreason : bp'.reason = bp.reason ||| reason) :
  Merged (fun l r => P l r ∨ l = lvl ∧ r = reason) (some bp')
  := by
  obtain ⟨⟨r₀, hr₀⟩, hle, hbits⟩ := h
  subst hbp
  refine ⟨⟨r₀, .inl (hlvl ▸ hr₀)⟩, ?_, ?_⟩
  · rintro l r (hP | ⟨rfl, -⟩)
    · rw [hlvl]
      exact hle l r hP
    · rw [hlvl]
      exact BitVec.le_refl _
  · intro i
    rw [hreason, hlvl, BitVec.getLsbD_or, Bool.or_eq_true, hbits]
    constructor
    · rintro (⟨r, hP, hi⟩ | hi)
      · exact ⟨r, .inl hP, hi⟩
      · exact ⟨reason, .inr ⟨rfl, rfl⟩, hi⟩
    · rintro ⟨r, hP | ⟨-, rfl⟩, hi⟩
      · exact .inl ⟨r, hP, hi⟩
      · exact .inr hi

/-- A report at a level above the least. -/
theorem Merged.of_gt (h : Merged P (some bp)) (hlvl : bp.level < lvl) :
  Merged (fun l r => P l r ∨ l = lvl ∧ r = reason) (some bp)
  := by
  obtain ⟨⟨r₀, hr₀⟩, hle, hbits⟩ := h
  refine ⟨⟨r₀, .inl hr₀⟩, ?_, ?_⟩
  · rintro l r (hP | ⟨rfl, -⟩)
    · exact hle l r hP
    · exact BitVec.le_of_lt hlvl
  · intro i
    rw [hbits]
    constructor
    · rintro ⟨r, hP, hi⟩
      exact ⟨r, .inl hP, hi⟩
    · rintro ⟨r, hP | ⟨heq, -⟩, hi⟩
      · exact ⟨r, hP, hi⟩
      · rw [heq] at hlvl
        exact absurd hlvl (BitVec.lt_irrefl _)

theorem merged_condenseEntry {now : Int} (h : Merged P (set.get? key)) (peer : RsPeerId)
    (e : BanListPeer) :
  Merged (fun lvl reason => P lvl reason ∨ s.CountsAs ownId now key peer e lvl reason)
    ((s.condenseEntry ownId now peer set e).get? key)
  := by
  rw [condenseEntry]
  split
  case isTrue hold =>
    apply h.congr
    simp [CountsAs, hold]
  case isFalse hdate =>
    by_cases hkey : bannedAddr e.addr.ip = key
    · subst hkey
      have hcounts : ∀ lvl reason, s.CountsAs ownId now (bannedAddr e.addr.ip) peer e lvl reason ↔
          ¬ s.isWhiteListed (bannedAddr e.addr.ip) ∧
            (lvl = condensedLevel ownId peer e.level ∧ reason = e.reason) := by
        intro lvl reason
        simp [CountsAs, hdate]
      simp only [hcounts]
      split
      case isTrue hwhite =>
        apply h.congr
        simp [hwhite]
      case isFalse hwhite =>
        simp only [hwhite, Bool.false_eq_true, not_false_eq_true, true_and]
        cases hset : set.get? (bannedAddr e.addr.ip) with
        | none =>
          rw [hset] at h
          simp only [OrdMap.get?_insert_self]
          apply Merged.of_lt
          · intro l r hP
            exact absurd hP (h l r)
          · rfl
          · rfl
        | some bp =>
          rw [hset] at h
          simp only
          split
          case isTrue hlt =>
            rw [OrdMap.get?_insert_self]
            apply Merged.of_lt
            · intro l r hP
              exact Nat.lt_of_lt_of_le hlt (h.2.1 l r hP)
            · rfl
            · rfl
          case isFalse hnlt =>
            split
            case isTrue heq =>
              rw [OrdMap.get?_insert_self]
              apply h.of_eq heq.symm
              · rfl
              · rfl
            case isFalse hne =>
              rw [hset]
              apply h.of_gt
              exact BitVec.lt_of_le_ne (BitVec.not_lt.mp hnlt) (Ne.symm hne)
    · have hother : ∀ v, (set.insert (bannedAddr e.addr.ip) v).get? key = set.get? key := by
        intro v
        rw [OrdMap.get?_insert, if_neg (Ne.symm hkey)]
      have hsame : Merged (fun lvl reason => P lvl reason ∨
          s.CountsAs ownId now key peer e lvl reason) (set.get? key) := by
        apply h.congr
        simp [CountsAs, hkey]
      simp only
      split
      · exact hsame
      · split
        · rwa [hother]
        · split
          · rwa [hother]
          · split
            · rwa [hother]
            · exact hsame

theorem merged_condenseSource {now : Int} (h : Merged P (set.get? key))
    (source : RsPeerId × BanList) :
  Merged (fun lvl reason => P lvl reason ∨ ¬ now - source.2.lastUpdate > entryMaxAge ∧
      ∃ e ∈ source.2.banPeers.toList, s.CountsAs ownId now key source.1 e.2 lvl reason)
    ((s.condenseSource ownId now set source).get? key)
  := by
  rw [condenseSource]
  split
  case isTrue hold =>
    apply h.congr
    simp [hold]
  case isFalse hdate =>
    simp only [hdate, not_false_eq_true, true_and]
    generalize source.2.banPeers.toList = l
    induction l generalizing set P with
    | nil => simpa using h
    | cons e l ih =>
      rw [List.foldl_cons]
      apply (ih (merged_condenseEntry h source.1 e.2)).congr
      simp [or_assoc]

theorem merged_condenseBanSources (s : p3BanList) (ownId : RsPeerId) (now : Int)
    (key : IpAddress) :
  Merged (s.Counts ownId now key) ((s.condenseBanSources ownId now).banSet.get? key)
  := by
  have hfold : ∀ (l : List (RsPeerId × BanList)) (set : OrdMap IpAddress BanListPeer)
      (P : BitVec 32 → BitVec 32 → Prop), Merged P (set.get? key) →
      Merged (fun lvl reason => P lvl reason ∨ ∃ source ∈ l,
          ¬ now - source.2.lastUpdate > entryMaxAge ∧
            ∃ e ∈ source.2.banPeers.toList, s.CountsAs ownId now key source.1 e.2 lvl reason)
        ((l.foldl (s.condenseSource ownId now) set).get? key) := by
    intro l
    induction l with
    | nil =>
      intro set P h
      simpa using h
    | cons source l ih =>
      intro set P h
      rw [List.foldl_cons]
      apply (ih _ _ (merged_condenseSource h source)).congr
      simp [or_assoc]
  have hempty : Merged (fun _ _ => False) ((OrdMap.empty : OrdMap IpAddress BanListPeer).get? key) :=
    by simp [Merged]
  apply (hfold s.banSources.toList _ _ hempty).congr
  intro lvl reason
  simp only [Counts, false_or, Prod.exists, OrdMap.mem_toList]

/-! ### Automatic ranges -/

theorem exists_of_get?_rangeMap {set : OrdMap IpAddress ν} {r : IpAddress} {n : Nat}
    (h : (rangeMap set).get? r = some n) :
  ∃ ip, r = makeBitsRange ip 1
  := by
  have hfold : ∀ (l : List (IpAddress × ν)) (map : OrdMap IpAddress Nat),
      (∀ r n, map.get? r = some n → ∃ ip, r = makeBitsRange ip 1) →
      ∀ r n, (l.foldl (fun map e =>
        let range := makeBitsRange e.1 1
        map.insert range ((map.get? range).getD 0 + 1)) map).get? r = some n →
        ∃ ip, r = makeBitsRange ip 1 := by
    intro l
    induction l with
    | nil => exact fun map hmap => hmap
    | cons e l ih =>
      intro map hmap
      apply ih
      intro r n hr
      rw [OrdMap.get?_insert] at hr
      split at hr
      case isTrue heq => exact ⟨e.1, heq⟩
      case isFalse => apply hmap r n hr
  apply hfold set.toList OrdMap.empty _ r n h
  intro r n hr
  cases hr

theorem get?_rangeMap (set : OrdMap IpAddress ν) (r : IpAddress) :
  (rangeMap set).get? r =
    if set.toList.countP (fun e => makeBitsRange e.1 1 = r) = 0 then none
    else some (set.toList.countP fun e => makeBitsRange e.1 1 = r)
  := by
  have hfold : ∀ (l : List (IpAddress × ν)) (map : OrdMap IpAddress Nat),
      (l.foldl (fun map e =>
        let range := makeBitsRange e.1 1
        map.insert range ((map.get? range).getD 0 + 1)) map).get? r =
      if l.countP (fun e => makeBitsRange e.1 1 = r) = 0 then map.get? r
      else some ((map.get? r).getD 0 + l.countP fun e => makeBitsRange e.1 1 = r) := by
    intro l
    induction l with
    | nil => exact fun map => rfl
    | cons e l ih =>
      intro map
      rw [List.foldl_cons, ih, List.countP_cons]
      simp only [OrdMap.get?_insert]
      by_cases hr : makeBitsRange e.1 1 = r
      · subst hr
        simp only [if_true, decide_true, Option.getD_some, Nat.succ_ne_zero, if_false]
        split
        case isTrue hzero => rw [hzero]
        case isFalse => rw [Nat.add_assoc, Nat.add_comm 1]
      · simp only [if_neg (Ne.symm hr), decide_eq_false hr, Bool.false_eq_true, if_false,
          Nat.add_zero]
  rw [rangeMap, hfold]
  simp

/-- What `autoFigureOutBanRanges` leaves at a key of the ranges. -/
def figuredOut (limit : Nat) (now : Int) (range : IpAddress) (n : Nat) (old : Option BanListPeer) :
    Option BanListPeer :=
  if n ≥ limit ∧ (old.getD BanListPeer.init).reason ≠ reasonUser then
    some (autoRange (old.getD BanListPeer.init) range n now)
  else old

theorem get?_foldl_figureOutRange (s : p3BanList) (now : Int) (map : OrdMap IpAddress Nat)
    (ranges : OrdMap IpAddress BanListPeer) (k : IpAddress) :
  (map.toList.foldl (s.figureOutRange now) ranges).get? k =
    ((map.get? k).map fun n => figuredOut s.autoRangeLimit now k n (ranges.get? k)).getD
      (ranges.get? k)
  := by
  apply OrdMap.get?_foldl
  intro acc e k
  rw [figureOutRange, figuredOut]
  by_cases hk : k = e.1
  · subst hk
    rw [if_pos rfl]
    by_cases hn : e.2 ≥ s.autoRangeLimit
    · by_cases hu : ((acc.get? e.1).getD BanListPeer.init).reason = reasonUser
      · simp [hn, hu]
      · simp [hn, hu]
    · simp [hn]
  · rw [if_neg hk]
    split
    case isTrue =>
      simp only
      split
      case isTrue => rfl
      case isFalse => rw [OrdMap.get?_insert, if_neg hk]
    case isFalse => rfl

end p3BanList

end IpFilter
