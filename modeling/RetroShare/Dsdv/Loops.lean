import RetroShare.Dsdv.Network

/-!
# Routes without loops

The sequence number and the distance of a stable route are better than those of all routes through
its node.  So they get better from node to node, and following the stable routes never leads to a
loop, in a run whose steps are careful.
-/

namespace Dsdv

open Network

/-! ### What is selected -/

section Selection

variable (now currseq : Nat)

theorem findNewest_foldl (l : List (RsPeerId × RsDsdvRoute)) (sel : Selection) :
  l.foldl (findNewest now) sel = sel ∨
    ∃ e ∈ l, e.2.isLive now ∧ e.2.mSequence = (l.foldl (findNewest now) sel).newest ∧
      e.2.mDistance = (l.foldl (findNewest now) sel).closest ∧
      e.1 = (l.foldl (findNewest now) sel).closestId
  := by
  induction l generalizing sel with
  | nil => exact .inl rfl
  | cons e l ih =>
    rw [List.foldl_cons]
    obtain hsame | ⟨e', he', hfound⟩ := ih (findNewest now sel e)
    · rw [hsame, findNewest]
      split
      case isTrue hlive =>
        right
        use e, List.mem_cons_self, hlive.1
        exact ⟨rfl, rfl, rfl⟩
      case isFalse => exact .inl rfl
    · exact .inr ⟨e', List.mem_cons_of_mem e he', hfound⟩

theorem findClosest_spec (sel : Selection) (e : RsPeerId × RsDsdvRoute) :
  (findClosest now currseq sel e).closest ≤ sel.closest ∧
    (e.2.isRecent currseq → e.2.isLive now →
      (findClosest now currseq sel e).closest ≤ e.2.mDistance) ∧
    (findClosest now currseq sel e = sel ∨ e.2.isRecent currseq ∧ e.2.isLive now ∧
      e.2.mDistance = (findClosest now currseq sel e).closest ∧
      e.1 = (findClosest now currseq sel e).closestId)
  := by
  rw [findClosest]
  split
  case isTrue hold => simp_all
  case isFalse hrecent =>
    rw [Bool.not_eq_true, Bool.not_eq_false'] at hrecent
    split
    case isTrue hold => simp_all
    case isFalse hlive =>
      rw [Bool.not_eq_true, Bool.not_eq_false'] at hlive
      split
      case isTrue hcloser => exact ⟨hcloser.le, fun _ _ => le_rfl, .inr ⟨hrecent, hlive, rfl, rfl⟩⟩
      case isFalse hfar =>
        split
        case isTrue hage =>
          exact ⟨hage.1.le, fun _ _ => le_rfl, .inr ⟨hrecent, hlive, rfl, rfl⟩⟩
        case isFalse => exact ⟨le_rfl, fun _ _ => not_lt.1 hfar, .inl rfl⟩

/-- The closest route is the one at the beginning or one that is live and new enough, and none of
these is closer. -/
theorem findClosest_foldl (l : List (RsPeerId × RsDsdvRoute)) (sel : Selection) :
  (l.foldl (findClosest now currseq) sel).closest ≤ sel.closest ∧
    (∀ e ∈ l, e.2.isRecent currseq → e.2.isLive now →
      (l.foldl (findClosest now currseq) sel).closest ≤ e.2.mDistance) ∧
    (l.foldl (findClosest now currseq) sel = sel ∨
      ∃ e ∈ l, e.2.isRecent currseq ∧ e.2.isLive now ∧
        e.2.mDistance = (l.foldl (findClosest now currseq) sel).closest ∧
        e.1 = (l.foldl (findClosest now currseq) sel).closestId)
  := by
  induction l generalizing sel with
  | nil => simp
  | cons e l ih =>
    obtain ⟨hle, hall, hfrom⟩ := findClosest_spec now currseq sel e
    obtain ⟨hle', hall', hfrom'⟩ := ih (findClosest now currseq sel e)
    rw [List.foldl_cons]
    refine ⟨hle'.trans hle, ?_, ?_⟩
    · intro e' he' hrecent hlive
      obtain rfl | he' := List.mem_cons.1 he'
      · exact hle'.trans (hall hrecent hlive)
      · exact hall' e' he' hrecent hlive
    · obtain hsame | ⟨e', he', hfound⟩ := hfrom'
      · rw [hsame]
        obtain hsel | hfound := hfrom
        · exact .inl hsel
        · exact .inr ⟨e, List.mem_cons_self, hfound⟩
      · exact .inr ⟨e', List.mem_cons_of_mem e he', hfound⟩

end Selection

theorem selectStableRoute_spec {now : Nat} {v : RsDsdvTableEntry} (hown : v.mOwnSource = false)
    (hstable : (v.selectStableRoute now).mIsStable) :
  (v.selectStableRoute now).mStableRoute ∈ candidates now v ∧
    ∃ peerId, v.mAllRoutes.get? peerId = some (v.selectStableRoute now).mStableRoute
  := by
  rw [RsDsdvTableEntry.selectStableRoute, if_neg (by simp [hown])] at hstable ⊢
  split at hstable
  case isTrue => cases hstable
  case isFalse hclosest =>
    rw [if_neg hclosest]
    simp only [closestRoute]
    generalize hsel : newestRoute now v.mAllRoutes.toList = sel at hclosest
    obtain ⟨hle, hall, hfrom⟩ :=
      findClosest_foldl now sel.currseq v.mAllRoutes.toList sel
    generalize v.mAllRoutes.toList.foldl (findClosest now sel.currseq) sel = best at hle hall hfrom
    have hroute : ∃ e ∈ v.mAllRoutes.toList, e.2.isLive now ∧
        (e.2.isRecent sel.currseq ∨ e.2.mSequence = sel.newest) ∧
        e.2.mDistance = best.closest ∧ e.1 = best.closestId := by
      obtain rfl | ⟨e, he, hrecent, hlive, hfound⟩ := hfrom
      · obtain hnone | ⟨e, he, hlive, hseq, hfound⟩ :=
          findNewest_foldl now v.mAllRoutes.toList ⟨0, maxDistance + 1, 0, 0⟩
        · change newestRoute now v.mAllRoutes.toList = _ at hnone
          rw [hsel] at hnone
          exact absurd (show maxDistance + 1 ≤ best.closest by rw [hnone]) hclosest
        · change _ = (newestRoute now v.mAllRoutes.toList).newest at hseq
          change _ = (newestRoute now v.mAllRoutes.toList).closest ∧
            _ = (newestRoute now v.mAllRoutes.toList).closestId at hfound
          rw [hsel] at hseq hfound
          exact ⟨e, he, hlive, .inr hseq, hfound⟩
      · exact ⟨e, he, hlive, .inl hrecent, hfound⟩
    obtain ⟨⟨peerId, route⟩, he, hlive, hseq, hdistance, hid⟩ := hroute
    dsimp only at hlive hseq hdistance hid
    have hget : v.mAllRoutes.get? best.closestId = some route :=
      hid ▸ OrdMap.mem_toList.1 he
    rw [hget, Option.getD_some]
    refine ⟨?_, best.closestId, hget⟩
    simp only [candidates, hsel, List.mem_filter, List.mem_map, List.all_eq_true,
      Bool.and_eq_true, Bool.or_eq_true, decide_eq_true_eq, Bool.not_eq_true']
    refine ⟨⟨⟨_, he, rfl⟩, hlive⟩, hseq, ?_⟩
    rintro other ⟨⟨e, hmem, rfl⟩, hother⟩
    by_cases hrecent : e.2.isRecent (sel.newest - sel.newest % 2)
    case pos =>
      right
      rw [hdistance]
      exact hall e hmem hrecent hother
    case neg => exact .inl (by simpa using hrecent)

/-! ### Better routes -/

/-- The sequence number and the distance of the stable route. -/
def RsDsdvTableEntry.key (v : RsDsdvTableEntry) : Nat × Nat :=
  (v.mStableRoute.mSequence, v.mStableRoute.mDistance)

theorem beats_iff (a b : Nat × Nat) :
  beats a b ↔ b.1 < a.1 ∨ a.1 = b.1 ∧ a.2 < b.2
  := by
  simp [beats]

theorem not_beats_self (a : Nat × Nat) :
  ¬ beats a a
  := by
  simp [beats_iff]

variable {a b : Nat × Nat} {net net' : Network} {x : RsPeerId} {hash : Nat} {v : RsDsdvTableEntry}

theorem beats_trans {c : Nat × Nat} (h : beats a b) (h' : beats b c) :
  beats a c
  := by
  rw [beats_iff] at h h' ⊢
  omega

theorem beatsTellings_iff :
  net.beatsTellings x hash a ↔ ∀ b ∈ net.tellings x hash, beats a b
  := List.all_eq_true

theorem mem_tellings :
  b ∈ net.tellings x hash ↔
    (∃ packet ∈ net.packets, packet.src = x ∧ ∃ entry ∈ packet.routes,
      entry.endPoint.mHash = hash ∧ b = (entry.sequence, add32 entry.distance 1)) ∨
    ∃ z v route, net.known? z hash = some v ∧ v.mAllRoutes.get? x = some route ∧
      b = (route.mSequence, route.mDistance)
  := by
  rw [tellings, List.mem_append]
  apply or_congr
  · simp only [List.mem_flatMap, List.mem_map, List.mem_filter, Bool.and_eq_true,
      decide_eq_true_eq]
    constructor
    · rintro ⟨packet, hpacket, entry, ⟨hentry, hsrc, hhash⟩, rfl⟩
      exact ⟨packet, hpacket, hsrc, entry, hentry, hhash, rfl⟩
    · rintro ⟨packet, hpacket, hsrc, entry, hentry, hhash, rfl⟩
      exact ⟨packet, hpacket, entry, ⟨hentry, hsrc, hhash⟩, rfl⟩
  · simp only [List.mem_filterMap, known?, Option.map_eq_some_iff, Option.bind_eq_some_iff]
    constructor
    · rintro ⟨⟨z, node⟩, hnode, route, ⟨v, hv, hroute⟩, rfl⟩
      exact ⟨z, v, route, ⟨node, OrdMap.mem_toList.1 hnode, hv⟩, hroute, rfl⟩
    · rintro ⟨z, v, route, ⟨node, hnode, hv⟩, hroute, rfl⟩
      exact ⟨(z, node), OrdMap.mem_toList.2 hnode, route, ⟨v, hv, hroute⟩, rfl⟩

/-! ### The invariant -/

/-- Routes are kept under their next hop, and the stable route is one of them. -/
structure RsDsdvTableEntry.Proper (hash : Nat) (v : RsDsdvTableEntry) : Prop where
  dest : v.mDest.mHash = hash
  routes : ∀ peerId route, v.mAllRoutes.get? peerId = some route → route.mNextHop = peerId
  stable : v.mOwnSource = false → v.mIsStable →
    v.mAllRoutes.get? v.mStableRoute.mNextHop = some v.mStableRoute

/-- The stable routes of a node are better than all routes through it. -/
structure Network.Sound (net : Network) : Prop where
  proper : ∀ x hash v, net.known? x hash = some v → v.Proper hash
  better : ∀ x hash v, net.known? x hash = some v → v.mIsStable → net.beatsTellings x hash v.key

/-- Along the stable routes, these get better. -/
theorem Network.Sound.beats_of_hop (h : Sound net) {y : RsPeerId} (hhop : net.Hop hash x y) :
  ∃ v, net.known? x hash = some v ∧ v.mIsStable ∧
    ∀ w, net.known? y hash = some w → w.mIsStable → beats w.key v.key
  := by
  obtain ⟨v, hv, hstable, hown, rfl⟩ := hhop
  refine ⟨v, hv, hstable, ?_⟩
  intro w hw hwstable
  apply beatsTellings_iff.1 (h.better _ _ w hw hwstable)
  apply mem_tellings.2
  right
  exact ⟨x, v, v.mStableRoute, hv, (h.proper x hash v hv).stable hown hstable, rfl⟩

theorem Network.Sound.noLoops (h : Sound net) :
  net.NoLoops
  := by
  intro hash x hloop
  have hbeats : ∀ y, Relation.TransGen (net.Hop hash) x y →
      ∃ v, net.known? x hash = some v ∧ v.mIsStable ∧
        ∀ w, net.known? y hash = some w → w.mIsStable → beats w.key v.key := by
    intro y hy
    induction hy with
    | single hhop => exact h.beats_of_hop hhop
    | tail _ hhop ih =>
      obtain ⟨v, hv, hstable, hbetter⟩ := ih
      obtain ⟨u, hu, hustable, hnext⟩ := h.beats_of_hop hhop
      refine ⟨v, hv, hstable, ?_⟩
      intro w hw hwstable
      exact beats_trans (hnext w hw hwstable) (hbetter u hu hustable)
  obtain ⟨v, hv, hstable, hbetter⟩ := hbeats x hloop
  exact not_beats_self v.key (hbetter v hv hstable)

/-- A step keeps the invariant when the stable routes after it are better than the routes through
their nodes, those from before it and those that it adds. -/
theorem Network.Sound.next (hproper : ∀ x hash v, net'.known? x hash = some v → v.Proper hash)
    (hbetter : ∀ x hash v, net'.known? x hash = some v → v.mIsStable →
      net.beatsTellings x hash v.key)
    (hnew : ∀ x hash v b, net'.known? x hash = some v → v.mIsStable → b ∈ net'.tellings x hash →
      b ∈ net.tellings x hash ∨ beats v.key b) :
  Sound net'
  := by
  refine ⟨hproper, ?_⟩
  intro x hash v hv hstable
  apply beatsTellings_iff.2
  intro b hb
  obtain hold | hbeats := hnew x hash v b hv hstable hb
  · exact beatsTellings_iff.1 (hbetter x hash v hv hstable) b hold
  · exact hbeats

/-- The entries of a network with a node that is changed. -/
theorem known?_update (net : Network) (id : RsPeerId) (f : P3Dsdv → P3Dsdv) (x : RsPeerId)
    (hash : Nat) :
  (net.update id f).known? x hash =
    if x = id then (net.nodes.get? id).bind fun node => (f node).mTable.get? hash
    else net.known? x hash
  := by
  rw [update]
  cases hnode : net.nodes.get? id with
  | none =>
    by_cases heq : x = id
    case pos =>
      rw [if_pos heq, heq, known?, hnode]
      rfl
    case neg => rw [if_neg heq]
  | some node =>
    simp only [known?, OrdMap.get?_insert]
    split <;> rfl

/-! ### Items that are received -/

section Receive

variable {peerId : RsPeerId} {now : Nat} {routes : List RsTlvDsdvEntry}
  {mTable : OrdMap Nat RsDsdvTableEntry} {entry : RsTlvDsdvEntry}

/-- What an entry is after the announcements `routes` of a peer: its routes are from before or
from these, and its stable route is newer or as it was. -/
structure Handled (mTable : OrdMap Nat RsDsdvTableEntry) (peerId : RsPeerId)
    (routes : List RsTlvDsdvEntry) (hash : Nat) (v : RsDsdvTableEntry) : Prop where
  proper : v.Proper hash
  route : ∀ p route, v.mAllRoutes.get? p = some route →
    (∃ u, mTable.get? hash = some u ∧ u.mAllRoutes.get? p = some route) ∨
      p = peerId ∧ ∃ entry ∈ routes, entry.endPoint.mHash = hash ∧
        (route.mSequence, route.mDistance) = (entry.sequence, add32 entry.distance 1)
  stable : v.mIsStable → ∃ u, mTable.get? hash = some u ∧ u.mIsStable ∧
    (v.key = u.key ∨ u.key.1 < v.key.1)

theorem handled_new (hentry : entry ∈ routes) :
  Handled mTable peerId routes entry.endPoint.mHash
    (.new entry.endPoint peerId (entry.route peerId now))
  where
  proper := by
    refine ⟨rfl, ?_, fun _ hstable => nomatch hstable⟩
    intro p route hroute
    rw [RsDsdvTableEntry.new] at hroute
    rcases OrdMap.get?_insert_iff.mp hroute with ⟨heq, rfl⟩ | ⟨-, hroute⟩
    · exact heq.symm
    · cases hroute
  route p route hroute := by
    rw [RsDsdvTableEntry.new] at hroute
    rcases OrdMap.get?_insert_iff.mp hroute with ⟨heq, rfl⟩ | ⟨-, hroute⟩
    · exact .inr ⟨heq, entry, hentry, rfl, rfl⟩
    · cases hroute
  stable hstable := nomatch hstable

theorem Handled.announced (h : Handled mTable peerId routes entry.endPoint.mHash v)
    (hentry : entry ∈ routes) :
  Handled mTable peerId routes entry.endPoint.mHash (v.announced peerId now entry)
  := by
  rw [RsDsdvTableEntry.announced]
  split
  case isTrue => exact h
  case isFalse hown =>
    rw [Bool.not_eq_true] at hown
    split
    case h_1 hnone =>
      -- A route through a new peer cannot be the stable one.
      constructor
      case proper =>
        refine ⟨h.proper.dest, ?_, ?_⟩
        · intro p route hroute
          rcases OrdMap.get?_insert_iff.mp hroute with ⟨heq, rfl⟩ | ⟨-, hroute⟩
          · exact heq.symm
          · exact h.proper.routes p route hroute
        · intro _ hstable
          have hget := h.proper.stable hown hstable
          rw [OrdMap.get?_insert, if_neg, hget]
          intro heq
          rw [heq, hnone] at hget
          cases hget
      case route =>
        intro p route hroute
        rcases OrdMap.get?_insert_iff.mp hroute with ⟨heq, rfl⟩ | ⟨-, hroute⟩
        · exact .inr ⟨heq, entry, hentry, rfl, rfl⟩
        · exact h.route p route hroute
      case stable => exact h.stable
    case h_2 route hroute =>
      split
      case isTrue => exact h
      case isFalse hnewer =>
        rw [not_le] at hnewer
        have hhop : (route.update entry now).mNextHop = peerId :=
          h.proper.routes peerId route hroute
        constructor
        case proper =>
          refine ⟨h.proper.dest, ?_, ?_⟩
          · intro p route' hroute'
            rcases OrdMap.get?_insert_iff.mp hroute' with ⟨heq, rfl⟩ | ⟨-, hroute'⟩
            · exact hhop.trans heq.symm
            · exact h.proper.routes p route' hroute'
          · intro _ hstable
            dsimp only at hstable ⊢
            split
            case isTrue => rw [hhop, OrdMap.get?_insert_self]
            case isFalse hother =>
              rw [OrdMap.get?_insert, if_neg, h.proper.stable hown hstable]
              intro heq
              exact hother ⟨hstable, hhop.trans heq.symm⟩
        case route =>
          intro p route' hroute'
          rcases OrdMap.get?_insert_iff.mp hroute' with ⟨heq, rfl⟩ | ⟨-, hroute'⟩
          · exact .inr ⟨heq, entry, hentry, rfl, rfl⟩
          · exact h.route p route' hroute'
        case stable =>
          intro hstable
          obtain ⟨u, hu, hustable, hkey⟩ := h.stable hstable
          refine ⟨u, hu, hustable, ?_⟩
          dsimp only [RsDsdvTableEntry.key] at hkey ⊢
          split
          case isTrue hsame =>
            right
            have hget := h.proper.stable hown hstable
            rw [← hsame.2, hhop, hroute] at hget
            have hseq : v.mStableRoute.mSequence < entry.sequence := by
              rw [← Option.some.inj hget]
              exact hnewer
            obtain hkey | hkey := hkey
            · rw [← (Prod.mk.inj hkey).1]
              exact hseq
            · exact hkey.trans hseq
          case isFalse => exact hkey

theorem handled_foldl (hproper : ∀ hash v, mTable.get? hash = some v → v.Proper hash) :
  ∀ hash v, (routes.foldl (handleEntry peerId now) mTable).get? hash = some v →
    Handled mTable peerId routes hash v
  := by
  apply List.foldlRecOn (motive := fun t : OrdMap Nat RsDsdvTableEntry =>
    ∀ hash v, t.get? hash = some v → Handled mTable peerId routes hash v)
  · intro hash v hv
    exact ⟨hproper hash v hv, fun p route hroute => .inl ⟨v, hv, hroute⟩,
      fun hstable => ⟨v, hv, hstable, .inl rfl⟩⟩
  · intro t ht entry hentry hash v hv
    rw [handleEntry] at hv
    split at hv
    case h_1 =>
      rcases OrdMap.get?_insert_iff.mp hv with ⟨heq, rfl⟩ | ⟨-, hv⟩
      · exact heq ▸ handled_new hentry
      · exact ht hash v hv
    case h_2 u hu =>
      rcases OrdMap.get?_insert_iff.mp hv with ⟨heq, rfl⟩ | ⟨-, hv⟩
      · exact heq ▸ (ht _ u hu).announced hentry
      · exact ht hash v hv

end Receive

/-! ### Items that are sent -/

section Send

variable {now : Nat} {node : P3Dsdv} {v' : RsDsdvTableEntry} {routes : List RsTlvDsdvEntry}
  {entry : RsTlvDsdvEntry}

/-- What `sendTables` makes of an entry, when it is time: its stable route is the one that is
selected, and the source of a service moves its sequence number on. -/
structure Sent (now : Nat) (v v' : RsDsdvTableEntry) : Prop where
  dest : v'.mDest = v.mDest
  allRoutes : v'.mAllRoutes = v.mAllRoutes
  own : v'.mOwnSource = v.mOwnSource
  isStable : v'.mIsStable = (v.selectStableRoute now).mIsStable
  other : v.mOwnSource = false → v'.mStableRoute = (v.selectStableRoute now).mStableRoute
  self : v.mOwnSource → v'.key.2 = v.key.2 ∧
    (v'.key.1 = v.key.1 ∨ v'.key.1 = add32 v.key.1 seqIncrement)

theorem sent_select (v : RsDsdvTableEntry) :
  Sent now v (v.selectStableRoute now)
  where
  dest := by
    rw [RsDsdvTableEntry.selectStableRoute]
    split_ifs <;> rfl
  allRoutes := by
    rw [RsDsdvTableEntry.selectStableRoute]
    split_ifs <;> rfl
  own := by
    rw [RsDsdvTableEntry.selectStableRoute]
    split_ifs <;> rfl
  isStable := rfl
  other _ := rfl
  self hown := by
    rw [RsDsdvTableEntry.selectStableRoute, if_pos hown]
    exact ⟨rfl, .inl rfl⟩

theorem Sent.advance (h : Sent now v v') (hself : v.mOwnSource → v'.key = v.key) :
  Sent now v (v'.advance now)
  := by
  rw [RsDsdvTableEntry.advance]
  split
  case isTrue hown =>
    rw [h.own] at hown
    refine ⟨h.dest, h.allRoutes, h.own, h.isStable, fun hother => ?_, fun _ => ?_⟩
    · rw [hown] at hother
      cases hother
    · have hkey := hself hown
      simp only [RsDsdvTableEntry.key, Prod.mk.injEq] at hkey ⊢
      exact ⟨hkey.2, .inr (by rw [hkey.1])⟩
  case isFalse => exact h

theorem Sent.clearFlags (h : Sent now v v') (flags : UInt32) :
  Sent now v { v' with mFlags := flags }
  := ⟨h.dest, h.allRoutes, h.own, h.isStable, h.other, h.self⟩

/-- The entries of a node after `sendTables`. -/
theorem sendTables_spec (hv' : (node.sendTables now).1.mTable.get? hash = some v') :
  ∃ v, node.mTable.get? hash = some v ∧
    (v' = v ∨ (node.isBroadcastTime now || node.isIncrementTime now) ∧ Sent now v v')
  := by
  rw [P3Dsdv.sendTables] at hv'
  split at hv'
  case isTrue htime =>
    simp only [P3Dsdv.generateRoutingTables, clearSignificantChangesFlags,
      advanceLocalSequenceNumbers, clearOldRoutes, selectStableRoutes, OrdMap.get?_map,
      OrdMap.get?_filter, Bool.false_eq_true, if_false, Option.map_eq_some_iff,
      Option.filter_eq_some_iff] at hv'
    obtain ⟨_, ⟨_, ⟨⟨v, hv, rfl⟩, -⟩, rfl⟩, rfl⟩ := hv'
    refine ⟨v, hv, .inr ⟨by rw [htime, Bool.true_or], ?_⟩⟩
    apply Sent.clearFlags
    apply (sent_select v).advance
    intro hown
    rw [RsDsdvTableEntry.selectStableRoute, if_pos hown]
  case isFalse =>
    split at hv'
    case isTrue htime =>
      simp only [P3Dsdv.generateRoutingTables, clearSignificantChangesFlags, selectStableRoutes,
        OrdMap.get?_map, if_true, Option.map_eq_some_iff] at hv'
      obtain ⟨_, ⟨v, hv, rfl⟩, rfl⟩ := hv'
      exact ⟨v, hv, .inr ⟨by rw [htime, Bool.or_true], (sent_select v).clearFlags _⟩⟩
    case isFalse => exact ⟨v', hv', .inl rfl⟩

theorem mem_pushEntry_foldl (entries : List RsTlvDsdvEntry) :
  ∀ entry, (entry ∈ (entries.foldl pushEntry ([], [])).2 ∨
    ∃ routes ∈ (entries.foldl pushEntry ([], [])).1, entry ∈ routes) → entry ∈ entries
  := by
  apply List.foldlRecOn (motive := fun acc : List (List RsTlvDsdvEntry) × List RsTlvDsdvEntry =>
    ∀ entry, (entry ∈ acc.2 ∨ ∃ routes ∈ acc.1, entry ∈ routes) → entry ∈ entries)
  · rintro entry (hmem | ⟨routes, hmem, -⟩) <;> cases hmem
  · intro acc hacc added hadded entry hmem
    have hlast : entry ∈ acc.2 ++ [added] → entry ∈ entries := by
      intro hmem
      obtain hmem | hmem := List.mem_append.1 hmem
      · exact hacc entry (.inl hmem)
      · exact List.mem_singleton.1 hmem ▸ hadded
    rw [pushEntry] at hmem
    split at hmem
    case isTrue =>
      obtain hmem | ⟨routes, hroutes, hmem⟩ := hmem
      · cases hmem
      · obtain hroutes | hroutes := List.mem_append.1 hroutes
        · exact hacc entry (.inr ⟨routes, hroutes, hmem⟩)
        · exact hlast (List.mem_singleton.1 hroutes ▸ hmem)
    case isFalse =>
      obtain hmem | hmem := hmem
      · exact hlast hmem
      · exact hacc entry (.inr hmem)

theorem mem_generateRoutingTables {incremental : Bool}
    (hroutes : routes ∈ (node.generateRoutingTables now incremental).2) (hentry : entry ∈ routes) :
  ∃ hash v, (node.generateRoutingTables now incremental).1.mTable.get? hash = some v ∧
    entry.endPoint = v.mDest ∧ entry.sequence = v.key.1 ∧ entry.distance = v.key.2 ∧
    v.key.2 < maxDistance
  := by
  rw [P3Dsdv.generateRoutingTables] at hroutes ⊢
  generalize (if incremental then node.mTable else advanceLocalSequenceNumbers now node.mTable) =
    mTable at hroutes ⊢
  dsimp only at hroutes ⊢
  have hmem : entry ∈ mTable.toList.filterMap fun e => e.2.announcement incremental := by
    apply mem_pushEntry_foldl
    obtain hroutes | hroutes := List.mem_append.1 hroutes
    · exact .inr ⟨routes, hroutes, hentry⟩
    · exact .inl (List.mem_singleton.1 hroutes ▸ hentry)
  obtain ⟨⟨hash, v⟩, hv, hannounced⟩ := List.mem_filterMap.1 hmem
  refine ⟨hash, { v with mFlags := v.mFlags &&& ~~~flagSignificantChange }, ?_, ?_⟩
  · rw [clearSignificantChangesFlags, OrdMap.get?_map, OrdMap.mem_toList.1 hv, Option.map_some]
  · rw [RsDsdvTableEntry.announcement] at hannounced
    split_ifs at hannounced with hstable hdistance
    obtain rfl := Option.some.inj hannounced
    exact ⟨rfl, rfl, rfl, not_le.1 hdistance⟩

theorem sendTables_items (hroutes : routes ∈ (node.sendTables now).2) (hentry : entry ∈ routes) :
  ∃ hash v, (node.sendTables now).1.mTable.get? hash = some v ∧ entry.endPoint = v.mDest ∧
    entry.sequence = v.key.1 ∧ entry.distance = v.key.2 ∧ v.key.2 < maxDistance
  := by
  rw [P3Dsdv.sendTables] at hroutes ⊢
  split at hroutes
  case isTrue htime =>
    rw [if_pos htime]
    exact mem_generateRoutingTables hroutes hentry
  case isFalse htime =>
    rw [if_neg htime]
    split at hroutes
    case isTrue htime =>
      rw [if_pos htime]
      exact mem_generateRoutingTables hroutes hentry
    case isFalse => cases hroutes

end Send

/-! ### Runs -/

section Runs

variable {net : Network} {id : RsPeerId}

theorem Network.Sound.sendTables (h : Sound net) {connected : List RsPeerId}
    (hcareful : net.careful (.sendTables id connected)) :
  Sound (net.step (.sendTables id connected))
  := by
  simp only [step]
  cases hnode : net.nodes.get? id with
  | none => exact h
  | some node =>
    dsimp only
    simp only [careful, hnode] at hcareful
    have hentry : ∀ x hash, Network.known?
        ⟨net.now, net.nodes.insert id (node.sendTables net.now).1,
          net.packets ++ sent id connected (node.sendTables net.now).2⟩ x hash =
        if x = id then (node.sendTables net.now).1.mTable.get? hash else net.known? x hash := by
      intro x hash
      simp only [known?, OrdMap.get?_insert]
      split <;> rfl
    have hold : ∀ {hash v}, node.mTable.get? hash = some v → net.known? id hash = some v := by
      intro hash v hv
      rw [known?, hnode, Option.bind_some, hv]
    -- The entry from before, which the node keeps or makes a new one of.
    have hfrom : ∀ x hash v', Network.known?
        ⟨net.now, net.nodes.insert id (node.sendTables net.now).1,
          net.packets ++ sent id connected (node.sendTables net.now).2⟩ x hash = some v' →
        ∃ v, net.known? x hash = some v ∧ (v' = v ∨ x = id ∧ node.mTable.get? hash = some v ∧
          (node.isBroadcastTime net.now || node.isIncrementTime net.now) ∧
          Sent net.now v v') := by
      intro x hash v' hv'
      rw [hentry] at hv'
      split at hv'
      case isTrue heq =>
        obtain ⟨v, hv, hsame | hsent⟩ := sendTables_spec hv'
        · exact ⟨v, heq ▸ hold hv, .inl hsame⟩
        · exact ⟨v, heq ▸ hold hv, .inr ⟨heq, hv, hsent⟩⟩
      case isFalse => exact ⟨v', hv', .inl rfl⟩
    have hproper : ∀ x hash v', Network.known?
        ⟨net.now, net.nodes.insert id (node.sendTables net.now).1,
          net.packets ++ sent id connected (node.sendTables net.now).2⟩ x hash = some v' →
        v'.Proper hash := by
      intro x hash v' hv'
      obtain ⟨v, hv, rfl | ⟨-, -, -, hsent⟩⟩ := hfrom x hash v' hv'
      · exact h.proper x hash v' hv
      · have hv := h.proper x hash v hv
        refine ⟨hsent.dest ▸ hv.dest, hsent.allRoutes ▸ hv.routes, ?_⟩
        intro hown hstable
        rw [hsent.own] at hown
        rw [hsent.isStable] at hstable
        obtain ⟨-, peerId, hroute⟩ := selectStableRoute_spec hown hstable
        rw [hsent.allRoutes, hsent.other hown, hv.routes peerId _ hroute, hroute]
    apply @Sound.next net _ hproper
    · intro x hash v' hv' hstable
      obtain ⟨v, hv, rfl | ⟨rfl, hget, htime, hsent⟩⟩ := hfrom x hash v' hv'
      · exact h.better x hash v' hv hstable
      · rw [htime, Bool.not_true, Bool.false_or, List.all_eq_true] at hcareful
        have hselect := hcareful (hash, v) (OrdMap.mem_toList.2 hget)
        rw [hsent.isStable] at hstable
        dsimp only at hselect
        split at hselect
        case isTrue hown =>
          rw [RsDsdvTableEntry.selectStableRoute, if_pos hown] at hstable
          have hbetter := beatsTellings_iff.1 (h.better x hash v hv hstable)
          obtain ⟨hdistance, hseq⟩ := hsent.self hown
          apply beatsTellings_iff.2
          intro b hb
          have hbeats := (beats_iff _ _).1 (hbetter b hb)
          rw [beats_iff, hdistance]
          obtain hseq | hseq := hseq
          · rwa [hseq]
          · have hwrap : add32 v.key.1 seqIncrement = v.key.1 + seqIncrement :=
              Nat.mod_eq_of_lt (of_decide_eq_true hselect)
            rw [hseq, hwrap]
            simp only [seqIncrement]
            omega
        case isFalse hown =>
          rw [Bool.not_eq_true] at hown
          obtain ⟨hcandidate, -⟩ := selectStableRoute_spec hown hstable
          rw [List.all_eq_true] at hselect
          have hbeats := hselect _ hcandidate
          rwa [← hsent.other hown] at hbeats
    · intro x hash v' b hv' _ hb
      obtain ⟨packet, hpacket, hsrc, entry, hroutes, hhash, rfl⟩ |
        ⟨z, w', route, hw', hroute, rfl⟩ := mem_tellings.1 hb
      · obtain hpacket | hpacket := List.mem_append.1 hpacket
        · left
          apply mem_tellings.2
          exact .inl ⟨packet, hpacket, hsrc, entry, hroutes, hhash, rfl⟩
        · -- The node tells the stable route that it has now.
          right
          simp only [sent, List.mem_flatMap, List.mem_map] at hpacket
          obtain ⟨peer, -, items, hitems, rfl⟩ := hpacket
          obtain ⟨hash', w, hw, hdest, hseq, hdistance, hshort⟩ :=
            sendTables_items hitems hroutes
          obtain rfl : id = x := hsrc
          have hwentry := hw
          rw [hentry, if_pos rfl] at hv'
          have hwproper := hproper id hash' w (by rw [hentry, if_pos rfl, hw])
          obtain rfl : hash' = hash := by rw [← hwproper.dest, ← hdest, hhash]
          obtain rfl := Option.some.inj (hw.symm.trans hv')
          have hadd : add32 w.key.2 1 = w.key.2 + 1 := by
            apply Nat.mod_eq_of_lt
            simp only [maxDistance] at hshort
            omega
          rw [beats_iff, hseq, hdistance, hadd]
          right
          exact ⟨rfl, Nat.lt_succ_self _⟩
      · left
        obtain ⟨w, hw, rfl | ⟨-, -, -, hsent⟩⟩ := hfrom z hash w' hw'
        · exact mem_tellings.2 (.inr ⟨z, w', route, hw, hroute, rfl⟩)
        · exact mem_tellings.2 (.inr ⟨z, w, route, hw, hsent.allRoutes ▸ hroute, rfl⟩)

/-- A step that adds no entries and no tellings. -/
theorem Network.Sound.of_subset (h : Sound net)
    (hentry : ∀ x hash v, net'.known? x hash = some v → net.known? x hash = some v)
    (hpackets : net'.packets ⊆ net.packets) :
  Sound net'
  := by
  apply @Sound.next net _ fun x hash v hv => h.proper x hash v (hentry x hash v hv)
  · intro x hash v hv hstable
    exact h.better x hash v (hentry x hash v hv) hstable
  · intro x hash v b _ _ hb
    left
    apply mem_tellings.2
    obtain ⟨packet, hpacket, hrest⟩ | ⟨z, w, route, hw, hrest⟩ := mem_tellings.1 hb
    · exact .inl ⟨packet, hpackets hpacket, hrest⟩
    · exact .inr ⟨z, w, route, hentry z hash w hw, hrest⟩

theorem Network.Sound.receive (h : Sound net) (k : Nat) :
  Sound (net.step (.receive k))
  := by
  simp only [step]
  cases hpacket : net.packets[k]? with
  | none => exact h
  | some packet =>
    dsimp only
    have hmem : packet ∈ net.packets := List.mem_of_getElem? hpacket
    have hpackets : (Network.update ⟨net.now, net.nodes, net.packets.eraseIdx k⟩ packet.dst
        fun node => node.handleDSDV net.now packet.src packet.routes).packets ⊆ net.packets := by
      rw [update]
      split <;> exact (List.eraseIdx_sublist _ _).subset
    have hfrom : ∀ x hash v', (Network.update ⟨net.now, net.nodes, net.packets.eraseIdx k⟩
        packet.dst fun node => node.handleDSDV net.now packet.src packet.routes).known? x hash =
          some v' →
        net.known? x hash = some v' ∨ ∃ mTable, (∀ hash v, mTable.get? hash = some v →
          net.known? x hash = some v) ∧ Handled mTable packet.src packet.routes hash v' := by
      intro x hash v' hv'
      rw [known?_update] at hv'
      split at hv'
      case isTrue heq =>
        right
        obtain ⟨node, hnode, hget⟩ := Option.bind_eq_some_iff.1 hv'
        have hold : ∀ hash v, node.mTable.get? hash = some v → net.known? x hash = some v := by
          intro hash v hv
          rw [heq, known?, show net.nodes.get? packet.dst = some node from hnode,
            Option.bind_some, hv]
        refine ⟨node.mTable, hold, ?_⟩
        apply handled_foldl _ hash v' hget
        intro hash v hv
        exact h.proper x hash v (hold hash v hv)
      case isFalse => exact .inl hv'
    apply @Sound.next net
    · intro x hash v' hv'
      obtain hv' | ⟨mTable, hold, hhandled⟩ := hfrom x hash v' hv'
      · exact h.proper x hash v' hv'
      · exact hhandled.proper
    · intro x hash v' hv' hstable
      obtain hv' | ⟨mTable, hold, hhandled⟩ := hfrom x hash v' hv'
      · exact h.better x hash v' hv' hstable
      · obtain ⟨u, hu, hustable, hkey⟩ := hhandled.stable hstable
        have hbetter := beatsTellings_iff.1 (h.better x hash u (hold hash u hu) hustable)
        apply beatsTellings_iff.2
        intro b hb
        have hbeats := hbetter b hb
        obtain hkey | hkey := hkey
        · rwa [hkey]
        · rw [beats_iff] at hbeats ⊢
          omega
    · intro x hash v' b hv' _ hb
      left
      apply mem_tellings.2
      obtain ⟨packet', hpacket', hrest⟩ | ⟨z, w', route, hw', hroute, rfl⟩ := mem_tellings.1 hb
      · exact .inl ⟨packet', hpackets hpacket', hrest⟩
      · obtain hw' | ⟨mTable, hold, hhandled⟩ := hfrom z hash w' hw'
        · exact .inr ⟨z, w', route, hw', hroute, rfl⟩
        · -- The route is from before, or it was on its way.
          obtain ⟨u, hu, huroute⟩ | ⟨rfl, entry, hentry, hhash, hroute⟩ :=
            hhandled.route x route hroute
          · exact .inr ⟨z, u, route, hold hash u hu, huroute, rfl⟩
          · exact .inl ⟨packet, hmem, rfl, entry, hentry, hhash, hroute⟩

theorem Network.Sound.addDsdvId (h : Sound net) {service : RsDsdvId}
    (hcareful : net.careful (.addDsdvId id service)) :
  Sound (net.step (.addDsdvId id service))
  := by
  simp only [step]
  have hpackets : (net.update id fun node => node.addDsdvId id net.now service).packets =
      net.packets := by
    rw [update]
    split <;> rfl
  have hfrom : ∀ x hash v', (net.update id fun node =>
      node.addDsdvId id net.now service).known? x hash = some v' →
      net.known? x hash = some v' ∨
        x = id ∧ hash = service.mHash ∧ v' = .own service id net.now := by
    intro x hash v' hv'
    rw [known?_update] at hv'
    split at hv'
    case isTrue heq =>
      obtain ⟨node, hnode, hget⟩ := Option.bind_eq_some_iff.1 hv'
      have hold : node.mTable.get? hash = some v' → net.known? x hash = some v' := by
        intro hget
        rw [heq, known?, hnode, Option.bind_some, hget]
      rw [P3Dsdv.addDsdvId] at hget
      split at hget
      case h_1 => exact .inl (hold hget)
      case h_2 =>
        rw [OrdMap.get?_insert] at hget
        split at hget
        case isTrue hhash => exact .inr ⟨heq, hhash, (Option.some.inj hget).symm⟩
        case isFalse => exact .inl (hold hget)
    case isFalse => exact .inl hv'
  apply @Sound.next net
  · intro x hash v' hv'
    obtain hv' | ⟨rfl, rfl, rfl⟩ := hfrom x hash v' hv'
    · exact h.proper x hash v' hv'
    · exact ⟨rfl, fun _ _ hroute => (nomatch hroute), fun hown => (nomatch hown)⟩
  · intro x hash v' hv' hstable
    obtain hv' | ⟨rfl, rfl, rfl⟩ := hfrom x hash v' hv'
    · exact h.better x hash v' hv' hstable
    · exact hcareful
  · intro x hash v' b _ _ hb
    left
    apply mem_tellings.2
    obtain ⟨packet, hpacket, hrest⟩ | ⟨z, w, route, hw, hroute, rfl⟩ := mem_tellings.1 hb
    · exact .inl ⟨packet, hpackets ▸ hpacket, hrest⟩
    · obtain hw | ⟨rfl, rfl, rfl⟩ := hfrom z hash w hw
      · exact .inr ⟨z, w, route, hw, hroute, rfl⟩
      · cases hroute

theorem Network.Sound.step (h : Sound net) {input : Input} (hcareful : net.careful input) :
  Sound (net.step input)
  := by
  cases input with
  | wait seconds => exact h.of_subset (fun _ _ _ hv => hv) fun _ hpacket => hpacket
  | sendTables id connected => exact h.sendTables hcareful
  | receive k => exact h.receive k
  | lose k => exact h.of_subset (fun _ _ _ hv => hv) (List.eraseIdx_sublist _ _).subset
  | addDsdvId id service => exact h.addDsdvId hcareful
  | dropDsdvId id hash =>
    apply h.of_subset
    · intro x hash' v hv
      simp only [Network.step, known?_update] at hv
      split at hv
      case isTrue heq =>
        obtain ⟨node, hnode, hget⟩ := Option.bind_eq_some_iff.1 hv
        rw [heq, known?, hnode, Option.bind_some]
        exact OrdMap.get?_of_get?_erase hget
      case isFalse => exact hv
    · simp only [Network.step, update]
      split <;> exact fun _ hpacket => hpacket

theorem sound_start (now : Nat) (members : OrdMap RsPeerId Bool) :
  Sound (start now members)
  := by
  have hnone : ∀ x hash, (start now members).known? x hash = none := by
    intro x hash
    rw [known?, start, OrdMap.get?_map]
    cases members.get? x <;> rfl
  constructor
  · intro x hash v hv
    rw [hnone] at hv
    cases hv
  · intro x hash v hv
    rw [hnone] at hv
    cases hv

/-- In a run of careful steps, following the stable routes never leads back to a node. -/
theorem noLoops_run (now : Nat) (members : OrdMap RsPeerId Bool) {inputs : List Input}
    (hinputs : machine.Along (fun net input => net.careful input) (start now members) inputs) :
  (machine.run (start now members) inputs).NoLoops
  := by
  apply Network.Sound.noLoops
  apply Machine.run_of_step (m := machine) (P := Sound)
  · intro net input hnet hinput
    exact hnet.step hinput
  · exact sound_start now members
  · exact hinputs

end Runs

/-- Three nodes. -/
def members : OrdMap RsPeerId Bool := ((OrdMap.empty.insert 0 false).insert 1 false).insert 2 false

/-- The node 0 becomes the source of a service, the others learn of it from the node 0, and later
from each other. -/
def announcements : List Input := [
  .addDsdvId 0 ⟨2, [], 5⟩, .sendTables 0 [1, 2], .receive 0, .receive 0, .wait 1,
  .sendTables 1 [2], .sendTables 2 [1], .wait 499, .receive 0, .receive 0]

theorem noLoops_run_announcements :
  (machine.run (start 1000 members) announcements).NoLoops
  := by
  apply noLoops_run
  decide +kernel

/-- When the node 0 is gone, the routes through it are too old first, and the other two nodes
select the routes through each other. -/
theorem not_noLoops_discarded :
  ¬∀ (now : Nat) (members : OrdMap RsPeerId Bool) (inputs : List Input),
    (machine.run (start now members) inputs).NoLoops
  := by
  intro h
  have hnone := h 1000 members (announcements ++ [.wait 800, .sendTables 1 [2], .sendTables 2 [1]])
  have hentries : ((machine.run (start 1000 members) (announcements ++
      [.wait 800, .sendTables 1 [2], .sendTables 2 [1]])).known? 1 5).any (fun v =>
        v.mIsStable && !v.mOwnSource && v.mStableRoute.mNextHop = 2) ∧
      ((machine.run (start 1000 members) (announcements ++
        [.wait 800, .sendTables 1 [2], .sendTables 2 [1]])).known? 2 5).any (fun v =>
          v.mIsStable && !v.mOwnSource && v.mStableRoute.mNextHop = 1) := by
    decide +kernel
  generalize machine.run (start 1000 members) (announcements ++
    [.wait 800, .sendTables 1 [2], .sendTables 2 [1]]) = net at hnone hentries
  have hhop : ∀ {x y}, (net.known? x 5).any (fun v =>
      v.mIsStable && !v.mOwnSource && v.mStableRoute.mNextHop = y) → net.Hop 5 x y := by
    intro x y hany
    obtain ⟨v, hv, hgood⟩ := (Option.any_eq_true _ _).1 hany
    simp only [Bool.and_eq_true, Bool.not_eq_true', decide_eq_true_eq] at hgood
    exact ⟨v, hv, hgood.1.1, hgood.1.2, hgood.2⟩
  apply hnone 5 1
  exact .tail (.single (hhop hentries.1)) (hhop hentries.2)

end Dsdv
