import Mathlib.Data.Prod.Lex
import RetroShare.Dsdv.Node
import RetroShare.Lib.Nearest

/-!
# The upkeep of the routing table

Before a node announces its table, `selectStableRoutes` looks for the closest route of every service
and `clearOldRoutes` deletes the services that have none.

The search starts at the route with the newest sequence number.  When that route is too long, the
service is left without a route although others may do; and a route whose sequence number is so
large that the comparison with the newest one wraps around is passed over (`selectsBest_iff`).
The deletion steps back before it deletes, and leaves the table when there is nothing to step back
to (`clearsOld_iff`).
-/

namespace Dsdv

/-! ### Selecting -/

/-- A route is the better the closer it is, and then the longer it has been valid. -/
def RsDsdvRoute.rank (route : RsDsdvRoute) : Nat ×ₗ Nat :=
  toLex (route.mDistance, route.mValidSince)

theorem RsDsdvRoute.rank_lt_rank {route route' : RsDsdvRoute} :
  route.rank < route'.rank ↔ route.mDistance < route'.mDistance ∨
    route.mDistance = route'.mDistance ∧ route.mValidSince < route'.mValidSince
  := Prod.Lex.toLex_lt_toLex

/-- A route that may be selected: it is fresh, not too long, and its sequence number is not too old
for its distance. -/
structure Eligible (now : Nat) (routes : List (RsPeerId × RsDsdvRoute)) (route : RsDsdvRoute) :
    Prop where
  mem : ∃ peerId, (peerId, route) ∈ routes
  live : route.isLive now
  near : route.mDistance ≤ maxDistance
  recent : ∀ e ∈ routes, e.2.isLive now →
    e.2.mSequence - e.2.mSequence % 2 ≤ route.mSequence + 2 * route.mDistance

/-- The entry is stable just when there is a route to select, and a best one is selected. -/
def SelectsBest (now : Nat) (v : RsDsdvTableEntry) : Prop :=
  ((v.selectStableRoute now).mIsStable ↔ ∃ route, Eligible now v.mAllRoutes.toList route) ∧
    ((v.selectStableRoute now).mIsStable →
      Eligible now v.mAllRoutes.toList (v.selectStableRoute now).mStableRoute ∧
      ∀ route, Eligible now v.mAllRoutes.toList route →
        (v.selectStableRoute now).mStableRoute.rank ≤ route.rank)

/-- The last one of the fresh routes with the newest sequence number. -/
def LastNewest (now : Nat) (routes : List (RsPeerId × RsDsdvRoute)) (e : RsPeerId × RsDsdvRoute) :
    Prop :=
  e.2.isLive now ∧ ∃ s t, routes = s ++ e :: t ∧
    (∀ e' ∈ s, e'.2.isLive now → e'.2.mSequence ≤ e.2.mSequence) ∧
    ∀ e' ∈ t, e'.2.isLive now → e'.2.mSequence < e.2.mSequence

/-- The sum of the sequence number and twice the distance leaves the 32 bits. -/
def RsDsdvRoute.Wraps (route : RsDsdvRoute) : Prop :=
  2 ^ 32 ≤ route.mSequence + 2 * route.mDistance

/-- What the selection needs to find a best route: the newest route is not too long, and is as good
as the eligible routes that wrap around, or another one is. -/
def Selectable (now : Nat) (routes : List (RsPeerId × RsDsdvRoute)) : Prop :=
  (∀ route, ¬ Eligible now routes route) ∨
    ∃ e, LastNewest now routes e ∧ e.2.mDistance ≤ maxDistance ∧
      ∀ route, Eligible now routes route → route.Wraps →
        e.2.rank ≤ route.rank ∨
          ∃ route', Eligible now routes route' ∧ ¬ route'.Wraps ∧ route'.rank ≤ route.rank

/-- The state of the loops that a route leaves when it is the closest one. -/
def Selection.of (now newest : Nat) (e : RsPeerId × RsDsdvRoute) : Selection :=
  Selection.take ⟨newest, 0, 0, 0⟩ now e

@[simp]
theorem Selection.closest_of (now newest : Nat) (e : RsPeerId × RsDsdvRoute) :
  (Selection.of now newest e).closest = e.2.mDistance
  := rfl

@[simp]
theorem Selection.closestAge_of (now newest : Nat) (e : RsPeerId × RsDsdvRoute) :
  (Selection.of now newest e).closestAge = (now : Int) - e.2.mValidSince
  := rfl

@[simp]
theorem Selection.take_of (now newest : Nat) (e e' : RsPeerId × RsDsdvRoute) :
  (Selection.of now newest e).take now e' = .of now newest e'
  := rfl

section Newest

variable {now : Nat} {routes : List (RsPeerId × RsDsdvRoute)} {e e' : RsPeerId × RsDsdvRoute}

theorem LastNewest.mem (h : LastNewest now routes e) :
  e ∈ routes
  := by
  obtain ⟨-, s, t, rfl, -, -⟩ := h
  exact List.mem_append_right s List.mem_cons_self

theorem LastNewest.le (h : LastNewest now routes e) (he' : e' ∈ routes) (hlive : e'.2.isLive now) :
  e'.2.mSequence ≤ e.2.mSequence
  := by
  obtain ⟨-, s, t, rfl, hs, ht⟩ := h
  obtain he' | he' := List.mem_append.1 he'
  · exact hs e' he' hlive
  · obtain rfl | he' := List.mem_cons.1 he'
    · exact le_rfl
    · exact (ht e' he' hlive).le

theorem LastNewest.concat (h : LastNewest now routes e)
    (he' : e'.2.isLive now → e'.2.mSequence < e.2.mSequence) :
  LastNewest now (routes ++ [e']) e
  := by
  obtain ⟨hlive, s, t, rfl, hs, ht⟩ := h
  refine ⟨hlive, s, t ++ [e'], by simp, hs, ?_⟩
  intro e'' he''
  obtain he'' | he'' := List.mem_append.1 he''
  · exact ht e'' he''
  · rw [List.mem_singleton.1 he'']
    exact he'

theorem lastNewest_concat (hlive : e.2.isLive now)
    (hall : ∀ e' ∈ routes, e'.2.isLive now → e'.2.mSequence ≤ e.2.mSequence) :
  LastNewest now (routes ++ [e]) e
  := ⟨hlive, routes, [], rfl, hall, by simp⟩

/-- There is one such route only. -/
theorem LastNewest.unique (h : LastNewest now routes e) (h' : LastNewest now routes e') :
  e = e'
  := by
  have heq : e.2.mSequence = e'.2.mSequence := le_antisymm (h'.le h.mem h.1) (h.le h'.mem h'.1)
  obtain ⟨hlive, s, t, rfl, -, ht⟩ := h
  obtain ⟨hlive', s', t', happend, -, ht'⟩ := h'
  obtain ⟨u, -, hu⟩ | ⟨u, -, hu⟩ := List.append_eq_append_iff.1 happend
  all_goals
    obtain - | ⟨x, u⟩ := u
  · exact (List.cons_eq_cons.1 hu).1
  · obtain ⟨rfl, rfl⟩ := List.cons_eq_cons.1 hu
    exact absurd (ht e' (by simp) hlive') heq.not_gt
  · exact (List.cons_eq_cons.1 hu).1.symm
  · obtain ⟨rfl, rfl⟩ := List.cons_eq_cons.1 hu
    exact absurd (ht' e (by simp) hlive) heq.not_lt

theorem newestRoute_eq (now : Nat) (routes : List (RsPeerId × RsDsdvRoute)) :
  (newestRoute now routes = ⟨0, maxDistance + 1, 0, 0⟩ ∧ ∀ e ∈ routes, e.2.isLive now = false) ∨
    ∃ e, LastNewest now routes e ∧ newestRoute now routes = .of now e.2.mSequence e
  := by
  induction routes using List.reverseRecOn with
  | nil => exact .inl ⟨rfl, by simp⟩
  | append_singleton routes e ih =>
    rw [newestRoute, List.foldl_append, ← newestRoute, List.foldl_cons, List.foldl_nil,
      findNewest]
    by_cases hlive : e.2.isLive now
    · obtain ⟨hsel, hnone⟩ | ⟨n, hn, hsel⟩ := ih
      · right
        refine ⟨e, lastNewest_concat hlive ?_, ?_⟩
        · intro e' he' hlive'
          rw [hnone e' he'] at hlive'
          contradiction
        · rw [hsel, if_pos ⟨hlive, Nat.zero_le _⟩]
          rfl
      · right
        rw [hsel]
        split
        case isTrue hnewer =>
          refine ⟨e, lastNewest_concat hlive ?_, rfl⟩
          intro e' he' hlive'
          exact (hn.le he' hlive').trans hnewer.2
        case isFalse holder =>
          refine ⟨n, hn.concat ?_, rfl⟩
          intro hlive'
          exact not_le.1 fun hle => holder ⟨hlive', hle⟩
    · rw [if_neg (fun h => hlive h.1)]
      obtain ⟨hsel, hnone⟩ | ⟨n, hn, hsel⟩ := ih
      · refine .inl ⟨hsel, List.forall_mem_append.2 ⟨hnone, ?_⟩⟩
        simpa using hlive
      · exact .inr ⟨n, hn.concat (fun hlive' => absurd hlive' hlive), hsel⟩

end Newest

section Closest

variable {now : Nat} {routes : List (RsPeerId × RsDsdvRoute)} {e e' : RsPeerId × RsDsdvRoute}
  {route : RsDsdvRoute}

/-- The second loop keeps the best of the recent and fresh routes. -/
theorem findClosest_of (currseq newest : Nat) (e e' : RsPeerId × RsDsdvRoute) :
  findClosest now currseq (.of now newest e) e' = .of now newest (
    Nearest.least (fun e => e.2.rank) (fun e => e.2.isRecent currseq ∧ e.2.isLive now) e e')
  := by
  rw [findClosest, Nearest.least]
  by_cases hrecent : e'.2.isRecent currseq
  · by_cases hlive : e'.2.isLive now
    · by_cases hcloser : e'.2.mDistance < e.2.mDistance
      · simp [hrecent, hlive, RsDsdvRoute.rank_lt_rank, hcloser]
      · have hage : (now : Int) - e.2.mValidSince < (now : Int) - e'.2.mValidSince ↔
            e'.2.mValidSince < e.2.mValidSince := by
          omega
        by_cases holder : e'.2.mDistance = e.2.mDistance ∧ e'.2.mValidSince < e.2.mValidSince
        · simp [hrecent, hlive, RsDsdvRoute.rank_lt_rank, holder]
        · simp [hrecent, hlive, RsDsdvRoute.rank_lt_rank, hcloser, hage, holder]
    · rw [if_neg (by simpa using hrecent), if_pos (by simpa using hlive),
        if_neg (fun h => hlive h.1.2)]
  · rw [if_pos (by simpa using hrecent), if_neg (fun h => hrecent h.1.1)]

theorem foldl_findClosest_of (currseq newest : Nat) (e : RsPeerId × RsDsdvRoute) :
  routes.foldl (findClosest now currseq) (.of now newest e) = .of now newest (routes.foldl (
    Nearest.least (fun e => e.2.rank) (fun e => e.2.isRecent currseq ∧ e.2.isLive now)) e)
  := by
  induction routes generalizing e with
  | nil => rfl
  | cons e' routes ih => rw [List.foldl_cons, findClosest_of, ih, List.foldl_cons]

/-- Against the newest route, a fresh route that is not too long is recent just when its sequence
number is not too old and does not wrap around. -/
theorem isRecent_iff {newest : Nat} (hseq : route.mSequence ≤ newest) (hnewest : newest < 2 ^ 32)
    (hnear : route.mDistance ≤ maxDistance) :
  route.isRecent (newest - newest % 2) ↔
    newest - newest % 2 ≤ route.mSequence + 2 * route.mDistance ∧ ¬ route.Wraps
  := by
  rw [RsDsdvRoute.isRecent, decide_eq_true_iff, add32, RsDsdvRoute.Wraps]
  rw [maxDistance] at hnear
  omega

theorem LastNewest.eligible_iff (h : LastNewest now routes e) :
  Eligible now routes route ↔
    (∃ peerId, (peerId, route) ∈ routes) ∧ route.isLive now ∧ route.mDistance ≤ maxDistance ∧
      e.2.mSequence - e.2.mSequence % 2 ≤ route.mSequence + 2 * route.mDistance
  := by
  constructor
  · intro hroute
    exact ⟨hroute.mem, hroute.live, hroute.near, hroute.recent e h.mem h.1⟩
  · rintro ⟨hmem, hlive, hnear, hrecent⟩
    refine ⟨hmem, hlive, hnear, ?_⟩
    intro e' he' hlive'
    have hle := h.le he' hlive'
    omega

theorem LastNewest.eligible (h : LastNewest now routes e) (hnear : e.2.mDistance ≤ maxDistance) :
  Eligible now routes e.2
  := by
  refine h.eligible_iff.2 ⟨⟨e.1, h.mem⟩, h.1, hnear, ?_⟩
  omega

end Closest

section Entry

variable {now : Nat} {v : RsDsdvTableEntry} {n : RsPeerId × RsDsdvRoute}

/-- An entry gets unstable when the first loop has come to no route or to one that is too long. -/
theorem selectStableRoute_of_far (hown : v.mOwnSource = false)
    (hfar : maxDistance < (newestRoute now v.mAllRoutes.toList).closest) :
  ¬ (v.selectStableRoute now).mIsStable
  := by
  rw [RsDsdvTableEntry.selectStableRoute, if_neg (by simp [hown]), if_pos (Nat.succ_le_of_lt hfar)]
  exact Bool.false_ne_true

/-- The route that the second loop comes to, from the newest one. -/
def bestRoute (now : Nat) (routes : List (RsPeerId × RsDsdvRoute)) (n : RsPeerId × RsDsdvRoute) :
    RsPeerId × RsDsdvRoute :=
  routes.foldl (Nearest.least (fun e => e.2.rank) fun e =>
    e.2.isRecent (n.2.mSequence - n.2.mSequence % 2) ∧ e.2.isLive now) n

theorem bestRoute_mem (hn : n ∈ v.mAllRoutes.toList) :
  bestRoute now v.mAllRoutes.toList n ∈ v.mAllRoutes.toList
  := by
  obtain ⟨hsame | hbest, -⟩ := Nearest.foldl_least (fun e : RsPeerId × RsDsdvRoute => e.2.rank)
    (fun e => e.2.isRecent (n.2.mSequence - n.2.mSequence % 2) ∧ e.2.isLive now)
    v.mAllRoutes.toList n
  · rw [bestRoute, hsame]
    exact hn
  · exact hbest.1

theorem selectStableRoute_of_near (hown : v.mOwnSource = false)
    (hn : n ∈ v.mAllRoutes.toList)
    (hnewest : newestRoute now v.mAllRoutes.toList = .of now n.2.mSequence n)
    (hnear : n.2.mDistance ≤ maxDistance) :
  (v.selectStableRoute now).mIsStable ∧
    (v.selectStableRoute now).mStableRoute = (bestRoute now v.mAllRoutes.toList n).2
  := by
  have hclosest : closestRoute now v.mAllRoutes.toList =
      .of now n.2.mSequence (bestRoute now v.mAllRoutes.toList n) := by
    rw [closestRoute, hnewest]
    apply foldl_findClosest_of
  have hget : v.mAllRoutes.get? (bestRoute now v.mAllRoutes.toList n).1 =
      some (bestRoute now v.mAllRoutes.toList n).2 := OrdMap.mem_toList.1 (bestRoute_mem hn)
  have hnear' : ¬ maxDistance + 1 ≤ (Selection.of now n.2.mSequence n).closest := by
    rw [Selection.closest_of]
    exact Nat.not_lt.2 hnear
  rw [RsDsdvTableEntry.selectStableRoute, if_neg (by simp [hown]), hnewest, if_neg hnear', hclosest]
  refine ⟨rfl, ?_⟩
  change (v.mAllRoutes.get? (bestRoute now v.mAllRoutes.toList n).1).getD default = _
  rw [hget, Option.getD_some]

/-- This route is eligible, and it is the best of the newest route and of the eligible ones that do
not wrap around. -/
theorem bestRoute_spec (hseq : ∀ e ∈ v.mAllRoutes.toList, e.2.mSequence < 2 ^ 32)
    (hn : LastNewest now v.mAllRoutes.toList n) (hnear : n.2.mDistance ≤ maxDistance) :
  Eligible now v.mAllRoutes.toList (bestRoute now v.mAllRoutes.toList n).2 ∧
    (bestRoute now v.mAllRoutes.toList n = n ∨
      ¬ (bestRoute now v.mAllRoutes.toList n).2.Wraps) ∧
    (bestRoute now v.mAllRoutes.toList n).2.rank ≤ n.2.rank ∧
    ∀ route, Eligible now v.mAllRoutes.toList route → ¬ route.Wraps →
      (bestRoute now v.mAllRoutes.toList n).2.rank ≤ route.rank
  := by
  have hlt := hseq n hn.mem
  obtain ⟨hbest, hle, hall⟩ := Nearest.foldl_least (fun e : RsPeerId × RsDsdvRoute => e.2.rank)
    (fun e => e.2.isRecent (n.2.mSequence - n.2.mSequence % 2) ∧ e.2.isLive now)
    v.mAllRoutes.toList n
  change bestRoute now v.mAllRoutes.toList n = n ∨ bestRoute now v.mAllRoutes.toList n ∈ _ ∧
    (bestRoute now v.mAllRoutes.toList n).2.isRecent _ ∧
    (bestRoute now v.mAllRoutes.toList n).2.isLive now at hbest
  change (bestRoute now v.mAllRoutes.toList n).2.rank ≤ n.2.rank at hle
  have hwraps : ∀ route, Eligible now v.mAllRoutes.toList route → ¬ route.Wraps →
      (bestRoute now v.mAllRoutes.toList n).2.rank ≤ route.rank := by
    intro route hroute hwraps
    obtain ⟨⟨peerId, hmem⟩, hlive, hnear', hrecent⟩ := hn.eligible_iff.1 hroute
    apply hall (peerId, route) hmem
    exact ⟨(isRecent_iff (hn.le hmem hlive) hlt hnear').2 ⟨hrecent, hwraps⟩, hlive⟩
  obtain hsame | ⟨hmem, hrecent, hlive⟩ := hbest
  · rw [hsame] at hwraps ⊢
    exact ⟨hn.eligible hnear, .inl rfl, le_rfl, hwraps⟩
  · have hnear' : (bestRoute now v.mAllRoutes.toList n).2.mDistance ≤ maxDistance := by
      obtain hlt | ⟨heq, -⟩ := Prod.Lex.toLex_le_toLex.1 hle
      · exact hlt.le.trans hnear
      · exact heq.trans_le hnear
    obtain ⟨hold, hwrap⟩ := (isRecent_iff (hn.le hmem hlive) hlt hnear').1 hrecent
    exact ⟨hn.eligible_iff.2 ⟨⟨_, hmem⟩, hlive, hnear', hold⟩, .inr hwrap, hle, hwraps⟩

/-- A best route is selected just when the newest route is not too long and is as good as those that
wrap around, or another one is. -/
theorem selectsBest_iff (hown : v.mOwnSource = false)
    (hseq : ∀ e ∈ v.mAllRoutes.toList, e.2.mSequence < 2 ^ 32) :
  SelectsBest now v ↔ Selectable now v.mAllRoutes.toList
  := by
  obtain ⟨hnewest, hdead⟩ | ⟨n, hn, hnewest⟩ := newestRoute_eq now v.mAllRoutes.toList
  · have hstable : ¬ (v.selectStableRoute now).mIsStable := by
      apply selectStableRoute_of_far hown
      rw [hnewest]
      exact Nat.lt_succ_self maxDistance
    have hnone : ∀ route, ¬ Eligible now v.mAllRoutes.toList route := by
      rintro route ⟨⟨peerId, hmem⟩, hlive, -, -⟩
      rw [hdead _ hmem] at hlive
      contradiction
    constructor
    · exact fun _ => .inl hnone
    · exact fun _ => ⟨iff_of_false hstable (not_exists.2 hnone), fun h => absurd h hstable⟩
  · by_cases hnear : n.2.mDistance ≤ maxDistance
    · obtain ⟨hstable, hroute⟩ := selectStableRoute_of_near hown hn.mem hnewest hnear
      obtain ⟨hbest, hfrom, hle, hall⟩ := bestRoute_spec hseq hn hnear
      rw [← hroute] at hbest hle hall
      constructor
      · rintro ⟨-, hselected⟩
        obtain ⟨-, hmin⟩ := hselected hstable
        refine .inr ⟨n, hn, hnear, ?_⟩
        intro route heligible hwraps
        obtain hsame | hwrap := hfrom
        · left
          rw [← hsame, ← hroute]
          exact hmin route heligible
        · right
          rw [← hroute] at hwrap
          exact ⟨_, hbest, hwrap, hmin route heligible⟩
      · intro hselectable
        refine ⟨iff_of_true hstable ⟨n.2, hn.eligible hnear⟩, fun _ => ⟨hbest, ?_⟩⟩
        intro route heligible
        by_cases hwraps : route.Wraps
        · obtain hnone | ⟨e, he, -, hwrapping⟩ := hselectable
          · exact absurd heligible (hnone route)
          · obtain rfl := he.unique hn
            obtain hnewer | ⟨route', heligible', hwraps', hbetter⟩ :=
              hwrapping route heligible hwraps
            · exact hle.trans hnewer
            · exact (hall route' heligible' hwraps').trans hbetter
        · exact hall route heligible hwraps
    · have hstable : ¬ (v.selectStableRoute now).mIsStable := by
        apply selectStableRoute_of_far hown
        rw [hnewest]
        exact not_le.1 hnear
      constructor
      · rintro ⟨hiff, -⟩
        exact .inl (not_exists.1 (hiff.not.1 hstable))
      · rintro (hnone | ⟨e, he, hnear', -⟩)
        · exact ⟨iff_of_false hstable (not_exists.2 hnone), fun h => absurd h hstable⟩
        · obtain rfl := he.unique hn
          exact absurd hnear' hnear

end Entry

/-- A service with a route from peer `1` and a newer one from peer `2`. -/
def twoRoutes (distance : Nat) : RsDsdvTableEntry where
  mDest := ⟨0, [], 5⟩
  mIsStable := false
  mStableRoute := default
  mAllRoutes := (OrdMap.empty.insert 1 ⟨1, 100, 1, 900, 300⟩).insert 2 ⟨2, 102, distance, 990, 400⟩
  mFlags := flagNewRoute
  mOwnSource := false

theorem toList_twoRoutes (distance : Nat) :
  (twoRoutes distance).mAllRoutes.toList =
    [(1, ⟨1, 100, 1, 900, 300⟩), (2, ⟨2, 102, distance, 990, 400⟩)]
  := rfl

/-- The closer of two routes is selected. -/
theorem selectsBest_iff_twoRoutes :
  SelectsBest 1000 (twoRoutes 2)
  := by
  have hseq : ∀ e ∈ (twoRoutes 2).mAllRoutes.toList, e.2.mSequence < 2 ^ 32 := by
    simp [toList_twoRoutes]
  apply (selectsBest_iff rfl hseq).2
  right
  refine ⟨(2, ⟨2, 102, 2, 990, 400⟩), ?_, by decide, ?_⟩
  · exact ⟨by decide, [(1, ⟨1, 100, 1, 900, 300⟩)], [], rfl, by simp, by simp⟩
  · rintro route ⟨⟨peerId, hmem⟩, -, -, -⟩ hwraps
    simp only [toList_twoRoutes, List.mem_cons, List.not_mem_nil, Prod.mk.injEq, or_false] at hmem
    obtain ⟨-, rfl⟩ | ⟨-, rfl⟩ := hmem
    all_goals
      simp [RsDsdvRoute.Wraps] at hwraps

/-- The newest route is too long, and the service is left without the other one. -/
theorem not_selectsBest_long :
  (∀ e ∈ (twoRoutes 4).mAllRoutes.toList, e.2.mSequence < 2 ^ 32 ∧ e.2.mDistance < 2 ^ 31) ∧
    (twoRoutes 4).mOwnSource = false ∧ ¬ SelectsBest 1000 (twoRoutes 4)
  := by
  refine ⟨by simp [toList_twoRoutes], rfl, ?_⟩
  rintro ⟨hstable, -⟩
  have heligible : Eligible 1000 (twoRoutes 4).mAllRoutes.toList ⟨1, 100, 1, 900, 300⟩ := by
    refine ⟨⟨1, by simp [toList_twoRoutes]⟩, by decide, by decide, ?_⟩
    simp [toList_twoRoutes]
  have hstable' := hstable.2 ⟨_, heligible⟩
  revert hstable'
  decide

/-! ### Clearing -/

/-- An entry that is left in the table. -/
def RsDsdvTableEntry.isKept (v : RsDsdvTableEntry) : Bool :=
  v.mOwnSource || v.mIsStable || v.mFlags &&& flagNewRoute ≠ 0

/-- The loop of `clearOldRoutes`: `before` are the entries in front of the iterator, the nearest
first, and the list after them those that it has still to come to.  There is no result when the
iterator steps back at the beginning of the table. -/
def clearLoop : OrdMap Nat RsDsdvTableEntry → List (Nat × RsDsdvTableEntry) →
    List (Nat × RsDsdvTableEntry) → Option (OrdMap Nat RsDsdvTableEntry)
  | mTable, _, [] => some mTable
  | mTable, before, it :: rest =>
      if it.2.mOwnSource then clearLoop mTable (it :: before) rest
      else if it.2.mIsStable then clearLoop mTable (it :: before) rest
      else if it.2.mFlags &&& flagNewRoute ≠ 0 then clearLoop mTable (it :: before) rest
      else if before.isEmpty then none
      else clearLoop (mTable.erase it.1) before rest

/-- `p3Dsdv::clearOldRoutes`, with its iterators. -/
def clear (mTable : OrdMap Nat RsDsdvTableEntry) : Option (OrdMap Nat RsDsdvTableEntry) :=
  clearLoop mTable [] mTable.toList

/-- Clearing removes the entries that are not to be kept, and these only. -/
def ClearsOld (mTable : OrdMap Nat RsDsdvTableEntry) : Prop :=
  ∃ mTable', clear mTable = some mTable' ∧
    ∀ hash v, mTable'.get? hash = some v ↔ mTable.get? hash = some v ∧ v.isKept

section Clearing

variable {mTable : OrdMap Nat RsDsdvTableEntry} {it : Nat × RsDsdvTableEntry}
    {before rest : List (Nat × RsDsdvTableEntry)}

theorem clearLoop_of_isKept (h : it.2.isKept) :
  clearLoop mTable before (it :: rest) = clearLoop mTable (it :: before) rest
  := by
  simp only [RsDsdvTableEntry.isKept, Bool.or_eq_true, decide_eq_true_eq] at h
  rw [clearLoop]
  obtain (hown | hstable) | hnew := h
  · rw [if_pos hown]
  · simp [hstable]
  · simp [hnew]

theorem clearLoop_of_not_isKept (h : ¬ it.2.isKept) :
  clearLoop mTable before (it :: rest) =
    if before.isEmpty then none else clearLoop (mTable.erase it.1) before rest
  := by
  simp only [RsDsdvTableEntry.isKept, Bool.or_eq_true, decide_eq_true_eq, not_or] at h
  rw [clearLoop, if_neg h.1.1, if_neg h.1.2, if_neg h.2]

theorem clearLoop_spec (hbefore : before ≠ []) (hsorted : rest.Pairwise fun e e' => e.1 < e'.1)
    (hrest : ∀ e ∈ rest, mTable.get? e.1 = some e.2) :
  ∃ mTable', clearLoop mTable before rest = some mTable' ∧ ∀ hash v,
    mTable'.get? hash = some v ↔ mTable.get? hash = some v ∧ ((hash, v) ∈ rest → v.isKept)
  := by
  induction rest generalizing mTable before with
  | nil => exact ⟨mTable, by rw [clearLoop], by simp⟩
  | cons it rest ih =>
    obtain ⟨hlt, hsorted⟩ := List.pairwise_cons.1 hsorted
    obtain ⟨hit, hrest⟩ := List.forall_mem_cons.1 hrest
    by_cases hkept : it.2.isKept
    · obtain ⟨mTable', hloop, hget⟩ := ih (List.cons_ne_nil it before) hsorted hrest
      refine ⟨mTable', by rw [clearLoop_of_isKept hkept, hloop], ?_⟩
      intro hash v
      have hit : (hash, v) = it → v.isKept := by
        rintro rfl
        exact hkept
      rw [hget, List.mem_cons, or_imp, and_iff_right hit]
    · have herase : ∀ e ∈ rest, (mTable.erase it.1).get? e.1 = some e.2 := by
        intro e he
        rw [OrdMap.get?_erase, if_neg (hlt e he).ne', hrest e he]
      obtain ⟨mTable', hloop, hget⟩ := ih hbefore hsorted herase
      refine ⟨mTable', ?_, ?_⟩
      · rw [clearLoop_of_not_isKept hkept, if_neg (by simpa using hbefore), hloop]
      · intro hash v
        rw [hget, OrdMap.get?_erase, List.mem_cons, or_imp]
        by_cases hash_eq : hash = it.1
        · subst hash_eq
          rw [if_pos rfl, hit]
          simp only [reduceCtorEq, false_and, Option.some_inj, false_iff, not_and]
          rintro rfl hv
          exact absurd (hv rfl) hkept
        · have hne : (hash, v) = it → v.isKept := by
            rintro rfl
            exact absurd rfl hash_eq
          rw [if_neg hash_eq, and_iff_right hne]

/-- Clearing does what it should when the first entry of the table is kept, or there is none. -/
theorem clearsOld_of_isKept (h : ∀ e, mTable.toList.head? = some e → e.2.isKept) :
  ClearsOld mTable
  := by
  have hsorted := mTable.sorted
  have hmem : ∀ e ∈ mTable.toList, mTable.get? e.1 = some e.2 :=
    fun e he => OrdMap.mem_toList.1 he
  have hall : ∀ hash v, mTable.get? hash = some v → (hash, v) ∈ mTable.toList :=
    fun hash v h => OrdMap.mem_toList.2 h
  rw [ClearsOld, clear]
  cases htable : mTable.toList with
  | nil =>
    rw [htable] at hall
    refine ⟨mTable, by rw [clearLoop], ?_⟩
    intro hash v
    rw [iff_self_and]
    exact fun h => absurd (hall hash v h) List.not_mem_nil
  | cons it rest =>
    rw [htable] at h hmem hsorted hall
    have hkept := h it rfl
    obtain ⟨mTable', hloop, hget⟩ := clearLoop_spec (List.cons_ne_nil it [])
      (List.pairwise_cons.1 hsorted).2 (List.forall_mem_cons.1 hmem).2
    refine ⟨mTable', by rw [clearLoop_of_isKept hkept, hloop], ?_⟩
    intro hash v
    rw [hget, and_congr_right_iff]
    intro h
    constructor
    · intro hrest
      obtain rfl | hv := List.mem_cons.1 (hall hash v h)
      · exact hkept
      · exact hrest hv
    · exact fun hv _ => hv

/-- It steps in front of the table when the first entry is to be deleted. -/
theorem clear_eq_none (hit : mTable.toList.head? = some it) (hkept : ¬ it.2.isKept) :
  clear mTable = none
  := by
  obtain ⟨rest, htable⟩ := List.head?_eq_some_iff.1 hit
  rw [clear, htable, clearLoop_of_not_isKept hkept]
  rfl

/-- Clearing does what it should just when the first entry of the table is kept, or there is
none. -/
theorem clearsOld_iff (mTable : OrdMap Nat RsDsdvTableEntry) :
  ClearsOld mTable ↔ ∀ e, mTable.toList.head? = some e → e.2.isKept
  := by
  constructor
  · rintro ⟨mTable', hclear, -⟩ e he
    by_contra hkept
    rw [clear_eq_none he hkept] at hclear
    contradiction
  · exact clearsOld_of_isKept

/-- The only service of a table is not announced any more, and is to be deleted. -/
theorem not_clearsOld_first :
  ¬ ClearsOld (OrdMap.empty.insert 5 { twoRoutes 4 with mFlags := 0 })
  := by
  rintro ⟨mTable', hclear, -⟩
  have hnone : clear (OrdMap.empty.insert 5 { twoRoutes 4 with mFlags := 0 }) = none := by decide
  rw [hnone] at hclear
  contradiction

end Clearing

end Dsdv
