import RetroShare.Lib.Folds
import RetroShare.Services.Control

/-!
# The filters of the service control

In every state that the calls of a `ServiceControl` reach, the filter of a peer and the peers of a
service say the same: that the last list of the peer and the own services have compatible infos of
the service, and that the permissions allow the peer.

A call may leave the filters of peers out of date for a while; `Current` says of one peer that its
filter is not.
-/

namespace Services

namespace ServiceControl

variable {π μ α : Type} [LinearOrder π] {control control' : ServiceControl π μ} {peerId p : π}
  {s : Nat} {o u : ServicePeerFilter} {info : RsPeerServiceInfo π} {own : RsServiceInfo}

/-! ### Changes of a filter -/

theorem at_sort {services : Finset Nat} {a : Option Unit} :
  Walk.At (services.sort.map fun s => (s, ())) s a ↔ a = if s ∈ services then some () else none
  := by
  have hmem : ∀ x, (s, x) ∈ services.sort.map (fun s => (s, ())) ↔ s ∈ services := by
    intro x
    simp
  constructor
  · intro hat
    split
    case isTrue h => exact (hat ()).mp ((hmem ()).mpr h)
    case isFalse h =>
      apply Option.eq_none_iff_forall_ne_some.mpr
      rintro x rfl
      exact h ((hmem x).mp ((hat x).mpr rfl))
  · rintro rfl x
    rw [hmem]
    split
    case isTrue h => exact iff_of_true h rfl
    case isFalse h => exact iff_of_false h (Option.some_ne_none x).symm

theorem increasing_sort (services : Finset Nat) :
  Walk.Increasing (services.sort.map fun s => (s, ()))
  := by
  rw [Walk.Increasing, List.pairwise_map]
  exact (Finset.sortedLT_sort services).pairwise

theorem mem_changes {added : Bool} :
  (s, added) ∈ changes o u ↔
    if added then s ∈ u.mAllowedServices ∧ s ∉ o.mAllowedServices
    else s ∈ o.mAllowedServices ∧ s ∉ u.mAllowedServices
  := by
  rw [changes, List.mem_filterMap]
  constructor
  · rintro ⟨⟨s', a, b⟩, hwalk, hchange⟩
    obtain ⟨ha, hb, -⟩ := (Walk.mem_walk (increasing_sort _) (increasing_sort _)).mp hwalk
    rw [at_sort] at ha hb
    split at hchange
    case h_1 =>
      cases hchange
      grind
    case h_2 =>
      cases hchange
      grind
    case h_3 => cases hchange
  · intro h
    cases added with
    | false =>
      refine ⟨(s, some (), none), ?_, rfl⟩
      rw [Walk.mem_walk (increasing_sort _) (increasing_sort _), at_sort, at_sort]
      grind
    | true =>
      refine ⟨(s, none, some ()), ?_, rfl⟩
      rw [Walk.mem_walk (increasing_sort _) (increasing_sort _), at_sort, at_sort]
      grind

theorem pairwise_changes (o u : ServicePeerFilter) :
  (changes o u).Pairwise fun e e' => e.1 < e'.1
  := by
  rw [changes, List.pairwise_filterMap]
  apply (Walk.pairwise_walk (increasing_sort _) (increasing_sort _)).imp
  rintro ⟨k, a, b⟩ ⟨k', a', b'⟩ hlt c hc c' hc'
  have hkey : c.1 = k := by
    split at hc <;> cases hc <;> simp_all
  have hkey' : c'.1 = k' := by
    split at hc' <;> cases hc' <;> simp_all
  rw [hkey, hkey']
  exact hlt

/-- The notifications of a service. -/
def notesOf (control : ServiceControl π μ) (serviceId : Nat) : ServiceNotifications π :=
  (control.mNotifications.get? serviceId).getD {}

/-- The peers of a service after a change of the filter of one of them. -/
def changedPeers (peerId : π) (added : Bool) (peers : Finset π) : Finset π :=
  if added then insert peerId peers else peers.erase peerId

/-- The notifications of a service after a change of the filter of a peer. -/
def changedNotes (peerId : π) (added : Bool) (notes : ServiceNotifications π) :
    ServiceNotifications π :=
  if added then { notes with mAdded := insert peerId notes.mAdded }
  else { notes with mRemoved := insert peerId notes.mRemoved }

/-- What a change of a filter does to a quantity of each service that `change` changes. -/
def filtered {α : Type} (o u : ServicePeerFilter) (change : Bool → α → α) (s : Nat) (a : α) : α :=
  if s ∈ u.mAllowedServices ∧ s ∉ o.mAllowedServices then change true a
  else if s ∈ o.mAllowedServices ∧ s ∉ u.mAllowedServices then change false a
  else a

theorem getD_foldl_changes (o u : ServicePeerFilter) (change : Bool → α → α) (a : α)
    (m : OrdMap Nat α) (s : Nat) :
  (((changes o u).foldl (fun m c => m.insert c.1 (change c.2 ((m.get? c.1).getD a))) m).get?
      s).getD a = filtered o u change s ((m.get? s).getD a)
  := by
  obtain ⟨hin, hout⟩ := OrdMap.get?_foldl_of_pairwise
    (f := fun m (c : Nat × Bool) => m.insert c.1 (change c.2 ((m.get? c.1).getD a)))
    (g := fun _ added previous => some (change added (previous.getD a)))
    (by
      intro acc e k
      rw [OrdMap.get?_insert]
      split
      case isTrue h => rw [h]
      case isFalse => rfl) s m (pairwise_changes o u)
  rw [filtered]
  split
  case isTrue h => rw [hin true (mem_changes.mpr h), Option.getD_some]
  case isFalse h =>
    split
    case isTrue h' => rw [hin false (mem_changes.mpr h'), Option.getD_some]
    case isFalse h' =>
      rw [hout]
      rintro (_ | _) hv
      · exact h' (mem_changes.mp hv)
      · exact h (mem_changes.mp hv)

/-- `recordFilterChanges` changes the peers and the notifications of services only, and these by
each service that is in one of the filters only. -/
theorem recordFilterChanges_spec (control : ServiceControl π μ) (peerId : π)
    (o u : ServicePeerFilter) :
  ∃ peerMap notes, control.recordFilterChanges peerId o u =
      { control with mServicePeerMap := peerMap, mNotifications := notes } ∧
    (∀ s, (peerMap.get? s).getD ∅ =
      filtered o u (changedPeers peerId) s (control.getPeersConnected s)) ∧
    ∀ s, (notes.get? s).getD {} = filtered o u (changedNotes peerId) s (control.notesOf s)
  := by
  refine ⟨_, _, ?_, getD_foldl_changes o u (changedPeers peerId) ∅ control.mServicePeerMap,
    getD_foldl_changes o u (changedNotes peerId) {} control.mNotifications⟩
  rw [recordFilterChanges]
  induction changes o u generalizing control with
  | nil => rfl
  | cons change changes ih =>
    rw [List.foldl_cons, ih]
    obtain ⟨s, added⟩ := change
    cases added <;> rfl

/-! ### The filter of a peer -/

theorem at_toList {κ : Type} [LinearOrder κ] {m : OrdMap κ α} {k : κ} {a : Option α} :
  Walk.At m.toList k a ↔ m.get? k = a
  := by
  rw [Walk.At]
  simp only [OrdMap.mem_toList]
  constructor
  · intro h
    exact Option.ext h
  · rintro rfl x
    exact Iff.rfl

/-- A list of a peer and the permissions allow the peer to use a service. -/
def AllowsWith (control : ServiceControl π μ) (s : Nat) (p : π) (info : RsPeerServiceInfo π) :
    Prop :=
  ∃ own provided, control.mOwnServices.get? s = some own ∧
    info.mServiceList.get? s = some provided ∧ serviceInfoCompatible own provided ∧
    control.peerHasPermissionForService p s

theorem mem_allowedServices :
  s ∈ control.allowedServices p info ↔ control.AllowsWith s p info
  := by
  rw [allowedServices, List.mem_toFinset, List.mem_filterMap]
  constructor
  · rintro ⟨⟨s', a, b⟩, hwalk, hs⟩
    rw [Walk.mem_walk control.mOwnServices.sorted info.mServiceList.sorted, at_toList, at_toList]
      at hwalk
    split at hs
    case h_1 own provided heq =>
      cases heq
      split at hs
      case isTrue h =>
        cases hs
        exact ⟨own, provided, hwalk.1, hwalk.2.1, h⟩
      case isFalse => cases hs
    case h_2 => cases hs
  · rintro ⟨own, provided, hown, hprovided, h⟩
    refine ⟨(s, some own, some provided), ?_, if_pos h⟩
    rw [Walk.mem_walk control.mOwnServices.sorted info.mServiceList.sorted, at_toList, at_toList]
    exact ⟨hown, hprovided, .inl rfl⟩

/-- The filter that a peer is to have, if any. -/
def dueFilter (control : ServiceControl π μ) (p : π) : Option ServicePeerFilter :=
  (control.mServicesProvided.get? p).bind fun info =>
    if (control.peerFilter p info).mDenyAll then none else some (control.peerFilter p info)

theorem mDenyAll_peerFilter :
  (control.peerFilter p info).mDenyAll ↔ (control.peerFilter p info).mAllowedServices = ∅
  := by
  rw [peerFilter]
  exact decide_eq_true_iff

/-- The filter of a peer; a peer without one has the empty filter. -/
def filterOf (control : ServiceControl π μ) (p : π) : ServicePeerFilter :=
  (control.mPeerFilterMap.get? p).getD {}

theorem dueFilter_of_provided (h : control.mServicesProvided.get? p = some info) :
  ((control.dueFilter p).getD {}).mAllowedServices = control.allowedServices p info
  := by
  rw [dueFilter, h, Option.bind_some]
  split
  case isTrue hdeny =>
    rw [mDenyAll_peerFilter] at hdeny
    exact hdeny.symm
  case isFalse => rfl

/-- A call gives a peer another filter and records the difference. -/
structure Refilters (control control' : ServiceControl π μ) (p : π) : Prop where
  same : ∃ filters peerMap notes,
    control' =
      { control with
        mPeerFilterMap := filters, mServicePeerMap := peerMap, mNotifications := notes }
  others : ∀ q ≠ p, control'.mPeerFilterMap.get? q = control.mPeerFilterMap.get? q
  peers : ∀ s, control'.getPeersConnected s =
    filtered (control.filterOf p) (control'.filterOf p) (changedPeers p) s
      (control.getPeersConnected s)
  notes : ∀ s, control'.notesOf s =
    filtered (control.filterOf p) (control'.filterOf p) (changedNotes p) s (control.notesOf s)

theorem filtered_congr {o' u' : ServicePeerFilter} (change : Bool → α → α) (a : α)
    (ho : o.mAllowedServices = o'.mAllowedServices)
    (hu : u.mAllowedServices = u'.mAllowedServices) :
  filtered o u change s a = filtered o' u' change s a
  := by
  rw [filtered, filtered, ho, hu]

/-- Recording the difference of two filters, after or before the map of filters is updated. -/
theorem refilters_of_get? {filters : OrdMap π ServicePeerFilter}
    (hcontrol' : control' = { control.recordFilterChanges p o u with mPeerFilterMap := filters })
    (hothers : ∀ q ≠ p, filters.get? q = control.mPeerFilterMap.get? q)
    (ho : o.mAllowedServices = (control.filterOf p).mAllowedServices)
    (hu : u.mAllowedServices = ((filters.get? p).getD {}).mAllowedServices) :
  Refilters control control' p
  := by
  obtain ⟨peerMap, notes, heq, hpeers, hnotes⟩ := recordFilterChanges_spec control p o u
  rw [heq] at hcontrol'
  subst hcontrol'
  constructor
  case same => exact ⟨filters, peerMap, notes, rfl⟩
  case others => exact hothers
  case peers =>
    intro s
    exact (hpeers s).trans (filtered_congr _ _ ho hu)
  case notes =>
    intro s
    exact (hnotes s).trans (filtered_congr _ _ ho hu)

theorem recordFilterChanges_filters (control : ServiceControl π μ)
    (filters : OrdMap π ServicePeerFilter) (o u : ServicePeerFilter) :
  { control with mPeerFilterMap := filters }.recordFilterChanges p o u =
    { control.recordFilterChanges p o u with mPeerFilterMap := filters }
  := by
  rw [recordFilterChanges, recordFilterChanges]
  induction changes o u generalizing control with
  | nil => rfl
  | cons change changes ih =>
    rw [List.foldl_cons, List.foldl_cons, ← ih]
    obtain ⟨s, added⟩ := change
    cases added <;> rfl

theorem mPeerFilterMap_recordFilterChanges (control : ServiceControl π μ)
    (o u : ServicePeerFilter) :
  (control.recordFilterChanges p o u).mPeerFilterMap = control.mPeerFilterMap
  := by
  obtain ⟨_, _, heq, -, -⟩ := recordFilterChanges_spec control p o u
  rw [heq]

theorem get?_updateFilterByPeer (control : ServiceControl π μ) (p : π) :
  (control.updateFilterByPeer p).mPeerFilterMap.get? p = control.dueFilter p
  := by
  rw [updateFilterByPeer, dueFilter]
  cases control.mServicesProvided.get? p with
  | none => exact OrdMap.get?_erase_self _
  | some info =>
    dsimp only
    rw [recordFilterChanges_filters, Option.bind_some]
    split
    · exact OrdMap.get?_erase_self _
    · exact OrdMap.get?_insert_self _ _

theorem refilters_updateFilterByPeer (control : ServiceControl π μ) (p : π) :
  Refilters control (control.updateFilterByPeer p) p
  := by
  rw [updateFilterByPeer]
  cases control.mServicesProvided.get? p with
  | none =>
    apply refilters_of_get? rfl
    · intro q hq
      rw [mPeerFilterMap_recordFilterChanges, OrdMap.get?_erase, if_neg hq]
    · rfl
    · rw [OrdMap.get?_erase_self]
      rfl
  | some info =>
    dsimp only
    rw [recordFilterChanges_filters]
    apply refilters_of_get? rfl
    · intro q hq
      split
      · rw [OrdMap.get?_erase, if_neg hq]
      · rw [OrdMap.get?_insert, if_neg hq]
    · rfl
    · split
      case isTrue hdeny =>
        rw [OrdMap.get?_erase_self]
        exact mDenyAll_peerFilter.mp hdeny
      case isFalse =>
        rw [OrdMap.get?_insert_self]
        rfl

/-! ### The invariant -/

/-- The filter of a peer is up to date. -/
def Current (control : ServiceControl π μ) (p : π) : Prop :=
  control.mPeerFilterMap.get? p = control.dueFilter p

/-- The peers of a service are those whose filters allow it. -/
def Recorded (control : ServiceControl π μ) : Prop :=
  ∀ s p, p ∈ control.getPeersConnected s ↔ s ∈ (control.filterOf p).mAllowedServices

/-- Two states differ in the filters and in what is made of them only. -/
def SameLists (control control' : ServiceControl π μ) : Prop :=
  ∃ filters peerMap notes,
    control' =
      { control with
        mPeerFilterMap := filters, mServicePeerMap := peerMap, mNotifications := notes }

theorem SameLists.refl (control : ServiceControl π μ) :
  SameLists control control
  := ⟨_, _, _, rfl⟩

theorem SameLists.trans {control'' : ServiceControl π μ} (h : SameLists control control')
    (h' : SameLists control' control'') :
  SameLists control control''
  := by
  obtain ⟨_, _, _, rfl⟩ := h
  obtain ⟨_, _, _, rfl⟩ := h'
  exact ⟨_, _, _, rfl⟩

theorem SameLists.dueFilter_eq (h : SameLists control control') :
  control'.dueFilter p = control.dueFilter p
  := by
  obtain ⟨_, _, _, rfl⟩ := h
  rfl

theorem Recorded.refilters (h : Recorded control) (hrefilters : Refilters control control' p) :
  Recorded control'
  := by
  intro s q
  rw [hrefilters.peers]
  by_cases hq : q = p
  · subst hq
    have hold := h s q
    rw [filtered]
    grind [changedPeers]
  · have hfilter : control'.filterOf q = control.filterOf q := by
      rw [filterOf, filterOf, hrefilters.others q hq]
    rw [hfilter, ← h s q, filtered]
    grind [changedPeers]

theorem Refilters.trans_recorded (hrefilters : Refilters control control' p) :
  SameLists control control' ∧
    ∀ q ≠ p, Current control q → Current control' q
  := by
  refine ⟨hrefilters.same, ?_⟩
  intro q hq hcurrent
  rw [Current, hrefilters.others q hq, hcurrent, SameLists.dueFilter_eq hrefilters.same]

/-- What holds of every state. -/
structure Sound (control : ServiceControl π μ) : Prop where
  current : ∀ p, Current control p
  recorded : Recorded control

theorem sound_updateFilterByPeer (hcurrent : ∀ q ≠ p, Current control q)
    (hrecorded : Recorded control) :
  Sound (control.updateFilterByPeer p)
  := by
  have hrefilters := refilters_updateFilterByPeer control p
  constructor
  case current =>
    intro q
    by_cases hq : q = p
    · subst hq
      rw [Current, get?_updateFilterByPeer, SameLists.dueFilter_eq hrefilters.same]
    · exact hrefilters.trans_recorded.2 q hq (hcurrent q hq)
  case recorded => exact hrecorded.refilters hrefilters

theorem current_of_notMem_peerSet (h : p ∉ control.peerSet) :
  Current control p
  := by
  rw [peerSet, Finset.notMem_union, List.mem_toFinset, List.mem_toFinset] at h
  have hprovided : control.mServicesProvided.get? p = none := by
    by_contra hsome
    obtain ⟨info, hinfo⟩ := Option.ne_none_iff_exists'.mp hsome
    exact h.1 (List.mem_map_of_mem (OrdMap.mem_toList.mpr hinfo))
  have hfilter : control.mPeerFilterMap.get? p = none := by
    by_contra hsome
    obtain ⟨filter, hinfo⟩ := Option.ne_none_iff_exists'.mp hsome
    exact h.2 (List.mem_map_of_mem (OrdMap.mem_toList.mpr hinfo))
  rw [Current, dueFilter, hprovided, hfilter, Option.bind_none]

theorem sameLists_updateAllFilters (control : ServiceControl π μ) :
  SameLists control control.updateAllFilters
  := by
  rw [updateAllFilters]
  generalize control.peerSet.sort = peers
  induction peers generalizing control with
  | nil => exact SameLists.refl control
  | cons p peers ih =>
    rw [List.foldl_cons]
    exact SameLists.trans (refilters_updateFilterByPeer control p).same (ih _)

/-- `updateAllFilters` brings everything up to date, whichever filters are not. -/
theorem sound_updateAllFilters (hrecorded : Recorded control) :
  Sound control.updateAllFilters
  := by
  have hfold : Recorded control.updateAllFilters ∧
      ∀ q, q ∈ control.peerSet.sort ∨ q ∉ control.peerSet →
        Current control.updateAllFilters q := by
    apply Folds.foldl_of_step (P := fun done (control' : ServiceControl π μ) =>
      Recorded control' ∧ ∀ q, q ∈ done ∨ q ∉ control.peerSet → Current control' q)
    case hb =>
      refine ⟨hrecorded, ?_⟩
      rintro q (hq | hq)
      · exact absurd hq List.not_mem_nil
      · exact current_of_notMem_peerSet hq
    case hstep =>
      rintro done p rest control' - ⟨hrecorded', hcurrent⟩
      have hrefilters := refilters_updateFilterByPeer control' p
      refine ⟨hrecorded'.refilters hrefilters, ?_⟩
      intro q hq
      by_cases hqp : q = p
      · subst hqp
        rw [Current, get?_updateFilterByPeer, SameLists.dueFilter_eq hrefilters.same]
      · apply hrefilters.trans_recorded.2 q hqp
        apply hcurrent
        rcases hq with hq | hq
        · rcases List.mem_append.mp hq with hq | hq
          · exact .inl hq
          · exact absurd (List.mem_singleton.mp hq) hqp
        · exact .inr hq
  refine ⟨?_, hfold.1⟩
  intro q
  apply hfold.2
  rw [Finset.mem_sort]
  exact Classical.em _

theorem Sound.updateServicePermissions (h : Sound control) (onlinePeers : List π)
    (permissions : RsServicePermissions π) :
  Sound (control.updateServicePermissions onlinePeers s permissions)
  := by
  rw [ServiceControl.updateServicePermissions]
  split
  · exact h
  · apply sound_updateAllFilters
    exact h.recorded

/-- The control without the list of a peer. -/
def withoutList (control : ServiceControl π μ) (p : π) : ServiceControl π μ :=
  { control with mServicesProvided := control.mServicesProvided.erase p }

theorem refilters_removePeer (control : ServiceControl π μ) (p : π) :
  Refilters (control.withoutList p) (control.removePeer p) p ∧
    (control.removePeer p).mPeerFilterMap.get? p = none
  := by
  have hothers : ∀ q ≠ p,
      (control.mPeerFilterMap.erase p).get? q = control.mPeerFilterMap.get? q := by
    intro q hq
    rw [OrdMap.get?_erase, if_neg hq]
  rw [removePeer]
  cases hfilter : control.mPeerFilterMap.get? p with
  | none =>
    have hfilterOf : (control.withoutList p).filterOf p = {} := by
      rw [filterOf, withoutList]
      dsimp only
      rw [hfilter]
      rfl
    have hempty : ∀ {α : Type} (u : ServicePeerFilter) (change : Bool → α → α) (s : Nat) (a : α),
        u.mAllowedServices = ∅ → filtered {} u change s a = a := by
      intro α u change s a hu
      rw [filtered, hu]
      simp
    have hgone : (((control.mPeerFilterMap.erase p).get? p).getD {}).mAllowedServices = ∅ := by
      rw [OrdMap.get?_erase_self]
      rfl
    constructor
    · constructor
      case same => exact ⟨control.mPeerFilterMap.erase p, _, _, rfl⟩
      case others => exact hothers
      case peers =>
        intro s
        rw [hfilterOf, hempty]
        · rfl
        · exact hgone
      case notes =>
        intro s
        rw [hfilterOf, hempty]
        · rfl
        · exact hgone
    · exact OrdMap.get?_erase_self _
  | some filter =>
    dsimp only
    constructor
    · apply refilters_of_get? (recordFilterChanges_filters (control.withoutList p) _ _ _)
      · exact hothers
      · rw [filterOf, withoutList]
        dsimp only
        rw [hfilter, Option.getD_some]
      · rw [OrdMap.get?_erase_self]
        rfl
    · rw [mPeerFilterMap_recordFilterChanges]
      exact OrdMap.get?_erase_self _

theorem get?_removePeer (control : ServiceControl π μ) (p q : π) :
  (control.removePeer p).mServicesProvided.get? q =
    if p = q then none else control.mServicesProvided.get? q
  := by
  obtain ⟨_, _, _, heq⟩ := (refilters_removePeer control p).1.same
  rw [heq, withoutList]
  dsimp only
  rw [OrdMap.get?_erase]
  simp only [eq_comm]

theorem Sound.removePeer (h : Sound control) (p : π) :
  Sound (control.removePeer p)
  := by
  obtain ⟨hrefilters, hgone⟩ := refilters_removePeer control p
  constructor
  case current =>
    intro q
    by_cases hq : q = p
    · subst hq
      rw [Current, hgone, dueFilter, get?_removePeer, if_pos rfl, Option.bind_none]
    · apply hrefilters.trans_recorded.2 q hq
      rw [Current, dueFilter, withoutList]
      dsimp only
      rw [OrdMap.get?_erase, if_neg hq]
      exact h.current q
  case recorded =>
    have hrecorded : Recorded (control.withoutList p) := h.recorded
    exact hrecorded.refilters hrefilters

/-- The list of the peer of a status change is removed. -/
def removesList (peer : Pqipeer π) : Bool :=
  if peer.state &&& peerSFriend ≠ 0 then
    peer.actions &&& peerConnected = 0 && peer.actions &&& peerDisconnected ≠ 0
  else peer.actions &&& peerMoved ≠ 0

/-- The status change of a peer may remove the peer, and may note a new or a removed friend. -/
theorem statusChangeOf_eq (control : ServiceControl π μ) (peer : Pqipeer π) :
  ∃ noted : List (PqiServicePeer π), (∀ n ∈ noted, n.actions = .new ∨ n.actions = .removed) ∧
    control.statusChangeOf peer =
      let base := if removesList peer then control.removePeer peer.id else control
      { base with mFriendNotifications := base.mFriendNotifications ++ noted }
  := by
  rw [statusChangeOf, removesList]
  dsimp only
  simp only [updatePeerDisconnect, updatePeerRemoved, updatePeerNew]
  split
  case isTrue =>
    by_cases hconnected : peer.actions &&& peerConnected = 0
    case neg =>
      simp only [ne_eq, hconnected, not_false_eq_true, if_true, decide_false, Bool.false_and,
        Bool.false_eq_true, if_false]
      split
      · exact ⟨_, by simp, rfl⟩
      · exact ⟨[], by simp, by rw [List.append_nil]⟩
    case pos =>
      by_cases hdisconnected : peer.actions &&& peerDisconnected = 0
      · simp only [hconnected, hdisconnected]
        split
        · exact ⟨[_], by simp, rfl⟩
        · exact ⟨[], by simp, by rw [List.append_nil]; rfl⟩
      · simp only [ne_eq, hconnected, hdisconnected, not_true_eq_false, not_false_eq_true,
          if_true, if_false, decide_true, Bool.true_and]
        split
        · exact ⟨[_], by simp, rfl⟩
        · exact ⟨[], by simp, by rw [List.append_nil]⟩
  case isFalse =>
    by_cases hmoved : peer.actions &&& peerMoved = 0
    · simp only [hmoved]
      exact ⟨[], by simp, by rw [List.append_nil]; rfl⟩
    · simp only [ne_eq, hmoved, not_false_eq_true, if_true, decide_true]
      exact ⟨[_], by simp, rfl⟩

theorem Sound.statusChangeOf (h : Sound control) (peer : Pqipeer π) :
  Sound (control.statusChangeOf peer)
  := by
  obtain ⟨_, -, heq⟩ := statusChangeOf_eq control peer
  have hbase : Sound (if removesList peer then control.removePeer peer.id else control) := by
    split
    · exact h.removePeer _
    · exact h
  rw [heq]
  exact ⟨hbase.current, hbase.recorded⟩

theorem Sound.statusChange (h : Sound control) (plist : List (Pqipeer π)) :
  Sound (control.statusChange plist)
  := by
  rw [ServiceControl.statusChange]
  induction plist generalizing control with
  | nil => exact h
  | cons peer plist ih => exact ih (h.statusChangeOf peer)

/-- Every call keeps the invariant. -/
theorem Sound.next (h : Sound control) (input : Input π) :
  Sound (machine.next control input)
  := by
  cases input with
  | updateServicesProvided peerId info =>
    apply sound_updateFilterByPeer
    · intro q hq
      rw [Current, dueFilter]
      dsimp only
      rw [OrdMap.get?_insert, if_neg hq]
      exact h.current q
    · exact h.recorded
  | updateServicePermissions onlinePeers serviceId permissions =>
    exact h.updateServicePermissions onlinePeers permissions
  | updateFilterByPeer peerId =>
    exact sound_updateFilterByPeer (fun q _ => h.current q) h.recorded
  | updateAllFilters => exact sound_updateAllFilters h.recorded
  | removePeer peerId => exact h.removePeer peerId
  | statusChange plist => exact h.statusChange plist
  | getServiceChanges => exact ⟨h.current, h.recorded⟩
  | notifyAboutFriends =>
    change Sound control.notifyAboutFriends.1
    rw [notifyAboutFriends]
    split
    · exact h
    · exact ⟨h.current, h.recorded⟩
  | notifyServices => exact ⟨h.current, h.recorded⟩

/-! ### The start -/

/-- There are no lists, no filters and nobody is connected. -/
structure Fresh (control : ServiceControl π μ) : Prop where
  lists : control.mServicesProvided = .empty
  filters : control.mPeerFilterMap = .empty
  notifications : control.mNotifications = .empty
  friends : control.mFriendNotifications = []
  peers : control.mServicePeerMap = .empty

theorem fresh_start (setup : List (Setup π μ)) :
  Fresh (start setup : ServiceControl π μ)
  := by
  apply Folds.foldl_of_step (P := fun _ (control : ServiceControl π μ) => Fresh control)
  · rintro _ call _ control - h
    cases call with
    | registerService info defaultOn =>
      rw [setUp, registerService]
      split
      · exact h
      · rw [createDefaultPermissions]
        split <;> exact ⟨h.lists, h.filters, h.notifications, h.friends, h.peers⟩
    | registerServiceMonitor monitor serviceId =>
      exact ⟨h.lists, h.filters, h.notifications, h.friends, h.peers⟩
    | loadList items => exact ⟨h.lists, h.filters, h.notifications, h.friends, h.peers⟩
  · exact ⟨rfl, rfl, rfl, rfl, rfl⟩

theorem Fresh.sound (h : Fresh control) :
  Sound control
  := by
  have hfilter : ∀ p, control.mPeerFilterMap.get? p = none := by
    intro p
    rw [h.filters]
    rfl
  constructor
  case current =>
    intro p
    rw [Current, hfilter, dueFilter, h.lists, OrdMap.get?_empty, Option.bind_none]
  case recorded =>
    intro s p
    rw [getPeersConnected, filterOf, hfilter, h.peers, OrdMap.get?_empty]
    exact iff_of_false (Finset.notMem_empty p) (Finset.notMem_empty s)

/-! ### What has been announced -/

/-- The last list of a peer after a call. -/
def listAfter (p : π) (previous : Option (RsPeerServiceInfo π)) :
    Input π → Option (RsPeerServiceInfo π)
  | .updateServicesProvided peerId info => if peerId = p then some info else previous
  | .removePeer peerId => if peerId = p then none else previous
  | .statusChange plist =>
      if plist.any fun peer => peer.id = p && removesList peer then none else previous
  | _ => previous

/-- The last list that a peer has announced and that has not been removed since. -/
def lastProvided (inputs : List (Input π)) (p : π) : Option (RsPeerServiceInfo π) :=
  inputs.foldl (listAfter p) none

theorem get?_statusChange (control : ServiceControl π μ) (plist : List (Pqipeer π)) (p : π) :
  (control.statusChange plist).mServicesProvided.get? p =
    if plist.any fun peer => peer.id = p && removesList peer then none
    else control.mServicesProvided.get? p
  := by
  rw [statusChange]
  induction plist generalizing control with
  | nil => rfl
  | cons peer plist ih =>
    rw [List.foldl_cons, ih, List.any_cons]
    obtain ⟨_, -, heq⟩ := statusChangeOf_eq control peer
    rw [heq]
    dsimp only
    cases hremoves : removesList peer with
    | false => simp
    | true =>
      rw [if_pos rfl, get?_removePeer]
      by_cases hid : peer.id = p
      · simp [hid]
      · simp [hid]

theorem mOwnServices_removePeer (control : ServiceControl π μ) (p : π) :
  (control.removePeer p).mOwnServices = control.mOwnServices
  := by
  obtain ⟨_, _, _, heq⟩ := (refilters_removePeer control p).1.same
  rw [heq]
  rfl

theorem mOwnServices_statusChange (control : ServiceControl π μ) (plist : List (Pqipeer π)) :
  (control.statusChange plist).mOwnServices = control.mOwnServices
  := by
  rw [statusChange]
  induction plist generalizing control with
  | nil => rfl
  | cons peer plist ih =>
    rw [List.foldl_cons, ih]
    obtain ⟨_, -, heq⟩ := statusChangeOf_eq control peer
    rw [heq]
    dsimp only
    split
    · exact mOwnServices_removePeer _ _
    · rfl

/-- A call leaves the own services alone and the list of a peer as `listAfter` says. -/
theorem lists_next (control : ServiceControl π μ) (input : Input π) (p : π) :
  (machine.next control input).mOwnServices = control.mOwnServices ∧
    (machine.next control input).mServicesProvided.get? p =
      listAfter p (control.mServicesProvided.get? p) input
  := by
  cases input with
  | updateServicesProvided peerId info =>
    obtain ⟨_, _, _, heq⟩ := (refilters_updateFilterByPeer
      { control with mServicesProvided := control.mServicesProvided.insert peerId info }
      peerId).same
    change (control.updateServicesProvided peerId info).mOwnServices = _ ∧
      (control.updateServicesProvided peerId info).mServicesProvided.get? p = _
    rw [updateServicesProvided, heq]
    refine ⟨rfl, ?_⟩
    dsimp only
    rw [OrdMap.get?_insert, listAfter]
    simp only [eq_comm]
  | updateServicePermissions onlinePeers serviceId permissions =>
    change (control.updateServicePermissions onlinePeers serviceId permissions).mOwnServices =
        _ ∧
      (control.updateServicePermissions onlinePeers serviceId
        permissions).mServicesProvided.get? p = _
    rw [ServiceControl.updateServicePermissions]
    split
    · exact ⟨rfl, rfl⟩
    · obtain ⟨_, _, _, heq⟩ := sameLists_updateAllFilters (π := π) (μ := μ) _
      rw [heq]
      exact ⟨rfl, rfl⟩
  | updateFilterByPeer peerId =>
    obtain ⟨_, _, _, heq⟩ := (refilters_updateFilterByPeer control peerId).same
    change (control.updateFilterByPeer peerId).mOwnServices = _ ∧
      (control.updateFilterByPeer peerId).mServicesProvided.get? p = _
    rw [heq]
    exact ⟨rfl, rfl⟩
  | updateAllFilters =>
    obtain ⟨_, _, _, heq⟩ := sameLists_updateAllFilters control
    change control.updateAllFilters.mOwnServices = _ ∧
      control.updateAllFilters.mServicesProvided.get? p = _
    rw [heq]
    exact ⟨rfl, rfl⟩
  | removePeer peerId => exact ⟨mOwnServices_removePeer _ _, get?_removePeer _ _ _⟩
  | statusChange plist => exact ⟨mOwnServices_statusChange _ _, get?_statusChange _ _ _⟩
  | getServiceChanges => exact ⟨rfl, rfl⟩
  | notifyAboutFriends =>
    change control.notifyAboutFriends.1.mOwnServices = _ ∧
      control.notifyAboutFriends.1.mServicesProvided.get? p = _
    rw [notifyAboutFriends]
    split
    · exact ⟨rfl, rfl⟩
    · exact ⟨rfl, rfl⟩
  | notifyServices => exact ⟨rfl, rfl⟩

/-- The states of a run are sound, have the own services of its start, and the lists that have been
announced. -/
theorem Sound.run (h : Sound control) (inputs : List (Input π)) (p : π) :
  Sound (machine.run control inputs) ∧
    (machine.run control inputs).mOwnServices = control.mOwnServices ∧
    (machine.run control inputs).mServicesProvided.get? p =
      inputs.foldl (listAfter p) (control.mServicesProvided.get? p)
  := by
  induction inputs generalizing control with
  | nil => exact ⟨h, rfl, rfl⟩
  | cons input inputs ih =>
    obtain ⟨hsound, hown, hlist⟩ := ih (h.next input)
    obtain ⟨hown', hlist'⟩ := lists_next control input p
    refine ⟨hsound, hown.trans hown', ?_⟩
    rw [Machine.run_cons, hlist, hlist', List.foldl_cons]

/-! ### What the filters answer -/

theorem mem_allowedServices_of_card (hown : control.mOwnServices.get? s = some own)
    (hcard : (control.allowedServices p info).card = control.mOwnServices.toList.length) :
  s ∈ control.allowedServices p info
  := by
  have hkeys : (control.mOwnServices.toList.map Prod.fst).Nodup := by
    rw [List.Nodup, List.pairwise_map]
    exact control.mOwnServices.sorted.imp fun h => h.ne
  have hsubset : control.allowedServices p info ⊆
      (control.mOwnServices.toList.map Prod.fst).toFinset := by
    intro s' hs'
    obtain ⟨own', _, hown', -⟩ := mem_allowedServices.mp hs'
    rw [List.mem_toFinset]
    exact List.mem_map_of_mem (OrdMap.mem_toList.mpr hown')
  have hsame := Finset.eq_of_subset_of_card_le hsubset (by
    rw [hcard, List.toFinset_card_of_nodup hkeys, List.length_map])
  rw [hsame, List.mem_toFinset]
  exact List.mem_map_of_mem (OrdMap.mem_toList.mpr hown)

/-- `checkFilter` of an own service says whether the filter of the peer allows it. -/
theorem Sound.checkFilter_iff (h : Sound control) (hown : control.mOwnServices.get? s = some own)
    (hs : s ≠ fullIdServiceInfo) :
  control.checkFilter s p ↔ s ∈ (control.filterOf p).mAllowedServices
  := by
  have hcurrent := h.current p
  rw [Current, dueFilter] at hcurrent
  rw [checkFilter, if_neg hs, filterOf, hcurrent]
  cases control.mServicesProvided.get? p with
  | none => exact iff_of_false Bool.false_ne_true (Finset.notMem_empty s)
  | some info =>
    rw [Option.bind_some]
    split
    case h_1 hdue =>
      rw [hdue]
      exact iff_of_false Bool.false_ne_true (Finset.notMem_empty s)
    case h_2 filter hdue =>
      rw [hdue, Option.getD_some]
      split at hdue
      case isTrue => cases hdue
      case isFalse hdeny =>
        cases hdue
        rw [if_neg hdeny]
        split
        case isTrue hall =>
          have hcard := (of_decide_eq_true hall).2
          exact iff_of_true rfl (mem_allowedServices_of_card hown hcard)
        case isFalse => exact decide_eq_true_iff

/-- The filter and the peers of a service agree with the announced list and the permissions, for
every own service but the service of the lists. -/
theorem checksAgree_run (setup : List (Setup π μ)) (inputs : List (Input π)) {own : RsServiceInfo}
    (hown : (start setup : ServiceControl π μ).mOwnServices.get? s = some own)
    (hs : s ≠ fullIdServiceInfo) (p : π) :
  let control : ServiceControl π μ := machine.run (start setup) inputs
  let Usable := ∃ info provided, lastProvided inputs p = some info ∧
    info.mServiceList.get? s = some provided ∧ serviceInfoCompatible own provided ∧
    control.peerHasPermissionForService p s
  (control.checkFilter s p ↔ Usable) ∧ (control.isPeerConnected s p ↔ Usable)
  := by
  intro control Usable
  have hfresh := fresh_start (π := π) (μ := μ) setup
  obtain ⟨hsound, hsame, hlist⟩ := hfresh.sound.run inputs p
  rw [hfresh.lists, OrdMap.get?_empty] at hlist
  have hown' : control.mOwnServices.get? s = some own := by
    rw [hsame, hown]
  have hallowed : s ∈ (control.filterOf p).mAllowedServices ↔ Usable := by
    rw [filterOf, hsound.current p]
    cases hprovided : lastProvided inputs p with
    | none =>
      rw [dueFilter, hlist.trans hprovided]
      apply iff_of_false (Finset.notMem_empty s)
      rintro ⟨_, _, hsome, -⟩
      rw [hprovided] at hsome
      cases hsome
    | some info =>
      rw [dueFilter_of_provided (hlist.trans hprovided), mem_allowedServices, AllowsWith]
      constructor
      · rintro ⟨own', provided, hown'', hrest⟩
        rw [hown'] at hown''
        cases hown''
        exact ⟨info, provided, hprovided, hrest⟩
      · rintro ⟨info', provided, hinfo, hrest⟩
        rw [hprovided] at hinfo
        cases hinfo
        exact ⟨own, provided, hown', hrest⟩
  constructor
  · rw [hsound.checkFilter_iff hown' hs, hallowed]
  · rw [← hallowed, ← hsound.recorded, isPeerConnected, getPeersConnected]
    cases control.mServicePeerMap.get? s with
    | none => exact iff_of_false Bool.false_ne_true (Finset.notMem_empty p)
    | some peerSet => exact decide_eq_true_iff

/-- Two own services of which a peer has announced one. -/
theorem checksAgree_run_oneOfTwo :
  let own : RsServiceInfo := ⟨"chat", 0x02001200, 1, 0, 1, 0⟩
  let inputs := [Input.updateServicesProvided 1 ⟨1, OrdMap.empty.insert 0x02001200 own⟩]
  let control : ServiceControl Nat Unit := machine.run
    (start [.registerService own true, .registerService ⟨"disc", 0x02001100, 1, 0, 1, 0⟩ true])
    inputs
  let Usable := ∃ info provided, lastProvided inputs 1 = some info ∧
    info.mServiceList.get? 0x02001200 = some provided ∧ serviceInfoCompatible own provided ∧
    control.peerHasPermissionForService 1 0x02001200
  (control.checkFilter 0x02001200 1 ↔ Usable) ∧ (control.isPeerConnected 0x02001200 1 ↔ Usable)
  := checksAgree_run _ _ (by decide) (by decide) 1

end ServiceControl

end Services
