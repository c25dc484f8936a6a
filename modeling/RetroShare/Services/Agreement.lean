import RetroShare.Services.Filters
import RetroShare.Services.Info

/-!
# Both ends enable the same services

A side that has nothing to tell the other one has told it what it allows now: the last list that
the other side has taken, or that is on its way to it, is the current one.  `heard` is that list,
`Quiet` says that there is nothing to tell, and the invariant `Informed` connects the two while the
sides are linked.
-/

namespace Services

open ServiceControl

variable {π μ : Type} [LinearOrder π] {control control' : ServiceControl π μ} {friend : Friend π μ}
  {p : π} {onlinePeers : List π} {input : ServiceControl.Input π}

/-! ### The control of a side -/

/-- A change of permissions that is not noted of a connected peer leaves what it may use. -/
theorem getServicesAllowed_updateServicePermissions {s : Nat} {permissions : RsServicePermissions π}
    (honline : p ∈ onlinePeers)
    (hquiet : p ∉ (control.updateServicePermissions onlinePeers s permissions).mUpdatedSet) :
  p ∉ control.mUpdatedSet ∧
    (control.updateServicePermissions onlinePeers s permissions).getServicesAllowed p =
      control.getServicesAllowed p
  := by
  rw [ServiceControl.updateServicePermissions] at hquiet ⊢
  split at hquiet
  case h_1 => exact ⟨hquiet, rfl⟩
  case h_2 previous hprevious =>
    obtain ⟨_, _, _, heq⟩ := sameLists_updateAllFilters (π := π) (μ := μ)
      { control with
        mUpdatedSet := control.mUpdatedSet ∪ (onlinePeers.filter fun peerId =>
          previous.peerHasPermission peerId ≠ permissions.peerHasPermission peerId).toFinset
        mServicePermissionMap := control.mServicePermissionMap.insert s
          { permissions with mServiceId := s } }
    rw [heq] at hquiet
    dsimp only at hquiet
    rw [Finset.notMem_union, List.mem_toFinset, List.mem_filter, decide_eq_true_iff, not_and,
      not_not] at hquiet
    refine ⟨hquiet.1, ?_⟩
    have hsame := hquiet.2 honline
    have hpermission : ∀ s', peerHasPermissionForService
        { control with
          mServicePermissionMap := control.mServicePermissionMap.insert s
            { permissions with mServiceId := s } } p s' =
          control.peerHasPermissionForService p s' := by
      intro s'
      rw [peerHasPermissionForService, peerHasPermissionForService]
      dsimp only
      rw [OrdMap.get?_insert]
      by_cases hs : s' = s
      · rw [if_pos hs, hs, hprevious]
        exact hsame.symm
      · rw [if_neg hs]
    rw [heq]
    have hfilter := funext hpermission
    rw [getServicesAllowed, getServicesAllowed, ← hfilter]
    rfl

/-- Two states have the same own services and permissions, and the same peers to update. -/
structure SameGrants (control control' : ServiceControl π μ) : Prop where
  own : control'.mOwnServices = control.mOwnServices
  permissions : control'.mServicePermissionMap = control.mServicePermissionMap
  updated : control'.mUpdatedSet = control.mUpdatedSet

theorem SameGrants.refl (control : ServiceControl π μ) :
  SameGrants control control
  := ⟨rfl, rfl, rfl⟩

theorem SameGrants.trans {control'' : ServiceControl π μ} (h : SameGrants control control')
    (h' : SameGrants control' control'') :
  SameGrants control control''
  := ⟨h'.own.trans h.own, h'.permissions.trans h.permissions, h'.updated.trans h.updated⟩

theorem SameGrants.getServicesAllowed_eq (h : SameGrants control control') :
  control'.getServicesAllowed p = control.getServicesAllowed p
  := by
  have hpermission : ∀ s, control'.peerHasPermissionForService p s =
      control.peerHasPermissionForService p s := by
    intro s
    rw [peerHasPermissionForService, peerHasPermissionForService, h.permissions]
  rw [getServicesAllowed, getServicesAllowed, h.own, funext hpermission]

theorem sameGrants_of_sameLists (h : SameLists control control') :
  SameGrants control control'
  := by
  obtain ⟨_, _, _, rfl⟩ := h
  exact ⟨rfl, rfl, rfl⟩

theorem sameGrants_updateServicesProvided (control : ServiceControl π μ) (q : π)
    (info : RsPeerServiceInfo π) :
  SameGrants control (control.updateServicesProvided q info)
  := by
  have hlist : SameGrants control
      { control with mServicesProvided := control.mServicesProvided.insert q info } :=
    ⟨rfl, rfl, rfl⟩
  exact hlist.trans (sameGrants_of_sameLists (refilters_updateFilterByPeer _ q).same)

theorem sameGrants_removePeer (control : ServiceControl π μ) (q : π) :
  SameGrants control (control.removePeer q)
  := by
  have hlist : SameGrants control (control.withoutList q) := ⟨rfl, rfl, rfl⟩
  exact hlist.trans (sameGrants_of_sameLists (refilters_removePeer control q).1.same)

theorem sameGrants_statusChange (control : ServiceControl π μ) (plist : List (Pqipeer π)) :
  SameGrants control (control.statusChange plist)
  := by
  rw [statusChange]
  induction plist generalizing control with
  | nil => exact SameGrants.refl control
  | cons peer plist ih =>
    rw [List.foldl_cons]
    refine SameGrants.trans ?_ (ih _)
    obtain ⟨_, -, heq⟩ := statusChangeOf_eq control peer
    have hbase : SameGrants control
        (if removesList peer then control.removePeer peer.id else control) := by
      split
      · exact sameGrants_removePeer control peer.id
      · exact SameGrants.refl control
    rw [heq]
    exact hbase.trans ⟨rfl, rfl, rfl⟩

/-- A call that does not concern a peer leaves its list and what it may use, and notes nothing. -/
theorem next_of_elsewhere (control : ServiceControl π μ) (h : Pair.elsewhere p input) :
  SameGrants control (ServiceControl.machine.next control input) ∧
    (ServiceControl.machine.next control input).mServicesProvided.get? p =
      control.mServicesProvided.get? p
  := by
  rw [(lists_next control input p).2]
  cases input with
  | updateServicesProvided q info =>
    refine ⟨sameGrants_updateServicesProvided control q info, ?_⟩
    exact if_neg (of_decide_eq_true h)
  | updateServicePermissions => cases h
  | updateFilterByPeer q =>
    exact ⟨sameGrants_of_sameLists (refilters_updateFilterByPeer control q).same, rfl⟩
  | updateAllFilters =>
    exact ⟨sameGrants_of_sameLists (sameLists_updateAllFilters control), rfl⟩
  | removePeer q =>
    refine ⟨sameGrants_removePeer control q, ?_⟩
    exact if_neg (of_decide_eq_true h)
  | statusChange plist =>
    refine ⟨sameGrants_statusChange control plist, ?_⟩
    have hother : (plist.any fun peer => peer.id = p && removesList peer) = false := by
      rw [List.any_eq_false]
      intro peer hpeer
      have hid := of_decide_eq_true (List.all_eq_true.mp h peer hpeer)
      rw [decide_eq_false hid, Bool.false_and]
      exact Bool.false_ne_true
    rw [listAfter, hother, if_neg Bool.false_ne_true]
  | getServiceChanges => cases h
  | notifyAboutFriends =>
    refine ⟨?_, rfl⟩
    change SameGrants control control.notifyAboutFriends.1
    rw [notifyAboutFriends]
    split
    · exact SameGrants.refl control
    · exact ⟨rfl, rfl, rfl⟩
  | notifyServices => exact ⟨⟨rfl, rfl, rfl⟩, rfl⟩

/-! ### A side -/

/-- The list of a peer that a side has taken last, or is going to take last. -/
def heard (p : π) (friend : Friend π μ) : Option ServiceList :=
  friend.incoming.getLast?.or
    ((friend.control.mServicesProvided.get? p).map RsPeerServiceInfo.mServiceList)

/-- A side has nothing to tell a peer. -/
structure Quiet (p : π) (friend : Friend π μ) : Prop where
  reported : friend.actions = {}
  toUpdate : p ∉ friend.mPeersToUpdate
  updated : p ∉ friend.control.mUpdatedSet

/-- What happens at a side while it is linked: it hears nothing new, and when it has nothing to tell
afterwards, it had nothing before and allows the same. -/
structure Keeps (p : π) (friend friend' : Friend π μ) : Prop where
  sound : Sound friend.control → Sound friend'.control
  heard_eq : heard p friend' = heard p friend
  quiet : Quiet p friend' →
    Quiet p friend ∧ friend'.sendServiceInfoList p = friend.sendServiceInfoList p

theorem Keeps.refl (p : π) (friend : Friend π μ) :
  Keeps p friend friend
  := ⟨id, rfl, fun h => ⟨h, rfl⟩⟩

theorem Keeps.trans {friend' friend'' : Friend π μ} (h : Keeps p friend friend')
    (h' : Keeps p friend' friend'') :
  Keeps p friend friend''
  where
  sound := h'.sound ∘ h.sound
  heard_eq := h'.heard_eq.trans h.heard_eq
  quiet hquiet := by
    obtain ⟨hquiet', hsame'⟩ := h'.quiet hquiet
    obtain ⟨hquiet₀, hsame⟩ := h.quiet hquiet'
    exact ⟨hquiet₀, hsame'.trans hsame⟩

theorem keeps_updateServicePermissions (honline : p ∈ onlinePeers) (s : Nat)
    (permissions : RsServicePermissions π) :
  Keeps p friend
    { friend with
      control := friend.control.updateServicePermissions onlinePeers s permissions }
  where
  sound h := h.updateServicePermissions onlinePeers permissions
  heard_eq := by
    have hlist := (lists_next friend.control
      (.updateServicePermissions onlinePeers s permissions) p).2
    rw [heard, heard]
    dsimp only
    change (friend.control.updateServicePermissions onlinePeers s
      permissions).mServicesProvided.get? p = _ at hlist
    rw [hlist]
    rfl
  quiet h := by
    obtain ⟨hupdated, hsame⟩ := getServicesAllowed_updateServicePermissions honline h.updated
    exact ⟨⟨h.reported, h.toUpdate, hupdated⟩, congrArg RsPeerServiceInfo.mServiceList hsame⟩

theorem keeps_call (h : Pair.elsewhere p input) :
  Keeps p friend
    { friend with control := ServiceControl.machine.next friend.control input }
  := by
  obtain ⟨hgrants, hlist⟩ := next_of_elsewhere friend.control h
  constructor
  case sound =>
    intro hsound
    exact hsound.next input
  case heard_eq =>
    rw [heard, heard]
    dsimp only
    rw [hlist]
  case quiet =>
    intro hquiet
    refine ⟨⟨hquiet.reported, hquiet.toUpdate, ?_⟩, ?_⟩
    · rw [← hgrants.updated]
      exact hquiet.updated
    · exact congrArg RsPeerServiceInfo.mServiceList hgrants.getServicesAllowed_eq

/-- Taking the next item is taking what has been heard. -/
theorem keeps_recvServiceInfoList (p : π) (friend : Friend π μ) (item : ServiceList)
    (rest : List ServiceList) :
  Keeps p { friend with incoming := item :: rest }
    ({ friend with incoming := rest }.recvServiceInfoList p item)
  := by
  have hgrants := sameGrants_updateServicesProvided friend.control p ⟨p, item⟩
  constructor
  case sound =>
    intro hsound
    exact hsound.next (.updateServicesProvided p ⟨p, item⟩)
  case heard_eq =>
    have hlist := (lists_next friend.control (.updateServicesProvided p ⟨p, item⟩) p).2
    change (friend.control.updateServicesProvided p ⟨p, item⟩).mServicesProvided.get? p = _
      at hlist
    rw [listAfter, if_pos rfl] at hlist
    rw [heard, heard, Friend.recvServiceInfoList]
    dsimp only
    rw [hlist, List.getLast?_cons]
    cases rest.getLast? <;> rfl
  case quiet =>
    intro hquiet
    refine ⟨⟨hquiet.reported, hquiet.toUpdate, ?_⟩, ?_⟩
    · rw [← hgrants.updated]
      exact hquiet.updated
    · exact congrArg RsPeerServiceInfo.mServiceList hgrants.getServicesAllowed_eq

theorem keeps_processIncoming (p : π) (friend : Friend π μ) (n : Nat) :
  Keeps p friend (friend.processIncoming p n)
  := by
  induction n generalizing friend with
  | zero => exact Keeps.refl p friend
  | succ n ih =>
    obtain ⟨control, toUpdate, actions, incoming⟩ := friend
    cases incoming with
    | nil => exact Keeps.refl p _
    | cons item rest =>
      have hrest := ih
        (Friend.recvServiceInfoList ⟨control, toUpdate, actions, rest⟩ p item)
      exact (keeps_recvServiceInfoList p ⟨control, toUpdate, actions, rest⟩ item rest).trans
        hrest

theorem actions_processIncoming (p : π) (friend : Friend π μ) (n : Nat) :
  (friend.processIncoming p n).actions = friend.actions
  := by
  rw [Friend.processIncoming]
  apply Folds.foldl_of_step (P := fun _ (friend' : Friend π μ) => friend'.actions = friend.actions)
  · intro _ _ _ _ _ h
    exact h
  · rfl

theorem actions_tickMonitors (p : π) (friend : Friend π μ) :
  (friend.tickMonitors p).actions = friend.actions ∨ (friend.tickMonitors p).actions = {}
  := by
  rw [Friend.tickMonitors]
  split
  · exact .inl rfl
  · rw [Friend.statusChangeOf]
    split
    · exact .inr rfl
    · exact .inr rfl

theorem sound_tickMonitors (hsound : Sound friend.control) (p : π) :
  Sound (friend.tickMonitors p).control
  := by
  rw [Friend.tickMonitors]
  split
  · exact hsound
  · rw [Friend.statusChangeOf]
    split
    · exact hsound.statusChange _
    · exact hsound.statusChange _

theorem bits_of_connected {actions : LinkActions} (h : actions.connected) :
  actions.bits &&& peerConnected ≠ 0 ∧ actions.bits &&& peerNew = 0
  := by
  obtain ⟨connected, disconnected⟩ := actions
  obtain rfl : connected = true := h
  cases disconnected <;> decide

theorem keeps_tickMonitors (hdue : friend.actions ≠ {} → friend.actions.connected) (p : π) :
  Keeps p friend (friend.tickMonitors p)
  := by
  rw [Friend.tickMonitors]
  split
  case isTrue => exact Keeps.refl p friend
  case isFalse hne =>
    obtain ⟨hconnected, hnew⟩ := bits_of_connected (hdue hne)
    have hfriend : peerSFriend &&& peerSFriend ≠ 0 := by decide
    have hsame : friend.control.statusChange [⟨p, peerSFriend, friend.actions.bits⟩] =
        friend.control := by
      rw [statusChange, List.foldl_cons, List.foldl_nil, ServiceControl.statusChangeOf]
      dsimp only
      rw [if_pos hfriend, if_pos hconnected, if_neg (not_not.mpr hnew)]
    dsimp only
    rw [hsame, Friend.statusChangeOf, if_pos ⟨hfriend, hconnected⟩]
    constructor
    case sound => exact id
    case heard_eq => rfl
    case quiet =>
      intro hquiet
      exact absurd (Finset.mem_insert_self _ _) hquiet.toUpdate

/-! ### Both sides -/

/-- What holds of every pair: while the sides are linked, a side with nothing to tell has told the
other one what it allows. -/
structure Informed (id : Bool → π) (pair : Pair π μ) : Prop where
  sound : ∀ x, Sound (pair.side x).control
  due : pair.linked → ∀ x, (pair.side x).actions ≠ {} → (pair.side x).actions.connected
  told : pair.linked → ∀ x, Quiet (id !x) (pair.side x) →
    heard (id x) (pair.side !x) = some ((pair.side x).sendServiceInfoList (id !x))

namespace Informed

variable {id : Bool → π} {pair : Pair π μ} {x : Bool}

theorem start (setup : Bool → List (Setup π μ)) :
  Informed id (Pair.start setup : Pair π μ)
  where
  sound x := (fresh_start (setup x)).sound
  due h := absurd h Bool.false_ne_true
  told h := absurd h Bool.false_ne_true

/-- What happens at one side. -/
theorem set (h : Informed id pair) (hsound : Sound friend.control)
    (hactions : friend.actions = (pair.side x).actions ∨ friend.actions = {})
    (hkeeps : pair.linked → Keeps (id !x) (pair.side x) friend) :
  Informed id (pair.set x friend)
  := by
  have hself : (pair.set x friend).side x = friend := Function.update_self ..
  have hother : (pair.set x friend).side (!x) = pair.side (!x) :=
    Function.update_of_ne (Bool.not_ne_self x) ..
  constructor
  case sound =>
    intro y
    rcases Bool.eq_or_eq_not y x with rfl | rfl
    · rw [hself]
      exact hsound
    · rw [hother]
      exact h.sound _
  case due =>
    intro hlinked y
    rcases Bool.eq_or_eq_not y x with rfl | rfl
    · rw [hself]
      intro hne
      rcases hactions with hsame | hnone
      · rw [hsame] at hne ⊢
        exact h.due hlinked _ hne
      · exact absurd hnone hne
    · rw [hother]
      exact h.due hlinked _
  case told =>
    intro hlinked y
    rcases Bool.eq_or_eq_not y x with rfl | rfl
    · rw [hself, hother]
      intro hquiet
      obtain ⟨hquiet', hsame⟩ := (hkeeps hlinked).quiet hquiet
      rw [hsame]
      exact h.told hlinked _ hquiet'
    · rw [hother, Bool.not_not, hself]
      intro hquiet
      rw [(hkeeps hlinked).heard_eq]
      have htold := h.told hlinked (!x)
      rw [Bool.not_not] at htold
      exact htold hquiet

theorem connect (h : Informed id pair) :
  Informed id pair.connect
  := by
  rw [Pair.connect]
  split
  · exact h
  · constructor
    case sound => exact h.sound
    case due =>
      intro _ x _
      rfl
    case told =>
      intro _ x hquiet
      have hconnected := congrArg LinkActions.connected hquiet.reported
      cases hconnected

theorem disconnect (h : Informed id pair) :
  Informed id pair.disconnect
  := by
  rw [Pair.disconnect]
  split
  · exact ⟨h.sound, fun h => absurd h Bool.false_ne_true, fun h => absurd h Bool.false_ne_true⟩
  · exact h

theorem mem_onlineList (hlinked : pair.linked) (others : List π) :
  id (!x) ∈ pair.onlineList id x others
  := by
  rw [Pair.onlineList, if_pos hlinked]
  exact List.mem_append_right _ List.mem_cons_self

theorem items_map {l : List π} (hl : l.Nodup) (item : π → ServiceList) (p : π) :
  ((l.map fun q => (q, item q)).filter fun e => e.1 = p).map Prod.snd =
    if p ∈ l then [item p] else []
  := by
  induction l with
  | nil => rfl
  | cons q l ih =>
    obtain ⟨hq, hl⟩ := List.nodup_cons.mp hl
    rw [List.map_cons, List.filter_cons]
    by_cases heq : q = p
    · subst heq
      rw [if_pos (decide_eq_true rfl), List.map_cons, ih hl, if_neg hq,
        if_pos List.mem_cons_self]
    · rw [if_neg (by simpa using heq), ih hl]
      simp only [List.mem_cons, Ne.symm heq, false_or]

theorem send (h : Informed id (pair.set x friend)) {items : List ServiceList}
    (hitems : items =
      if id (!x) ∈ friend.updateSet then [friend.sendServiceInfoList (id !x)] else []) :
  Informed id ((pair.set x friend.sendPackets.1).set (!x)
    { pair.side (!x) with
      incoming := (pair.side !x).incoming ++ if pair.linked then items else [] })
  := by
  have hself : ∀ friend, (pair.set x friend).side x = friend :=
    fun _ => Function.update_self ..
  have hother : ∀ friend, (pair.set x friend).side (!x) = pair.side (!x) :=
    fun _ => Function.update_of_ne (Bool.not_ne_self x) ..
  have hsound := h.sound
  have hdue := h.due
  have htold := h.told
  generalize hpair' : (pair.set x friend.sendPackets.1).set (!x)
    { pair.side (!x) with
      incoming := (pair.side !x).incoming ++ if pair.linked then items else [] } = pair'
  have hlinked : pair'.linked = pair.linked := by rw [← hpair']; rfl
  have hx : pair'.side x = friend.sendPackets.1 := by
    rw [← hpair']
    exact (Function.update_of_ne (Bool.not_ne_self x).symm ..).trans (hself _)
  have hnot : pair'.side (!x) = { pair.side (!x) with
      incoming := (pair.side !x).incoming ++ if pair.linked then items else [] } := by
    rw [← hpair']
    exact Function.update_self ..
  constructor
  case sound =>
    intro y
    rcases Bool.eq_or_eq_not y x with rfl | rfl
    · have hsound' := hsound y
      rw [hself] at hsound'
      rw [hx]
      exact ⟨hsound'.current, hsound'.recorded⟩
    · have hsound' := hsound (!x)
      rw [hother] at hsound'
      rw [hnot]
      exact hsound'
  case due =>
    intro hpair y
    rw [hlinked] at hpair
    rcases Bool.eq_or_eq_not y x with rfl | rfl
    · have hdue' := hdue hpair y
      rw [hself] at hdue'
      rw [hx]
      exact hdue'
    · have hdue' := hdue hpair (!x)
      rw [hother] at hdue'
      rw [hnot]
      exact hdue'
  case told =>
    intro hpair y
    rw [hlinked] at hpair
    rcases Bool.eq_or_eq_not y x with rfl | rfl
    · have htold' := htold hpair y
      rw [hself, hother] at htold'
      rw [hx, hnot, if_pos hpair, hitems]
      intro hquiet
      split
      case isTrue =>
        rw [heard, List.getLast?_append_of_ne_nil _ (List.cons_ne_nil _ _)]
        rfl
      case isFalse hupdate =>
        rw [Friend.updateSet, Finset.notMem_union] at hupdate
        rw [List.append_nil]
        exact htold' ⟨hquiet.reported, hupdate.1, hupdate.2⟩
    · have htold' := htold hpair (!x)
      rw [Bool.not_not, hself, hother] at htold'
      rw [Bool.not_not, hx, hnot]
      intro hquiet
      exact htold' ⟨hquiet.reported, hquiet.toUpdate, hquiet.updated⟩

theorem tick (h : Informed id pair) (x : Bool) (n : Nat) :
  Informed id (pair.tick id x n).1
  := by
  rw [Pair.tick]
  dsimp only
  generalize hfriend :
    (if (pair.side x).actions = {} then (pair.side x).processIncoming (id !x) n
      else pair.side x) = friend
  have hkeeps : Keeps (id !x) (pair.side x) friend := by
    rw [← hfriend]
    split
    · exact keeps_processIncoming _ _ n
    · exact Keeps.refl _ _
  have hactions : friend.actions = (pair.side x).actions := by
    rw [← hfriend]
    split
    · exact actions_processIncoming _ _ n
    · rfl
  have hprocessed : Informed id (pair.set x friend) :=
    h.set (hkeeps.sound (h.sound x)) (.inl hactions) fun _ => hkeeps
  have hmap := items_map (friend.updateSet.sort_nodup (· ≤ ·)) friend.sendServiceInfoList (id !x)
  simp only [Finset.mem_sort] at hmap
  have hother : (pair.set x friend.sendPackets.1).side (!x) = pair.side (!x) :=
    Function.update_of_ne (Bool.not_ne_self x) ..
  rw [hother]
  exact hprocessed.send hmap

/-- Every step keeps the invariant. -/
theorem next (h : Informed id pair) (input : Pair.Input π) :
  Informed id ((Pair.machine id).next pair input)
  := by
  cases input with
  | updateServicePermissions x others serviceId permissions =>
    apply h.set
    · exact (h.sound x).updateServicePermissions _ permissions
    · exact .inl rfl
    · intro hlinked
      exact keeps_updateServicePermissions (mem_onlineList hlinked others) serviceId permissions
  | tick x n => exact h.tick x n
  | tickMonitors x =>
    apply h.set
    · exact sound_tickMonitors (h.sound x) _
    · exact actions_tickMonitors _ _
    · intro hlinked
      exact keeps_tickMonitors (h.due hlinked x) _
  | call x input =>
    change Informed id (if Pair.elsewhere (id !x) input then _ else pair)
    split
    case isTrue helsewhere =>
      apply h.set
      · exact (h.sound x).next input
      · exact .inl rfl
      · exact fun _ => keeps_call helsewhere
    case isFalse => exact h
  | connect => exact h.connect
  | disconnect => exact h.disconnect

end Informed

/-! ### Agreement -/

theorem serviceInfoCompatible_comm (info1 info2 : RsServiceInfo) :
  serviceInfoCompatible info1 info2 = serviceInfoCompatible info2 info1
  := by
  rw [serviceInfoCompatible, serviceInfoCompatible]
  grind

/-- What a side lets a friend do whose list it has taken. -/
theorem checkFilter_of_heard {other : ServiceControl π μ} {q : π} {s : Nat}
    {own own' : RsServiceInfo} (hsound : Sound control)
    (hown : control.mOwnServices.get? s = some own)
    (hown' : other.mOwnServices.get? s = some own') (hs : s ≠ fullIdServiceInfo)
    (hheard : (control.mServicesProvided.get? p).map RsPeerServiceInfo.mServiceList =
      some (other.getServicesAllowed q).mServiceList) :
  control.checkFilter s p ↔ serviceInfoCompatible own own' ∧
    control.peerHasPermissionForService p s ∧ other.peerHasPermissionForService q s
  := by
  obtain ⟨info, hinfo, hlist⟩ := Option.map_eq_some_iff.mp hheard
  have hprovided : ∀ provided, info.mServiceList.get? s = some provided ↔
      own' = provided ∧ other.peerHasPermissionForService q s := by
    intro provided
    rw [hlist, getServicesAllowed]
    dsimp only
    rw [OrdMap.get?_filter, hown', Option.filter_some]
    split
    case isTrue hallowed => rw [Option.some_inj, and_iff_left hallowed]
    case isFalse hdenied =>
      apply iff_of_false (Option.some_ne_none provided).symm
      exact fun h => hdenied h.2
  rw [hsound.checkFilter_iff hown hs, filterOf, hsound.current p, dueFilter_of_provided hinfo,
    mem_allowedServices, AllowsWith]
  constructor
  · rintro ⟨own₁, provided, hown₁, hmem, hcompatible, hpermission⟩
    rw [hown] at hown₁
    cases hown₁
    obtain ⟨rfl, hallowed⟩ := (hprovided provided).mp hmem
    exact ⟨hcompatible, hpermission, hallowed⟩
  · rintro ⟨hcompatible, hpermission, hallowed⟩
    exact ⟨own, own', hown, (hprovided own').mpr ⟨rfl, hallowed⟩, hcompatible, hpermission⟩

/-- The sides are linked, no item is on its way, and no side is to update the other one. -/
structure Settled (id : Bool → π) (pair : Pair π μ) : Prop where
  linked : pair.linked
  taken : ∀ x, (pair.side x).incoming = []
  toUpdate : ∀ x, id (!x) ∉ (pair.side x).mPeersToUpdate
  updated : ∀ x, id (!x) ∉ (pair.side x).control.mUpdatedSet

/-- Two linked friends whose link managers have reported the connection, without items on their way
and without updates to send, enable the same of the services that both have. -/
theorem filters_agree_run (id : Bool → π) (setup : Bool → List (Setup π μ))
    (inputs : List (Pair.Input π)) :
  let pair := (Pair.machine id).run (Pair.start setup) inputs
  Settled id pair → (∀ x, (pair.side x).actions = {}) →
    ∀ s, (∀ x, ((pair.side x).control.mOwnServices.get? s).isSome) →
      (pair.side false).control.checkFilter s (id true) =
        (pair.side true).control.checkFilter s (id false)
  := by
  intro pair hsettled hreported s hregistered
  have h : Informed id pair := by
    apply Machine.run_of_next (P := Informed id)
    · exact fun _ input h => h.next input
    · exact Informed.start setup
  have hheard : ∀ x, ((pair.side !x).control.mServicesProvided.get? (id x)).map
      RsPeerServiceInfo.mServiceList = some ((pair.side x).sendServiceInfoList (id !x)) := by
    intro x
    have htold := h.told hsettled.linked x
      ⟨hreported x, hsettled.toUpdate x, hsettled.updated x⟩
    rwa [heard, hsettled.taken, List.getLast?_nil, Option.none_or] at htold
  by_cases hs : s = fullIdServiceInfo
  · rw [hs, checkFilter, checkFilter, if_pos rfl, if_pos rfl]
  · obtain ⟨own, hown⟩ := Option.isSome_iff_exists.mp (hregistered false)
    obtain ⟨own', hown'⟩ := Option.isSome_iff_exists.mp (hregistered true)
    rw [Bool.eq_iff_iff, checkFilter_of_heard (h.sound false) hown hown' hs (hheard true),
      checkFilter_of_heard (h.sound true) hown' hown hs (hheard false),
      serviceInfoCompatible_comm]
    apply and_congr_right'
    exact and_comm

/-- Two friends with the chat service. -/
def chatFriends : Pair Nat Unit :=
  Pair.start fun _ => [.registerService ⟨"chat", 0x02001200, 1, 0, 1, 0⟩ true]

/-- The id of a side of the friends above. -/
def chatId (x : Bool) : Nat := if x then 2 else 1

/-- A connection of the friends above on which both have sent and taken their lists. -/
def chatExchange : List (Pair.Input Nat) :=
  [.connect, .tickMonitors false, .tickMonitors true, .tick false 0, .tick true 1, .tick false 1]

theorem filters_agree_run_chat :
  let pair := (Pair.machine chatId).run chatFriends chatExchange
  (pair.side false).control.checkFilter 0x02001200 (chatId true) =
    (pair.side true).control.checkFilter 0x02001200 (chatId false)
  := by
  apply filters_agree_run chatId _ chatExchange
  · exact ⟨by decide +kernel, by decide +kernel, by decide +kernel, by decide +kernel⟩
  · decide +kernel
  · decide +kernel

/-- After a quick reconnection one side has reported the disconnection and the other one has not. -/
theorem not_filters_agree_reconnected :
  let pair := (Pair.machine chatId).run chatFriends
    (chatExchange ++ [.disconnect, .tickMonitors false, .connect])
  Settled chatId pair ∧ (∀ x, ((pair.side x).control.mOwnServices.get? 0x02001200).isSome) ∧
    (pair.side false).control.checkFilter 0x02001200 (chatId true) = false ∧
    (pair.side true).control.checkFilter 0x02001200 (chatId false) = true
  := by
  refine ⟨⟨?_, ?_, ?_, ?_⟩, ?_, ?_, ?_⟩ <;> decide +kernel

end Services
