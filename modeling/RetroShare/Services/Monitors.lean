import RetroShare.Services.Filters

/-!
# What the monitors of services learn

Between two calls of `notifyServices` the peers that come to a service and those that leave it are
kept in two sets, and the monitors of the service are told of all that came and then of all that
left.  So a monitor knows who is connected, until a peer leaves and comes back between two
notifications.
-/

namespace Services

namespace ServiceControl

variable {π μ : Type} [LinearOrder π] {control control' : ServiceControl π μ} {p : π} {s : Nat}
  {held peers : Finset π} {notes : ServiceNotifications π} (l : List π)

/-! ### What a monitor holds -/

/-- A monitor applies an entry of the list that it is given. -/
def applied (held : Finset π) (peer : PqiServicePeer π) : Finset π :=
  match peer.actions with
  | .connected => insert peer.id held
  | .disconnected => held.erase peer.id
  | .new | .removed => held

/-- What a monitor holds after calls of monitors. -/
def heldAfter [DecidableEq μ] (monitor : μ) (held : Finset π) (notices : List (Notice π μ)) :
    Finset π :=
  notices.foldl
    (fun held notice => if notice.monitor = monitor then notice.peers.foldl applied held else held)
    held

theorem foldl_applied_connected (held : Finset π) :
  (l.map fun id => (⟨id, .connected⟩ : PqiServicePeer π)).foldl applied held = held ∪ l.toFinset
  := by
  induction l generalizing held with
  | nil => simp
  | cons id l ih =>
    rw [List.map_cons, List.foldl_cons, ih]
    ext q
    simp [applied]

theorem foldl_applied_disconnected (held : Finset π) :
  (l.map fun id => (⟨id, .disconnected⟩ : PqiServicePeer π)).foldl applied held =
    held \ l.toFinset
  := by
  induction l generalizing held with
  | nil => simp
  | cons id l ih =>
    rw [List.map_cons, List.foldl_cons, ih]
    ext q
    simp [applied]
    tauto

/-- The list of a service adds all that came and takes out all that left. -/
theorem foldl_applied_peersOf (notes : ServiceNotifications π) (held : Finset π) :
  (peersOf notes).foldl applied held = (held ∪ notes.mAdded) \ notes.mRemoved
  := by
  rw [peersOf, List.foldl_append, foldl_applied_connected, foldl_applied_disconnected,
    Finset.sort_toFinset, Finset.sort_toFinset]

section heldAfter

variable [DecidableEq μ] {monitor : μ}

theorem heldAfter_append (notices notices' : List (Notice π μ)) :
  heldAfter monitor held (notices ++ notices') =
    heldAfter monitor (heldAfter monitor held notices) notices'
  := List.foldl_append

/-- The notices of a service, for its registrations. -/
theorem heldAfter_map (held : Finset π) (registrations : List (Nat × μ))
    (notes : ServiceNotifications π) :
  heldAfter monitor held (registrations.map fun e => ⟨e.2, peersOf notes⟩) =
    if registrations.any fun e => e.2 = monitor then (held ∪ notes.mAdded) \ notes.mRemoved
    else held
  := by
  induction registrations generalizing held with
  | nil => rfl
  | cons e registrations ih =>
    rw [List.map_cons, heldAfter, List.foldl_cons, ← heldAfter, ih, List.any_cons]
    by_cases he : e.2 = monitor
    · rw [if_pos he, decide_eq_true he, Bool.true_or, if_pos rfl, foldl_applied_peersOf]
      split
      · ext q
        simp
        tauto
      · rfl
    · rw [if_neg he, decide_eq_false he, Bool.false_or]

theorem heldAfter_notices (held : Finset π) {monitors : List (Nat × μ)}
    {l : List (Nat × ServiceNotifications π)}
    (hmonitor : ∀ e ∈ monitors, e.2 = monitor → e.1 = s) (hregistered : (s, monitor) ∈ monitors)
    (hl : l.Pairwise fun e e' => e.1 < e'.1) :
  (∀ notes, (s, notes) ∈ l →
    heldAfter monitor held (l.flatMap fun (serviceId, notes) =>
      (monitors.filter fun e => e.1 = serviceId).map fun e => ⟨e.2, peersOf notes⟩) =
        (held ∪ notes.mAdded) \ notes.mRemoved) ∧
  ((∀ notes, (s, notes) ∉ l) →
    heldAfter monitor held (l.flatMap fun (serviceId, notes) =>
      (monitors.filter fun e => e.1 = serviceId).map fun e => ⟨e.2, peersOf notes⟩) = held)
  := by
  induction l generalizing held with
  | nil =>
    constructor
    · intro notes hnotes
      exact absurd hnotes List.not_mem_nil
    · intro _
      rfl
  | cons e l ih =>
    obtain ⟨serviceId, notes⟩ := e
    obtain ⟨hbelow, hl'⟩ := List.pairwise_cons.mp hl
    rw [List.flatMap_cons, heldAfter_append, heldAfter_map]
    by_cases hs : serviceId = s
    · subst hs
      have hany : (monitors.filter fun e => e.1 = serviceId).any fun e => e.2 = monitor := by
        rw [List.any_eq_true]
        exact ⟨_, List.mem_filter.mpr ⟨hregistered, decide_eq_true rfl⟩, decide_eq_true rfl⟩
      have hnone : ∀ notes', (serviceId, notes') ∉ l := by
        intro notes' hmem
        exact lt_irrefl serviceId (hbelow _ hmem)
      rw [if_pos hany, (ih _ hl').2 hnone]
      constructor
      · intro notes' hnotes'
        rcases List.mem_cons.mp hnotes' with heq | hmem
        · cases heq
          rfl
        · exact absurd hmem (hnone notes')
      · intro hnot
        exact absurd List.mem_cons_self (hnot notes)
    · have hnobody :
          ((monitors.filter fun e => e.1 = serviceId).any fun e => e.2 = monitor) = false := by
        rw [List.any_eq_false]
        intro e he
        rw [List.mem_filter, decide_eq_true_iff] at he
        rw [decide_eq_true_iff]
        intro heq
        exact hs (he.2 ▸ hmonitor e he.1 heq)
      rw [hnobody, if_neg Bool.false_ne_true]
      obtain ⟨hin, hout⟩ := ih held hl'
      constructor
      · intro notes' hnotes'
        rcases List.mem_cons.mp hnotes' with heq | hmem
        · cases heq
          exact absurd rfl hs
        · exact hin notes' hmem
      · intro hnot
        apply hout
        intro notes' hmem
        exact hnot notes' (List.mem_cons_of_mem _ hmem)

theorem heldAfter_notifyServices
    (hmonitor : ∀ e ∈ control.mMonitors.toList, e.2 = monitor → e.1 = s)
    (hregistered : (s, monitor) ∈ control.mMonitors.toList) :
  heldAfter monitor held control.notifyServices.2 =
    (held ∪ (control.notesOf s).mAdded) \ (control.notesOf s).mRemoved
  := by
  obtain ⟨hin, hout⟩ := heldAfter_notices held hmonitor hregistered
    control.mNotifications.sorted
  rw [notifyServices, notesOf]
  cases hnotes : control.mNotifications.get? s with
  | none =>
    rw [Option.getD_none, Finset.union_empty, Finset.sdiff_empty]
    apply hout
    intro notes hmem
    rw [OrdMap.mem_toList, hnotes] at hmem
    cases hmem
  | some notes => exact hin notes (OrdMap.mem_toList.mpr hnotes)

end heldAfter

/-! ### What is to be told -/

/-- What has changed since a monitor held the right peers is in the notifications. -/
structure Pending (held peers : Finset π) (notes : ServiceNotifications π) : Prop where
  came : ∀ p ∈ peers, p ∉ held → p ∈ notes.mAdded
  gone : ∀ p ∈ held, p ∉ peers → p ∈ notes.mRemoved
  left : ∀ p ∈ notes.mAdded, p ∉ peers → p ∈ notes.mRemoved

omit [LinearOrder π] in
theorem pending_self :
  Pending held held {}
  where
  came _ hp hnot := absurd hp hnot
  gone _ hp hnot := absurd hp hnot
  left _ hp := absurd hp (Finset.notMem_empty _)

theorem Pending.change (h : Pending held peers notes) (added : Bool) :
  Pending held (changedPeers p added peers) (changedNotes p added notes)
  := by
  obtain ⟨hcame, hgone, hleft⟩ := h
  constructor
  all_goals
    intro q
    have := hcame q
    have := hgone q
    have := hleft q
    simp only [changedPeers, changedNotes]
    cases added <;> grind

/-- A monitor that applies the notifications holds the connected peers if and only if nobody who has
left is connected again. -/
theorem Pending.told_iff (h : Pending held peers notes) :
  (held ∪ notes.mAdded) \ notes.mRemoved = peers ↔ Disjoint notes.mRemoved peers
  := by
  rw [Finset.disjoint_left]
  constructor
  · rintro rfl q hremoved hq
    exact (Finset.mem_sdiff.mp hq).2 hremoved
  · intro hdisjoint
    ext q
    rw [Finset.mem_sdiff, Finset.mem_union]
    constructor
    · rintro ⟨hq | hq, hkept⟩
      · by_contra hnot
        exact hkept (h.gone q hq hnot)
      · by_contra hnot
        exact hkept (h.left q hq hnot)
    · intro hq
      refine ⟨?_, fun hremoved => hdisjoint hremoved hq⟩
      by_cases hheld : q ∈ held
      · exact .inl hheld
      · exact .inr (h.came q hq hheld)

/-- A call keeps the monitors and everything that they are to be told of a service; the friend
notifications are about nobody's connection. -/
structure Tells (s : Nat) (control control' : ServiceControl π μ) : Prop where
  monitors : control'.mMonitors = control.mMonitors
  friends : (∀ peer ∈ control.mFriendNotifications, ∀ held, applied held peer = held) →
    ∀ peer ∈ control'.mFriendNotifications, ∀ held, applied held peer = held
  pending : ∀ held, Pending held (control.getPeersConnected s) (control.notesOf s) →
    Pending held (control'.getPeersConnected s) (control'.notesOf s)

theorem Tells.refl (s : Nat) (control : ServiceControl π μ) :
  Tells s control control
  := ⟨rfl, id, fun _ => id⟩

theorem Tells.trans {control'' : ServiceControl π μ} (h : Tells s control control')
    (h' : Tells s control' control'') :
  Tells s control control''
  where
  monitors := h'.monitors.trans h.monitors
  friends := h'.friends ∘ h.friends
  pending held := h'.pending held ∘ h.pending held

theorem Refilters.tells (h : Refilters control control' p) :
  Tells s control control'
  := by
  constructor
  case monitors =>
    obtain ⟨_, _, _, heq⟩ := h.same
    rw [heq]
  case friends =>
    obtain ⟨_, _, _, heq⟩ := h.same
    rw [heq]
    exact id
  case pending =>
    intro held hpending
    rw [h.peers, h.notes, filtered, filtered]
    split
    · exact hpending.change true
    · split
      · exact hpending.change false
      · exact hpending

theorem tells_updateAllFilters (control : ServiceControl π μ) :
  Tells s control control.updateAllFilters
  := by
  rw [updateAllFilters]
  generalize control.peerSet.sort = peers
  induction peers generalizing control with
  | nil => exact Tells.refl s control
  | cons p peers ih =>
    rw [List.foldl_cons]
    exact (refilters_updateFilterByPeer control p).tells.trans (ih _)

theorem tells_removePeer (control : ServiceControl π μ) (p : π) :
  Tells s control (control.removePeer p)
  := by
  have hlist : Tells s control (control.withoutList p) := ⟨rfl, id, fun _ => id⟩
  exact hlist.trans (refilters_removePeer control p).1.tells

theorem tells_statusChangeOf (control : ServiceControl π μ) (peer : Pqipeer π) :
  Tells s control (control.statusChangeOf peer)
  := by
  obtain ⟨noted, hnoted, heq⟩ := statusChangeOf_eq control peer
  have hbase : Tells s control
      (if removesList peer then control.removePeer peer.id else control) := by
    split
    · exact tells_removePeer control peer.id
    · exact Tells.refl s control
  rw [heq]
  refine hbase.trans ⟨rfl, ?_, fun _ => id⟩
  intro hfriends friend hfriend held
  rcases List.mem_append.mp hfriend with hfriend | hfriend
  · exact hfriends friend hfriend held
  · rcases hnoted friend hfriend with hactions | hactions
    · rw [applied, hactions]
    · rw [applied, hactions]

/-- Every call but `notifyServices` keeps what the monitors are to be told. -/
theorem tells_next (control : ServiceControl π μ) {input : Input π}
    (hinput : input ≠ .notifyServices) :
  Tells s control (machine.next control input)
  := by
  cases input with
  | updateServicesProvided peerId info =>
    have hlist : Tells s control
        { control with
          mServicesProvided := control.mServicesProvided.insert peerId info } :=
      ⟨rfl, id, fun _ => id⟩
    exact hlist.trans (refilters_updateFilterByPeer _ peerId).tells
  | updateServicePermissions onlinePeers serviceId permissions =>
    change Tells s control (control.updateServicePermissions onlinePeers serviceId permissions)
    rw [ServiceControl.updateServicePermissions]
    split
    · exact Tells.refl s control
    · refine Tells.trans ?_ (tells_updateAllFilters _)
      exact ⟨rfl, id, fun _ => id⟩
  | updateFilterByPeer peerId => exact (refilters_updateFilterByPeer control peerId).tells
  | updateAllFilters => exact tells_updateAllFilters control
  | removePeer peerId => exact tells_removePeer control peerId
  | statusChange plist =>
    change Tells s control (control.statusChange plist)
    rw [statusChange]
    clear hinput
    induction plist generalizing control with
    | nil => exact Tells.refl s control
    | cons peer plist ih => exact (tells_statusChangeOf control peer).trans (ih _)
  | getServiceChanges => exact ⟨rfl, id, fun _ => id⟩
  | notifyAboutFriends =>
    change Tells s control control.notifyAboutFriends.1
    rw [notifyAboutFriends]
    split
    · exact Tells.refl s control
    · exact ⟨rfl, fun _ peer hpeer => absurd hpeer List.not_mem_nil, fun _ => id⟩
  | notifyServices => exact absurd rfl hinput

/-! ### Runs -/

section Follows

variable [DecidableEq μ] {monitor : μ} {input : Input π}

/-- After each `notifyServices` of a run a monitor that starts with `held` holds the peers that were
connected to the service when the notifications were taken. -/
def Follows (monitor : μ) (s : Nat) (held : Finset π) (control : ServiceControl π μ)
    (inputs : List (Input π)) : Prop :=
  ∀ done rest, inputs = done ++ .notifyServices :: rest →
    heldAfter monitor held (machine.trace control (done ++ [.notifyServices])) =
      (machine.run control done).getPeersConnected s

/-- When the notifications are taken, nobody who has left the service is connected to it again. -/
def NoReturn (s : Nat) (control : ServiceControl π μ) (input : Input π) : Prop :=
  input = .notifyServices →
    Disjoint (control.notesOf s).mRemoved (control.getPeersConnected s)

theorem follows_cons {inputs : List (Input π)} :
  Follows monitor s held control (input :: inputs) ↔
    (input = .notifyServices →
      heldAfter monitor held (machine.emit control input) = control.getPeersConnected s) ∧
    Follows monitor s (heldAfter monitor held (machine.emit control input))
      (machine.next control input) inputs
  := by
  constructor
  · intro h
    constructor
    · rintro rfl
      have hfirst := h [] inputs rfl
      rwa [List.nil_append, Machine.trace_cons, Machine.trace_nil, List.append_nil] at hfirst
    · rintro done rest rfl
      have hlater := h (input :: done) rest rfl
      rwa [List.cons_append, Machine.trace_cons, heldAfter_append] at hlater
  · rintro ⟨hfirst, hlater⟩ (_ | ⟨_, done⟩) rest heq
    · cases heq
      rw [List.nil_append, Machine.trace_cons, Machine.trace_nil, List.append_nil]
      exact hfirst rfl
    · cases heq
      rw [List.cons_append, Machine.trace_cons, heldAfter_append]
      exact hlater done rest rfl

/-- The other calls tell a monitor nothing about connections. -/
theorem heldAfter_emit
    (hfriends : ∀ peer ∈ control.mFriendNotifications, ∀ held, applied held peer = held)
    (hinput : input ≠ .notifyServices) :
  heldAfter monitor held (machine.emit control input) = held
  := by
  cases input with
  | notifyAboutFriends =>
    change heldAfter monitor held control.notifyAboutFriends.2 = held
    rw [notifyAboutFriends]
    split
    · rfl
    · have hkept : control.mFriendNotifications.foldl applied held = held := by
        clear hinput
        revert hfriends
        induction control.mFriendNotifications with
        | nil => exact fun _ => rfl
        | cons peer peers ih =>
          intro hfriends
          rw [List.foldl_cons, hfriends peer List.mem_cons_self]
          apply ih
          intro peer' hpeer'
          exact hfriends peer' (List.mem_cons_of_mem peer hpeer')
      dsimp only
      induction control.mMonitors.toList with
      | nil => rfl
      | cons e monitors ih =>
        rw [List.map_cons, heldAfter, List.foldl_cons, ← heldAfter]
        dsimp only
        rw [hkept, ite_self]
        exact ih
  | notifyServices => exact absurd rfl hinput
  | updateServicesProvided | updateServicePermissions | updateFilterByPeer | updateAllFilters
  | removePeer | statusChange | getServiceChanges => rfl

/-- The notifications follow the connections from a state in which a monitor is to be told what it
does not know. -/
theorem Pending.followsFrom_iff
    (hmonitor : ∀ e ∈ control.mMonitors.toList, e.2 = monitor → e.1 = s)
    (hregistered : (s, monitor) ∈ control.mMonitors.toList)
    (hfriends : ∀ peer ∈ control.mFriendNotifications, ∀ held, applied held peer = held)
    (h : Pending held (control.getPeersConnected s) (control.notesOf s))
    (inputs : List (Input π)) :
  Follows monitor s held control inputs ↔ machine.Along (NoReturn s) control inputs
  := by
  induction inputs generalizing control held with
  | nil =>
    apply iff_of_true _ trivial
    intro done rest heq
    exact absurd heq.symm (List.append_ne_nil_of_right_ne_nil _ (List.cons_ne_nil _ _))
  | cons input inputs ih =>
    rw [follows_cons, Machine.along_cons, NoReturn]
    by_cases hinput : input = .notifyServices
    · subst hinput
      have hheld : heldAfter monitor held (machine.emit control .notifyServices) =
          (held ∪ (control.notesOf s).mAdded) \ (control.notesOf s).mRemoved :=
        heldAfter_notifyServices hmonitor hregistered
      rw [hheld, forall_prop_of_true rfl, forall_prop_of_true rfl, h.told_iff]
      apply and_congr_right
      intro hdisjoint
      rw [h.told_iff.mpr hdisjoint]
      apply ih
      · exact hmonitor
      · exact hregistered
      · exact hfriends
      · exact pending_self
    · have htells : Tells s control (machine.next control input) := tells_next control hinput
      rw [heldAfter_emit hfriends hinput, and_congr (iff_of_true _ _)]
      · apply ih
        · rw [htells.monitors]
          exact hmonitor
        · rw [htells.monitors]
          exact hregistered
        · exact htells.friends hfriends
        · exact htells.pending held h
      · exact fun heq => absurd heq hinput
      · exact fun heq => absurd heq hinput

/-- After each notification a monitor of a service holds the connected peers, if and only if at each
notification nobody who has left the service since the one before is connected to it again. -/
theorem follows_iff (setup : List (Setup π μ)) (inputs : List (Input π))
    (hmonitor : ∀ e ∈ (start setup : ServiceControl π μ).mMonitors.toList, e.2 = monitor → e.1 = s)
    (hregistered : (s, monitor) ∈ (start setup : ServiceControl π μ).mMonitors.toList) :
  Follows monitor s ∅ (start setup) inputs ↔ machine.Along (NoReturn s) (start setup) inputs
  := by
  have hfresh := fresh_start (π := π) (μ := μ) setup
  apply Pending.followsFrom_iff hmonitor hregistered
  · rw [hfresh.friends]
    intro peer hpeer
    exact absurd hpeer List.not_mem_nil
  · rw [getPeersConnected, notesOf, hfresh.peers, hfresh.notifications]
    exact pending_self

/-- The chat service, whose monitor is told of a peer that comes. -/
theorem follows_iff_chat :
  let own : RsServiceInfo := ⟨"chat", 0x02001200, 1, 0, 1, 0⟩
  let setup := [Setup.registerService own true, .registerServiceMonitor () 0x02001200]
  let inputs := [Input.updateServicesProvided 1 ⟨1, OrdMap.empty.insert 0x02001200 own⟩,
    .notifyServices]
  Follows () 0x02001200 ∅ (start setup : ServiceControl Nat Unit) inputs ↔
    machine.Along (NoReturn 0x02001200) (start setup : ServiceControl Nat Unit) inputs
  := follows_iff _ _ (by decide) (by decide)

/-- A peer that leaves the chat service and comes back between two notifications is lost. -/
theorem not_follows_return :
  let own : RsServiceInfo := ⟨"chat", 0x02001200, 1, 0, 1, 0⟩
  let provided := Input.updateServicesProvided 1 ⟨1, OrdMap.empty.insert 0x02001200 own⟩
  let setup := [Setup.registerService own true, .registerServiceMonitor () 0x02001200]
  ¬Follows () 0x02001200 ∅ (start setup : ServiceControl Nat Unit)
    [provided, .notifyServices, .removePeer 1, provided, .notifyServices]
  := by
  intro own provided setup h
  have hlost := h [provided, .notifyServices, .removePeer 1, provided] [] rfl
  revert hlost
  decide +kernel

end Follows

end ServiceControl

end Services
