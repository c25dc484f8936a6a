import RetroShare.GenExchange.Disposal

/-!
# What becomes of the groups

Every group that is received is given to the data store, handed over as an update or deleted, once,
and not touched afterwards.  The attempts of a group that waits for the key of its author are not
counted, so that it waits as long as the key is missing.  `disposed_of_orderly` says when the
messages and the groups of a run are disposed of in time.
-/

namespace GenExchange

open Lifetimes

/-- The group that an event is about. -/
def GrpEvent.object : GrpEvent → Nat
  | .use obj => obj
  | .delete obj => obj
  | .storeGroup grp _ => grp.obj
  | .update grp => grp.obj

/-- Whether an event ends the group. -/
def GrpEvent.isFinal : GrpEvent → Bool
  | .use _ => false
  | .delete _ => true
  | .storeGroup _ _ => true
  | .update _ => true

/-- The groups that are kept. -/
def GrpReception.objects (s : GrpReception) : List Nat := s.mReceivedGrps.map (·.mItem.obj)

/-! ### Arrival -/

variable (s : GrpReception)

theorem notifyNewGroup_cases (grp : RsNxsGrp) :
  s.notifyNewGroup grp = (s, [.delete grp.obj]) ∨
    s.notifyNewGroup grp =
      ({ s with mReceivedGrps := s.mReceivedGrps ++ [⟨grp, grp.grpId, 0⟩] }, [])
  := by
  rw [GrpReception.notifyNewGroup]
  split
  · exact .inl rfl
  · exact .inr rfl

theorem perm_notifyNewGroups (groups : List RsNxsGrp) :
  (ended GrpEvent.object GrpEvent.isFinal (s.notifyNewGroups groups).2 ++
    (s.notifyNewGroups groups).1.objects).Perm (s.objects ++ groups.map (·.obj))
  := by
  rw [List.perm_iff_count]
  intro obj
  induction groups generalizing s with
  | nil => simp [GrpReception.notifyNewGroups, ended]
  | cons grp groups ih =>
    have hfirst : ((ended GrpEvent.object GrpEvent.isFinal (s.notifyNewGroup grp).2) ++
        (s.notifyNewGroup grp).1.objects).count obj = (s.objects ++ [grp.obj]).count obj := by
      rcases notifyNewGroup_cases s grp with heq | heq <;>
        simp [heq, ended, GrpEvent.isFinal, GrpEvent.object, GrpReception.objects,
          List.filter_cons, List.count_cons, Nat.add_comm]
    have hrest := ih (s.notifyNewGroup grp).1
    simp only [GrpReception.notifyNewGroups, ended_append, List.count_append, List.map_cons,
      List.count_cons, List.count_nil] at *
    omega

theorem object_sublist_notifyNewGroups (groups : List RsNxsGrp) :
  ((s.notifyNewGroups groups).2.map GrpEvent.object).Sublist (groups.map (·.obj))
  := by
  induction groups generalizing s with
  | nil => exact List.Sublist.slnil
  | cons grp groups ih =>
    rw [GrpReception.notifyNewGroups, List.map_append, List.map_cons]
    rcases notifyNewGroup_cases s grp with heq | heq
    · rw [heq]
      exact (ih s).cons_cons _
    · rw [heq]
      exact (ih _).cons _

/-! ### A call of `processRecvdGroups` -/

section Call

variable {service : Service} {answers : GrpAnswers} {event : GrpEvent}

/-- What a call does. -/
theorem processRecvdGroups_eq (s : GrpReception) :
  s.processRecvdGroups service answers =
    (⟨s.mReceivedGrps.filter fun e => (grpOutcome service answers e).isKept,
      s.mGroupUpdates ++ s.mReceivedGrps.filterMap fun e =>
        (grpOutcome service answers e).updated e.mItem⟩,
      (s.mReceivedGrps.flatMap fun e => (grpOutcome service answers e).events e.mItem) ++
        (s.mReceivedGrps.filterMap fun e => (grpOutcome service answers e).accepted e.mItem).map
          fun e => .storeGroup e.1 e.2)
  := by
  rw [GrpReception.processRecvdGroups, GrpReception.finish, GrpPass.foldl_step]
  rfl

/-- The ways that groups can go. -/
theorem count_grpOutcomes (obj : Nat) (l : List PendingGrp) :
  (l.map (·.mItem.obj)).count obj =
    (ended GrpEvent.object GrpEvent.isFinal
      (l.flatMap fun e => (grpOutcome service answers e).events e.mItem)).count obj +
      ((l.filterMap fun e => (grpOutcome service answers e).accepted e.mItem).map
        (·.1.obj)).count obj +
      ((l.filter fun e => (grpOutcome service answers e).isKept).map (·.mItem.obj)).count obj
  := by
  induction l with
  | nil => rfl
  | cons e l ih =>
    rw [List.map_cons, List.count_cons, ih, List.flatMap_cons, ended_append, List.count_append]
    cases houtcome : grpOutcome service answers e <;>
      simp [houtcome, GrpOutcome.events, GrpOutcome.accepted, GrpOutcome.isKept, ended,
        GrpEvent.isFinal, GrpEvent.object, List.count_cons, List.filter_cons] <;> omega

theorem perm_processRecvdGroups (s : GrpReception) :
  (ended GrpEvent.object GrpEvent.isFinal (s.processRecvdGroups service answers).2 ++
    (s.processRecvdGroups service answers).1.objects).Perm s.objects
  := by
  rw [List.perm_iff_count]
  intro obj
  have hcount := @count_grpOutcomes service answers obj s.mReceivedGrps
  rw [processRecvdGroups_eq, ended_append, ended_map fun _ => rfl]
  simp only [GrpReception.objects, GrpEvent.object, List.count_append]
  omega

theorem object_of_mem_events {e : PendingGrp}
    (h : event ∈ (grpOutcome service answers e).events e.mItem) :
  event.object = e.mItem.obj
  := by
  cases houtcome : grpOutcome service answers e <;>
    simp only [houtcome, GrpOutcome.events, List.mem_cons, List.not_mem_nil, or_false] at h <;>
    (repeat' rcases h with rfl | h) <;> simp_all [GrpEvent.object]

theorem tidy_processRecvdGroups {s : GrpReception} (hs : s.objects.Nodup) :
  Tidy GrpEvent.object GrpEvent.isFinal (s.processRecvdGroups service answers).2
  := by
  have hended := (List.nodup_append'.1
    ((@perm_processRecvdGroups service answers s).nodup_iff.2 hs)).1
  rw [processRecvdGroups_eq, ended_append, ended_map fun _ => rfl, List.nodup_append'] at hended
  rw [processRecvdGroups_eq, tidy_append]
  refine ⟨?_, ?_, ?_⟩
  · apply tidy_flatMap
    · intro e _
      cases grpOutcome service answers e <;> simp [GrpOutcome.events, Tidy, GrpEvent.isFinal]
    · apply (List.pairwise_map.1 hs).imp
      intro e e' hne event hevent _ event' hevent'
      rwa [object_of_mem_events hevent, object_of_mem_events hevent']
  · apply tidy_of_nodup
    rw [List.map_map]
    exact hended.2.1
  · intro event hevent hlog
    obtain ⟨e, he, rfl⟩ := List.mem_map.1 hevent
    exact hended.2.2 hlog (List.mem_map.2 ⟨e, he, rfl⟩)

theorem object_mem_of_processRecvdGroups {s : GrpReception}
    (h : event ∈ (s.processRecvdGroups service answers).2) :
  event.object ∈ s.objects
  := by
  cases hfinal : event.isFinal with
  | true =>
    apply (@perm_processRecvdGroups service answers s).subset
    exact List.mem_append_left _ (mem_ended.2 ⟨event, h, hfinal, rfl⟩)
  | false =>
    rw [processRecvdGroups_eq] at h
    rcases List.mem_append.1 h with h | h
    · obtain ⟨e, he, hevent⟩ := List.mem_flatMap.1 h
      rw [object_of_mem_events hevent]
      exact List.mem_map_of_mem he
    · obtain ⟨e, -, rfl⟩ := List.mem_map.1 h
      cases hfinal

end Call

/-! ### Runs -/

/-- The groups that arrive. -/
def Input.groups : Input → List Nat
  | .notifyNewMessages _ => []
  | .notifyNewGroups groups => groups.map (·.obj)
  | .processRecvdData _ _ => []

section Run

variable (service : Service)

/-- A call in which a group does not have to wait for the key of its author. -/
def settles (grp : RsNxsGrp) : Input → Bool
  | .processRecvdData answers _ =>
      grp.metaData.all fun metaData =>
        validateGrp service (answers.mGixs grp) grp.grp metaData ≠ .failTryLater
  | _ => false

/-- No group has to wait in seven calls: the key of its author is there in one of them, if it is
needed. -/
def Answered (is : List Input) : Prop :=
  ∀ js ks rest, is = js ++ ks ++ rest → validateMaxAttempts.toNat + 2 ≤ ks.countP Input.isCall →
    ∀ e ∈ ((grpMachine service).run .new js).mReceivedGrps,
      ∃ i ∈ ks, settles service e.mItem i = true

/-- Every group that arrives is given to the data store, handed over as an update or deleted, at the
latest seven calls later, and it is not touched afterwards. -/
def GroupsDisposed (is : List Input) : Prop :=
  Tidy GrpEvent.object GrpEvent.isFinal ((grpMachine service).trace .new is) ∧
    ∀ js groups ks rest, is = js ++ .notifyNewGroups groups :: ks ++ rest →
      validateMaxAttempts.toNat + 2 ≤ ks.countP Input.isCall →
      ∀ grp ∈ groups, grp.obj ∈ ended GrpEvent.object GrpEvent.isFinal
        ((grpMachine service).trace ((grpMachine service).run .new js)
          (.notifyNewGroups groups :: ks))

variable {service} {s : GrpReception} {e : PendingGrp}

/-- No step loses a group. -/
theorem balanced_grpMachine {i : Input} (hobjs : (s.objects ++ i.groups).Nodup) :
  Balanced GrpEvent.object GrpEvent.isFinal (grpMachine service) GrpReception.objects Input.groups
    s i
  := by
  cases i with
  | notifyNewMessages messages =>
    constructor
    case perm => simp [Machine.emit, Machine.next, grpMachine, ended, Input.groups]
    case tidy => exact tidy_nil
    case touches => exact fun _ h => absurd h List.not_mem_nil
  | notifyNewGroups groups =>
    have hsublist := object_sublist_notifyNewGroups s groups
    constructor
    case perm => exact perm_notifyNewGroups s groups
    case tidy => exact tidy_of_nodup ((List.nodup_append'.1 hobjs).2.1.sublist hsublist)
    case touches =>
      intro event hevent
      exact List.mem_append_right _ (hsublist.subset (List.mem_map_of_mem hevent))
  | processRecvdData answers msgAnswers =>
    rw [Input.groups, List.append_nil] at hobjs
    constructor
    case perm =>
      rw [Input.groups, List.append_nil]
      exact perm_processRecvdGroups s
    case tidy => exact tidy_processRecvdGroups hobjs
    case touches =>
      intro event hevent
      exact List.mem_append_left _ (object_mem_of_processRecvdGroups hevent)

theorem mem_notifyNewGroups (groups : List RsNxsGrp) (he : e ∈ s.mReceivedGrps) :
  e ∈ (s.notifyNewGroups groups).1.mReceivedGrps
  := by
  induction groups generalizing s with
  | nil => exact he
  | cons grp groups ih =>
    rw [GrpReception.notifyNewGroups]
    apply ih
    rcases notifyNewGroup_cases s grp with heq | heq
    · rwa [heq]
    · rw [heq]
      exact List.mem_append_left _ he

theorem ended_or_mem_notifyNewGroups {groups : List RsNxsGrp} {grp : RsNxsGrp}
    (hgrp : grp ∈ groups) :
  grp.obj ∈ ended GrpEvent.object GrpEvent.isFinal (s.notifyNewGroups groups).2 ∨
    ∃ e ∈ (s.notifyNewGroups groups).1.mReceivedGrps, e.mItem = grp
  := by
  induction groups generalizing s with
  | nil => cases hgrp
  | cons grp' groups ih =>
    rw [GrpReception.notifyNewGroups, ended_append, List.mem_append]
    rcases List.mem_cons.1 hgrp with rfl | hgrp
    · rcases notifyNewGroup_cases s grp with heq | heq
      · rw [heq]
        exact .inl (.inl List.mem_cons_self)
      · rw [heq]
        right
        refine ⟨⟨grp, grp.grpId, 0⟩, mem_notifyNewGroups groups ?_, rfl⟩
        exact List.mem_append_right _ List.mem_cons_self
    · rcases @ih (s.notifyNewGroup grp').1 hgrp with hended | hmem
      · exact .inl (.inr hended)
      · exact .inr hmem

/-- A call ends a group that does not have to wait, and keeps one that has to. -/
theorem ended_or_kept {answers : GrpAnswers} (msgAnswers : MsgAnswers) (he : e ∈ s.mReceivedGrps) :
  e.mItem.obj ∈ ended GrpEvent.object GrpEvent.isFinal (s.processRecvdGroups service answers).2 ∨
    settles service e.mItem (.processRecvdData answers msgAnswers) = false ∧
      e ∈ (s.processRecvdGroups service answers).1.mReceivedGrps
  := by
  rw [processRecvdGroups_eq]
  cases houtcome : grpOutcome service answers e with
  | keep =>
    right
    constructor
    · obtain ⟨-, metaData, hmeta, hwaits⟩ := grpOutcome_eq_keep.1 houtcome
      simp [settles, hmeta, hwaits]
    · exact List.mem_filter.2 ⟨he, by rw [houtcome]; rfl⟩
  | accept metaData =>
    left
    let stored := noteOriginator e.mItem (markGrpReceived metaData)
    refine mem_ended.2 ⟨.storeGroup e.mItem stored, List.mem_append_right _ ?_, rfl, rfl⟩
    refine List.mem_map.2 ⟨(e.mItem, stored), List.mem_filterMap.2 ⟨e, he, ?_⟩, rfl⟩
    rw [houtcome]
    rfl
  | update metaData =>
    left
    refine mem_ended.2 ⟨.update e.mItem, List.mem_append_left _ ?_, rfl, rfl⟩
    refine List.mem_flatMap.2 ⟨e, he, ?_⟩
    rw [houtcome]
    exact List.mem_cons_of_mem _ List.mem_cons_self
  | reject =>
    left
    refine mem_ended.2 ⟨.delete e.mItem.obj, List.mem_append_left _ ?_, rfl, rfl⟩
    refine List.mem_flatMap.2 ⟨e, he, ?_⟩
    rw [houtcome]
    exact List.mem_cons_of_mem _ List.mem_cons_self

theorem ended_of_settles {ks : List Input} (he : e ∈ s.mReceivedGrps)
    (hsettles : ∃ i ∈ ks, settles service e.mItem i = true) :
  e.mItem.obj ∈ ended GrpEvent.object GrpEvent.isFinal ((grpMachine service).trace s ks)
  := by
  induction ks generalizing s with
  | nil =>
    obtain ⟨i, hi, -⟩ := hsettles
    cases hi
  | cons i ks ih =>
    rw [Machine.trace_cons, ended_append, List.mem_append]
    have hrest (hi : settles service e.mItem i = false) :
        ∃ i ∈ ks, settles service e.mItem i = true := by
      obtain ⟨i', hi', hsettles⟩ := hsettles
      rcases List.mem_cons.1 hi' with rfl | hi'
      · rw [hi] at hsettles
        cases hsettles
      · exact ⟨i', hi', hsettles⟩
    cases i with
    | notifyNewMessages messages => exact .inr (ih he (hrest rfl))
    | notifyNewGroups groups => exact .inr (ih (mem_notifyNewGroups groups he) (hrest rfl))
    | processRecvdData answers msgAnswers =>
      rcases ended_or_kept msgAnswers he with hended | ⟨hwaits, hkept⟩
      · exact .inl hended
      · exact .inr (ih hkept (hrest hwaits))

theorem groupsDisposed_of_answered {is : List Input} (hobjs : (is.flatMap Input.groups).Nodup)
    (hanswered : Answered service is) :
  GroupsDisposed service is
  := by
  constructor
  · have hkept : (GrpReception.new.objects ++ is.flatMap Input.groups).Nodup := hobjs
    have hall : (grpMachine service).Along (fun _ _ => True) .new is :=
      Machine.along_of_forall (fun _ _ => trivial) GrpReception.new is
    apply (ledger_run (P := fun _ => True) _ trivial hall hkept).1
    intro s i _ _ hobjs
    exact ⟨trivial, balanced_grpMachine hobjs⟩
  · rintro js groups ks rest rfl hcalls grp hgrp
    rw [Machine.trace_cons, ended_append, List.mem_append]
    rcases @ended_or_mem_notifyNewGroups ((grpMachine service).run .new js) groups grp hgrp with
      hended | ⟨e, he, rfl⟩
    · exact .inl hended
    · right
      apply ended_of_settles he
      apply hanswered (js ++ [.notifyNewGroups groups]) ks rest (by simp) hcalls
      rw [Machine.run_append]
      exact he

/-- The messages and the groups of a run are disposed of, when its calls are orderly and no group
has to wait in seven of them. -/
theorem disposed_of_orderly {is : List Input} (hmessages : (is.flatMap Input.messages).Nodup)
    (hgroups : (is.flatMap Input.groups).Nodup)
    (horderly : (msgMachine service).Along (Orderly service) (some .new) is)
    (hanswered : Answered service is) :
  MessagesDisposed service is ∧ GroupsDisposed service is
  := by
  constructor
  · exact messagesDisposed_of_orderly hmessages horderly
  · exact groupsDisposed_of_answered hgroups hanswered

end Run

/-! ### Authors whose keys are missing -/

/-- Identities of which no key is known. -/
def noIdentities : RsGixs := ⟨fun _ => false, fun _ => none, fun _ => false, fun _ => .new⟩

/-- A call in which the key of no author of a message is there, and the group `1` is known. -/
def keylessCall (mGixs : RsNxsGrp → Option RsGixs) : Input :=
  .processRecvdData ⟨[], mGixs⟩
    ⟨fun grpId => if grpId = 1 then some (plainGrpMeta 1 0x4) else none, fun _ => [], 0,
      fun _ => some noIdentities⟩

/-- A message of the author `5`. -/
def authoredMsg (obj : Nat) : RsNxsMsg :=
  ⟨obj, 1, 7, [], some ⟨1, 7, 0, 0, 0, 5, OrdMap.empty, [], 0, 0, 0⟩⟩

/-- A group of the author `5`. -/
def authoredGrp : RsNxsGrp := ⟨0, 0, 1, [], 1, some { plainGrpMeta 1 0x4 with mAuthorId := 5 }⟩

/-- A message and a group arrive, and seven calls follow. -/
def authoredRun (messages : List RsNxsMsg) (mGixs : RsNxsGrp → Option RsGixs) : List Input :=
  .notifyNewMessages messages :: .notifyNewGroups [authoredGrp] ::
    List.replicate 7 (keylessCall mGixs)

/-- The signature of an author fails at once where there are no identities. -/
theorem settles_keylessCall (grp : RsNxsGrp) :
  settles openService grp (keylessCall fun _ => none) = true
  := by
  rw [keylessCall, settles, Option.all_eq_true]
  intro metaData _
  rw [validateGrp, validateIdentity]
  split <;> decide

theorem disposed_of_orderly_authored :
  MessagesDisposed openService (authoredRun [authoredMsg 0] fun _ => none) ∧
    GroupsDisposed openService (authoredRun [authoredMsg 0] fun _ => none)
  := by
  apply disposed_of_orderly (by decide) (by decide)
  · rw [authoredRun]
    refine ⟨trivial, trivial, ?_, ?_, ?_, ?_, ?_, ?_, ?_, trivial⟩ <;>
      exact ⟨by unfold KnownGroup; decide, by decide⟩
  · rintro js ks rest his hcalls e -
    have hpos : 0 < ks.countP Input.isCall := lt_of_lt_of_le (by decide) hcalls
    obtain ⟨i, hi, hcall⟩ := List.countP_pos_iff.1 hpos
    use i, hi
    have hmem : i ∈ authoredRun [authoredMsg 0] fun _ => none := by
      rw [his]
      exact List.mem_append_left _ (List.mem_append_right _ hi)
    simp only [authoredRun, List.mem_cons, List.mem_replicate] at hmem
    rcases hmem with rfl | rfl | ⟨-, rfl⟩
    · cases hcall
    · cases hcall
    · exact settles_keylessCall e.mItem

/-- Of two copies of a message that wait the second is lost, and a group waits forever. -/
theorem not_disposed_copies :
  ¬ MessagesDisposed openService (authoredRun [authoredMsg 0, authoredMsg 1] fun _ => none) ∧
    ¬ GroupsDisposed openService (authoredRun [authoredMsg 0] fun _ => some noIdentities)
  := by
  constructor
  · rintro ⟨-, hdue⟩
    have h := hdue [] [authoredMsg 0, authoredMsg 1] _ [] (by simp [authoredRun]; rfl) (by decide)
      (authoredMsg 1) (by decide)
    revert h
    decide
  · rintro ⟨-, hdue⟩
    have h := hdue [.notifyNewMessages [authoredMsg 0]] [authoredGrp] _ []
      (by simp [authoredRun]; rfl) (by decide) authoredGrp List.mem_cons_self
    revert h
    decide

end GenExchange
