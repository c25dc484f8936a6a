import RetroShare.Msg.Service

/-!
# Distant messages

A distant message is queued, given its signer, marked as routed, handed to the global router and
recorded in scopes of the mutex of their own, and the configuration keeps only a part of this.
When no step falls between two of these where it does harm, every marked message is recorded, and
one that the global router has delivered is gone.
-/

namespace Msg

open P3MsgService

/-- The messages that the global router took, with their ids. -/
def handed (history : List Event) : List (GRouterMsgPropagationId × Nat) :=
  history.filterMap fun
    | .sendData id msgId => some (id, msgId)
    | _ => none

/-- The ids of which the global router told that the data was received. -/
def received (history : List Event) : List GRouterMsgPropagationId :=
  history.filterMap fun
    | .received id => some id
    | _ => none

/-- Every distant message that is marked as routed was handed to the global router and is recorded,
and no message waits of which the global router told that it was received. -/
def NoneForgotten (s : System) : Prop :=
  (∀ msgId item, s.svc.msgOutgoing.get? msgId = some item → item.has flagDistant →
    item.has flagRouted →
      ∃ id, s.svc.ongoingMessages.get? id = some msgId ∧ (id, msgId) ∈ handed s.history) ∧
  ∀ id msgId, (id, msgId) ∈ handed s.history → id ∈ received s.history →
    s.svc.msgOutgoing.get? msgId = none

/-- The distant message that is taken from the outbox and not recorded yet. -/
def Task.underWay? : Task → Option Nat
  | .findSigner item => some item.msgId
  | .handOver item _ => some item.msgId
  | .recordOngoing _ msgId => some msgId
  | _ => none

/-- The messages of the configuration that wait have ids, and those that are marked as routed are in
its map of the router. -/
def fileRecorded (file : List ConfigItem) : Bool :=
  file.all fun
    | .msgItem item =>
        !item.has flagPending || (item.msgId ≠ 0 &&
          (!(item.has flagDistant && item.has flagRouted) || file.any fun
            | .grouterMap ongoing_msgs => ongoing_msgs.toList.any fun e => e.2 = item.msgId
            | _ => false))
    | _ => true

/-- No message gets the id of one that was received; its signer is known when it is sent; the router
takes it, under an id of its own, and tells that it was received when it is recorded, if it still
waits; and no configuration is loaded with a message that is marked and not recorded, or that was
received since. -/
def careful (s : System) : Input → Bool
  | .advance call _ outcome =>
      match s.task? call with
      | some (.enqueue item _) =>
          (handed s.history).all fun e => e.2 ≠ item.msgId || e.1 ∉ received s.history
      | some (.findSigner item) => (s.svc.mDistantOutgoingMsgSigners.get? item.msgId).getD 0 ≠ 0
      | some (.handOver _ _) =>
          match outcome with
          | .accepted id =>
              id ∉ received s.history && (handed s.history).all fun e => e.1 ≠ id
          | _ => false
      | _ => true
  | .notifyDataStatus id data_status =>
      data_status ≠ dataStatusReceived || (handed s.history).all fun e =>
        e.1 ≠ id || (s.svc.ongoingMessages.get? id).isSome || (s.svc.msgOutgoing.get? e.2).isNone
  | .restart _ =>
      fileRecorded (s.file.getD []) &&
        (handed s.history).all fun e => e.1 ∉ received s.history || (s.file.getD []).all fun
          | .msgItem item => !item.has flagPending || item.msgId ≠ e.2
          | _ => true
  | _ => true

/-! ### Configuration -/

section Configuration

variable {time : Nat} (svc : P3MsgService) {items : List RsMsgItem}

theorem get?_insertNew {κ ν : Type} [LinearOrder κ] (m : OrdMap κ ν) (k k' : κ) (v : ν) :
  (insertNew m k v).get? k' = if k' = k then some ((m.get? k').getD v) else m.get? k'
  := by
  rw [insertNew]
  split
  case isTrue h =>
    obtain ⟨v', hv'⟩ := Option.isSome_iff_exists.mp h
    split
    case isTrue hk => rw [hk, hv', Option.getD_some]
    case isFalse => rfl
  case isFalse h =>
    rw [OrdMap.get?_insert]
    split
    case isTrue hk =>
      rw [Option.not_isSome_iff_eq_none, ← hk] at h
      rw [h, Option.getD_none]
    case isFalse => rfl

/-- What the first pass of `loadList` leaves, besides what it takes from the map of the router. -/
theorem foldl_loadItem :
  ∀ (load : List ConfigItem) (acc : P3MsgService × List RsMsgItem × OrdMap Nat RsPeerId),
    (load.foldl loadItem acc).1.msgOutgoing = acc.1.msgOutgoing ∧
      (load.foldl loadItem acc).1.imsg = acc.1.imsg ∧
      (load.foldl loadItem acc).2.1 = acc.2.1 ++ load.filterMap fun
        | .msgItem item => some { item with peerId := 0 }
        | _ => none
  | [], acc => by simp
  | .msgItem item :: load, acc => by
      obtain ⟨houtgoing, himsg, hitems⟩ := foldl_loadItem load (loadItem acc (.msgItem item))
      rw [List.foldl_cons]
      refine ⟨houtgoing, himsg, ?_⟩
      rw [hitems, List.filterMap_cons, loadItem, List.append_assoc]
      rfl
  | .srcId msgId srcId :: load, acc => by
      obtain ⟨houtgoing, himsg, hitems⟩ := foldl_loadItem load (loadItem acc (.srcId msgId srcId))
      rw [List.foldl_cons]
      exact ⟨houtgoing, himsg, hitems⟩
  | .grouterMap ongoing_msgs :: load, acc => by
      obtain ⟨houtgoing, himsg, hitems⟩ :=
        foldl_loadItem load (loadItem acc (.grouterMap ongoing_msgs))
      rw [List.foldl_cons]
      exact ⟨houtgoing, himsg, hitems⟩

/-- What `loadList` has put into the boxes, of the items that it has sorted. -/
structure Sorted (items : List RsMsgItem) (svc : P3MsgService) : Prop where
  outgoing : ∀ msgId item, svc.msgOutgoing.get? msgId = some item → item.msgId = msgId ∧
    item.has flagPending ∧
      ∃ mitem ∈ items, mitem.msgFlags = item.msgFlags ∧ (mitem.msgId ≠ 0 → mitem.msgId = msgId)
  imsg : ∀ msgId item, svc.imsg.get? msgId = some item → item.has flagPending = false

theorem loadMsgId_spec (mitem : RsMsgItem) :
  (svc.loadMsgId mitem).1.msgOutgoing = svc.msgOutgoing ∧ (svc.loadMsgId mitem).1.imsg = svc.imsg ∧
    (svc.loadMsgId mitem).1.ongoingMessages = svc.ongoingMessages ∧
    (svc.loadMsgId mitem).2.msgFlags = mitem.msgFlags ∧
    (mitem.msgId ≠ 0 → (svc.loadMsgId mitem).2.msgId = mitem.msgId)
  := by
  rw [loadMsgId]
  split
  case isTrue h => exact ⟨rfl, rfl, rfl, rfl, fun hne => absurd h hne⟩
  case isFalse => exact ⟨rfl, rfl, rfl, rfl, fun _ => rfl⟩

theorem loadPeerId_spec (srcIdMsgMap : OrdMap Nat RsPeerId) (mitem : RsMsgItem) :
  (loadPeerId srcIdMsgMap mitem).1.msgFlags = mitem.msgFlags ∧
    (loadPeerId srcIdMsgMap mitem).1.msgId = mitem.msgId
  := by
  rw [loadPeerId]
  split <;> exact ⟨rfl, rfl⟩

theorem Sorted.sortItem {load : P3MsgService × OrdMap Nat RsPeerId} (h : Sorted items load.1)
    {mitem : RsMsgItem} (hmem : mitem ∈ items) :
  Sorted items (P3MsgService.sortItem load mitem).1
  := by
  obtain ⟨houtgoing, himsg, -, hflags, hid⟩ := loadMsgId_spec load.1 mitem
  obtain ⟨hflags', hid'⟩ := loadPeerId_spec load.2 (load.1.loadMsgId mitem).2
  change Sorted items ((load.1.loadMsgId mitem).1.fileLoaded
    (loadPeerId load.2 (load.1.loadMsgId mitem).2).1)
  rw [fileLoaded]
  split
  case isTrue hpending =>
    constructor
    case outgoing =>
      intro msgId item hget
      rw [OrdMap.get?_insert, houtgoing] at hget
      split at hget
      case isTrue hmsgId =>
        cases hget
        refine ⟨hmsgId.symm, hpending, mitem, hmem, (hflags'.trans hflags).symm, ?_⟩
        intro hne
        rw [hmsgId, hid', hid hne]
      case isFalse => exact h.outgoing msgId item hget
    case imsg =>
      rw [himsg]
      exact h.imsg
  case isFalse hpending =>
    constructor
    case outgoing =>
      rw [houtgoing]
      exact h.outgoing
    case imsg =>
      intro msgId item hget
      rw [OrdMap.get?_insert, himsg] at hget
      split at hget
      case isTrue =>
        cases hget
        simpa using hpending
      case isFalse => exact h.imsg msgId item hget

theorem fileLoaded_ongoingMessages (mitem : RsMsgItem) :
  (svc.fileLoaded mitem).ongoingMessages = svc.ongoingMessages
  := by
  rw [fileLoaded]
  split <;> rfl

theorem Sorted.foldl :
  ∀ {rest : List RsMsgItem} {load : P3MsgService × OrdMap Nat RsPeerId}, Sorted items load.1 →
    (∀ mitem ∈ rest, mitem ∈ items) →
    Sorted items (rest.foldl P3MsgService.sortItem load).1 ∧
      (rest.foldl P3MsgService.sortItem load).1.ongoingMessages = load.1.ongoingMessages
  | [], _, h, _ => ⟨h, rfl⟩
  | mitem :: rest, load, h, hmem => by
      rw [List.forall_mem_cons] at hmem
      obtain ⟨hsorted, hongoing⟩ := (h.sortItem hmem.1).foldl hmem.2
      rw [List.foldl_cons]
      refine ⟨hsorted, hongoing.trans ?_⟩
      obtain ⟨-, -, hsame, -⟩ := loadMsgId_spec load.1 mitem
      exact (fileLoaded_ongoingMessages _ _).trans hsame

/-- What is no map of the router leaves the map as it is. -/
theorem foldl_loadItem_ongoingMessages :
  ∀ {load : List ConfigItem} (acc : P3MsgService × List RsMsgItem × OrdMap Nat RsPeerId),
    (∀ ongoing_msgs, .grouterMap ongoing_msgs ∉ load) →
    (load.foldl loadItem acc).1.ongoingMessages = acc.1.ongoingMessages
  | [], _, _ => rfl
  | c :: load, acc, h => by
      have hload : ∀ ongoing_msgs, .grouterMap ongoing_msgs ∉ load :=
        fun ongoing_msgs hmem => h ongoing_msgs (List.mem_cons_of_mem c hmem)
      rw [List.foldl_cons, foldl_loadItem_ongoingMessages _ hload]
      cases c with
      | msgItem item => rfl
      | srcId msgId srcId => rfl
      | grouterMap ongoing_msgs => exact absurd List.mem_cons_self (h ongoing_msgs)

theorem foldl_insertNew_empty {κ ν : Type} [LinearOrder κ] (m : OrdMap κ ν) :
  m.toList.foldl (fun m e => insertNew m e.1 e.2) .empty = m
  := by
  apply OrdMap.ext_get?
  intro k
  rw [OrdMap.get?_foldl (g := fun _ v v' => some (v'.getD v))]
  · rw [OrdMap.get?_empty]
    cases m.get? k <;> rfl
  · intro m e k'
    rw [get?_insertNew]

/-- The messages of a service, as the file has them. -/
def savedItems (svc : P3MsgService) : List RsMsgItem :=
  (svc.imsg.toList ++ svc.msgOutgoing.toList).map fun e => { e.2 with peerId := 0 }

theorem loadList_saveList (time : Nat) (svc : P3MsgService) :
  Sorted (savedItems svc) ((P3MsgService.new time).loadList svc.saveList) ∧
    ((P3MsgService.new time).loadList svc.saveList).ongoingMessages = svc.ongoingMessages
  := by
  obtain ⟨houtgoing, himsg, hitems⟩ := foldl_loadItem svc.saveList (.new time, [], .empty)
  have hongoing : (svc.saveList.foldl loadItem (.new time, [], .empty)).1.ongoingMessages =
      svc.ongoingMessages := by
    rw [saveList, List.foldl_append, List.foldl_cons, List.foldl_nil, loadItem,
      foldl_loadItem_ongoingMessages]
    · exact foldl_insertNew_empty svc.ongoingMessages
    · simp
  have hlist : (svc.saveList.foldl loadItem (.new time, [], .empty)).2.1 = savedItems svc := by
    rw [hitems]
    simp [saveList, savedItems, List.filterMap_map]
  have hsorted : Sorted (savedItems svc)
      (svc.saveList.foldl loadItem (.new time, [], .empty)).1 := by
    constructor
    case outgoing =>
      rw [houtgoing]
      simp [P3MsgService.new]
    case imsg =>
      rw [himsg]
      simp [P3MsgService.new]
  rw [loadList]
  generalize svc.saveList.foldl loadItem (.new time, [], .empty) = load at *
  obtain ⟨svc', items, srcIdMsgMap⟩ := load
  have hfold := @Sorted.foldl (savedItems svc) items (svc', srcIdMsgMap) hsorted
    fun mitem hmem => hlist ▸ hmem
  obtain ⟨hresult, hsame⟩ := hfold
  exact ⟨⟨hresult.outgoing, hresult.imsg⟩, hsame.trans hongoing⟩

end Configuration

/-! ### Invariant -/

/-- What the items of a task are like. -/
def Task.Proper (handed : List (GRouterMsgPropagationId × Nat)) : Task → Prop
  | .newMsgId item _ => item.has flagRouted = false
  | .enqueue item _ => item.has flagRouted = false
  | .newOwnMsgId item => item.has flagPending = false
  | .fileOwnMsg item => item.has flagPending = false
  | .recordOngoing id msgId => (id, msgId) ∈ handed
  | _ => True

/-- The boxes and the records of a service: the messages have their keys as ids, those of the inbox
do not wait, and what is recorded was handed over. -/
structure P3MsgService.Ordered (svc : P3MsgService)
    (handed : List (GRouterMsgPropagationId × Nat)) : Prop where
  key : ∀ msgId item, svc.msgOutgoing.get? msgId = some item → item.msgId = msgId
  imsg : ∀ msgId item, svc.imsg.get? msgId = some item → item.has flagPending = false
  ongoing : ∀ id msgId, svc.ongoingMessages.get? id = some msgId → (id, msgId) ∈ handed

/-- A message that is marked as routed is recorded, or satisfies `P`. -/
def P3MsgService.Recorded (svc : P3MsgService) (P : Nat → Prop) : Prop :=
  ∀ msgId item, svc.msgOutgoing.get? msgId = some item → item.has flagDistant →
    item.has flagRouted → (∃ id, svc.ongoingMessages.get? id = some msgId) ∨ P msgId

/-- A task is to record the message. -/
def UnderWay (tasks : List Task) (msgId : Nat) : Prop :=
  ∃ task ∈ tasks, task.underWay? = some msgId

theorem UnderWay.append {old new rest : List Task} {msgId : Nat}
    (h : ∀ task ∈ old, ∀ msgId, task.underWay? = some msgId → UnderWay new msgId)
    (hunder : UnderWay (old ++ rest) msgId) :
  UnderWay (new ++ rest) msgId
  := by
  obtain ⟨task, htask, hmsgId⟩ := hunder
  rcases List.mem_append.mp htask with htask | htask
  · obtain ⟨task', htask', hmsgId'⟩ := h task htask msgId hmsgId
    exact ⟨task', List.mem_append_left rest htask', hmsgId'⟩
  · exact ⟨task, List.mem_append_right new htask, hmsgId⟩

/-- The invariant: a message that is marked as routed is recorded or under way. -/
structure Tracked (s : System) : Prop where
  ordered : s.svc.Ordered (handed s.history)
  recorded : s.svc.Recorded (UnderWay s.tasks)
  answered : ∀ id msgId, (id, msgId) ∈ handed s.history → id ∈ received s.history →
    s.svc.msgOutgoing.get? msgId = none
  unique : ∀ id msgId msgId', (id, msgId) ∈ handed s.history → (id, msgId') ∈ handed s.history →
    msgId = msgId'
  proper : ∀ task ∈ s.tasks, task.Proper (handed s.history)
  file : ∀ items, s.file = some items → ∃ svc : P3MsgService, items = svc.saveList ∧
    svc.Ordered (handed s.history)

theorem Tracked.noneForgotten {s : System} (h : Tracked s) (hidle : s.Idle) :
  NoneForgotten s
  := by
  refine ⟨?_, h.answered⟩
  intro msgId item hget hdistant hrouted
  rcases h.recorded msgId item hget hdistant hrouted with ⟨id, hid⟩ | ⟨task, htask, -⟩
  · exact ⟨id, hid, h.ordered.ongoing id msgId hid⟩
  · rw [hidle.tasks_eq_nil] at htask
    cases htask

variable {H' H : List (GRouterMsgPropagationId × Nat)}

theorem Task.Proper.mono (hsub : H ⊆ H') {task : Task} (h : task.Proper H) :
  task.Proper H'
  := by
  cases task with
  | recordOngoing id msgId => exact hsub h
  | _ => exact h

theorem P3MsgService.Ordered.mono (hsub : H ⊆ H') {svc : P3MsgService} (h : svc.Ordered H) :
  svc.Ordered H'
  := by
  refine ⟨h.key, h.imsg, ?_⟩
  intro id msgId hget
  exact hsub (h.ongoing id msgId hget)

section Steps

variable {ownId : RsPeerId} {s s' : System} (svc : P3MsgService) {id : GRouterMsgPropagationId}
  {item item' : RsMsgItem} {rest : List Task} (msgId : Nat) {msgId' time : Nat}
  {isPeerConnected : RsPeerId → Bool}

/-- A step that changes neither the records nor what was handed over and received, and no message
besides its other flags. -/
theorem Tracked.of_perm (h : Tracked s) (old new rest : List Task)
    (htasks : s.tasks.Perm (old ++ rest)) (htasks' : s'.tasks.Perm (new ++ rest))
    (hfile : s'.file = s.file) (hhanded : handed s'.history = handed s.history)
    (hreceived : received s'.history = received s.history)
    (hproper : (∀ task ∈ old, task.Proper (handed s.history)) →
      ∀ task ∈ new, task.Proper (handed s.history))
    (hordered : s'.svc.Ordered (handed s.history))
    (hkeys : ∀ e ∈ handed s.history, e.1 ∈ received s.history →
      s.svc.msgOutgoing.get? e.2 = none → s'.svc.msgOutgoing.get? e.2 = none)
    (hrecorded : s.svc.Recorded (UnderWay (old ++ rest)) →
      s'.svc.Recorded (UnderWay (new ++ rest))) :
  Tracked s'
  := by
  have hunder : ∀ {tasks tasks' : List Task}, tasks.Perm tasks' →
      UnderWay tasks = UnderWay tasks' := by
    intro tasks tasks' hperm
    funext msgId
    simp [UnderWay, hperm.mem_iff]
  constructor
  case ordered =>
    rw [hhanded]
    exact hordered
  case recorded =>
    rw [hunder htasks']
    apply hrecorded
    rw [← hunder htasks]
    exact h.recorded
  case answered =>
    intro id msgId hmem hid
    rw [hhanded] at hmem
    rw [hreceived] at hid
    exact hkeys (id, msgId) hmem hid (h.answered id msgId hmem hid)
  case unique =>
    rw [hhanded]
    exact h.unique
  case proper =>
    intro task htask
    rw [hhanded]
    rw [htasks'.mem_iff, List.mem_append] at htask
    rcases htask with htask | htask
    · apply hproper _ task htask
      intro task' htask'
      exact h.proper task' (htasks.mem_iff.mpr (List.mem_append_left rest htask'))
    · exact h.proper task (htasks.mem_iff.mpr (List.mem_append_right old htask))
  case file =>
    rw [hfile, hhanded]
    exact h.file

/-- A step that leaves the boxes and the records as they are. -/
theorem Tracked.of_same (h : Tracked s) (old new rest : List Task)
    (htasks : s.tasks.Perm (old ++ rest)) (htasks' : s'.tasks.Perm (new ++ rest))
    (hfile : s'.file = s.file) (hhanded : handed s'.history = handed s.history)
    (hreceived : received s'.history = received s.history)
    (hsvc : s'.svc.msgOutgoing = s.svc.msgOutgoing ∧ s'.svc.imsg = s.svc.imsg ∧
      s'.svc.ongoingMessages = s.svc.ongoingMessages)
    (hproper : (∀ task ∈ old, task.Proper (handed s.history)) →
      ∀ task ∈ new, task.Proper (handed s.history))
    (hunder : ∀ task ∈ old, ∀ msgId, task.underWay? = some msgId → UnderWay new msgId) :
  Tracked s'
  := by
  obtain ⟨houtgoing, himsg, hongoing⟩ := hsvc
  apply h.of_perm old new rest htasks htasks' hfile hhanded hreceived hproper
  case hordered =>
    constructor
    case key =>
      rw [houtgoing]
      exact h.ordered.key
    case imsg =>
      rw [himsg]
      exact h.ordered.imsg
    case ongoing =>
      rw [hongoing]
      exact h.ordered.ongoing
  case hkeys =>
    rw [houtgoing]
    exact fun _ _ _ hnone => hnone
  case hrecorded =>
    intro hrecorded msgId item hget hdistant hrouted
    rw [houtgoing] at hget
    rw [hongoing]
    apply (hrecorded msgId item hget hdistant hrouted).imp_right
    exact UnderWay.append hunder

theorem messageToTrash_imsg (bTrash : Bool)
    (hget : (svc.messageToTrash msgId bTrash).1.imsg.get? msgId' = some item') :
  ∃ item, svc.imsg.get? msgId' = some item ∧ item'.has flagPending = item.has flagPending
  := by
  have hsame : svc.imsg.get? msgId' = some item' →
      ∃ item, svc.imsg.get? msgId' = some item ∧ item'.has flagPending = item.has flagPending :=
    fun hget => ⟨item', hget, rfl⟩
  rw [P3MsgService.messageToTrash] at hget
  split at hget
  case h_1 mi hmi =>
    split at hget
    case isTrue => exact hsame hget
    case isFalse =>
      rcases OrdMap.get?_insert_iff.mp hget with ⟨heq, rfl⟩ | ⟨-, hget⟩
      · rw [heq]
        refine ⟨mi, hmi, ?_⟩
        cases bTrash with
        | true => exact mi.has_set_of_and_eq_zero (by decide)
        | false => exact RsMsgItem.has_unset (by decide)
      · exact hsame hget
  case h_2 => split at hget <;> exact hsame hget
  case h_3 => exact hsame hget

theorem messageToTrash_ongoingMessages (bTrash : Bool) :
  (svc.messageToTrash msgId bTrash).1.ongoingMessages = svc.ongoingMessages
  := by
  rw [P3MsgService.messageToTrash]
  split
  case h_1 => split <;> rfl
  case h_2 => split <;> rfl
  case h_3 => rfl

/-- `MessageToTrash` leaves the waiting messages with their ids, and marked or not as they were. -/
theorem messageToTrash_msgOutgoing (bTrash : Bool)
    (hget : (svc.messageToTrash msgId bTrash).1.msgOutgoing.get? msgId' = some item') :
  ∃ item, svc.msgOutgoing.get? msgId' = some item ∧ item'.msgId = item.msgId ∧
    item'.has flagDistant = item.has flagDistant ∧ item'.has flagRouted = item.has flagRouted
  := by
  rcases svc.messageToTrash_cases msgId bTrash with heq | ⟨item, flags, hitem, heq, hflags⟩
  · rw [heq] at hget
    exact ⟨item', hget, rfl, rfl, rfl⟩
  · rw [heq] at hget
    rcases OrdMap.get?_insert_iff.mp hget with ⟨hmsgId, rfl⟩ | ⟨-, hget⟩
    · rw [hmsgId]
      exact ⟨item, hitem, rfl, hflags flagDistant (by decide) (by decide),
        hflags flagRouted (by decide) (by decide)⟩
    · exact ⟨item', hget, rfl, rfl, rfl⟩

theorem Tracked.messageToTrash (h : Tracked s) (msgId : Nat) (bTrash : Bool) :
  Tracked (s.apply ownId (.messageToTrash msgId bTrash))
  := by
  have htasks' : (s.apply ownId (.messageToTrash msgId bTrash)).tasks = s.tasks ++
      (if (s.svc.messageToTrash msgId bTrash).2 then [.collect] else []) := by
    rw [System.apply]
    cases hchanged : (s.svc.messageToTrash msgId bTrash).2 <;> simp [System.tasks, hchanged]
  have hcollect : ∀ task ∈
      (if (s.svc.messageToTrash msgId bTrash).2 then [Task.collect] else []), task = .collect := by
    intro task htask
    split at htask
    case isTrue => exact List.mem_singleton.mp htask
    case isFalse => cases htask
  apply h.of_perm [] (if (s.svc.messageToTrash msgId bTrash).2 then [.collect] else []) s.tasks
  case htasks => exact List.Perm.refl _
  case htasks' =>
    rw [htasks']
    exact List.perm_append_comm
  case hfile => rfl
  case hhanded => rfl
  case hreceived => rfl
  case hproper =>
    intro _ task htask
    rw [hcollect task htask]
    trivial
  case hordered =>
    constructor
    case key =>
      intro msgId' item' hget
      obtain ⟨item, hitem, hid, -⟩ := messageToTrash_msgOutgoing s.svc msgId bTrash hget
      rw [hid]
      exact h.ordered.key msgId' item hitem
    case imsg =>
      intro msgId' item' hget
      obtain ⟨item, hitem, hpending⟩ := messageToTrash_imsg s.svc msgId bTrash hget
      rw [hpending]
      exact h.ordered.imsg msgId' item hitem
    case ongoing =>
      intro id msgId' hget
      apply h.ordered.ongoing id msgId'
      rwa [← messageToTrash_ongoingMessages s.svc msgId bTrash]
  case hkeys =>
    intro e _ _ hnone
    cases hget : (s.apply ownId (.messageToTrash msgId bTrash)).svc.msgOutgoing.get? e.2 with
    | none => rfl
    | some item' =>
      obtain ⟨item, hitem, -⟩ := messageToTrash_msgOutgoing s.svc msgId bTrash hget
      rw [hnone] at hitem
      cases hitem
  case hrecorded =>
    intro hrecorded msgId' item' hget hdistant hrouted
    obtain ⟨item, hitem, -, hsame, hsame'⟩ := messageToTrash_msgOutgoing s.svc msgId bTrash hget
    rw [hsame] at hdistant
    rw [hsame'] at hrouted
    have hongoing : (s.apply ownId (.messageToTrash msgId bTrash)).svc.ongoingMessages =
        s.svc.ongoingMessages := messageToTrash_ongoingMessages s.svc msgId bTrash
    rw [hongoing]
    apply (hrecorded msgId' item hitem hdistant hrouted).imp_right
    apply UnderWay.append
    simp

theorem Tracked.saveList (h : Tracked s) :
  Tracked (s.apply ownId .saveList)
  := by
  refine ⟨h.ordered, h.recorded, h.answered, h.unique, h.proper, ?_⟩
  rintro items ⟨⟩
  exact ⟨s.svc, rfl, h.ordered⟩

theorem Tracked.notifyDataStatus (h : Tracked s) {data_status : UInt32}
    (hcareful : careful s (.notifyDataStatus id data_status)) :
  Tracked (s.apply ownId (.notifyDataStatus id data_status))
  := by
  have hhanded : handed (s.apply ownId (.notifyDataStatus id data_status)).history =
      handed s.history := by
    simp only [System.apply, handed]
    split <;> simp
  have hsame : ∀ {msgId item},
      (s.svc.notifyDataStatus id data_status).msgOutgoing.get? msgId = some item →
        s.svc.msgOutgoing.get? msgId = some item := by
    intro msgId item hget
    rw [P3MsgService.notifyDataStatus] at hget
    split at hget
    case isTrue => exact hget
    case isFalse =>
      split at hget
      case isTrue => exact hget
      case isFalse =>
        split at hget
        case h_1 => exact hget
        case h_2 => exact OrdMap.get?_of_get?_erase hget
  have hrest : (s.svc.notifyDataStatus id data_status).imsg = s.svc.imsg ∧
      (s.svc.notifyDataStatus id data_status).ongoingMessages = s.svc.ongoingMessages := by
    rw [P3MsgService.notifyDataStatus]
    split
    case isTrue => exact ⟨rfl, rfl⟩
    case isFalse =>
      split
      case isTrue => exact ⟨rfl, rfl⟩
      case isFalse => split <;> exact ⟨rfl, rfl⟩
  constructor
  case ordered =>
    rw [hhanded]
    refine ⟨fun msgId item hget => h.ordered.key msgId item (hsame hget), ?_, ?_⟩
    · rw [System.apply, hrest.1]
      exact h.ordered.imsg
    · rw [System.apply, hrest.2]
      exact h.ordered.ongoing
  case recorded =>
    intro msgId item hget hdistant hrouted
    rw [System.apply, hrest.2]
    exact h.recorded msgId item (hsame hget) hdistant hrouted
  case answered =>
    intro id' msgId hmem hid
    rw [hhanded] at hmem
    have hnone : s.svc.msgOutgoing.get? msgId = none →
        (s.svc.notifyDataStatus id data_status).msgOutgoing.get? msgId = none := by
      intro hnone
      cases hget : (s.svc.notifyDataStatus id data_status).msgOutgoing.get? msgId with
      | none => rfl
      | some item =>
        rw [hsame hget] at hnone
        cases hnone
    simp only [System.apply, received, List.filterMap_append, List.mem_append] at hid
    rcases hid with hid | hid
    · exact hnone (h.answered id' msgId hmem hid)
    · -- the message is erased, if it waits
      split at hid
      case isFalse => cases hid
      case isTrue hstatus =>
        obtain rfl : id' = id := by simpa using hid
        have hchecked : ∀ id msgId, (id, msgId) ∈ handed s.history →
            (¬id = id' ∨ (s.svc.ongoingMessages.get? id').isSome) ∨
              s.svc.msgOutgoing.get? msgId = none := by
          simpa [careful, hstatus] using hcareful
        rcases hchecked id' msgId hmem with (hne | hrecorded) | hnot
        · exact absurd rfl hne
        · obtain ⟨msg_id, hget⟩ := Option.isSome_iff_exists.mp hrecorded
          have heq := h.unique id' msg_id msgId (h.ordered.ongoing id' msg_id hget) hmem
          rw [System.apply, P3MsgService.notifyDataStatus, hstatus, if_neg (by decide),
            if_neg (not_not_intro rfl), hget, heq]
          exact OrdMap.get?_erase_self msgId
        · exact hnone hnot
  case unique =>
    rw [hhanded]
    exact h.unique
  case proper =>
    rw [hhanded]
    exact h.proper
  case file =>
    rw [hhanded]
    exact h.file

/-- The outbox after a restart is what was saved of it, when the messages have ids. -/
theorem get?_msgOutgoing_loadList {svc : P3MsgService} (h : svc.Ordered H)
    (hfile : fileRecorded svc.saveList) {msgId : Nat}
    (hget : ((P3MsgService.new time).loadList svc.saveList).msgOutgoing.get? msgId = some item) :
  item.msgId = msgId ∧
    ∃ mitem, svc.msgOutgoing.get? msgId = some mitem ∧ mitem.msgFlags = item.msgFlags ∧
      mitem.has flagPending ∧ (mitem.has flagDistant → mitem.has flagRouted →
        ∃ id, svc.ongoingMessages.get? id = some msgId)
  := by
  obtain ⟨hid, hpending, mitem, hmem, hflags, hmsgId⟩ :=
    (loadList_saveList time svc).1.outgoing msgId item hget
  rw [savedItems, List.map_append, List.mem_append, List.mem_map, List.mem_map] at hmem
  rcases hmem with ⟨e, he, rfl⟩ | ⟨e, he, rfl⟩
  · have hnot := h.imsg e.1 e.2 (OrdMap.mem_toList.mp he)
    have hsame : e.2.has flagPending = item.has flagPending := by
      rw [RsMsgItem.has, RsMsgItem.has]
      exact hflags ▸ rfl
    rw [hsame, hpending] at hnot
    cases hnot
  · have hsaved := OrdMap.mem_toList.mp he
    have hwaits : e.2.has flagPending = true := by
      rw [RsMsgItem.has, hflags]
      exact hpending
    have hchecked := List.all_eq_true.mp hfile (.msgItem e.2) (by
      simp only [P3MsgService.saveList, List.mem_append, List.mem_map]
      exact .inl (.inr ⟨e, he, rfl⟩))
    simp only [hwaits, Bool.not_true, Bool.false_or, Bool.and_eq_true, decide_eq_true_eq]
      at hchecked
    have heq : e.1 = msgId := (h.key e.1 e.2 hsaved).symm.trans (hmsgId hchecked.1)
    rw [heq] at hsaved
    refine ⟨hid, e.2, hsaved, hflags, hwaits, ?_⟩
    intro hdistant hrouted
    have hrecorded := hchecked.2
    rw [hdistant, hrouted, Bool.and_self, Bool.not_true, Bool.false_or, List.any_eq_true]
      at hrecorded
    obtain ⟨c, hc, hfound⟩ := hrecorded
    cases c with
    | msgItem item => cases hfound
    | srcId msgId srcId => cases hfound
    | grouterMap ongoing_msgs =>
      have hmap : ongoing_msgs = svc.ongoingMessages := by
        simpa [P3MsgService.saveList] using hc
      obtain ⟨e', he', hmsgId'⟩ := List.any_eq_true.mp hfound
      refine ⟨e'.1, ?_⟩
      rw [← hmap, ← h.key msgId e.2 hsaved, ← of_decide_eq_true hmsgId']
      exact OrdMap.mem_toList.mp he'

section

variable (h : Tracked s)

include h

theorem Tracked.restart (hcareful : careful s (.restart time)) :
  Tracked (s.apply ownId (.restart time))
  := by
  cases hfile : s.file with
  | none =>
    have hsvc : (s.apply ownId (.restart time)).svc = .new time := by
      rw [System.apply, hfile]
      rfl
    constructor
    case ordered =>
      rw [hsvc]
      constructor <;> simp [P3MsgService.new]
    case recorded =>
      intro msgId item hget
      rw [hsvc] at hget
      cases hget
    case answered =>
      intro id msgId _ _
      rw [hsvc]
      rfl
    case unique => exact h.unique
    case proper => simp [System.apply, System.tasks]
    case file => exact h.file
  | some items =>
    obtain ⟨svc, rfl, hordered⟩ := h.file items hfile
    have hsvc : (s.apply ownId (.restart time)).svc =
        (P3MsgService.new time).loadList svc.saveList := by
      rw [System.apply, hfile]
      rfl
    rw [careful, hfile, Option.getD_some, Bool.and_eq_true, List.all_eq_true] at hcareful
    constructor
    case ordered =>
      rw [hsvc]
      constructor
      case key =>
        intro msgId item hget
        exact (get?_msgOutgoing_loadList hordered hcareful.1 hget).1
      case imsg => exact (loadList_saveList time svc).1.imsg
      case ongoing =>
        rw [(loadList_saveList time svc).2]
        exact hordered.ongoing
    case recorded =>
      intro msgId item hget hdistant hrouted
      rw [hsvc] at hget ⊢
      obtain ⟨-, mitem, -, hflags, -, hrecorded⟩ :=
        get?_msgOutgoing_loadList hordered hcareful.1 hget
      rw [RsMsgItem.has, ← hflags] at hdistant hrouted
      rw [(loadList_saveList time svc).2]
      exact .inl (hrecorded hdistant hrouted)
    case answered =>
      intro id msgId hmem hid
      rw [hsvc]
      cases hget : ((P3MsgService.new time).loadList svc.saveList).msgOutgoing.get? msgId with
      | none => rfl
      | some item =>
        obtain ⟨-, mitem, hmitem, -, hpending, -⟩ :=
          get?_msgOutgoing_loadList hordered hcareful.1 hget
        exfalso
        have hchecked := hcareful.2 _ hmem
        rw [Bool.or_eq_true, decide_eq_true_eq] at hchecked
        rcases hchecked with hnot | hitems
        · exact hnot hid
        · have hsaved : .msgItem mitem ∈ svc.saveList := by
            simp only [P3MsgService.saveList, List.mem_append, List.mem_map]
            exact .inl (.inr ⟨(msgId, mitem), OrdMap.mem_toList.mpr hmitem, rfl⟩)
          have hitem := List.all_eq_true.mp hitems _ hsaved
          simp [hpending, hordered.key msgId mitem hmitem] at hitem
    case unique => exact h.unique
    case proper => simp [System.apply, System.tasks]
    case file => exact h.file

theorem Tracked.messageSend (info : MessageInfo) :
  Tracked (s.apply ownId (.messageSend info))
  := by
  have hrouted : ∀ toId, ({ info.initMIRsMsg with peerId := toId } : RsMsgItem).has flagRouted =
      false := fun toId => info.initMIRsMsg_has toId (by decide) (by decide)
  have hpending : ∀ toId, ({ info.initMIRsMsg with peerId := toId } : RsMsgItem).has flagPending =
      false := fun toId => info.initMIRsMsg_has toId (by decide) (by decide)
  apply h.of_same [] (P3MsgService.messageSend ownId info) s.tasks
  case htasks => exact List.Perm.refl _
  case htasks' =>
    rw [System.apply, System.tasks_append]
    exact List.perm_append_comm
  case hfile => rfl
  case hhanded => rfl
  case hreceived => rfl
  case hsvc => exact ⟨rfl, rfl, rfl⟩
  case hunder => simp
  case hproper =>
    intro _ task htask
    simp only [P3MsgService.messageSend, List.mem_append, List.mem_map, List.mem_singleton] at htask
    rcases htask with (⟨pit, -, rfl⟩ | ⟨pit, -, rfl⟩) | rfl
    · rw [Task.Proper, MessageInfo.initForPeer, RsMsgItem.has_set_of_and_eq_zero _ (by decide)]
      exact hrouted pit
    · rw [Task.Proper, MessageInfo.initForGxsId]
      split
      case isTrue =>
        rw [RsMsgItem.has_set_of_and_eq_zero _ (by decide),
          RsMsgItem.has_set_of_and_eq_zero _ (by decide)]
        exact hrouted pit
      case isFalse =>
        rw [RsMsgItem.has_set_of_and_eq_zero _ (by decide)]
        exact hrouted pit
    · rw [Task.Proper]
      split
      case isTrue =>
        rw [RsMsgItem.has_set_of_and_eq_zero _ (by decide), MessageInfo.initForPeer,
          RsMsgItem.has_set_of_and_eq_zero _ (by decide)]
        exact hpending ownId
      case isFalse =>
        rw [MessageInfo.initForPeer, RsMsgItem.has_set_of_and_eq_zero _ (by decide)]
        exact hpending ownId

theorem Tracked.enqueue {signer : Option RsGxsId}
    (htasks : s.tasks.Perm (.enqueue item signer :: rest))
    (hfresh : ∀ e ∈ handed s.history, e.1 ∈ received s.history → e.2 ≠ item.msgId)
    (hsvc : s'.svc = s.svc.enqueue ownId item) (hhistory : s'.history = s.history)
    (hfile : s'.file = s.file)
    (htasks' : s'.tasks.Perm ((signer.map fun signer => .recordSigner item.msgId signer).toList ++
      rest)) :
  Tracked s'
  := by
  have hunrouted : (item.set (flagOutgoing ||| flagPending)).has flagRouted = false := by
    rw [RsMsgItem.has_set_of_and_eq_zero _ (by decide)]
    exact h.proper (.enqueue item signer) (htasks.mem_iff.mpr List.mem_cons_self)
  have hsigner : ∀ task ∈ (signer.map fun signer => Task.recordSigner item.msgId signer).toList,
      ∃ signer, task = .recordSigner item.msgId signer := by
    cases signer <;> simp
  apply h.of_perm [.enqueue item signer] _ rest htasks htasks' hfile
  case hhanded => rw [hhistory]
  case hreceived => rw [hhistory]
  case hproper =>
    intro _ task htask
    obtain ⟨signer, rfl⟩ := hsigner task htask
    trivial
  case hordered =>
    rw [hsvc]
    constructor
    case key =>
      intro msgId item' hget
      rw [P3MsgService.enqueue] at hget
      rcases OrdMap.get?_insert_iff.mp hget with ⟨heq, rfl⟩ | ⟨-, hget⟩
      · exact heq.symm
      · exact h.ordered.key msgId item' hget
    case imsg => exact h.ordered.imsg
    case ongoing => exact h.ordered.ongoing
  case hkeys =>
    intro e he hreceived hnone
    rw [hsvc, P3MsgService.enqueue, OrdMap.get?_insert]
    exact (if_neg (hfresh e he hreceived)).trans hnone
  case hrecorded =>
    intro hrecorded msgId item' hget hdistant hrouted
    rw [hsvc] at hget ⊢
    rw [P3MsgService.enqueue] at hget
    rcases OrdMap.get?_insert_iff.mp hget with ⟨-, rfl⟩ | ⟨-, hget⟩
    · rw [hunrouted] at hrouted
      cases hrouted
    · apply (hrecorded msgId item' hget hdistant hrouted).imp_right
      apply UnderWay.append
      simp [Task.underWay?]

theorem Tracked.fileOwnMsg (htasks : s.tasks.Perm (.fileOwnMsg item :: rest))
    (hsvc : s'.svc = s.svc.fileMsg item false) (hhistory : s'.history = s.history)
    (hfile : s'.file = s.file) (htasks' : s'.tasks.Perm ([] ++ rest)) :
  Tracked s'
  := by
  have hpending : (item.set flagOutgoing).has flagPending = false := by
    rw [RsMsgItem.has_set_of_and_eq_zero _ (by decide)]
    exact h.proper (.fileOwnMsg item) (htasks.mem_iff.mpr List.mem_cons_self)
  apply h.of_perm [.fileOwnMsg item] [] rest htasks htasks' hfile
  case hhanded => rw [hhistory]
  case hreceived => rw [hhistory]
  case hproper => simp
  case hordered =>
    rw [hsvc]
    refine ⟨h.ordered.key, ?_, h.ordered.ongoing⟩
    intro msgId item' hget
    simp only [fileMsg, Bool.false_eq_true, if_false, OrdMap.get?_insert] at hget
    split at hget
    case isTrue =>
      cases hget
      exact hpending
    case isFalse => exact h.ordered.imsg msgId item' hget
  case hkeys =>
    rw [hsvc]
    exact fun _ _ _ hnone => hnone
  case hrecorded =>
    intro hrecorded msgId item' hget hdistant hrouted
    rw [hsvc] at hget ⊢
    apply (hrecorded msgId item' hget hdistant hrouted).imp_right
    apply UnderWay.append
    simp [Task.underWay?]

theorem Tracked.collect (htasks : s.tasks.Perm (.collect :: rest))
    (hsvc : s'.svc = (s.svc.collect ownId isPeerConnected).1) (hhistory : s'.history = s.history)
    (hfile : s'.file = s.file)
    (htasks' : s'.tasks.Perm ((s.svc.collect ownId isPeerConnected).2 ++ rest)) :
  Tracked s'
  := by
  have hkept : ∀ {msgId item'},
      (s.svc.collect ownId isPeerConnected).1.msgOutgoing.get? msgId = some item' →
        ∃ item, s.svc.msgOutgoing.get? msgId = some item ∧
          item' = if isSent ownId isPeerConnected item then item.set flagRouted else item := by
    intro msgId item' hget
    rw [P3MsgService.collect, OrdMap.get?_map, OrdMap.get?_filter] at hget
    obtain ⟨item, hitem, rfl⟩ := Option.map_eq_some_iff.mp hget
    exact ⟨item, (Option.filter_eq_some_iff.mp hitem).1, rfl⟩
  apply h.of_perm [.collect] _ rest htasks htasks' hfile
  case hhanded => rw [hhistory]
  case hreceived => rw [hhistory]
  case hproper =>
    intro _ task htask
    obtain ⟨e, -, rfl⟩ := List.mem_map.mp htask
    rw [sendTask]
    split <;> trivial
  case hordered =>
    rw [hsvc]
    refine ⟨?_, h.ordered.imsg, h.ordered.ongoing⟩
    intro msgId item' hget
    obtain ⟨item, hitem, rfl⟩ := hkept hget
    split <;> exact h.ordered.key msgId item hitem
  case hkeys =>
    intro e _ _ hnone
    rw [hsvc]
    cases hget : (s.svc.collect ownId isPeerConnected).1.msgOutgoing.get? e.2 with
    | none => rfl
    | some item' =>
      obtain ⟨item, hitem, -⟩ := hkept hget
      rw [hnone] at hitem
      cases hitem
  case hrecorded =>
    intro hrecorded msgId item' hget hdistant hrouted
    rw [hsvc] at hget ⊢
    obtain ⟨item, hitem, rfl⟩ := hkept hget
    split at hdistant
    case isTrue hsent =>
      -- the message is marked now, and its task follows
      right
      have hdistant' : item.has flagDistant := by
        rwa [RsMsgItem.has_set_of_and_eq_zero _ (by decide)] at hdistant
      refine ⟨sendTask item, List.mem_append_left rest ?_, ?_⟩
      · apply List.mem_map.mpr
        refine ⟨(msgId, item), OrdMap.mem_toList.mpr ?_, rfl⟩
        rw [OrdMap.get?_filter, hitem, Option.filter_some, if_pos hsent]
      · rw [sendTask, if_pos hdistant']
        exact congrArg some (h.ordered.key msgId item hitem)
    case isFalse hsent =>
      rw [if_neg hsent] at hrouted
      apply (hrecorded msgId item hitem hdistant hrouted).imp_right
      apply UnderWay.append
      simp [Task.underWay?]

theorem Tracked.recordOngoing {msgId : Nat}
    (htasks : s.tasks.Perm (.recordOngoing id msgId :: rest))
    (hsvc : s'.svc = { s.svc with ongoingMessages := s.svc.ongoingMessages.insert id msgId })
    (hhistory : s'.history = s.history) (hfile : s'.file = s.file)
    (htasks' : s'.tasks.Perm ([] ++ rest)) :
  Tracked s'
  := by
  have hhanded : (id, msgId) ∈ handed s.history :=
    h.proper (.recordOngoing id msgId) (htasks.mem_iff.mpr List.mem_cons_self)
  apply h.of_perm [.recordOngoing id msgId] [] rest htasks htasks' hfile
  case hhanded => rw [hhistory]
  case hreceived => rw [hhistory]
  case hproper => simp
  case hordered =>
    rw [hsvc]
    refine ⟨h.ordered.key, h.ordered.imsg, ?_⟩
    intro id' msgId' hget
    rcases OrdMap.get?_insert_iff.mp hget with ⟨heq, rfl⟩ | ⟨-, hget⟩
    · rw [heq]
      exact hhanded
    · exact h.ordered.ongoing id' msgId' hget
  case hkeys =>
    rw [hsvc]
    exact fun _ _ _ hnone => hnone
  case hrecorded =>
    intro hrecorded msgId' item hget hdistant hrouted
    rw [hsvc] at hget ⊢
    rcases hrecorded msgId' item hget hdistant hrouted with ⟨id', hid'⟩ | ⟨task, htask, hunder⟩
    · -- an id that is recorded already has the same message
      left
      by_cases heq : id' = id
      · subst heq
        have hmsgId := h.unique id' msgId' msgId (h.ordered.ongoing id' msgId' hid') hhanded
        rw [hmsgId]
        exact ⟨id', OrdMap.get?_insert_self _ _⟩
      · refine ⟨id', ?_⟩
        rw [OrdMap.get?_insert, if_neg heq]
        exact hid'
    · rcases List.mem_cons.mp htask with rfl | htask
      · cases hunder
        exact .inl ⟨id, OrdMap.get?_insert_self _ _⟩
      · exact .inr ⟨task, htask, hunder⟩

theorem Tracked.handOver {signer : RsGxsId} (htasks : s.tasks.Perm (.handOver item signer :: rest))
    (hreceived : id ∉ received s.history) (hfresh : ∀ e ∈ handed s.history, e.1 ≠ id)
    (hsvc : s'.svc = s.svc) (hhistory : s'.history = s.history ++ [.sendData id item.msgId])
    (hfile : s'.file = s.file) (htasks' : s'.tasks.Perm (.recordOngoing id item.msgId :: rest)) :
  Tracked s'
  := by
  have hhanded : handed s'.history = handed s.history ++ [(id, item.msgId)] := by
    rw [hhistory, handed, List.filterMap_append]
    rfl
  have hsame : received s'.history = received s.history := by
    rw [hhistory, received, List.filterMap_append]
    exact List.append_nil _
  have hsub : handed s.history ⊆ handed s'.history := by
    rw [hhanded]
    exact List.subset_append_left _ _
  constructor
  case ordered =>
    rw [hsvc]
    exact h.ordered.mono hsub
  case recorded =>
    intro msgId item' hget hdistant hrouted
    rw [hsvc] at hget ⊢
    apply (h.recorded msgId item' hget hdistant hrouted).imp_right
    rintro ⟨task, htask, hunder⟩
    rcases List.mem_cons.mp (htasks.mem_iff.mp htask) with rfl | htask
    · exact ⟨_, htasks'.mem_iff.mpr List.mem_cons_self, hunder⟩
    · exact ⟨task, htasks'.mem_iff.mpr (List.mem_cons_of_mem _ htask), hunder⟩
  case answered =>
    intro id' msgId hmem hid
    rw [hhanded, List.mem_append, List.mem_singleton] at hmem
    rw [hsame] at hid
    rw [hsvc]
    rcases hmem with hmem | heq
    · exact h.answered id' msgId hmem hid
    · cases heq
      exact absurd hid hreceived
  case unique =>
    intro id' msgId msgId' hmem hmem'
    rw [hhanded, List.mem_append, List.mem_singleton] at hmem hmem'
    rcases hmem with hmem | heq <;> rcases hmem' with hmem' | heq'
    · exact h.unique id' msgId msgId' hmem hmem'
    · cases heq'
      exact absurd rfl (hfresh _ hmem)
    · cases heq
      exact absurd rfl (hfresh _ hmem')
    · cases heq
      cases heq'
      rfl
  case proper =>
    intro task htask
    rcases List.mem_cons.mp (htasks'.mem_iff.mp htask) with rfl | htask
    · rw [Task.Proper, hhanded]
      exact List.mem_append_right _ (List.mem_singleton_self _)
    · exact (h.proper task (htasks.mem_iff.mpr (List.mem_cons_of_mem _ htask))).mono hsub
  case file =>
    intro items hitems
    rw [hfile] at hitems
    obtain ⟨svc, hsaved, hordered⟩ := h.file items hitems
    exact ⟨svc, hsaved, hordered.mono hsub⟩

end

/-- A task that leaves the boxes and the records as they are.  A distant message has a signer. -/
def Task.Keeps (svc : P3MsgService) : Task → Prop
  | .newMsgId _ _ => True
  | .recordSigner _ _ => True
  | .newOwnMsgId _ => True
  | .sendPart _ _ => True
  | .findSigner item => (svc.mDistantOutgoingMsgSigners.get? item.msgId).getD 0 ≠ 0
  | _ => False

theorem Tracked.of_keeps (h : Tracked s) {outcome : Outcome} (task : Task)
    (hkeeps : task.Keeps s.svc)
    (hsvc : s'.svc = (s.svc.perform ownId isPeerConnected outcome task).1)
    (hhistory : s'.history = s.history ++ (s.svc.perform ownId isPeerConnected outcome task).2.2)
    (hfile : s'.file = s.file) (htasks : s.tasks.Perm (task :: rest))
    (htasks' : s'.tasks.Perm ((s.svc.perform ownId isPeerConnected outcome task).2.1 ++ rest)) :
  Tracked s'
  := by
  have hevents : handed (s.svc.perform ownId isPeerConnected outcome task).2.2 = [] ∧
      received (s.svc.perform ownId isPeerConnected outcome task).2.2 = [] := by
    cases task <;> first | exact ⟨rfl, rfl⟩ | exact hkeeps.elim
  have hboxes : (s.svc.perform ownId isPeerConnected outcome task).1.msgOutgoing =
        s.svc.msgOutgoing ∧
      (s.svc.perform ownId isPeerConnected outcome task).1.imsg = s.svc.imsg ∧
      (s.svc.perform ownId isPeerConnected outcome task).1.ongoingMessages =
        s.svc.ongoingMessages := by
    cases task <;> first | exact ⟨rfl, rfl, rfl⟩ | exact hkeeps.elim
  apply h.of_same [task] _ rest htasks htasks' hfile
  case hhanded =>
    rw [hhistory, handed, List.filterMap_append]
    exact (congrArg _ hevents.1).trans (List.append_nil _)
  case hreceived =>
    rw [hhistory, received, List.filterMap_append]
    exact (congrArg _ hevents.2).trans (List.append_nil _)
  case hsvc =>
    rw [hsvc]
    exact hboxes
  case hproper =>
    intro hproper task' htask'
    have htask := hproper task (List.mem_singleton_self task)
    cases task with
    | newMsgId item signer =>
      rw [List.mem_singleton.mp htask']
      exact htask
    | recordSigner msgId signer => cases htask'
    | newOwnMsgId item =>
      rw [List.mem_singleton.mp htask']
      exact htask
    | sendPart item begun =>
      simp only [perform, P3MsgService.sendPart] at htask'
      split at htask'
      case isTrue =>
        rw [List.mem_singleton.mp htask']
        trivial
      case isFalse => cases htask'
    | findSigner item =>
      simp only [perform] at htask'
      rw [if_neg hkeeps] at htask'
      rw [List.mem_singleton.mp htask']
      trivial
    | _ => exact hkeeps.elim
  case hunder =>
    intro task' htask' msgId hunder
    rw [List.mem_singleton.mp htask'] at hunder
    cases task with
    | findSigner item =>
      have hfollowing :
          (s.svc.perform ownId isPeerConnected outcome (.findSigner item)).2.1 =
            [.handOver (item.set flagDistant)
              ((s.svc.mDistantOutgoingMsgSigners.get? item.msgId).getD 0)] := if_neg hkeeps
      rw [hfollowing]
      exact ⟨_, List.mem_singleton_self _, hunder⟩
    | _ => first | exact hkeeps.elim | cases hunder

/-- Every careful step keeps the invariant. -/
theorem Tracked.next (h : Tracked s) {input : Input} (hcareful : careful s input) :
  Tracked (s.apply ownId input)
  := by
  cases input with
  | messageSend info => exact h.messageSend info
  | checkOutgoingMessages =>
    apply h.of_same [] [.collect] s.tasks
    case htasks => exact List.Perm.refl _
    case htasks' =>
      rw [System.apply, System.tasks_append]
      exact List.perm_append_comm
    case hfile => rfl
    case hhanded => rfl
    case hreceived => rfl
    case hsvc => exact ⟨rfl, rfl, rfl⟩
    case hproper => simp [Task.Proper]
    case hunder => simp
  | messageToTrash msgId bTrash => exact h.messageToTrash msgId bTrash
  | notifyDataStatus id data_status => exact h.notifyDataStatus hcareful
  | saveList => exact h.saveList
  | restart time => exact h.restart hcareful
  | advance call isPeerConnected outcome =>
    cases htask : s.task? call with
    | none =>
      rw [System.apply_advance_of_task?_eq_none htask]
      exact h
    | some task =>
      obtain ⟨s', happly, hsvc, hhistory, hfile, htasks, htasks'⟩ :=
        @System.apply_advance ownId s call isPeerConnected outcome task htask
      rw [happly]
      simp only [careful, htask] at hcareful
      cases task with
      | newMsgId item signer =>
        exact h.of_keeps (.newMsgId item signer) trivial hsvc hhistory hfile htasks htasks'
      | enqueue item signer =>
        rw [List.all_eq_true] at hcareful
        apply h.enqueue htasks _ hsvc _ hfile htasks'
        · intro e he hreceived heq
          simpa [hreceived, heq] using hcareful e he
        · exact hhistory.trans (List.append_nil _)
      | recordSigner msgId signer =>
        exact h.of_keeps (.recordSigner msgId signer) trivial hsvc hhistory hfile htasks
          htasks'
      | newOwnMsgId item =>
        exact h.of_keeps (.newOwnMsgId item) trivial hsvc hhistory hfile htasks htasks'
      | fileOwnMsg item =>
        exact h.fileOwnMsg htasks hsvc (hhistory.trans (List.append_nil _)) hfile htasks'
      | collect =>
        exact h.collect htasks hsvc (hhistory.trans (List.append_nil _)) hfile htasks'
      | sendPart item begun =>
        exact h.of_keeps (.sendPart item begun) trivial hsvc hhistory hfile htasks htasks'
      | findSigner item =>
        exact h.of_keeps (.findSigner item) (by simpa [Task.Keeps] using hcareful) hsvc
          hhistory hfile htasks htasks'
      | handOver item signer =>
        cases outcome with
        | notSerialised => cases hcareful
        | refused id => cases hcareful
        | accepted id =>
          rw [Bool.and_eq_true, List.all_eq_true] at hcareful
          apply h.handOver htasks _ _ hsvc hhistory hfile htasks'
          · simpa using hcareful.1
          · simpa using hcareful.2
      | recordOngoing id msgId =>
        exact h.recordOngoing htasks hsvc (hhistory.trans (List.append_nil _)) hfile htasks'

theorem tracked_start (time : Nat) :
  Tracked (.start time)
  := by
  constructor
  case ordered => constructor <;> simp [System.start, P3MsgService.new]
  case recorded =>
    intro msgId item hget
    cases hget
  case answered => exact fun _ _ _ _ => rfl
  case unique => simp [System.start, handed]
  case proper => simp [System.start, System.tasks]
  case file => simp [System.start]

end Steps

/-! ### Runs -/

/-- In a run of careful steps, no message is forgotten, whenever no call is in progress. -/
theorem noneForgotten_run (ownId : RsPeerId) (time : Nat) {inputs : List Input}
    (hinputs : (System.machine ownId).Along (fun s input => careful s input) (System.start time)
      inputs)
    (hidle : ((System.machine ownId).run (System.start time) inputs).Idle) :
  NoneForgotten ((System.machine ownId).run (System.start time) inputs)
  := by
  apply Tracked.noneForgotten _ hidle
  apply Machine.run_of_step (m := System.machine ownId) (P := Tracked)
  · intro s input hs hinput
    exact hs.next hinput
  · exact tracked_start time
  · exact hinputs

/-- A message of the own identity 3 to the distant identity 9. -/
def mailToIdentity : MessageInfo where
  rsgxsid_srcId := 3
  msgflags := 0
  rspeerid_msgto := []
  rspeerid_msgcc := []
  rspeerid_msgbcc := []
  rsgxsid_msgto := [9]
  rsgxsid_msgcc := []
  rsgxsid_msgbcc := []
  title := [77]
  msg := [97]

/-- The next steps of a call. -/
def steps (call n : Nat) : List Input :=
  List.replicate n (.advance call (fun _ => false) (.accepted 77))

/-- A distant message is sent, and received after a restart. -/
theorem noneForgotten_run_received :
  NoneForgotten ((System.machine 1).run (System.start 5)
    (.messageSend mailToIdentity :: steps 0 5 ++ .checkOutgoingMessages :: steps 1 4 ++
      [.saveList, .restart 9, .notifyDataStatus 77 dataStatusReceived]))
  := by
  apply noneForgotten_run <;> decide +kernel

/-- A restart between sending a distant message and the next `checkOutgoingMessages`: the signer is
not saved, so that the message is marked as routed and never handed to the global router. -/
theorem not_noneForgotten_restart :
  ¬∀ (ownId : RsPeerId) (time : Nat) (inputs : List Input),
    ((System.machine ownId).run (System.start time) inputs).Idle →
      NoneForgotten ((System.machine ownId).run (System.start time) inputs)
  := by
  intro h
  have hnone := h 1 5 (.messageSend mailToIdentity :: steps 0 5 ++
    [.saveList, .restart 9, .checkOutgoingMessages] ++ steps 0 2) (by decide +kernel)
  obtain ⟨id, hid, -⟩ := hnone.1 5
    { peerId := 9, msgFlags := 0x108003, msgId := 5, subject := [77], message := [97] }
    (by decide +kernel) (by decide) (by decide)
  have hempty : ((System.machine 1).run (System.start 5) (.messageSend mailToIdentity ::
      steps 0 5 ++ [.saveList, .restart 9, .checkOutgoingMessages] ++
        steps 0 2)).svc.ongoingMessages = .empty := by
    decide +kernel
  rw [hempty] at hid
  cases hid

end Msg
