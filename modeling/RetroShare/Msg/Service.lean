import RetroShare.Lib.Machine
import RetroShare.Lib.OrdMap

/-!
# The message service

`p3MsgService` of `p3msgservice.cc`: the messages that wait to be sent, how they are sent to friends
in parts and to distant identities through the global router, and how parts are put together again.

The calls that are in progress are lists of tasks.  A task is what a call does within one scope of
the mutex, or between two of them with one `sendItem` or one call of the global router.  `System` is
a service with the calls in progress, the configuration file, and the history of what left the
service.
-/

namespace Msg

abbrev RsPeerId := Nat

/-- A distant message has its identity as peer id, which has as many bytes. -/
abbrev RsGxsId := Nat

abbrev GRouterMsgPropagationId := Nat

/-! ### Flags -/

/-- `RS_MSG_FLAGS_OUTGOING`, and `RS_MSG_OUTGOING`. -/
def flagOutgoing : UInt32 := 0x00000001

/-- `RS_MSG_FLAGS_PENDING`. -/
def flagPending : UInt32 := 0x00000002

/-- `RS_MSG_FLAGS_NEW`. -/
def flagNew : UInt32 := 0x00000010

/-- `RS_MSG_FLAGS_TRASH`. -/
def flagTrash : UInt32 := 0x00000020

/-- `RS_MSG_FLAGS_PARTIAL`. -/
def flagPartial : UInt32 := 0x00000400

/-- `RS_MSG_FLAGS_USER_REQUEST`. -/
def flagUserRequest : UInt32 := 0x00000800

/-- `RS_MSG_FLAGS_FRIEND_RECOMMENDATION`. -/
def flagFriendRecommendation : UInt32 := 0x00001000

/-- `RS_MSG_FLAGS_DISTANT`. -/
def flagDistant : UInt32 := 0x00008000

/-- `RS_MSG_FLAGS_SIGNATURE_CHECKS`. -/
def flagSignatureChecks : UInt32 := 0x00010000

/-- `RS_MSG_FLAGS_SIGNED`. -/
def flagSigned : UInt32 := 0x00020000

/-- `RS_MSG_FLAGS_LOAD_EMBEDDED_IMAGES`. -/
def flagLoadEmbeddedImages : UInt32 := 0x00040000

/-- `RS_MSG_FLAGS_ROUTED`. -/
def flagRouted : UInt32 := 0x00100000

/-- `RS_MSG_FLAGS_PUBLISH_KEY`. -/
def flagPublishKey : UInt32 := 0x00200000

/-- `RS_MSG_FLAGS_SYSTEM`. -/
def flagSystem : UInt32 := flagUserRequest ||| flagFriendRecommendation ||| flagPublishKey

/-- `RS_MSG_USER_REQUEST`, of a `MessageInfo`. -/
def userRequest : UInt32 := 0x000400

/-- `RS_MSG_FRIEND_RECOMMENDATION`, of a `MessageInfo`. -/
def friendRecommendation : UInt32 := 0x000800

/-- `RS_MSG_SIGNED`, of a `MessageInfo`. -/
def signed : UInt32 := 0x004000

/-- `GROUTER_CLIENT_SERVICE_DATA_STATUS_RECEIVED`. -/
def dataStatusReceived : UInt32 := 0x0001

/-- `GROUTER_CLIENT_SERVICE_DATA_STATUS_FAILED`. -/
def dataStatusFailed : UInt32 := 0x0002

/-- `MAX_STRING_SIZE` of `checkSizeAndSendMessage`. -/
def maxStringSize : Nat := 15000

/-! ### Messages -/

/-- `RsMsgItem`. -/
structure RsMsgItem where
  peerId : RsPeerId
  msgFlags : UInt32
  msgId : Nat
  subject : List UInt8
  message : List UInt8
  deriving DecidableEq

namespace RsMsgItem

variable (item : RsMsgItem)

/-- The item has a flag. -/
def has (flag : UInt32) : Bool := item.msgFlags &&& flag ≠ 0

/-- The item with a flag. -/
def set (flag : UInt32) : RsMsgItem := { item with msgFlags := item.msgFlags ||| flag }

/-- The item without a flag. -/
def unset (flag : UInt32) : RsMsgItem := { item with msgFlags := item.msgFlags &&& ~~~flag }

end RsMsgItem

/-- `MessageInfo`, of which the sets are lists. -/
structure MessageInfo where
  rsgxsid_srcId : RsGxsId
  msgflags : UInt32
  rspeerid_msgto : List RsPeerId
  rspeerid_msgcc : List RsPeerId
  rspeerid_msgbcc : List RsPeerId
  rsgxsid_msgto : List RsGxsId
  rsgxsid_msgcc : List RsGxsId
  rsgxsid_msgbcc : List RsGxsId
  title : List UInt8
  msg : List UInt8

namespace MessageInfo

variable (info : MessageInfo)

/-- `initMIRsMsg` of an item. -/
def initMIRsMsg : RsMsgItem where
  peerId := 0
  msgFlags :=
    (if info.msgflags &&& userRequest ≠ 0 then flagUserRequest else 0) |||
      (if info.msgflags &&& friendRecommendation ≠ 0 then flagFriendRecommendation else 0)
  msgId := 0
  subject := info.title
  message := info.msg

/-- `initMIRsMsg` for a friend. -/
def initForPeer (toId : RsPeerId) : RsMsgItem :=
  { info.initMIRsMsg with peerId := toId }.set flagLoadEmbeddedImages

/-- `initMIRsMsg` for a distant identity. -/
def initForGxsId (toId : RsGxsId) : RsMsgItem :=
  let msg := { info.initMIRsMsg with peerId := toId }.set flagDistant
  if info.msgflags &&& signed ≠ 0 then msg.set flagSigned else msg

/-- The friends that get the message. -/
def peers : List RsPeerId := info.rspeerid_msgto ++ info.rspeerid_msgcc ++ info.rspeerid_msgbcc

/-- The distant identities that get the message. -/
def gxsIds : List RsGxsId := info.rsgxsid_msgto ++ info.rsgxsid_msgcc ++ info.rsgxsid_msgbcc

end MessageInfo

/-! ### Service -/

/-- `p3MsgService`. -/
structure P3MsgService where
  mMsgUniqueId : Nat
  imsg : OrdMap Nat RsMsgItem
  msgOutgoing : OrdMap Nat RsMsgItem
  mSrcIds : OrdMap Nat RsPeerId
  mDistantOutgoingMsgSigners : OrdMap Nat RsGxsId
  ongoingMessages : OrdMap GRouterMsgPropagationId Nat
  pendingPartialMessages : OrdMap RsPeerId RsMsgItem

/-- What a call still has to do. -/
inductive Task where
  /-- `getNewUniqueMsgId` of `sendMessage`. -/
  | newMsgId (item : RsMsgItem) (signer : Option RsGxsId)
  /-- The lock scope of `sendMessage`. -/
  | enqueue (item : RsMsgItem) (signer : Option RsGxsId)
  /-- The lock scope of `sendDistantMessage`. -/
  | recordSigner (msgId : Nat) (signer : RsGxsId)
  /-- `getNewUniqueMsgId` of `processMsg`. -/
  | newOwnMsgId (item : RsMsgItem)
  /-- The lock scope of `processMsg`, of an own message. -/
  | fileOwnMsg (item : RsMsgItem)
  /-- The lock scope of `checkOutgoingMessages`. -/
  | collect
  /-- The next part of `checkSizeAndSendMessage`.  `begun` says that it is not the first one. -/
  | sendPart (item : RsMsgItem) (begun : Bool)
  /-- The first lock scope of `sendDistantMsgItem`. -/
  | findSigner (item : RsMsgItem)
  /-- The serialisation and `sendData` of `sendDistantMsgItem`. -/
  | handOver (item : RsMsgItem) (signer : RsGxsId)
  /-- The last lock scope of `sendDistantMsgItem`. -/
  | recordOngoing (id : GRouterMsgPropagationId) (msgId : Nat)
  deriving DecidableEq

/-- What becomes of a serialised item.  The global router gives it an id also when it refuses it. -/
inductive Outcome where
  | notSerialised
  | refused (id : GRouterMsgPropagationId)
  | accepted (id : GRouterMsgPropagationId)
  deriving DecidableEq

/-- What leaves the service, or is told by the global router. -/
inductive Event where
  | sendItem (item : RsMsgItem)
  | sendData (id : GRouterMsgPropagationId) (msgId : Nat)
  | received (id : GRouterMsgPropagationId)
  deriving DecidableEq

/-- What the configuration keeps of the service. -/
inductive ConfigItem where
  | msgItem (item : RsMsgItem)
  | srcId (msgId : Nat) (srcId : RsPeerId)
  | grouterMap (ongoing_msgs : OrdMap GRouterMsgPropagationId Nat)
  deriving DecidableEq

namespace P3MsgService

variable (svc : P3MsgService)

/-- The constructor, which takes its first message id from the clock. -/
def new (time : Nat) : P3MsgService where
  mMsgUniqueId := time % 2 ^ 32
  imsg := .empty
  msgOutgoing := .empty
  mSrcIds := .empty
  mDistantOutgoingMsgSigners := .empty
  ongoingMessages := .empty
  pendingPartialMessages := .empty

/-- `getNewUniqueMsgId`. -/
def getNewUniqueMsgId : P3MsgService × Nat :=
  ({ svc with mMsgUniqueId := (svc.mMsgUniqueId + 1) % 2 ^ 32 }, svc.mMsgUniqueId)

/-- `std::map::insert`, which keeps a value that is there. -/
def insertNew {κ ν : Type} [LinearOrder κ] (m : OrdMap κ ν) (k : κ) (v : ν) : OrdMap κ ν :=
  if (m.get? k).isSome then m else m.insert k v

/-- The lock scope of `processMsg`. -/
def fileMsg (mi : RsMsgItem) (incoming : Bool) : P3MsgService :=
  let mi :=
    if incoming then
      { mi with msgFlags := mi.msgFlags &&& (flagDistant ||| flagSystem) }.set flagNew
    else mi.set flagOutgoing
  { svc with
    imsg := svc.imsg.insert mi.msgId mi
    mSrcIds := insertNew svc.mSrcIds mi.msgId mi.peerId }

/-- `processMsg` of a message of a friend. -/
def processMsg (mi : RsMsgItem) : P3MsgService :=
  let (svc, msgId) := svc.getNewUniqueMsgId
  svc.fileMsg { mi with msgId := msgId } true

/-- `checkAndRebuildPartialMessage`: the item with the parts before it, if it is complete. -/
def checkAndRebuildPartialMessage (ci : RsMsgItem) : P3MsgService × Option RsMsgItem :=
  let ci_is_partial := ci.has flagPartial
  match svc.pendingPartialMessages.get? ci.peerId with
  | some pending =>
      let ci :=
        { ci with
          message := pending.message ++ ci.message
          msgFlags := ci.msgFlags ||| pending.msgFlags }
      if ci_is_partial then
        ({ svc with
            pendingPartialMessages := svc.pendingPartialMessages.insert ci.peerId ci }, none)
      else
        ({ svc with pendingPartialMessages := svc.pendingPartialMessages.erase ci.peerId }, some ci)
  | none =>
      if ci_is_partial then
        ({ svc with
            pendingPartialMessages := svc.pendingPartialMessages.insert ci.peerId ci }, none)
      else (svc, some ci)

/-- `handleIncomingItem`, and the message that it passes to `processMsg`. -/
def handleIncomingItem (mi : RsMsgItem) : P3MsgService × Option RsMsgItem :=
  match svc.checkAndRebuildPartialMessage mi with
  | (svc, some mi) => (svc.processMsg mi, some mi)
  | (svc, none) => (svc, none)

/-- The lock scope of `sendMessage`. -/
def enqueue (ownId : RsPeerId) (item : RsMsgItem) : P3MsgService :=
  let item := item.set (flagOutgoing ||| flagPending)
  { svc with
    msgOutgoing := svc.msgOutgoing.insert item.msgId item
    mSrcIds :=
      if item.peerId ≠ ownId then insertNew svc.mSrcIds item.msgId item.peerId else svc.mSrcIds }

/-- `checkOutgoingMessages` sends the item. -/
def isSent (ownId : RsPeerId) (isPeerConnected : RsPeerId → Bool) (item : RsMsgItem) : Bool :=
  !item.has flagTrash &&
    (item.peerId = ownId || (item.has flagDistant && !item.has flagRouted) ||
      isPeerConnected item.peerId)

/-- How `checkOutgoingMessages` sends an item. -/
def sendTask (item : RsMsgItem) : Task :=
  if item.has flagDistant then .findSigner (item.set flagRouted)
  else .sendPart (item.unset flagPending) false

/-- The lock scope of `checkOutgoingMessages`: the items that it sends are taken out or marked. -/
def collect (ownId : RsPeerId) (isPeerConnected : RsPeerId → Bool) : P3MsgService × List Task :=
  let isSent := isSent ownId isPeerConnected
  let output_queue := svc.msgOutgoing.filter fun _ item => isSent item
  let toErase := output_queue.filter fun _ item => !item.has flagDistant
  ({ svc with
      msgOutgoing :=
        (svc.msgOutgoing.filter fun _ item => !(isSent item && !item.has flagDistant)).map
          fun _ item => if isSent item then item.set flagRouted else item
      mSrcIds := toErase.toList.foldl (fun srcIds e => srcIds.erase e.1) svc.mSrcIds },
    output_queue.toList.map fun e => sendTask e.2)

/-- The next `sendItem` of `checkSizeAndSendMessage`, and what is left to send. -/
def sendPart (msg : RsMsgItem) : RsMsgItem × List Task :=
  if maxStringSize < msg.message.length then
    ({ msg with message := msg.message.take maxStringSize }.set flagPartial,
      [.sendPart { msg with message := msg.message.drop maxStringSize } true])
  else (msg, [])

/-- One task of a call, with the tasks that follow it and what leaves the service. -/
def perform (ownId : RsPeerId) (isPeerConnected : RsPeerId → Bool) (outcome : Outcome) :
    Task → P3MsgService × List Task × List Event
  | .newMsgId item signer =>
      let (svc, msgId) := svc.getNewUniqueMsgId
      (svc, [.enqueue { item with msgId := msgId } signer], [])
  | .enqueue item signer =>
      (svc.enqueue ownId item,
        (signer.map fun signer => .recordSigner item.msgId signer).toList, [])
  | .recordSigner msgId signer =>
      ({ svc with
          mDistantOutgoingMsgSigners :=
            svc.mDistantOutgoingMsgSigners.insert msgId signer }, [], [])
  | .newOwnMsgId item =>
      let (svc, msgId) := svc.getNewUniqueMsgId
      (svc, [.fileOwnMsg { item with msgId := msgId }], [])
  | .fileOwnMsg item => (svc.fileMsg item false, [], [])
  | .collect =>
      let (svc, tasks) := svc.collect ownId isPeerConnected
      (svc, tasks, [])
  | .sendPart item _ =>
      let (part, tasks) := sendPart item
      (svc, tasks, [.sendItem part])
  | .findSigner item =>
      let signer := (svc.mDistantOutgoingMsgSigners.get? item.msgId).getD 0
      ({ svc with
          mDistantOutgoingMsgSigners :=
            svc.mDistantOutgoingMsgSigners.insert item.msgId signer },
        if signer = 0 then [] else [.handOver (item.set flagDistant) signer], [])
  | .handOver item _ =>
      match outcome with
      | .notSerialised => (svc, [], [])
      | .refused id => (svc, [.recordOngoing id item.msgId], [])
      | .accepted id => (svc, [.recordOngoing id item.msgId], [.sendData id item.msgId])
  | .recordOngoing id msgId =>
      ({ svc with ongoingMessages := svc.ongoingMessages.insert id msgId }, [], [])

/-- What `MessageSend` does. -/
def messageSend (ownId : RsPeerId) (info : MessageInfo) : List Task :=
  let own := info.initForPeer ownId
  let own := if own.has flagSigned then own.set flagSignatureChecks else own
  info.peers.map (fun pit => .newMsgId (info.initForPeer pit) none) ++
    info.gxsIds.map (fun pit => .newMsgId (info.initForGxsId pit) (some info.rsgxsid_srcId)) ++
    [.newOwnMsgId own]

/-- The lock scope of `MessageToTrash`, and whether `checkOutgoingMessages` follows. -/
def messageToTrash (msgId : Nat) (bTrash : Bool) : P3MsgService × Bool :=
  let moved (mi : RsMsgItem) : RsMsgItem :=
    if bTrash then mi.set flagTrash else mi.unset flagTrash
  match svc.imsg.get? msgId, svc.msgOutgoing.get? msgId with
  | some mi, _ =>
      if mi.has flagTrash = bTrash then (svc, false)
      else ({ svc with imsg := svc.imsg.insert msgId (moved mi) }, true)
  | none, some mi =>
      if mi.has flagTrash = bTrash then (svc, false)
      else ({ svc with msgOutgoing := svc.msgOutgoing.insert msgId (moved mi) }, true)
  | none, none => (svc, false)

/-- `notifyDataStatus`. -/
def notifyDataStatus (id : GRouterMsgPropagationId) (data_status : UInt32) : P3MsgService :=
  if data_status = dataStatusFailed then svc
  else if data_status ≠ dataStatusReceived then svc
  else
    match svc.ongoingMessages.get? id with
    | none => svc
    | some msg_id => { svc with msgOutgoing := svc.msgOutgoing.erase msg_id }

/-- `saveList`. -/
def saveList : List ConfigItem :=
  svc.imsg.toList.map (fun e => .msgItem e.2) ++ svc.mSrcIds.toList.map (fun e => .srcId e.1 e.2) ++
    svc.msgOutgoing.toList.map (fun e => .msgItem e.2) ++ [.grouterMap svc.ongoingMessages]

/-- What `loadList` does with an item at first, with the messages and the `srcIdMsgMap` that it
collects.  The item of a message has no peer id in the file. -/
def loadItem (load : P3MsgService × List RsMsgItem × OrdMap Nat RsPeerId) :
    ConfigItem → P3MsgService × List RsMsgItem × OrdMap Nat RsPeerId
  | .msgItem mitem =>
      ({ load.1 with
          mMsgUniqueId :=
            if load.1.mMsgUniqueId ≤ mitem.msgId then (mitem.msgId + 1) % 2 ^ 32
            else load.1.mMsgUniqueId },
        load.2.1 ++ [{ mitem with peerId := 0 }], load.2.2)
  | .srcId msgId srcId =>
      ({ load.1 with mSrcIds := insertNew load.1.mSrcIds msgId srcId }, load.2.1,
        insertNew load.2.2 msgId srcId)
  | .grouterMap ongoing_msgs =>
      ({ load.1 with
          ongoingMessages :=
            ongoing_msgs.toList.foldl (fun m e => insertNew m e.1 e.2) load.1.ongoingMessages },
        load.2.1, load.2.2)

/-- In `loadList`, a message without an id gets one. -/
def loadMsgId (mitem : RsMsgItem) : P3MsgService × RsMsgItem :=
  if mitem.msgId = 0 then
    let (svc, msgId) := svc.getNewUniqueMsgId
    (svc, { mitem with msgId := msgId })
  else (svc, mitem)

/-- In `loadList`, a message gets its peer id out of the `srcIdMsgMap`. -/
def loadPeerId (srcIdMsgMap : OrdMap Nat RsPeerId) (mitem : RsMsgItem) :
    RsMsgItem × OrdMap Nat RsPeerId :=
  match srcIdMsgMap.get? mitem.msgId with
  | some srcId => ({ mitem with peerId := srcId }, srcIdMsgMap.erase mitem.msgId)
  | none => (mitem, srcIdMsgMap)

/-- In `loadList`, a message is put into the outbox or into the inbox. -/
def fileLoaded (mitem : RsMsgItem) : P3MsgService :=
  if mitem.has flagPending then
    { svc with msgOutgoing := svc.msgOutgoing.insert mitem.msgId mitem }
  else { svc with imsg := svc.imsg.insert mitem.msgId mitem }

/-- What `loadList` does with a message, with what is left of the `srcIdMsgMap`. -/
def sortItem (load : P3MsgService × OrdMap Nat RsPeerId) (mitem : RsMsgItem) :
    P3MsgService × OrdMap Nat RsPeerId :=
  let (svc, mitem) := load.1.loadMsgId mitem
  let (mitem, srcIdMsgMap) := loadPeerId load.2 mitem
  (svc.fileLoaded mitem, srcIdMsgMap)

/-- `loadList`. -/
def loadList (load : List ConfigItem) : P3MsgService :=
  let (svc, items, srcIdMsgMap) := load.foldl loadItem (svc, [], .empty)
  let (svc, srcIdMsgMap) := items.foldl sortItem (svc, srcIdMsgMap)
  { svc with
    mSrcIds := srcIdMsgMap.toList.foldl (fun srcIds e => srcIds.erase e.1) svc.mSrcIds }

end P3MsgService

/-! ### System -/

/-- A service, its calls in progress, its configuration file, and what happened. -/
structure System where
  svc : P3MsgService
  calls : List (List Task)
  file : Option (List ConfigItem)
  history : List Event

/-- What can happen.  `advance` is the next task of a call. -/
inductive Input where
  | messageSend (info : MessageInfo)
  /-- The call in `tick` and in `statusChange`. -/
  | checkOutgoingMessages
  | messageToTrash (msgId : Nat) (bTrash : Bool)
  | advance (call : Nat) (isPeerConnected : RsPeerId → Bool) (outcome : Outcome)
  | notifyDataStatus (id : GRouterMsgPropagationId) (data_status : UInt32)
  | saveList
  | restart (time : Nat)

namespace System

variable (ownId : RsPeerId) (s : System)

/-- A new service. -/
def start (time : Nat) : System where
  svc := .new time
  calls := []
  file := none
  history := []

/-- The task that a call does next. -/
def task? (call : Nat) : Option Task := s.calls[call]?.bind List.head?

/-- One step. -/
def apply : Input → System
  | .messageSend info => { s with calls := s.calls ++ [P3MsgService.messageSend ownId info] }
  | .checkOutgoingMessages => { s with calls := s.calls ++ [[.collect]] }
  | .messageToTrash msgId bTrash =>
      let (svc, bChanged) := s.svc.messageToTrash msgId bTrash
      { s with svc := svc, calls := if bChanged then s.calls ++ [[.collect]] else s.calls }
  | .advance call isPeerConnected outcome =>
      match s.calls[call]? with
      | some (task :: tasks) =>
          let (svc, following, events) := s.svc.perform ownId isPeerConnected outcome task
          { s with
            svc := svc
            calls := s.calls.set call (following ++ tasks)
            history := s.history ++ events }
      | _ => s
  | .notifyDataStatus id data_status =>
      { s with
        svc := s.svc.notifyDataStatus id data_status
        history := s.history ++ if data_status = dataStatusReceived then [.received id] else [] }
  | .saveList => { s with file := some s.svc.saveList }
  | .restart time =>
      { s with svc := (P3MsgService.new time).loadList (s.file.getD []), calls := [] }

/-- The service as a machine. -/
def machine : Machine System Input Unit where
  step s input := (s.apply ownId input, [])

/-- No call is in progress. -/
def Idle : Prop := ∀ call ∈ s.calls, call = []

instance decidableIdle : Decidable s.Idle :=
  inferInstanceAs (Decidable (∀ call ∈ s.calls, call = []))

/-- What the calls in progress still have to do. -/
def tasks : List Task := s.calls.flatten

/-- What is to be done besides the next task of a call. -/
def otherTasks (call : Nat) : List Task :=
  (s.calls[call]?.getD []).tail ++ (s.calls.eraseIdx call).flatten

/-! ### Tasks -/

variable {ownId s} {call : Nat} {isPeerConnected : RsPeerId → Bool} {outcome : Outcome}
  {task : Task}

theorem Idle.tasks_eq_nil (h : s.Idle) :
  s.tasks = []
  := List.flatten_eq_nil_iff.mpr h

theorem tasks_perm {following : List Task} (hcall : s.calls[call]? = some (task :: following)) :
  s.tasks.Perm (task :: s.otherTasks call)
  := by
  obtain ⟨hlt, heq⟩ := List.getElem?_eq_some_iff.mp hcall
  rw [otherTasks, hcall, Option.getD_some, List.tail_cons, ← List.cons_append, ← heq]
  exact (List.getElem_cons_eraseIdx_perm hlt).symm.flatten

/-- A step of a call replaces its next task. -/
theorem apply_advance (htask : s.task? call = some task) :
  ∃ s', s.apply ownId (.advance call isPeerConnected outcome) = s' ∧
    s'.svc = (s.svc.perform ownId isPeerConnected outcome task).1 ∧
    s'.history = s.history ++ (s.svc.perform ownId isPeerConnected outcome task).2.2 ∧
    s'.file = s.file ∧
    s.tasks.Perm (task :: s.otherTasks call) ∧
    s'.tasks.Perm
      ((s.svc.perform ownId isPeerConnected outcome task).2.1 ++ s.otherTasks call)
  := by
  obtain ⟨tasks, hcall, hhead⟩ := Option.bind_eq_some_iff.mp htask
  cases tasks with
  | nil => cases hhead
  | cons task' following =>
    cases hhead
    obtain ⟨hlt, -⟩ := List.getElem?_eq_some_iff.mp hcall
    simp only [apply, hcall]
    refine ⟨_, rfl, rfl, rfl, rfl, tasks_perm hcall, ?_⟩
    rw [otherTasks, hcall, Option.getD_some, List.tail_cons, ← List.append_assoc]
    exact (List.set_perm_cons_eraseIdx hlt _).flatten

/-- A call that has nothing left to do does nothing. -/
theorem apply_advance_of_task?_eq_none (htask : s.task? call = none) :
  s.apply ownId (.advance call isPeerConnected outcome) = s
  := by
  rw [task?, Option.bind_eq_none_iff] at htask
  rw [apply]
  split
  case h_1 task tasks hcall =>
    have hnone := htask _ hcall
    cases hnone
  case h_2 => rfl

theorem tasks_append (s : System) (new : List Task) :
  ({ s with calls := s.calls ++ [new] } : System).tasks = s.tasks ++ new
  := by
  simp [tasks]

end System

/-! ### Flags of an item -/

namespace RsMsgItem

variable {item : RsMsgItem} {flag flag' : UInt32}

theorem or_and_distrib (a b c : UInt32) :
  (a ||| b) &&& c = a &&& c ||| b &&& c
  := by
  rw [← UInt32.toBitVec_inj]
  exact BitVec.and_or_distrib_right

theorem has_set (item : RsMsgItem) (flag flag' : UInt32) :
  (item.set flag).has flag' = (item.has flag' || decide (flag &&& flag' ≠ 0))
  := by
  simp only [has, set, or_and_distrib, ne_eq, UInt32.or_eq_zero_iff, not_and_or, Bool.decide_or]

theorem has_set_of_and_eq_zero (item : RsMsgItem) (h : flag &&& flag' = 0) :
  (item.set flag).has flag' = item.has flag'
  := by
  rw [has_set, h]
  simp

theorem has_unset (h : ~~~flag &&& flag' = flag') :
  (item.unset flag).has flag' = item.has flag'
  := by
  simp only [has, unset, UInt32.and_assoc, h]

end RsMsgItem

theorem MessageInfo.initMIRsMsg_has (info : MessageInfo) (toId : RsPeerId) {flag : UInt32}
    (hrequest : flagUserRequest &&& flag = 0)
    (hrecommendation : flagFriendRecommendation &&& flag = 0) :
  ({ info.initMIRsMsg with peerId := toId } : RsMsgItem).has flag = false
  := by
  simp only [initMIRsMsg, RsMsgItem.has, RsMsgItem.or_and_distrib]
  split <;> split <;> simp [hrequest, hrecommendation]

namespace P3MsgService

/-- `MessageToTrash` leaves the flags of a waiting message as they are, besides one. -/
theorem messageToTrash_cases (svc : P3MsgService) (msgId : Nat) (bTrash : Bool) :
  (svc.messageToTrash msgId bTrash).1.msgOutgoing = svc.msgOutgoing ∨
    ∃ item flags, svc.msgOutgoing.get? msgId = some item ∧
      (svc.messageToTrash msgId bTrash).1.msgOutgoing =
        svc.msgOutgoing.insert msgId { item with msgFlags := flags } ∧
      ∀ flag, flagTrash &&& flag = 0 → ~~~flagTrash &&& flag = flag →
        ({ item with msgFlags := flags } : RsMsgItem).has flag = item.has flag
  := by
  rw [messageToTrash]
  split
  case h_1 =>
    left
    split <;> rfl
  case h_3 => exact .inl rfl
  case h_2 mi _ hmi =>
    split
    case isTrue => exact .inl rfl
    case isFalse =>
      right
      cases bTrash with
      | true => exact ⟨mi, _, hmi, rfl, fun flag hzero _ => mi.has_set_of_and_eq_zero hzero⟩
      | false => exact ⟨mi, _, hmi, rfl, fun flag _ hnot => RsMsgItem.has_unset hnot⟩

end P3MsgService

end Msg
