import RetroShare.GenExchange.Validation

/-!
# Received messages

`RsGenExchange::notifyNewMessages` and `processRecvdMessages` of `rsgenexchange.cc`.  A received
message is kept until the next call of `processRecvdMessages`, and from then on as a pending one
when the key of its author has to be fetched first.

The objects are numbered as they arrive.  What happens to them is logged: that one is worked on,
deleted, or given to the data store.  The maps from objects are in the order of their addresses,
here in that of their insertion; nothing depends on it.  Notifications, and the routes that are
learnt of authors, are left out.
-/

namespace GenExchange

/-! ### Items -/

/-- `RsNxsMsg`.  The ids of the packet are those that the sender gives it; `metaData` is what
`deserialise` makes of the metadata, when it succeeds. -/
structure RsNxsMsg where
  obj : Nat
  grpId : RsGxsGroupId
  msgId : RsGxsMessageId
  msg : List UInt8
  metaData : Option RsGxsMsgMetaData
  deriving DecidableEq

/-- `RsGxsGrpMsgIdPair`. -/
abbrev RsGxsGrpMsgIdPair : Type := RsGxsGroupId × RsGxsMessageId

/-- `getMsgIdPair`. -/
def RsNxsMsg.idPair (msg : RsNxsMsg) : RsGxsGrpMsgIdPair := (msg.grpId, msg.msgId)

/-- `GxsPendingItem`. -/
structure GxsPendingItem (GxsItem Identity : Type) where
  mItem : GxsItem
  mId : Identity
  mAttempts : UInt8
  deriving DecidableEq

/-- A message that waits for a key. -/
abbrev PendingMsg : Type := GxsPendingItem RsNxsMsg RsGxsGrpMsgIdPair

/-- `VALIDATE_MAX_ATTEMPTS`. -/
def validateMaxAttempts : UInt8 := 5

/-- `GXS_MSG_STATUS_UNPROCESSED | GXS_MSG_STATUS_GUI_NEW | GXS_MSG_STATUS_GUI_UNREAD`. -/
def gxsMsgStatusReceived : UInt32 := 0x00000001 ||| 0x00000004 ||| 0x00000002

/-- `GXS_MSG_STATUS_KEEP`. -/
def gxsMsgStatusKeep : UInt32 := 0x00000008

/-- What happens to the messages. -/
inductive MsgEvent where
  /-- A message is worked on. -/
  | use (obj : Nat)
  /-- A message is deleted. -/
  | delete (obj : Nat)
  /-- `storeMessage` is given a message with its metadata. -/
  | storeMessage (msg : RsNxsMsg) (metaData : RsGxsMsgMetaData)
  deriving DecidableEq

/-- The part of `RsGenExchange` that receives messages. -/
structure MsgReception where
  mReceivedMsgs : List RsNxsMsg
  mMsgPendingValidate : List PendingMsg
  deriving DecidableEq

/-- What is answered during a call of `processRecvdMessages`: the data store, the clock, and, while
a message is validated, the service that keeps the identities. -/
structure MsgAnswers where
  /-- `retrieveGxsGrpMetaData`, which leaves `NULL` where there is no group. -/
  grpMeta? : RsGxsGroupId → Option RsGxsGrpMetaData
  retrieveMsgIds : RsGxsGroupId → List RsGxsMessageId
  now : Nat
  mGixs : RsNxsMsg → Option RsGixs

/-! ### Arrival -/

/-- A message that arrives: a copy of a pending one is deleted. -/
def MsgReception.notifyNewMessage (s : MsgReception) (msg : RsNxsMsg) :
    MsgReception × List MsgEvent :=
  if s.mMsgPendingValidate.any fun e => e.mId = msg.idPair then (s, [.delete msg.obj])
  else ({ s with mReceivedMsgs := s.mReceivedMsgs ++ [msg] }, [])

/-- `RsGenExchange::notifyNewMessages`. -/
def MsgReception.notifyNewMessages (s : MsgReception) :
    List RsNxsMsg → MsgReception × List MsgEvent
  | [] => (s, [])
  | msg :: messages =>
      let first := s.notifyNewMessage msg
      let rest := first.1.notifyNewMessages messages
      (rest.1, first.2 ++ rest.2)

/-! ### The pass over the received messages -/

variable (service : Service) (answers : MsgAnswers)

/-- The local variables of `processRecvdMessages`, and the pending messages. -/
structure MsgPass where
  mMsgPendingValidate : List PendingMsg
  msgs : List (RsNxsMsg × RsGxsMsgMetaData)
  log : List MsgEvent

/-- The first entry with the ids of a message is erased from the pending ones. -/
def erasePending (id : RsGxsGrpMsgIdPair) (pending : List PendingMsg) : List PendingMsg :=
  pending.eraseP fun e => e.mId = id

/-- A message that has to wait: the first entry with its ids counts an attempt, and when there is
none an entry is appended. -/
def postpone (msg : RsNxsMsg) : List PendingMsg → List PendingMsg
  | [] => [⟨msg, msg.idPair, 0⟩]
  | e :: pending =>
      if e.mId = msg.idPair then { e with mAttempts := e.mAttempts + 1 } :: pending
      else e :: postpone msg pending

/-- The metadata of a message that has been validated. -/
def markReceived (metaData : RsGxsMsgMetaData) : RsGxsMsgMetaData :=
  { metaData with mMsgStatus := gxsMsgStatusReceived }

namespace MsgPass

/-- `VALIDATE_SUCCESS`. -/
def accept (pass : MsgPass) (msg : RsNxsMsg) (metaData : RsGxsMsgMetaData) : MsgPass where
  mMsgPendingValidate := erasePending msg.idPair pass.mMsgPendingValidate
  msgs := pass.msgs ++ [(msg, markReceived metaData)]
  log := pass.log ++ [.use msg.obj]

/-- `VALIDATE_FAIL`. -/
def reject (pass : MsgPass) (msg : RsNxsMsg) : MsgPass where
  mMsgPendingValidate := erasePending msg.idPair pass.mMsgPendingValidate
  msgs := pass.msgs
  log := pass.log ++ [.use msg.obj, .delete msg.obj]

/-- `VALIDATE_FAIL_TRY_LATER`. -/
def wait (pass : MsgPass) (msg : RsNxsMsg) : MsgPass where
  mMsgPendingValidate := postpone msg pass.mMsgPendingValidate
  msgs := pass.msgs
  log := pass.log ++ [.use msg.obj]

/-- An iteration of the loop of `processRecvdMessages`.  The flags of the group are read even
where there is none: there is no result then. -/
def step (pass : MsgPass) (msg : RsNxsMsg) : Option MsgPass :=
  match msg.metaData with
  | none => some (pass.reject msg)
  | some metaData =>
      match answers.grpMeta? msg.grpId with
      | none => none
      | some grpMeta =>
          match validateMsg service (answers.mGixs msg) msg.msg metaData grpMeta.mGroupFlags
              grpMeta.keys with
          | .success => some (pass.accept msg metaData)
          | .fail => some (pass.reject msg)
          | .failTryLater => some (pass.wait msg)

end MsgPass

/-- `RsGenExchange::messagePublicationTest`. -/
def messagePublicationTest (now : Nat) (metaData : RsGxsMsgMetaData) : Bool :=
  metaData.mMsgStatus &&& gxsMsgStatusKeep ≠ 0 ||
    now ≤ metaData.mPublishTs + service.messageStorePeriod.toNat

/-- The test of `removeDeleteExistingMessages`. -/
def isNew (metaData : RsGxsMsgMetaData) : Bool :=
  metaData.mMsgId ∉ answers.retrieveMsgIds metaData.mGroupId &&
    messagePublicationTest service answers.now metaData

namespace MsgReception

variable (s : MsgReception)

/-- The pending messages that are tried again. -/
def retried : List PendingMsg :=
  s.mMsgPendingValidate.filter fun e => e.mAttempts ≠ validateMaxAttempts

/-- The pending messages that have been tried often enough. -/
def expired : List PendingMsg :=
  s.mMsgPendingValidate.filter fun e => e.mAttempts = validateMaxAttempts

/-- `mReceivedMsgs`, with the pending messages that are tried again. -/
def worklist : List RsNxsMsg := s.mReceivedMsgs ++ s.retried.map (·.mItem)

/-- The pass as it starts. -/
def firstPass : MsgPass where
  mMsgPendingValidate := s.retried
  msgs := []
  log := s.expired.map fun e => .delete e.mItem.obj

end MsgReception

/-- What is done with the messages that are validated: those that are there already, or too old,
are deleted, the others stored. -/
def MsgPass.finish (pass : MsgPass) : MsgReception × List MsgEvent :=
  let filtered := pass.msgs.filter fun e => isNew service answers e.2
  let removed := pass.msgs.filter fun e => !isNew service answers e.2
  (⟨[], pass.mMsgPendingValidate⟩,
    pass.log ++ (removed.map fun e => .delete e.1.obj) ++
      filtered.map fun e => .storeMessage e.1 e.2)

/-- `RsGenExchange::processRecvdMessages`.  There is no result when a pointer that is `NULL` is
followed. -/
def MsgReception.processRecvdMessages (s : MsgReception) :
    Option (MsgReception × List MsgEvent) :=
  (s.worklist.foldlM (MsgPass.step service answers) s.firstPass).map
    (MsgPass.finish service answers)

end GenExchange
