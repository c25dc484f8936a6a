import RetroShare.Lib.OrdMap

/-!
# The store of groups and messages

`RsDataService` of `rsdataservice.cc` keeps the groups and the messages of a service in two
tables, and what they contain in files.  A row of the messages has the metadata of a message and
what is read from the file, if it can be read; a row of the groups likewise.

Identifiers are numbers, and the null identifier is `0`.  The database is taken to answer its
queries, with the rows in the order of the table.
-/

namespace Gxs

abbrev RsPeerId := Nat

abbrev RsPgpId := Nat

abbrev RsGxsGroupId := Nat

abbrev RsGxsMessageId := Nat

abbrev RsGxsId := Nat

abbrev RsGxsCircleId := Nat

/-- `RsTlvSecurityKey`. -/
structure RsTlvSecurityKey where
  keyId : RsGxsId
  keyFlags : UInt32
  keyData : List UInt8
  deriving DecidableEq

/-- `RsGxsGrpMetaData`, as far as it is read. -/
structure RsGxsGrpMetaData where
  mGroupId : RsGxsGroupId
  mPublishTs : Nat
  mAuthorId : RsGxsId
  mCircleId : RsGxsCircleId
  mCircleType : Nat
  keys : OrdMap RsGxsId RsTlvSecurityKey
  mSubscribeFlags : UInt32
  mLastPost : Nat
  mReputationCutOff : Int
  mRecvTS : Nat
  mOriginator : RsPeerId
  mInternalCircle : RsGxsCircleId
  deriving DecidableEq

/-- `RsGxsMsgMetaData`, as far as it is read. -/
structure RsGxsMsgMetaData where
  mGroupId : RsGxsGroupId
  mMsgId : RsGxsMessageId
  mThreadId : RsGxsMessageId
  mParentId : RsGxsMessageId
  mOrigMsgId : RsGxsMessageId
  mAuthorId : RsGxsId
  mPublishTs : Int
  mMsgFlags : UInt32
  mMsgStatus : UInt32
  deriving DecidableEq

/-- A row of the table of groups: the metadata, unless its keys cannot be read, and the data,
unless its file cannot be read. -/
structure GrpRow where
  grpMeta : Option RsGxsGrpMetaData
  grp : Option (List UInt8)
  deriving DecidableEq

/-- A row of the table of messages: the metadata, and the data, unless its file cannot be
read. -/
structure MsgRow where
  msgMeta : RsGxsMsgMetaData
  msg : Option (List UInt8)
  deriving DecidableEq

/-- `RsDataService`.  The identifiers of the messages are the primary key of their table. -/
structure RsDataService where
  grps : OrdMap RsGxsGroupId GrpRow
  msgs : List MsgRow
  nodup : (msgs.map fun row => row.msgMeta.mMsgId).Nodup

/-- The metadata of a group carries the identifier of the group. -/
def RsDataService.grpMeta? (store : RsDataService) (grpId : RsGxsGroupId) :
    Option RsGxsGrpMetaData :=
  (store.grps.get? grpId).bind fun row => row.grpMeta.map ({ · with mGroupId := grpId })

/-- `RsNxsGrp`, less what belongs to its transport. -/
structure RsNxsGrp where
  grpId : RsGxsGroupId
  grp : List UInt8
  deriving DecidableEq

/-- `RsNxsMsg`, less what belongs to its transport. -/
structure RsNxsMsg where
  grpId : RsGxsGroupId
  msgId : RsGxsMessageId
  msg : List UInt8
  metaData : Option RsGxsMsgMetaData
  deriving DecidableEq

/-- `GxsMsgReq`, also `GxsMsgIdResult`. -/
abbrev GxsMsgReq := OrdMap RsGxsGroupId (List RsGxsMessageId)

/-- `GxsMsgMetaResult`. -/
abbrev GxsMsgMetaResult := OrdMap RsGxsGroupId (List RsGxsMsgMetaData)

/-- `GxsMsgResult`. -/
abbrev GxsMsgResult := OrdMap RsGxsGroupId (List RsNxsMsg)

namespace RsDataService

variable (store : RsDataService)

/-! ### Groups -/

/-- `retrieveGxsGrpMetaData`: all groups are retrieved when none is requested. -/
def retrieveGxsGrpMetaData (grp : OrdMap RsGxsGroupId (Option RsGxsGrpMetaData)) :
    OrdMap RsGxsGroupId (Option RsGxsGrpMetaData) :=
  if grp = OrdMap.empty then
    (store.grps.map fun grpId _ => store.grpMeta? grpId).filter fun _ grpMeta => grpMeta.isSome
  else
    grp.map fun grpId _ => store.grpMeta? grpId

/-- `locked_getGroup`. -/
def getGroup (grpId : RsGxsGroupId) : Option RsNxsGrp :=
  if grpId = 0 then none
  else (store.grps.get? grpId).bind fun row => row.grp.map (⟨grpId, ·⟩)

/-- `retrieveNxsGrps`, without metadata: all groups are retrieved when none is requested, and
those that cannot be read are taken off. -/
def retrieveNxsGrps (grp : OrdMap RsGxsGroupId (Option RsNxsGrp)) :
    OrdMap RsGxsGroupId (Option RsNxsGrp) :=
  let found :=
    if grp = OrdMap.empty then store.grps.map fun grpId _ => store.getGroup grpId
    else grp.map fun grpId _ => store.getGroup grpId
  found.filter fun _ ng => ng.isSome

/-- `updateGroupKeys`. -/
def updateGroupKeys (grpId : RsGxsGroupId) (keys : OrdMap RsGxsId RsTlvSecurityKey)
    (subscribeFlags : UInt32) : RsDataService :=
  { store with
    grps := store.grps.map fun grpId' row =>
      if grpId' = grpId then
        { row with grpMeta := row.grpMeta.map ({ · with keys, mSubscribeFlags := subscribeFlags }) }
      else row }

/-! ### Messages -/

/-- The rows of a query by group, and by message when one is given. -/
def sqlQuery (grpId : RsGxsGroupId) (msgId : Option RsGxsMessageId) : List MsgRow :=
  store.msgs.filter fun row =>
    row.msgMeta.mGroupId = grpId && msgId.all (row.msgMeta.mMsgId = ·)

/-- The rows that are requested of a group: all of them when no message is given. -/
def query (grpId : RsGxsGroupId) (msgIdV : List RsGxsMessageId) : List MsgRow :=
  if msgIdV = [] then store.sqlQuery grpId none
  else msgIdV.flatMap fun msgId => store.sqlQuery grpId (some msgId)

end RsDataService

/-- `locked_getMsgMeta`. -/
def MsgRow.getMsgMeta (row : MsgRow) : Option RsGxsMsgMetaData :=
  if row.msgMeta.mGroupId = 0 ∨ row.msgMeta.mMsgId = 0 then none else some row.msgMeta

/-- `locked_getMessage`. -/
def MsgRow.getMessage (row : MsgRow) : Option RsNxsMsg :=
  if row.msgMeta.mGroupId = 0 ∨ row.msgMeta.mMsgId = 0 then none
  else row.msg.map (⟨row.msgMeta.mGroupId, row.msgMeta.mMsgId, ·, none⟩)

/-- The loop of `retrieveNxsMsgs` that gives the messages their metadata. -/
def attachMeta : List RsNxsMsg → List RsGxsMsgMetaData → List RsNxsMsg
  | [], _ => []
  | msg :: msgV, msgMetaV =>
      { msg with metaData := (msgMetaV.filter (·.mMsgId = msg.msgId)).getLast? } ::
        attachMeta msgV (msgMetaV.filter (·.mMsgId ≠ msg.msgId))

namespace RsDataService

variable (store : RsDataService)

/-- `retrieveGxsMsgMetaData`. -/
def retrieveGxsMsgMetaData (reqIds : GxsMsgReq) : GxsMsgMetaResult :=
  reqIds.map fun grpId msgIdV => (store.query grpId msgIdV).filterMap MsgRow.getMsgMeta

/-- `retrieveNxsMsgs`. -/
def retrieveNxsMsgs (reqIds : GxsMsgReq) (withMeta : Bool) : GxsMsgResult :=
  let msg := reqIds.map fun grpId msgIdV => (store.query grpId msgIdV).filterMap MsgRow.getMessage
  if withMeta then
    let metaResult := store.retrieveGxsMsgMetaData (msg.map fun _ msgSet => msgSet.map (·.msgId))
    msg.map fun grpId msgV => attachMeta msgV ((metaResult.get? grpId).getD [])
  else
    msg

end RsDataService

end Gxs
