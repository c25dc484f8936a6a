import RetroShare.GRouter.Serialise
import RetroShare.Gxs.DataService

/-!
# The files of the messages

How `RsDataService` keeps the messages themselves.  The data of the messages of a group are
appended to one file, and the row of a message says where its data lie in the file.
`removeMsgs` writes the data that remain into a new file, and the rows of the messages that
remain are updated with their new places.

The table of the messages is a list of rows in the order of their insertion, with the identifiers
of the messages as its primary key.  The columns from which `locked_getMsgMeta` makes metadata are
left out.
-/

namespace Gxs.Files

open GRouter Serialiser

/-- `RsTlvBinaryData` of the type of the service.  The size of its TLV is a `uint32_t`. -/
structure TlvData where
  binData : List UInt8
  size_lt : tlvHeaderSize + binData.length < 2 ^ 32
  deriving DecidableEq

namespace TlvData

/-- `RsTlvBinaryData::TlvSize`. -/
def tlvSize (b : TlvData) : Nat := tlvHeaderSize + b.binData.length

/-- `RsTlvBinaryData::SetTlv`, in a buffer of the size of the TLV. -/
def setTlv (mServType : UInt16) (b : TlvData) : List UInt8 :=
  setTlvBase mServType.toNat b.tlvSize ++ b.binData

/-- `RsTlvBinaryData::GetTlv` of a buffer of `size` bytes.  Bytes that have not been read into the
buffer are zero. -/
def getTlv (mServType : UInt16) (data : List UInt8) (size : Nat) : Option TlvData :=
  match (RsTlvBinaryData.getTlv (Bytes.toMemory data) ⟨mServType.toNat, []⟩ size 0).value with
  | some (true, b) =>
      if h : tlvHeaderSize + b.binData.length < 2 ^ 32 then some ⟨b.binData, h⟩ else none
  | _ => none

end TlvData

/-- `RsNxsMsg`, less its metadata and what belongs to its transport. -/
structure RsNxsMsg where
  grpId : RsGxsGroupId
  msgId : RsGxsMessageId
  msg : TlvData
  /-- `meta`. -/
  metaBin : TlvData
  deriving DecidableEq

/-- A row of the table of messages.  `nxsFile` is the group that the file is named after. -/
structure MsgRow where
  nxsFile : RsGxsGroupId
  fileOffset : Nat
  nxsFileLen : Nat
  /-- The TLV in the column `meta`. -/
  metaTlv : List UInt8
  grpId : RsGxsGroupId
  /-- The primary key. -/
  msgId : RsGxsMessageId
  deriving DecidableEq

/-! ### The table -/

/-- The table of messages. -/
structure MsgTable where
  rows : List MsgRow
  nodup : (rows.map MsgRow.msgId).Nodup
  deriving DecidableEq

/-- `MsgUpdate`. -/
structure MsgUpdate where
  msgId : RsGxsMessageId
  fileOffset : Nat
  nxsFileLen : Nat
  deriving DecidableEq

namespace MsgTable

variable (table : MsgTable) (grpId : RsGxsGroupId)

/-- `sqlInsert`: `INSERT INTO` fails when the primary key is in the table. -/
def sqlInsert (row : MsgRow) : MsgTable :=
  if h : row.msgId ∈ table.rows.map MsgRow.msgId then table
  else ⟨table.rows ++ [row], by
    rw [List.map_append, List.map_singleton]
    exact List.nodup_append'.2 ⟨table.nodup, List.nodup_singleton _,
      List.disjoint_singleton.2 h⟩⟩

/-- A row under an update of the messages of a group. -/
def updateRow (row : MsgRow) (up : MsgUpdate) : MsgRow :=
  if row.grpId = grpId ∧ row.msgId = up.msgId then
    { row with fileOffset := up.fileOffset, nxsFileLen := up.nxsFileLen }
  else row

theorem msgId_updateRow (grpId : RsGxsGroupId) (row : MsgRow) (up : MsgUpdate) :
  (updateRow grpId row up).msgId = row.msgId
  := by
  rw [updateRow]
  split
  · rfl
  · rfl

/-- `sqlUpdate` of `locked_updateMessageEntries`. -/
def sqlUpdate (up : MsgUpdate) : MsgTable where
  rows := table.rows.map fun row => updateRow grpId row up
  nodup := by
    rw [List.map_map, show MsgRow.msgId ∘ (fun row => updateRow grpId row up) = MsgRow.msgId from
      funext fun row => msgId_updateRow grpId row up]
    exact table.nodup

/-- `sqlDelete` of `locked_removeMessageEntries`. -/
def sqlDelete (msgId : RsGxsMessageId) : MsgTable where
  rows := table.rows.filter fun row => ¬(row.grpId = grpId ∧ row.msgId = msgId)
  nodup := table.nodup.sublist (List.filter_sublist.map _)

/-- The rows of a query by group, and by message when one is given. -/
def sqlQuery (msgId : Option RsGxsMessageId) : List MsgRow :=
  table.rows.filter fun row => row.grpId = grpId && msgId.all (row.msgId = ·)

/-- The rows that are requested of a group: all of them when no message is given. -/
def query (msgIdV : List RsGxsMessageId) : List MsgRow :=
  if msgIdV = [] then table.sqlQuery grpId none
  else msgIdV.flatMap fun msgId => table.sqlQuery grpId (some msgId)

end MsgTable

/-! ### The service -/

/-- `RsDataService`, as far as the messages go.  `files` are the files `<grpId>-msgs`. -/
structure RsDataService where
  mServType : UInt16
  files : OrdMap RsGxsGroupId (List UInt8)
  msgs : MsgTable
  deriving DecidableEq

/-- The service at its start. -/
def RsDataService.new (mServType : UInt16) : RsDataService where
  mServType := mServType
  files := OrdMap.empty
  msgs := ⟨[], List.nodup_nil⟩

/-- `GXS_MAX_ITEM_SIZE`. -/
def gxsMaxItemSize : Nat := 1572864

/-- `validSize`. -/
def validSize (msg : RsNxsMsg) : Bool :=
  add32 msg.msg.tlvSize msg.metaBin.tlvSize ≤ gxsMaxItemSize

/-- The bytes of a file from `offset` on.  Where the file ends before, which is left undefined,
there are fewer. -/
def segment (file : List UInt8) (offset len : Nat) : List UInt8 := (file.drop offset).take len

/-- The row that a message is stored with. -/
def msgRow (mServType : UInt16) (msg : RsNxsMsg) (msgMeta : RsGxsMsgMetaData) (offset : Nat) :
    MsgRow where
  nxsFile := msg.grpId
  fileOffset := offset
  nxsFileLen := msg.msg.tlvSize
  metaTlv := msg.metaBin.setTlv mServType
  grpId := msgMeta.mGroupId
  msgId := msgMeta.mMsgId

/-- The variables of the loop of `removeMsgs` over the messages of a group. -/
structure Compaction where
  newBuffer : List UInt8
  newOffset : Nat
  updates : List MsgUpdate

/-- The loop body of `removeMsgs`: the data of a message that remains are copied. -/
def Compaction.keep (dataBuff : List UInt8) (msgIdV : List RsGxsMessageId) (c : Compaction)
    (m : MsgRow) : Compaction :=
  if m.msgId ∈ msgIdV then c
  else
    { newBuffer := c.newBuffer ++ segment dataBuff m.fileOffset m.nxsFileLen
      newOffset := add32 c.newOffset m.nxsFileLen
      updates := c.updates ++ [⟨m.msgId, c.newOffset, m.nxsFileLen⟩] }

namespace RsDataService

variable (store : RsDataService)

/-- What the file `<grpId>-msgs` contains. -/
def file (grpId : RsGxsGroupId) : List UInt8 := (store.files.get? grpId).getD []

/-- The loop body of `storeMessage`. -/
def storeOne (p : RsNxsMsg × RsGxsMsgMetaData) : RsDataService :=
  if !validSize p.1 then store
  else
    let offset := (store.file p.1.grpId).length % 2 ^ 32
    { store with
      files := store.files.insert p.1.grpId (store.file p.1.grpId ++ p.1.msg.setTlv store.mServType)
      msgs := store.msgs.sqlInsert (msgRow store.mServType p.1 p.2 offset) }

/-- `storeMessage`. -/
def storeMessage (msg : List (RsNxsMsg × RsGxsMsgMetaData)) : RsDataService :=
  msg.foldl storeOne store

/-- The loop body of `removeMsgs`: the messages of a group. -/
def removeOne (e : RsGxsGroupId × List RsGxsMessageId) : RsDataService :=
  let msgOffsets := store.msgs.sqlQuery e.1 none
  let c := msgOffsets.foldl (Compaction.keep (store.file e.1) e.2) ⟨[], 0, []⟩
  { store with
    files := store.files.insert e.1 c.newBuffer
    msgs := e.2.foldl (fun table msgId => table.sqlDelete e.1 msgId)
      (c.updates.foldl (fun table up => table.sqlUpdate e.1 up) store.msgs) }

/-- `removeMsgs`. -/
def removeMsgs (msgIds : GxsMsgReq) : RsDataService := msgIds.toList.foldl removeOne store

/-- `locked_getMessage`. -/
def getMessage (row : MsgRow) : Option RsNxsMsg :=
  if row.grpId = 0 ∨ row.msgId = 0 then none
  else do
    let file ← store.files.get? row.nxsFile
    let msg ← TlvData.getTlv store.mServType (segment file row.fileOffset row.nxsFileLen)
      row.nxsFileLen
    let metaBin := TlvData.getTlv store.mServType row.metaTlv row.metaTlv.length
    some ⟨row.grpId, row.msgId, msg, metaBin.getD ⟨[], by decide⟩⟩

/-- `retrieveNxsMsgs`, less the metadata that it adds when these are asked for. -/
def retrieveNxsMsgs (reqIds : GxsMsgReq) : OrdMap RsGxsGroupId (List RsNxsMsg) :=
  reqIds.map fun grpId msgIdV => (store.msgs.query grpId msgIdV).filterMap store.getMessage

end RsDataService

/-! ### Runs -/

/-- The calls that change the messages. -/
inductive Op where
  | store (msg : List (RsNxsMsg × RsGxsMsgMetaData))
  | remove (msgIds : GxsMsgReq)

/-- The service under its calls. -/
def machine : Machine RsDataService Op Unit where
  step
    | store, .store msg => (store.storeMessage msg, [])
    | store, .remove msgIds => (store.removeMsgs msgIds, [])

/-- Messages with their metadata. -/
abbrev Ledger := List (RsNxsMsg × RsGxsMsgMetaData)

namespace Ledger

/-- A message takes the place of the one that was stored under its identifiers. -/
def put (l : Ledger) (p : RsNxsMsg × RsGxsMsgMetaData) : Ledger :=
  if !validSize p.1 then l
  else
    l.filter (fun q => ¬(q.2.mGroupId = p.2.mGroupId ∧ q.2.mMsgId = p.2.mMsgId)) ++ [p]

/-- A message is added unless there is one of its identifier. -/
def add (l : Ledger) (p : RsNxsMsg × RsGxsMsgMetaData) : Ledger :=
  if !validSize p.1 then l
  else if p.2.mMsgId ∈ l.map (·.2.mMsgId) then l
  else l ++ [p]

/-- The messages that a request does not name. -/
def remove (l : Ledger) (msgIds : GxsMsgReq) : Ledger :=
  l.filter fun q => q.2.mMsgId ∉ (msgIds.get? q.2.mGroupId).getD []

/-- The messages that have been stored and not removed since, when `record` keeps the account of
what is stored. -/
def run (record : Ledger → RsNxsMsg × RsGxsMsgMetaData → Ledger) :
    Ledger → List Op → Ledger
  | l, [] => l
  | l, .store msg :: ops => run record (msg.foldl record l) ops
  | l, .remove msgIds :: ops => run record (l.remove msgIds) ops

end Ledger

/-- Every request that asks for a message gets it, and under its identifiers only with its data and
`meta`. -/
def RsDataService.Returns (store : RsDataService) (p : RsNxsMsg × RsGxsMsgMetaData) : Prop :=
  ∀ (req : GxsMsgReq) (msgIdV : List RsGxsMessageId),
    req.get? p.2.mGroupId = some msgIdV → msgIdV = [] ∨ p.2.mMsgId ∈ msgIdV →
    ∃ msgV, (store.retrieveNxsMsgs req).get? p.2.mGroupId = some msgV ∧
      (∀ x ∈ msgV, x.msgId = p.2.mMsgId →
        x.grpId = p.2.mGroupId ∧ x.msg = p.1.msg ∧ x.metaBin = p.1.metaBin) ∧
      ∃ x ∈ msgV, x.msgId = p.2.mMsgId

/-- The messages that are recorded over the calls are returned after them. -/
def ReadsBack (record : Ledger → RsNxsMsg × RsGxsMsgMetaData → Ledger) (store : RsDataService)
    (ops : List Op) : Prop :=
  ∀ p ∈ Ledger.run record [] ops, (machine.run store ops).Returns p

/-- A call leaves no file of 2 GB or more. -/
def Small (store : RsDataService) (op : Op) : Prop :=
  ∀ e ∈ (machine.next store op).files.toList, e.2.length < 2 ^ 31

/-- A call stores messages only whose group is the one in their metadata, and whose identifiers are
not null. -/
def Op.Named : Op → Prop
  | .store msg =>
      ∀ p ∈ msg, p.1.grpId = p.2.mGroupId ∧ p.2.mGroupId ≠ 0 ∧ p.2.mMsgId ≠ 0
  | .remove _ => True

end Gxs.Files
