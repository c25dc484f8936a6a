import Mathlib.Data.Prod.Lex
import RetroShare.Gxs.DataService
import RetroShare.Lib.Machine

/-!
# Transactions

`RsGxsNetService` exchanges groups and messages with peers in transactions, each of which is known
by the peer that has started it and by a number.  The sender announces a transaction with the
number of its items, the receiver answers that it may begin, the items follow, and the receiver
confirms them.  The transactions that the node has started are kept under its own identifier, and
the others under the identifier of the peer.

The state of the service is here in full; what this module says is how transactions are started,
driven by packets, and driven by the clock.  An operation reads the clock once, and times are taken
to fit their 32 bits.
-/

namespace Gxs

/-! ### Items -/

/-- `RsNxsSyncGrpItem`, less its flag. -/
structure RsNxsSyncGrpItem where
  grpId : RsGxsGroupId
  publishTs : Nat
  authorId : RsGxsId
  deriving DecidableEq

/-- `RsNxsSyncMsgItem`, less its flag. -/
structure RsNxsSyncMsgItem where
  grpId : RsGxsGroupId
  msgId : RsGxsMessageId
  authorId : RsGxsId
  deriving DecidableEq

/-- The class of an `RsNxsItem` and its fields; `other` is a class that no function looks for. -/
inductive NxsBody
  | transac (transactFlag : UInt16) (nItems updateTS : Nat)
  | syncGrp (updateTS : Nat)
  | syncGrpItem (item : RsNxsSyncGrpItem)
  | grp (grp : RsNxsGrp)
  | syncMsg (grpId : RsGxsGroupId) (updateTS : Nat)
  | syncMsgItem (item : RsNxsSyncMsgItem)
  | msg (msg : RsNxsMsg)
  | publishKey (grpId : RsGxsGroupId) (key : RsTlvSecurityKey)
  | other
  deriving DecidableEq

/-- `RsNxsItem`: the peer is the one that it comes from or goes to. -/
structure RsNxsItem where
  peerId : RsPeerId
  transactionNumber : Nat
  body : NxsBody
  deriving DecidableEq

/-- `dynamic_cast` to `RsNxsSyncGrpItem`. -/
def RsNxsItem.toSyncGrpItem? (item : RsNxsItem) : Option RsNxsSyncGrpItem :=
  match item.body with
  | .syncGrpItem item => some item
  | _ => none

/-- `dynamic_cast` to `RsNxsSyncMsgItem`. -/
def RsNxsItem.toSyncMsgItem? (item : RsNxsItem) : Option RsNxsSyncMsgItem :=
  match item.body with
  | .syncMsgItem item => some item
  | _ => none

/-- `dynamic_cast` to `RsNxsGrp`. -/
def RsNxsItem.toGrp? (item : RsNxsItem) : Option RsNxsGrp :=
  match item.body with
  | .grp grp => some grp
  | _ => none

/-- `dynamic_cast` to `RsNxsMsg`. -/
def RsNxsItem.toMsg? (item : RsNxsItem) : Option RsNxsMsg :=
  match item.body with
  | .msg msg => some msg
  | _ => none

/-- `RsNxsTransac`. -/
structure RsNxsTransac where
  peerId : RsPeerId
  transactionNumber : Nat
  transactFlag : UInt16
  nItems : Nat
  updateTS : Nat
  deriving DecidableEq

/-- An `RsNxsTransac` as an item. -/
def RsNxsTransac.toItem (transac : RsNxsTransac) : RsNxsItem :=
  ⟨transac.peerId, transac.transactionNumber,
    .transac transac.transactFlag transac.nItems transac.updateTS⟩

/-- `FLAG_BEGIN_P1`. -/
def flagBeginP1 : UInt16 := 0x0001

/-- `FLAG_BEGIN_P2`. -/
def flagBeginP2 : UInt16 := 0x0002

/-- `FLAG_END_SUCCESS`. -/
def flagEndSuccess : UInt16 := 0x0004

/-- `FLAG_TYPE_MASK`. -/
def flagTypeMask : UInt16 := 0xff00

/-- `FLAG_TYPE_GRP_LIST_RESP`. -/
def flagTypeGrpListResp : UInt16 := 0x0100

/-- `FLAG_TYPE_MSG_LIST_RESP`. -/
def flagTypeMsgListResp : UInt16 := 0x0200

/-- `FLAG_TYPE_GRP_LIST_REQ`. -/
def flagTypeGrpListReq : UInt16 := 0x0400

/-- `FLAG_TYPE_MSG_LIST_REQ`. -/
def flagTypeMsgListReq : UInt16 := 0x0800

/-- `FLAG_TYPE_GRPS`. -/
def flagTypeGrps : UInt16 := 0x1000

/-- `FLAG_TYPE_MSGS`. -/
def flagTypeMsgs : UInt16 := 0x2000

/-- `flag & bits`, as a condition. -/
def hasFlag (flag bits : UInt16) : Bool := flag &&& bits ≠ 0

/-! ### The state of the service -/

/-- `NxsTransaction::FLAG_STATE`. -/
inductive TransactionState
  | starting
  | receiving
  | sending
  | completed
  | failed
  | waitingConfirm
  deriving DecidableEq

/-- `NxsTransaction`. -/
structure NxsTransaction where
  mFlag : TransactionState
  mTimeOut : Nat
  mTransaction : RsNxsTransac
  mItems : List RsNxsItem
  deriving DecidableEq

/-- `MsgAuthEntry`. -/
structure MsgAuthEntry where
  mMsgId : RsGxsMessageId
  mGrpId : RsGxsGroupId
  mAuthorId : RsGxsId
  mPassedVetting : Bool
  deriving DecidableEq

/-- `GrpAuthEntry`. -/
structure GrpAuthEntry where
  mGrpId : RsGxsGroupId
  mAuthorId : RsGxsId
  mPassedVetting : Bool
  deriving DecidableEq

/-- `AuthorPending`, which is a `MsgRespPending` or a `GrpRespPending`. -/
inductive AuthorPending
  | msg (mTimeStamp : Nat) (mPeerId : RsPeerId) (mMsgAuthV : List MsgAuthEntry) (mCutOff : Int)
  | grp (mTimeStamp : Nat) (mPeerId : RsPeerId) (mGrpAuthV : List GrpAuthEntry) (mCutOff : Int)
  deriving DecidableEq

/-- `GrpIdCircleVet`. -/
structure GrpIdCircleVet where
  mGroupId : RsGxsGroupId
  mCircleId : RsGxsCircleId
  mAuthorId : RsGxsId
  mCleared : Bool
  deriving DecidableEq

/-- `MsgIdCircleVet`. -/
structure MsgIdCircleVet where
  mMsgId : RsGxsMessageId
  mAuthorId : RsGxsId
  deriving DecidableEq

/-- `GrpCircleVetting`, which is a `GrpCircleIdRequestVetting` or a
`MsgCircleIdsRequestVetting`. -/
inductive GrpCircleVetting
  | grpId (mTimeStamp : Nat) (mGrpCircleV : List GrpIdCircleVet) (mPeerId : RsPeerId)
  | msgId (mTimeStamp : Nat) (mMsgs : List MsgIdCircleVet) (mGrpId : RsGxsGroupId)
      (mPeerId : RsPeerId) (mCircleId : RsGxsCircleId)
  deriving DecidableEq

/-- `RsGxsMsgUpdateItem::MsgUpdateInfo`. -/
structure MsgUpdateInfo where
  timeStamp : Nat
  messageCount : Nat
  deriving DecidableEq

/-- What stops the service for good. -/
inductive Fault
  | nullPointer
  | endlessLoop
  deriving DecidableEq

/-- What the service does that others can see, the numbers that it takes for transactions, and the
transactions that it starts and processes. -/
inductive NetEvent
  | sendItem (item : RsNxsItem)
  | getTransactionId
  | addTransaction (peerId : RsPeerId) (tr : NxsTransaction)
  | processCompletedIncoming (tr : NxsTransaction)
  | processCompletedOutgoing (tr : NxsTransaction)
  | notifyNewGroups (grps : List RsNxsGrp)
  | notifyNewMessages (msgs : List RsNxsMsg)
  | notifyReceivePublishKey (grpId : RsGxsGroupId)
  deriving DecidableEq

/-- The key of a transaction in `mTransactions`: the peer, and the number. -/
abbrev TransactionKey := RsPeerId ×ₗ Nat

/-- `RsGxsNetService`.  A `std::set` is a list, and `out` is what an operation has done so far. -/
structure RsGxsNetService where
  mTransactionN : Nat
  mTransactions : OrdMap TransactionKey NxsTransaction
  mComplTransactions : List NxsTransaction
  mPendingResp : List AuthorPending
  mPendingCircleVets : List GrpCircleVetting
  mClientGrpUpdateMap : OrdMap RsPeerId Nat
  mClientMsgUpdateMap : OrdMap RsPeerId (OrdMap RsGxsGroupId MsgUpdateInfo)
  mServerMsgUpdateMap : OrdMap RsGxsGroupId Nat
  mGrpServerUpdateItem : Option Nat
  mPartialMsgUpdates : OrdMap RsPeerId (List RsGxsGroupId)
  mExplicitRequest : OrdMap RsPeerId (List RsGxsGroupId)
  mPendingPublishKeyRecipients : OrdMap RsGxsGroupId (List RsPeerId)
  mDataStore : RsDataService
  out : List NetEvent
  fault : Option Fault

/-- What does not change: the own identifier, whether groups and messages are synchronised, which
keys are in a circle, and the keys of peers. -/
structure NetConfig where
  mOwnId : RsPeerId
  mGrpAutoSync : Bool
  mAllowMsgSync : Bool
  canSend : RsGxsCircleId → RsPgpId → Bool
  getPGPId : RsPeerId → RsPgpId

/-- What the clock and other services answer during an operation. -/
structure NetEnv where
  now : Nat
  isLoaded : RsGxsCircleId → Bool
  haveReputation : RsGxsId → Bool
  getReputation : RsGxsId → Int
  onlineList : List RsPeerId
  drawn : RsPeerId → RsGxsGroupId → Bool

/-- `TRANSAC_TIMEOUT`. -/
def transacTimeout : Nat := 2000

namespace RsGxsNetService

variable (cfg : NetConfig) (env : NetEnv) (svc : RsGxsNetService)

/-- `sendItem`. -/
def sendItem (item : RsNxsItem) : RsGxsNetService :=
  { svc with out := svc.out ++ [.sendItem item] }

/-- `locked_getTransactionId` without its result, which is the new `mTransactionN`. -/
def getTransactionId : RsGxsNetService :=
  { svc with
    mTransactionN := (svc.mTransactionN + 1) % 2 ^ 32
    out := svc.out ++ [.getTransactionId] }

/-! ### Transactions that are started -/

/-- `locked_addTransaction`, for a transaction with `peerId`. -/
def addTransaction (peerId : RsPeerId) (tr : NxsTransaction) : RsGxsNetService :=
  let key : TransactionKey := toLex (tr.mTransaction.peerId, tr.mTransaction.transactionNumber)
  if (svc.mTransactions.get? key).isSome then
    svc
  else
    { svc with
      mTransactions := svc.mTransactions.insert key tr
      out := svc.out ++ [.addTransaction peerId tr] }

/-- What the functions that start a transaction have in common: it is announced to the peer, and
added with the own identifier in the place of the peer's. -/
def pushTransaction (type : UInt16) (updateTS : Nat) (items : List RsNxsItem) (peerId : RsPeerId)
    (transN : Nat) : RsGxsNetService :=
  let transac : RsNxsTransac :=
    ⟨peerId, transN, flagBeginP1 ||| type, items.length % 2 ^ 32, updateTS⟩
  (svc.sendItem transac.toItem).addTransaction peerId
    ⟨.waitingConfirm, env.now + transacTimeout, { transac with peerId := cfg.mOwnId }, items⟩

/-- `locked_pushMsgTransactionFromList`. -/
def pushMsgTransactionFromList (reqList : List RsNxsItem) (peerId : RsPeerId) (transN : Nat) :
    RsGxsNetService :=
  svc.pushTransaction cfg env flagTypeMsgListReq 0 reqList peerId transN

/-- `locked_pushGrpTransactionFromList`. -/
def pushGrpTransactionFromList (reqList : List RsNxsItem) (peerId : RsPeerId) (transN : Nat) :
    RsGxsNetService :=
  svc.pushTransaction cfg env flagTypeGrpListReq 0 reqList peerId transN

/-- `locked_pushGrpRespFromList`. -/
def pushGrpRespFromList (respList : List RsNxsItem) (peer : RsPeerId) (transN : Nat) :
    RsGxsNetService :=
  svc.pushTransaction cfg env flagTypeGrpListResp 0 respList peer transN

/-- `locked_pushMsgRespFromList`. -/
def pushMsgRespFromList (itemL : List RsNxsItem) (sslId : RsPeerId) (transN : Nat) :
    RsGxsNetService :=
  svc.pushTransaction cfg env flagTypeMsgListResp 0 itemL sslId transN

section Frame

variable {cfg env svc} {type : UInt16} {updateTS transN : Nat} {items : List RsNxsItem}
  {peerId : RsPeerId} {tr : NxsTransaction}

@[simp]
theorem addTransaction_fault :
  (svc.addTransaction peerId tr).fault = svc.fault
  := by
  rw [addTransaction]
  split <;> rfl

@[simp]
theorem addTransaction_mDataStore :
  (svc.addTransaction peerId tr).mDataStore = svc.mDataStore
  := by
  rw [addTransaction]
  split <;> rfl

@[simp]
theorem pushTransaction_fault :
  (svc.pushTransaction cfg env type updateTS items peerId transN).fault = svc.fault
  := addTransaction_fault

@[simp]
theorem pushTransaction_mDataStore :
  (svc.pushTransaction cfg env type updateTS items peerId transN).mDataStore = svc.mDataStore
  := addTransaction_mDataStore

end Frame

/-! ### Transactions that packets drive -/

/-- `locked_processTransac`.  For `FLAG_BEGIN_P2` and `FLAG_END_SUCCESS` the transaction is looked
for among the own ones, whoever has sent the packet. -/
def processTransac (item : RsNxsTransac) : RsGxsNetService :=
  let peer := if hasFlag item.transactFlag (flagBeginP2 ||| flagEndSuccess) then cfg.mOwnId
    else item.peerId
  let key : TransactionKey := toLex (peer, item.transactionNumber)
  if hasFlag item.transactFlag flagBeginP1 then
    if (svc.mTransactions.get? key).isSome then
      svc
    else
      { svc with
        mTransactions := svc.mTransactions.insert key
          ⟨.starting, env.now + transacTimeout, item, []⟩ }
  else if hasFlag item.transactFlag flagBeginP2 then
    match svc.mTransactions.get? key with
    | none => svc
    | some tr =>
        { svc with mTransactions := svc.mTransactions.insert key { tr with mFlag := .sending } }
  else if hasFlag item.transactFlag flagEndSuccess then
    match svc.mTransactions.get? key with
    | none => svc
    | some tr =>
        { svc with mTransactions := svc.mTransactions.insert key { tr with mFlag := .completed } }
  else
    svc

/-- `handleTransaction`. -/
def handleTransaction (item : RsNxsItem) : RsGxsNetService :=
  match item.body with
  | .transac transactFlag nItems updateTS =>
      svc.processTransac cfg env
        ⟨item.peerId, item.transactionNumber, transactFlag, nItems, updateTS⟩
  | _ =>
      let key : TransactionKey := toLex (item.peerId, item.transactionNumber)
      match svc.mTransactions.get? key with
      | none => svc
      | some tr =>
          { svc with
            mTransactions := svc.mTransactions.insert key { tr with mItems := tr.mItems ++ [item] } }

/-! ### Transactions that the clock drives -/

/-- A transaction after a turn of the loops of `processTransactions`, the items that are sent, and
whether it moves to `mComplTransactions`. -/
structure Turn where
  tr : NxsTransaction
  sent : List RsNxsItem
  moved : Bool

/-- The transaction fails. -/
def Turn.fail (tr : NxsTransaction) : Turn := ⟨{ tr with mFlag := .failed }, [], true⟩

/-- The body of the loop of `processTransactions` over the own transactions. -/
def processOutgoing (tr : NxsTransaction) : Turn :=
  if tr.mTimeOut < env.now then
    Turn.fail tr
  else
    match tr.mFlag with
    | .sending => ⟨{ tr with mFlag := .waitingConfirm, mItems := [] }, tr.mItems, false⟩
    | .waitingConfirm => ⟨tr, [], false⟩
    | .completed => ⟨tr, [], true⟩
    | _ => Turn.fail tr

/-- The body of the loop of `processTransactions` over the transactions of peers. -/
def processIncoming (tr : NxsTransaction) : Turn :=
  let transac := tr.mTransaction
  if tr.mTimeOut < env.now then
    Turn.fail tr
  else
    match tr.mFlag with
    | .receiving =>
        if tr.mItems.length = transac.nItems then ⟨{ tr with mFlag := .completed }, [], false⟩
        else ⟨tr, [], false⟩
    | .completed =>
        ⟨tr, [RsNxsTransac.toItem
          ⟨transac.peerId, transac.transactionNumber, flagEndSuccess, 0, 0⟩], true⟩
    | .starting =>
        ⟨{ tr with mFlag := .receiving },
          [RsNxsTransac.toItem ⟨transac.peerId, transac.transactionNumber,
            flagBeginP2 ||| (transac.transactFlag &&& flagTypeMask), 0, 0⟩], false⟩
    | _ => Turn.fail tr

/-- A turn of a transaction. -/
def turn (key : TransactionKey) (tr : NxsTransaction) : Turn :=
  if (ofLex key).1 = cfg.mOwnId then processOutgoing env tr else processIncoming env tr

/-- `processTransactions`. -/
def processTransactions : RsGxsNetService :=
  let turns := svc.mTransactions.map fun key tr => turn cfg env key tr
  { svc with
    mTransactions := (turns.filter fun _ t => !t.moved).map fun _ t => t.tr
    mComplTransactions := svc.mComplTransactions ++
      (turns.toList.filter fun e => e.2.moved).map fun e => e.2.tr
    out := svc.out ++ turns.toList.flatMap fun e => e.2.sent.map .sendItem }

end RsGxsNetService

end Gxs
