import RetroShare.Gxs.Transactions

/-!
# The exchange of groups and messages

`RsGxsNetService` asks its peers for what is new, answers them with lists of groups and messages,
requests what it does not have from such lists, and sends what is requested.  Authors of unknown
reputation, and circles that are not loaded, put a request or an answer into a queue where it is
vetted.

The service is a machine: an input is a packet, a call of another part of the program, a part of a
tick, or a change of the store.  A pointer to metadata that is dereferenced while it is null, and a
loop that does not end, stop the service.  The statistics of groups, the bandwidth, and the order
of the parts of a tick are not modelled.
-/

namespace Gxs

/-- `GXS_CIRCLE_TYPE_PUBLIC`. -/
def circleTypePublic : Nat := 1

/-- `GXS_CIRCLE_TYPE_EXTERNAL`. -/
def circleTypeExternal : Nat := 2

/-- `GXS_CIRCLE_TYPE_YOUREYESONLY`. -/
def circleTypeYourEyesOnly : Nat := 3

/-- `GXS_CIRCLE_TYPE_LOCAL`. -/
def circleTypeLocal : Nat := 4

/-- `GROUP_SUBSCRIBE_PUBLISH`. -/
def groupSubscribePublish : UInt32 := 0x02

/-- `GROUP_SUBSCRIBE_SUBSCRIBED`. -/
def groupSubscribeSubscribed : UInt32 := 0x04

/-- `RSTLV_KEY_TYPE_FULL`. -/
def keyTypeFull : UInt32 := 0x0002

/-- `RSTLV_KEY_DISTRIB_PUBLISH`. -/
def keyDistribPublish : UInt32 := 0x0020

/-- `RSTLV_KEY_DISTRIB_ADMIN`. -/
def keyDistribAdmin : UInt32 := 0x0040

/-- `MAX_REQLIST_SIZE`. -/
def maxReqListSize : Nat := 20

/-- `GIXS_CUT_OFF`. -/
def gixsCutOff : Int := 0

/-- `AuthorPending::EXPIRY_PERIOD_OFFSET`. -/
def authorExpiryPeriodOffset : Nat := 30

/-- `GrpCircleVetting::EXPIRY_PERIOD_OFFSET`. -/
def circleExpiryPeriodOffset : Nat := 5

/-- The group is subscribed. -/
def RsGxsGrpMetaData.subscribed (grpMeta : RsGxsGrpMetaData) : Bool :=
  grpMeta.mSubscribeFlags &&& groupSubscribeSubscribed ≠ 0

/-- `circleType`, which is a `uint8_t`. -/
def RsGxsGrpMetaData.circleType (grpMeta : RsGxsGrpMetaData) : Nat := grpMeta.mCircleType % 2 ^ 8

namespace RsGxsNetService

variable (cfg : NetConfig) (env : NetEnv) (svc : RsGxsNetService) (peerId peer : RsPeerId)
  (grpId : RsGxsGroupId) (tr : NxsTransaction)

/-- A pointer is dereferenced. -/
def deref {α : Type} (pointer : Option α) (f : α → RsGxsNetService) : RsGxsNetService :=
  match pointer with
  | none => { svc with fault := some .nullPointer }
  | some value => f value

/-- The service tells others of an event. -/
def emit (event : NetEvent) : RsGxsNetService := { svc with out := svc.out ++ [event] }

/-! ### Circles -/

/-- `mCircles->canSend` for a peer. -/
def circleAllows (circleId : RsGxsCircleId) (sslId : RsPeerId) : Bool :=
  cfg.canSend circleId (cfg.getPGPId sslId)

/-- `canSendGrpId`: whether the group can be sent, and the circle that has to be loaded before. -/
def canSendGrpId (sslId : RsPeerId) (grpMeta : RsGxsGrpMetaData) : Bool × List GrpIdCircleVet :=
  if grpMeta.circleType = circleTypeLocal then
    (false, [])
  else if grpMeta.circleType = circleTypePublic then
    (true, [])
  else if grpMeta.circleType = circleTypeExternal then
    if grpMeta.mCircleId = 0 then (false, [])
    else if env.isLoaded grpMeta.mCircleId then (circleAllows cfg grpMeta.mCircleId sslId, [])
    else (false, [⟨grpMeta.mGroupId, grpMeta.mCircleId, grpMeta.mAuthorId, false⟩])
  else if grpMeta.circleType = circleTypeYourEyesOnly then
    if grpMeta.mInternalCircle ≠ 0 then
      if env.isLoaded grpMeta.mInternalCircle then
        (circleAllows cfg grpMeta.mInternalCircle sslId, [])
      else
        (false, [⟨grpMeta.mGroupId, grpMeta.mInternalCircle, grpMeta.mAuthorId, false⟩])
    else
      (grpMeta.mOriginator = sslId, [])
  else
    (true, [])

/-- `checkCanRecvMsgFromPeer`. -/
def checkCanRecvMsgFromPeer (sslId : RsPeerId) (grpMeta : RsGxsGrpMetaData) : Bool :=
  if grpMeta.circleType = circleTypeLocal then
    false
  else if grpMeta.circleType = circleTypePublic then
    true
  else if grpMeta.circleType = circleTypeExternal then
    env.isLoaded grpMeta.mCircleId && circleAllows cfg grpMeta.mCircleId sslId
  else if grpMeta.circleType = circleTypeYourEyesOnly then
    if grpMeta.mInternalCircle ≠ 0 then
      env.isLoaded grpMeta.mInternalCircle && circleAllows cfg grpMeta.mInternalCircle sslId
    else
      grpMeta.mOriginator = sslId
  else
    true

/-- The entry of `canSendMsgIds` in the queue: it has the circle of the group, also where the
internal circle has been looked at. -/
def msgIdVetting (msgMetas : List RsGxsMsgMetaData) (grpMeta : RsGxsGrpMetaData)
    (sslId : RsPeerId) : List GrpCircleVetting :=
  if msgMetas = [] then []
  else
    [.msgId env.now (msgMetas.map fun m => ⟨m.mMsgId, m.mAuthorId⟩) grpMeta.mGroupId sslId
      grpMeta.mCircleId]

/-- `canSendMsgIds`: whether the messages can be sent, and what has to be vetted before. -/
def canSendMsgIds (msgMetas : List RsGxsMsgMetaData) (grpMeta : RsGxsGrpMetaData)
    (sslId : RsPeerId) : Bool × List GrpCircleVetting :=
  if grpMeta.circleType = circleTypeLocal then
    (false, [])
  else if grpMeta.circleType = circleTypePublic then
    (true, [])
  else if grpMeta.circleType = circleTypeExternal then
    if env.isLoaded grpMeta.mCircleId then (circleAllows cfg grpMeta.mCircleId sslId, [])
    else (false, msgIdVetting env msgMetas grpMeta sslId)
  else if grpMeta.circleType = circleTypeYourEyesOnly then
    if grpMeta.mInternalCircle ≠ 0 then
      if env.isLoaded grpMeta.mInternalCircle then
        (circleAllows cfg grpMeta.mInternalCircle sslId, [])
      else
        (false, msgIdVetting env msgMetas grpMeta sslId)
    else
      (grpMeta.mOriginator = sslId, [])
  else
    (true, [])

/-- `GrpCircleVetting::canSend`. -/
def vettingCanSend (circleId : RsGxsCircleId) : Bool :=
  env.isLoaded circleId && circleAllows cfg circleId peerId

/-! ### Requests of peers -/

/-- The item of a list of groups. -/
def grpListItem (transN : Nat) (grpMeta : RsGxsGrpMetaData) : RsNxsItem :=
  ⟨peer, transN, .syncGrpItem ⟨grpMeta.mGroupId, grpMeta.mPublishTs, grpMeta.mAuthorId⟩⟩

/-- `locked_CanReceiveUpdate`, for groups. -/
def canReceiveGrpUpdate (updateTS : Nat) : Bool :=
  svc.mGrpServerUpdateItem.all fun grpUpdateTS => updateTS = 0 || updateTS < grpUpdateTS

/-- The metadata of all groups. -/
def allGrpMetas : List RsGxsGrpMetaData :=
  (svc.mDataStore.retrieveGxsGrpMetaData OrdMap.empty).toList.filterMap Prod.snd

/-- `handleRecvSyncGroup`. -/
def handleRecvSyncGroup (updateTS : Nat) : RsGxsNetService :=
  if !svc.canReceiveGrpUpdate updateTS then
    svc
  else if svc.allGrpMetas = [] then
    svc
  else
    let svc := svc.getTransactionId
    let transN := svc.mTransactionN
    let subscribed := svc.allGrpMetas.filter RsGxsGrpMetaData.subscribed
    let toVet := subscribed.flatMap fun grpMeta => (canSendGrpId cfg env peer grpMeta).2
    let itemL := (subscribed.filter fun grpMeta => (canSendGrpId cfg env peer grpMeta).1).map
      (grpListItem peer transN)
    let svc := if toVet = [] then svc
      else { svc with mPendingCircleVets := svc.mPendingCircleVets ++ [.grpId env.now toVet peer] }
    svc.pushGrpRespFromList cfg env itemL peer transN

/-- The item of a list of messages. -/
def msgListItem (transN : Nat) (m : RsGxsMsgMetaData) : RsNxsItem :=
  ⟨peer, transN, .syncMsgItem ⟨m.mGroupId, m.mMsgId, m.mAuthorId⟩⟩

/-- `locked_CanReceiveUpdate`, for messages. -/
def canReceiveMsgUpdate (updateTS : Nat) : Bool :=
  (svc.mServerMsgUpdateMap.get? grpId).all fun msgUpdateTS =>
    updateTS < msgUpdateTS || updateTS = 0

/-- The metadata of the messages of a group. -/
def msgMetasOf : List RsGxsMsgMetaData :=
  ((svc.mDataStore.retrieveGxsMsgMetaData (OrdMap.empty.insert grpId [])).get? grpId).getD []

/-- `handleRecvSyncMessage`. -/
def handleRecvSyncMessage (grpId : RsGxsGroupId) (updateTS : Nat) :
    RsGxsNetService :=
  if !svc.canReceiveMsgUpdate grpId updateTS then
    svc
  else
    let grpMeta := svc.mDataStore.grpMeta? grpId
    if grpMeta = none then
      svc
    else
      svc.deref grpMeta fun grpMeta =>
        if !grpMeta.subscribed then
          svc
        else
          let msgMetas := svc.msgMetasOf grpId
          let svc := svc.getTransactionId
          let transN := svc.mTransactionN
          let (canSend, toVet) := canSendMsgIds cfg env msgMetas grpMeta peer
          let svc := { svc with mPendingCircleVets := svc.mPendingCircleVets ++ toVet }
          if canSend ∧ msgMetas ≠ [] then
            svc.pushMsgRespFromList cfg env (msgMetas.map (msgListItem peer transN)) peer transN
          else
            svc

/-- A full publish key, and not a full admin key. -/
def publishPrivateKey (key : RsTlvSecurityKey) : Bool :=
  let admin := key.keyFlags &&& keyDistribAdmin ≠ 0 && key.keyFlags &&& keyTypeFull ≠ 0
  let publi := key.keyFlags &&& keyDistribPublish ≠ 0 && key.keyFlags &&& keyTypeFull ≠ 0
  !admin && publi

/-- `handleRecvPublishKeys`. -/
def handleRecvPublishKeys (key : RsTlvSecurityKey) : RsGxsNetService :=
  let grpMeta := svc.mDataStore.grpMeta? grpId
  if !publishPrivateKey key then
    svc
  else
    svc.deref grpMeta fun grpMeta =>
      match grpMeta.keys.get? key.keyId with
      | none => svc
      | some known =>
          if known.keyFlags &&& keyDistribPublish ≠ 0 ∧ known.keyFlags &&& keyTypeFull ≠ 0 then
            svc
          else
            { svc.emit (.notifyReceivePublishKey grpId) with
              mDataStore := svc.mDataStore.updateGroupKeys grpId (grpMeta.keys.insert key.keyId key)
                (grpMeta.mSubscribeFlags ||| groupSubscribePublish) }

/-- The turn of the loop of `recvNxsItemQueue` for an item. -/
def recvNxsItem (item : RsNxsItem) : RsGxsNetService :=
  if item.transactionNumber ≠ 0 then
    svc.handleTransaction cfg env item
  else
    match item.body with
    | .syncGrp updateTS => svc.handleRecvSyncGroup cfg env item.peerId updateTS
    | .syncMsg grpId updateTS => svc.handleRecvSyncMessage cfg env item.peerId grpId updateTS
    | .publishKey grpId key => svc.handleRecvPublishKeys grpId key
    | _ => svc

/-! ### Transactions that are completed -/

/-- `locked_stampPeerGroupUpdateTime`. -/
def stampPeerGroupUpdateTime (pid : RsPeerId) (grpId : RsGxsGroupId) (nMessages : Nat) :
    RsGxsNetService :=
  let infos := (svc.mClientMsgUpdateMap.get? pid).getD OrdMap.empty
  { svc with
    mClientMsgUpdateMap :=
      svc.mClientMsgUpdateMap.insert pid (infos.insert grpId ⟨env.now, nMessages⟩) }

/-- The lists that the loop of `locked_genReqMsgTransaction` fills. -/
structure ReqMsgs where
  reqList : List RsNxsSyncMsgItem
  toVet : List MsgAuthEntry
  reqListSizeExceeded : Bool

/-- The body of the loop of `locked_genReqMsgTransaction`. -/
def reqMsgStep (msgIdSet : List RsGxsMessageId) (cutoff : Int) (r : ReqMsgs)
    (syncItem : RsNxsSyncMsgItem) : ReqMsgs :=
  if r.reqList.length ≥ maxReqListSize then
    { r with reqListSizeExceeded := true }
  else if syncItem.msgId ∈ msgIdSet then
    r
  else
    let noAuthor := syncItem.authorId = 0
    if env.haveReputation syncItem.authorId ∨ noAuthor then
      if noAuthor ∨ env.getReputation syncItem.authorId > cutoff then
        { r with reqList := r.reqList ++ [syncItem] }
      else
        r
    else
      { r with toVet := r.toVet ++ [⟨syncItem.msgId, syncItem.grpId, syncItem.authorId, false⟩] }

/-- The item that requests a message of a group. -/
def msgReqItem (transN : Nat) (grpId : RsGxsGroupId) (msgId : RsGxsMessageId)
    (authorId : RsGxsId) : RsNxsItem :=
  ⟨peer, transN, .syncMsgItem ⟨grpId, msgId, authorId⟩⟩

/-- A group is marked or unmarked as partially updated from a peer. -/
def markPartial (grpId : RsGxsGroupId) (exceeded : Bool) : RsGxsNetService :=
  let grps := (svc.mPartialMsgUpdates.get? peer).getD []
  { svc with
    mPartialMsgUpdates := svc.mPartialMsgUpdates.insert peer
      (if exceeded then grps.insert grpId else grps.filter (· ≠ grpId)) }

/-- `locked_genReqMsgTransaction`. -/
def genReqMsgTransaction : RsGxsNetService :=
  let peerFrom := tr.mTransaction.peerId
  match tr.mItems.filterMap fun item => item.toSyncMsgItem?.map (item.peerId, ·) with
  | [] => svc
  | (pid, first) :: rest =>
      let msgItemL := first :: rest.map Prod.snd
      let grpId := first.grpId
      svc.deref (svc.mDataStore.grpMeta? grpId) fun grpMeta =>
        if !grpMeta.subscribed then
          svc.stampPeerGroupUpdateTime env pid grpId msgItemL.length
        else
          let cutoff := grpMeta.mReputationCutOff
          let msgIdSet := (svc.msgMetasOf grpId).map fun m => m.mMsgId
          let svc := svc.getTransactionId
          let transN := svc.mTransactionN
          let r := msgItemL.foldl (reqMsgStep env msgIdSet cutoff) ⟨[], [], false⟩
          let svc := if r.toVet = [] then svc
            else { svc with
              mPendingResp := svc.mPendingResp ++ [.msg env.now peerFrom r.toVet cutoff] }
          if r.reqList ≠ [] then
            let reqList := r.reqList.map fun item => msgReqItem peerFrom transN grpId item.msgId 0
            (svc.pushMsgTransactionFromList cfg env reqList peerFrom transN).markPartial peerFrom
              grpId r.reqListSizeExceeded
          else
            svc.stampPeerGroupUpdateTime env pid grpId msgItemL.length

/-- The lists that the loop of `locked_genReqGrpTransaction` fills. -/
structure ReqGrps where
  reqList : List RsGxsGroupId
  toVet : List GrpAuthEntry

/-- The body of the loop of `locked_genReqGrpTransaction`. -/
def reqGrpStep (r : ReqGrps) (item : RsNxsSyncGrpItem) : ReqGrps :=
  let grpMeta := (svc.mDataStore.retrieveGxsGrpMetaData OrdMap.empty).get? item.grpId
  let haveItem := grpMeta.isSome
  let latestVersion := grpMeta.any fun grpMeta =>
    grpMeta.any fun grpMeta => item.publishTs > grpMeta.mPublishTs
  if (cfg.mGrpAutoSync ∧ !haveItem) ∨ latestVersion then
    if item.authorId ≠ 0 then
      if env.haveReputation item.authorId then
        if env.getReputation item.authorId ≥ gixsCutOff then
          { r with reqList := r.reqList ++ [item.grpId] }
        else
          r
      else
        { r with toVet := r.toVet ++ [⟨item.grpId, item.authorId, false⟩] }
    else
      { r with reqList := r.reqList ++ [item.grpId] }
  else
    r

/-- The item that requests a group. -/
def grpReqItem (transN : Nat) (grpId : RsGxsGroupId) (authorId : RsGxsId) :
    RsNxsItem :=
  ⟨peer, transN, .syncGrpItem ⟨grpId, 0, authorId⟩⟩

/-- `locked_genReqGrpTransaction`. -/
def genReqGrpTransaction : RsGxsNetService :=
  let peerFrom := tr.mTransaction.peerId
  let grpItemL := tr.mItems.filterMap RsNxsItem.toSyncGrpItem?
  let r := grpItemL.foldl (svc.reqGrpStep cfg env) ⟨[], []⟩
  let svc := svc.getTransactionId
  let transN := svc.mTransactionN
  let svc := if r.toVet = [] then svc
    else { svc with
      mPendingResp := svc.mPendingResp ++ [.grp env.now peerFrom r.toVet 0] }
  if r.reqList ≠ [] then
    let reqList := r.reqList.map fun grpId => grpReqItem peerFrom transN grpId 0
    svc.pushGrpTransactionFromList cfg env reqList peerFrom transN
  else
    svc

/-- The groups that a transaction requests. -/
def requestedGrps : OrdMap RsGxsGroupId (Option RsNxsGrp) :=
  (tr.mItems.filterMap RsNxsItem.toSyncGrpItem?).foldl
    (fun grps item => grps.insert item.grpId none) OrdMap.empty

/-- `locked_genSendGrpsTransaction`.  The pointers to groups are dereferenced. -/
def genSendGrpsTransaction : RsGxsNetService :=
  let requested := requestedGrps tr
  if requested = OrdMap.empty then
    svc
  else
    let grps := svc.mDataStore.retrieveNxsGrps requested
    if grps.toList.any fun e => e.2.isNone then
      { svc with fault := some .nullPointer }
    else
      let svc := svc.getTransactionId
      let transN := svc.mTransactionN
      let peerId := tr.mTransaction.peerId
      let items := (grps.toList.filterMap Prod.snd).map fun grp => ⟨peerId, transN, .grp grp⟩
      if items = [] then svc
      else
        svc.pushTransaction cfg env flagTypeGrps (svc.mGrpServerUpdateItem.getD 0) items peerId
          transN

/-- The messages that a transaction requests. -/
def requestedMsgs : GxsMsgReq :=
  (tr.mItems.filterMap RsNxsItem.toSyncMsgItem?).foldl
    (fun msgIds item =>
      msgIds.insert item.grpId ((msgIds.get? item.grpId).getD [] ++ [item.msgId])) OrdMap.empty

/-- The group of the messages that a transaction requests: the first that is not null. -/
def requestedGrpId : RsGxsGroupId :=
  (((tr.mItems.filterMap RsNxsItem.toSyncMsgItem?).map fun item => item.grpId).find?
    (· ≠ 0)).getD 0

/-- `locked_genSendMsgsTransaction`. -/
def genSendMsgsTransaction : RsGxsNetService :=
  if tr.mItems = [] then
    svc
  else
    let msgs := svc.mDataStore.retrieveNxsMsgs (requestedMsgs tr) false
    let svc := svc.getTransactionId
    let transN := svc.mTransactionN
    let peerId := tr.mTransaction.peerId
    let items := (msgs.toList.flatMap Prod.snd).map fun msg => ⟨peerId, transN, .msg msg⟩
    if items = [] then svc
    else
      svc.pushTransaction cfg env flagTypeMsgs
        ((svc.mServerMsgUpdateMap.get? (requestedGrpId tr)).getD 0) items peerId transN

/-- The loop of `locked_processCompletedIncomingTrans` over the items of a transaction, in as many
turns as `fuel`: an item that does not cast is left in front. -/
def takeItems {α : Type} (cast : RsNxsItem → Option α) :
    (fuel : Nat) → List RsNxsItem → List α → Option (List α)
  | 0, _, _ => none
  | _ + 1, [], taken => some taken
  | fuel + 1, item :: items, taken =>
      match cast item with
      | some value => takeItems cast fuel items (taken ++ [value])
      | none => takeItems cast fuel (item :: items) taken

/-- `locked_doMsgUpdateWork`. -/
def doMsgUpdateWork (nxsTrans : RsNxsTransac) (grpId : RsGxsGroupId) : RsGxsNetService :=
  let peerFrom := nxsTrans.peerId
  let infos := (svc.mClientMsgUpdateMap.get? peerFrom).getD OrdMap.empty
  let grps := (svc.mPartialMsgUpdates.get? peerFrom).getD []
  let messageCount := ((infos.get? grpId).map (·.messageCount)).getD 0
  { svc with
    mPartialMsgUpdates := svc.mPartialMsgUpdates.insert peerFrom grps
    mClientMsgUpdateMap := svc.mClientMsgUpdateMap.insert peerFrom
      (if grpId ∈ grps then infos else infos.insert grpId ⟨nxsTrans.updateTS, messageCount⟩) }

/-- `locked_processCompletedIncomingTrans`, if its loops end in as many turns as `fuel`. -/
def processCompletedIncomingTransIn (fuel : Nat) (tr : NxsTransaction) : Option RsGxsNetService :=
  let flag := tr.mTransaction.transactFlag
  if tr.mFlag ≠ .completed then
    some svc
  else if hasFlag flag flagTypeMsgListResp then
    some (svc.genReqMsgTransaction cfg env tr)
  else if hasFlag flag flagTypeGrpListResp then
    some (svc.genReqGrpTransaction cfg env tr)
  else if hasFlag flag flagTypeMsgListReq then
    some (svc.genSendMsgsTransaction cfg env tr)
  else if hasFlag flag flagTypeGrpListReq then
    some (svc.genSendGrpsTransaction cfg env tr)
  else if hasFlag flag flagTypeGrps then
    (takeItems RsNxsItem.toGrp? fuel tr.mItems []).map fun grps =>
      { svc.emit (.notifyNewGroups grps) with
        mClientGrpUpdateMap :=
          svc.mClientGrpUpdateMap.insert tr.mTransaction.peerId tr.mTransaction.updateTS }
  else if hasFlag flag flagTypeMsgs then
    (takeItems RsNxsItem.toMsg? fuel tr.mItems []).map fun msgs =>
      let grpId := ((msgs.map (·.grpId)).find? (· ≠ 0)).getD 0
      (svc.emit (.notifyNewMessages msgs)).doMsgUpdateWork tr.mTransaction grpId
  else
    some svc

/-- `locked_processCompletedIncomingTrans`, with more turns than items. -/
def processCompletedIncomingTrans : RsGxsNetService :=
  (svc.processCompletedIncomingTransIn cfg env (tr.mItems.length + 1) tr).getD
    { svc with fault := some .endlessLoop }

/-- The turn of the loop of `processCompletedTransactions` for a transaction; nothing more happens
after a fault. -/
def processCompletedTransaction : RsGxsNetService :=
  if svc.fault.isSome then
    svc
  else if tr.mTransaction.peerId = cfg.mOwnId then
    svc.emit (.processCompletedOutgoing tr)
  else
    (svc.emit (.processCompletedIncoming tr)).processCompletedIncomingTrans cfg env tr

/-- `processCompletedTransactions`. -/
def processCompletedTransactions : RsGxsNetService :=
  svc.mComplTransactions.foldl (fun svc tr => svc.processCompletedTransaction cfg env tr)
    { svc with mComplTransactions := [] }

/-! ### Vetting -/

/-- An author has a reputation above the limit. -/
def passesVetting (authorId : RsGxsId) (cutOff : Int) : Bool :=
  env.haveReputation authorId && env.getReputation authorId > cutOff

/-- `MsgRespPending::accepted`, as far as the entries are concerned. -/
def vetMsgs (cutOff : Int) (entries : List MsgAuthEntry) : List MsgAuthEntry :=
  entries.map fun entry =>
    { entry with mPassedVetting := entry.mPassedVetting || passesVetting env entry.mAuthorId cutOff }

/-- `GrpRespPending::accepted`, as far as the entries are concerned. -/
def vetGrps (cutOff : Int) (entries : List GrpAuthEntry) : List GrpAuthEntry :=
  entries.map fun entry =>
    { entry with mPassedVetting := entry.mPassedVetting || passesVetting env entry.mAuthorId cutOff }

/-- `locked_createTransactionFromPending`, for messages whose authors are vetted. -/
def createMsgTransactionFromPending (entries : List MsgAuthEntry) :
    RsGxsNetService :=
  let svc := svc.getTransactionId
  let transN := svc.mTransactionN
  let reqList := (entries.filter (·.mPassedVetting)).map fun entry =>
    msgReqItem peerId transN entry.mGrpId entry.mMsgId entry.mAuthorId
  if reqList ≠ [] then svc.pushMsgTransactionFromList cfg env reqList peerId transN else svc

/-- `locked_createTransactionFromPending`, for groups whose authors are vetted. -/
def createGrpTransactionFromPending (entries : List GrpAuthEntry) :
    RsGxsNetService :=
  let svc := svc.getTransactionId
  let transN := svc.mTransactionN
  let reqList := (entries.filter (·.mPassedVetting)).map fun entry =>
    grpReqItem peerId transN entry.mGrpId entry.mAuthorId
  if reqList ≠ [] then svc.pushGrpTransactionFromList cfg env reqList peerId transN else svc

/-- The body of the first loop of `runVetting`: `ap` stays in the queue, or becomes a
transaction. -/
def vetAuthor (ap : AuthorPending) : RsGxsNetService :=
  match ap with
  | .msg ts peerId entries cutOff =>
      let entries := vetMsgs env cutOff entries
      if entries.all (·.mPassedVetting) || env.now > ts + authorExpiryPeriodOffset then
        svc.createMsgTransactionFromPending cfg env peerId entries
      else
        { svc with mPendingResp := svc.mPendingResp ++ [.msg ts peerId entries cutOff] }
  | .grp ts peerId entries cutOff =>
      let entries := vetGrps env cutOff entries
      if entries.all (·.mPassedVetting) || env.now > ts + authorExpiryPeriodOffset then
        svc.createGrpTransactionFromPending cfg env peerId entries
      else
        { svc with mPendingResp := svc.mPendingResp ++ [.grp ts peerId entries cutOff] }

/-- `GrpCircleIdRequestVetting::cleared`, as far as the entries are concerned. -/
def vetCircles (entries : List GrpIdCircleVet) : List GrpIdCircleVet :=
  entries.map fun entry =>
    { entry with mCleared := entry.mCleared || vettingCanSend cfg env peerId entry.mCircleId }

/-- `locked_createTransactionFromPending`, for groups whose circles are vetted. -/
def createGrpListFromPending (entries : List GrpIdCircleVet) :
    RsGxsNetService :=
  let svc := svc.getTransactionId
  let transN := svc.mTransactionN
  let itemL := (entries.filter (·.mCleared)).map fun entry =>
    grpReqItem peerId transN entry.mGroupId entry.mAuthorId
  if itemL ≠ [] then svc.pushGrpRespFromList cfg env itemL peerId transN else svc

/-- `locked_createTransactionFromPending`, for messages of a group whose circle is vetted. -/
def createMsgListFromPending (grpId : RsGxsGroupId) (msgs : List MsgIdCircleVet) : RsGxsNetService :=
  let svc := svc.getTransactionId
  let transN := svc.mTransactionN
  let itemL := msgs.map fun mic => msgReqItem peerId transN grpId mic.mMsgId mic.mAuthorId
  if itemL ≠ [] then svc.pushMsgRespFromList cfg env itemL peerId transN else svc

/-- The body of the second loop of `runVetting`. -/
def vetCircle (gcv : GrpCircleVetting) : RsGxsNetService :=
  match gcv with
  | .grpId ts entries peerId =>
      let entries := vetCircles cfg env peerId entries
      if entries.all (·.mCleared) || env.now > ts + circleExpiryPeriodOffset then
        svc.createGrpListFromPending cfg env peerId entries
      else
        { svc with mPendingCircleVets := svc.mPendingCircleVets ++ [.grpId ts entries peerId] }
  | .msgId ts msgs grpId peerId circleId =>
      let cleared := vettingCanSend cfg env peerId circleId
      if cleared || env.now > ts + circleExpiryPeriodOffset then
        if cleared then svc.createMsgListFromPending cfg env peerId grpId msgs else svc
      else
        { svc with mPendingCircleVets := svc.mPendingCircleVets ++ [gcv] }

/-- `runVetting`. -/
def runVetting : RsGxsNetService :=
  let svc := svc.mPendingResp.foldl (fun svc ap => svc.vetAuthor cfg env ap)
    { svc with mPendingResp := [] }
  svc.mPendingCircleVets.foldl (fun svc gcv => svc.vetCircle cfg env gcv)
    { svc with mPendingCircleVets := [] }

/-! ### Requests of the node -/

/-- `syncWithPeers`: the times of the last updates are sent to the peers that are online, for
messages as far as the bandwidth allows it. -/
def syncWithPeers : RsGxsNetService :=
  let svc := env.onlineList.foldl (fun svc peerId => svc.sendItem
    ⟨peerId, 0, .syncGrp ((svc.mClientGrpUpdateMap.get? peerId).getD 0)⟩) svc
  if !cfg.mAllowMsgSync then
    svc
  else
    env.onlineList.foldl (fun svc peerId =>
      svc.allGrpMetas.foldl (fun svc grpMeta =>
        if checkCanRecvMsgFromPeer cfg env peerId grpMeta ∧ env.drawn peerId grpMeta.mGroupId then
          let infos := (svc.mClientMsgUpdateMap.get? peerId).getD OrdMap.empty
          let updateTS := ((infos.get? grpMeta.mGroupId).map (·.timeStamp)).getD 0
          svc.sendItem ⟨peerId, 0, .syncMsg grpMeta.mGroupId updateTS⟩
        else
          svc) svc) svc

/-- `processExplicitGroupRequests`, for one peer. -/
def processExplicitGroupRequest (groupIdList : List RsGxsGroupId) :
    RsGxsNetService :=
  let svc := svc.getTransactionId
  let transN := svc.mTransactionN
  let grpSyncItems := groupIdList.map fun grpId => grpReqItem peerId transN grpId 0
  if grpSyncItems ≠ [] then svc.pushGrpTransactionFromList cfg env grpSyncItems peerId transN
  else svc

/-- `processExplicitGroupRequests`. -/
def processExplicitGroupRequests : RsGxsNetService :=
  svc.mExplicitRequest.toList.foldl (fun svc e => svc.processExplicitGroupRequest cfg env e.1 e.2)
    { svc with mExplicitRequest := OrdMap.empty }

/-- The first full publish key of a group. -/
def publishKey (grpMeta : RsGxsGrpMetaData) : Option RsTlvSecurityKey :=
  (grpMeta.keys.toList.map Prod.snd).find? fun key =>
    key.keyFlags = keyDistribPublish ||| keyTypeFull

/-- The body of the loop of `sharePublishKeysPending`. -/
def sharePublishKeyPending (peers : List RsPeerId) : RsGxsNetService :=
  let recipients := peers.filter (· ∈ env.onlineList)
  let offlineRecipients := peers.filter (· ∉ env.onlineList)
  if recipients = [] then
    svc
  else
    let grpMeta := svc.mDataStore.grpMeta? grpId
    if grpMeta = none then
      svc
    else
      svc.deref grpMeta fun grpMeta =>
        match publishKey grpMeta with
        | none => svc
        | some key =>
            let svc := recipients.foldl (fun svc peerId =>
              svc.sendItem ⟨peerId, 0, .publishKey grpId key⟩) svc
            { svc with
              mPendingPublishKeyRecipients :=
                if offlineRecipients = [] then svc.mPendingPublishKeyRecipients.erase grpId
                else svc.mPendingPublishKeyRecipients.insert grpId offlineRecipients }

/-- `sharePublishKeysPending`. -/
def sharePublishKeysPending : RsGxsNetService :=
  svc.mPendingPublishKeyRecipients.toList.foldl
    (fun svc e => svc.sharePublishKeyPending env e.1 e.2) svc

/-- `subscribeStatusChanged`. -/
def subscribeStatusChanged (subscribed : Bool) : RsGxsNetService :=
  if !subscribed then svc
  else
    { svc with
      mClientMsgUpdateMap := svc.mClientMsgUpdateMap.map fun _ infos => infos.erase grpId }

/-- The body of the loop of `updateServerSyncTS`. -/
def updateServerSyncStep (grpMeta : RsGxsGrpMetaData) : RsGxsNetService :=
  let grpUpdateTS := svc.mGrpServerUpdateItem.getD 0
  let msgUpdateTS := (svc.mServerMsgUpdateMap.get? grpMeta.mGroupId).getD 0
  { svc with
    mGrpServerUpdateItem := some (max (max grpUpdateTS grpMeta.mPublishTs) grpMeta.mRecvTS)
    mServerMsgUpdateMap := svc.mServerMsgUpdateMap.insert grpMeta.mGroupId
      (max msgUpdateTS grpMeta.mLastPost) }

/-- `updateServerSyncTS`. -/
def updateServerSyncTS : RsGxsNetService :=
  svc.allGrpMetas.foldl updateServerSyncStep
    { svc with mGrpServerUpdateItem := some (svc.mGrpServerUpdateItem.getD 0) }

end RsGxsNetService

/-! ### The machine -/

/-- The inputs of the service. -/
inductive NetInput
  | recvItem (item : RsNxsItem) (env : NetEnv)
  | updateServerSyncTS
  | processTransactions (env : NetEnv)
  | processCompletedTransactions (env : NetEnv)
  | runVetting (env : NetEnv)
  | processExplicitGroupRequests (env : NetEnv)
  | syncWithPeers (env : NetEnv)
  | sharePublishKeysPending (env : NetEnv)
  | requestGrp (grpId : List RsGxsGroupId) (peerId : RsPeerId)
  | sharePublishKey (grpId : RsGxsGroupId) (peers : List RsPeerId)
  | subscribeStatusChanged (grpId : RsGxsGroupId) (subscribed : Bool)
  | changeStore (store : RsDataService)

namespace RsGxsNetService

variable (cfg : NetConfig) (svc : RsGxsNetService)

/-- One operation of the service. -/
def perform : NetInput → RsGxsNetService
  | .recvItem item env => svc.recvNxsItem cfg env item
  | .updateServerSyncTS => svc.updateServerSyncTS
  | .processTransactions env => svc.processTransactions cfg env
  | .processCompletedTransactions env => svc.processCompletedTransactions cfg env
  | .runVetting env => svc.runVetting cfg env
  | .processExplicitGroupRequests env => svc.processExplicitGroupRequests cfg env
  | .syncWithPeers env => svc.syncWithPeers cfg env
  | .sharePublishKeysPending env => svc.sharePublishKeysPending env
  | .requestGrp grpId peerId =>
      { svc with mExplicitRequest := svc.mExplicitRequest.insert peerId grpId }
  | .sharePublishKey grpId peers =>
      { svc with
        mPendingPublishKeyRecipients := svc.mPendingPublishKeyRecipients.insert grpId peers }
  | .subscribeStatusChanged grpId subscribed => svc.subscribeStatusChanged grpId subscribed
  | .changeStore store => { svc with mDataStore := store }

/-- An operation with what it has done, unless a fault has stopped the service. -/
def step (input : NetInput) : RsGxsNetService × List NetEvent :=
  if svc.fault.isSome then (svc, [])
  else
    let svc := { svc with out := [] }.perform cfg input
    (svc, svc.out)

/-- The machine of the service. -/
def machine : Machine RsGxsNetService NetInput NetEvent where
  step svc input := svc.step cfg input

end RsGxsNetService

/-- What the service has loaded and finds when it starts. -/
structure NetStart where
  mClientGrpUpdateMap : OrdMap RsPeerId Nat
  mClientMsgUpdateMap : OrdMap RsPeerId (OrdMap RsGxsGroupId MsgUpdateInfo)
  mServerMsgUpdateMap : OrdMap RsGxsGroupId Nat
  mGrpServerUpdateItem : Option Nat
  mDataStore : RsDataService

/-- The service after its construction and `loadList`. -/
def RsGxsNetService.init (start : NetStart) : RsGxsNetService where
  mTransactionN := 0
  mTransactions := OrdMap.empty
  mComplTransactions := []
  mPendingResp := []
  mPendingCircleVets := []
  mClientGrpUpdateMap := start.mClientGrpUpdateMap
  mClientMsgUpdateMap := start.mClientMsgUpdateMap
  mServerMsgUpdateMap := start.mServerMsgUpdateMap
  mGrpServerUpdateItem := start.mGrpServerUpdateItem
  mPartialMsgUpdates := OrdMap.empty
  mExplicitRequest := OrdMap.empty
  mPendingPublishKeyRecipients := OrdMap.empty
  mDataStore := start.mDataStore
  out := []
  fault := none

end Gxs
