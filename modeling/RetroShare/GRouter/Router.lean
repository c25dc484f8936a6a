import RetroShare.Lib.Machine
import RetroShare.Lib.OrdMap

/-!
# The global router

`p3GRouter` of `p3grouter.cc` carries messages to the owners of keys: a message is kept in
`_pending_messages` and sent to friends and through tunnels, until the receipt of its destination
comes back.  The router is a machine.  Its inputs are the calls of its clients, the items that
arrive, the parts of a tick, and saving and loading its state; its events are what it sends and
what it tells its clients.

Identifiers are numbers, written in network order where they are serialised.  Items arrive put
together from their chunks, so that any item can arrive from any peer.  The routing matrix, and the
requests for tunnels, are not modelled: the matrix answers with the friends in the order of their
probability.
-/

namespace GRouter

abbrev RsPeerId := Nat

abbrev GRouterKeyId := Nat

abbrev GRouterServiceId := Nat

abbrev GRouterMsgPropagationId := Nat

abbrev Sha1CheckSum := Nat

/-- A pointer to a `GRouterClientService`. -/
abbrev GRouterClientService := Nat

/-! ### Items -/

/-- A number in network order. -/
def setRaw (width : Nat) (value : Nat) : List UInt8 :=
  (List.range width).map fun k => UInt8.ofNat (value / 256 ^ (width - 1 - k))

/-- The digits of an identifier, as `toStdString` writes them. -/
def toStdString (width : Nat) (value : Nat) : List UInt8 :=
  (List.range width).map fun k =>
    let digit := value / 16 ^ (width - 1 - k) % 16
    UInt8.ofNat (if digit < 10 then 48 + digit else 87 + digit)

/-- `SetTlvBase`. -/
def setTlvBase (type size : Nat) : List UInt8 := setRaw 2 type ++ setRaw 4 size

/-- `RsTlvKeySignature`. -/
structure RsTlvKeySignature where
  keyId : GRouterKeyId
  signData : List UInt8
  deriving DecidableEq

/-- `RsTlvKeySignature::SetTlv`. -/
def RsTlvKeySignature.setTlv (signature : RsTlvKeySignature) : List UInt8 :=
  setTlvBase 0x1050 (50 + signature.signData.length) ++
    (setTlvBase 0x00a4 38 ++ toStdString 32 signature.keyId) ++
    (setTlvBase 0x0120 (6 + signature.signData.length) ++ signature.signData)

/-- `RsGRouterGenericDataItem`. -/
structure RsGRouterGenericDataItem where
  peerId : RsPeerId
  routingId : GRouterMsgPropagationId
  destinationKey : GRouterKeyId
  serviceId : GRouterServiceId
  signature : RsTlvKeySignature
  flags : UInt32
  dataBytes : List UInt8
  randomizedDistance : Nat
  deriving DecidableEq

/-- `RsGRouterSignedReceiptItem`. -/
structure RsGRouterSignedReceiptItem where
  peerId : RsPeerId
  routingId : GRouterMsgPropagationId
  destinationKey : GRouterKeyId
  serviceId : GRouterServiceId
  signature : RsTlvKeySignature
  flags : UInt32
  dataHash : Sha1CheckSum
  deriving DecidableEq

/-- `RsGRouterAbstractMsgItem`, by the class of the item. -/
inductive RsGRouterAbstractMsgItem
  | data (item : RsGRouterGenericDataItem)
  | receipt (item : RsGRouterSignedReceiptItem)
  deriving DecidableEq

/-- `serialise_signed_data` of a data item. -/
def RsGRouterGenericDataItem.serialiseSignedData (item : RsGRouterGenericDataItem) : List UInt8 :=
  setRaw 8 item.routingId ++ setRaw 16 item.destinationKey ++ setRaw 4 item.serviceId ++
    setRaw 4 item.dataBytes.length ++ item.dataBytes

/-- `serialise_signed_data` of a receipt. -/
def RsGRouterSignedReceiptItem.serialiseSignedData (item : RsGRouterSignedReceiptItem) :
    List UInt8 :=
  setRaw 8 item.routingId ++ setRaw 4 item.flags.toNat ++ setRaw 16 item.destinationKey ++
    setRaw 4 item.serviceId ++ setRaw 20 item.dataHash

/-! ### Messages -/

/-- `RS_GROUTER_DATA_STATUS`. -/
inductive DataStatus
  | pending
  | sent
  | receiptOk
  | ongoing
  | done
  deriving DecidableEq

/-- `RS_GROUTER_TUNNEL_STATUS`. -/
inductive TunnelStatus
  | unmanaged
  | pending
  | ready
  deriving DecidableEq

/-- What a client is told, `GROUTER_CLIENT_SERVICE_DATA_STATUS`. -/
inductive ClientStatus
  | received
  | failed
  deriving DecidableEq

/-- `ROUTING_FLAGS`. -/
structure RoutingFlags where
  allowTunnels : Bool
  allowFriends : Bool
  isOrigin : Bool
  isDestination : Bool
  deriving DecidableEq

/-- A `std::set` of peers. -/
abbrev PeerIdSet := OrdMap RsPeerId Unit

/-- `GRouterRoutingInfo`, with a data item. -/
structure GRouterRoutingInfo where
  dataStatus : DataStatus
  tunnelStatus : TunnelStatus
  receivedTimeTS : Nat
  lastSentTS : Nat
  lastTunnelRequestTS : Nat
  sendingAttempts : Nat
  tunnelHash : Sha1CheckSum
  routingFlags : RoutingFlags
  dataItem : RsGRouterGenericDataItem
  receiptItem : Option RsGRouterSignedReceiptItem
  incomingRoutes : PeerIdSet
  itemHash : Sha1CheckSum
  dataTransactionTS : Nat

/-- `GRouterTunnelInfo`. -/
structure GRouterTunnelInfo where
  virtualPeers : PeerIdSet
  firstTunnelOkTS : Nat
  lastTunnelOkTS : Nat

/-- `GRouterPublishedKeyInfo`, less its description. -/
structure GRouterPublishedKeyInfo where
  serviceId : GRouterServiceId
  authenticationKey : GRouterKeyId

/-- `p3GRouter`, and the messages that were last saved. -/
structure p3GRouter where
  ownedKeyIds : OrdMap Sha1CheckSum GRouterPublishedKeyInfo
  registeredServices : OrdMap GRouterServiceId GRouterClientService
  pendingMessages : OrdMap GRouterMsgPropagationId GRouterRoutingInfo
  tunnels : OrdMap Sha1CheckSum GRouterTunnelInfo
  incomingItems : List RsGRouterAbstractMsgItem
  saved : List GRouterRoutingInfo

/-- The router after its construction. -/
def p3GRouter.init : p3GRouter :=
  ⟨OrdMap.empty, OrdMap.empty, OrdMap.empty, OrdMap.empty, [], []⟩

def maxTunnelWaitTime : Nat := 60

def maxTunnelUnmanagedTime : Nat := 600

def maxDelayForResend : Nat := 2 * 86400 + 300

def maxDestinationKeepTime : Nat := 20 * 86400

def tunnelOkWaitTime : Nat := 2

def maxGRouterDataSize : Nat := 2 * 1024 * 1024

def maxTransactionAckWaitingTime : Nat := 60

def directFriendTryDelay : Nat := 20

def gRouterItemMaxCacheKeepTime : Nat := 2 * 86400

/-! ### Inputs and events -/

/-- What the other services answer during a part of a tick: the time, whether a peer is connected
or is a tunnel, and the friends for a key in the order of their probability, with whether it is at
least one half. -/
structure Network where
  now : Nat
  isPeerConnected : RsPeerId → Bool
  isTurtlePeer : RsPeerId → Bool
  peersConnected : List RsPeerId
  rank : GRouterKeyId → List RsPeerId → List (RsPeerId × Bool)

/-- The direction of a tunnel. -/
inductive Direction
  | client
  | server
  deriving DecidableEq

/-- The arguments of `sendData`, and what happens during the call: the numbers that are drawn, and
what encryption and signing return. -/
structure SendData where
  destination : GRouterKeyId
  clientId : GRouterServiceId
  data : List UInt8
  signingId : GRouterKeyId
  draws : List GRouterMsgPropagationId
  encrypted : Option (List UInt8)
  signature : Option RsTlvKeySignature
  now : Nat

/-- What happens during the handling of an item: the time, and what signing a receipt and
decryption return. -/
structure Handling where
  now : Nat
  signature : Option RsTlvKeySignature
  decrypted : Option (List UInt8)

/-- The inputs of the router. -/
inductive Input
  | registerClientService (id : GRouterServiceId) (service : GRouterClientService)
  | registerKey (authenticationKey : GRouterKeyId) (clientId : GRouterServiceId)
  | unregisterKey (keyId : GRouterKeyId) (sid : GRouterServiceId)
  | recvItem (item : RsGRouterAbstractMsgItem)
  | recvAck (propagationId : GRouterMsgPropagationId) (now : Nat)
  | addVirtualPeer (hash : Sha1CheckSum) (vpid : RsPeerId) (dir : Direction) (now : Nat)
  | removeVirtualPeer (hash : Sha1CheckSum) (vpid : RsPeerId)
  | handleIncoming (env : Handling)
  | routePendingObjects (net : Network)
  | autoWash (net : Network)
  | handleTunnels (now : Nat)
  | sendData (call : SendData)
  | cancel (mid : GRouterMsgPropagationId)
  | saveList
  | loadList

/-- The events of the router. -/
inductive Event
  | handledReceipt (item : RsGRouterSignedReceiptItem)
  | sendTransactionData (pid : RsPeerId) (item : RsGRouterAbstractMsgItem)
  | receiveGRouterData (client : GRouterClientService) (destination signingKey : GRouterKeyId)
      (serviceId : GRouterServiceId) (data : List UInt8)
  | notifyDataStatus (client : GRouterClientService) (mid : GRouterMsgPropagationId)
      (status : ClientStatus)
  deriving DecidableEq

/-! ### Keys and hashes -/

/-- `makeTunnelHash`: sixteen bytes of the key, two zeroes, and two bytes of the service. -/
def makeTunnelHash (destination : GRouterKeyId) (client : GRouterServiceId) : Sha1CheckSum :=
  destination * 2 ^ 32 + client % 2 ^ 16

/-- `makeGxsIdAndClientId`. -/
def makeGxsIdAndClientId (sum : Sha1CheckSum) : GRouterKeyId × GRouterServiceId :=
  (sum / 2 ^ 32, sum % 2 ^ 16)

/-- The parts of other code that the router rests on: `madeBy` tells the signatures that were made
by a key over given bytes, and `sha1sum` is the hash. -/
structure Crypto where
  madeBy : GRouterKeyId → List UInt8 → List UInt8 → Bool
  sha1sum : List UInt8 → Sha1CheckSum

/-- `RsGixs::validateData`: whether the key that the signature names has made it. -/
def Crypto.validateData (crypto : Crypto) (data : List UInt8) (signature : RsTlvKeySignature) :
    Bool :=
  crypto.madeBy signature.keyId data signature.signData

/-- `computeDataItemHash`. -/
def computeDataItemHash (crypto : Crypto) (item : RsGRouterGenericDataItem) : Sha1CheckSum :=
  crypto.sha1sum (item.serialiseSignedData ++ item.signature.setTlv)

namespace p3GRouter

variable (crypto : Crypto) (router : p3GRouter) (net : Network)

/-! ### Clients and tunnels -/

/-- `registerKey`. -/
def registerKey (authenticationKey : GRouterKeyId) (clientId : GRouterServiceId) : p3GRouter :=
  if (router.registeredServices.get? clientId).isNone then
    router
  else
    { router with
      ownedKeyIds := router.ownedKeyIds.insert (makeTunnelHash authenticationKey clientId)
        ⟨clientId, authenticationKey⟩ }

/-- `unregisterKey`. -/
def unregisterKey (keyId : GRouterKeyId) (sid : GRouterServiceId) : p3GRouter :=
  { router with ownedKeyIds := router.ownedKeyIds.erase (makeTunnelHash keyId sid) }

/-- `handleLowLevelTransactionAckItem`, for the message that the acknowledgement names. -/
def ackMessage (now : Nat) (info : GRouterRoutingInfo) : GRouterRoutingInfo :=
  if info.dataStatus = .ongoing then { info with dataStatus := .sent, lastSentTS := now } else info

/-- `handleLowLevelTransactionAckItem`. -/
def handleLowLevelTransactionAckItem (propagationId : GRouterMsgPropagationId) (now : Nat) :
    p3GRouter :=
  { router with
    pendingMessages := router.pendingMessages.map fun mid info =>
      if mid = propagationId then ackMessage now info else info }

/-- `GRouterTunnelInfo::addVirtualPeer`, of a tunnel that is made when it does not exist. -/
def addVirtualPeerTo (tunnel : Option GRouterTunnelInfo) (vpid : RsPeerId) (now : Nat) :
    GRouterTunnelInfo :=
  let info := tunnel.getD ⟨OrdMap.empty, 0, 0⟩
  ⟨info.virtualPeers.insert vpid (),
    if info.firstTunnelOkTS = 0 then now else info.firstTunnelOkTS, now⟩

/-- `addVirtualPeer`. -/
def addVirtualPeer (hash : Sha1CheckSum) (vpid : RsPeerId) (dir : Direction) (now : Nat) :
    p3GRouter :=
  let found := router.pendingMessages.toList.any fun e => e.2.tunnelHash = hash
  if dir = .server ∧ !found then
    router
  else
    { router with
      pendingMessages := router.pendingMessages.map fun _ info =>
        if dir = .server ∧ info.tunnelHash = hash then { info with tunnelStatus := .ready } else info
      tunnels := router.tunnels.insert hash (addVirtualPeerTo (router.tunnels.get? hash) vpid now) }

/-- `removeVirtualPeer`. -/
def removeVirtualPeer (hash : Sha1CheckSum) (vpid : RsPeerId) : p3GRouter :=
  match router.tunnels.get? hash with
  | none => router
  | some tunnel =>
      let virtualPeers := tunnel.virtualPeers.erase vpid
      if virtualPeers = OrdMap.empty then
        { router with
          pendingMessages := router.pendingMessages.map fun _ info =>
            if info.tunnelHash = hash then { info with tunnelStatus := .pending } else info
          tunnels := router.tunnels.erase hash }
      else
        { router with tunnels := router.tunnels.insert hash { tunnel with virtualPeers } }

/-- `locked_getClientAndServiceId`. -/
def getClientAndServiceId (hash : Sha1CheckSum) (destinationKey : GRouterKeyId) :
    Option GRouterClientService :=
  let (gxsId, serviceId) := makeGxsIdAndClientId hash
  if gxsId ≠ destinationKey then none else router.registeredServices.get? serviceId

/-! ### Items that arrive -/

/-- `handleIncomingReceiptItem`. -/
def handleIncomingReceiptItem (receiptItem : RsGRouterSignedReceiptItem) : p3GRouter × List Event :=
  match router.pendingMessages.get? receiptItem.routingId with
  | none => (router, [])
  | some info =>
      if receiptItem.dataHash ≠ info.itemHash then
        (router, [])
      else if !crypto.validateData receiptItem.serialiseSignedData receiptItem.signature then
        (router, [])
      else if info.routingFlags.isOrigin then
        ({ router with
            pendingMessages := router.pendingMessages.insert receiptItem.routingId
              { info with dataStatus := .done } },
          match router.getClientAndServiceId info.tunnelHash info.dataItem.destinationKey with
          | none => []
          | some client =>
              -- the identifier zero stands for a message without client
              if receiptItem.routingId = 0 then []
              else [.notifyDataStatus client receiptItem.routingId .received])
      else
        ({ router with
            pendingMessages := router.pendingMessages.insert receiptItem.routingId
              { info with dataStatus := .receiptOk, receiptItem := some receiptItem } },
          [])

/-- The receipt that `handleIncomingDataItem` prepares for a message that is new and for us. -/
def prepareReceipt (env : Handling) (dataItem : RsGRouterGenericDataItem)
    (itemHash : Sha1CheckSum) : Option RsGRouterSignedReceiptItem :=
  if !crypto.validateData dataItem.serialiseSignedData dataItem.signature then none
  else
    env.signature.map fun signature =>
      ⟨0, dataItem.routingId, dataItem.signature.keyId, 0, signature, 0, itemHash⟩

/-- The entry that `handleIncomingDataItem` stores for a message that is new. -/
def newInfo (env : Handling) (dataItem : RsGRouterGenericDataItem) (itemHash : Sha1CheckSum)
    (forUs : Bool) (receiptItem : Option RsGRouterSignedReceiptItem) : GRouterRoutingInfo where
  dataStatus := if forUs then .receiptOk else .pending
  tunnelStatus := .unmanaged
  receivedTimeTS := env.now
  lastSentTS := 0
  lastTunnelRequestTS := 0
  sendingAttempts := 0
  tunnelHash := makeTunnelHash dataItem.destinationKey dataItem.serviceId
  routingFlags := ⟨false, true, false, forUs⟩
  dataItem := if forUs then { dataItem with dataBytes := [] } else dataItem
  receiptItem := receiptItem
  incomingRoutes := OrdMap.empty.insert dataItem.peerId ()
  itemHash := itemHash
  dataTransactionTS := 0

/-- `handleIncomingDataItem`. -/
def handleIncomingDataItem (env : Handling) (dataItem : RsGRouterGenericDataItem) :
    p3GRouter × List Event :=
  let itemHash := computeDataItemHash crypto dataItem
  match router.registeredServices.get? dataItem.serviceId with
  | none => (router, [])
  | some client =>
      let forUs := (router.ownedKeyIds.get?
        (makeTunnelHash dataItem.destinationKey dataItem.serviceId)).isSome
      match router.pendingMessages.get? dataItem.routingId with
      | some info =>
          if info.itemHash ≠ itemHash then
            (router, [])
          else
            ({ router with
                pendingMessages := router.pendingMessages.insert dataItem.routingId
                  { info with incomingRoutes := info.incomingRoutes.insert dataItem.peerId () } },
              [])
      | none =>
          if forUs then
            match prepareReceipt crypto env dataItem itemHash with
            | none => (router, [])
            | some receiptItem =>
                ({ router with
                    pendingMessages := router.pendingMessages.insert dataItem.routingId
                      (newInfo env dataItem itemHash true (some receiptItem)) },
                  match env.decrypted with
                  | none => []
                  | some bytes =>
                      [.receiveGRouterData client dataItem.destinationKey dataItem.signature.keyId
                        dataItem.serviceId bytes])
          else
            ({ router with
                pendingMessages := router.pendingMessages.insert dataItem.routingId
                  (newInfo env dataItem itemHash false none) },
              [])

/-- One turn of the loop of `handleIncoming`. -/
def handleIncoming (env : Handling) : p3GRouter × List Event :=
  match router.incomingItems with
  | [] => (router, [])
  | .data item :: items => { router with incomingItems := items }.handleIncomingDataItem crypto env item
  | .receipt item :: items =>
      let (router', out) :=
        { router with incomingItems := items }.handleIncomingReceiptItem crypto item
      (router', .handledReceipt item :: out)

/-! ### Messages that are routed -/

/-- `locked_collectAvailableTunnels`: the first tunnel, when the tunnels are stable. -/
def collectAvailableTunnels (hash : Sha1CheckSum) : List RsPeerId :=
  match router.tunnels.get? hash with
  | none => []
  | some tunnel =>
      if tunnel.lastTunnelOkTS + tunnelOkWaitTime > net.now then []
      else (tunnel.virtualPeers.toList.map Prod.fst).take 1

/-- `locked_collectAvailableFriends`: at the origin the three best friends, else the best one if it
is good. -/
def collectAvailableFriends (gxsId : GRouterKeyId) (incomingRoutes : PeerIdSet) (isOrigin : Bool) : List RsPeerId :=
  let tmpPeers := net.peersConnected.filter fun pid => (incomingRoutes.get? pid).isNone
  let ranked := net.rank gxsId tmpPeers
  if isOrigin then (ranked.map Prod.fst).take 3
  else ((ranked.filter Prod.snd).map Prod.fst).take 1

/-- The peers to which `routePendingObjects` sends a message. -/
def peersFor (info : GRouterRoutingInfo) : List RsPeerId :=
  (if info.routingFlags.allowTunnels then router.collectAvailableTunnels net info.tunnelHash
    else []) ++
  (if info.routingFlags.allowFriends then
    collectAvailableFriends net info.dataItem.destinationKey info.incomingRoutes
      info.routingFlags.isOrigin
    else [])

/-- The part of `routePendingObjects` that sends the data of a message; it tells whether the
receipt is looked at. -/
def routeData (info : GRouterRoutingInfo) :
    GRouterRoutingInfo × List Event × Bool :=
  match info.dataStatus with
  | .pending =>
      let peers := router.peersFor net info
      if peers = [] then
        if info.receivedTimeTS + directFriendTryDelay < net.now ∧
            !info.routingFlags.allowTunnels then
          ({ info with routingFlags := { info.routingFlags with allowTunnels := true } }, [], false)
        else
          (info, [], false)
      else
        ({ info with dataStatus := .ongoing, dataTransactionTS := net.now },
          peers.map fun pid => .sendTransactionData pid (.data info.dataItem), true)
  | .ongoing =>
      if net.now > maxTransactionAckWaitingTime + info.dataTransactionTS then
        ({ info with dataStatus := .pending }, [], true)
      else
        (info, [], true)
  | .sent =>
      if info.routingFlags.isOrigin ∧ info.lastSentTS + maxDelayForResend < net.now then
        ({ info with dataStatus := .pending }, [], true)
      else
        ({ info with routingFlags := { info.routingFlags with allowTunnels := false } }, [], true)
  | _ => (info, [], true)

/-- The part of `routePendingObjects` that sends the receipt of a message back. -/
def routeReceipt (info : GRouterRoutingInfo) : GRouterRoutingInfo × List Event :=
  match info.receiptItem with
  | none => (info, [])
  | some receiptItem =>
      if info.incomingRoutes = OrdMap.empty then
        (info, [])
      else
        let online := fun pid => net.isPeerConnected pid || net.isTurtlePeer pid
        let incomingRoutes := info.incomingRoutes.filter fun pid _ => !online pid
        ({ info with
            incomingRoutes
            dataStatus := if incomingRoutes = OrdMap.empty then .done else info.dataStatus },
          ((info.incomingRoutes.toList.map Prod.fst).filter online).map fun pid =>
            .sendTransactionData pid (.receipt receiptItem))

/-- The body of the loop of `routePendingObjects`. -/
def routePendingObject (info : GRouterRoutingInfo) :
    GRouterRoutingInfo × List Event :=
  let (info', out, goOn) := router.routeData net info
  if goOn then
    let (info'', out') := routeReceipt net info'
    (info'', out ++ out')
  else
    (info', out)

/-- `routePendingObjects`. -/
def routePendingObjects : p3GRouter × List Event :=
  ({ router with
      pendingMessages := router.pendingMessages.map fun _ info =>
        (router.routePendingObject net info).1 },
    router.pendingMessages.toList.flatMap fun e => (router.routePendingObject net e.2).2)

/-- The messages that `autoWash` removes. -/
def washed (now : Nat) (info : GRouterRoutingInfo) : Bool :=
  (info.dataStatus = .done &&
    (!info.routingFlags.isDestination || info.receivedTimeTS + maxDestinationKeepTime < now)) ||
  (info.receivedTimeTS + gRouterItemMaxCacheKeepTime < now && !info.routingFlags.isOrigin &&
    !info.routingFlags.isDestination)

/-- What `autoWash` tells the client of a message that it removes. -/
def washNotice (mid : GRouterMsgPropagationId) (info : GRouterRoutingInfo) : List Event :=
  if info.dataStatus = .done then []
  else
    match router.getClientAndServiceId info.tunnelHash info.dataItem.destinationKey with
    | none => []
    | some client => [.notifyDataStatus client mid .failed]

/-- `autoWash`. -/
def autoWash : p3GRouter × List Event :=
  ({ router with
      pendingMessages := router.pendingMessages.filter fun _ info => !washed net.now info
      tunnels := router.tunnels.map fun _ tunnel =>
        { tunnel with virtualPeers := tunnel.virtualPeers.filter fun vpid _ => net.isTurtlePeer vpid } },
    (router.pendingMessages.filter fun _ info => washed net.now info).toList.flatMap fun e =>
      router.washNotice e.1 e.2)

/-- The body of the loops of `handleTunnels`. -/
def handleTunnel (now : Nat) (info : GRouterRoutingInfo) : GRouterRoutingInfo :=
  if info.dataStatus = .pending ∧ info.routingFlags.allowTunnels then
    if info.tunnelStatus = .unmanaged ∧ info.lastTunnelRequestTS + maxTunnelUnmanagedTime < now then
      -- the delay is a 32-bit number, and the priority an `int`
      if 0 < (now - info.lastTunnelRequestTS) % 2 ^ 32 ∧
          (now - info.lastTunnelRequestTS) % 2 ^ 32 < 2 ^ 31 then
        { info with
          tunnelStatus := .pending
          lastTunnelRequestTS := now
          sendingAttempts := (info.sendingAttempts + 1) % 2 ^ 32 }
      else
        info
    else if info.tunnelStatus = .pending ∧ info.lastTunnelRequestTS + maxTunnelWaitTime < now then
      { info with tunnelStatus := .unmanaged }
    else
      info
  else
    { info with tunnelStatus := .unmanaged }

/-- `handleTunnels`. -/
def handleTunnels (now : Nat) : p3GRouter :=
  { router with pendingMessages := router.pendingMessages.map fun _ info => handleTunnel now info }

/-! ### Messages that are sent -/

/-- The data item of `sendData`, if it can be encrypted, signed and verified. -/
def dataItemOf (call : SendData) (propagationId : GRouterMsgPropagationId) :
    Option RsGRouterGenericDataItem :=
  call.encrypted.bind fun encrypted =>
    call.signature.bind fun signature =>
      let dataItem : RsGRouterGenericDataItem :=
        ⟨0, propagationId, call.destination, call.clientId, signature, 1, encrypted, 0⟩
      if crypto.validateData dataItem.serialiseSignedData signature then some dataItem else none

/-- The entry that `sendData` stores. -/
def originInfo (call : SendData) (dataItem : RsGRouterGenericDataItem) : GRouterRoutingInfo where
  dataStatus := .pending
  tunnelStatus := .unmanaged
  receivedTimeTS := call.now
  lastSentTS := 0
  lastTunnelRequestTS := 0
  sendingAttempts := 0
  tunnelHash := makeTunnelHash call.destination call.clientId
  routingFlags := ⟨false, true, true, false⟩
  dataItem := dataItem
  receiptItem := none
  incomingRoutes := OrdMap.empty
  itemHash := computeDataItemHash crypto dataItem
  dataTransactionTS := 0

/-- `sendData`: numbers are drawn until one is not in use. -/
def sendData (call : SendData) : p3GRouter :=
  if call.data.length > maxGRouterDataSize then
    router
  else
    match call.draws.find? fun mid => (router.pendingMessages.get? mid).isNone with
    | none => router
    | some propagationId =>
        match dataItemOf crypto call propagationId with
        | none => router
        | some dataItem =>
            { router with
              pendingMessages := router.pendingMessages.insert propagationId
                (originInfo crypto call dataItem) }

/-- `saveList`. -/
def saveList : p3GRouter :=
  { router with saved := router.pendingMessages.toList.map Prod.snd }

/-- `loadList`, at the start of the program: what is not saved is lost. -/
def loadList : p3GRouter :=
  { init with
    pendingMessages := router.saved.foldl (fun pending info =>
      pending.insert info.dataItem.routingId
        { info with tunnelStatus := .unmanaged, dataTransactionTS := 0 }) OrdMap.empty
    saved := router.saved }

/-- One step of the router. -/
def step : Input → p3GRouter × List Event
  | .registerClientService id service =>
      ({ router with registeredServices := router.registeredServices.insert id service }, [])
  | .registerKey authenticationKey clientId => (router.registerKey authenticationKey clientId, [])
  | .unregisterKey keyId sid => (router.unregisterKey keyId sid, [])
  | .recvItem item => ({ router with incomingItems := router.incomingItems ++ [item] }, [])
  | .recvAck propagationId now =>
      (router.handleLowLevelTransactionAckItem propagationId now, [])
  | .addVirtualPeer hash vpid dir now => (router.addVirtualPeer hash vpid dir now, [])
  | .removeVirtualPeer hash vpid => (router.removeVirtualPeer hash vpid, [])
  | .handleIncoming env => router.handleIncoming crypto env
  | .routePendingObjects net => router.routePendingObjects net
  | .autoWash net => router.autoWash net
  | .handleTunnels now => (router.handleTunnels now, [])
  | .sendData call => (router.sendData crypto call, [])
  | .cancel mid => ({ router with pendingMessages := router.pendingMessages.erase mid }, [])
  | .saveList => (router.saveList, [])
  | .loadList => (router.loadList, [])

/-- The machine of the router. -/
def machine : Machine p3GRouter Input Event where
  step router input := router.step crypto input

end p3GRouter

end GRouter
