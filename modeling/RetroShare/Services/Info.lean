import RetroShare.Services.Control

/-!
# The exchange of service lists

`p3ServiceInfo` sends a friend the list of the services that it may use, when the friend has
connected and when its permissions have changed, and gives the lists of friends to the service
control.

`Pair` is a connection of two friends, the sides `false` and `true`.  The lists that a side has not
taken yet are in order in `incoming`, and a disconnection drops them.  `p3LinkMgr` collects what has
happened to the connection in `actions` until it reports it.
-/

namespace Services

open ServiceControl

variable {π μ : Type} [LinearOrder π]

/-- The list that a `RsServiceInfoListItem` carries. -/
abbrev ServiceList := OrdMap Nat RsServiceInfo

/-- The `actions` of a `peerConnectState`. -/
structure LinkActions where
  connected : Bool := false
  disconnected : Bool := false
  deriving DecidableEq

/-- The actions as bits. -/
def LinkActions.bits (actions : LinkActions) : UInt32 :=
  (if actions.connected then peerConnected else 0) |||
    (if actions.disconnected then peerDisconnected else 0)

/-- A side of a connection: its service control, the `mPeersToUpdate` of its `p3ServiceInfo`, what
its link manager has not reported yet, and the items on their way to it. -/
structure Friend (π μ : Type) [LinearOrder π] where
  control : ServiceControl π μ
  mPeersToUpdate : Finset π
  actions : LinkActions
  incoming : List ServiceList

namespace Friend

variable (friend : Friend π μ)

/-- `recvServiceInfoList`, with `convertServiceItemToInfo`. -/
def recvServiceInfoList (peerId : π) (item : ServiceList) : Friend π μ :=
  { friend with control := friend.control.updateServicesProvided peerId ⟨peerId, item⟩ }

/-- `processIncoming`, when `n` items of the other side have come. -/
def processIncoming (peerId : π) (n : Nat) : Friend π μ :=
  (friend.incoming.take n).foldl (fun friend item => friend.recvServiceInfoList peerId item)
    { friend with incoming := friend.incoming.drop n }

/-- `sendServiceInfoList`, with `convertServiceInfoToItem`: the item for a peer. -/
def sendServiceInfoList (peerId : π) : ServiceList :=
  (friend.control.getServicesAllowed peerId).mServiceList

/-- The peers to which `sendPackets` sends a list. -/
def updateSet : Finset π := friend.mPeersToUpdate ∪ friend.control.getServiceChanges.1

/-- `sendPackets`, with the items and their addressees. -/
def sendPackets : Friend π μ × List (π × ServiceList) :=
  ({ friend with mPeersToUpdate := ∅, control := friend.control.getServiceChanges.2 },
    friend.updateSet.sort.map fun peerId => (peerId, friend.sendServiceInfoList peerId))

/-- An iteration of `statusChange` of `p3ServiceInfo`. -/
def statusChangeOf (peer : Pqipeer π) : Friend π μ :=
  if peer.state &&& peerSFriend ≠ 0 ∧ peer.actions &&& peerConnected ≠ 0 then
    { friend with mPeersToUpdate := insert peer.id friend.mPeersToUpdate }
  else friend

/-- `tickMonitors` of the link manager reports the actions of the other side. -/
def tickMonitors (peerId : π) : Friend π μ :=
  if friend.actions = {} then friend
  else
    let peer : Pqipeer π := ⟨peerId, peerSFriend, friend.actions.bits⟩
    { friend with
      actions := {}
      control := friend.control.statusChange [peer] }.statusChangeOf peer

end Friend

/-- Two friends; a side is connected to the other one when they are linked. -/
structure Pair (π μ : Type) [LinearOrder π] where
  side : Bool → Friend π μ
  linked : Bool

namespace Pair

variable (id : Bool → π) (pair : Pair π μ)

/-- Two friends before their first connection. -/
def start (setup : Bool → List (Setup π μ)) : Pair π μ where
  side x :=
    { control := .start (setup x)
      mPeersToUpdate := ∅
      actions := {}
      incoming := [] }
  linked := false

/-- The pair with another state of a side. -/
def set (x : Bool) (friend : Friend π μ) : Pair π μ :=
  { pair with side := Function.update pair.side x friend }

/-- The link managers of both sides note a connection. -/
def connect : Pair π μ :=
  if pair.linked then pair
  else
    { side := fun x =>
        { pair.side x with actions := { (pair.side x).actions with connected := true } }
      linked := true }

/-- The link managers of both sides note a disconnection, and what is on its way is lost. -/
def disconnect : Pair π μ :=
  if pair.linked then
    { side := fun x =>
        { pair.side x with
          actions := { (pair.side x).actions with disconnected := true }
          incoming := [] }
      linked := false }
  else pair

/-- `getOnlineList` of a side, `others` being its other connected friends. -/
def onlineList (x : Bool) (others : List π) : List π :=
  (others.filter fun peerId => peerId ≠ id !x) ++ if pair.linked then [id !x] else []

/-- `updateServicePermissions` of a side. -/
def updateServicePermissions (x : Bool) (others : List π) (serviceId : Nat)
    (permissions : RsServicePermissions π) : Pair π μ :=
  pair.set x
    { pair.side x with
      control := (pair.side x).control.updateServicePermissions (pair.onlineList id x others)
        serviceId permissions }

/-- `tick` of `p3ServiceInfo` of a side, when `n` items have come.  No item is taken while a report
of the link manager is due, and what is sent without a connection is lost. -/
def tick (x : Bool) (n : Nat) : Pair π μ × List (π × ServiceList) :=
  let friend := if (pair.side x).actions = {} then (pair.side x).processIncoming (id !x) n
    else pair.side x
  let items := (friend.sendPackets.2.filter fun item => item.1 = id !x).map Prod.snd
  let pair := pair.set x friend.sendPackets.1
  (pair.set (!x)
      { pair.side (!x) with
        incoming := (pair.side !x).incoming ++ if pair.linked then items else [] },
    friend.sendPackets.2)

/-- A call of the service control that does not concern a peer, or concerns all of them. -/
def elsewhere (peerId : π) : ServiceControl.Input π → Bool
  | .updateServicesProvided p _ => p ≠ peerId
  | .removePeer p => p ≠ peerId
  | .statusChange plist => plist.all fun peer => peer.id ≠ peerId
  | .updateServicePermissions _ _ _ | .getServiceChanges => false
  | .updateFilterByPeer _ | .updateAllFilters | .notifyAboutFriends | .notifyServices => true

/-- What happens to a pair: at a side `x`, or to the connection. -/
inductive Input (π : Type) where
  | updateServicePermissions (x : Bool) (others : List π) (serviceId : Nat)
      (permissions : RsServicePermissions π)
  | tick (x : Bool) (n : Nat)
  | tickMonitors (x : Bool)
  | call (x : Bool) (input : ServiceControl.Input π)
  | connect
  | disconnect

/-- The machine of a pair; its events are the items that are sent. -/
def machine : Machine (Pair π μ) (Input π) (π × ServiceList) where
  step pair
    | .updateServicePermissions x others serviceId permissions =>
        (pair.updateServicePermissions id x others serviceId permissions, [])
    | .tick x n => pair.tick id x n
    | .tickMonitors x => (pair.set x ((pair.side x).tickMonitors (id !x)), [])
    | .call x input =>
        (if elsewhere (id !x) input then
          pair.set x
            { pair.side x with control := ServiceControl.machine.next (pair.side x).control input }
        else pair, [])
    | .connect => (pair.connect, [])
    | .disconnect => (pair.disconnect, [])

end Pair

end Services
