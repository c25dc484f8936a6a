import Mathlib.Data.Finset.Sort
import RetroShare.Lib.Machine
import RetroShare.Lib.MultiMap
import RetroShare.Lib.OrdMap
import RetroShare.Lib.Walk

/-!
# The control of services

`p3ServiceControl` decides which services a peer may use.  It keeps the own services, the services
that each peer has announced and the permissions, and derives from them a filter for each peer, the
peers of each service, and notifications for the services.

`π` are the ids of peers and `μ` the monitors of services; the list of online peers, which
`p3LinkMgr` gives, is an argument.
-/

namespace Services

variable {π μ : Type}

scoped instance isTrans [LinearOrder π] : IsTrans π (· ≤ ·) := inferInstance

scoped instance antisymm [LinearOrder π] : Std.Antisymm (α := π) (· ≤ ·) := inferInstance

/-- `RsServiceInfo`. -/
structure RsServiceInfo where
  mServiceName : String
  mServiceType : Nat
  mVersionMajor : Nat
  mVersionMinor : Nat
  mMinVersionMajor : Nat
  mMinVersionMinor : Nat
  deriving DecidableEq

/-- `FULLID_SERVICEINFO`, from `RS_PKT_VERSION_SERVICE` and `RS_SERVICE_TYPE_SERVICEINFO`. -/
def fullIdServiceInfo : Nat := 0x02 <<< 24 + 0x0020 <<< 8

/-- `versionOkay`. -/
def versionOkay (versionMajor versionMinor minVersionMajor minVersionMinor : Nat) : Bool :=
  if minVersionMajor < versionMajor then true
  else if versionMajor = minVersionMajor then minVersionMinor ≤ versionMinor
  else false

/-- `ServiceInfoCompatible`. -/
def serviceInfoCompatible (info1 info2 : RsServiceInfo) : Bool :=
  if info1.mServiceType ≠ info2.mServiceType ∨ info1.mServiceName ≠ info2.mServiceName then false
  else if !versionOkay info1.mVersionMajor info1.mVersionMinor info2.mMinVersionMajor
      info2.mMinVersionMinor then
    false
  else
    versionOkay info2.mVersionMajor info2.mVersionMinor info1.mMinVersionMajor
      info1.mMinVersionMinor

/-- `RsPeerServiceInfo`. -/
structure RsPeerServiceInfo (π : Type) where
  mPeerId : π
  mServiceList : OrdMap Nat RsServiceInfo
  deriving DecidableEq

/-- `RsServicePermissions`. -/
structure RsServicePermissions (π : Type) where
  mServiceId : Nat
  mServiceName : String
  mDefaultAllowed : Bool
  mPeersAllowed : Finset π
  mPeersDenied : Finset π

/-- `peerHasPermission`. -/
def RsServicePermissions.peerHasPermission [DecidableEq π] (perms : RsServicePermissions π)
    (peerId : π) : Bool :=
  if perms.mDefaultAllowed then peerId ∉ perms.mPeersDenied else peerId ∈ perms.mPeersAllowed

/-- `ServicePeerFilter`. -/
structure ServicePeerFilter where
  mDenyAll : Bool := true
  mAllowAll : Bool := false
  mAllowedServices : Finset Nat := ∅
  deriving DecidableEq

/-- `ServiceNotifications`. -/
structure ServiceNotifications (π : Type) where
  mAdded : Finset π := ∅
  mRemoved : Finset π := ∅
  deriving DecidableEq

/-- The `actions` of a `pqiServicePeer`. -/
inductive ServicePeerAction where
  | new
  | connected
  | disconnected
  | removed
  deriving DecidableEq

/-- `pqiServicePeer`. -/
structure PqiServicePeer (π : Type) where
  id : π
  actions : ServicePeerAction
  deriving DecidableEq

/-- `p3ServiceControl`. -/
structure ServiceControl (π μ : Type) [LinearOrder π] where
  mUpdatedSet : Finset π
  mOwnServices : OrdMap Nat RsServiceInfo
  mServicesProvided : OrdMap π (RsPeerServiceInfo π)
  mPeerFilterMap : OrdMap π ServicePeerFilter
  mNotifications : OrdMap Nat (ServiceNotifications π)
  mFriendNotifications : List (PqiServicePeer π)
  mServicePeerMap : OrdMap Nat (Finset π)
  mMonitors : MultiMap Nat μ
  mServicePermissionMap : OrdMap Nat (RsServicePermissions π)

namespace ServiceControl

variable [LinearOrder π] (control : ServiceControl π μ) (peerId : π)

/-- `p3ServiceControl::p3ServiceControl`. -/
def new : ServiceControl π μ where
  mUpdatedSet := ∅
  mOwnServices := .empty
  mServicesProvided := .empty
  mPeerFilterMap := .empty
  mNotifications := .empty
  mFriendNotifications := []
  mServicePeerMap := .empty
  mMonitors := .empty
  mServicePermissionMap := .empty

/-! ### Registration -/

/-- `createDefaultPermissions_locked`. -/
def createDefaultPermissions (serviceId : Nat) (serviceName : String) (defaultOn : Bool) :
    ServiceControl π μ :=
  match control.mServicePermissionMap.get? serviceId with
  | some _ => control
  | none =>
      { control with
        mServicePermissionMap := control.mServicePermissionMap.insert serviceId
          { mServiceId := serviceId
            mServiceName := serviceName
            mDefaultAllowed := defaultOn
            mPeersAllowed := ∅
            mPeersDenied := ∅ } }

/-- `registerService`. -/
def registerService (info : RsServiceInfo) (defaultOn : Bool) : ServiceControl π μ :=
  match control.mOwnServices.get? info.mServiceType with
  | some _ => control
  | none =>
      { control with
        mOwnServices := control.mOwnServices.insert info.mServiceType info
        }.createDefaultPermissions info.mServiceType info.mServiceName defaultOn

/-- `registerServiceMonitor`. -/
def registerServiceMonitor (monitor : μ) (serviceId : Nat) : ServiceControl π μ :=
  { control with mMonitors := control.mMonitors.insert serviceId monitor }

/-- `loadList`; an item that is no `RsServicePermissionItem` is passed over. -/
def loadList (items : List (RsServicePermissions π)) : ServiceControl π μ :=
  { control with
    mServicePermissionMap := items.foldl
      (fun permissions item => permissions.insert item.mServiceId item)
      control.mServicePermissionMap }

/-! ### What `p3ServiceInfo` asks -/

/-- `peerHasPermissionForService_locked`. -/
def peerHasPermissionForService (serviceId : Nat) : Bool :=
  match control.mServicePermissionMap.get? serviceId with
  | none => false
  | some perms => perms.peerHasPermission peerId

/-- `getServiceChanges`, with the set that is taken. -/
def getServiceChanges : Finset π × ServiceControl π μ :=
  (control.mUpdatedSet, { control with mUpdatedSet := ∅ })

/-- `getServicesAllowed`. -/
def getServicesAllowed : RsPeerServiceInfo π where
  mPeerId := peerId
  mServiceList :=
    control.mOwnServices.filter fun serviceId _ =>
      control.peerHasPermissionForService peerId serviceId

/-! ### The peers of a service -/

/-- `filterChangeRemoved_locked`. -/
def filterChangeRemoved (serviceId : Nat) : ServiceControl π μ :=
  let peerSet := (control.mServicePeerMap.get? serviceId).getD ∅
  let notes := (control.mNotifications.get? serviceId).getD {}
  { control with
    mServicePeerMap := control.mServicePeerMap.insert serviceId (peerSet.erase peerId)
    mNotifications := control.mNotifications.insert serviceId
      { notes with mRemoved := insert peerId notes.mRemoved } }

/-- `filterChangeAdded_locked`. -/
def filterChangeAdded (serviceId : Nat) : ServiceControl π μ :=
  let peerSet := (control.mServicePeerMap.get? serviceId).getD ∅
  let notes := (control.mNotifications.get? serviceId).getD {}
  { control with
    mServicePeerMap := control.mServicePeerMap.insert serviceId (insert peerId peerSet)
    mNotifications := control.mNotifications.insert serviceId
      { notes with mAdded := insert peerId notes.mAdded } }

/-- `changes` of `recordFilterChanges_locked`: the services of one filter only, in order, with
whether it is the updated one. -/
def changes (originalFilter updatedFilter : ServicePeerFilter) : List (Nat × Bool) :=
  (Walk.walk (originalFilter.mAllowedServices.sort.map fun s => (s, ()))
    (updatedFilter.mAllowedServices.sort.map fun s => (s, ()))).filterMap fun
      | (serviceId, some _, none) => some (serviceId, false)
      | (serviceId, none, some _) => some (serviceId, true)
      | _ => none

/-- `recordFilterChanges_locked`. -/
def recordFilterChanges (originalFilter updatedFilter : ServicePeerFilter) :
    ServiceControl π μ :=
  (changes originalFilter updatedFilter).foldl (fun control change =>
    if change.2 then control.filterChangeAdded peerId change.1
    else control.filterChangeRemoved peerId change.1) control

/-- `getPeersConnected`. -/
def getPeersConnected (serviceId : Nat) : Finset π :=
  (control.mServicePeerMap.get? serviceId).getD ∅

/-- `isPeerConnected`. -/
def isPeerConnected (serviceId : Nat) (peerId : π) : Bool :=
  match control.mServicePeerMap.get? serviceId with
  | none => false
  | some peerSet => peerId ∈ peerSet

/-! ### The filters -/

/-- `checkFilter`. -/
def checkFilter (serviceId : Nat) (peerId : π) : Bool :=
  if serviceId = fullIdServiceInfo then true
  else
    match control.mPeerFilterMap.get? peerId with
    | none => false
    | some filter =>
        if filter.mDenyAll then false
        else if filter.mAllowAll then true
        else serviceId ∈ filter.mAllowedServices

/-- The loop of `updateFilterByPeer_locked`: the services that both sides have, that are compatible
and that the peer may use. -/
def allowedServices (info : RsPeerServiceInfo π) : Finset Nat :=
  ((Walk.walk control.mOwnServices.toList info.mServiceList.toList).filterMap fun
    | (serviceId, some own, some provided) =>
        if serviceInfoCompatible own provided ∧
            control.peerHasPermissionForService peerId serviceId then
          some serviceId
        else none
    | _ => none).toFinset

/-- The filter that `updateFilterByPeer_locked` makes for a peer. -/
def peerFilter (info : RsPeerServiceInfo π) : ServicePeerFilter :=
  let allowed := control.allowedServices peerId info
  { mDenyAll := allowed = ∅
    mAllowAll := allowed ≠ ∅ ∧ allowed.card = control.mOwnServices.toList.length
    mAllowedServices := allowed }

/-- `updateFilterByPeer_locked`, which is also `updateFilterByPeer`. -/
def updateFilterByPeer : ServiceControl π μ :=
  let originalFilter := (control.mPeerFilterMap.get? peerId).getD {}
  match control.mServicesProvided.get? peerId with
  | none =>
      let control := control.recordFilterChanges peerId originalFilter {}
      { control with mPeerFilterMap := control.mPeerFilterMap.erase peerId }
  | some info =>
      let filter := control.peerFilter peerId info
      { control with
        mPeerFilterMap :=
          if filter.mDenyAll then control.mPeerFilterMap.erase peerId
          else control.mPeerFilterMap.insert peerId filter
        }.recordFilterChanges peerId originalFilter filter

/-- `peerSet` of `updateAllFilters_locked`. -/
def peerSet : Finset π :=
  (control.mServicesProvided.toList.map Prod.fst).toFinset ∪
    (control.mPeerFilterMap.toList.map Prod.fst).toFinset

/-- `updateAllFilters_locked`, which is also `updateAllFilters`. -/
def updateAllFilters : ServiceControl π μ :=
  control.peerSet.sort.foldl updateFilterByPeer control

/-- `updateServicesProvided`. -/
def updateServicesProvided (info : RsPeerServiceInfo π) : ServiceControl π μ :=
  { control with
    mServicesProvided := control.mServicesProvided.insert peerId info }.updateFilterByPeer peerId

/-- `updateServicePermissions`, `onlinePeers` being what `getOnlineList` gives. -/
def updateServicePermissions (onlinePeers : List π) (serviceId : Nat)
    (permissions : RsServicePermissions π) : ServiceControl π μ :=
  match control.mServicePermissionMap.get? serviceId with
  | none => control
  | some previous =>
      { control with
        mUpdatedSet := control.mUpdatedSet ∪ (onlinePeers.filter fun peerId =>
          previous.peerHasPermission peerId ≠ permissions.peerHasPermission peerId).toFinset
        mServicePermissionMap := control.mServicePermissionMap.insert serviceId
          { permissions with mServiceId := serviceId } }.updateAllFilters

/-- `removePeer`. -/
def removePeer : ServiceControl π μ :=
  let removed : ServiceControl π μ :=
    { control with
      mPeerFilterMap := control.mPeerFilterMap.erase peerId
      mServicesProvided := control.mServicesProvided.erase peerId }
  match control.mPeerFilterMap.get? peerId with
  | none => removed
  | some originalFilter => removed.recordFilterChanges peerId originalFilter {}

/-! ### Changes of the connections -/

/-- `RS_PEER_S_FRIEND`. -/
def peerSFriend : UInt32 := 0x0001

/-- `RS_PEER_NEW`. -/
def peerNew : UInt32 := 0x0001

/-- `RS_PEER_CONNECTED`. -/
def peerConnected : UInt32 := 0x0004

/-- `RS_PEER_MOVED`. -/
def peerMoved : UInt32 := 0x0008

/-- `RS_PEER_DISCONNECTED`. -/
def peerDisconnected : UInt32 := 0x0010

/-- `pqipeer`. -/
structure Pqipeer (π : Type) where
  id : π
  state : UInt32
  actions : UInt32

/-- `updatePeerDisconnect`. -/
def updatePeerDisconnect : ServiceControl π μ := control.removePeer peerId

/-- `updatePeerNew`. -/
def updatePeerNew : ServiceControl π μ :=
  { control with mFriendNotifications := control.mFriendNotifications ++ [⟨peerId, .new⟩] }

/-- `updatePeerRemoved`. -/
def updatePeerRemoved : ServiceControl π μ :=
  let control := control.removePeer peerId
  { control with mFriendNotifications := control.mFriendNotifications ++ [⟨peerId, .removed⟩] }

/-- An iteration of `statusChange`; `updatePeerConnect` does nothing. -/
def statusChangeOf (peer : Pqipeer π) : ServiceControl π μ :=
  if peer.state &&& peerSFriend ≠ 0 then
    let control :=
      if peer.actions &&& peerConnected ≠ 0 then control
      else if peer.actions &&& peerDisconnected ≠ 0 then control.updatePeerDisconnect peer.id
      else control
    if peer.actions &&& peerNew ≠ 0 then control.updatePeerNew peer.id else control
  else if peer.actions &&& peerMoved ≠ 0 then control.updatePeerRemoved peer.id
  else control

/-- `statusChange`. -/
def statusChange (plist : List (Pqipeer π)) : ServiceControl π μ :=
  plist.foldl statusChangeOf control

/-! ### Notifications -/

/-- A call of `statusChange` of a monitor. -/
structure Notice (π μ : Type) where
  monitor : μ
  peers : List (PqiServicePeer π)

/-- The list that `notifyServices` makes of the notifications of a service. -/
def peersOf (notes : ServiceNotifications π) : List (PqiServicePeer π) :=
  (notes.mAdded.sort.map fun id => ⟨id, .connected⟩) ++
    notes.mRemoved.sort.map fun id => ⟨id, .disconnected⟩

/-- `notifyServices`, with the calls of the monitors. -/
def notifyServices : ServiceControl π μ × List (Notice π μ) :=
  ({ control with mNotifications := .empty },
    control.mNotifications.toList.flatMap fun (serviceId, notes) =>
      (control.mMonitors.toList.filter fun e => e.1 = serviceId).map fun e => ⟨e.2, peersOf notes⟩)

/-- `notifyAboutFriends`, with the calls of the monitors. -/
def notifyAboutFriends : ServiceControl π μ × List (Notice π μ) :=
  if control.mFriendNotifications = [] then (control, [])
  else
    ({ control with mFriendNotifications := [] },
      control.mMonitors.toList.map fun e => ⟨e.2, control.mFriendNotifications⟩)

/-! ### Runs -/

/-- The calls before the start: registrations, and the configuration. -/
inductive Setup (π μ : Type) where
  | registerService (info : RsServiceInfo) (defaultOn : Bool)
  | registerServiceMonitor (monitor : μ) (serviceId : Nat)
  | loadList (items : List (RsServicePermissions π))

/-- A call before the start. -/
def setUp : Setup π μ → ServiceControl π μ
  | .registerService info defaultOn => control.registerService info defaultOn
  | .registerServiceMonitor monitor serviceId => control.registerServiceMonitor monitor serviceId
  | .loadList items => control.loadList items

/-- The control after the calls before the start. -/
def start (setup : List (Setup π μ)) : ServiceControl π μ := setup.foldl setUp new

/-- The calls after the start. -/
inductive Input (π : Type) where
  | updateServicesProvided (peerId : π) (info : RsPeerServiceInfo π)
  | updateServicePermissions (onlinePeers : List π) (serviceId : Nat)
      (permissions : RsServicePermissions π)
  | updateFilterByPeer (peerId : π)
  | updateAllFilters
  | removePeer (peerId : π)
  | statusChange (plist : List (Pqipeer π))
  | getServiceChanges
  | notifyAboutFriends
  | notifyServices

/-- The machine of the calls; its events are the calls of the monitors. -/
def machine : Machine (ServiceControl π μ) (Input π) (Notice π μ) where
  step control
    | .updateServicesProvided peerId info => (control.updateServicesProvided peerId info, [])
    | .updateServicePermissions onlinePeers serviceId permissions =>
        (control.updateServicePermissions onlinePeers serviceId permissions, [])
    | .updateFilterByPeer peerId => (control.updateFilterByPeer peerId, [])
    | .updateAllFilters => (control.updateAllFilters, [])
    | .removePeer peerId => (control.removePeer peerId, [])
    | .statusChange plist => (control.statusChange plist, [])
    | .getServiceChanges => (control.getServiceChanges.2, [])
    | .notifyAboutFriends => control.notifyAboutFriends
    | .notifyServices => control.notifyServices

end ServiceControl

end Services
