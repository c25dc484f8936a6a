import RetroShare.GenExchange.Messages

/-!
# Received groups

`RsGenExchange::notifyNewGroups` and `processRecvdGroups` of `rsgenexchange.cc`.  A group that
waits for the key of its author stays among the received ones.  A group that is stored already is
handed over as an update.
-/

namespace GenExchange

/-! ### Items -/

/-- `RsNxsGrp`.  `metaData` is what `deserialise` makes of the metadata, when it succeeds, and
`metaLen` the number of bytes of the metadata. -/
structure RsNxsGrp where
  obj : Nat
  peerId : RsPeerId
  grpId : RsGxsGroupId
  grp : List UInt8
  metaLen : Nat
  metaData : Option RsGxsGrpMetaData

/-- A received group. -/
abbrev PendingGrp : Type := GxsPendingItem RsNxsGrp RsGxsGroupId

/-- `GroupUpdate`, with the metadata of the new group. -/
structure GroupUpdate where
  newGrp : RsNxsGrp
  metaData : RsGxsGrpMetaData

/-- `GXS_GRP_STATUS_UNPROCESSED | GXS_GRP_STATUS_UNREAD`. -/
def gxsGrpStatusReceived : UInt32 := 0x00000100 ||| 0x00000200

/-- `GROUP_SUBSCRIBE_NOT_SUBSCRIBED`. -/
def groupSubscribeNotSubscribed : UInt32 := 0x08

/-- `GXS_CIRCLE_TYPE_YOUREYESONLY`. -/
def gxsCircleTypeYoureyesonly : UInt32 := 0x0003

/-- What happens to the groups. -/
inductive GrpEvent where
  /-- A group is worked on. -/
  | use (obj : Nat)
  /-- A group is deleted. -/
  | delete (obj : Nat)
  /-- `storeGroup` is given a group with its metadata. -/
  | storeGroup (grp : RsNxsGrp) (metaData : RsGxsGrpMetaData)
  /-- A group is appended to `mGroupUpdates`. -/
  | update (grp : RsNxsGrp)

/-- The part of `RsGenExchange` that receives groups. -/
structure GrpReception where
  mReceivedGrps : List PendingGrp
  mGroupUpdates : List GroupUpdate

/-- What is answered during a call of `processRecvdGroups`. -/
structure GrpAnswers where
  retrieveGroupIds : List RsGxsGroupId
  mGixs : RsNxsGrp → Option RsGixs

/-! ### Arrival -/

/-- A group that arrives: it is deleted when one with its id is waiting. -/
def GrpReception.notifyNewGroup (s : GrpReception) (grp : RsNxsGrp) :
    GrpReception × List GrpEvent :=
  if s.mReceivedGrps.any fun e => e.mId = grp.grpId then (s, [.delete grp.obj])
  else ({ s with mReceivedGrps := s.mReceivedGrps ++ [⟨grp, grp.grpId, 0⟩] }, [])

/-- `RsGenExchange::notifyNewGroups`. -/
def GrpReception.notifyNewGroups (s : GrpReception) :
    List RsNxsGrp → GrpReception × List GrpEvent
  | [] => (s, [])
  | grp :: groups =>
      let first := s.notifyNewGroup grp
      let rest := first.1.notifyNewGroups groups
      (rest.1, first.2 ++ rest.2)

/-! ### The pass over the received groups -/

variable (service : Service) (answers : GrpAnswers)

/-- The local variables of `processRecvdGroups`, what is left of `mReceivedGrps`, and what is
appended to `mGroupUpdates`. -/
structure GrpPass where
  kept : List PendingGrp
  grps : List (RsNxsGrp × RsGxsGrpMetaData)
  updates : List GroupUpdate
  log : List GrpEvent

/-- The metadata of a group that has been validated. -/
def markGrpReceived (metaData : RsGxsGrpMetaData) : RsGxsGrpMetaData :=
  { metaData with
    mGroupStatus := gxsGrpStatusReceived
    mSubscribeFlags := groupSubscribeNotSubscribed }

/-- The peer that a group comes from is noted when the group is for our eyes only. -/
def noteOriginator (grp : RsNxsGrp) (metaData : RsGxsGrpMetaData) : RsGxsGrpMetaData :=
  if metaData.mCircleType = gxsCircleTypeYoureyesonly then
    { metaData with mOriginator := grp.peerId }
  else
    metaData

namespace GrpPass

/-- A group that is validated and new. -/
def accept (pass : GrpPass) (grp : RsNxsGrp) (metaData : RsGxsGrpMetaData) : GrpPass :=
  { pass with
    grps := pass.grps ++ [(grp, noteOriginator grp (markGrpReceived metaData))]
    log := pass.log ++ [.use grp.obj] }

/-- A group that is validated and stored already. -/
def update (pass : GrpPass) (grp : RsNxsGrp) (metaData : RsGxsGrpMetaData) : GrpPass :=
  { pass with
    updates := pass.updates ++ [⟨grp, markGrpReceived metaData⟩]
    log := pass.log ++ [.use grp.obj, .update grp] }

/-- A group that is deleted. -/
def reject (pass : GrpPass) (grp : RsNxsGrp) : GrpPass :=
  { pass with log := pass.log ++ [.use grp.obj, .delete grp.obj] }

/-- A group that is left among the received ones. -/
def keep (pass : GrpPass) (gpsi : PendingGrp) : GrpPass :=
  { pass with
    kept := pass.kept ++ [gpsi]
    log := pass.log ++ [.use gpsi.mItem.obj] }

/-- An iteration of the loop of `processRecvdGroups`. -/
def step (pass : GrpPass) (gpsi : PendingGrp) : GrpPass :=
  let grp := gpsi.mItem
  match grp.metaData with
  | none => pass.reject grp
  | some metaData =>
      match validateGrp service (answers.mGixs grp) grp.grp metaData with
      | .success =>
          if grp.grpId ∉ answers.retrieveGroupIds then pass.accept grp metaData
          else pass.update grp metaData
      | .fail => pass.reject grp
      | .failTryLater =>
          if gpsi.mAttempts = validateMaxAttempts then pass.reject grp else pass.keep gpsi

end GrpPass

/-- The end of `processRecvdGroups`. -/
def GrpReception.finish (s : GrpReception) (pass : GrpPass) : GrpReception × List GrpEvent :=
  (⟨pass.kept, s.mGroupUpdates ++ pass.updates⟩,
    pass.log ++ pass.grps.map fun e => .storeGroup e.1 e.2)

/-- `RsGenExchange::processRecvdGroups`. -/
def GrpReception.processRecvdGroups (s : GrpReception) : GrpReception × List GrpEvent :=
  s.finish (s.mReceivedGrps.foldl (GrpPass.step service answers) ⟨[], [], [], []⟩)

end GenExchange
