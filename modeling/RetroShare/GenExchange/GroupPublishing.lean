import RetroShare.GenExchange.GroupCreation
import RetroShare.GenExchange.Publishing
import RetroShare.GenExchange.Updates

/-!
# Publication of groups

`RsGenExchange::publishGroup`, `updateGroup` and `deleteGroup` of `rsgenexchange.cc`, and what a
tick makes of their requests: `publishGrps`, `processGroupUpdatePublish` and `processGroupDelete`,
with `RsDataService::storeGroup`, `updateGroup` and `removeGroups` of `rsdataservice.cc` behind
them.

A request is named by its token.  The metadata that are retrieved for a tick are objects, one for
every group, and so are those that an attempt to publish makes; memory that has been deleted is read
as it was.  The clock goes on before every input, and within a tick.
-/

namespace GenExchange

/-! ### Requests -/

/-- `PENDING_SIGN_TIMEOUT`. -/
def pendingSignTimeout : Nat := 10

/-- `GxsGrpPendingSign`. -/
structure GxsGrpPendingSign where
  mStartTS : Nat
  mToken : Token
  mItem : RsGroupMetaData
  mHaveKeys : Bool
  mIsUpdate : Bool
  mPrivateKeys : RsTlvSecurityKeySet
  mPublicKeys : RsTlvSecurityKeySet

/-- `GxsGrpPendingSign::GxsGrpPendingSign`. -/
def GxsGrpPendingSign.new (item : RsGroupMetaData) (token : Token) (now : Nat) :
    GxsGrpPendingSign where
  mStartTS := now
  mToken := token
  mItem := item
  mHaveKeys := false
  mIsUpdate := false
  mPrivateKeys := .new
  mPublicKeys := .new

/-- `GroupUpdatePublish`. -/
structure GroupUpdatePublish where
  grpItem : RsGroupMetaData
  mToken : Token

/-- `GroupDeletePublish`, of whose item the id is read. -/
structure GroupDeletePublish where
  mGroupId : RsGxsGroupId
  mToken : Token

/-- A version of a group, as it is transmitted. -/
structure GrpVersion where
  grpId : RsGxsGroupId
  grp : List UInt8
  metaData : RsGxsGrpMetaData

/-- Metadata of a group in memory. -/
inductive MetaObject where
  /-- What `retrieveGxsGrpMetaData` makes for a group in a tick. -/
  | retrieved (tick : Nat) (grpId : RsGxsGroupId)
  /-- What `publishGrps` makes of an item in a tick. -/
  | made (tick : Nat) (token : Token)
  deriving DecidableEq

/-- What happens to metadata and to tokens. -/
inductive GroupEvent where
  | use (obj : MetaObject)
  | delete (obj : MetaObject)
  /-- `addGroupData` or `updateGroupData` is given a version. -/
  | publish (token : Token) (version : GrpVersion)
  /-- `updatePublicRequestStatus`, with `GXS_REQUEST_V2_STATUS_COMPLETE` or
  `GXS_REQUEST_V2_STATUS_FAILED`. -/
  | status (token : Token) (complete : Bool)

/-- The metadata that an event is about. -/
def GroupEvent.object : GroupEvent → Option MetaObject
  | .use obj => some obj
  | .delete obj => some obj
  | _ => none

/-- Whether an event ends its metadata. -/
def GroupEvent.isFinal : GroupEvent → Bool
  | .delete _ => true
  | _ => false

/-- The token that has a final status. -/
def GroupEvent.ended : GroupEvent → Option Token
  | .status token _ => some token
  | _ => none

/-! ### The exchange -/

/-- The part of `RsGenExchange` that publishes groups, with its data store.  `versions` are those
that have been given out last; they are noted here, and read by no function. -/
structure GroupPublisher where
  mGrpsToPublish : List GxsGrpPendingSign
  mGroupUpdatePublish : List GroupUpdatePublish
  mGroupDeletePublish : List GroupDeletePublish
  table : GrpTable
  versions : OrdMap RsGxsGroupId RsGxsGrpMetaData
  now : Nat
  ticks : Nat

namespace GroupPublisher

variable (s : GroupPublisher)

/-- The clock goes on. -/
def wait (seconds : Nat) : GroupPublisher := { s with now := s.now + seconds }

/-- `RsGenExchange::publishGroup`, with the token that it generates. -/
def publishGroup (token : Token) (grpItem : RsGroupMetaData) : GroupPublisher :=
  { s with mGrpsToPublish := s.mGrpsToPublish ++ [.new grpItem token s.now] }

/-- `RsGenExchange::updateGroup`, with the token that it generates. -/
def updateGroup (token : Token) (grpItem : RsGroupMetaData) : GroupPublisher :=
  { s with mGroupUpdatePublish := s.mGroupUpdatePublish ++ [⟨grpItem, token⟩] }

/-- `RsGenExchange::deleteGroup`, with the token that it generates. -/
def deleteGroup (token : Token) (grpId : RsGxsGroupId) : GroupPublisher :=
  { s with mGroupDeletePublish := s.mGroupDeletePublish ++ [⟨grpId, token⟩] }

end GroupPublisher

/-! ### An attempt to publish -/

/-- What is answered while an item is published, and how long it takes. -/
structure TurnAnswers where
  /-- The fingerprints of the keys that are generated. -/
  adminId : RsGxsId
  publishId : RsGxsId
  /-- `service_CreateGroup`, which may change the item. -/
  serviceCreateGroup : RsGroupMetaData → RsTlvSecurityKeySet → CreateReturn × RsGroupMetaData
  /-- What the serialiser of the service makes of the item, when it succeeds. -/
  serialise : RsGroupMetaData → Option (List UInt8)
  mGixs : Option RsGixs
  untilStart : Nat
  untilAdminKey : Nat
  untilPublishKey : Nat
  untilPublish : Nat

namespace TurnAnswers

variable (answers : TurnAnswers) (now : Nat)

/-- `now` of `publishGrps`. -/
def startsAt : Nat := now + answers.untilStart

/-- When the keys of the administrator are generated. -/
def adminKeyAt : Nat := answers.startsAt now + answers.untilAdminKey

/-- When the keys that publish are generated. -/
def publishKeyAt : Nat := answers.adminKeyAt now + answers.untilPublishKey

/-- When the time stamp of the version is taken. -/
def publishesAt : Nat := answers.publishKeyAt now + answers.untilPublish

end TurnAnswers

/-- What becomes of an attempt, and whether metadata have been made in it. -/
inductive Attempt where
  | fail (made : Bool)
  | failTryLater (mItem : RsGroupMetaData) (made : Bool)
  | success (version : GrpVersion)

variable (service : Service) (rsa : RsaKeys service.ssl)

/-- The keys of an item that is published: they are generated in the first attempt. -/
def GxsGrpPendingSign.withKeys (ggps : GxsGrpPendingSign) (answers : TurnAnswers) (now : Nat) :
    GxsGrpPendingSign :=
  if ggps.mHaveKeys then ggps
  else
    let keys := generateGroupKeys rsa answers.adminId answers.publishId (answers.adminKeyAt now)
      (answers.publishKeyAt now) true
    { ggps with mHaveKeys := true, mPrivateKeys := keys.1, mPublicKeys := keys.2 }

/-- `RsDataService::validSize`, of a version. -/
def GrpVersion.validSize (version : GrpVersion) : Bool :=
  GenExchange.validSize
    { obj := 0
      peerId := 0
      grpId := version.grpId
      grp := version.grp
      metaLen := version.metaData.serialise.length
      metaData := some version.metaData }

/-- What `publishGrps` makes of an item that has its keys. -/
def GxsGrpPendingSign.attempt (ggps : GxsGrpPendingSign) (answers : TurnAnswers) (now : Nat) :
    Attempt :=
  match namingAdminKey ggps.mPrivateKeys with
  | none => .fail false
  | some privAdminKey =>
      let grpId : RsGxsGroupId := privAdminKey.keyId
      match answers.serviceCreateGroup { ggps.mItem with mGroupId := grpId } ggps.mPrivateKeys with
      | (.fail, _) => .fail false
      | (.failTryLater, grpItem) => .failTryLater grpItem false
      | (.success, grpItem) =>
          match answers.serialise grpItem with
          | none => .fail false
          | some grp =>
              let grpItem := { grpItem with mPublishTs := answers.publishesAt now }
              match createGroup service answers.mGixs grp grpItem.toMetaData ggps.mPrivateKeys
                ggps.mPublicKeys with
              | (.fail, _) => .fail true
              | (.failTryLater, _) => .failTryLater grpItem true
              | (.success, metaData) =>
                  let version : GrpVersion := ⟨grpId, grp, metaData⟩
                  if version.validSize then .success version else .fail true

/-- The row of a version: it has the private keys. -/
def GrpVersion.row (version : GrpVersion) (privateKeys : RsTlvSecurityKeySet) : GrpRow :=
  ⟨version.grp, { version.metaData with keys := privateKeys }⟩

/-- `RsGxsDataAccess::addGroupData`: a row that is there stays. -/
def addGroupData (table : GrpTable) (version : GrpVersion) (privateKeys : RsTlvSecurityKeySet) :
    GrpTable :=
  table.insertNew version.grpId (version.row privateKeys)

/-- `RsGxsDataAccess::updateGroupData`: of a row that is there the parent of the group stays. -/
def updateGroupData (table : GrpTable) (version : GrpVersion) (privateKeys : RsTlvSecurityKeySet) :
    GrpTable :=
  match table.get? version.grpId with
  | none => table
  | some row =>
      let row' := version.row privateKeys
      table.insert version.grpId
        { row' with metaData :=
          { row'.metaData with mParentGrpId := row.metaData.mParentGrpId } }

/-! ### `publishGrps` -/

/-- The variables of `publishGrps`: what is left of `mGrpsToPublish`, and what has been inserted
into `toNotify`. -/
structure PublishGrpsState where
  kept : List GxsGrpPendingSign
  notes : List (Token × Bool)
  table : GrpTable
  versions : OrdMap RsGxsGroupId RsGxsGrpMetaData
  now : Nat

namespace PublishGrpsState

variable (ps : PublishGrpsState) (answers : TurnAnswers)

/-- An item ends, and is noted. -/
def note (token : Token) (complete : Bool) : PublishGrpsState :=
  { ps with now := answers.publishesAt ps.now, notes := ps.notes ++ [(token, complete)] }

/-- An item stays. -/
def keep (ggps : GxsGrpPendingSign) : PublishGrpsState :=
  { ps with now := answers.publishesAt ps.now, kept := ps.kept ++ [ggps] }

/-- A version is given to the data store. -/
def publish (ggps : GxsGrpPendingSign) (version : GrpVersion) : PublishGrpsState :=
  { ps with
    table :=
      if ggps.mIsUpdate then updateGroupData ps.table version ggps.mPrivateKeys
      else addGroupData ps.table version ggps.mPrivateKeys
    versions := ps.versions.insert version.grpId version.metaData }

end PublishGrpsState

/-- Whether an item has been waiting for too long. -/
def GxsGrpPendingSign.timedOut (ggps : GxsGrpPendingSign) (now : Nat) : Bool :=
  ggps.mStartTS + pendingSignTimeout < now

/-- What happens to the metadata of an attempt that does not succeed. -/
def discarded (obj : MetaObject) (made : Bool) : List GroupEvent :=
  if made then [.use obj, .delete obj] else []

/-- The loop of `publishGrps`. -/
def publishGrpsLoop (answers : Token → TurnAnswers) (tick : Nat) :
    Machine PublishGrpsState GxsGrpPendingSign GroupEvent where
  step ps ggps :=
    let token := ggps.mToken
    let turn := answers token
    let obj := MetaObject.made tick token
    if ggps.timedOut (turn.startsAt ps.now) then (ps.note turn token false, [])
    else
      let ggps := ggps.withKeys service rsa turn ps.now
      match ggps.attempt service turn ps.now with
      | .fail made => (ps.note turn token false, discarded obj made)
      | .failTryLater grpItem made =>
          (ps.keep turn { ggps with mItem := grpItem }, discarded obj made)
      | .success version =>
          ((ps.publish ggps version).note turn token true,
            [.use obj, .publish token version, .delete obj])

/-- The loop over `toNotify`. -/
def notify (notes : List (Token × Bool)) : List GroupEvent :=
  (notes.foldl (fun toNotify e => toNotify.insertNew e.1 e.2)
    (OrdMap.empty : OrdMap Token Bool)).toList.map fun e => .status e.1 e.2

namespace GroupPublisher

variable (s : GroupPublisher)

/-- The variables of `publishGrps` before its loop. -/
def publishGrpsState : PublishGrpsState := ⟨[], [], s.table, s.versions, s.now⟩

/-- `RsGenExchange::publishGrps`. -/
def publishGrps (answers : Token → TurnAnswers) : GroupPublisher × List GroupEvent :=
  let loop := publishGrpsLoop service rsa answers s.ticks
  let ps := loop.run s.publishGrpsState s.mGrpsToPublish
  ({ s with mGrpsToPublish := ps.kept, table := ps.table, versions := ps.versions, now := ps.now },
    loop.trace s.publishGrpsState s.mGrpsToPublish ++ notify ps.notes)

end GroupPublisher

/-! ### `processGroupUpdatePublish` -/

/-- The item that `processGroupUpdatePublish` appends to `mGrpsToPublish`, with the keys of the
stored group. -/
def GroupUpdatePublish.pendingSign (gup : GroupUpdatePublish) (keys : RsTlvSecurityKeySet)
    (now : Nat) : GxsGrpPendingSign where
  mStartTS := now
  mToken := gup.mToken
  mItem := gup.grpItem
  mHaveKeys := true
  mIsUpdate := true
  mPrivateKeys := keys
  mPublicKeys := generatePublicFromPrivateKeys service.ssl keys

/-- The loop of `processGroupUpdatePublish`, with `mGrpsToPublish` and the clock. -/
def updatePublishLoop (table : GrpTable) (untilStart : Token → Nat) (tick : Nat) :
    Machine (List GxsGrpPendingSign × Nat) GroupUpdatePublish GroupEvent where
  step us gup :=
    let obj := MetaObject.retrieved tick gup.grpItem.mGroupId
    match retrieveGxsGrpMetaData table gup.grpItem.mGroupId with
    | none => (us, [.status gup.mToken false])
    | some metaData =>
        let now := us.2 + untilStart gup.mToken
        if checkKeys metaData.keys then
          ((us.1 ++ [gup.pendingSign service metaData.keys now], now), [.use obj, .delete obj])
        else
          ((us.1, now), [.use obj, .status gup.mToken false, .delete obj])

namespace GroupPublisher

variable (s : GroupPublisher)

/-- `RsGenExchange::processGroupUpdatePublish`. -/
def processGroupUpdatePublish (untilStart : Token → Nat) : GroupPublisher × List GroupEvent :=
  let loop := updatePublishLoop service s.table untilStart s.ticks
  let us := loop.run (s.mGrpsToPublish, s.now) s.mGroupUpdatePublish
  ({ s with mGrpsToPublish := us.1, now := us.2, mGroupUpdatePublish := [] },
    loop.trace (s.mGrpsToPublish, s.now) s.mGroupUpdatePublish)

/-- `RsGenExchange::processGroupDelete`. -/
def processGroupDelete : GroupPublisher × List GroupEvent :=
  ({ s with
      mGroupDeletePublish := []
      table := s.mGroupDeletePublish.foldl (fun table gdp => table.erase gdp.mGroupId) s.table },
    notify (s.mGroupDeletePublish.map fun gdp => (gdp.mToken, true)))

end GroupPublisher

/-! ### The machine -/

/-- What is answered in a tick, and how long it takes. -/
structure TickAnswers where
  turns : Token → TurnAnswers
  untilStart : Token → Nat

/-- `RsGenExchange::tick`. -/
def GroupPublisher.tick (s : GroupPublisher) (answers : TickAnswers) :
    GroupPublisher × List GroupEvent :=
  let published := s.publishGrps service rsa answers.turns
  let updated := published.1.processGroupUpdatePublish service answers.untilStart
  let deleted := updated.1.processGroupDelete
  ({ deleted.1 with ticks := s.ticks + 1 }, published.2 ++ (updated.2 ++ deleted.2))

/-- What happens to an `RsGenExchange` that publishes groups. -/
inductive GroupInput where
  | publishGroup (token : Token) (grpItem : RsGroupMetaData)
  | updateGroup (token : Token) (grpItem : RsGroupMetaData)
  | deleteGroup (token : Token) (grpId : RsGxsGroupId)
  | tick (answers : TickAnswers)

/-- The groups of an `RsGenExchange`.  An input comes with the time that has passed before it. -/
def groupMachine : Machine GroupPublisher (Nat × GroupInput) GroupEvent where
  step s i :=
    match i.2 with
    | .publishGroup token grpItem => ((s.wait i.1).publishGroup token grpItem, [])
    | .updateGroup token grpItem => ((s.wait i.1).updateGroup token grpItem, [])
    | .deleteGroup token grpId => ((s.wait i.1).deleteGroup token grpId, [])
    | .tick answers => (s.wait i.1).tick service rsa answers

end GenExchange
