import RetroShare.Lib.Machine
import RetroShare.Lib.MultiMap
import RetroShare.Lib.OrdMap

/-!
# Reputations

`p3GxsReputation`: the own opinions about identities and those of the friends, and how a friend asks
for the opinions that changed.  `CalculateReputation` is declared and nowhere defined, so that the
reputation itself is left out.

`Exchange` is what happens between a node `a` and its friend `b`.  `SendReputations` reads the clock
before it takes the mutex, so it is two steps, between which `a` can change an opinion.
-/

universe u v

namespace Gxs

/-! ### Opinions on the wire -/

/-- `REPUTATION_OFFSET`. -/
def reputationOffset : Int := 100000

/-- `LOWER_LIMIT`. -/
def lowerLimit : Int := -100

/-- `UPPER_LIMIT`. -/
def upperLimit : Int := 100

/-- An opinion that is cut to `[LOWER_LIMIT, UPPER_LIMIT]`. -/
def limited (value : Int) : Int :=
  let value := if value < lowerLimit then lowerLimit else value
  if upperLimit < value then upperLimit else value

/-- `ConvertFromSerialised`. -/
def convertFromSerialised (value : UInt32) (limit : Bool) : Int :=
  let converted := value.toInt32.toInt - reputationOffset
  if limit then limited converted else converted

/-- `ConvertToSerialised`. -/
def convertToSerialised (value : Int) (limit : Bool) : UInt32 :=
  let value := if limit then limited value else value
  let value := value + reputationOffset
  UInt32.ofNat (if value < 0 then 0 else value).toNat

/-! ### Service -/

/-- `Reputation`. -/
structure Reputation (φ : Type u) [LinearOrder φ] where
  mOpinions : OrdMap φ Int
  mOwnOpinion : Int
  mOwnOpinionTs : Nat
  deriving DecidableEq

/-- The constructor. -/
def Reputation.new {φ : Type u} [LinearOrder φ] : Reputation φ where
  mOpinions := .empty
  mOwnOpinion := 0
  mOwnOpinionTs := 0

/-- `ReputationConfig`. -/
structure ReputationConfig where
  mLatestUpdate : Nat
  deriving DecidableEq

/-- `RsGxsReputationRequestItem`. -/
structure ReputationRequestItem where
  mLastUpdate : UInt32
  deriving DecidableEq

/-- `RsGxsReputationUpdateItem`. -/
structure ReputationUpdateItem (γ : Type v) [LinearOrder γ] where
  mOpinions : OrdMap γ UInt32
  mLatestUpdate : UInt32

/-- `p3GxsReputation`, with friends `φ` and identities `γ`. -/
structure P3GxsReputation (φ : Type u) (γ : Type v) [LinearOrder φ] [LinearOrder γ] where
  mConfig : OrdMap φ ReputationConfig
  mReputations : OrdMap γ (Reputation φ)
  mUpdated : MultiMap Nat γ

/-- `kMaximumSetSize`. -/
def kMaximumSetSize : Nat := 100

namespace ReputationUpdateItem

variable {φ : Type u} {γ : Type v} [LinearOrder φ] [LinearOrder γ]

/-- The constructor. -/
def new : ReputationUpdateItem γ where
  mOpinions := .empty
  mLatestUpdate := 0

/-- The packet with the own opinion of one more identity. -/
def add (pkt : ReputationUpdateItem γ) (gxsId : γ) (reputation : Reputation φ) (now : Nat) :
    ReputationUpdateItem γ where
  mOpinions := pkt.mOpinions.insert gxsId (convertToSerialised reputation.mOwnOpinion true)
  mLatestUpdate :=
    let latest := UInt32.ofNat reputation.mOwnOpinionTs
    -- another update is possible in this second
    if latest = UInt32.ofNat now then latest - 1 else latest

end ReputationUpdateItem

namespace P3GxsReputation

variable {φ : Type u} {γ : Type v} [LinearOrder φ] [LinearOrder γ] (svc : P3GxsReputation φ γ)

/-- The constructor. -/
def new : P3GxsReputation φ γ where
  mConfig := .empty
  mReputations := .empty
  mUpdated := .empty

/-- `updateOpinion`. -/
def updateOpinion (gxsid : γ) (opinion : Int) (now : Nat) : P3GxsReputation φ γ × Bool :=
  let reputation := (svc.mReputations.get? gxsid).getD .new
  if reputation.mOwnOpinionTs ≠ 0 ∧ reputation.mOwnOpinion = opinion then (svc, false)
  else
    let updated :=
      if reputation.mOwnOpinionTs ≠ 0 then svc.mUpdated.erase reputation.mOwnOpinionTs gxsid
      else svc.mUpdated
    ({ svc with
        mReputations := svc.mReputations.insert gxsid
          { reputation with mOwnOpinion := opinion, mOwnOpinionTs := now }
        mUpdated := updated.insert now gxsid },
      true)

/-- `sendReputationRequest`. -/
def sendReputationRequest (peerid : φ) : ReputationRequestItem where
  mLastUpdate :=
    match svc.mConfig.get? peerid with
    | some config => UInt32.ofNat config.mLatestUpdate
    | none => 0

/-- The loop of `SendReputations`, with the packet that is being filled. -/
def fillPackets (now : Nat) : Nat → ReputationUpdateItem γ → List (Nat × γ) →
    List (ReputationUpdateItem γ)
  | _, pkt, [] => if pkt.mOpinions.toList.isEmpty then [] else [pkt]
  | count, pkt, e :: es =>
      match svc.mReputations.get? e.2 with
      | none => fillPackets now count pkt es
      | some reputation =>
          if reputation.mOwnOpinionTs = 0 then fillPackets now count pkt es
          else if kMaximumSetSize < count + 1 then
            pkt.add e.2 reputation now :: fillPackets now 0 .new es
          else fillPackets now (count + 1) (pkt.add e.2 reputation now) es

/-- The entries of `mUpdated` from its `upper_bound` on. -/
def updatedAfter (last_update : Nat) : List (Nat × γ) :=
  svc.mUpdated.toList.filter fun e => last_update < e.1

/-- `SendReputations`, where `now` is the clock that it has read. -/
def sendReputations (request : ReputationRequestItem) (now : Nat) : List (ReputationUpdateItem γ) :=
  svc.fillPackets now 0 .new (svc.updatedAfter request.mLastUpdate.toNat)

/-- `updateLatestUpdate`. -/
def updateLatestUpdate (peerid : φ) (ts : Nat) : P3GxsReputation φ γ :=
  { svc with mConfig := svc.mConfig.insert peerid { mLatestUpdate := ts } }

/-- The entry of an identity after one opinion of `RecvReputations`. -/
def recvOpinion (peerid : φ) (reputation : Option (Reputation φ)) (value : UInt32) :
    Reputation φ :=
  let reputation := reputation.getD .new
  { reputation with
    mOpinions := reputation.mOpinions.insert peerid (convertFromSerialised value true) }

/-- `RecvReputations`. -/
def recvReputations (peerid : φ) (item : ReputationUpdateItem γ) : P3GxsReputation φ γ :=
  { svc with
    mReputations := item.mOpinions.toList.foldl
      (fun reputations (e : γ × UInt32) =>
        reputations.insert e.1 (recvOpinion peerid (reputations.get? e.1) e.2))
      svc.mReputations
    }.updateLatestUpdate peerid item.mLatestUpdate.toNat

end P3GxsReputation

/-! ### Exchange -/

/-- A node `a` and its friend `b`, the items on their way, and the clock.  `answering` is a request
that `a` has begun to answer, and the clock that it has read for it. -/
structure Exchange (φ : Type u) (γ : Type v) [LinearOrder φ] [LinearOrder γ] where
  a : P3GxsReputation φ γ
  b : P3GxsReputation φ γ
  requests : List ReputationRequestItem
  answering : Option (ReputationRequestItem × Nat)
  packets : List (ReputationUpdateItem γ)
  now : Nat

namespace Exchange

variable {φ : Type u} {γ : Type v} [LinearOrder φ] [LinearOrder γ] (peer : φ) (s : Exchange φ γ)

/-- What can happen.  `lose` loses the connection, and all that is on its way. -/
inductive Input (γ : Type v) where
  | updateOpinion (gxsid : γ) (opinion : Int)
  | request
  | readClock
  | answer
  | deliver
  | lose
  | wait (seconds : Nat)

/-- Two nodes that know nothing. -/
def start (now : Nat) : Exchange φ γ where
  a := .new
  b := .new
  requests := []
  answering := none
  packets := []
  now := now

/-- One step, where `peer` is the id of `a`. -/
def apply : Input γ → Exchange φ γ
  | .updateOpinion gxsid opinion => { s with a := (s.a.updateOpinion gxsid opinion s.now).1 }
  | .request => { s with requests := s.requests ++ [s.b.sendReputationRequest peer] }
  | .readClock =>
      match s.answering, s.requests with
      | none, request :: requests =>
          { s with answering := some (request, s.now), requests := requests }
      | _, _ => s
  | .answer =>
      match s.answering with
      | some (request, now) =>
          { s with
            answering := none
            packets := s.packets ++ s.a.sendReputations request now }
      | none => s
  | .deliver =>
      match s.packets with
      | pkt :: packets => { s with b := s.b.recvReputations peer pkt, packets := packets }
      | [] => s
  | .lose => { s with requests := [], packets := [] }
  | .wait seconds => { s with now := s.now + seconds }

/-- The exchange as a machine. -/
def machine : Machine (Exchange φ γ) (Input γ) Unit where
  step s input := (s.apply peer input, [])

end Exchange

end Gxs
