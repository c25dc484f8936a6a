import Mathlib.Data.Prod.Lex
import RetroShare.Lib.Machine
import RetroShare.Lib.OrdMap

/-!
# UDP relays

`UdpRelayReceiver` of `udprelay.cc`, as far as the relays between two other peers go.  A relay is
stored once for each direction.

The bandwidths are `double`s, which are the parameter `β`, with what is done to them.  The time is
an input of every call that reads the clock.
-/

namespace TcpOnUdp

/-- `sockaddr_in`, without the bytes that its comparison ignores. -/
structure SockaddrIn where
  sin_family : Nat
  s_addr : Nat
  sin_port : Nat
  deriving DecidableEq

/-- The order of `operator<`: by the family, then by the address, then by the port. -/
def SockaddrIn.rank (a : SockaddrIn) : ℕ ×ₗ ℕ ×ₗ ℕ :=
  toLex (a.sin_family, toLex (a.s_addr, a.sin_port))

theorem SockaddrIn.rank_injective :
  Function.Injective rank
  := by
  rintro ⟨family, addr, port⟩ ⟨family', addr', port'⟩ h
  cases h
  rfl

instance : LinearOrder SockaddrIn := LinearOrder.lift' SockaddrIn.rank SockaddrIn.rank_injective

/-- `UdpRelayAddrSet`. -/
structure UdpRelayAddrSet where
  mSrcAddr : SockaddrIn
  mDestAddr : SockaddrIn
  deriving DecidableEq

/-- The order of `operator<`: by the source, then by the destination. -/
def UdpRelayAddrSet.rank (a : UdpRelayAddrSet) : SockaddrIn ×ₗ SockaddrIn :=
  toLex (a.mSrcAddr, a.mDestAddr)

theorem UdpRelayAddrSet.rank_injective :
  Function.Injective rank
  := by
  rintro ⟨src, dest⟩ ⟨src', dest'⟩ h
  cases h
  rfl

instance : LinearOrder UdpRelayAddrSet :=
  LinearOrder.lift' UdpRelayAddrSet.rank UdpRelayAddrSet.rank_injective

/-- `flippedSet`. -/
def UdpRelayAddrSet.flippedSet (a : UdpRelayAddrSet) : UdpRelayAddrSet where
  mSrcAddr := a.mDestAddr
  mDestAddr := a.mSrcAddr

/-- `UDP_RELAY_NUM_CLASS`. -/
def relayNumClass : Int := 4

/-- `UDP_RELAY_CLASS_ALL`. -/
def relayClassAll : Int := 0

/-- `UDP_RELAY_CLASS_GENERAL`. -/
def relayClassGeneral : Int := 1

/-- `UDP_RELAY_CLASS_FOF`. -/
def relayClassFof : Int := 2

/-- `UDP_RELAY_CLASS_FRIENDS`. -/
def relayClassFriends : Int := 3

/-- `RELAY_TIMEOUT`. -/
def relayTimeout : Int := 30

/-- `RELAY_MAX_BANDWIDTH`. -/
def relayMaxBandwidth : Int := 1000

/-- The lifetime of the relays of a class. -/
def relayLifetime (relayClass : Int) : Int :=
  if relayClass = relayClassFof then 7200
  else if relayClass = relayClassFriends then 14400
  else 3600

/-- The numbers for bandwidths: what `checkRelays` makes of a bandwidth, the bytes since the last
time and the seconds, and whether it drops a relay with a bandwidth and a limit. -/
structure Bandwidths (β : Type) where
  ofInt : Int → β
  filtered : β → Nat → Int → β
  exceeds : β → β → Bool

/-- `UdpRelayProxy`. -/
structure UdpRelayProxy (β : Type) where
  mAddrs : UdpRelayAddrSet
  mBandwidth : β
  mDataSize : Nat
  mLastBandwidthTS : Int
  mLastTS : Int
  mStartTS : Int
  mBandwidthLimit : β
  mRelayClass : Int

section

variable {β : Type} (bandwidths : Bandwidths β)

namespace UdpRelayProxy

/-- The constructor. -/
def new (addrSet : UdpRelayAddrSet) (relayClass bandwidth now : Int) : UdpRelayProxy β where
  mAddrs := addrSet
  mBandwidth := bandwidths.ofInt 0
  mDataSize := 0
  mLastBandwidthTS := 0
  mLastTS := now
  mStartTS := now
  mBandwidthLimit := bandwidths.ofInt (if bandwidth = 0 then relayMaxBandwidth else bandwidth)
  mRelayClass := relayClass

variable (relay : UdpRelayProxy β) (now : Int)

/-- The relay with its bandwidth as `checkRelays` finds it. -/
def measured : UdpRelayProxy β :=
  { relay with
    mBandwidth :=
      bandwidths.filtered relay.mBandwidth relay.mDataSize (now - relay.mLastBandwidthTS)
    mDataSize := 0
    mLastBandwidthTS := now }

/-- `checkRelays` drops the relay. -/
def dropped : Bool :=
  bandwidths.exceeds relay.mBandwidth relay.mBandwidthLimit ||
    relayTimeout < now - relay.mLastTS ||
    relayLifetime relay.mRelayClass < now - relay.mStartTS

end UdpRelayProxy

/-- `UdpRelayReceiver`. -/
structure UdpRelayReceiver (β : Type) where
  mClassLimit : Int → Int
  mClassCount : Int → Int
  mClassBandwidth : Int → Int
  mRelays : OrdMap UdpRelayAddrSet (UdpRelayProxy β)

namespace UdpRelayReceiver

variable (receiver : UdpRelayReceiver β)

/-- `setRelayTotal`. -/
def setRelayTotal (count : Int) : UdpRelayReceiver β :=
  { receiver with
    mClassLimit :=
      Function.update (Function.update (Function.update (Function.update receiver.mClassLimit
        relayClassAll count) relayClassGeneral (count.tdiv 2)) relayClassFof (count.tdiv 2))
        relayClassFriends 0 }

/-- `setRelayClassMax`. -/
def setRelayClassMax (classIdx count bandwidth : Int) : UdpRelayReceiver β :=
  if classIdx < 0 ∨ relayNumClass ≤ classIdx then receiver
  else
    { receiver with
      mClassLimit := Function.update receiver.mClassLimit classIdx count
      mClassBandwidth := Function.update receiver.mClassBandwidth classIdx bandwidth }

/-- The constructor. -/
def new : UdpRelayReceiver β :=
  let receiver : UdpRelayReceiver β :=
    { mClassLimit := fun _ => 0, mClassCount := fun _ => 0, mClassBandwidth := fun _ => 0,
      mRelays := .empty }
  (((receiver.setRelayTotal 2).setRelayClassMax relayClassFriends 0 1024).setRelayClassMax
    relayClassFof 1 1024).setRelayClassMax relayClassGeneral 1 1024

/-- The class with space from `classIdx` downwards. -/
def degraded : Nat → Option Int
  | 0 => if receiver.mClassCount 0 < receiver.mClassLimit 0 then some 0 else none
  | classIdx + 1 =>
      if receiver.mClassCount (classIdx + 1 : Nat) < receiver.mClassLimit (classIdx + 1 : Nat) then
        some (classIdx + 1 : Nat)
      else if classIdx = 0 then none
      else degraded classIdx

/-- `installRelayClass_relayLocked`, with the class and the bandwidth if there is space. -/
def installRelayClass (classIdx : Int) : UdpRelayReceiver β × Option (Int × Int) :=
  if receiver.mClassLimit relayClassAll ≤ receiver.mClassCount relayClassAll then (receiver, none)
  else if classIdx < 0 ∨ relayNumClass ≤ classIdx then (receiver, none)
  else
    match receiver.degraded classIdx.toNat with
    | none => (receiver, none)
    | some classIdx =>
        let counted := Function.update receiver.mClassCount relayClassAll
          (receiver.mClassCount relayClassAll + 1)
        ({ receiver with
            mClassCount := Function.update counted classIdx (counted classIdx + 1) },
          some (classIdx, receiver.mClassBandwidth classIdx))

/-- `addUdpRelay`, with the class and the limit of the bandwidth of the relay that is installed. -/
def addUdpRelay (addrSet : UdpRelayAddrSet) (relayClass now : Int) :
    UdpRelayReceiver β × Option (Int × β) :=
  if (receiver.mRelays.get? addrSet).isSome then (receiver, none)
  else
    match receiver.installRelayClass relayClass with
    | (receiver, none) => (receiver, none)
    | (receiver, some (relayClass, bandwidth)) =>
        let udpRelay := UdpRelayProxy.new bandwidths addrSet relayClass bandwidth now
        let altUdpRelay :=
          UdpRelayProxy.new bandwidths addrSet.flippedSet relayClass bandwidth now
        ({ receiver with
            mRelays :=
              (receiver.mRelays.insert addrSet udpRelay).insert addrSet.flippedSet altUdpRelay },
          some (relayClass, altUdpRelay.mBandwidthLimit))

/-- `removeRelayClass_relayLocked`. -/
def removeRelayClass (classIdx : Int) : UdpRelayReceiver β :=
  if receiver.mClassCount relayClassAll < 1 then receiver
  else if classIdx < 0 ∨ relayNumClass ≤ classIdx then receiver
  else if receiver.mClassCount classIdx < 1 then receiver
  else
    let counted := Function.update receiver.mClassCount relayClassAll
      (receiver.mClassCount relayClassAll - 1)
    { receiver with mClassCount := Function.update counted classIdx (counted classIdx - 1) }

/-- `removeUdpRelay_relayLocked`, which is `removeUdpRelay`. -/
def removeUdpRelay (addrSet : UdpRelayAddrSet) : UdpRelayReceiver β :=
  let receiver :=
    match receiver.mRelays.get? addrSet with
    | none => receiver
    | some relay =>
        let receiver := receiver.removeRelayClass relay.mRelayClass
        { receiver with mRelays := receiver.mRelays.erase addrSet }
  { receiver with mRelays := receiver.mRelays.erase addrSet.flippedSet }

/-- The relays that `checkRelays` drops. -/
def eraseList (now : Int) : List UdpRelayAddrSet :=
  (receiver.mRelays.toList.filter fun e => e.2.dropped bandwidths now).map Prod.fst

/-- `checkRelays`. -/
def checkRelays (now : Int) : UdpRelayReceiver β :=
  let receiver :=
    { receiver with mRelays := receiver.mRelays.map fun _ relay => relay.measured bandwidths now }
  (receiver.eraseList bandwidths now).foldl removeUdpRelay receiver

/-- What `recvPkt` does with a packet for a relay. -/
def relayPkt (addrSet : UdpRelayAddrSet) (size : Nat) (now : Int) : UdpRelayReceiver β :=
  match receiver.mRelays.get? addrSet with
  | none => receiver
  | some relay =>
      { receiver with
        mRelays := receiver.mRelays.insert addrSet
          { relay with mLastTS := now, mDataSize := relay.mDataSize + size } }

/-- A call. -/
inductive Input where
  | add (addrSet : UdpRelayAddrSet) (relayClass now : Int)
  | remove (addrSet : UdpRelayAddrSet)
  | check (now : Int)
  | setTotal (count : Int)
  | setClassMax (classIdx count bandwidth : Int)
  | relay (addrSet : UdpRelayAddrSet) (size : Nat) (now : Int)

/-- The receiver as a machine that emits the classes of the relays that are installed. -/
def machine : Machine (UdpRelayReceiver β) Input Int where
  step
    | receiver, .add addrSet relayClass now =>
        let added := receiver.addUdpRelay bandwidths addrSet relayClass now
        (added.1, (added.2.map Prod.fst).toList)
    | receiver, .remove addrSet => (receiver.removeUdpRelay addrSet, [])
    | receiver, .check now => (receiver.checkRelays bandwidths now, [])
    | receiver, .setTotal count => (receiver.setRelayTotal count, [])
    | receiver, .setClassMax classIdx count bandwidth =>
        (receiver.setRelayClassMax classIdx count bandwidth, [])
    | receiver, .relay addrSet size now => (receiver.relayPkt addrSet size now, [])

end UdpRelayReceiver

end

end TcpOnUdp
