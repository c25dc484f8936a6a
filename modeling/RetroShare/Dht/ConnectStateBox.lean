import RetroShare.Lib.Machine

/-!
# The connect state box

`PeerConnectStateBox` of `connectstatebox.cc`: the states that the attempts to connect to a peer go
through.  The time is an input of every call, and so are the random numbers.
-/

namespace Dht

/-- `FAILED_WAIT_TIME`. -/
def failedWaitTime : Int := 1800

/-- `TCP_WAIT_TIME`. -/
def tcpWaitTime : Int := 60

/-- `DIRECT_MAX_WAIT_TIME`. -/
def directMaxWaitTime : Nat := 60

/-- `PROXY_BASE_WAIT_TIME`. -/
def proxyBaseWaitTime : Nat := 30

/-- `PROXY_MAX_WAIT_TIME`. -/
def proxyMaxWaitTime : Nat := 120

/-- `RELAY_MAX_WAIT_TIME`. -/
def relayMaxWaitTime : Nat := 60

/-- `REVERSE_WAIT_TIME`. -/
def reverseWaitTime : Int := 300

/-- `MAX_DIRECT_ATTEMPTS`. -/
def maxDirectAttempts : Nat := 5

/-- `MAX_PROXY_ATTEMPTS`. -/
def maxProxyAttempts : Nat := 10

/-- `MAX_RELAY_ATTEMPTS`. -/
def maxRelayAttempts : Nat := 5

/-- `MAX_DIRECT_FAILED_ATTEMPTS`. -/
def maxDirectFailedAttempts : Nat := 3

/-- `MAX_PROXY_FAILED_ATTEMPTS`. -/
def maxProxyFailedAttempts : Nat := 3

/-- `MAX_RELAY_FAILED_ATTEMPTS`. -/
def maxRelayFailedAttempts : Nat := 3

/-- The states of the box, `CSB_START` and so on. -/
inductive State where
  | start
  | tcpWait
  | directAttempt
  | directWait
  | proxyAttempt
  | proxyWait
  | relayAttempt
  | relayWait
  | reverseWait
  | failedWait
  | connected
  deriving DecidableEq

/-- The number of a state. -/
def State.code : State → Nat
  | start => 1
  | tcpWait => 2
  | directAttempt => 3
  | directWait => 4
  | proxyAttempt => 5
  | proxyWait => 6
  | relayAttempt => 7
  | relayWait => 8
  | reverseWait => 9
  | failedWait => 10
  | connected => 11

/-- The net states, `CSB_NETSTATE_UNKNOWN` and so on. -/
inductive NetState where
  | unknown
  | forward
  | stableNat
  | exclusiveNat
  | firewalled
  deriving DecidableEq

/-- The number of a net state. -/
def NetState.code : NetState → Nat
  | unknown => 0
  | forward => 1
  | stableNat => 2
  | exclusiveNat => 3
  | firewalled => 4

/-- The type of a call-back: `CSB_CONNECT_DIRECT`, or any other number. -/
inductive CbType where
  | direct
  | unreachable
  deriving DecidableEq

/-- The port of an action, `CSB_ACTION_DHT_PORT` or `CSB_ACTION_PROXY_PORT`. -/
inductive Port where
  | dht
  | proxy
  deriving DecidableEq

/-- What `connectCb` returns: a mode, and a port with some of them. -/
inductive Action where
  | wait
  | tcpConn
  | directConn (port : Port)
  | proxyConn (port : Port)
  | relayConn (port : Port)
  deriving DecidableEq

/-- The updates, `CSB_UPDATE_CONNECTED` and so on.  `other` is any other number, which
`CSB_UPDATE_NONE` is treated like. -/
inductive Update where
  | connected
  | disconnected
  | authDenied
  | retryAttempt
  | failedAttempt
  | modeUnavailable
  | other
  deriving DecidableEq

/-- `RSNET_NETWORK_BEHINDNAT`. -/
def networkBehindNat : UInt32 := 5

/-- `RSNET_NETWORK_EXTERNALIP`. -/
def networkExternalIp : UInt32 := 6

/-- `RSNET_NATTYPE_DETERM_SYM`. -/
def natTypeDetermSym : UInt32 := 4

/-- `RSNET_NATTYPE_RESTRICTED_CONE`. -/
def natTypeRestrictedCone : UInt32 := 5

/-- `RSNET_NATTYPE_FULL_CONE`. -/
def natTypeFullCone : UInt32 := 6

/-- `RSNET_NATHOLE_UNKNOWN`. -/
def natHoleUnknown : UInt32 := 0

/-- `RSNET_NATHOLE_NONE`. -/
def natHoleNone : UInt32 := 1

/-- `convertNetStateToInternal`. -/
def convertNetStateToInternal (netmode nathole nattype : UInt32) : NetState :=
  if netmode = networkExternalIp then .forward
  else if nathole ≠ natHoleUnknown ∧ nathole ≠ natHoleNone then .forward
  else if netmode = networkBehindNat then
    if nattype = natTypeRestrictedCone ∨ nattype = natTypeFullCone then .stableNat
    else if nattype = natTypeDetermSym then .exclusiveNat
    else .firewalled
  else .unknown

/-- `shouldUseProxyPortInternal`. -/
def shouldUseProxyPortInternal (netstate : NetState) : Bool :=
  if netstate = .forward then false else true

/-- `PeerConnectStateBox`. -/
structure PeerConnectStateBox where
  mState : State
  mNetState : NetState
  mStateTS : Int
  mNoAttempts : Nat
  mNoFailedAttempts : Nat
  mNextAttemptTS : Int
  mAttemptLength : Int
  deriving DecidableEq

namespace PeerConnectStateBox

/-- The constructor. -/
def new (now : Int) : PeerConnectStateBox where
  mState := .start
  mNetState := .unknown
  mStateTS := now
  mNoAttempts := 0
  mNoFailedAttempts := 0
  mNextAttemptTS := now
  mAttemptLength := 0

variable (box : PeerConnectStateBox)

/-- The box enters a state, with both counters at zero. -/
def enter (state : State) (now : Int) : PeerConnectStateBox :=
  { box with mState := state, mStateTS := now, mNoAttempts := 0, mNoFailedAttempts := 0 }

/-- The box tries again. -/
def retry (state : State) (now : Int) : PeerConnectStateBox :=
  { box with mState := state, mStateTS := now, mNoAttempts := box.mNoAttempts + 1 }

/-- The box enters a wait state, until `next`. -/
def waitUntil (state : State) (now next : Int) : PeerConnectStateBox :=
  { box with mState := state, mStateTS := now, mNextAttemptTS := next }

/-- The start case of `connectCb_direct` and `connectCb_unreachable`. -/
def startUp (now : Int) : PeerConnectStateBox :=
  { box.enter .tcpWait now with mNextAttemptTS := now + tcpWaitTime }

/-- The box gives up for some time. -/
def giveUp (now : Int) : PeerConnectStateBox :=
  { box.enter .failedWait now with mNextAttemptTS := now + failedWaitTime }

/-- `connectCb_direct`. -/
def connectCbDirect (now : Int) : PeerConnectStateBox × Action :=
  match box.mState with
  | .directAttempt => (box, .wait)
  | .proxyAttempt => (box, .wait)
  | .relayAttempt => (box, .wait)
  | .failedWait =>
      if now < box.mNextAttemptTS then (box, .wait) else (box.startUp now, .tcpConn)
  | .reverseWait => (box.startUp now, .tcpConn)
  | .proxyWait => (box.startUp now, .tcpConn)
  | .relayWait => (box.startUp now, .tcpConn)
  | .start => (box.startUp now, .tcpConn)
  | .tcpWait =>
      if now < box.mNextAttemptTS then (box, .wait)
      else (box.enter .directAttempt now, .directConn .dht)
  | .directWait =>
      if now < box.mNextAttemptTS then (box, .wait)
      else if maxDirectAttempts ≤ box.mNoAttempts ∨
          maxDirectFailedAttempts ≤ box.mNoFailedAttempts then
        (box.giveUp now, .wait)
      else (box.retry .directAttempt now, .directConn .dht)
  | .connected => (box, .wait)

/-- `connectCb_unreachable`.  In `CSB_TCP_WAIT` the source compares the state of the box with the
number of a net state. -/
def connectCbUnreachable (now : Int) : PeerConnectStateBox × Action :=
  let proxyPortMode : Port := if !shouldUseProxyPortInternal box.mNetState then .dht else .proxy
  match box.mState with
  | .directAttempt => (box, .wait)
  | .proxyAttempt => (box, .wait)
  | .relayAttempt => (box, .wait)
  | .failedWait =>
      if now < box.mNextAttemptTS then (box, .wait) else (box.startUp now, .wait)
  | .directWait => (box.startUp now, .wait)
  | .start => (box.startUp now, .wait)
  | .tcpWait =>
      if now < box.mNextAttemptTS then (box, .wait)
      else if box.mState.code ≠ NetState.firewalled.code then
        (box.enter .proxyAttempt now, .proxyConn proxyPortMode)
      else (box.enter .relayAttempt now, .relayConn .dht)
  | .proxyWait =>
      if now < box.mNextAttemptTS then (box, .wait)
      else if maxProxyAttempts ≤ box.mNoAttempts ∨
          maxProxyFailedAttempts ≤ box.mNoFailedAttempts then
        (box.enter .relayAttempt now, .relayConn .dht)
      else (box.retry .proxyAttempt now, .proxyConn proxyPortMode)
  | .reverseWait =>
      if now < box.mNextAttemptTS then (box, .wait)
      else (box.enter .relayAttempt now, .relayConn .dht)
  | .relayWait =>
      if now < box.mNextAttemptTS then (box, .wait)
      else if maxRelayAttempts ≤ box.mNoAttempts ∨
          maxRelayFailedAttempts ≤ box.mNoFailedAttempts then
        (box.giveUp now, .wait)
      else (box.retry .relayAttempt now, .relayConn .dht)
  | .connected => (box, .wait)

/-- `connectCb`. -/
def connectCb (cbtype : CbType) (netmode nathole nattype : UInt32) (now : Int) :
    PeerConnectStateBox × Action :=
  let box := { box with mNetState := convertNetStateToInternal netmode nathole nattype }
  match cbtype with
  | .direct => box.connectCbDirect now
  | .unreachable => box.connectCbUnreachable now

/-- The wait state behind an attempt that has failed. -/
def waitAfterAttempt (now : Int) (random : Nat) : PeerConnectStateBox :=
  let box := { box with mAttemptLength := now - box.mStateTS }
  match box.mState with
  | .directAttempt => box.waitUntil .directWait now (now + (random % directMaxWaitTime : Nat))
  | .proxyAttempt =>
      box.waitUntil .proxyWait now
        (now + proxyBaseWaitTime + (random % (proxyMaxWaitTime - proxyBaseWaitTime) : Nat))
  | .relayAttempt => box.waitUntil .relayWait now (now + (random % relayMaxWaitTime : Nat))
  | _ => box

/-- The states that `updateCb` expects updates of an attempt in. -/
def attempting : Bool :=
  match box.mState with
  | .directAttempt => true
  | .proxyAttempt => true
  | .relayAttempt => true
  | _ => false

/-- `updateCb`, with what it returns. -/
def updateCb (update : Update) (now : Int) (random : Nat) : PeerConnectStateBox × Nat :=
  match update with
  | .connected =>
      ({ box with
          mAttemptLength := if box.attempting then now - box.mStateTS else 0
          mState := .connected
          mStateTS := now }, 0)
  | .disconnected =>
      if box.mState ≠ .connected then (box, 0)
      else ({ box with mState := .start, mStateTS := now }, 1)
  | .authDenied =>
      if !box.attempting then (box, 0)
      else
        -- the source takes the length of the attempt after it has set the time of the state
        ({ box.waitUntil .failedWait now (now + failedWaitTime) with mAttemptLength := 0 }, 1)
  | .retryAttempt => if !box.attempting then (box, 0) else (box.waitAfterAttempt now random, 1)
  | .failedAttempt =>
      if !box.attempting then (box, 0)
      else
        ({ box with mNoFailedAttempts := box.mNoFailedAttempts + 1 }.waitAfterAttempt now random, 1)
  | .modeUnavailable =>
      if !box.attempting then (box, 0)
      else
        let box' := { box with mAttemptLength := now - box.mStateTS }
        if box.mState = .proxyAttempt then
          if box.mNetState = .forward then
            (box'.waitUntil .reverseWait now (now + reverseWaitTime), 1)
          else
            ({ box'.waitUntil .relayWait now (now + (random % relayMaxWaitTime : Nat)) with
                mNoAttempts := 0 }, 1)
        else
          -- the source asks for the state after it has changed it
          (box'.waitUntil .failedWait now (now + failedWaitTime), 0)
  | .other => (box, 0)

/-- A call. -/
inductive Input where
  | connect (cbtype : CbType) (netmode nathole nattype : UInt32) (now : Int)
  | update (update : Update) (now : Int) (random : Nat)

/-- The time of a call. -/
def Input.now : Input → Int
  | connect _ _ _ _ now => now
  | update _ now _ => now

/-- The box as a machine that emits what `connectCb` returns. -/
def machine : Machine PeerConnectStateBox Input Action where
  step
    | box, .connect cbtype netmode nathole nattype now =>
        let called := box.connectCb cbtype netmode nathole nattype now
        (called.1, [called.2])
    | box, .update update now random => ((box.updateCb update now random).1, [])

end PeerConnectStateBox

end Dht
