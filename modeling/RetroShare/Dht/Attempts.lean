import RetroShare.Dht.ConnectStateBox

/-!
# Attempts

What is true of every sequence of calls of a `PeerConnectStateBox`: an attempt is not followed by
another one before an update, wait states are waited for, a denied authentication during an attempt
stops the attempts for some time, and their number between two entries into `CSB_TCP_WAIT` is
bounded.

A firewalled peer is to be reached through relays only.  The source asks this of the state of the
box instead of the net state, so that it never takes this way out of `CSB_TCP_WAIT`.
-/

namespace Dht

/-- An attempt to connect, but for the TCP one. -/
def Action.isAttempt : Action → Bool
  | directConn _ => true
  | proxyConn _ => true
  | relayConn _ => true
  | _ => false

/-- An attempt through a proxy. -/
def Action.isProxy : Action → Bool
  | proxyConn _ => true
  | _ => false

/-- An attempt through a relay. -/
def Action.isRelay : Action → Bool
  | relayConn _ => true
  | _ => false

/-- The wait states. -/
def State.isWait : State → Bool
  | tcpWait => true
  | directWait => true
  | proxyWait => true
  | relayWait => true
  | reverseWait => true
  | failedWait => true
  | _ => false

namespace PeerConnectStateBox

/-- A call of `connectCb`. -/
def Input.isConnect : Input → Bool
  | connect _ _ _ _ _ => true
  | _ => false

/-- A call of `connectCb` of the direct type. -/
def Input.isDirect : Input → Bool
  | connect .direct _ _ _ _ => true
  | _ => false

/-- An update to `CSB_CONNECTED`. -/
def Input.isConnected : Input → Bool
  | update .connected _ _ => true
  | _ => false

/-- The call takes the box into another state. -/
def Enters (state : State) (box : PeerConnectStateBox) (i : Input) : Prop :=
  box.mState ≠ state ∧ (machine.next box i).mState = state

/-- The call takes the box into a wait state. -/
def EntersWait (box : PeerConnectStateBox) (i : Input) : Prop :=
  ∃ state : State, state.isWait ∧ Enters state box i

variable (box : PeerConnectStateBox) (inputs : List Input)

/-- After an attempt no action is returned before an update. -/
def StopsAfterAttempt : Prop :=
  ∀ pre i mid j post, inputs = pre ++ i :: (mid ++ j :: post) →
    (∃ a ∈ machine.emit (machine.run box pre) i, a.isAttempt) →
    (∀ k ∈ mid, k.isConnect) →
    ∀ a ∈ machine.emit (machine.run box (pre ++ i :: mid)) j, a = .wait

/-- No attempt comes before the end of the last wait state. -/
def WaitsForNextAttempt : Prop :=
  ∀ pre i mid j post, inputs = pre ++ i :: (mid ++ j :: post) →
    EntersWait (machine.run box pre) i →
    machine.Along (fun box k => ¬EntersWait box k) (machine.run box (pre ++ [i])) mid →
    (∃ a ∈ machine.emit (machine.run box (pre ++ i :: mid)) j, a.isAttempt) →
    (machine.run box (pre ++ [i])).mNextAttemptTS ≤ j.now

/-- After a denied authentication in a state of `D`, no action is returned for some time, unless
there is a connection. -/
def RespectsDenial (D : PeerConnectStateBox → Prop) : Prop :=
  ∀ pre now random mid j post,
    inputs = pre ++ .update .authDenied now random :: (mid ++ j :: post) →
    D (machine.run box pre) →
    (∀ k ∈ mid, ¬k.isConnected) →
    j.now < now + failedWaitTime →
    ∀ a ∈ machine.emit (machine.run box (pre ++ .update .authDenied now random :: mid)) j,
      a = .wait

/-- From one entry into `CSB_TCP_WAIT` to the next, the attempts through proxies and relays are
few. -/
def BoundsAttempts : Prop :=
  ∀ pre i mid post, inputs = pre ++ i :: (mid ++ post) →
    Enters .tcpWait (machine.run box pre) i →
    machine.Along (fun box k => ¬Enters .tcpWait box k) (machine.run box (pre ++ [i])) mid →
    (∀ k ∈ mid, ¬k.isDirect) →
    (machine.trace (machine.run box (pre ++ [i])) mid).countP Action.isProxy ≤
        maxProxyAttempts + 1 ∧
      (machine.trace (machine.run box (pre ++ [i])) mid).countP Action.isRelay ≤
        maxRelayAttempts + 1

/-- The discipline of a run. -/
structure Disciplined (D : PeerConnectStateBox → Prop) : Prop where
  stops : StopsAfterAttempt box inputs
  waits : WaitsForNextAttempt box inputs
  denial : RespectsDenial box inputs D
  bounds : BoundsAttempts box inputs

/-! ### What a call does -/

variable {box : PeerConnectStateBox} {inputs : List Input} {now : Int} (cbtype : CbType) {i : Input}

/-- What `connectCb` does to a box with the net state that it has been given. -/
inductive Connects (box : PeerConnectStateBox) (now : Int) : PeerConnectStateBox × Action → Prop
  | idle : Connects box now (box, .wait)
  | startUp {action : Action} (hattempting : ¬box.attempting) (hstate : box.mState ≠ .tcpWait)
      (hfailed : box.mState = .failedWait → box.mNextAttemptTS ≤ now)
      (haction : ¬action.isAttempt) : Connects box now (box.startUp now, action)
  | giveUp (hattempting : ¬box.attempting) (hstate : box.mState ≠ .failedWait) :
      Connects box now (box.giveUp now, .wait)
  | attempt {box' : PeerConnectStateBox} {action : Action} (hwait : box.mState.isWait)
      (hfailed : box.mState ≠ .failedWait) (hdue : box.mNextAttemptTS ≤ now)
      (hattempting : box'.attempting) (hnext : box'.mNextAttemptTS = box.mNextAttemptTS) :
      Connects box now (box', action)

theorem connects_direct (box : PeerConnectStateBox) (now : Int) :
  Connects box now (box.connectCbDirect now)
  := by
  rw [connectCbDirect]
  cases hstate : box.mState with
  | directAttempt => exact .idle
  | proxyAttempt => exact .idle
  | relayAttempt => exact .idle
  | connected => exact .idle
  | failedWait =>
    simp only
    split
    · exact .idle
    · exact .startUp (by simp [attempting, hstate]) (by simp [hstate]) (fun _ => by omega)
        (by simp [Action.isAttempt])
  | tcpWait =>
    simp only
    split
    · exact .idle
    · exact .attempt (by simp [hstate, State.isWait]) (by simp [hstate]) (by omega) rfl rfl
  | directWait =>
    simp only
    split_ifs
    · exact .idle
    · exact .giveUp (by simp [attempting, hstate]) (by simp [hstate])
    · exact .attempt (by simp [hstate, State.isWait]) (by simp [hstate]) (by omega) rfl rfl
  | _ =>
    exact .startUp (by simp [attempting, hstate]) (by simp [hstate]) (by simp [hstate])
      (by simp [Action.isAttempt])

theorem connects_unreachable (box : PeerConnectStateBox) (now : Int) :
  Connects box now (box.connectCbUnreachable now)
  := by
  rw [connectCbUnreachable]
  cases hstate : box.mState with
  | directAttempt => exact .idle
  | proxyAttempt => exact .idle
  | relayAttempt => exact .idle
  | connected => exact .idle
  | failedWait =>
    simp only
    split
    · exact .idle
    · exact .startUp (by simp [attempting, hstate]) (by simp [hstate]) (fun _ => by omega)
        (by simp [Action.isAttempt])
  | tcpWait =>
    simp only
    split
    · exact .idle
    · split
      · exact .attempt (by simp [hstate, State.isWait]) (by simp [hstate]) (by omega) rfl rfl
      · exact .attempt (by simp [hstate, State.isWait]) (by simp [hstate]) (by omega) rfl rfl
  | proxyWait =>
    simp only
    split
    · exact .idle
    · split
      · exact .attempt (by simp [hstate, State.isWait]) (by simp [hstate]) (by omega) rfl rfl
      · exact .attempt (by simp [hstate, State.isWait]) (by simp [hstate]) (by omega) rfl rfl
  | reverseWait =>
    simp only
    split_ifs
    · exact .idle
    · exact .attempt (by simp [hstate, State.isWait]) (by simp [hstate]) (by omega) rfl rfl
  | relayWait =>
    simp only
    split_ifs
    · exact .idle
    · exact .giveUp (by simp [attempting, hstate]) (by simp [hstate])
    · exact .attempt (by simp [hstate, State.isWait]) (by simp [hstate]) (by omega) rfl rfl
  | _ =>
    exact .startUp (by simp [attempting, hstate]) (by simp [hstate]) (by simp [hstate])
      (by simp [Action.isAttempt])

/-- The box with the net state of a call. -/
def withNetState (box : PeerConnectStateBox) (netstate : NetState) : PeerConnectStateBox :=
  { box with mNetState := netstate }

theorem connects (netmode nathole nattype : UInt32) (now : Int) :
  Connects (box.withNetState (convertNetStateToInternal netmode nathole nattype)) now
    (box.connectCb cbtype netmode nathole nattype now)
  := by
  cases cbtype with
  | direct => exact connects_direct _ _
  | unreachable => exact connects_unreachable _ _

theorem emit_connect (netmode nathole nattype : UInt32) (now : Int) :
  machine.emit box (.connect cbtype netmode nathole nattype now) =
    [(box.connectCb cbtype netmode nathole nattype now).2]
  := rfl

theorem next_connect (netmode nathole nattype : UInt32) (now : Int) :
  machine.next box (.connect cbtype netmode nathole nattype now) =
    (box.connectCb cbtype netmode nathole nattype now).1
  := rfl

/-- An attempt leaves the box attempting, with the time of the last wait state, which is over. -/
theorem attempting_of_isAttempt (h : ∃ a ∈ machine.emit box i, a.isAttempt) :
  (machine.next box i).attempting ∧ box.mNextAttemptTS ≤ i.now
  := by
  obtain ⟨a, ha, hattempt⟩ := h
  cases i with
  | update update now random => cases ha
  | connect cbtype netmode nathole nattype now =>
    rw [emit_connect, List.mem_singleton] at ha
    rw [next_connect]
    have hconnects := @connects box cbtype netmode nathole nattype now
    generalize box.connectCb cbtype netmode nathole nattype now = called at ha hconnects ⊢
    subst ha
    cases hconnects with
    | idle => cases hattempt
    | startUp _ _ _ haction => exact absurd hattempt haction
    | giveUp _ _ => cases hattempt
    | attempt _ _ hdue hattempting _ => exact ⟨hattempting, hdue⟩

theorem not_attempting_of_isWait (h : box.mState.isWait) :
  ¬box.attempting
  := by
  intro hattempting
  rw [attempting] at hattempting
  generalize box.mState = state at h hattempting
  cases state with
  | directAttempt => cases h
  | proxyAttempt => cases h
  | relayAttempt => cases h
  | _ => cases hattempting

theorem idle_of_attempting (h : box.attempting) (hi : i.isConnect) :
  (machine.next box i).attempting ∧ ∀ a ∈ machine.emit box i, a = .wait
  := by
  cases i with
  | update update now random => cases hi
  | connect cbtype netmode nathole nattype now =>
    rw [emit_connect, next_connect]
    have hconnects := @connects box cbtype netmode nathole nattype now
    generalize box.connectCb cbtype netmode nathole nattype now = called at hconnects ⊢
    cases hconnects with
    | idle => exact ⟨h, fun a ha => List.mem_singleton.1 ha⟩
    | startUp hattempting => exact absurd h hattempting
    | giveUp hattempting => exact absurd h hattempting
    | attempt hwait => exact absurd h (not_attempting_of_isWait hwait)

theorem stopsAfterAttempt (box : PeerConnectStateBox) (inputs : List Input) :
  StopsAfterAttempt box inputs
  := by
  intro pre i mid j post _ hattempt hmid a ha
  have hattempting : ∀ mid, (∀ k ∈ mid, k.isConnect) →
      (machine.run (machine.next (machine.run box pre) i) mid).attempting := by
    intro mid hmid
    apply Machine.run_of_step (P := fun s : PeerConnectStateBox => s.attempting)
      (C := fun _ k => k.isConnect) (fun s k hs hk => (idle_of_attempting hs hk).1)
    · exact (attempting_of_isAttempt hattempt).1
    · exact Machine.along_of_forall_mem hmid _
  rw [Machine.run_append, Machine.run_cons] at ha
  cases j with
  | update update now random => cases ha
  | connect cbtype netmode nathole nattype now =>
    exact (idle_of_attempting (hattempting mid hmid) rfl).2 a ha

theorem attempting_cases (h : box.attempting) :
  box.mState = .directAttempt ∨ box.mState = .proxyAttempt ∨ box.mState = .relayAttempt
  := by
  rw [attempting] at h
  generalize box.mState = state at h ⊢
  cases state with
  | directAttempt => exact .inl rfl
  | proxyAttempt => exact .inr (.inl rfl)
  | relayAttempt => exact .inr (.inr rfl)
  | _ => cases h

/-- What `updateCb` does: it leaves the box as it is, or connects or disconnects it, or takes it
from an attempt into a wait state. -/
inductive Updates (box : PeerConnectStateBox) (now : Int) :
    Update → PeerConnectStateBox → Prop
  | idle {update : Update} (hconnected : update ≠ .connected) : Updates box now update box
  | connected {box' : PeerConnectStateBox} (hstate : box'.mState = .connected)
      (hnext : box'.mNextAttemptTS = box.mNextAttemptTS) : Updates box now .connected box'
  | disconnected {box' : PeerConnectStateBox} (hstate : box.mState = .connected)
      (hstate' : box'.mState = .start) (hnext : box'.mNextAttemptTS = box.mNextAttemptTS) :
      Updates box now .disconnected box'
  | denied {box' : PeerConnectStateBox} (hattempting : box.attempting)
      (hstate : box'.mState = .failedWait)
      (hnext : box'.mNextAttemptTS = now + failedWaitTime) : Updates box now .authDenied box'
  | failed {update : Update} {box' : PeerConnectStateBox} (hattempting : box.attempting)
      (hwait : box'.mState.isWait) (hconnected : update ≠ .connected)
      (hdenied : update ≠ .authDenied) : Updates box now update box'

theorem isWait_waitAfterAttempt (h : box.attempting) (now : Int) (random : Nat) :
  (box.waitAfterAttempt now random).mState.isWait
  := by
  rw [waitAfterAttempt]
  rcases attempting_cases h with hstate | hstate | hstate
  all_goals
    rw [hstate]
    rfl

theorem updates (box : PeerConnectStateBox) (update : Update) (now : Int) (random : Nat) :
  Updates box now update (box.updateCb update now random).1
  := by
  cases update with
  | connected => exact .connected rfl rfl
  | other => exact .idle (by rintro ⟨⟩)
  | disconnected =>
    rw [updateCb]
    split
    · exact .idle (by rintro ⟨⟩)
    · rename_i hstate
      exact .disconnected (not_not.1 hstate) rfl rfl
  | authDenied =>
    rw [updateCb]
    cases hattempting : box.attempting with
    | false => exact .idle (by rintro ⟨⟩)
    | true => exact .denied hattempting rfl rfl
  | retryAttempt =>
    rw [updateCb]
    cases hattempting : box.attempting with
    | false => exact .idle (by rintro ⟨⟩)
    | true =>
      exact .failed hattempting (isWait_waitAfterAttempt hattempting _ _) (by rintro ⟨⟩)
        (by rintro ⟨⟩)
  | failedAttempt =>
    rw [updateCb]
    cases hattempting : box.attempting with
    | false => exact .idle (by rintro ⟨⟩)
    | true =>
      apply Updates.failed hattempting _ (by rintro ⟨⟩) (by rintro ⟨⟩)
      apply isWait_waitAfterAttempt
      exact hattempting
  | modeUnavailable =>
    rw [updateCb]
    cases hattempting : box.attempting with
    | false => exact .idle (by rintro ⟨⟩)
    | true =>
      apply Updates.failed hattempting _ (by rintro ⟨⟩) (by rintro ⟨⟩)
      simp only [Bool.not_true, Bool.false_eq_true, if_false]
      split
      · split
        · rfl
        · rfl
      · rfl

/-! ### Wait states -/

/-- A call that enters no wait state leaves the time of the last one. -/
theorem mNextAttemptTS_next (h : ¬EntersWait box i) :
  (machine.next box i).mNextAttemptTS = box.mNextAttemptTS
  := by
  cases i with
  | connect cbtype netmode nathole nattype now =>
    have henters : ∀ state : State, state.isWait → box.mState ≠ state →
        (box.connectCb cbtype netmode nathole nattype now).1.mState ≠ state :=
      fun state hwait hne heq => h ⟨state, hwait, hne, heq⟩
    rw [next_connect]
    have hconnects := @connects box cbtype netmode nathole nattype now
    generalize box.connectCb cbtype netmode nathole nattype now = called at henters hconnects ⊢
    cases hconnects with
    | idle => rfl
    | startUp _ hstate => exact absurd rfl (henters .tcpWait rfl hstate)
    | giveUp _ hstate => exact absurd rfl (henters .failedWait rfl hstate)
    | attempt _ _ _ _ hnext => exact hnext
  | update update now random =>
    have henters : ∀ state : State, state.isWait → box.mState ≠ state →
        (box.updateCb update now random).1.mState ≠ state :=
      fun state hwait hne heq => h ⟨state, hwait, hne, heq⟩
    have hupdates := updates box update now random
    change (box.updateCb update now random).1.mNextAttemptTS = _
    generalize (box.updateCb update now random).1 = box' at henters hupdates ⊢
    cases hupdates with
    | idle => rfl
    | connected _ hnext => exact hnext
    | disconnected _ _ hnext => exact hnext
    | denied hattempting hstate =>
      apply absurd hstate (henters .failedWait rfl _)
      intro hfailed
      exact not_attempting_of_isWait (by rw [hfailed]; rfl) hattempting
    | failed hattempting hwait =>
      apply absurd rfl (henters _ hwait _)
      intro heq
      exact not_attempting_of_isWait (by rwa [heq]) hattempting

theorem waitsForNextAttempt (box : PeerConnectStateBox) (inputs : List Input) :
  WaitsForNextAttempt box inputs
  := by
  intro pre i mid j post _ _ hmid hattempt
  have hnext : ∀ (s : PeerConnectStateBox) (mid : List Input),
      machine.Along (fun box k => ¬EntersWait box k) s mid →
      (machine.run s mid).mNextAttemptTS = s.mNextAttemptTS := by
    intro s mid hmid
    apply Machine.run_of_step
      (P := fun s' : PeerConnectStateBox => s'.mNextAttemptTS = s.mNextAttemptTS)
      (fun s' k hs hk => (mNextAttemptTS_next hk).trans hs) rfl hmid
  have hdue := (attempting_of_isAttempt hattempt).2
  rw [List.append_cons, Machine.run_append, hnext _ _ hmid] at hdue
  exact hdue

/-! ### Denied authentications -/

theorem idle_of_failedWait (hstate : box.mState = .failedWait) (hsoon : i.now < box.mNextAttemptTS)
    (hi : ¬i.isConnected) :
  ((machine.next box i).mState = .failedWait ∧
      (machine.next box i).mNextAttemptTS = box.mNextAttemptTS) ∧
    ∀ a ∈ machine.emit box i, a = .wait
  := by
  cases i with
  | connect cbtype netmode nathole nattype now =>
    rw [emit_connect, next_connect]
    have hconnects := @connects box cbtype netmode nathole nattype now
    generalize box.connectCb cbtype netmode nathole nattype now = called at hconnects ⊢
    cases hconnects with
    | idle => exact ⟨⟨hstate, rfl⟩, fun a ha => List.mem_singleton.1 ha⟩
    | startUp _ _ hfailed => exact absurd (hfailed hstate) (not_le.2 hsoon)
    | giveUp _ hne => exact absurd hstate hne
    | attempt _ hne => exact absurd hstate hne
  | update update now random =>
    have hattempting : ¬box.attempting := not_attempting_of_isWait (by rw [hstate]; rfl)
    have hupdates := updates box update now random
    change ((box.updateCb update now random).1.mState = _ ∧
      (box.updateCb update now random).1.mNextAttemptTS = _) ∧ _
    generalize (box.updateCb update now random).1 = box' at hupdates ⊢
    cases hupdates with
    | idle => exact ⟨⟨hstate, rfl⟩, fun a ha => by cases ha⟩
    | connected => exact absurd rfl hi
    | disconnected hconnected =>
      rw [hstate] at hconnected
      cases hconnected
    | denied hdenied => exact absurd hdenied hattempting
    | failed hfailed => exact absurd hfailed hattempting

/-- The calls come in the order of their times. -/
def Clocked (inputs : List Input) : Prop := inputs.Pairwise fun i j => i.now ≤ j.now

instance decidableClocked (inputs : List Input) : Decidable (Clocked inputs) :=
  inferInstanceAs (Decidable (inputs.Pairwise fun i j => i.now ≤ j.now))

theorem respectsDenial (box : PeerConnectStateBox) (hclock : Clocked inputs) :
  RespectsDenial box inputs fun box => box.attempting
  := by
  intro pre now random mid j post hinputs hattempting hmid hsoon a ha
  rw [hinputs] at hclock
  have hmid_now : ∀ k ∈ mid, k.now ≤ j.now := by
    intro k hk
    have hclock' := (List.pairwise_append.1 (List.pairwise_append.1 hclock).2.1.of_cons).2.2
    exact hclock' k hk j List.mem_cons_self
  have hstart : (machine.next (machine.run box pre) (.update .authDenied now random)).mState =
        .failedWait ∧
      (machine.next (machine.run box pre) (.update .authDenied now random)).mNextAttemptTS =
        now + failedWaitTime := by
    change ((machine.run box pre).updateCb .authDenied now random).1.mState = _ ∧
      ((machine.run box pre).updateCb .authDenied now random).1.mNextAttemptTS = _
    rw [updateCb, hattempting]
    exact ⟨rfl, rfl⟩
  have hrun := Machine.run_of_step (m := machine)
    (P := fun s : PeerConnectStateBox =>
      s.mState = .failedWait ∧ s.mNextAttemptTS = now + failedWaitTime)
    (C := fun _ k => ¬k.isConnected ∧ k.now ≤ j.now)
    (fun s k hs hk =>
      have hidle := (idle_of_failedWait hs.1 (by rw [hs.2]; omega) hk.1).1
      ⟨hidle.1, hidle.2.trans hs.2⟩)
    hstart (Machine.along_of_forall_mem (fun k hk => ⟨hmid k hk, hmid_now k hk⟩) _)
  rw [Machine.run_append, Machine.run_cons] at ha
  cases j with
  | update update now random => cases ha
  | connect cbtype netmode nathole nattype now' =>
    exact (idle_of_failedWait hrun.1 (by rw [hrun.2]; exact hsoon) (by rintro ⟨⟩)).2 a ha

/-! ### The number of attempts -/

/-- What the state of the box says about the attempts since the last entry into `CSB_TCP_WAIT`. -/
def Budget (box : PeerConnectStateBox) (proxies relays : Nat) : Prop :=
  match box.mState with
  | .tcpWait => proxies = 0 ∧ relays = 0
  | .proxyAttempt =>
      proxies = box.mNoAttempts + 1 ∧ box.mNoAttempts ≤ maxProxyAttempts ∧ relays = 0
  | .proxyWait =>
      proxies = box.mNoAttempts + 1 ∧ box.mNoAttempts ≤ maxProxyAttempts ∧ relays = 0
  | .reverseWait => proxies ≤ maxProxyAttempts + 1 ∧ relays = 0
  | .relayAttempt =>
      proxies ≤ maxProxyAttempts + 1 ∧ relays ≤ box.mNoAttempts + 1 ∧
        box.mNoAttempts ≤ maxRelayAttempts
  | .relayWait =>
      proxies ≤ maxProxyAttempts + 1 ∧ relays ≤ box.mNoAttempts + 1 ∧
        box.mNoAttempts ≤ maxRelayAttempts
  | .directAttempt => False
  | .directWait => False
  | _ => proxies ≤ maxProxyAttempts + 1 ∧ relays ≤ maxRelayAttempts + 1

section Budget

variable {proxies relays : Nat}

section

variable (h : Budget box proxies relays)

include h

theorem Budget.le :
  proxies ≤ maxProxyAttempts + 1 ∧ relays ≤ maxRelayAttempts + 1
  := by
  rw [Budget] at h
  cases hstate : box.mState with
  | directAttempt =>
    rw [hstate] at h
    cases h
  | directWait =>
    rw [hstate] at h
    cases h
  | _ =>
    rw [hstate] at h
    simp only at h
    omega

theorem Budget.connectCbUnreachable
    (hnot : ¬(box.mState ≠ .tcpWait ∧ (box.connectCbUnreachable now).1.mState = .tcpWait)) :
  Budget (box.connectCbUnreachable now).1
    (proxies + [(box.connectCbUnreachable now).2].countP Action.isProxy)
    (relays + [(box.connectCbUnreachable now).2].countP Action.isRelay)
  := by
  rw [PeerConnectStateBox.connectCbUnreachable] at hnot ⊢
  cases hstate : box.mState with
  | directWait =>
    rw [Budget, hstate] at h
    cases h
  | start =>
    rw [hstate] at hnot
    exact absurd ⟨by rintro ⟨⟩, rfl⟩ hnot
  | failedWait =>
    simp only [hstate] at hnot ⊢
    split
    · exact h
    · rename_i hsoon
      rw [if_neg hsoon] at hnot
      exact absurd ⟨by rintro ⟨⟩, rfl⟩ hnot
  | tcpWait =>
    simp only
    split
    · exact h
    · rw [if_pos (by decide)]
      rw [Budget, hstate] at h
      obtain ⟨rfl, rfl⟩ := h
      exact ⟨rfl, Nat.zero_le _, rfl⟩
  | proxyWait =>
    simp only
    split
    · exact h
    · rw [Budget, hstate] at h
      obtain ⟨hproxies, hle, rfl⟩ := h
      split
      · exact ⟨by rw [hproxies]; exact Nat.succ_le_succ hle, le_rfl, Nat.zero_le _⟩
      · rename_i hfew
        have hlt : box.mNoAttempts < maxProxyAttempts := by
          by_contra hmany
          exact hfew (.inl (not_lt.1 hmany))
        exact ⟨by rw [hproxies]; rfl, hlt, rfl⟩
  | reverseWait =>
    simp only
    split
    · exact h
    · rw [Budget, hstate] at h
      obtain ⟨hproxies, rfl⟩ := h
      exact ⟨hproxies, le_rfl, Nat.zero_le _⟩
  | relayWait =>
    simp only
    split
    · exact h
    · have hle := h.le
      rw [Budget, hstate] at h
      obtain ⟨hproxies, hrelays, hattempts⟩ := h
      split
      · exact hle
      · rename_i hfew
        have hlt : box.mNoAttempts < maxRelayAttempts := by
          by_contra hmany
          exact hfew (.inl (not_lt.1 hmany))
        exact ⟨hproxies, Nat.succ_le_succ hrelays, hlt⟩
  | _ => exact h

theorem Budget.of_wait (hattempting : box.attempting) (now : Int) (random : Nat) :
  Budget (box.waitAfterAttempt now random) proxies relays
  := by
  rw [Budget] at h
  rcases attempting_cases hattempting with hstate | hstate | hstate
  all_goals
    rw [hstate] at h
    rw [waitAfterAttempt, hstate]
    exact h

theorem Budget.updateCb (update : Update) (now : Int) (random : Nat) :
  Budget (box.updateCb update now random).1 proxies relays
  := by
  rw [PeerConnectStateBox.updateCb.eq_def]
  cases update with
  | connected => exact h.le
  | other => exact h
  | disconnected =>
    simp only
    split
    · exact h
    · exact h.le
  | authDenied =>
    cases hattempting : box.attempting with
    | false => exact h
    | true => exact h.le
  | retryAttempt =>
    cases hattempting : box.attempting with
    | false => exact h
    | true => exact h.of_wait hattempting now random
  | failedAttempt =>
    cases hattempting : box.attempting with
    | false => exact h
    | true =>
      have hfailed :
          Budget { box with mNoFailedAttempts := box.mNoFailedAttempts + 1 } proxies relays := h
      exact hfailed.of_wait hattempting now random
  | modeUnavailable =>
    cases hattempting : box.attempting with
    | false => exact h
    | true =>
      have hle := h.le
      simp only [Bool.not_true, Bool.false_eq_true, if_false]
      split
      · rename_i hstate
        rw [Budget, hstate] at h
        obtain ⟨-, -, rfl⟩ := h
        split
        · exact ⟨hle.1, rfl⟩
        · exact ⟨hle.1, Nat.zero_le _, Nat.zero_le _⟩
      · exact hle

theorem Budget.next (hi : ¬i.isDirect) (hnot : ¬Enters .tcpWait box i) :
  Budget (machine.next box i) (proxies + (machine.emit box i).countP Action.isProxy)
    (relays + (machine.emit box i).countP Action.isRelay)
  := by
  cases i with
  | update update now random => exact h.updateCb update now random
  | connect cbtype netmode nathole nattype now =>
    cases cbtype with
    | direct => exact absurd rfl hi
    | unreachable =>
      have hnet : Budget
          (box.withNetState (convertNetStateToInternal netmode nathole nattype)) proxies relays := h
      exact hnet.connectCbUnreachable hnot

theorem Budget.run {mid : List Input} (hmid : ∀ k ∈ mid, ¬k.isDirect)
    (hnot : machine.Along (fun box k => ¬Enters .tcpWait box k) box mid) :
  Budget (machine.run box mid) (proxies + (machine.trace box mid).countP Action.isProxy)
    (relays + (machine.trace box mid).countP Action.isRelay)
  := by
  induction mid generalizing box proxies relays with
  | nil => exact h
  | cons k mid ih =>
    have hrest := ih (h.next (hmid k List.mem_cons_self) hnot.1)
      (fun k' hk' => hmid k' (List.mem_cons_of_mem k hk')) hnot.2
    rw [Machine.trace_cons, List.countP_append, List.countP_append, ← Nat.add_assoc,
      ← Nat.add_assoc]
    exact hrest

end

theorem boundsAttempts (box : PeerConnectStateBox) (inputs : List Input) :
  BoundsAttempts box inputs
  := by
  intro pre i mid post _ henters hnot hmid
  have hrun : machine.run box (pre ++ [i]) = machine.next (machine.run box pre) i := by
    rw [Machine.run_append]
    rfl
  rw [hrun] at hnot ⊢
  have hstart : Budget (machine.next (machine.run box pre) i) 0 0 := by
    rw [Budget, henters.2]
    exact ⟨rfl, rfl⟩
  have hle := (hstart.run hmid hnot).le
  rw [Nat.zero_add, Nat.zero_add] at hle
  exact hle

end Budget

/-! ### The discipline -/

/-- Attempts to connect are disciplined, in every run with a clock that does not go back.  A denied
authentication counts during an attempt. -/
theorem disciplined (t : Int) {inputs : List Input} (hclock : Clocked inputs) :
  Disciplined (new t) inputs fun box => box.attempting
  := by
  constructor
  · exact stopsAfterAttempt _ _
  · exact waitsForNextAttempt _ _
  · exact respectsDenial _ hclock
  · exact boundsAttempts _ _

/-- An attempt through a proxy that is denied. -/
theorem disciplined_deniedProxy :
  Disciplined (new 0)
    [.connect .unreachable 5 0 5 0, .connect .unreachable 5 0 5 60, .update .authDenied 70 0,
      .connect .unreachable 5 0 5 80]
    fun box => box.attempting
  := by
  apply disciplined
  decide

/-- A denied authentication at the start, which is not listened to. -/
theorem not_disciplined_deniedAtStart :
  ¬∀ (t : Int) (inputs : List Input), Clocked inputs →
    Disciplined (new t) inputs fun _ => True
  := by
  intro h
  have hdisciplined := h 0 [.update .authDenied 0 0, .connect .direct 5 0 5 1] (by decide)
  have hwait := hdisciplined.denial [] 0 0 [] (.connect .direct 5 0 5 1) [] rfl trivial
    (by rintro k ⟨⟩) (by decide) .tcpConn List.mem_cons_self
  cases hwait

/-! ### Firewalled peers -/

/-- A call of the unreachable type for a firewalled peer takes the box out of `CSB_TCP_WAIT` into
`CSB_RELAY_ATTEMPT`, and returns no attempt through a proxy. -/
def RelaysOnly (box : PeerConnectStateBox) : Input → Prop
  | .connect .unreachable netmode nathole nattype now =>
      convertNetStateToInternal netmode nathole nattype = .firewalled → box.mState = .tcpWait →
        ¬(box.connectCb .unreachable netmode nathole nattype now).2.isProxy ∧
          (box.mNextAttemptTS ≤ now →
            (box.connectCb .unreachable netmode nathole nattype now).1.mState = .relayAttempt)
  | _ => True

/-- A call of the unreachable type for a firewalled peer does not come when `CSB_TCP_WAIT` is
over. -/
def ComesTooSoon (box : PeerConnectStateBox) : Input → Prop
  | .connect .unreachable netmode nathole nattype now =>
      convertNetStateToInternal netmode nathole nattype = .firewalled → box.mState = .tcpWait →
        now < box.mNextAttemptTS
  | _ => True

theorem connectCb_unreachable_of_tcpWait (netmode nathole nattype : UInt32)
    (hstate : box.mState = .tcpWait) :
  (now < box.mNextAttemptTS ∧
      (box.connectCb .unreachable netmode nathole nattype now).2 = .wait) ∨
    (box.mNextAttemptTS ≤ now ∧
      (box.connectCb .unreachable netmode nathole nattype now).2.isProxy)
  := by
  simp only [connectCb, connectCbUnreachable, hstate]
  split
  · exact .inl ⟨‹_›, rfl⟩
  · rw [if_pos (by decide)]
    exact .inr ⟨by omega, rfl⟩

theorem relaysOnly_iff_comesTooSoon (box : PeerConnectStateBox) (i : Input) :
  RelaysOnly box i ↔ ComesTooSoon box i
  := by
  match i with
  | .update _ _ _ => exact Iff.rfl
  | .connect .direct _ _ _ _ => exact Iff.rfl
  | .connect .unreachable netmode nathole nattype now =>
    constructor
    · intro h hnet hstate
      rcases @connectCb_unreachable_of_tcpWait box now netmode nathole nattype hstate
        with hsoon | hproxy
      · exact hsoon.1
      · exact absurd hproxy.2 (h hnet hstate).1
    · intro h hnet hstate
      rcases @connectCb_unreachable_of_tcpWait box now netmode nathole nattype hstate
        with hsoon | hproxy
      · rw [hsoon.2]
        exact ⟨by rintro ⟨⟩, fun hdue => absurd hdue (not_le.2 hsoon.1)⟩
      · exact absurd hproxy.1 (not_le.2 (h hnet hstate))

/-- In a run, firewalled peers are reached through relays only exactly when no call for one comes
after `CSB_TCP_WAIT` is over. -/
theorem relaysOnly_run_iff (t : Int) (inputs : List Input) :
  machine.Along RelaysOnly (new t) inputs ↔ machine.Along ComesTooSoon (new t) inputs
  := by
  constructor
  · apply Machine.Along.mono
    intro box i
    exact (relaysOnly_iff_comesTooSoon box i).1
  · apply Machine.Along.mono
    intro box i
    exact (relaysOnly_iff_comesTooSoon box i).2

/-- Behind a symmetric NAT, a minute after the start. -/
theorem not_relaysOnly_symmetricNat :
  ¬∀ (t : Int) (inputs : List Input), machine.Along RelaysOnly (new t) inputs
  := by
  intro h
  have hcalls := h 0 [.connect .unreachable 5 0 3 0, .connect .unreachable 5 0 3 60]
  exact (hcalls.2.1 (by decide) (by decide)).1 (by decide)

end PeerConnectStateBox

end Dht
