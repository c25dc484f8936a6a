import RetroShare.Gxs.Faults
import RetroShare.Gxs.Operations

/-!
# Who drives the transactions of the node

A transaction that the node has started does not say which peer it goes to once its items are sent,
and `locked_processTransac` does not ask who has sent a packet.  The trace knows the peer: it is the
one of the last transaction that was added with the number.

As long as only this peer sends packets that continue or end the transaction, and no packet begins
and continues at once, the transactions under the own identifier are what they should be.
-/

namespace Gxs

/-- The peer of a transaction that is started with a number. -/
def NetEvent.startedWith (transN : Nat) : NetEvent → Option RsPeerId
  | .addTransaction peerId tr =>
      if tr.mTransaction.transactionNumber = transN then some peerId else none
  | _ => none

/-- The peers of the transactions that are started with a number. -/
def addressees (transN : Nat) (trace : List NetEvent) : List RsPeerId :=
  trace.filterMap (NetEvent.startedWith transN)

/-- The peer that the last transaction with a number goes to. -/
def addressee (transN : Nat) (trace : List NetEvent) : Option RsPeerId :=
  (addressees transN trace).getLast?

theorem addressees_append (transN : Nat) (trace trace' : List NetEvent) :
  addressees transN (trace ++ trace') = addressees transN trace ++ addressees transN trace'
  := List.filterMap_append

theorem addressees_eq_nil {transN : Nat} {trace : List NetEvent}
    (h : ∀ event ∈ trace, event.startedWith transN = none) :
  addressees transN trace = []
  := List.filterMap_eq_nil_iff.mpr h

theorem NetEvent.Plain.startedWith {event : NetEvent} (h : event.Plain) (transN : Nat) :
  event.startedWith transN = none
  := by
  cases event with
  | addTransaction peerId tr => cases h
  | _ => rfl

namespace RsGxsNetService

/-- The packet keeps to the transactions that it belongs to: it comes from a peer, it does not
continue or end the transaction that it begins, and it continues or ends a transaction that waits
only when it comes from the peer that the transaction goes to. -/
def FromAddressee (cfg : NetConfig) (s : RsGxsNetService × List NetEvent) : NetInput → Prop
  | .recvItem item _ =>
      item.transactionNumber ≠ 0 → item.peerId ≠ cfg.mOwnId ∧
        ∀ transactFlag nItems updateTS, item.body = .transac transactFlag nItems updateTS →
          hasFlag transactFlag (flagBeginP2 ||| flagEndSuccess) = true →
            if hasFlag transactFlag flagBeginP1 then
              (s.1.transaction? cfg.mOwnId item.transactionNumber).isSome
            else
              ∀ tr ∈ s.1.transaction? cfg.mOwnId item.transactionNumber,
                tr.mFlag = .waitingConfirm →
                  addressee item.transactionNumber s.2 = some item.peerId
  | _ => True

/-- What happens to the transactions of the node in a step, after a trace. -/
structure DrivenByAddressee (cfg : NetConfig) (s : RsGxsNetService × List NetEvent)
    (input : NetInput) : Prop where
  /-- A transaction is created by `locked_addTransaction` only. -/
  created : ∀ transN, s.1.transaction? cfg.mOwnId transN = none →
    (((machine cfg).next s.1 input).transaction? cfg.mOwnId transN).isSome →
      ∃ peerId tr, .addTransaction peerId tr ∈ (machine cfg).emit s.1 input ∧
        tr.mTransaction.transactionNumber = transN
  /-- The items of a transaction are addressed to the peer that it goes to. -/
  addressed : ∀ transN, ∀ tr ∈ s.1.transaction? cfg.mOwnId transN,
    ∃ peerId, addressee transN s.2 = some peerId ∧ ∀ item ∈ tr.mItems, item.peerId = peerId
  /-- A transaction stops to wait because of a packet of the peer that it goes to. -/
  driven : ∀ transN, ∀ tr ∈ s.1.transaction? cfg.mOwnId transN,
    ∀ tr' ∈ ((machine cfg).next s.1 input).transaction? cfg.mOwnId transN,
      tr.mFlag = .waitingConfirm → tr'.mFlag = .sending ∨ tr'.mFlag = .completed →
        ∃ item env, input = .recvItem item env ∧ item.transactionNumber = transN ∧
          addressee transN s.2 = some item.peerId

variable {cfg : NetConfig} {env : NetEnv} {svc svc' svc'' : RsGxsNetService} {transN : Nat}
  {s : RsGxsNetService × List NetEvent} {input : NetInput}

/-! ### Transactions that are started -/

/-- What operations do to the transaction with a number: nothing, or it is started, and its items
are addressed to the peer that it goes to. -/
def Starts (cfg : NetConfig) (svc svc' : RsGxsNetService) (transN : Nat) : Prop :=
  svc'.transaction? cfg.mOwnId transN = svc.transaction? cfg.mOwnId transN ∧
      addressees transN svc'.out = [] ∨
    svc.transaction? cfg.mOwnId transN = none ∧
      ∃ peerId tr, svc'.transaction? cfg.mOwnId transN = some tr ∧
        addressees transN svc'.out = [peerId] ∧ ∀ item ∈ tr.mItems, item.peerId = peerId

section

variable (h : Starts cfg svc svc' transN)

include h

theorem Starts.congr
    (htr : svc''.transaction? cfg.mOwnId transN = svc'.transaction? cfg.mOwnId transN)
    (hout : addressees transN svc''.out = addressees transN svc'.out) :
  Starts cfg svc svc'' transN
  := by
  rw [Starts, htr, hout]
  exact h

theorem Starts.same (hsame : svc'.Same svc'') :
  Starts cfg svc svc'' transN
  := by
  apply h.congr (transaction?_congr hsame.mTransactions)
  rw [hsame.out]

theorem Starts.emit {event : NetEvent} (hevent : event.startedWith transN = none) :
  Starts cfg svc (svc'.emit event) transN
  := by
  have hnil : addressees transN [event] = [] := by simpa [addressees] using hevent
  apply Starts.congr h
  · rfl
  · rw [RsGxsNetService.emit, addressees_append, hnil, List.append_nil]

theorem Starts.getTransactionId :
  Starts cfg svc svc'.getTransactionId transN
  := by
  have hemit : Starts cfg svc (svc'.emit .getTransactionId) transN := h.emit rfl
  apply hemit.congr <;> rfl

end

theorem Starts.pushTransaction {type : UInt16} {updateTS : Nat} {items : List RsNxsItem}
    {peerId : RsPeerId} {n : Nat} (h : Starts cfg svc svc' n)
    (hitems : Content type peerId transN items) :
  Starts cfg svc (svc'.pushTransaction cfg env type updateTS items peerId transN) n
  := by
  by_cases hstart : svc'.transaction? cfg.mOwnId transN = none ∧ n = transN
  case neg =>
    apply h.congr
    · rw [transaction?_pushTransaction, if_neg fun h => hstart ⟨h.1, h.2.2⟩]
    · rw [out_pushTransaction, addressees_append, addressees_eq_nil (List.forall_mem_cons.mpr
        ⟨rfl, _⟩), List.append_nil]
      split
      case isTrue hnone =>
        have hn : transN ≠ n := fun h => hstart ⟨hnone, h.symm⟩
        simp [NetEvent.startedWith, outgoing, hn]
      case isFalse => simp
  case pos =>
    obtain ⟨hstart, rfl⟩ := hstart
    rcases h with ⟨htr, hout⟩ | ⟨-, _, _, htr, -⟩
    · right
      constructor
      · rw [← htr, hstart]
      · use peerId, outgoing cfg env type updateTS items n
        rw [transaction?_pushTransaction, if_pos ⟨hstart, rfl, rfl⟩, out_pushTransaction,
          if_pos hstart, addressees_append, hout]
        refine ⟨rfl, ?_, hitems.addressed⟩
        simp [addressees, List.filterMap_cons, NetEvent.startedWith, outgoing]
    · rw [hstart] at htr
      cases htr

theorem Starts.operates (h : Starts cfg svc svc' transN) (hop : Operates cfg svc' svc'') :
  Starts cfg svc svc'' transN
  := by
  induction hop with
  | same hsame => exact h.same hsame
  | emit event hplain => exact h.emit (hplain.startedWith transN)
  | getTransactionId => exact h.getTransactionId
  | start hsame hitems =>
    apply Starts.pushTransaction _ hitems
    exact h.getTransactionId.same hsame
  | trans _ _ ih ih' => exact ih' (ih h)

theorem starts_processCompletedTransactions (hout : svc.out = []) (transN : Nat) :
  Starts cfg svc (svc.processCompletedTransactions cfg env) transN
  := by
  apply processCompletedTransactions_induction (P := fun svc' => Starts cfg svc svc' transN)
  · left
    simp [hout, addressees, transaction?]
  · exact fun svc' tr h => h.emit rfl
  · exact fun svc' tr h => h.emit rfl
  · exact fun svc' svc'' h hop => h.operates hop

/-! ### Packets and turns -/

/-- What a packet does to the transaction of the node with a number: nothing, or it changes its
state, and comes from the peer that the transaction goes to when the transaction waits. -/
theorem own_handleTransaction {item : RsNxsItem} {trace : List NetEvent}
    (hnumber : item.transactionNumber ≠ 0)
    (h : FromAddressee cfg (svc, trace) (.recvItem item env)) (transN : Nat) :
  (svc.handleTransaction cfg env item).transaction? cfg.mOwnId transN =
      svc.transaction? cfg.mOwnId transN ∨
    ∃ tr state, item.transactionNumber = transN ∧ svc.transaction? cfg.mOwnId transN = some tr ∧
      (svc.handleTransaction cfg env item).transaction? cfg.mOwnId transN =
        some { tr with mFlag := state } ∧
      (tr.mFlag = .waitingConfirm → addressee transN trace = some item.peerId)
  := by
  obtain ⟨hpeer, hdrive⟩ := h hnumber
  by_cases hbody : ∃ transactFlag nItems updateTS, item.body = .transac transactFlag nItems updateTS
  case neg =>
    left
    rw [transaction?_handleTransaction fun _ _ _ h => hbody ⟨_, _, _, h⟩,
      if_neg fun h => hpeer h.1.symm]
  case pos =>
    obtain ⟨transactFlag, nItems, updateTS, hbody⟩ := hbody
    have hdrive := hdrive transactFlag nItems updateTS hbody
    rw [handleTransaction, hbody]
    dsimp only
    cases hbegin : hasFlag transactFlag flagBeginP1 with
    | true =>
      -- a transaction begins under the identifier of the peer, or exists already
      left
      rw [transaction?_processTransac_of_begin hbegin, if_neg]
      rintro ⟨hnone, hown, -⟩
      rw [processTransacPeer] at hnone hown
      dsimp only at hnone hown
      split at hown
      case isTrue hflag =>
        have hsome := hdrive hflag
        rw [if_pos hbegin] at hsome
        rw [if_pos hflag] at hnone
        exact Option.isSome_iff_ne_none.mp hsome hnone
      case isFalse => exact hpeer hown.symm
    | false =>
      rw [transaction?_processTransac_of_not_begin hbegin]
      split
      case isFalse => exact Or.inl rfl
      case isTrue hkey =>
        obtain ⟨-, rfl⟩ := hkey
        cases htr : svc.transaction? cfg.mOwnId item.transactionNumber with
        | none => exact Or.inl rfl
        | some tr =>
          rw [Option.map_some, driven]
          dsimp only
          split
          case isTrue hflag =>
            right
            refine ⟨tr, .sending, rfl, rfl, rfl, ?_⟩
            have hwait := hdrive (by rw [hasFlag_or, hflag, Bool.true_or])
            rw [hbegin, if_neg Bool.false_ne_true] at hwait
            exact hwait tr htr
          case isFalse =>
            split
            case isTrue hflag =>
              right
              refine ⟨tr, .completed, rfl, rfl, rfl, ?_⟩
              have hwait := hdrive (by rw [hasFlag_or, hflag, Bool.or_true])
              rw [hbegin, if_neg Bool.false_ne_true] at hwait
              exact hwait tr htr
            case isFalse => exact Or.inl rfl

/-- A turn keeps the items of a transaction of the node or drops them, and the transaction goes on
waiting. -/
theorem own_processTransactions {tr' : NxsTransaction}
    (h : (svc.processTransactions cfg env).transaction? cfg.mOwnId transN = some tr') :
  ∃ tr, svc.transaction? cfg.mOwnId transN = some tr ∧ tr'.mItems ⊆ tr.mItems ∧
    (tr.mFlag = .waitingConfirm → tr'.mFlag = .waitingConfirm)
  := by
  rw [transaction?_processTransactions] at h
  obtain ⟨tr, htr, h⟩ := Option.bind_eq_some_iff.mp h
  use tr, htr
  rw [turn_own, processOutgoing] at h
  by_cases htime : tr.mTimeOut < env.now
  case pos => simp [htime, Turn.fail] at h
  case neg =>
    rw [if_neg htime] at h
    cases hflag : tr.mFlag with
    | sending =>
      rw [hflag] at h
      obtain rfl : _ = tr' := by simpa using h
      exact ⟨List.nil_subset _, fun h => nomatch h⟩
    | waitingConfirm =>
      rw [hflag] at h
      obtain rfl : tr = tr' := by simpa using h
      exact ⟨fun _ h => h, fun _ => hflag⟩
    | _ => simp [hflag, Turn.fail] at h

/-! ### Runs -/

/-- The items of the transactions of the node are addressed to the peers that they go to. -/
def Addressed (cfg : NetConfig) (s : RsGxsNetService × List NetEvent) : Prop :=
  ∀ transN, ∀ tr ∈ s.1.transaction? cfg.mOwnId transN,
    ∃ peerId, addressee transN s.2 = some peerId ∧ ∀ item ∈ tr.mItems, item.peerId = peerId

/-- What an input does to the transaction of the node with a number. -/
inductive OwnStep (cfg : NetConfig) (s : RsGxsNetService × List NetEvent) (input : NetInput)
    (transN : Nat) : Prop
  | starts
      (h : Starts cfg s.1.cleared (s.1.cleared.perform cfg input) transN)
  | keeps (hout : addressees transN (s.1.cleared.perform cfg input).out = [])
      (h : ∀ tr' ∈ (s.1.cleared.perform cfg input).transaction? cfg.mOwnId transN,
        ∃ tr, s.1.transaction? cfg.mOwnId transN = some tr ∧ tr'.mItems ⊆ tr.mItems ∧
          (tr.mFlag = .waitingConfirm → tr'.mFlag = .waitingConfirm ∨ ∃ item env,
            input = .recvItem item env ∧ item.transactionNumber = transN ∧
              addressee transN s.2 = some item.peerId))

theorem addressees_processTransactions (hout : svc.out = []) (transN : Nat) :
  addressees transN (svc.processTransactions cfg env).out = []
  := by
  rw [processTransactions]
  dsimp only
  rw [hout, List.nil_append]
  apply addressees_eq_nil
  intro event hmem
  obtain ⟨e, -, hmem⟩ := List.mem_flatMap.mp hmem
  obtain ⟨item, -, rfl⟩ := List.mem_map.mp hmem
  rfl

/-- The cases of an input. -/
theorem ownStep (h : FromAddressee cfg s input) (transN : Nat) :
  OwnStep cfg s input transN
  := by
  obtain ⟨svc, trace⟩ := s
  have hrfl : Starts cfg svc.cleared svc.cleared transN := Or.inl ⟨rfl, rfl⟩
  by_cases hdrives : input.Drives
  case neg => exact .starts (hrfl.operates (operates_perform hdrives))
  case pos =>
    cases input with
    | recvItem item env =>
      have hnumber : item.transactionNumber ≠ 0 := hdrives
      have hperform : svc.cleared.perform cfg (.recvItem item env) =
          svc.cleared.handleTransaction cfg env item := if_pos hnumber
      have h' : FromAddressee cfg (svc.cleared, trace) (.recvItem item env) := h
      apply OwnStep.keeps
      · rw [hperform, out_handleTransaction]
        rfl
      · intro tr' htr'
        rw [hperform] at htr'
        rcases own_handleTransaction hnumber h' transN with
          hsame | ⟨tr, state, htransN, htr, hnext, hwait⟩
        · rw [Option.mem_def, hsame] at htr'
          exact ⟨tr', htr', fun _ h => h, fun h => Or.inl h⟩
        · obtain rfl := Option.some.inj (hnext.symm.trans htr')
          exact ⟨tr, htr, fun _ h => h, fun h => Or.inr ⟨item, env, rfl, htransN, hwait h⟩⟩
    | processTransactions env =>
      apply OwnStep.keeps (addressees_processTransactions rfl transN)
      intro tr' htr'
      obtain ⟨tr, htr, hitems, hwait⟩ := own_processTransactions htr'
      exact ⟨tr, htr, hitems, fun h => Or.inl (hwait h)⟩
    | processCompletedTransactions env =>
      exact .starts (starts_processCompletedTransactions rfl transN)
    | _ => cases hdrives

theorem addressed_next (h : FromAddressee cfg s input) (hs : Addressed cfg s) :
  Addressed cfg ((machine cfg).recorded.next s input)
  := by
  intro transN tr' htr'
  rw [Machine.recorded_next, Machine.next, Machine.emit] at *
  cases hfault : s.1.fault.isSome with
  | true =>
    rw [step_of_fault hfault] at *
    dsimp only at *
    rw [List.append_nil]
    exact hs transN tr' htr'
  | false =>
    rw [step_of_running hfault] at *
    dsimp only at *
    rw [addressee, addressees_append]
    cases ownStep h transN with
    | starts hstarts =>
      rcases hstarts with ⟨hsame, hout⟩ | ⟨-, peerId, tr, htr, hout, hitems⟩
      · rw [hout, List.append_nil]
        rw [hsame] at htr'
        exact hs transN tr' htr'
      · obtain rfl := Option.some.inj (htr.symm.trans htr')
        rw [hout]
        exact ⟨peerId, List.getLast?_concat, hitems⟩
    | keeps hout hkeeps =>
      obtain ⟨tr, htr, hsubset, -⟩ := hkeeps tr' htr'
      obtain ⟨peerId, hpeer, hitems⟩ := hs transN tr htr
      rw [hout, List.append_nil]
      exact ⟨peerId, hpeer, fun item hitem => hitems item (hsubset hitem)⟩

theorem drivenByAddressee (h : FromAddressee cfg s input) (hs : Addressed cfg s) :
  DrivenByAddressee cfg s input
  := by
  constructor
  case addressed => exact hs
  case created =>
    intro transN hnone hsome
    rw [Machine.next, Machine.emit] at *
    cases hfault : s.1.fault.isSome with
    | true =>
      rw [step_of_fault hfault, hnone] at hsome
      cases hsome
    | false =>
      rw [step_of_running hfault] at *
      dsimp only at *
      cases ownStep h transN with
      | starts hstarts =>
        rcases hstarts with ⟨hsame, -⟩ | ⟨-, peerId, tr, htr, hout, -⟩
        · rw [hsame] at hsome
          exact absurd hnone (Option.isSome_iff_ne_none.mp hsome)
        · have hmem : peerId ∈ addressees transN (s.1.cleared.perform cfg input).out :=
            hout ▸ List.mem_singleton_self peerId
          obtain ⟨event, hevent, hstarted⟩ := List.mem_filterMap.mp hmem
          cases event with
          | addTransaction peerId' tr =>
            rw [NetEvent.startedWith] at hstarted
            split at hstarted
            case isTrue hnumber => exact ⟨peerId', tr, hevent, hnumber⟩
            case isFalse => cases hstarted
          | _ => cases hstarted
      | keeps _ hkeeps =>
        obtain ⟨tr', htr'⟩ := Option.isSome_iff_exists.mp hsome
        obtain ⟨tr, htr, -⟩ := hkeeps tr' htr'
        rw [hnone] at htr
        cases htr
  case driven =>
    intro transN tr htr tr' htr' hwait hstate
    have hne : tr'.mFlag ≠ .waitingConfirm := by
      intro h
      rw [h] at hstate
      rcases hstate with h | h <;> cases h
    rw [Machine.next] at htr'
    cases hfault : s.1.fault.isSome with
    | true =>
      rw [step_of_fault hfault] at htr'
      obtain rfl := Option.some.inj (htr.symm.trans htr')
      exact absurd hwait hne
    | false =>
      rw [step_of_running hfault] at htr'
      cases ownStep h transN with
      | starts hstarts =>
        rcases hstarts with ⟨hsame, -⟩ | ⟨hnone, -⟩
        · rw [Option.mem_def, hsame] at htr'
          obtain rfl := Option.some.inj (htr.symm.trans htr')
          exact absurd hwait hne
        · cases htr.symm.trans hnone
      | keeps _ hkeeps =>
        obtain ⟨tr₀, htr₀, -, hwaits⟩ := hkeeps tr' htr'
        obtain rfl := Option.some.inj (htr₀.symm.trans htr)
        exact (hwaits hwait).resolve_left hne

/-- In every run in which packets come from the addressees of the transactions that they drive, the
transactions of the node are created by the node only, and stop to wait only because of packets of
their addressees. -/
theorem driven_by_addressee (cfg : NetConfig) (start : NetStart) (inputs : List NetInput)
    (h : (machine cfg).recorded.Along (FromAddressee cfg) (init start, []) inputs) :
  (machine cfg).recorded.Along (DrivenByAddressee cfg) (init start, []) inputs
  := by
  have hstep : ∀ (s : RsGxsNetService × List NetEvent) (input : NetInput), Addressed cfg s →
      FromAddressee cfg s input →
        DrivenByAddressee cfg s input ∧ Addressed cfg ((machine cfg).recorded.next s input) :=
    fun s input hs h => ⟨drivenByAddressee h hs, addressed_next h hs⟩
  apply Machine.along_of_step hstep _ h
  intro transN tr htr
  cases htr

end RsGxsNetService

/-! #### A packet of another peer -/

/-- The node requests a group from the peer `2`, and a peer tells it to send. -/
def requestInputs (peerId : RsPeerId) : List NetInput :=
  [.requestGrp [5] 2, .processExplicitGroupRequests (plainEnv 100),
    .recvItem ⟨peerId, 1, .transac flagBeginP2 0 0⟩ (plainEnv 101)]

/-- The peer that the group is requested from tells the node to send. -/
theorem driven_by_addressee_request :
  (RsGxsNetService.machine plainConfig).recorded.Along
    (RsGxsNetService.DrivenByAddressee plainConfig) (RsGxsNetService.init plainStart, [])
    (requestInputs 2)
  := by
  apply RsGxsNetService.driven_by_addressee
  refine ⟨trivial, trivial, ?_, trivial⟩
  intro hnumber
  constructor
  · decide
  · rintro transactFlag nItems updateTS ⟨⟩ hflag
    rw [if_neg (by decide)]
    intro tr htr hwait
    decide +kernel

/-- Another peer tells the node to send. -/
theorem not_driven_by_addressee :
  ¬ ∀ (cfg : NetConfig) (start : NetStart) (inputs : List NetInput),
    (RsGxsNetService.machine cfg).recorded.Along (RsGxsNetService.DrivenByAddressee cfg)
      (RsGxsNetService.init start, []) inputs
  := by
  intro h
  obtain ⟨-, -, hstep, -⟩ := h plainConfig plainStart (requestInputs 3)
  let tr : NxsTransaction :=
    ⟨.waitingConfirm, 2100, ⟨1, 1, flagBeginP1 ||| flagTypeGrpListReq, 1, 0⟩,
      [⟨2, 1, .syncGrpItem ⟨5, 0, 0⟩⟩]⟩
  obtain ⟨item, env, hinput, -, hpeer⟩ := hstep.driven 1 tr (by decide +kernel)
    { tr with mFlag := .sending } (by decide +kernel) rfl (Or.inl rfl)
  obtain ⟨rfl, -⟩ := NetInput.recvItem.inj hinput
  revert hpeer
  decide +kernel

end Gxs
