import RetroShare.Gxs.NetService

/-!
# What operations do to transactions

Apart from the packets that drive transactions, and from `processTransactions`, the operations of
the service touch transactions in one way only: they take a new number and start a transaction with
it, whose items carry the number, go to one peer, and have the class that the type of the
transaction says.  `Operates` is this relation between the service before and after, and each
operation is shown once to be in it.
-/

namespace Gxs

/-- The event has nothing to do with transactions. -/
def NetEvent.Plain : NetEvent → Prop
  | .sendItem item => item.transactionNumber = 0
  | .notifyNewGroups _ => True
  | .notifyNewMessages _ => True
  | .notifyReceivePublishKey _ => True
  | _ => False

/-- The types of transactions. -/
def transactTypes : List UInt16 :=
  [flagTypeGrpListResp, flagTypeMsgListResp, flagTypeGrpListReq, flagTypeMsgListReq, flagTypeGrps,
    flagTypeMsgs]

/-- The item has the class of the items of transactions of a type. -/
def RsNxsItem.hasClass (type : UInt16) (item : RsNxsItem) : Bool :=
  if type = flagTypeGrps then item.toGrp?.isSome
  else if type = flagTypeMsgs then item.toMsg?.isSome
  else if type = flagTypeGrpListResp ∨ type = flagTypeGrpListReq then item.toSyncGrpItem?.isSome
  else item.toSyncMsgItem?.isSome

/-- The items of a transaction with a peer. -/
structure Content (type : UInt16) (peerId : RsPeerId) (transN : Nat) (items : List RsNxsItem) :
    Prop where
  type_mem : type ∈ transactTypes
  addressed : ∀ item ∈ items, item.peerId = peerId
  numbered : ∀ item ∈ items, item.transactionNumber = transN
  typed : ∀ item ∈ items, item.hasClass type

/-- The items that a function makes from values. -/
theorem Content.of_map {α : Type} {type : UInt16} {peerId : RsPeerId} {transN : Nat} {l : List α}
    {body : α → NxsBody} (htype : type ∈ transactTypes)
    (hbody : ∀ a, RsNxsItem.hasClass type ⟨peerId, transN, body a⟩) :
  Content type peerId transN (l.map fun a => ⟨peerId, transN, body a⟩)
  := by
  constructor
  case type_mem => exact htype
  all_goals
    intro item hmem
    obtain ⟨a, -, rfl⟩ := List.mem_map.mp hmem
  case addressed => rfl
  case numbered => rfl
  case typed => apply hbody

namespace RsGxsNetService

/-! ### The transaction with a number -/

/-- The transaction with a number that is kept under the identifier of a peer. -/
def transaction? (svc : RsGxsNetService) (peerId : RsPeerId) (transN : Nat) :
    Option NxsTransaction :=
  svc.mTransactions.get? (toLex (peerId, transN))

/-- A transaction that the node starts. -/
def outgoing (cfg : NetConfig) (env : NetEnv) (type : UInt16) (updateTS : Nat)
    (items : List RsNxsItem) (transN : Nat) : NxsTransaction :=
  ⟨.waitingConfirm, env.now + transacTimeout,
    ⟨cfg.mOwnId, transN, flagBeginP1 ||| type, items.length % 2 ^ 32, updateTS⟩, items⟩

section Transaction

variable {cfg : NetConfig} {env : NetEnv} {svc : RsGxsNetService} {type : UInt16} {updateTS : Nat}
  {items : List RsNxsItem} {peerId peer : RsPeerId} {transN n : Nat} {item : RsNxsTransac}

theorem transaction?_congr {svc' : RsGxsNetService} (h : svc'.mTransactions = svc.mTransactions) :
  svc'.transaction? peer n = svc.transaction? peer n
  := by
  rw [transaction?, transaction?, h]

theorem get?_insert_transaction {tr : NxsTransaction} :
  (svc.mTransactions.insert (toLex (peerId, transN)) tr).get? (toLex (peer, n)) =
    if peer = peerId ∧ n = transN then some tr else svc.transaction? peer n
  := by
  rw [OrdMap.get?_insert, transaction?]
  congr 1
  simp

theorem transaction?_pushTransaction :
  (svc.pushTransaction cfg env type updateTS items peerId transN).transaction? peer n =
    if svc.transaction? cfg.mOwnId transN = none ∧ peer = cfg.mOwnId ∧ n = transN then
      some (outgoing cfg env type updateTS items transN)
    else svc.transaction? peer n
  := by
  rw [pushTransaction, addTransaction]
  dsimp only
  split
  case isTrue h =>
    have hsome : svc.transaction? cfg.mOwnId transN ≠ none := Option.isSome_iff_ne_none.mp h
    rw [if_neg fun h => hsome h.1]
    rfl
  case isFalse h =>
    have hnone : svc.transaction? cfg.mOwnId transN = none := Option.not_isSome_iff_eq_none.mp h
    rw [if_congr (and_iff_right hnone) rfl rfl]
    exact get?_insert_transaction

/-- The packet that announces a transaction. -/
def announcement (type : UInt16) (updateTS : Nat) (items : List RsNxsItem) (peerId : RsPeerId)
    (transN : Nat) : RsNxsItem :=
  RsNxsTransac.toItem ⟨peerId, transN, flagBeginP1 ||| type, items.length % 2 ^ 32, updateTS⟩

theorem out_pushTransaction :
  (svc.pushTransaction cfg env type updateTS items peerId transN).out =
    svc.out ++ NetEvent.sendItem (announcement type updateTS items peerId transN) ::
      if svc.transaction? cfg.mOwnId transN = none then
        [.addTransaction peerId (outgoing cfg env type updateTS items transN)]
      else []
  := by
  rw [pushTransaction, addTransaction]
  dsimp only
  split
  case isTrue h =>
    have hsome : svc.transaction? cfg.mOwnId transN ≠ none := Option.isSome_iff_ne_none.mp h
    rw [if_neg hsome]
    rfl
  case isFalse h =>
    have hnone : svc.transaction? cfg.mOwnId transN = none := Option.not_isSome_iff_eq_none.mp h
    rw [if_pos hnone]
    exact List.append_assoc _ [_] [_]

theorem mTransactionN_pushTransaction :
  (svc.pushTransaction cfg env type updateTS items peerId transN).mTransactionN =
    svc.mTransactionN
  := by
  rw [pushTransaction, addTransaction]
  dsimp only
  split <;> rfl

theorem turn_own (tr : NxsTransaction) :
  turn cfg env (toLex (cfg.mOwnId, n)) tr = processOutgoing env tr
  := if_pos rfl

theorem transaction?_processTransactions :
  (svc.processTransactions cfg env).transaction? peer n =
    (svc.transaction? peer n).bind fun tr =>
      if (turn cfg env (toLex (peer, n)) tr).moved then none
      else some (turn cfg env (toLex (peer, n)) tr).tr
  := by
  rw [transaction?, processTransactions]
  dsimp only
  rw [OrdMap.get?_map, OrdMap.get?_filter, OrdMap.get?_map, transaction?]
  cases svc.mTransactions.get? (toLex (peer, n)) with
  | none => rfl
  | some tr =>
    cases hmoved : (turn cfg env (toLex (peer, n)) tr).moved with
    | false => simp [Option.filter, hmoved]
    | true => simp [Option.filter, hmoved]

/-- The peer under whose identifier `locked_processTransac` looks for the transaction of a
packet. -/
def processTransacPeer (cfg : NetConfig) (item : RsNxsTransac) : RsPeerId :=
  if hasFlag item.transactFlag (flagBeginP2 ||| flagEndSuccess) then cfg.mOwnId else item.peerId

/-- The transaction of a packet that does not begin one, after it. -/
def driven (item : RsNxsTransac) (tr : NxsTransaction) : NxsTransaction :=
  if hasFlag item.transactFlag flagBeginP2 then { tr with mFlag := .sending }
  else if hasFlag item.transactFlag flagEndSuccess then { tr with mFlag := .completed }
  else tr

theorem hasFlag_or (flag a b : UInt16) :
  hasFlag flag (a ||| b) = (hasFlag flag a || hasFlag flag b)
  := by
  have hdistrib : flag &&& (a ||| b) = flag &&& a ||| flag &&& b := by
    apply UInt16.eq_of_toBitVec_eq
    exact BitVec.and_or_distrib_left
  rw [hasFlag, hdistrib, hasFlag, hasFlag, ← Bool.decide_or]
  congr 1
  rw [ne_eq, UInt16.or_eq_zero_iff, not_and_or]

theorem transaction?_processTransac_of_begin (h : hasFlag item.transactFlag flagBeginP1 = true) :
  (svc.processTransac cfg env item).transaction? peer n =
    if svc.transaction? (processTransacPeer cfg item) item.transactionNumber = none ∧
        peer = processTransacPeer cfg item ∧ n = item.transactionNumber then
      some ⟨.starting, env.now + transacTimeout, item, []⟩
    else svc.transaction? peer n
  := by
  rw [processTransac, if_pos h, ← processTransacPeer]
  split
  case isTrue hsome =>
    rw [if_neg fun h => Option.isSome_iff_ne_none.mp hsome h.1]
  case isFalse hnone =>
    have hnone : svc.transaction? (processTransacPeer cfg item) item.transactionNumber = none :=
      Option.not_isSome_iff_eq_none.mp hnone
    rw [if_congr (and_iff_right hnone) rfl rfl]
    exact get?_insert_transaction

theorem transaction?_processTransac_of_not_begin
    (h : hasFlag item.transactFlag flagBeginP1 = false) :
  (svc.processTransac cfg env item).transaction? peer n =
    if peer = cfg.mOwnId ∧ n = item.transactionNumber then
      (svc.transaction? cfg.mOwnId item.transactionNumber).map (driven item)
    else svc.transaction? peer n
  := by
  have hkey : ∀ bits, hasFlag item.transactFlag bits = true →
      (bits = flagBeginP2 ∨ bits = flagEndSuccess) →
        hasFlag item.transactFlag (flagBeginP2 ||| flagEndSuccess) = true := by
    rintro bits hbits (rfl | rfl)
    · rw [hasFlag_or, hbits, Bool.true_or]
    · rw [hasFlag_or, hbits, Bool.or_true]
  rw [processTransac, if_neg (Bool.not_eq_true _ ▸ h)]
  split
  case isTrue hbegin =>
    rw [if_pos (hkey _ hbegin (Or.inl rfl)), ← transaction?]
    cases htr : svc.transaction? cfg.mOwnId item.transactionNumber with
    | none =>
      dsimp only
      split
      case isTrue h => rw [h.1, h.2, htr, Option.map_none]
      case isFalse => rfl
    | some tr =>
      rw [Option.map_some, driven, if_pos hbegin]
      exact get?_insert_transaction
  case isFalse hbegin =>
    split
    case isTrue hend =>
      rw [if_pos (hkey _ hend (Or.inr rfl)), ← transaction?]
      cases htr : svc.transaction? cfg.mOwnId item.transactionNumber with
      | none =>
        dsimp only
        split
        case isTrue h => rw [h.1, h.2, htr, Option.map_none]
        case isFalse => rfl
      | some tr =>
        rw [Option.map_some, driven, if_neg hbegin, if_pos hend]
        exact get?_insert_transaction
    case isFalse hend =>
      have hid : driven item = id := by
        funext tr
        rw [driven, if_neg hbegin, if_neg hend, id]
      rw [hid, Option.map_id, id]
      split
      case isTrue h => rw [h.1, h.2]
      case isFalse => rfl

/-- An item that is not an `RsNxsTransac` is added to the transaction of its peer. -/
theorem transaction?_handleTransaction {item : RsNxsItem}
    (h : ∀ transactFlag nItems updateTS, item.body ≠ .transac transactFlag nItems updateTS) :
  (svc.handleTransaction cfg env item).transaction? peer n =
    if peer = item.peerId ∧ n = item.transactionNumber then
      (svc.transaction? item.peerId item.transactionNumber).map fun tr =>
        { tr with mItems := tr.mItems ++ [item] }
    else svc.transaction? peer n
  := by
  rw [handleTransaction]
  split
  case h_1 transactFlag nItems updateTS hbody => exact absurd hbody (h _ _ _)
  case h_2 =>
    dsimp only
    rw [← transaction?]
    cases htr : svc.transaction? item.peerId item.transactionNumber with
    | none =>
      dsimp only
      split
      case isTrue h => rw [h.1, h.2, htr, Option.map_none]
      case isFalse => rfl
    | some tr => exact get?_insert_transaction

theorem out_processTransac (item : RsNxsTransac) :
  (svc.processTransac cfg env item).out = svc.out
  := by
  rw [processTransac]
  repeat' split
  all_goals rfl

theorem out_handleTransaction (item : RsNxsItem) :
  (svc.handleTransaction cfg env item).out = svc.out
  := by
  rw [handleTransaction]
  split
  · apply out_processTransac
  · dsimp only
    split <;> rfl

end Transaction

/-! ### Operations -/

/-- The transactions are the same, and nothing has been done in between. -/
structure Same (svc svc' : RsGxsNetService) : Prop where
  mTransactionN : svc'.mTransactionN = svc.mTransactionN
  mTransactions : svc'.mTransactions = svc.mTransactions
  mComplTransactions : svc'.mComplTransactions = svc.mComplTransactions
  out : svc'.out = svc.out

/-- The service goes from one state to another, takes numbers, and starts transactions with
them. -/
inductive Operates (cfg : NetConfig) : RsGxsNetService → RsGxsNetService → Prop
  | same {svc svc' : RsGxsNetService} (h : svc.Same svc') : Operates cfg svc svc'
  | emit {svc : RsGxsNetService} (event : NetEvent) (h : event.Plain) :
      Operates cfg svc (svc.emit event)
  | getTransactionId {svc : RsGxsNetService} : Operates cfg svc svc.getTransactionId
  | start {env : NetEnv} {svc svc' : RsGxsNetService} {type : UInt16} {updateTS : Nat} {items : List RsNxsItem}
      {peerId : RsPeerId} (h : svc.getTransactionId.Same svc')
      (hitems : Content type peerId svc.getTransactionId.mTransactionN items) :
      Operates cfg svc (svc'.pushTransaction cfg env type updateTS items peerId
        svc.getTransactionId.mTransactionN)
  | trans {svc₁ svc₂ svc₃ : RsGxsNetService} (h : Operates cfg svc₁ svc₂)
      (h' : Operates cfg svc₂ svc₃) : Operates cfg svc₁ svc₃

variable {cfg : NetConfig} {env : NetEnv} {svc svc' : RsGxsNetService} (tr : NxsTransaction)
  {α : Type} (peer : RsPeerId)

theorem Same.rfl :
  svc.Same svc
  := by
  constructor <;> rfl

theorem Operates.rfl :
  Operates cfg svc svc
  := Operates.same Same.rfl

/-- A number is taken, and not used. -/
theorem Operates.waste (h : svc.getTransactionId.Same svc') :
  Operates cfg svc svc'
  := Operates.getTransactionId.trans (Operates.same h)

theorem Operates.foldl {f : RsGxsNetService → α → RsGxsNetService}
    (hf : ∀ (svc : RsGxsNetService) (a : α), Operates cfg svc (f svc a)) (l : List α) :
  Operates cfg svc (l.foldl f svc)
  := by
  induction l generalizing svc with
  | nil => exact Operates.rfl
  | cons a l ih => exact (hf svc a).trans ih

/-! ### Requests of peers -/

theorem operates_handleRecvSyncGroup (updateTS : Nat) :
  Operates cfg svc (svc.handleRecvSyncGroup cfg env peer updateTS)
  := by
  rw [handleRecvSyncGroup]
  split
  · apply Operates.rfl
  · split
    · apply Operates.rfl
    · apply Operates.start
      · split <;> constructor <;> rfl
      · apply Content.of_map (by decide)
        intro grpMeta
        rfl

theorem operates_handleRecvSyncMessage (grpId : RsGxsGroupId) (updateTS : Nat) :
  Operates cfg svc (svc.handleRecvSyncMessage cfg env peer grpId updateTS)
  := by
  rw [handleRecvSyncMessage]
  split
  · apply Operates.rfl
  · dsimp only
    cases svc.mDataStore.grpMeta? grpId with
    | none => apply Operates.rfl
    | some grpMeta =>
      rw [if_neg (by simp)]
      simp only [deref]
      split
      · apply Operates.rfl
      · split
        · apply Operates.start
          · constructor <;> rfl
          · apply Content.of_map (by decide)
            intro m
            rfl
        · apply Operates.waste
          constructor <;> rfl

theorem operates_deref {pointer : Option α} {f : α → RsGxsNetService}
    (h : ∀ value, Operates cfg svc (f value)) :
  Operates cfg svc (svc.deref pointer f)
  := by
  cases pointer with
  | none =>
    apply Operates.same
    constructor <;> rfl
  | some value => exact h value

theorem operates_handleRecvPublishKeys (grpId : RsGxsGroupId) (key : RsTlvSecurityKey) :
  Operates cfg svc (svc.handleRecvPublishKeys grpId key)
  := by
  rw [handleRecvPublishKeys]
  dsimp only
  split
  · apply Operates.rfl
  · apply operates_deref
    intro grpMeta
    split
    · apply Operates.rfl
    · split
      · apply Operates.rfl
      · apply Operates.trans (Operates.emit (.notifyReceivePublishKey grpId) trivial)
        apply Operates.same
        constructor <;> rfl

/-- A packet that does not belong to a transaction. -/
theorem operates_recvNxsItem {item : RsNxsItem} (h : item.transactionNumber = 0) :
  Operates cfg svc (svc.recvNxsItem cfg env item)
  := by
  rw [recvNxsItem, if_neg (not_not.mpr h)]
  split
  · apply operates_handleRecvSyncGroup
  · apply operates_handleRecvSyncMessage
  · apply operates_handleRecvPublishKeys
  · apply Operates.rfl

/-! ### Transactions that are completed -/

theorem Same.markPartial {peer : RsPeerId} {grpId : RsGxsGroupId} {exceeded : Bool} :
  svc.Same (svc.markPartial peer grpId exceeded)
  := by
  constructor <;> rfl

theorem operates_genReqMsgTransaction :
  Operates cfg svc (svc.genReqMsgTransaction cfg env tr)
  := by
  rw [genReqMsgTransaction]
  dsimp only
  split
  · apply Operates.rfl
  · apply operates_deref
    intro grpMeta
    split
    · apply Operates.same
      constructor <;> rfl
    · split
      · apply Operates.trans ?_ (Operates.same Same.markPartial)
        apply Operates.start
        · split <;> constructor <;> rfl
        · apply Content.of_map (by decide)
          intro item
          rfl
      · apply Operates.waste
        split <;> constructor <;> rfl

theorem operates_genReqGrpTransaction :
  Operates cfg svc (svc.genReqGrpTransaction cfg env tr)
  := by
  rw [genReqGrpTransaction]
  dsimp only
  split
  · apply Operates.start
    · split <;> constructor <;> rfl
    · apply Content.of_map (by decide)
      intro grpId
      rfl
  · apply Operates.waste
    split <;> constructor <;> rfl

theorem operates_genSendGrpsTransaction :
  Operates cfg svc (svc.genSendGrpsTransaction cfg env tr)
  := by
  rw [genSendGrpsTransaction]
  dsimp only
  split
  · apply Operates.rfl
  · split
    · apply Operates.same
      constructor <;> rfl
    · split
      · apply Operates.waste Same.rfl
      · apply Operates.start Same.rfl
        apply Content.of_map (by decide)
        intro grp
        rfl

theorem operates_genSendMsgsTransaction :
  Operates cfg svc (svc.genSendMsgsTransaction cfg env tr)
  := by
  rw [genSendMsgsTransaction]
  split
  · apply Operates.rfl
  · dsimp only
    split
    · apply Operates.waste Same.rfl
    · apply Operates.start Same.rfl
      apply Content.of_map (by decide)
      intro msg
      rfl

theorem operates_processCompletedIncomingTrans :
  Operates cfg svc (svc.processCompletedIncomingTrans cfg env tr)
  := by
  have hloop : Operates cfg svc { svc with fault := some .endlessLoop } := by
    apply Operates.same
    constructor <;> rfl
  rw [processCompletedIncomingTrans, processCompletedIncomingTransIn]
  dsimp only
  split
  · apply Operates.rfl
  · split
    · apply operates_genReqMsgTransaction
    · split
      · apply operates_genReqGrpTransaction
      · split
        · apply operates_genSendMsgsTransaction
        · split
          · apply operates_genSendGrpsTransaction
          · split
            · cases takeItems RsNxsItem.toGrp? (tr.mItems.length + 1) tr.mItems [] with
              | none => exact hloop
              | some grps =>
                apply Operates.trans (Operates.emit (.notifyNewGroups grps) trivial)
                apply Operates.same
                constructor <;> rfl
            · split
              · cases takeItems RsNxsItem.toMsg? (tr.mItems.length + 1) tr.mItems [] with
                | none => exact hloop
                | some msgs =>
                  apply Operates.trans (Operates.emit (.notifyNewMessages msgs) trivial)
                  apply Operates.same
                  constructor <;> rfl
              · apply Operates.rfl

/-! ### Vetting, and requests of the node -/

theorem operates_vetAuthor (ap : AuthorPending) :
  Operates cfg svc (svc.vetAuthor cfg env ap)
  := by
  rw [vetAuthor.eq_def]
  cases ap with
  | msg ts peerId entries cutOff =>
    dsimp only
    split
    · rw [createMsgTransactionFromPending]
      split
      · apply Operates.start Same.rfl
        apply Content.of_map (by decide)
        intro entry
        rfl
      · apply Operates.waste Same.rfl
    · apply Operates.same
      constructor <;> rfl
  | grp ts peerId entries cutOff =>
    dsimp only
    split
    · rw [createGrpTransactionFromPending]
      split
      · apply Operates.start Same.rfl
        apply Content.of_map (by decide)
        intro entry
        rfl
      · apply Operates.waste Same.rfl
    · apply Operates.same
      constructor <;> rfl

theorem operates_vetCircle (gcv : GrpCircleVetting) :
  Operates cfg svc (svc.vetCircle cfg env gcv)
  := by
  rw [vetCircle.eq_def]
  cases gcv with
  | grpId ts entries peerId =>
    dsimp only
    split
    · rw [createGrpListFromPending]
      split
      · apply Operates.start Same.rfl
        apply Content.of_map (by decide)
        intro entry
        rfl
      · apply Operates.waste Same.rfl
    · apply Operates.same
      constructor <;> rfl
  | msgId ts msgs grpId peerId circleId =>
    dsimp only
    split
    · split
      · rw [createMsgListFromPending]
        split
        · apply Operates.start Same.rfl
          apply Content.of_map (by decide)
          intro mic
          rfl
        · apply Operates.waste Same.rfl
      · apply Operates.rfl
    · apply Operates.same
      constructor <;> rfl

theorem operates_runVetting :
  Operates cfg svc (svc.runVetting cfg env)
  := by
  have hclear : ∀ svc : RsGxsNetService, svc.Same { svc with mPendingResp := [] } := by
    intro svc
    constructor <;> rfl
  have hclear' : ∀ svc : RsGxsNetService, svc.Same { svc with mPendingCircleVets := [] } := by
    intro svc
    constructor <;> rfl
  rw [runVetting]
  apply Operates.trans (Operates.same (hclear svc))
  apply Operates.trans (Operates.foldl (fun svc ap => operates_vetAuthor ap) svc.mPendingResp)
  apply Operates.trans (Operates.same (hclear' _))
  exact Operates.foldl (fun svc gcv => operates_vetCircle gcv) _

theorem operates_processExplicitGroupRequests :
  Operates cfg svc (svc.processExplicitGroupRequests cfg env)
  := by
  have hclear : svc.Same { svc with mExplicitRequest := OrdMap.empty } := by
    constructor <;> rfl
  rw [processExplicitGroupRequests]
  apply Operates.trans (Operates.same hclear)
  apply Operates.foldl
  intro svc e
  rw [processExplicitGroupRequest]
  split
  · apply Operates.start Same.rfl
    apply Content.of_map (by decide)
    intro grpId
    rfl
  · apply Operates.waste Same.rfl

theorem operates_syncWithPeers :
  Operates cfg svc (svc.syncWithPeers cfg env)
  := by
  have hgrps : Operates cfg svc (env.onlineList.foldl (fun svc peerId => svc.sendItem
      ⟨peerId, 0, .syncGrp ((svc.mClientGrpUpdateMap.get? peerId).getD 0)⟩) svc) := by
    apply Operates.foldl
    intro svc peerId
    apply Operates.emit
    rfl
  rw [syncWithPeers]
  dsimp only
  split
  · exact hgrps
  · apply hgrps.trans
    apply Operates.foldl
    intro svc peerId
    apply Operates.foldl
    intro svc grpMeta
    split
    · apply Operates.emit
      rfl
    · apply Operates.rfl

theorem operates_sharePublishKeysPending :
  Operates cfg svc (svc.sharePublishKeysPending env)
  := by
  rw [sharePublishKeysPending]
  apply Operates.foldl
  intro svc e
  rw [sharePublishKeyPending]
  dsimp only
  split
  · apply Operates.rfl
  · split
    · apply Operates.rfl
    · apply operates_deref
      intro grpMeta
      split
      case h_1 => apply Operates.rfl
      case h_2 key _ =>
        have hsent : Operates cfg svc ((e.2.filter (· ∈ env.onlineList)).foldl
            (fun svc peerId => svc.sendItem ⟨peerId, 0, .publishKey e.1 key⟩) svc) := by
          apply Operates.foldl
          intro svc peerId
          apply Operates.emit
          rfl
        apply hsent.trans
        apply Operates.same
        constructor <;> rfl

theorem operates_updateServerSyncTS :
  Operates cfg svc svc.updateServerSyncTS
  := by
  have hinit : svc.Same
      { svc with mGrpServerUpdateItem := some (svc.mGrpServerUpdateItem.getD 0) } := by
    constructor <;> rfl
  rw [updateServerSyncTS]
  apply Operates.trans (Operates.same hinit)
  apply Operates.foldl
  intro svc grpMeta
  apply Operates.same
  constructor <;> rfl

end RsGxsNetService

/-! ### Inputs -/

/-- The input is a packet of a transaction, or concerns transactions that are under way or
completed. -/
def NetInput.Drives : NetInput → Prop
  | .recvItem item _ => item.transactionNumber ≠ 0
  | .processTransactions _ => True
  | .processCompletedTransactions _ => True
  | _ => False

namespace RsGxsNetService

variable {cfg : NetConfig} {env : NetEnv} {svc : RsGxsNetService} {input : NetInput}

/-- All other inputs take numbers and start transactions. -/
theorem operates_perform (h : ¬ input.Drives) :
  Operates cfg svc (svc.perform cfg input)
  := by
  cases input with
  | recvItem item env => exact operates_recvNxsItem (not_not.mp h)
  | updateServerSyncTS => exact operates_updateServerSyncTS
  | processTransactions env => exact absurd trivial h
  | processCompletedTransactions env => exact absurd trivial h
  | runVetting env => exact operates_runVetting
  | processExplicitGroupRequests env => exact operates_processExplicitGroupRequests
  | syncWithPeers env => exact operates_syncWithPeers
  | sharePublishKeysPending env => exact operates_sharePublishKeysPending
  | subscribeStatusChanged grpId subscribed =>
    apply Operates.same
    rw [perform, subscribeStatusChanged]
    split <;> constructor <;> rfl
  | requestGrp grpId peerId =>
    apply Operates.same
    constructor <;> rfl
  | sharePublishKey grpId peers =>
    apply Operates.same
    constructor <;> rfl
  | changeStore store =>
    apply Operates.same
    constructor <;> rfl

/-- The service at the start of an operation. -/
def cleared (svc : RsGxsNetService) : RsGxsNetService := { svc with out := [] }

theorem step_of_fault (h : svc.fault.isSome = true) :
  (machine cfg).step svc input = (svc, [])
  := if_pos h

/-- A service that no fault has stopped performs an operation. -/
theorem step_of_running (h : svc.fault.isSome = false) :
  (machine cfg).step svc input =
    (svc.cleared.perform cfg input, (svc.cleared.perform cfg input).out)
  := if_neg (Bool.not_eq_true _ ▸ h)

/-- What operations preserve, and what the telling of a completed transaction preserves,
`processCompletedTransactions` preserves. -/
theorem processCompletedTransactions_induction {P : RsGxsNetService → Prop}
    (hstart : P { svc with mComplTransactions := [] })
    (hincoming : ∀ svc tr, P svc → P (svc.emit (.processCompletedIncoming tr)))
    (houtgoing : ∀ svc tr, P svc → P (svc.emit (.processCompletedOutgoing tr)))
    (hoperates : ∀ svc svc', P svc → Operates cfg svc svc' → P svc') :
  P (svc.processCompletedTransactions cfg env)
  := by
  rw [processCompletedTransactions]
  generalize ({ svc with mComplTransactions := [] } : RsGxsNetService) = svc' at hstart
  induction svc.mComplTransactions generalizing svc' with
  | nil => exact hstart
  | cons tr l ih =>
    apply ih
    dsimp only
    rw [processCompletedTransaction]
    split
    · exact hstart
    · split
      · exact houtgoing svc' tr hstart
      · apply hoperates _ _ (hincoming svc' tr hstart)
        apply operates_processCompletedIncomingTrans

end RsGxsNetService

end Gxs
