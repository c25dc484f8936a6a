import RetroShare.GRouter.Receipts

/-!
# What happens to an entry

An input does one of a few things to the entry of a message: nothing that concerns its message, its
removal, its creation by a client of ours or by a data item that arrives, and the handling of a
receipt.  `EntryStep` lists them, and every input but the loading of saved entries is shown to do
one of them.
-/

namespace GRouter

/-- An entry changes to one of the same message, with the same roles; a message that is done remains
done. -/
structure Keeps (info info' : GRouterRoutingInfo) : Prop where
  dataItem : info'.dataItem = info.dataItem
  itemHash : info'.itemHash = info.itemHash
  tunnelHash : info'.tunnelHash = info.tunnelHash
  isOrigin : info'.routingFlags.isOrigin = info.routingFlags.isOrigin
  isDestination : info'.routingFlags.isDestination = info.routingFlags.isDestination
  receiptItem : info'.receiptItem = info.receiptItem
  done : info.dataStatus = .done → info'.dataStatus = .done
  notDone : info.receiptItem = none → info'.dataStatus = .done → info.dataStatus = .done

theorem Keeps.refl (info : GRouterRoutingInfo) :
  Keeps info info
  := ⟨rfl, rfl, rfl, rfl, rfl, rfl, id, fun _ => id⟩

theorem Keeps.trans {info info' info'' : GRouterRoutingInfo} (h : Keeps info info')
    (h' : Keeps info' info'') :
  Keeps info info''
  := by
  constructor
  case dataItem => rw [h'.dataItem, h.dataItem]
  case itemHash => rw [h'.itemHash, h.itemHash]
  case tunnelHash => rw [h'.tunnelHash, h.tunnelHash]
  case isOrigin => rw [h'.isOrigin, h.isOrigin]
  case isDestination => rw [h'.isDestination, h.isDestination]
  case receiptItem => rw [h'.receiptItem, h.receiptItem]
  case done => exact fun hdone => h'.done (h.done hdone)
  case notDone =>
    intro hnone hdone
    apply h.notDone hnone
    apply h'.notDone
    · rw [h.receiptItem, hnone]
    · exact hdone

namespace p3GRouter

variable (router : p3GRouter) (net : Network) (now : Nat) (info : GRouterRoutingInfo)

theorem keeps_ackMessage (info : GRouterRoutingInfo) :
  Keeps info (ackMessage now info)
  := by
  rw [ackMessage]
  split
  case isTrue hongoing =>
    constructor
    case done => exact fun hdone => by rw [hongoing] at hdone; cases hdone
    case notDone => exact fun _ hdone => by cases hdone
    all_goals rfl
  case isFalse => exact Keeps.refl info

theorem keeps_handleTunnel (info : GRouterRoutingInfo) :
  Keeps info (handleTunnel now info)
  := by
  rw [handleTunnel]
  repeat' split
  all_goals exact ⟨rfl, rfl, rfl, rfl, rfl, rfl, id, fun _ => id⟩

theorem keeps_routeData :
  Keeps info (router.routeData net info).1
  := by
  rw [routeData]
  cases hstatus : info.dataStatus with
  | pending =>
    dsimp only
    repeat' split
    all_goals
      constructor
      case done => exact fun hdone => by rw [hstatus] at hdone; cases hdone
      case notDone => exact fun _ hdone => by first | exact hdone | cases hdone
      all_goals rfl
  | ongoing =>
    dsimp only
    split
    all_goals
      constructor
      case done => exact fun hdone => by rw [hstatus] at hdone; cases hdone
      case notDone => exact fun _ hdone => by first | exact hdone | cases hdone
      all_goals rfl
  | sent =>
    dsimp only
    split
    all_goals
      constructor
      case done => exact fun hdone => by rw [hstatus] at hdone; cases hdone
      case notDone => exact fun _ hdone => by first | exact hdone | cases hdone
      all_goals rfl
  | receiptOk => exact Keeps.refl info
  | done => exact Keeps.refl info

theorem keeps_routeReceipt :
  Keeps info (routeReceipt net info).1
  := by
  rw [routeReceipt]
  cases hreceipt : info.receiptItem with
  | none => exact Keeps.refl info
  | some item =>
    dsimp only
    split
    case isTrue => exact Keeps.refl info
    case isFalse =>
      constructor
      case done =>
        intro hdone
        dsimp only
        split
        · rfl
        · exact hdone
      case notDone =>
        intro hnone
        rw [hreceipt] at hnone
        cases hnone
      case receiptItem => exact hreceipt.symm
      all_goals rfl

theorem keeps_routePendingObject :
  Keeps info (router.routePendingObject net info).1
  := by
  have hdata := router.keeps_routeData net info
  rw [routePendingObject]
  generalize router.routeData net info = r at hdata ⊢
  obtain ⟨info', out, _ | _⟩ := r
  · exact hdata
  · exact hdata.trans (keeps_routeReceipt net info')

/-- The identifier that `sendData` returns, if it succeeds. -/
def sentId (crypto : Crypto) (call : SendData) : Option GRouterMsgPropagationId :=
  if call.data.length > maxGRouterDataSize then none
  else
    (call.draws.find? fun mid => (router.pendingMessages.get? mid).isNone).filter fun mid =>
      (dataItemOf crypto call mid).isSome

end p3GRouter

/-! ### Steps -/

/-- What an input does to the entry of a message. -/
inductive EntryStep (crypto : Crypto) (router : p3GRouter) (input : Input)
    (mid : GRouterMsgPropagationId) : Option GRouterRoutingInfo → Option GRouterRoutingInfo → Prop
  /-- There is none, before and after. -/
  | absent : EntryStep crypto router input mid none none
  /-- The message stays what it is. -/
  | keeps {info info' : GRouterRoutingInfo} (h : Keeps info info') :
      EntryStep crypto router input mid (some info) (some info')
  /-- The entry is cancelled, or washed. -/
  | removed {info : GRouterRoutingInfo} : EntryStep crypto router input mid (some info) none
  /-- A client sends the message. -/
  | sent {call : SendData} {item : RsGRouterGenericDataItem} (hinput : input = .sendData call)
      (hid : router.sentId crypto call = some mid) (hitem : item.routingId = mid) :
      EntryStep crypto router input mid none (some (p3GRouter.originInfo crypto call item))
  /-- A data item arrives, for us or not, and there is a receipt when it is for us. -/
  | arrived {env : Handling} {item : RsGRouterGenericDataItem}
      {items : List RsGRouterAbstractMsgItem} {forUs : Bool}
      {receipt : Option RsGRouterSignedReceiptItem}
      (hinput : input = .handleIncoming env) (hitems : router.incomingItems = .data item :: items)
      (hid : item.routingId = mid) (hreceipt : forUs = true → receipt =
        p3GRouter.prepareReceipt crypto env item (computeDataItemHash crypto item)) :
      EntryStep crypto router input mid none
        (some (p3GRouter.newInfo env item (computeDataItemHash crypto item) forUs receipt))
  /-- A receipt of a message of ours is handled. -/
  | received {env : Handling} {item : RsGRouterSignedReceiptItem}
      {items : List RsGRouterAbstractMsgItem} {info : GRouterRoutingInfo}
      (hinput : input = .handleIncoming env)
      (hitems : router.incomingItems = .receipt item :: items) (hid : item.routingId = mid)
      (horigin : info.routingFlags.isOrigin = true) :
      EntryStep crypto router input mid (some info) (some { info with dataStatus := .done })
  /-- A receipt of a message of others is handled. -/
  | returned {env : Handling} {item : RsGRouterSignedReceiptItem}
      {items : List RsGRouterAbstractMsgItem} {info : GRouterRoutingInfo}
      (hinput : input = .handleIncoming env)
      (hitems : router.incomingItems = .receipt item :: items) (hid : item.routingId = mid)
      (horigin : info.routingFlags.isOrigin = false) :
      EntryStep crypto router input mid (some info)
        (some { info with dataStatus := .receiptOk, receiptItem := some item })

namespace p3GRouter

variable {crypto : Crypto} {router : p3GRouter} {input : Input} {mid id : GRouterMsgPropagationId}
  {info : GRouterRoutingInfo} {items : List RsGRouterAbstractMsgItem} {env : Handling}
  {item : RsGRouterGenericDataItem} (call : SendData)

theorem entryStep_refl (entry : Option GRouterRoutingInfo) :
  EntryStep crypto router input mid entry entry
  := by
  cases entry with
  | none => exact .absent
  | some info => exact .keeps (Keeps.refl info)

theorem entryStep_map {f : GRouterMsgPropagationId → GRouterRoutingInfo → GRouterRoutingInfo}
    (hf : ∀ mid info, Keeps info (f mid info)) :
  EntryStep crypto router input mid (router.pendingMessages.get? mid)
    ((router.pendingMessages.map f).get? mid)
  := by
  rw [OrdMap.get?_map]
  cases router.pendingMessages.get? mid with
  | none => exact .absent
  | some info => exact .keeps (hf mid info)

theorem entryStep_filter {p : GRouterMsgPropagationId → GRouterRoutingInfo → Bool} :
  EntryStep crypto router input mid (router.pendingMessages.get? mid)
    ((router.pendingMessages.filter p).get? mid)
  := by
  rw [OrdMap.get?_filter]
  cases router.pendingMessages.get? mid with
  | none => exact .absent
  | some info =>
    cases hp : p mid info with
    | true =>
      rw [Option.filter_some, if_pos hp]
      exact .keeps (Keeps.refl info)
    | false =>
      rw [Option.filter_some, hp]
      exact .removed

theorem entryStep_insert
    (h : id = mid → EntryStep crypto router input mid (router.pendingMessages.get? mid) (some info))
      :
  EntryStep crypto router input mid (router.pendingMessages.get? mid)
    ((router.pendingMessages.insert id info).get? mid)
  := by
  rw [OrdMap.get?_insert]
  split
  case isTrue heq => exact h heq.symm
  case isFalse => apply entryStep_refl

theorem entryStep_receipt {item : RsGRouterSignedReceiptItem}
    (hitems : router.incomingItems = .receipt item :: items) :
  EntryStep crypto router (.handleIncoming env) mid (router.pendingMessages.get? mid)
    (({ router with incomingItems := items }.handleIncomingReceiptItem crypto
      item).1.pendingMessages.get? mid)
  := by
  rw [handleIncomingReceiptItem]
  dsimp only
  cases hget : router.pendingMessages.get? item.routingId with
  | none => apply entryStep_refl
  | some info =>
    dsimp only
    split
    · apply entryStep_refl
    · split
      · apply entryStep_refl
      · split
        case isTrue horigin =>
          apply entryStep_insert
          rintro rfl
          rw [hget]
          exact .received rfl hitems rfl horigin
        case isFalse horigin =>
          apply entryStep_insert
          rintro rfl
          rw [hget]
          exact .returned rfl hitems rfl (Bool.not_eq_true _ ▸ horigin)

theorem entryStep_data (hitems : router.incomingItems = .data item :: items) :
  EntryStep crypto router (.handleIncoming env) mid (router.pendingMessages.get? mid)
    (({ router with incomingItems := items }.handleIncomingDataItem crypto env
      item).1.pendingMessages.get? mid)
  := by
  rw [handleIncomingDataItem]
  dsimp only
  cases router.registeredServices.get? item.serviceId with
  | none => apply entryStep_refl
  | some client =>
    dsimp only
    cases hget : router.pendingMessages.get? item.routingId with
    | some info =>
      dsimp only
      split
      · apply entryStep_refl
      · apply entryStep_insert
        rintro rfl
        rw [hget]
        exact .keeps ⟨rfl, rfl, rfl, rfl, rfl, rfl, id, fun _ => id⟩
    | none =>
      dsimp only
      split
      · cases hreceipt : prepareReceipt crypto env item (computeDataItemHash crypto item) with
        | none => apply entryStep_refl
        | some receipt =>
          apply entryStep_insert
          rintro rfl
          rw [hget]
          exact .arrived rfl hitems rfl fun _ => hreceipt.symm
      · apply entryStep_insert
        rintro rfl
        rw [hget]
        exact .arrived rfl hitems rfl fun h => by cases h

/-- What `sendData` does with the identifier that it returns. -/
theorem sendData_eq :
  router.sendData crypto call =
    match router.sentId crypto call with
    | none => router
    | some id =>
      match dataItemOf crypto call id with
      | none => router
      | some item =>
        { router with
          pendingMessages := router.pendingMessages.insert id (originInfo crypto call item) }
  := by
  rw [sendData, sentId]
  split
  · rfl
  · cases call.draws.find? fun mid => (router.pendingMessages.get? mid).isNone with
    | none => rfl
    | some id =>
      cases hitem : dataItemOf crypto call id with
      | none => simp [Option.filter_some, hitem]
      | some item => simp [Option.filter_some, hitem]

theorem routingId_dataItemOf {call : SendData} (h : dataItemOf crypto call id = some item) :
  item.routingId = id
  := by
  rw [dataItemOf] at h
  obtain ⟨encrypted, -, h⟩ := Option.bind_eq_some_iff.mp h
  obtain ⟨signature, -, h⟩ := Option.bind_eq_some_iff.mp h
  dsimp only at h
  split at h
  · obtain rfl := Option.some.inj h
    rfl
  · cases h

/-- A message of ours gets an identifier that no entry has. -/
theorem get?_sentId {call : SendData} (h : router.sentId crypto call = some id) :
  router.pendingMessages.get? id = none
  := by
  rw [sentId] at h
  split at h
  · cases h
  · obtain ⟨hfind, -⟩ := Option.filter_eq_some_iff.mp h
    simpa using List.find?_some hfind

theorem entryStep_sendData :
  EntryStep crypto router (.sendData call) mid (router.pendingMessages.get? mid)
    ((router.sendData crypto call).pendingMessages.get? mid)
  := by
  rw [sendData_eq]
  cases hid : router.sentId crypto call with
  | none => apply entryStep_refl
  | some id =>
    dsimp only
    cases hitem : dataItemOf crypto call id with
    | none => apply entryStep_refl
    | some item =>
      apply entryStep_insert
      rintro rfl
      rw [get?_sentId hid]
      exact .sent rfl hid (routingId_dataItemOf hitem)

/-- Every input but the loading of saved entries does one of these things to the entry of a
message. -/
theorem entryStep (hload : input ≠ .loadList) (mid : GRouterMsgPropagationId) :
  EntryStep crypto router input mid (router.pendingMessages.get? mid)
    (((machine crypto).next router input).pendingMessages.get? mid)
  := by
  rw [Machine.next, machine]
  cases input with
  | registerClientService id service => apply entryStep_refl
  | registerKey authenticationKey clientId =>
    simp only [step, registerKey]
    split <;> apply entryStep_refl
  | unregisterKey keyId sid => apply entryStep_refl
  | recvItem item => apply entryStep_refl
  | recvAck propagationId now =>
    apply entryStep_map
    intro mid info
    split
    · apply keeps_ackMessage
    · apply Keeps.refl
  | addVirtualPeer hash vpid dir now =>
    simp only [step, addVirtualPeer]
    split
    · apply entryStep_refl
    · apply entryStep_map
      intro mid info
      split
      · exact ⟨rfl, rfl, rfl, rfl, rfl, rfl, id, fun _ => id⟩
      · apply Keeps.refl
  | removeVirtualPeer hash vpid =>
    simp only [step, removeVirtualPeer]
    split
    · apply entryStep_refl
    · split
      · apply entryStep_map
        intro mid info
        split
        · exact ⟨rfl, rfl, rfl, rfl, rfl, rfl, id, fun _ => id⟩
        · apply Keeps.refl
      · apply entryStep_refl
  | handleIncoming env =>
    simp only [step, handleIncoming]
    cases hitems : router.incomingItems with
    | nil => apply entryStep_refl
    | cons item items =>
      cases item with
      | data item => exact entryStep_data hitems
      | receipt item => exact entryStep_receipt hitems
  | routePendingObjects net => exact entryStep_map fun _ info => keeps_routePendingObject router net info
  | autoWash net => apply entryStep_filter
  | handleTunnels now => exact entryStep_map fun _ info => keeps_handleTunnel now info
  | sendData call => apply entryStep_sendData
  | cancel mid' => apply entryStep_filter
  | saveList => apply entryStep_refl
  | loadList => exact absurd rfl hload

theorem get?_loadList (h : router.loadList.pendingMessages.get? mid = some info) :
  ∃ info' ∈ router.saved, info'.dataItem.routingId = mid ∧ Keeps info' info
  := by
  rw [loadList] at h
  dsimp only at h
  revert h
  induction router.saved using List.reverseRecOn with
  | nil => exact fun h => by cases h
  | append_singleton infos last ih =>
    intro h
    rw [List.foldl_append, List.foldl_cons, List.foldl_nil] at h
    rcases OrdMap.get?_insert_iff.mp h with ⟨heq, rfl⟩ | ⟨-, h⟩
    · exact ⟨last, by simp, heq.symm, rfl, rfl, rfl, rfl, rfl, rfl, id, fun _ => id⟩
    · obtain ⟨info', hmem, hrest⟩ := ih h
      exact ⟨info', List.mem_append_left _ hmem, hrest⟩

/-- All entries that were saved are loaded. -/
theorem isSome_get?_loadList (h : info ∈ router.saved) :
  (router.loadList.pendingMessages.get? info.dataItem.routingId).isSome = true
  := by
  rw [loadList]
  dsimp only
  revert h
  induction router.saved using List.reverseRecOn with
  | nil => exact fun h => by cases h
  | append_singleton infos last ih =>
    intro h
    rw [List.foldl_append, List.foldl_cons, List.foldl_nil, OrdMap.get?_insert]
    split
    case isTrue => rfl
    case isFalse hne =>
      rcases List.mem_append.mp h with h | h
      · exact ih h
      · exact absurd (by rw [List.mem_singleton.mp h]) hne

end p3GRouter

/-! ### What is saved -/

variable {crypto : Crypto} {router : p3GRouter} {input : Input}

theorem saved_handleIncomingReceiptItem {item : RsGRouterSignedReceiptItem} :
  (router.handleIncomingReceiptItem crypto item).1.saved = router.saved
  := by
  rw [p3GRouter.handleIncomingReceiptItem]
  repeat' split
  all_goals rfl

theorem saved_handleIncomingDataItem {env : Handling} {item : RsGRouterGenericDataItem} :
  (router.handleIncomingDataItem crypto env item).1.saved = router.saved
  := by
  rw [p3GRouter.handleIncomingDataItem]
  dsimp only
  repeat' split
  all_goals rfl

theorem saved_next (h : input ≠ .saveList) :
  ((p3GRouter.machine crypto).next router input).saved = router.saved
  := by
  rw [Machine.next, p3GRouter.machine]
  cases input with
  | saveList => exact absurd rfl h
  | registerKey authenticationKey clientId =>
    simp only [p3GRouter.step, p3GRouter.registerKey]
    split <;> rfl
  | addVirtualPeer hash vpid dir now =>
    simp only [p3GRouter.step, p3GRouter.addVirtualPeer]
    split <;> rfl
  | removeVirtualPeer hash vpid =>
    simp only [p3GRouter.step, p3GRouter.removeVirtualPeer]
    repeat' split
    all_goals rfl
  | handleIncoming env =>
    simp only [p3GRouter.step, p3GRouter.handleIncoming]
    split
    · rfl
    · apply saved_handleIncomingDataItem
    · apply saved_handleIncomingReceiptItem
  | sendData call =>
    simp only [p3GRouter.step, p3GRouter.sendData]
    repeat' split
    all_goals rfl
  | _ => rfl

end GRouter
