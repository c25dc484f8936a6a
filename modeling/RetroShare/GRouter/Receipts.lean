import RetroShare.GRouter.Router

/-!
# Receipts

A message of ours is done, and its client is told that it was received, when a receipt comes that
has the hash of the message and a valid signature.  The signature names the key that has made it,
and nothing compares this key with the destination of the message: everybody on the route of the
message knows its hash, and can sign a receipt with a key of its own.

The result is about runs in which no receipt with a valid signature of another key comes for a
message of ours.  Then every message of ours that is done, and every message of which a client is
told that it was received, has a receipt that was signed by its destination.
-/

namespace GRouter

/-- Among the events there is a receipt of the message that was signed by its destination. -/
def Believed (crypto : Crypto) (events : List Event) (mid : GRouterMsgPropagationId)
    (info : GRouterRoutingInfo) : Prop :=
  ∃ item, .handledReceipt item ∈ events ∧ item.routingId = mid ∧ item.dataHash = info.itemHash ∧
    crypto.madeBy info.dataItem.destinationKey item.serialiseSignedData item.signature.signData

/-- Every message of ours that is done is believed. -/
def DoneBelieved (crypto : Crypto) (router : p3GRouter) (events : List Event) : Prop :=
  ∀ mid info, router.pendingMessages.get? mid = some info → info.routingFlags.isOrigin = true →
    info.dataStatus = .done → Believed crypto events mid info

/-- Whoever is told that a message was received is told so of a message of ours that is
believed. -/
def NoticesBelieved (crypto : Crypto) (router : p3GRouter) (input : Input) (events : List Event) :
    Prop :=
  ∀ client mid, .notifyDataStatus client mid .received ∈ (p3GRouter.machine crypto).emit router input →
    ∃ info, router.pendingMessages.get? mid = some info ∧ info.routingFlags.isOrigin = true ∧
      Believed crypto (events ++ (p3GRouter.machine crypto).emit router input) mid info

/-- A receipt that comes for a message of ours with the hash of the message and a valid signature
names the destination as the key that has signed it. -/
def NamesDestination (crypto : Crypto) (router : p3GRouter) (input : Input) : Prop :=
  ∀ env item items info, input = .handleIncoming env →
    router.incomingItems = .receipt item :: items →
    router.pendingMessages.get? item.routingId = some info → info.routingFlags.isOrigin = true →
    item.dataHash = info.itemHash →
    crypto.validateData item.serialiseSignedData item.signature = true →
    item.signature.keyId = info.dataItem.destinationKey

/-! ### Entries -/

variable {crypto : Crypto} {events events' : List Event} {mid : GRouterMsgPropagationId}
  {info info' : GRouterRoutingInfo}

theorem Believed.append (h : Believed crypto events mid info) :
  Believed crypto (events ++ events') mid info
  := by
  obtain ⟨item, hmem, hrest⟩ := h
  exact ⟨item, List.mem_append_left _ hmem, hrest⟩

/-- What is kept of an entry: a message of ours has no receipt to send back, it is done only when
it is believed, and the entry is found by the identifier of its message. -/
structure Sound (crypto : Crypto) (events : List Event) (mid : GRouterMsgPropagationId)
    (info : GRouterRoutingInfo) : Prop where
  routingId : info.dataItem.routingId = mid
  noReceipt : info.routingFlags.isOrigin = true → info.receiptItem = none
  believed : info.routingFlags.isOrigin = true → info.dataStatus = .done →
    Believed crypto events mid info

theorem Sound.append (h : Sound crypto events mid info) :
  Sound crypto (events ++ events') mid info
  := by
  constructor
  case routingId => exact h.routingId
  case noReceipt => exact h.noReceipt
  case believed => exact fun horigin hdone => (h.believed horigin hdone).append

/-- An entry changes to one of the same message, and is not done by the change. -/
structure Follows (info info' : GRouterRoutingInfo) : Prop where
  dataItem : info'.dataItem = info.dataItem
  itemHash : info'.itemHash = info.itemHash
  isOrigin : info'.routingFlags.isOrigin = info.routingFlags.isOrigin
  receiptItem : info'.receiptItem = info.receiptItem
  notDone : info.routingFlags.isOrigin = true → info.receiptItem = none →
    info'.dataStatus = .done → info.dataStatus = .done

theorem Follows.refl (info : GRouterRoutingInfo) :
  Follows info info
  := ⟨rfl, rfl, rfl, rfl, fun _ _ h => h⟩

theorem Follows.trans {info'' : GRouterRoutingInfo} (h : Follows info info')
    (h' : Follows info' info'') :
  Follows info info''
  := by
  constructor
  case dataItem => rw [h'.dataItem, h.dataItem]
  case itemHash => rw [h'.itemHash, h.itemHash]
  case isOrigin => rw [h'.isOrigin, h.isOrigin]
  case receiptItem => rw [h'.receiptItem, h.receiptItem]
  case notDone =>
    intro horigin hnone hdone
    apply h.notDone horigin hnone
    apply h'.notDone
    · rw [h.isOrigin, horigin]
    · rw [h.receiptItem, hnone]
    · exact hdone

theorem Sound.follows (h : Sound crypto events mid info) (hfollows : Follows info info') :
  Sound crypto events mid info'
  := by
  constructor
  case routingId => rw [hfollows.dataItem, h.routingId]
  case noReceipt =>
    rw [hfollows.isOrigin, hfollows.receiptItem]
    exact h.noReceipt
  case believed =>
    rw [hfollows.isOrigin]
    intro horigin hdone
    obtain ⟨item, hmem, hid, hhash, hmade⟩ :=
      h.believed horigin (hfollows.notDone horigin (h.noReceipt horigin) hdone)
    refine ⟨item, hmem, hid, ?_, ?_⟩
    · rw [hfollows.itemHash, hhash]
    · rw [hfollows.dataItem]
      exact hmade

/-! ### What the parts of the router do to an entry -/

namespace p3GRouter

variable (router : p3GRouter) (net : Network) (now : Nat)

theorem follows_ackMessage (info : GRouterRoutingInfo) :
  Follows info (ackMessage now info)
  := by
  rw [ackMessage]
  split
  case isTrue =>
    constructor
    case notDone => exact fun _ _ h => by cases h
    all_goals rfl
  case isFalse => exact Follows.refl info

theorem follows_handleTunnel (info : GRouterRoutingInfo) :
  Follows info (handleTunnel now info)
  := by
  rw [handleTunnel]
  repeat' split
  all_goals exact ⟨rfl, rfl, rfl, rfl, fun _ _ h => h⟩

theorem follows_routeData (info : GRouterRoutingInfo) :
  Follows info (router.routeData net info).1
  := by
  rw [routeData]
  cases hstatus : info.dataStatus with
  | pending =>
    dsimp only
    repeat' split
    case isTrue.isTrue => exact ⟨rfl, rfl, rfl, rfl, fun _ _ h => by cases h⟩
    case isTrue.isFalse => exact Follows.refl info
    case isFalse => exact ⟨rfl, rfl, rfl, rfl, fun _ _ h => by cases h⟩
  | ongoing =>
    dsimp only
    split
    case isTrue => exact ⟨rfl, rfl, rfl, rfl, fun _ _ h => by cases h⟩
    case isFalse => exact Follows.refl info
  | sent =>
    dsimp only
    split
    case isTrue => exact ⟨rfl, rfl, rfl, rfl, fun _ _ h => by cases h⟩
    case isFalse => exact ⟨rfl, rfl, rfl, rfl, fun _ _ h => by cases h⟩
  | receiptOk => exact Follows.refl info
  | done => exact Follows.refl info

theorem follows_routeReceipt (info : GRouterRoutingInfo) :
  Follows info (routeReceipt net info).1
  := by
  rw [routeReceipt]
  cases hreceipt : info.receiptItem with
  | none => exact Follows.refl info
  | some item =>
    dsimp only
    split
    case isTrue => exact Follows.refl info
    case isFalse =>
      constructor
      case notDone =>
        intro _ hnone
        rw [hreceipt] at hnone
        cases hnone
      case receiptItem => exact hreceipt.symm
      all_goals rfl

theorem follows_routePendingObject (info : GRouterRoutingInfo) :
  Follows info (router.routePendingObject net info).1
  := by
  have hdata := router.follows_routeData net info
  rw [routePendingObject]
  generalize router.routeData net info = r at hdata ⊢
  obtain ⟨info', out, _ | _⟩ := r
  · exact hdata
  · exact Follows.trans hdata (follows_routeReceipt net info')

/-! ### Steps -/

/-- Every entry of the router, and every entry that was saved, is sound. -/
structure Inv (crypto : Crypto) (router : p3GRouter) (events : List Event) : Prop where
  pending : ∀ mid info, router.pendingMessages.get? mid = some info →
    Sound crypto events mid info
  saved : ∀ info ∈ router.saved, Sound crypto events info.dataItem.routingId info

theorem Inv.init (crypto : Crypto) :
  Inv crypto init []
  := by
  constructor
  case pending => exact fun mid info h => by cases h
  case saved => exact fun info h => by cases h

variable {router} {router' : p3GRouter} {client : GRouterClientService} {input : Input}

section

variable (h : Inv crypto router events)

include h

theorem Inv.append :
  Inv crypto router (events ++ events')
  := by
  constructor
  case pending => exact fun mid info hget => (h.pending mid info hget).append
  case saved => exact fun info hmem => (h.saved info hmem).append

/-- Parts of the router that nothing is said about can change. -/
theorem Inv.congr (hpending : router'.pendingMessages = router.pendingMessages)
    (hsaved : router'.saved = router.saved) :
  Inv crypto router' events
  := by
  constructor
  case pending => rw [hpending]; exact h.pending
  case saved => rw [hsaved]; exact h.saved

/-- Entries are changed to ones that follow them. -/
theorem Inv.map {f : GRouterMsgPropagationId → GRouterRoutingInfo → GRouterRoutingInfo}
    (hf : ∀ mid info, Follows info (f mid info)) (tunnels : OrdMap Sha1CheckSum GRouterTunnelInfo) :
  Inv crypto { router with pendingMessages := router.pendingMessages.map f, tunnels } events
  := by
  constructor
  case pending =>
    intro mid info hget
    rw [OrdMap.get?_map, Option.map_eq_some_iff] at hget
    obtain ⟨info', hget, rfl⟩ := hget
    exact (h.pending mid info' hget).follows (hf mid info')
  case saved => exact h.saved

theorem Inv.insert (hsound : Sound crypto events mid info)
    (hpending : router'.pendingMessages = router.pendingMessages.insert mid info)
    (hsaved : router'.saved = router.saved) :
  Inv crypto router' events
  := by
  constructor
  case pending =>
    intro mid' info' hget
    rw [hpending] at hget
    rcases OrdMap.get?_insert_iff.mp hget with ⟨heq, rfl⟩ | ⟨-, hget⟩
    · exact heq ▸ hsound
    · exact h.pending mid' info' hget
  case saved => rw [hsaved]; exact h.saved

/-- Entries are taken off. -/
theorem Inv.filter {p : GRouterMsgPropagationId → GRouterRoutingInfo → Bool}
    (tunnels : OrdMap Sha1CheckSum GRouterTunnelInfo) :
  Inv crypto { router with pendingMessages := router.pendingMessages.filter p, tunnels } events
  := by
  constructor
  case pending =>
    intro mid info hget
    rw [OrdMap.get?_filter, Option.filter_eq_some_iff] at hget
    exact h.pending mid info hget.1
  case saved => exact h.saved

theorem Inv.handleIncomingReceiptItem {item : RsGRouterSignedReceiptItem}
    (hmem : .handledReceipt item ∈ events)
    (hnames : ∀ info, router.pendingMessages.get? item.routingId = some info →
      info.routingFlags.isOrigin = true → item.dataHash = info.itemHash → crypto.validateData
      item.serialiseSignedData item.signature = true → item.signature.keyId =
      info.dataItem.destinationKey) :
  Inv crypto (router.handleIncomingReceiptItem crypto item).1 events ∧
    ∀ client mid, .notifyDataStatus client mid .received ∈
        (router.handleIncomingReceiptItem crypto item).2 →
      ∃ info, router.pendingMessages.get? mid = some info ∧ info.routingFlags.isOrigin = true ∧
        Believed crypto events mid info
  := by
  rw [p3GRouter.handleIncomingReceiptItem]
  cases hget : router.pendingMessages.get? item.routingId with
  | none => exact ⟨h, fun _ _ hnotice => by cases hnotice⟩
  | some info =>
    have hsound := h.pending _ info hget
    dsimp only
    split
    case isTrue => exact ⟨h, fun _ _ hnotice => by cases hnotice⟩
    case isFalse hhash =>
      rw [not_not] at hhash
      split
      case isTrue => exact ⟨h, fun _ _ hnotice => by cases hnotice⟩
      case isFalse hvalid =>
        have hvalid : crypto.validateData item.serialiseSignedData item.signature = true := by
          simpa using hvalid
        split
        case isTrue horigin =>
          have hbelieved : Believed crypto events item.routingId info := by
            refine ⟨item, hmem, rfl, hhash, ?_⟩
            rw [← hnames info hget horigin hhash hvalid]
            exact hvalid
          have hsound' : Sound crypto events item.routingId { info with dataStatus := .done } := by
            constructor
            case routingId => exact hsound.routingId
            case noReceipt => exact hsound.noReceipt
            case believed => exact fun _ _ => hbelieved
          constructor
          · exact h.insert hsound' rfl rfl
          · intro client mid hnotice
            dsimp only at hnotice
            split at hnotice
            · cases hnotice
            · split at hnotice
              · cases hnotice
              · obtain ⟨rfl, rfl⟩ : client = _ ∧ mid = item.routingId := by simpa using hnotice
                exact ⟨info, hget, horigin, hbelieved⟩
        case isFalse horigin =>
          have hsound' : Sound crypto events item.routingId
              { info with dataStatus := .receiptOk, receiptItem := some item } := by
            constructor
            case routingId => exact hsound.routingId
            case noReceipt => exact fun h' => absurd h' horigin
            case believed => exact fun h' => absurd h' horigin
          constructor
          · exact h.insert hsound' rfl rfl
          · exact fun _ _ hnotice => by cases hnotice

end

theorem sound_newInfo {env : Handling} {dataItem : RsGRouterGenericDataItem}
    {itemHash : Sha1CheckSum} {forUs : Bool} {receiptItem : Option RsGRouterSignedReceiptItem} :
  Sound crypto events dataItem.routingId (newInfo env dataItem itemHash forUs receiptItem)
  := by
  constructor
  case routingId => cases forUs <;> rfl
  case noReceipt => exact fun h => by cases h
  case believed => exact fun h => by cases h

section

variable (h : Inv crypto router events)

include h

theorem Inv.handleIncomingDataItem (env : Handling) (dataItem : RsGRouterGenericDataItem) :
  Inv crypto (router.handleIncomingDataItem crypto env dataItem).1 events ∧
    ∀ client mid, .notifyDataStatus client mid .received ∉
      (router.handleIncomingDataItem crypto env dataItem).2
  := by
  rw [p3GRouter.handleIncomingDataItem]
  dsimp only
  split
  · exact ⟨h, fun _ _ hnotice => by cases hnotice⟩
  · split
    · rename_i info hget
      split
      · exact ⟨h, fun _ _ hnotice => by cases hnotice⟩
      · have hsound : Sound crypto events dataItem.routingId
            { info with incomingRoutes := info.incomingRoutes.insert dataItem.peerId () } :=
          (h.pending _ info hget).follows ⟨rfl, rfl, rfl, rfl, fun _ _ hdone => hdone⟩
        exact ⟨h.insert hsound rfl rfl, fun _ _ hnotice => by cases hnotice⟩
    · split
      · split
        · exact ⟨h, fun _ _ hnotice => by cases hnotice⟩
        · refine ⟨h.insert sound_newInfo rfl rfl, ?_⟩
          intro client mid hnotice
          dsimp only at hnotice
          split at hnotice
          · cases hnotice
          · simp at hnotice
      · exact ⟨h.insert sound_newInfo rfl rfl, fun _ _ hnotice => by cases hnotice⟩

/-- A message is sent. -/
theorem Inv.sendData (call : SendData) :
  Inv crypto (router.sendData crypto call) events
  := by
  rw [p3GRouter.sendData]
  split
  case isTrue => exact h
  case isFalse =>
    split
    · exact h
    · rename_i propagationId _
      split
      · exact h
      · rename_i dataItem hitem
        refine h.insert ?_ rfl rfl
        constructor
        case routingId =>
          rw [dataItemOf, Option.bind_eq_some_iff] at hitem
          obtain ⟨encrypted, -, hitem⟩ := hitem
          rw [Option.bind_eq_some_iff] at hitem
          obtain ⟨signature, -, hitem⟩ := hitem
          dsimp only at hitem
          split at hitem
          · obtain rfl := Option.some.inj hitem
            rfl
          · cases hitem
        case noReceipt => exact fun _ => rfl
        case believed => exact fun _ hdone => by cases hdone

theorem Inv.loadList :
  Inv crypto router.loadList events
  := by
  constructor
  case pending =>
    rw [p3GRouter.loadList]
    dsimp only
    have hsaved := h.saved
    revert hsaved
    induction router.saved using List.reverseRecOn with
    | nil => exact fun _ mid info hget => by cases hget
    | append_singleton infos last ih =>
      intro hsaved mid info hget
      rw [List.foldl_append, List.foldl_cons, List.foldl_nil] at hget
      rcases OrdMap.get?_insert_iff.mp hget with ⟨heq, rfl⟩ | ⟨-, hget⟩
      · rw [heq]
        exact (hsaved last (by simp)).follows ⟨rfl, rfl, rfl, rfl, fun _ _ hdone => hdone⟩
      · exact ih (fun info hmem => hsaved info (List.mem_append_left _ hmem)) mid info hget
  case saved => exact h.saved

theorem Inv.saveList :
  Inv crypto router.saveList events
  := by
  constructor
  case pending => exact h.pending
  case saved =>
    intro info hmem
    obtain ⟨⟨mid, info⟩, hentry, rfl⟩ := List.mem_map.mp hmem
    have hsound := h.pending mid info (OrdMap.mem_toList.mp hentry)
    exact hsound.routingId.symm ▸ hsound

end

theorem not_received_routeReceipt {net : Network} :
  .notifyDataStatus client mid .received ∉ (routeReceipt net info).2
  := by
  rw [routeReceipt]
  repeat' split
  all_goals simp

theorem not_received_routePendingObject {net : Network} :
  .notifyDataStatus client mid .received ∉ (router.routePendingObject net info).2
  := by
  have hdata : .notifyDataStatus client mid .received ∉ (router.routeData net info).2.1 := by
    rw [routeData]
    cases info.dataStatus
    all_goals
      dsimp only
      repeat' split
      all_goals simp
  rw [routePendingObject]
  generalize router.routeData net info = r at hdata ⊢
  obtain ⟨info', out, _ | _⟩ := r
  · exact hdata
  · intro hnotice
    rcases List.mem_append.mp hnotice with hnotice | hnotice
    · exact hdata hnotice
    · exact not_received_routeReceipt hnotice

/-- Nothing is emitted that tells a client that a message was received. -/
theorem noticesBelieved_of_forall
    (h : ∀ client mid, .notifyDataStatus client mid .received ∉ (machine crypto).emit router input)
      :
  NoticesBelieved crypto router input events
  := fun client mid hnotice => absurd hnotice (h client mid)

theorem Inv.step (h : Inv crypto router events) (hnames : NamesDestination crypto router input) :
  Inv crypto ((machine crypto).next router input) (events ++ (machine crypto).emit router input) ∧
    NoticesBelieved crypto router input events
  := by
  cases input with
  | registerClientService id service =>
    exact ⟨Inv.append (h.congr rfl rfl), noticesBelieved_of_forall fun _ _ hmem => by cases hmem⟩
  | registerKey authenticationKey clientId =>
    refine ⟨?_, noticesBelieved_of_forall fun _ _ hmem => by cases hmem⟩
    apply Inv.append
    apply h.congr
    all_goals
      simp only [Machine.next, machine, p3GRouter.step, registerKey]
      split <;> rfl
  | unregisterKey keyId sid =>
    exact ⟨Inv.append (h.congr rfl rfl), noticesBelieved_of_forall fun _ _ hmem => by cases hmem⟩
  | recvItem item =>
    exact ⟨Inv.append (h.congr rfl rfl), noticesBelieved_of_forall fun _ _ hmem => by cases hmem⟩
  | recvAck propagationId now =>
    refine ⟨?_, noticesBelieved_of_forall fun _ _ hmem => by cases hmem⟩
    apply Inv.append
    refine h.map ?_ router.tunnels
    intro mid info
    split
    · exact follows_ackMessage now info
    · exact Follows.refl info
  | addVirtualPeer hash vpid dir now =>
    refine ⟨?_, noticesBelieved_of_forall fun _ _ hmem => by cases hmem⟩
    apply Inv.append
    simp only [Machine.next, machine, p3GRouter.step, p3GRouter.addVirtualPeer]
    split
    case isTrue => exact h
    case isFalse =>
      refine h.map ?_ _
      intro mid info
      split
      · exact ⟨rfl, rfl, rfl, rfl, fun _ _ hdone => hdone⟩
      · exact Follows.refl info
  | removeVirtualPeer hash vpid =>
    refine ⟨?_, noticesBelieved_of_forall fun _ _ hmem => by cases hmem⟩
    apply Inv.append
    simp only [Machine.next, machine, p3GRouter.step, p3GRouter.removeVirtualPeer]
    split
    · exact h
    · split
      · refine h.map ?_ _
        intro mid info
        split
        · exact ⟨rfl, rfl, rfl, rfl, fun _ _ hdone => hdone⟩
        · exact Follows.refl info
      · exact h.congr rfl rfl
  | handleIncoming env =>
    simp only [NoticesBelieved, Machine.next, Machine.emit, machine, p3GRouter.step,
      p3GRouter.handleIncoming]
    cases hitems : router.incomingItems with
    | nil => exact ⟨h.append, fun _ _ hmem => by cases hmem⟩
    | cons item items =>
      have hrest : Inv crypto { router with incomingItems := items } events := h.congr rfl rfl
      cases item with
      | data item =>
        obtain ⟨hnext, hnone⟩ := hrest.handleIncomingDataItem env item
        exact ⟨hnext.append, fun client mid hmem => absurd hmem (hnone client mid)⟩
      | receipt item =>
        dsimp only
        have hevents : Inv crypto { router with incomingItems := items }
          (events ++ [.handledReceipt item]) := hrest.append
        obtain ⟨hnext, hbelieved⟩ := hevents.handleIncomingReceiptItem
          (List.mem_append_right events List.mem_cons_self)
          fun info hget horigin hhash hvalid =>
            hnames env item items info rfl hitems hget horigin hhash hvalid
        rw [List.append_cons]
        refine ⟨hnext.append, ?_⟩
        intro client mid hmem
        rcases List.mem_cons.mp hmem with hmem | hmem
        · cases hmem
        · obtain ⟨info, hget, horigin, hinfo⟩ := hbelieved client mid hmem
          exact ⟨info, hget, horigin, hinfo.append⟩
  | routePendingObjects net =>
    constructor
    · apply Inv.append
      exact h.map (fun _ info => router.follows_routePendingObject net info) router.tunnels
    · apply noticesBelieved_of_forall
      intro client mid hmem
      obtain ⟨e, -, hmem⟩ := List.mem_flatMap.mp hmem
      exact not_received_routePendingObject hmem
  | autoWash net =>
    constructor
    · apply Inv.append
      exact h.filter _
    · apply noticesBelieved_of_forall
      intro client mid hmem
      obtain ⟨e, -, hmem⟩ := List.mem_flatMap.mp hmem
      rw [washNotice] at hmem
      repeat' split at hmem
      all_goals simp at hmem
  | handleTunnels now =>
    refine ⟨?_, noticesBelieved_of_forall fun _ _ hmem => by cases hmem⟩
    apply Inv.append
    exact h.map (fun _ info => follows_handleTunnel now info) router.tunnels
  | sendData call =>
    exact ⟨Inv.append (h.sendData call), noticesBelieved_of_forall fun _ _ hmem => by cases hmem⟩
  | cancel mid =>
    refine ⟨?_, noticesBelieved_of_forall fun _ _ hmem => by cases hmem⟩
    apply Inv.append
    exact h.filter router.tunnels
  | saveList =>
    exact ⟨Inv.append h.saveList, noticesBelieved_of_forall fun _ _ hmem => by cases hmem⟩
  | loadList =>
    exact ⟨Inv.append h.loadList, noticesBelieved_of_forall fun _ _ hmem => by cases hmem⟩

theorem Inv.run {inputs : List Input}
    (h : (machine crypto).Along (NamesDestination crypto) p3GRouter.init inputs) :
  Inv crypto ((machine crypto).run p3GRouter.init inputs) ((machine crypto).trace p3GRouter.init inputs)
  := by
  have hrun := Machine.run_trace_of_step (m := machine crypto) (C := NamesDestination crypto)
    (P := Inv crypto) (fun _ _ _ hs hi => (hs.step hi).1) (Inv.init crypto) h
  simpa using hrun

end p3GRouter

/-- In every run in which the receipts for messages of ours name the destination as the key that
has signed them, messages of ours are done, and their clients told so, only after a receipt that
the destination has signed. -/
theorem receipts_believed (crypto : Crypto) (inputs : List Input) (input : Input)
    (h : (p3GRouter.machine crypto).Along (NamesDestination crypto) p3GRouter.init
      (inputs ++ [input])) :
  let router := (p3GRouter.machine crypto).run p3GRouter.init inputs
  let events := (p3GRouter.machine crypto).trace p3GRouter.init inputs
  DoneBelieved crypto router events ∧ NoticesBelieved crypto router input events
  := by
  intro router events
  rw [Machine.along_append] at h
  have hinv : p3GRouter.Inv crypto router events := p3GRouter.Inv.run h.1
  constructor
  · intro mid info hget
    exact (hinv.pending mid info hget).believed
  · exact (hinv.step h.2.1).2

/-! #### A message and its receipts -/

/-- A signature is the key followed by the bytes, and a hash is the sum of the bytes. -/
def plainCrypto : Crypto where
  madeBy key data signData := signData = UInt8.ofNat key :: data
  sha1sum bytes := (bytes.map UInt8.toNat).sum

/-- A message to the key `7`, signed by the key `3`. -/
def plainItem : RsGRouterGenericDataItem :=
  let item : RsGRouterGenericDataItem := ⟨0, 9, 7, 1, ⟨3, []⟩, 1, [42], 0⟩
  { item with signature := ⟨3, 3 :: item.serialiseSignedData⟩ }

def plainCall : SendData :=
  ⟨7, 1, [42], 3, [9], some [42], some plainItem.signature, 100⟩

/-- The receipt of the message, signed by a key. -/
def plainReceipt (key : GRouterKeyId) : RsGRouterSignedReceiptItem :=
  let item : RsGRouterSignedReceiptItem :=
    ⟨2, 9, 3, 0, ⟨key, []⟩, 0, computeDataItemHash plainCrypto plainItem⟩
  { item with signature := ⟨key, UInt8.ofNat key :: item.serialiseSignedData⟩ }

/-- The message is sent, and a receipt that the key has signed comes. -/
def plainInputs (key : GRouterKeyId) : List Input :=
  [.registerClientService 1 5, .sendData plainCall, .recvItem (.receipt (plainReceipt key))]

theorem along_plainInputs :
  (p3GRouter.machine plainCrypto).Along (NamesDestination plainCrypto) p3GRouter.init
    (plainInputs 7 ++ [.handleIncoming ⟨101, none, none⟩])
  := by
  refine ⟨?_, ?_, ?_, ?_, trivial⟩
  · exact fun _ _ _ _ h => by cases h
  · exact fun _ _ _ _ h => by cases h
  · exact fun _ _ _ _ h => by cases h
  · intro env item items info _ hitems hget _ _ _
    obtain ⟨rfl, rfl⟩ : plainReceipt 7 = item ∧ [] = items := by
      have hqueue : [RsGRouterAbstractMsgItem.receipt (plainReceipt 7)] = .receipt item :: items :=
        hitems
      simpa using hqueue
    obtain rfl := Option.some.inj hget
    decide +kernel

/-- The receipt of the destination, and the client is told that the message was received. -/
theorem receipts_believed_plain :
  .notifyDataStatus 5 9 .received ∈ (p3GRouter.machine plainCrypto).emit
      ((p3GRouter.machine plainCrypto).run p3GRouter.init (plainInputs 7))
      (.handleIncoming ⟨101, none, none⟩) ∧
    DoneBelieved plainCrypto
      ((p3GRouter.machine plainCrypto).run p3GRouter.init (plainInputs 7))
      ((p3GRouter.machine plainCrypto).trace p3GRouter.init (plainInputs 7)) ∧
    NoticesBelieved plainCrypto
      ((p3GRouter.machine plainCrypto).run p3GRouter.init (plainInputs 7))
      (.handleIncoming ⟨101, none, none⟩)
      ((p3GRouter.machine plainCrypto).trace p3GRouter.init (plainInputs 7))
  := ⟨by decide +kernel, receipts_believed plainCrypto (plainInputs 7)
    (.handleIncoming ⟨101, none, none⟩) along_plainInputs⟩

/-- A client is told that its message was received, since somebody with the key `8` has signed a
receipt of it. -/
theorem not_receipts_believed :
  ¬ ∀ (crypto : Crypto) (inputs : List Input) (input : Input),
    let router := (p3GRouter.machine crypto).run p3GRouter.init inputs
    let events := (p3GRouter.machine crypto).trace p3GRouter.init inputs
    DoneBelieved crypto router events ∧ NoticesBelieved crypto router input events
  := by
  intro h
  have hnotices := (h plainCrypto (plainInputs 8) (.handleIncoming ⟨101, none, none⟩)).2
  obtain ⟨info, hget, -, item, hmem, -, -, hmade⟩ := hnotices 5 9 (by decide +kernel)
  have hevents : ∀ event ∈ (p3GRouter.machine plainCrypto).trace p3GRouter.init (plainInputs 8) ++
      (p3GRouter.machine plainCrypto).emit
        ((p3GRouter.machine plainCrypto).run p3GRouter.init (plainInputs 8))
        (.handleIncoming ⟨101, none, none⟩),
      event = .handledReceipt (plainReceipt 8) ∨ event = .notifyDataStatus 5 9 .received := by
    decide +kernel
  obtain rfl : item = plainReceipt 8 := by simpa using hevents _ hmem
  obtain rfl := Option.some.inj hget
  revert hmade
  decide +kernel

end GRouter
