import RetroShare.GRouter.Entries

/-!
# Receipts and delivery

A receipt for a message that is for us is made, and stored with the entry of the message, before the
message is decrypted.  When the decryption fails the client gets nothing, now or later, since the
data is erased from the entry and further copies of the message are known already, but the receipt
goes back to the sender.

The deliveries of a message are counted since its entry is kept, in the memory of the router or in
what it has saved.  As long as the messages that are stored with a receipt can be decrypted, every
one of them was delivered once.
-/

namespace GRouter

/-- The event hands the decrypted data of the item to a client. -/
def Event.delivers (env : Handling) (item : RsGRouterGenericDataItem) : Event → Bool
  | .receiveGRouterData _ destination signingKey serviceId data =>
      destination = item.destinationKey && signingKey = item.signature.keyId &&
        serviceId = item.serviceId && env.decrypted = some data
  | _ => false

/-- How often the message is delivered by an input. -/
def deliveriesOf (crypto : Crypto) (router : p3GRouter) (input : Input)
    (mid : GRouterMsgPropagationId) : Nat :=
  match input, router.incomingItems with
  | .handleIncoming env, .data item :: _ =>
      if item.routingId = mid then
        ((p3GRouter.machine crypto).emit router input).countP (Event.delivers env item)
      else 0
  | _, _ => 0

/-- How often messages were delivered since their entries are kept, and since they were before
they were saved. -/
structure Deliveries where
  kept : GRouterMsgPropagationId → Nat
  saved : GRouterMsgPropagationId → Nat

/-- The deliveries after an input. -/
def Deliveries.next (crypto : Crypto) (router : p3GRouter) (deliveries : Deliveries) :
    Input → Deliveries
  | .saveList => { deliveries with saved := deliveries.kept }
  | .loadList => { deliveries with kept := deliveries.saved }
  | input =>
      { deliveries with
        kept := fun mid =>
          if ((p3GRouter.machine crypto).next router input).pendingMessages.get? mid = none then 0
          else deliveries.kept mid + deliveriesOf crypto router input mid }

/-- The router with the deliveries. -/
def counted (crypto : Crypto) : Machine (p3GRouter × Deliveries) Input Event where
  step s input :=
    (((p3GRouter.machine crypto).next s.1 input, s.2.next crypto s.1 input),
      (p3GRouter.machine crypto).emit s.1 input)

/-- The router after its construction. -/
def counted.init : p3GRouter × Deliveries := (p3GRouter.init, ⟨fun _ => 0, fun _ => 0⟩)

/-- Every message for us that has a receipt was delivered once. -/
def ReceiptDelivered (s : p3GRouter × Deliveries) : Prop :=
  ∀ mid info, s.1.pendingMessages.get? mid = some info →
    info.routingFlags.isDestination = true → info.receiptItem.isSome = true → s.2.kept mid = 1

/-- A data item for us that is new, and for which a receipt is made, can be decrypted. -/
def Decrypts (crypto : Crypto) (router : p3GRouter) (input : Input) : Prop :=
  ∀ env item items, input = .handleIncoming env → router.incomingItems = .data item :: items →
    (router.registeredServices.get? item.serviceId).isSome = true →
    (router.ownedKeyIds.get? (makeTunnelHash item.destinationKey item.serviceId)).isSome = true →
    router.pendingMessages.get? item.routingId = none →
    (p3GRouter.prepareReceipt crypto env item (computeDataItemHash crypto item)).isSome = true →
      env.decrypted.isSome = true

variable {crypto : Crypto} {router : p3GRouter} {input : Input} {mid : GRouterMsgPropagationId}
  {info : GRouterRoutingInfo} {deliveries : Deliveries}

/-! ### Deliveries -/

theorem deliveriesOf_of_known (h : router.pendingMessages.get? mid = some info) :
  deliveriesOf crypto router input mid = 0
  := by
  rw [deliveriesOf.eq_def]
  split
  case h_2 => rfl
  case h_1 env item items hitems =>
    split
    case isFalse => rfl
    case isTrue hid =>
      subst hid
      have hnone : (p3GRouter.machine crypto).emit router (.handleIncoming env) = [] := by
        simp only [Machine.emit, p3GRouter.machine, p3GRouter.step, p3GRouter.handleIncoming, hitems,
          p3GRouter.handleIncomingDataItem, h]
        repeat' split
        all_goals rfl
      rw [hnone]
      rfl

theorem deliveriesOf_of_new {env : Handling} {item : RsGRouterGenericDataItem}
    {items : List RsGRouterAbstractMsgItem}
    (hdecrypts : Decrypts crypto router (.handleIncoming env))
    (hitems : router.incomingItems = .data item :: items)
    (hnew : router.pendingMessages.get? item.routingId = none)
    (hnext : ((p3GRouter.machine crypto).next router (.handleIncoming env)).pendingMessages.get?
      item.routingId = some info) (hforUs : info.routingFlags.isDestination = true) :
  deliveriesOf crypto router (.handleIncoming env) item.routingId = 1
  := by
  have hdecrypted := hdecrypts env item items rfl hitems
  rw [deliveriesOf.eq_def, hitems]
  dsimp only
  rw [if_pos rfl]
  simp only [Machine.next, Machine.emit, p3GRouter.machine, p3GRouter.step,
    p3GRouter.handleIncoming, hitems, p3GRouter.handleIncomingDataItem, hnew] at hnext ⊢
  cases hclient : router.registeredServices.get? item.serviceId with
  | none =>
    rw [hclient] at hnext
    cases hnew.symm.trans hnext
  | some client =>
    rw [hclient] at hnext
    dsimp only at hnext ⊢
    split at hnext
    case isFalse =>
      rw [OrdMap.get?_insert_self] at hnext
      obtain rfl := Option.some.inj hnext
      cases hforUs
    case isTrue howned =>
      rw [if_pos howned]
      cases hreceipt : p3GRouter.prepareReceipt crypto env item
          (computeDataItemHash crypto item) with
      | none =>
        rw [hreceipt] at hnext
        cases hnew.symm.trans hnext
      | some receipt =>
        obtain ⟨bytes, hbytes⟩ := Option.isSome_iff_exists.mp
          (hdecrypted (hclient ▸ rfl) howned hnew (hreceipt ▸ rfl))
        simp [hbytes, Event.delivers]

/-! ### Runs -/

/-- What is kept of the deliveries: a message for us was delivered once, and a message without entry
was not; and the same of the messages that are saved. -/
structure Delivered (s : p3GRouter × Deliveries) : Prop where
  absent : ∀ mid, s.1.pendingMessages.get? mid = none → s.2.kept mid = 0
  routingId : ∀ mid info, s.1.pendingMessages.get? mid = some info → info.dataItem.routingId = mid
  delivered : ∀ mid info, s.1.pendingMessages.get? mid = some info →
    info.routingFlags.isDestination = true → s.2.kept mid = 1
  savedAbsent : ∀ mid, (∀ info ∈ s.1.saved, info.dataItem.routingId ≠ mid) → s.2.saved mid = 0
  savedDelivered : ∀ info ∈ s.1.saved, info.routingFlags.isDestination = true →
    s.2.saved info.dataItem.routingId = 1

theorem Delivered.loadList (h : Delivered (router, deliveries)) :
  Delivered (router.loadList, { deliveries with kept := deliveries.saved })
  := by
  constructor
  case absent =>
    intro mid hnone
    apply h.savedAbsent
    rintro info hmem rfl
    exact Option.isSome_iff_ne_none.mp (p3GRouter.isSome_get?_loadList hmem) hnone
  case routingId =>
    intro mid info hget
    obtain ⟨info', -, hid, hkeeps⟩ := p3GRouter.get?_loadList hget
    rw [hkeeps.dataItem, hid]
  case delivered =>
    intro mid info hget hdestination
    obtain ⟨info', hmem, rfl, hkeeps⟩ := p3GRouter.get?_loadList hget
    rw [hkeeps.isDestination] at hdestination
    exact h.savedDelivered info' hmem hdestination
  case savedAbsent => exact h.savedAbsent
  case savedDelivered => exact h.savedDelivered

theorem Delivered.saveList (h : Delivered (router, deliveries)) :
  Delivered (router.saveList, { deliveries with saved := deliveries.kept })
  := by
  constructor
  case absent => exact h.absent
  case routingId => exact h.routingId
  case delivered => exact h.delivered
  case savedAbsent =>
    intro mid hnone
    apply h.absent
    by_contra hsome
    obtain ⟨info, hget⟩ := Option.ne_none_iff_exists'.mp hsome
    apply hnone info
    · exact List.mem_map.mpr ⟨(mid, info), OrdMap.mem_toList.mpr hget, rfl⟩
    · exact h.routingId mid info hget
  case savedDelivered =>
    intro info hmem hdestination
    obtain ⟨⟨mid, info⟩, hentry, rfl⟩ := List.mem_map.mp hmem
    have hget := OrdMap.mem_toList.mp hentry
    rw [h.routingId mid info hget]
    exact h.delivered mid info hget hdestination

theorem Delivered.next {s : p3GRouter × Deliveries} (h : Delivered s)
    (hdecrypts : Decrypts crypto s.1 input) :
  Delivered ((counted crypto).next s input)
  := by
  obtain ⟨router, deliveries⟩ := s
  by_cases hsave : input = .saveList
  case pos =>
    subst hsave
    exact h.saveList
  case neg =>
    by_cases hload : input = .loadList
    case pos =>
      subst hload
      exact h.loadList
    case neg =>
      have hnext : (counted crypto).next (router, deliveries) input =
          ((p3GRouter.machine crypto).next router input,
            { deliveries with
              kept := fun mid =>
                if ((p3GRouter.machine crypto).next router input).pendingMessages.get? mid = none
                then 0 else deliveries.kept mid + deliveriesOf crypto router input mid }) := by
        cases input with
        | saveList => exact absurd rfl hsave
        | loadList => exact absurd rfl hload
        | _ => rfl
      rw [hnext]
      constructor
      case absent =>
        intro mid hnone
        dsimp only at hnone ⊢
        rw [if_pos hnone]
      case routingId =>
        intro mid info hget
        dsimp only at hget
        have hentry : EntryStep crypto router input mid _ _ := p3GRouter.entryStep hload mid
        rw [hget] at hentry
        generalize hbefore : router.pendingMessages.get? mid = before at hentry
        cases hentry with
        | keeps hkeeps => rw [hkeeps.dataItem, h.routingId mid _ hbefore]
        | sent _ _ hitem => exact hitem
        | @arrived _ _ _ forUs _ _ _ hid _ => cases forUs <;> exact hid
        | @received _ _ _ info _ _ _ _ => exact h.routingId mid info hbefore
        | @returned _ _ _ info _ _ _ _ => exact h.routingId mid info hbefore
      case delivered =>
        intro mid info hget hdestination
        dsimp only at hget ⊢
        rw [hget, if_neg (Option.some_ne_none info)]
        have hentry : EntryStep crypto router input mid _ _ := p3GRouter.entryStep hload mid
        rw [hget] at hentry
        generalize hbefore : router.pendingMessages.get? mid = before at hentry
        cases hentry with
        | keeps hkeeps =>
          rw [hkeeps.isDestination] at hdestination
          rw [deliveriesOf_of_known hbefore]
          exact h.delivered mid _ hbefore hdestination
        | sent => cases hdestination
        | arrived hinput hitems hid =>
          subst hinput hid
          have habsent : deliveries.kept _ = 0 := h.absent _ hbefore
          rw [habsent, Nat.zero_add]
          exact deliveriesOf_of_new hdecrypts hitems hbefore hget hdestination
        | received =>
          rw [deliveriesOf_of_known hbefore]
          exact h.delivered mid _ hbefore hdestination
        | returned =>
          rw [deliveriesOf_of_known hbefore]
          exact h.delivered mid _ hbefore hdestination
      case savedAbsent =>
        dsimp only
        rw [saved_next hsave]
        exact h.savedAbsent
      case savedDelivered =>
        dsimp only
        rw [saved_next hsave]
        exact h.savedDelivered

/-- In every run in which the messages for us that are stored with a receipt can be decrypted, every
message for us that has a receipt was delivered once while its entry is kept. -/
theorem receipt_delivered (crypto : Crypto) (inputs : List Input)
    (h : (counted crypto).Along (fun s input => Decrypts crypto s.1 input) counted.init inputs) :
  ReceiptDelivered ((counted crypto).run counted.init inputs)
  := by
  have hinit : Delivered counted.init := by
    constructor
    case absent => exact fun _ _ => rfl
    case routingId => exact fun _ _ hget => by cases hget
    case delivered => exact fun _ _ hget => by cases hget
    case savedAbsent => exact fun _ _ => rfl
    case savedDelivered => exact fun _ hmem => by cases hmem
  have hrun : Delivered ((counted crypto).run counted.init inputs) :=
    Machine.run_of_step (fun _ _ hs hi => hs.next hi) hinit h
  intro mid info hget hdestination _
  exact hrun.delivered mid info hget hdestination

/-! #### A message for the key of a client -/

/-- A client registers the key `7`, and a message to it comes, which may be decrypted. -/
def deliveryInputs (decrypted : Option (List UInt8)) : List Input :=
  [.registerClientService 1 5, .registerKey 7 1, .recvItem (.data plainItem),
    .handleIncoming ⟨101, some ⟨7, []⟩, decrypted⟩]

/-- The message is decrypted, and delivered. -/
theorem receipt_delivered_plain :
  ReceiptDelivered ((counted plainCrypto).run counted.init (deliveryInputs (some [42])))
  := by
  apply receipt_delivered
  refine ⟨?_, ?_, ?_, ?_, trivial⟩
  · exact fun _ _ _ h => by cases h
  · exact fun _ _ _ h => by cases h
  · exact fun _ _ _ h => by cases h
  · rintro env item items ⟨⟩ _ _ _ _ _
    rfl

/-- A message that cannot be decrypted has a receipt, and is not delivered. -/
theorem not_receipt_delivered :
  ¬ ∀ (crypto : Crypto) (inputs : List Input),
    ReceiptDelivered ((counted crypto).run counted.init inputs)
  := by
  intro h
  have hdelivered := h plainCrypto (deliveryInputs none)
  let router := ((counted plainCrypto).run counted.init (deliveryInputs none)).1
  have hsome : (router.pendingMessages.get? 9).any (fun info =>
      info.routingFlags.isDestination && info.receiptItem.isSome) = true := by
    decide +kernel
  obtain ⟨info, hget, hinfo⟩ := (Option.any_eq_true _ _).mp hsome
  rw [Bool.and_eq_true] at hinfo
  have hone := hdelivered 9 info hget hinfo.1 hinfo.2
  revert hone
  decide +kernel

end GRouter
