import RetroShare.Serialiser.FileSets

/-!
# Saved messages

`saveList` makes an item of every pending message, with copies of its data item and of its receipt;
`loadList` puts the messages of the items that were read back under the identifiers of their data
items.  In between the items are written and read by `RsGRouterSerialiser`.  The items of the
routing matrix are saved before the messages.
-/

namespace GRouter

open Serialiser Decoder

/-! ### Pending messages -/

/-- `GRouterRoutingInfo`, with its statuses and flags as the numbers that are stored. -/
structure RoutingInfo where
  dataStatus : Nat
  tunnelStatus : Nat
  receivedTimeTS : Nat
  lastSentTS : Nat
  lastTunnelRequestTS : Nat
  sendingAttempts : Nat
  clientId : GRouterServiceId
  tunnelHash : List UInt8
  routingFlags : Nat
  dataItem : RsGRouterGenericDataItem
  receiptItem : Option RsGRouterSignedReceiptItem
  incomingRoutes : IdSet
  itemHash : List UInt8
  dataTransactionTS : Nat

/-- The `RsGRouterRoutingInfoItem` of a message; its `PeerId` is the one of a new item. -/
def RoutingInfo.toItem (info : RoutingInfo) : RsGRouterRoutingInfoItem where
  peerId := List.replicate 16 0
  dataStatus := info.dataStatus
  tunnelStatus := info.tunnelStatus
  receivedTimeTS := info.receivedTimeTS
  lastSentTS := info.lastSentTS
  lastTunnelRequestTS := info.lastTunnelRequestTS
  sendingAttempts := info.sendingAttempts
  clientId := info.clientId
  itemHash := info.itemHash
  tunnelHash := info.tunnelHash
  routingFlags := info.routingFlags
  incomingRoutes := info.incomingRoutes
  dataItem := info.dataItem
  receiptItem := info.receiptItem

/-- The message of an item that was read: `data_transaction_TS` is set by the constructor. -/
def RsGRouterRoutingInfoItem.toInfo (item : RsGRouterRoutingInfoItem) : RoutingInfo where
  dataStatus := item.dataStatus
  tunnelStatus := item.tunnelStatus
  receivedTimeTS := item.receivedTimeTS
  lastSentTS := item.lastSentTS
  lastTunnelRequestTS := item.lastTunnelRequestTS
  sendingAttempts := item.sendingAttempts
  clientId := item.clientId
  tunnelHash := item.tunnelHash
  routingFlags := item.routingFlags
  dataItem := item.dataItem
  receiptItem := item.receiptItem
  incomingRoutes := item.incomingRoutes
  itemHash := item.itemHash
  dataTransactionTS := 0

/-! ### Items -/

/-- `RS_PKT_SUBTYPE_GROUTER_MATRIX_CLUES`. -/
def rsPktSubtypeGRouterMatrixClues : Nat := 0x80

/-- `RS_PKT_SUBTYPE_GROUTER_FRIENDS_LIST`. -/
def rsPktSubtypeGRouterFriendsList : Nat := 0x82

/-- `RS_PKT_SUBTYPE_GROUTER_ROUTING_INFO`. -/
def rsPktSubtypeGRouterRoutingInfo : Nat := 0x93

namespace RsGRouterRoutingInfoItem

variable (item : RsGRouterRoutingInfoItem)

/-- `RsGRouterRoutingInfoItem::serial_size`. -/
def serialSize : Nat :=
  8 + 16 + 4 + 4 + 8 + 8 + 8 + 4 + 4 + sha1Size + sha1Size + 4 + item.incomingRoutes.tlvSize 16 +
    item.dataItem.serialSize +
    item.receiptItem.elim 0 fun receiptItem => receiptItem.serialSize

/-- The bytes of the receipt, which is optional. -/
def receiptBytes : List UInt8 :=
  item.receiptItem.elim [] fun receiptItem => receiptItem.serialise

/-- What `RsGRouterRoutingInfoItem::serialise` writes. -/
def bytes : List UInt8 :=
  serialiseHeader rsPktSubtypeGRouterRoutingInfo item.serialSize ++
    (item.peerId ++ (setRaw 4 item.dataStatus ++ (setRaw 4 item.tunnelStatus ++
    (setRaw 8 item.receivedTimeTS ++ (setRaw 8 item.lastSentTS ++
    (setRaw 8 item.lastTunnelRequestTS ++ (setRaw 4 item.sendingAttempts ++
    (setRaw 4 item.clientId ++ (item.itemHash ++ (item.tunnelHash ++
    (setRaw 4 item.routingFlags ++ (tlvBytes tlvTypePeerset item.incomingRoutes.content ++
    (item.dataItem.serialise ++ item.receiptBytes)))))))))))))

/-- `RsGRouterRoutingInfoItem::serialise`, in a buffer of `serial_size` bytes: it fails unless it
comes exactly to the end. -/
def serialise : Option (List UInt8) :=
  if item.bytes.length = item.serialSize then some item.bytes else none

end RsGRouterRoutingInfoItem

/-- The items of the routing matrix, as what is written behind their headers. -/
inductive RsGRouterMatrixItem where
  | clues (content : List UInt8)
  | friendList (content : List UInt8)

/-- The items that are saved. -/
inductive RsGRouterSavedItem where
  | matrix (item : RsGRouterMatrixItem)
  | routingInfo (item : RsGRouterRoutingInfoItem)

def RsGRouterMatrixItem.serialise : RsGRouterMatrixItem → List UInt8
  | .clues content =>
      serialiseHeader rsPktSubtypeGRouterMatrixClues (8 + content.length) ++ content
  | .friendList content =>
      serialiseHeader rsPktSubtypeGRouterFriendsList (8 + content.length) ++ content

def RsGRouterSavedItem.serialise : RsGRouterSavedItem → Option (List UInt8)
  | .matrix item => some item.serialise
  | .routingInfo item => item.serialise

/-- `RsGRouterSerialiser::deserialise`, when the item is one of those that are saved.  What the
variable for the size of the data holds is given; the loop over the peers ends within the packet. -/
def RsGRouterSerialiser.deserialiseSaved (dataSize : Nat) (bytes : List UInt8) :
    Option RsGRouterSavedItem :=
  let data := Bytes.toMemory bytes
  let rstype := data.be32 0
  if rstype / 2 ^ 24 ≠ rsPktVersionService ∨ rstype / 2 ^ 8 % 2 ^ 16 ≠ rsServiceTypeGRouter then
    none
  else if rstype % 2 ^ 8 = rsPktSubtypeGRouterMatrixClues then
    some (.matrix (.clues (bytes.drop 8)))
  else if rstype % 2 ^ 8 = rsPktSubtypeGRouterFriendsList then
    some (.matrix (.friendList (bytes.drop 8)))
  else if rstype % 2 ^ 8 = rsPktSubtypeGRouterRoutingInfo then
    (deserialiseRsGRouterRoutingInfoItem data dataSize bytes.length bytes.length 0).value.join.map
      .routingInfo
  else
    none

/-- An item is written and read. -/
def RsGRouterSerialiser.store (dataSize : Nat) (item : RsGRouterSavedItem) :
    Option RsGRouterSavedItem :=
  item.serialise.bind (deserialiseSaved dataSize)

/-! ### Messages that can be pending -/

/-- The numbers of a message have the width of their fields.  The size of its item has it because
the data of a message is limited by `MAX_GROUTER_DATA_SIZE`. -/
structure RoutingInfo.Valid (info : RoutingInfo) : Prop where
  dataStatus : info.dataStatus < 2 ^ 32
  tunnelStatus : info.tunnelStatus < 2 ^ 32
  receivedTimeTS : info.receivedTimeTS < 2 ^ 64
  lastSentTS : info.lastSentTS < 2 ^ 64
  lastTunnelRequestTS : info.lastTunnelRequestTS < 2 ^ 64
  sendingAttempts : info.sendingAttempts < 2 ^ 32
  clientId : info.clientId < 2 ^ 32
  tunnelHash : info.tunnelHash.length = sha1Size
  routingFlags : info.routingFlags < 2 ^ 32
  incomingRoutes : info.incomingRoutes.Valid 16
  itemHash : info.itemHash.length = sha1Size
  dataItem : (RsGRouterAbstractMsgItem.data info.dataItem).WellFormed
  receiptItem : ∀ receiptItem, info.receiptItem = some receiptItem →
    (RsGRouterAbstractMsgItem.receipt receiptItem).WellFormed
  size : info.toItem.bytes.length < 2 ^ 32

/-- `_pending_messages`: every message is kept under the identifier of its data item. -/
structure PendingMessages where
  map : OrdMap GRouterMsgPropagationId RoutingInfo
  keyed : ∀ e ∈ map.toList, e.2.dataItem.routingId = e.1
  valid : ∀ e ∈ map.toList, e.2.Valid

namespace PendingMessages

/-- `p3GRouter::saveList`, after what the routing matrix saves. -/
def saveList (messages : PendingMessages) (matrixItems : List RsGRouterMatrixItem) :
    List RsGRouterSavedItem :=
  matrixItems.map .matrix ++ messages.map.toList.map fun e => .routingInfo e.2.toItem

/-- `p3GRouter::loadList` for an item. -/
def loadItem (messages : OrdMap GRouterMsgPropagationId RoutingInfo) :
    RsGRouterSavedItem → OrdMap GRouterMsgPropagationId RoutingInfo
  | .matrix _ => messages
  | .routingInfo item =>
      messages.insert item.dataItem.routingId { item.toInfo with tunnelStatus := 0 }

/-- `p3GRouter::loadList`, which forgets the messages there were. -/
def loadList (items : List RsGRouterSavedItem) : OrdMap GRouterMsgPropagationId RoutingInfo :=
  items.foldl loadItem OrdMap.empty

end PendingMessages

/-! ### What is written -/

/-- The item without the peers that its parts came from, which are not serialised. -/
def RsGRouterRoutingInfoItem.withoutPeers (item : RsGRouterRoutingInfoItem) :
    RsGRouterRoutingInfoItem :=
  { item with
    dataItem := { item.dataItem with peerId := 0 }
    receiptItem := item.receiptItem.map fun receiptItem => { receiptItem with peerId := 0 } }

/-- The message as it is restored: there are no tunnels and there is no transaction, and the peers
that the data item and the receipt came from are forgotten. -/
def RoutingInfo.restored (info : RoutingInfo) : RoutingInfo :=
  { info with
    tunnelStatus := 0
    dataItem := { info.dataItem with peerId := 0 }
    receiptItem := info.receiptItem.map fun receiptItem => { receiptItem with peerId := 0 }
    dataTransactionTS := 0 }

theorem length_serialise_data (item : RsGRouterGenericDataItem) :
  item.serialise.length = item.serialSize
  := (RsGRouterAbstractMsgItem.data item).length_serialise

theorem length_serialise_receipt (item : RsGRouterSignedReceiptItem) :
  item.serialise.length = item.serialSize
  := (RsGRouterAbstractMsgItem.receipt item).length_serialise

theorem RsGRouterRoutingInfoItem.length_receiptBytes (item : RsGRouterRoutingInfoItem) :
  item.receiptBytes.length = item.receiptItem.elim 0 fun receiptItem => receiptItem.serialSize
  := by
  rw [receiptBytes]
  cases item.receiptItem with
  | none => rfl
  | some receiptItem => exact length_serialise_receipt receiptItem

theorem RsGRouterRoutingInfoItem.length_bytes {item : RsGRouterRoutingInfoItem}
    (hpeerId : item.peerId.length = 16) (hitemHash : item.itemHash.length = sha1Size)
    (htunnelHash : item.tunnelHash.length = sha1Size) :
  item.bytes.length = 108 + (tlvBytes tlvTypePeerset item.incomingRoutes.content).length +
    item.dataItem.serialSize + item.receiptBytes.length
  := by
  simp only [bytes, serialiseHeader, List.length_append, length_setRaw, hpeerId, hitemHash,
    htunnelHash, sha1Size, length_serialise_data, ← Nat.add_assoc, Nat.reduceAdd]

variable {info : RoutingInfo} {data : Memory}

theorem RoutingInfo.length_bytes (hitemHash : info.itemHash.length = sha1Size)
    (htunnelHash : info.tunnelHash.length = sha1Size) :
  info.toItem.bytes.length = 108 + (tlvBytes tlvTypePeerset info.incomingRoutes.content).length +
    info.dataItem.serialSize + info.toItem.receiptBytes.length
  := RsGRouterRoutingInfoItem.length_bytes List.length_replicate hitemHash htunnelHash

section

variable {info : RoutingInfo} (h : info.Valid)

include h

theorem RoutingInfo.Valid.serialSize_eq :
  info.toItem.serialSize = info.toItem.bytes.length
  := by
  have hsize := h.size
  have hreceipt := info.toItem.length_receiptBytes
  have hroutes := h.incomingRoutes.length_content
  rw [RoutingInfo.length_bytes h.itemHash h.tunnelHash, length_tlvBytes] at hsize ⊢
  have htlv : info.incomingRoutes.tlvSize 16 =
      tlvHeaderSize + info.incomingRoutes.content.length := by
    rw [IdSet.tlvSize, ← hroutes, Nat.add_comm, Nat.mod_eq_of_lt (by omega)]
  rw [RsGRouterRoutingInfoItem.serialSize, ← hreceipt]
  change 8 + 16 + 4 + 4 + 8 + 8 + 8 + 4 + 4 + sha1Size + sha1Size + 4 +
    info.incomingRoutes.tlvSize 16 + info.dataItem.serialSize + _ = _
  rw [htlv, sha1Size]

theorem RoutingInfo.Valid.serialise_eq :
  info.toItem.serialise = some info.toItem.bytes
  := if_pos h.serialSize_eq.symm

end

/-! ### What is read -/

section

variable {data : Memory} {pktsize base : Nat} (hpktsize : pktsize < 2 ^ 32)

theorem hasBytes_shift (base p : Nat) (l : List UInt8) :
  HasBytes (shift data base) p l ↔ HasBytes data (base + p) l
  := by
  simp only [hasBytes_iff, shift, Nat.add_assoc]

theorem returns_advance {α : Type} (serialSize : α → Nat) (item : α) {p q : Nat}
    (hend : p + serialSize item = q) (hbound : q < 2 ^ 32) :
  Returns (advance serialSize (some item) : Dec Unit) p ⟨⟩ q
  := by
  have hadd : add32 p (serialSize item) = q := by
    rw [add32, hend, Nat.mod_eq_of_lt hbound]
  have hadvance : Returns (advance serialSize (some item) : Dec Unit) p ⟨⟩
      (add32 p (serialSize item)) := (returns_here p).bind (returns_seek _ p)
  rwa [hadd] at hadvance

include hpktsize

theorem returns_nested_data {item : RsGRouterGenericDataItem} (dataSize : Nat)
    (hbytes : HasBytes data base item.serialise)
    (hwell : (RsGRouterAbstractMsgItem.data item).WellFormed)
    (hroom : base + item.serialSize ≤ pktsize) :
  Returns
    (nested data pktsize fun memory size =>
      deserialiseRsGRouterGenericDataItem memory dataSize size) base
    (some { item with peerId := 0 }) base
  := by
  rw [← Nat.add_zero base, ← hasBytes_shift] at hbytes
  have hrest : item.serialSize ≤ pktsize - base := by omega
  obtain ⟨hdecoded, hitem⟩ := dataItem_of_hasBytes hbytes hwell hrest (by omega)
  obtain ⟨q, hvalue⟩ := returns_dataItem (shift data base) dataSize (pktsize - base)
  rw [if_pos hdecoded, hitem] at hvalue
  exact returns_nested (by omega) hpktsize hvalue

theorem returns_optionalReceipt {receiptItem : Option RsGRouterSignedReceiptItem}
    (hbytes : HasBytes data base (receiptItem.elim [] fun receiptItem => receiptItem.serialise))
    (hwell : ∀ item, receiptItem = some item → (RsGRouterAbstractMsgItem.receipt item).WellFormed)
    (hend : base + (receiptItem.elim 0 fun receiptItem => receiptItem.serialSize) = pktsize) :
  Returns (optionalReceipt data pktsize) base
    (true, receiptItem.map fun item => { item with peerId := 0 }) pktsize
  := by
  rw [optionalReceipt]
  apply (returns_here base).bind
  cases receiptItem with
  | none =>
    obtain rfl : base = pktsize := hend
    exact returns_ite_neg (lt_irrefl base) (returns_pure _ _)
  | some item =>
    change HasBytes data base item.serialise at hbytes
    change base + item.serialSize = pktsize at hend
    rw [← Nat.add_zero base, ← hasBytes_shift] at hbytes
    have hreceipt := receipt_of_hasBytes hbytes (hwell item rfl)
    have hpos : 60 ≤ item.serialSize := by
      rw [RsGRouterSignedReceiptItem.serialSize]
      omega
    have hrest : item.serialSize = pktsize - base := by omega
    rw [hrest] at hreceipt
    apply returns_ite_pos (by omega)
    apply (returns_nested (by omega) hpktsize hreceipt).bind
    apply (returns_advance RsGRouterSignedReceiptItem.serialSize
      { item with peerId := 0 } hend hpktsize).bind
    exact returns_pure _ _

theorem returns_routingInfoItems {item : RsGRouterRoutingInfoItem} (dataSize : Nat)
    (make : RsGRouterGenericDataItem → Option RsGRouterSignedReceiptItem → RsGRouterRoutingInfoItem)
    (hbytes : HasBytes data base (item.dataItem.serialise ++ item.receiptBytes))
    (hdata : (RsGRouterAbstractMsgItem.data item.dataItem).WellFormed)
    (hreceipt : ∀ receiptItem, item.receiptItem = some receiptItem →
      (RsGRouterAbstractMsgItem.receipt receiptItem).WellFormed)
    (hend : base + item.dataItem.serialSize + item.receiptBytes.length = pktsize) :
  Returns (routingInfoItems data dataSize pktsize true pktsize make) base
    (some (make item.withoutPeers.dataItem item.withoutPeers.receiptItem)) pktsize
  := by
  rw [hasBytes_append, length_serialise_data] at hbytes
  have hend' := hend
  rw [RsGRouterRoutingInfoItem.length_receiptBytes] at hend'
  rw [routingInfoItems]
  apply (returns_nested_data hpktsize dataSize hbytes.1 hdata (by omega)).bind
  apply (returns_advance RsGRouterGenericDataItem.serialSize
    { item.dataItem with peerId := 0 } rfl
    (lt_of_le_of_lt (by change base + item.dataItem.serialSize ≤ pktsize; omega) hpktsize)).bind
  apply (returns_optionalReceipt hpktsize hbytes.2 hreceipt hend').bind
  have hfinish := returns_finish true pktsize
    (make item.withoutPeers.dataItem item.withoutPeers.receiptItem) pktsize
  rw [if_neg (by simp)] at hfinish
  exact hfinish

end

theorem returns_peers (h : info.Valid) {pktsize : Nat} (hsize : pktsize < 2 ^ 32)
    (hbytes : HasBytes data 108 (tlvBytes tlvTypePeerset info.incomingRoutes.content))
    (hroom : 108 + (tlvHeaderSize + 16 * info.incomingRoutes.toList.length) + 16 ≤ pktsize) :
  Returns (rsTlvIdSetGetTlv data 16 tlvTypePeerset pktsize pktsize OrdMap.empty) 108
    (true, info.incomingRoutes)
    (108 + (tlvBytes tlvTypePeerset info.incomingRoutes.content).length)
  := by
  have hcontent := h.incomingRoutes.length_content
  apply returns_idSet h.incomingRoutes (by decide) (by decide) hbytes
  · rw [length_tlvBytes, hcontent]
    omega
  · exact hsize
  · rw [length_tlvBytes, hcontent]
    omega
  · omega

/-- An item that is written is read back, less the peers. -/
theorem RoutingInfo.Valid.returns (h : info.Valid) (hbytes : HasBytes data 0 info.toItem.bytes)
    (dataSize : Nat) :
  Returns
    (deserialiseRsGRouterRoutingInfoItem data dataSize info.toItem.bytes.length
      info.toItem.bytes.length) 0
    (some info.toItem.withoutPeers) info.toItem.bytes.length
  := by
  have hsize := h.size
  have hlength := RoutingInfo.length_bytes h.itemHash h.tunnelHash
  have hcontent := h.incomingRoutes.length_content
  have hserial := h.serialSize_eq
  generalize hpktsize : info.toItem.bytes.length = pktsize at hsize hlength hserial ⊢
  rw [length_tlvBytes, hcontent] at hlength
  simp only [RsGRouterRoutingInfoItem.bytes, serialiseHeader, RoutingInfo.toItem, hasBytes_append,
    length_setRaw, List.length_append, List.length_replicate, h.itemHash, h.tunnelHash, sha1Size,
    length_tlvBytes, hcontent, Nat.add_assoc, Nat.reduceAdd, Nat.zero_add] at hbytes
  obtain ⟨⟨-, hbsize⟩, hbpeer, hbstatus, hbtunnel, hbreceived, hbsent, hbrequest, hbattempts,
    hbclient, hbitem, hbhash, hbflags, hbroutes, hbdata, hbreceipt⟩ := hbytes
  have hrest : HasBytes data
      (108 + (tlvBytes tlvTypePeerset info.incomingRoutes.content).length)
      (info.toItem.dataItem.serialise ++ info.toItem.receiptBytes) := by
    rw [hasBytes_append, length_tlvBytes, hcontent, Nat.add_assoc, Nat.add_assoc]
    exact ⟨hbdata, hbreceipt⟩
  have hend : 108 + (tlvBytes tlvTypePeerset info.incomingRoutes.content).length +
      info.dataItem.serialSize + info.toItem.receiptBytes.length = pktsize := by
    rw [length_tlvBytes, hcontent]
    omega
  have hdata : 16 ≤ info.dataItem.serialSize := by
    rw [RsGRouterGenericDataItem.serialSize]
    omega
  rw [deserialiseRsGRouterRoutingInfoItem]
  apply (returns_seek 8 0).bind
  apply (returns_getRsItemSize data 8).bind
  apply (returns_getRaw_of_le hsize (by omega) _ _).bind
  apply (returns_getRaw_of_le hsize (by omega) _ _).bind
  apply (returns_getRaw_of_le hsize (by omega) _ _).bind
  apply (returns_getRaw_of_le hsize (by omega) _ _).bind
  apply (returns_getRaw_of_le hsize (by omega) _ _).bind
  apply (returns_getRaw_of_le hsize (by omega) _ _).bind
  apply (returns_getRaw_of_le hsize (by omega) _ _).bind
  apply (returns_getRaw_of_le hsize (by omega) _ _).bind
  apply (returns_getRaw_of_le hsize (by simp only [sha1Size]; omega) _ _).bind
  apply (returns_getRaw_of_le hsize (by simp only [sha1Size]; omega) _ _).bind
  apply (returns_getRaw_of_le hsize (by simp only [sha1Size]; omega) _ _).bind
  apply (returns_peers h hsize hbroutes (by omega)).bind
  have hitems := returns_routingInfoItems hsize dataSize
    (fun dataItem receiptItem =>
      { info.toItem with dataItem := dataItem, receiptItem := receiptItem })
    hrest h.dataItem h.receiptItem hend
  have hheader : data.be32 4 = pktsize :=
    (be32_of_hasBytes hbsize (hserial.trans_lt hsize)).trans hserial
  have hitemHash : data.read 64 20 = info.itemHash := read_of_hasBytes hbitem h.itemHash
  have htunnelHash : data.read 84 20 = info.tunnelHash := read_of_hasBytes hbhash h.tunnelHash
  simp only [Nat.reduceAdd, sha1Size, hheader, hitemHash, htunnelHash, Bool.and_self,
    read_of_hasBytes hbpeer List.length_replicate, be32_of_hasBytes hbstatus h.dataStatus,
    be32_of_hasBytes hbtunnel h.tunnelStatus, be64_of_hasBytes hbreceived h.receivedTimeTS,
    be64_of_hasBytes hbsent h.lastSentTS, be64_of_hasBytes hbrequest h.lastTunnelRequestTS,
    be32_of_hasBytes hbattempts h.sendingAttempts, be32_of_hasBytes hbclient h.clientId,
    be32_of_hasBytes hbflags h.routingFlags]
  exact hitems

/-! ### Restarts -/

theorem length_serialiseHeader (subtype size : Nat) :
  (serialiseHeader subtype size).length = 8
  := by
  rw [serialiseHeader, List.length_append, length_setRaw, length_setRaw]

theorem be32_serialiseHeader {subtype size : Nat} (hsubtype : subtype < 256)
    (content : List UInt8) :
  (Bytes.toMemory (serialiseHeader subtype size ++ content)).be32 0 =
    rsPktVersionService * 2 ^ 24 + rsServiceTypeGRouter * 2 ^ 8 + subtype
  := by
  have hbytes := hasBytes_toMemory (serialiseHeader subtype size ++ content)
  rw [hasBytes_append, serialiseHeader, hasBytes_append] at hbytes
  apply be32_of_hasBytes hbytes.1.1
  simp only [rsPktVersionService, rsServiceTypeGRouter]
  omega

open RsGRouterSerialiser PendingMessages

variable (dataSize : Nat)

theorem store_matrix (item : RsGRouterMatrixItem) :
  store dataSize (.matrix item) = some (.matrix item)
  := by
  rw [store, RsGRouterSavedItem.serialise, Option.bind_some, deserialiseSaved]
  cases item with
  | clues content =>
    rw [RsGRouterMatrixItem.serialise]
    simp only [be32_serialiseHeader (show rsPktSubtypeGRouterMatrixClues < 256 by decide)]
    rw [if_neg (by decide), if_pos (by decide),
      List.drop_left' (length_serialiseHeader rsPktSubtypeGRouterMatrixClues _)]
  | friendList content =>
    rw [RsGRouterMatrixItem.serialise]
    simp only [be32_serialiseHeader (show rsPktSubtypeGRouterFriendsList < 256 by decide)]
    rw [if_neg (by decide), if_neg (by decide), if_pos (by decide),
      List.drop_left' (length_serialiseHeader rsPktSubtypeGRouterFriendsList _)]

/-- A message that is saved comes back, less the peers. -/
theorem store_routingInfo (h : info.Valid) :
  store dataSize (.routingInfo info.toItem) = some (.routingInfo info.toItem.withoutPeers)
  := by
  have hvalue := (h.returns (hasBytes_toMemory _) dataSize).1
  have htype : (Bytes.toMemory info.toItem.bytes).be32 0 = _ :=
    be32_serialiseHeader (show rsPktSubtypeGRouterRoutingInfo < 256 by decide) _
  change info.toItem.serialise.bind (deserialiseSaved dataSize) = _
  rw [h.serialise_eq, Option.bind_some, deserialiseSaved]
  simp only [htype, hvalue]
  rfl

theorem foldl_loadItem_matrix (matrixItems : List RsGRouterMatrixItem)
    (map : OrdMap GRouterMsgPropagationId RoutingInfo) :
  ((matrixItems.map RsGRouterSavedItem.matrix).filterMap (store dataSize)).foldl loadItem map = map
  := by
  induction matrixItems with
  | nil => rfl
  | cons item matrixItems ih =>
    rw [List.map_cons, List.filterMap_cons_some (store_matrix dataSize item), List.foldl_cons]
    exact ih

/-- Every saved message is put back under its identifier. -/
theorem foldl_loadItem_routingInfo {entries : List (GRouterMsgPropagationId × RoutingInfo)}
    (hkeyed : ∀ e ∈ entries, e.2.dataItem.routingId = e.1) (hvalid : ∀ e ∈ entries, e.2.Valid)
    (map : OrdMap GRouterMsgPropagationId RoutingInfo) :
  ((entries.map fun e => RsGRouterSavedItem.routingInfo e.2.toItem).filterMap
      (store dataSize)).foldl loadItem map =
    (entries.map fun e => (e.1, e.2.restored)).foldl (fun acc e => acc.insert e.1 e.2) map
  := by
  induction entries generalizing map with
  | nil => rfl
  | cons e entries ih =>
    rw [List.forall_mem_cons] at hkeyed hvalid
    rw [List.map_cons, List.filterMap_cons_some (store_routingInfo dataSize hvalid.1),
      List.foldl_cons, ih hkeyed.2 hvalid.2, List.map_cons, List.foldl_cons, ← hkeyed.1]
    rfl

theorem loadList_store_saveList (messages : PendingMessages)
    (matrixItems : List RsGRouterMatrixItem) (dataSize : Nat) :
  loadList ((messages.saveList matrixItems).filterMap (store dataSize)) =
    messages.map.map fun _ info => info.restored
  := by
  rw [saveList, List.filterMap_append, loadList, List.foldl_append, foldl_loadItem_matrix,
    foldl_loadItem_routingInfo dataSize messages.keyed messages.valid]
  exact (messages.map.map fun _ info => info.restored).foldl_insert_toList

/-- For every map of pending messages, and whatever the routing matrix saves, loading what was
written and read restores the same entries, equal but for the status of the tunnels, the time of the
transaction and the peers that the items came from. -/
theorem get?_loadList_saveList (messages : PendingMessages) (matrixItems : List RsGRouterMatrixItem)
    (dataSize : Nat) (mid : GRouterMsgPropagationId) :
  (loadList ((messages.saveList matrixItems).filterMap (store dataSize))).get? mid =
    (messages.map.get? mid).map RoutingInfo.restored
  := by
  rw [loadList_store_saveList, OrdMap.get?_map]

/-! ### The peers of the items -/

/-- The message without its tunnels and its transaction. -/
def RoutingInfo.atRest (info : RoutingInfo) : RoutingInfo :=
  { info with tunnelStatus := 0, dataTransactionTS := 0 }

/-- An item of no bytes that came from the peer `1`, with a signature of no bytes. -/
def itemOfFriend : RsGRouterGenericDataItem where
  peerId := 1
  routingId := 7
  destinationKey := 0
  serviceId := 0
  signature := ⟨0, []⟩
  flags := 0
  dataBytes := []
  randomizedDistance := 0

/-- A message that has come from a friend. -/
def messageOfFriend : RoutingInfo where
  dataStatus := 1
  tunnelStatus := 0
  receivedTimeTS := 0
  lastSentTS := 0
  lastTunnelRequestTS := 0
  sendingAttempts := 0
  clientId := 0
  tunnelHash := List.replicate 20 0
  routingFlags := 2
  dataItem := itemOfFriend
  receiptItem := none
  incomingRoutes := OrdMap.empty
  itemHash := List.replicate 20 0
  dataTransactionTS := 0

theorem valid_messageOfFriend :
  messageOfFriend.Valid
  := by
  constructor
  case incomingRoutes => rintro id ⟨⟩
  case receiptItem => rintro receiptItem ⟨⟩
  case size =>
    rw [RoutingInfo.length_bytes rfl rfl, length_tlvBytes]
    decide
  case dataItem => exact ⟨by decide, by decide, by decide, by decide, by decide, by decide⟩
  all_goals decide

/-- The map of this message. -/
def messagesOfFriend : PendingMessages where
  map := OrdMap.empty.insert 7 messageOfFriend
  keyed := by
    rintro e he
    rw [List.mem_singleton.1 he]
    rfl
  valid := by
    rintro e he
    rw [List.mem_singleton.1 he]
    exact valid_messageOfFriend

/-- The item of this message forgets its peer. -/
theorem not_atRest_messagesOfFriend :
  ((loadList ((messagesOfFriend.saveList []).filterMap (store 0))).get? 7).map RoutingInfo.atRest ≠
    (messagesOfFriend.map.get? 7).map RoutingInfo.atRest
  := by
  rw [loadList_store_saveList, OrdMap.get?_map]
  intro h
  have hpeer := congrArg (Option.map fun info : RoutingInfo => info.dataItem.peerId) h
  exact absurd hpeer (by decide)

end GRouter
