import RetroShare.GRouter.Router
import RetroShare.Serialiser.TlvItems

/-!
# The packets of the global router

The decoders of `grouteritems.cc`, and that of `RsTurtleGenericDataItem`, the item that carries
the packets of the router through a tunnel.  The packet lies in the memory `data` from address
`0` on and has `pktsize` bytes.

The size fields of the items are not initialised by their constructors: what such a field holds
before it is decoded is a parameter.  Fields that were not decoded are `0` otherwise, as the
item is dropped then.
-/

namespace GRouter

open Serialiser Decoder

/-- The memory from `base` on, `&((uint8_t*)data)[base]`. -/
def shift (data : Memory) (base : Nat) : Memory := fun a => data (base + a)

/-- The bytes that are read from `base` on. -/
def shiftEvent (base : Nat) : Serialiser.Event → Serialiser.Event
  | .read p n => .read (base + p) n
  | e => e

variable (data : Memory)

/-- `getRsItemSize`: the size that the header of the packet gives. -/
def getRsItemSize : Dec Nat := do
  tell (.read 4 4)
  pure (data.be32 4)

/-- `memcpy` of the next `n` bytes of the packet. -/
def copyBytes (n : Nat) : Dec (List UInt8) := do
  let offset ← here
  tell (.read offset n)
  seek (add32 offset n)
  pure (data.read offset n)

/-- The end of a decoder: the item is dropped unless every part was decoded and the header
gives the size that has been decoded. -/
def finish {α : Type} (ok : Bool) (rssize : Nat) (item : α) : Dec (Option α) := do
  let offset ← here
  pure (if offset ≠ rssize ∨ ok = false then none else some item)

/-! ### Data in tunnels -/

/-- `RsTurtleGenericDataItem`. -/
structure RsTurtleGenericDataItem where
  tunnelId : Nat
  dataBytes : List UInt8
  deriving DecidableEq

/-- `RsTurtleGenericDataItem::RsTurtleGenericDataItem(data, pktsize)`; without an item, the
constructor throws. -/
def RsTurtleGenericDataItem.ofPacket (dataSize pktsize : Nat) :
    Dec (Option RsTurtleGenericDataItem) := do
  seek 8
  let rssize ← getRsItemSize data
  let tunnelId ← getRawUInt32 data pktsize 0
  let size ← getRawUInt32 data pktsize dataSize
  let dataBytes ← copyBytes data size.2
  finish (tunnelId.1 && size.1) rssize ⟨tunnelId.2, dataBytes⟩

/-! ### Chunks -/

/-- `RsGRouterTransactionChunkItem`; `chunk_size` is the number of bytes of `chunkData`. -/
structure RsGRouterTransactionChunkItem where
  propagationId : GRouterMsgPropagationId
  chunkStart : Nat
  totalSize : Nat
  chunkData : List UInt8
  deriving DecidableEq

/-- `deserialise_RsGRouterTransactionChunkItem`. -/
def deserialiseRsGRouterTransactionChunkItem (chunkSize tlvsize : Nat) :
    Dec (Option RsGRouterTransactionChunkItem) := do
  seek 8
  let rssize ← getRsItemSize data
  let propagationId ← getRawUInt64 data tlvsize 0
  let chunkStart ← getRawUInt32 data tlvsize 0
  let size ← getRawUInt32 data tlvsize chunkSize
  let totalSize ← getRawUInt32 data tlvsize 0
  let offset ← here
  if rssize < add32 size.2 offset then
    pure none
  else do
    let chunkData ← copyBytes data size.2
    finish (propagationId.1 && chunkStart.1 && size.1 && totalSize.1) rssize
      ⟨propagationId.2, chunkStart.2, totalSize.2, chunkData⟩

/-! ### Messages -/

/-- The signature that `RsTlvKeySignature::GetTlv` has decoded. -/
def RsTlvKeySignature.ofTlv (signature : Serialiser.RsTlvKeySignature) : RsTlvKeySignature :=
  ⟨idValue signature.keyId, signature.signData.binData⟩

/-- `RsTlvKeySignature::TlvSize`. -/
def RsTlvKeySignature.tlvSize (signature : RsTlvKeySignature) : Nat :=
  tlvHeaderSize + (tlvHeaderSize + 32) + (tlvHeaderSize + signature.signData.length)

/-- `RsGRouterGenericDataItem::serial_size`. -/
def RsGRouterGenericDataItem.serialSize (item : RsGRouterGenericDataItem) : Nat :=
  8 + 8 + 16 + 4 + 4 + item.dataBytes.length + item.signature.tlvSize + 4 + 4

/-- `RsGRouterSignedReceiptItem::serial_size`. -/
def RsGRouterSignedReceiptItem.serialSize (item : RsGRouterSignedReceiptItem) : Nat :=
  8 + 8 + 16 + 20 + 4 + 4 + item.signature.tlvSize

/-- `deserialise_RsGRouterGenericDataItem`. -/
def deserialiseRsGRouterGenericDataItem (dataSize pktsize : Nat) :
    Dec (Option RsGRouterGenericDataItem) := do
  seek 8
  let rssize ← getRsItemSize data
  let routingId ← getRawUInt64 data pktsize 0
  let destinationKey ← deserialiseId data 16 pktsize []
  let serviceId ← getRawUInt32 data pktsize 0
  let size ← getRawUInt32 data pktsize dataSize
  let offset ← here
  if rssize < add32 size.2 offset then
    pure none
  else do
    let dataBytes ← copyBytes data size.2
    let signature ← Serialiser.RsTlvKeySignature.getTlv data pktsize
      Serialiser.RsTlvKeySignature.new
    let randomizedDistance ← getRawUInt32 data pktsize 0
    let flags ← getRawUInt32 data pktsize 0
    finish
      (routingId.1 && destinationKey.1 && serviceId.1 && size.1 && signature.1 &&
        randomizedDistance.1 && flags.1)
      rssize
      { peerId := 0
        routingId := routingId.2
        destinationKey := idValue destinationKey.2
        serviceId := serviceId.2
        signature := .ofTlv signature.2
        flags := UInt32.ofNat flags.2
        dataBytes := dataBytes
        randomizedDistance := randomizedDistance.2 }

/-- `deserialise_RsGRouterSignedReceiptItem`. -/
def deserialiseRsGRouterSignedReceiptItem (pktsize : Nat) :
    Dec (Option RsGRouterSignedReceiptItem) := do
  seek 8
  let rssize ← getRsItemSize data
  let routingId ← getRawUInt64 data pktsize 0
  let flags ← getRawUInt32 data pktsize 0
  let destinationKey ← deserialiseId data 16 pktsize []
  let serviceId ← getRawUInt32 data pktsize 0
  let dataHash ← deserialiseId data sha1Size pktsize []
  let signature ← Serialiser.RsTlvKeySignature.getTlv data pktsize
    Serialiser.RsTlvKeySignature.new
  finish
    (routingId.1 && flags.1 && destinationKey.1 && serviceId.1 && dataHash.1 && signature.1)
    rssize
    { peerId := 0
      routingId := routingId.2
      destinationKey := idValue destinationKey.2
      serviceId := serviceId.2
      signature := .ofTlv signature.2
      flags := UInt32.ofNat flags.2
      dataHash := idValue dataHash.2 }

/-! ### Saved messages -/

/-- `TLV_TYPE_PEERSET`. -/
def tlvTypePeerset : Nat := 0x1021

/-- `RsGRouterRoutingInfoItem`. -/
structure RsGRouterRoutingInfoItem where
  peerId : List UInt8
  dataStatus : Nat
  tunnelStatus : Nat
  receivedTimeTS : Nat
  lastSentTS : Nat
  lastTunnelRequestTS : Nat
  sendingAttempts : Nat
  clientId : GRouterServiceId
  itemHash : List UInt8
  tunnelHash : List UInt8
  routingFlags : Nat
  incomingRoutes : IdSet
  dataItem : RsGRouterGenericDataItem
  receiptItem : Option RsGRouterSignedReceiptItem

/-- Decodes an item from the offset on, with the rest of the packet as its own; the offset is
kept. -/
def nested {α : Type} (pktsize : Nat) (decode : Memory → Nat → Dec α) : Dec α := do
  let offset ← here
  scope (shiftEvent offset) 0 (decode (shift data offset) (sub32 pktsize offset))

/-- The offset is moved by the size of an item, when there is one. -/
def advance {α : Type} (serialSize : α → Nat) : Option α → Dec Unit
  | some item => do
      let offset ← here
      seek (add32 offset (serialSize item))
  | none => pure ⟨⟩

/-- The receipt at the end of a saved message, which is optional: whether all went well, and
the receipt. -/
def optionalReceipt (pktsize : Nat) : Dec (Bool × Option RsGRouterSignedReceiptItem) := do
  let offset ← here
  if offset < pktsize then do
    let receiptItem ← nested data pktsize deserialiseRsGRouterSignedReceiptItem
    advance RsGRouterSignedReceiptItem.serialSize receiptItem
    pure (receiptItem.isSome, receiptItem)
  else
    pure (true, none)

/-- The items at the end of a saved message, and the end of its decoder: `ok` and `make` are what
came before. -/
def routingInfoItems (dataSize pktsize : Nat) (ok : Bool) (rssize : Nat)
    (make : RsGRouterGenericDataItem → Option RsGRouterSignedReceiptItem →
      RsGRouterRoutingInfoItem) : Dec (Option RsGRouterRoutingInfoItem) := do
  let dataItem ← nested data pktsize fun memory size =>
    deserialiseRsGRouterGenericDataItem memory dataSize size
  advance RsGRouterGenericDataItem.serialSize dataItem
  let receiptItem ← optionalReceipt data pktsize
  match dataItem with
  | none => pure none
  | some dataItem => finish (ok && receiptItem.1) rssize (make dataItem receiptItem.2)

/-- `deserialise_RsGRouterRoutingInfoItem`, with `fuel` iterations for the set of peers. -/
def deserialiseRsGRouterRoutingInfoItem (dataSize fuel pktsize : Nat) :
    Dec (Option RsGRouterRoutingInfoItem) := do
  seek 8
  let rssize ← getRsItemSize data
  let peerId ← deserialiseId data 16 pktsize []
  let dataStatus ← getRawUInt32 data pktsize 0
  let tunnelStatus ← getRawUInt32 data pktsize 0
  let receivedTimeTS ← getRawUInt64 data pktsize 0
  let lastSentTS ← getRawUInt64 data pktsize 0
  let lastTunnelRequestTS ← getRawUInt64 data pktsize 0
  let sendingAttempts ← getRawUInt32 data pktsize 0
  let clientId ← getRawUInt32 data pktsize 0
  let itemHash ← deserialiseId data sha1Size pktsize []
  let tunnelHash ← deserialiseId data sha1Size pktsize []
  let routingFlags ← getRawUInt32 data pktsize 0
  let incomingRoutes ← rsTlvIdSetGetTlv data 16 tlvTypePeerset fuel pktsize OrdMap.empty
  let ok := peerId.1 && dataStatus.1 && tunnelStatus.1 && receivedTimeTS.1 && lastSentTS.1 &&
    lastTunnelRequestTS.1 && sendingAttempts.1 && clientId.1 && itemHash.1 && tunnelHash.1 &&
    routingFlags.1 && incomingRoutes.1
  routingInfoItems data dataSize pktsize ok rssize fun dataItem receiptItem =>
    { peerId := peerId.2
      dataStatus := dataStatus.2
      tunnelStatus := tunnelStatus.2
      receivedTimeTS := receivedTimeTS.2
      lastSentTS := lastSentTS.2
      lastTunnelRequestTS := lastTunnelRequestTS.2
      sendingAttempts := sendingAttempts.2
      clientId := clientId.2
      itemHash := itemHash.2
      tunnelHash := tunnelHash.2
      routingFlags := routingFlags.2
      incomingRoutes := incomingRoutes.2
      dataItem := dataItem
      receiptItem := receiptItem }

end GRouter
