import Mathlib.Data.List.Infix
import RetroShare.Lib.Bytes
import RetroShare.Lib.Decoder

/-!
# Raw and TLV decoders

The decoders of `rsbaseserial.cc`, `rstlvbase.cc` and `rstlvbinary.cc`, over a memory `data`.
Offsets, sizes and lengths are 32-bit numbers: `add32` is their sum, which wraps.  A decoder
returns whether it succeeded, and the new content of the variable it fills.

Every `memcpy` out of the buffer is logged as a `read` with the position and the number of
bytes, whether or not these lie in the buffer.  The loops of the containers log the offsets at
which their iterations start and end.
-/

namespace Serialiser

/-- The loops over the content of a container, by the class of the container. -/
inductive Loop where
  | idSet
  | fileItem
  | fileSet
  | serviceIdSet
  | stringSet
  | securityKeySet
  | keySignatureSet
  | tlvList
  deriving DecidableEq, Repr

/-- What a decoder does. -/
inductive Event where
  /-- `n` bytes are read from position `p` on. -/
  | read (p n : Nat)
  /-- An iteration of a loop starts at the offset `p`. -/
  | enter (l : Loop) (p : Nat)
  /-- A successful iteration that started at the offset `p` ends at `q`. -/
  | leave (l : Loop) (p q : Nat)
  deriving DecidableEq, Repr

/-- A decoder of this module. -/
abbrev Dec : Type → Type := Decoder Event

/-- The sum of `uint32_t` numbers. -/
def add32 (a b : Nat) : Nat := (a + b) % 2 ^ 32

/-- The difference of `uint32_t` numbers. -/
def sub32 (a b : Nat) : Nat := (a + 2 ^ 32 - b) % 2 ^ 32

open Decoder

variable (data : Memory)

/-! ### Raw numbers and strings -/

/-- `getRawUInt8` and its siblings: `n` bytes, which hold the number `value`. -/
def getRawUInt (n : Nat) (value : Nat → Nat) (size old : Nat) : Dec (Bool × Nat) := do
  let offset ← here
  if size < add32 offset n then
    pure (false, old)
  else do
    tell (.read offset n)
    seek (add32 offset n)
    pure (true, value offset)

/-- `getRawUInt8`. -/
def getRawUInt8 : Nat → Nat → Dec (Bool × Nat) := getRawUInt 1 fun p => (data p).toNat

/-- `getRawUInt16`. -/
def getRawUInt16 : Nat → Nat → Dec (Bool × Nat) := getRawUInt 2 data.be16

/-- `getRawUInt32`. -/
def getRawUInt32 : Nat → Nat → Dec (Bool × Nat) := getRawUInt 4 data.be32

/-- `getRawUInt64`. -/
def getRawUInt64 : Nat → Nat → Dec (Bool × Nat) := getRawUInt 8 data.be64

/-- `getRawString`: the bytes are appended to `outStr`. -/
def getRawString (size : Nat) (outStr : List UInt8) : Dec (Bool × List UInt8) := do
  let len ← getRawUInt32 data size 0
  if len.1 then do
    let offset ← here
    if size < add32 offset len.2 then
      pure (false, outStr)
    else do
      tell (.read offset len.2)
      seek (add32 offset len.2)
      pure (true, outStr ++ data.read offset len.2)
  else
    pure (false, outStr)

/-- `t_RsGenericIdType::deserialise`, of an id of `n` bytes. -/
def deserialiseId (n size : Nat) (old : List UInt8) : Dec (Bool × List UInt8) := do
  let offset ← here
  if size < add32 offset n then
    pure (false, old)
  else do
    tell (.read offset n)
    seek (add32 offset n)
    pure (true, data.read offset n)

/-- Numbers and ids are decoded in the same way, but for the value. -/
def getRaw {α : Type} (n : Nat) (value : Nat → α) (size : Nat) (old : α) : Dec (Bool × α) := do
  let offset ← here
  if size < add32 offset n then
    pure (false, old)
  else do
    tell (.read offset n)
    seek (add32 offset n)
    pure (true, value offset)

theorem getRawUInt_eq (n : Nat) (value : Nat → Nat) (size old : Nat) :
  getRawUInt n value size old = getRaw n value size old
  := rfl

theorem deserialiseId_eq (n size : Nat) (old : List UInt8) :
  deserialiseId data n size old = getRaw n (fun p => data.read p n) size old
  := rfl

/-! ### Headers -/

/-- `TLV_HEADER_SIZE`. -/
def tlvHeaderSize : Nat := 6

/-- `GetTlvType`. -/
def getTlvType (tlvstart : Nat) : Dec Nat := do
  tell (.read tlvstart 2)
  pure (data.be16 tlvstart)

/-- `GetTlvSize`. -/
def getTlvSize (tlvstart : Nat) : Dec Nat := do
  tell (.read (tlvstart + 2) 4)
  pure (data.be32 (tlvstart + 2))

/-- `SkipUnknownTlv`. -/
def skipUnknownTlv (size : Nat) : Dec Bool := do
  let offset ← here
  if size < add32 offset tlvHeaderSize then
    pure false
  else do
    let tlvsize ← getTlvSize data offset
    if size < add32 offset tlvsize then
      pure false
    else do
      seek (add32 offset tlvsize)
      pure true

/-- The head of a decoder of an item of type `type`, from the check of its size on.  The
content is decoded up to `tlvend`; before that, `old` is kept. -/
def withTlvHeader {α : Type} (type size : Nat) (old : α) (content : Nat → Dec (Bool × α)) :
    Dec (Bool × α) := do
  let offset ← here
  let tlvtype ← getTlvType data offset
  let tlvsize ← getTlvSize data offset
  if size < add32 offset tlvsize then
    pure (false, old)
  else if tlvtype ≠ type then
    pure (false, old)
  else do
    seek (add32 offset tlvHeaderSize)
    content (add32 offset tlvsize)

/-- The decoder of an item that checks that there is room for a header first. -/
def withTlv {α : Type} (type size : Nat) (old : α) (content : Nat → Dec (Bool × α)) :
    Dec (Bool × α) := do
  let offset ← here
  if size < add32 offset tlvHeaderSize then
    pure (false, old)
  else
    withTlvHeader data type size old content

/-- The end of an item: `*offset = tlvend`, whatever has been decoded. -/
def closeTlv {α : Type} (content : Nat → Dec (Bool × α)) (tlvend : Nat) : Dec (Bool × α) := do
  let r ← content tlvend
  seek tlvend
  pure r

/-! ### Numbers, strings and addresses -/

/-- `GetTlvUInt16`. -/
def getTlvUInt16 (size type old : Nat) : Dec (Bool × Nat) :=
  withTlv data type size old fun tlvend => getRawUInt16 data tlvend old

/-- `GetTlvUInt32`. -/
def getTlvUInt32 (size type old : Nat) : Dec (Bool × Nat) :=
  withTlv data type size old fun tlvend => getRawUInt32 data tlvend old

/-- `GetTlvUInt64`. -/
def getTlvUInt64 (size type old : Nat) : Dec (Bool × Nat) :=
  withTlv data type size old fun tlvend => getRawUInt64 data tlvend old

/-- The bytes of an ASCII string. -/
def ascii (s : String) : List UInt8 := s.toList.map fun c => UInt8.ofNat c.toNat

/-- `suspiscious_strings` of `GetTlvString`. -/
def suspiciousStrings : List (List UInt8) := ["<!e", "<!E", "PD94bW", "PHN2Zy"].map ascii

/-- `err_in` of `GetTlvString`. -/
def errIn : List UInt8 := ascii "**** String removed (SVG bomb?) ****"

/-- A string that contains a suspicious one is overwritten, keeping its length. -/
def removeSuspicious (s : List UInt8) : List UInt8 :=
  if suspiciousStrings.any fun t => decide (t <:+: s) then
    (List.range s.length).map fun k => errIn.getD k 0x20
  else
    s

/-- The types of strings whose control characters are replaced: `0`, `TLV_TYPE_STR_PEERID`,
`TLV_TYPE_STR_NAME`, `TLV_TYPE_STR_PATH`, `TLV_TYPE_STR_TITLE`, `TLV_TYPE_STR_SUBJECT`,
`TLV_TYPE_STR_LOCATION` and `TLV_TYPE_STR_VERSION`. -/
def singleLineTypes : List Nat := [0, 0x50, 0x51, 0x52, 0x56, 0x58, 0x5c, 0x5f]

/-- Control characters other than `0` are turned into spaces. -/
def replaceControl (s : List UInt8) : List UInt8 :=
  s.map fun c => if c < 0x20 ∧ 0 < c then 0x20 else c

/-- What `GetTlvString` makes of the bytes of a string of type `type`. -/
def sanitise (type : Nat) (s : List UInt8) : List UInt8 :=
  if type ∈ singleLineTypes then replaceControl (removeSuspicious s) else removeSuspicious s

/-- `GetTlvString`. -/
def getTlvString (size type : Nat) (old : List UInt8) : Dec (Bool × List UInt8) := do
  let offset ← here
  if size < offset then
    pure (false, old)
  else do
    let tlvtype ← getTlvType data offset
    let tlvsize ← getTlvSize data offset
    if size < add32 offset tlvsize then
      pure (false, old)
    else if type ≠ tlvtype then
      pure (false, old)
    else do
      let strsize := sub32 tlvsize tlvHeaderSize
      tell (.read (offset + tlvHeaderSize) strsize)
      seek (add32 offset tlvsize)
      pure (true, sanitise type (data.read (offset + tlvHeaderSize) strsize))

/-- An address and a port, as they are decoded. -/
structure SockAddr where
  family : Nat
  ip : List Nat
  port : Nat
  deriving DecidableEq, Repr

/-- `AF_INET`. -/
def afInet : Nat := 2

/-- `AF_INET6`. -/
def afInet6 : Nat := 10

/-- `GetTlvIpAddrPortV4`. -/
def getTlvIpAddrPortV4 (size type : Nat) (old : SockAddr) : Dec (Bool × SockAddr) :=
  withTlv data type size old fun tlvend => do
    let ipaddr ← getRawUInt32 data tlvend 0
    let port ← getRawUInt16 data tlvend 0
    pure (ipaddr.1 && port.1, ⟨afInet, [ipaddr.2], port.2⟩)

/-- `GetTlvIpAddrPortV6`. -/
def getTlvIpAddrPortV6 (size type : Nat) (old : SockAddr) : Dec (Bool × SockAddr) :=
  withTlv data type size old fun tlvend => do
    let ip0 ← getRawUInt32 data tlvend (old.ip.getD 0 0)
    let ip1 ← getRawUInt32 data tlvend (old.ip.getD 1 0)
    let ip2 ← getRawUInt32 data tlvend (old.ip.getD 2 0)
    let ip3 ← getRawUInt32 data tlvend (old.ip.getD 3 0)
    let port ← getRawUInt16 data tlvend old.port
    pure (ip0.1 && ip1.1 && ip2.1 && ip3.1 && port.1,
      ⟨afInet6, [ip0.2, ip1.2, ip2.2, ip3.2], port.2⟩)

/-! ### Binary data -/

/-- `RsTlvBinaryData`. -/
structure RsTlvBinaryData where
  tlvtype : Nat
  binData : List UInt8
  deriving DecidableEq, Repr

/-- `RsTlvBinaryData::GetTlv`. -/
def RsTlvBinaryData.getTlv (self : RsTlvBinaryData) (size : Nat) :
    Dec (Bool × RsTlvBinaryData) := do
  let offset ← here
  if size < add32 offset tlvHeaderSize then
    pure (false, self)
  else do
    let tlvtypeIn ← getTlvType data offset
    let tlvsize ← getTlvSize data offset
    if size < add32 offset tlvsize then
      pure (false, self)
    else if tlvsize < tlvHeaderSize then
      pure (false, self)
    else if self.tlvtype ≠ tlvtypeIn then
      pure (false, self)
    else do
      let start := add32 offset tlvHeaderSize
      tell (.read start (tlvsize - tlvHeaderSize))
      seek (add32 offset tlvsize)
      pure (true, { self with binData := data.read start (tlvsize - tlvHeaderSize) })

end Serialiser
