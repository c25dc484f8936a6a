import RetroShare.GRouter.Items
import RetroShare.Serialiser.Bounds

/-!
# Where the decoders of the router read

The decoders of the global router and of `RsTurtleGenericDataItem` copy as many bytes out of a
packet as a length field says, and compare this length with the size in the header or with
nothing, but not with the size of the packet.  For each of them there is a condition on the
bytes of the packet, such as `TurtleDataSafe`, under which it only reads bytes of the packet,
and without which it reads beyond.
-/

namespace GRouter

open Serialiser Decoder

/-! ### Fields -/

/-- The offset after a field of `n` bytes at `p`, which is left out when there is no room. -/
def fieldEnd (pktsize p n : Nat) : Nat := if p + n ≤ pktsize then p + n else p

/-- The offset after fields of the given widths. -/
def fieldsEnd (pktsize p : Nat) (widths : List Nat) : Nat := widths.foldl (fieldEnd pktsize) p

/-- The number that is decoded at `p`, which is `old` when there is no room. -/
def field32 (data : Memory) (pktsize p old : Nat) : Nat :=
  if p + 4 ≤ pktsize then data.be32 p else old

variable {data : Memory} {lim bound p n type pktsize base q : Nat} {α : Type}
  {content : Nat → Dec (Bool × α)} (widths : List Nat) {a : Bool × α} {old : α}

theorem fieldEnd_le_add (pktsize p n : Nat) :
  fieldEnd pktsize p n ≤ p + n
  := by
  rw [fieldEnd]
  split <;> omega

theorem fieldEnd_le (n : Nat) (hp : p ≤ lim) :
  fieldEnd lim p n ≤ lim
  := by
  rw [fieldEnd]
  split <;> omega

theorem fieldsEnd_le_add (pktsize : Nat) (widths : List Nat) (p : Nat) :
  fieldsEnd pktsize p widths ≤ p + widths.sum
  := by
  induction widths generalizing p with
  | nil => rfl
  | cons n widths ih =>
    have hn := fieldEnd_le_add pktsize p n
    have hrest := ih (fieldEnd pktsize p n)
    rw [List.sum_cons]
    apply hrest.trans
    omega

theorem fieldsEnd_le (hp : p ≤ lim) :
  fieldsEnd lim p widths ≤ lim
  := by
  induction widths generalizing p with
  | nil => exact hp
  | cons n widths ih => exact ih (fieldEnd_le n hp)

theorem fieldsEnd_eq (hp : p + widths.sum ≤ lim) :
  fieldsEnd lim p widths = p + widths.sum
  := by
  induction widths generalizing p with
  | nil => rfl
  | cons n widths ih =>
    rw [List.sum_cons] at hp ⊢
    change fieldsEnd lim (fieldEnd lim p n) widths = _
    rw [fieldEnd, if_pos (by omega), ih (by omega), Nat.add_assoc]

/-- The offset after a number of `n` bytes at `p`, where the sum can wrap around. -/
def rawEnd (n lim p : Nat) : Nat := if lim < add32 p n then p else add32 p n

theorem returns_getRaw (n lim : Nat) (value : Nat → α) (old : α) (p : Nat) :
  Returns (getRaw n value lim old) p
    (decide (add32 p n ≤ lim), if add32 p n ≤ lim then value p else old) (rawEnd n lim p)
  := by
  rw [rawEnd, getRaw]
  apply (returns_here p).bind
  by_cases hroom : lim < add32 p n
  · rw [if_pos hroom, if_pos hroom, if_neg (not_le.2 hroom), decide_eq_false (not_le.2 hroom)]
    exact returns_pure _ _
  · rw [if_neg hroom, if_neg hroom, if_pos (not_lt.1 hroom), decide_eq_true (not_lt.1 hroom)]
    exact (returns_tell _ p).bind ((returns_seek _ p).bind (returns_pure _ _))

theorem returns_getRaw_of_lt (hp : p + n < 2 ^ 32) (value : Nat → α) (old : α) :
  Returns (getRaw n value lim old) p
    (decide (p + n ≤ lim), if p + n ≤ lim then value p else old) (fieldEnd lim p n)
  := by
  have hadd : add32 p n = p + n := Nat.mod_eq_of_lt hp
  have h := returns_getRaw n lim value old p
  simp only [rawEnd, hadd, ← not_le, ite_not] at h
  exact h

section Steps

variable {β : Type} {P : Serialiser.Event → Prop} (f : Nat → Dec β)

theorem logs_seek_bind (q : Nat) (f : Unit → Dec β) :
  Logs P (seek q >>= f) p ↔ Logs P (f ⟨⟩) q
  := logs_bind_of_returns (returns_seek q p) (logs_seek q p)

theorem logs_here_bind :
  Logs P (here >>= f) p ↔ Logs P (f p) p
  := logs_bind_of_returns (returns_here p) (logs_here p)

theorem logs_getRsItemSize_bind :
  Logs P (getRsItemSize data >>= f) p ↔ P (.read 4 4) ∧ Logs P (f (data.be32 4)) p
  := by
  simp only [getRsItemSize, logs_bind, logs_tell, logs_pure, post_bind, post_tell, post_pure,
    and_true]

theorem logs_copyBytes_bind (n : Nat) (f : List UInt8 → Dec β) :
  Logs P (copyBytes data n >>= f) p ↔
    P (.read p n) ∧ Logs P (f (data.read p n)) (add32 p n)
  := by
  simp only [copyBytes, logs_bind, logs_here, logs_tell, logs_seek, logs_pure, post_bind,
    post_here, post_tell, post_seek, post_pure, and_true, true_and]

theorem logs_finish (ok : Bool) (rssize : Nat) (item : α) :
  Logs P (finish ok rssize item) p
  := by
  simp only [finish, logs_bind, logs_here, logs_pure, post_here, and_self]

/-- A field is read within the packet, unless its end wraps around. -/
theorem logs_getRaw_bind (hp : p + n < 2 ^ 32) (hlim : lim ≤ bound) (value : Nat → α) (old : α)
    (f : Bool × α → Dec β) :
  Logs (Event.Within bound) (getRaw n value lim old >>= f) p ↔
    Logs (Event.Within bound) (f (decide (p + n ≤ lim), if p + n ≤ lim then value p else old))
      (fieldEnd lim p n)
  := by
  apply logs_bind_of_returns (returns_getRaw_of_lt hp value old)
  simp only [getRaw, logs_bind, logs_here, post_here, logs_ite_iff, logs_pure, logs_tell,
    logs_seek, post_tell, post_seek, implies_true, and_true, true_and]
  simp only [Event.Within, add32]
  omega

end Steps

/-! ### Data in tunnels and chunks -/

/-- The `n` bytes from `p` on lie in the packet. -/
def CopySafe (pktsize p n : Nat) : Prop := n = 0 ∨ p + n ≤ pktsize

/-- The condition for data in a tunnel: the header and the data lie in the packet. -/
def TurtleDataSafe (data : Memory) (dataSize pktsize : Nat) : Prop :=
  8 ≤ pktsize ∧
    CopySafe pktsize (fieldsEnd pktsize 8 [4, 4])
      (field32 data pktsize (fieldsEnd pktsize 8 [4]) dataSize)

/-- The condition for a chunk: the header lies in the packet, and so does the data when it
fits the size in the header, in 32-bit numbers. -/
def ChunkSafe (data : Memory) (chunkSize pktsize : Nat) : Prop :=
  8 ≤ pktsize ∧
    (add32 (field32 data pktsize (fieldsEnd pktsize 8 [8, 4]) chunkSize)
        (fieldsEnd pktsize 8 [8, 4, 4, 4]) ≤ data.be32 4 →
      CopySafe pktsize (fieldsEnd pktsize 8 [8, 4, 4, 4])
        (field32 data pktsize (fieldsEnd pktsize 8 [8, 4]) chunkSize))

theorem logs_turtleData (data : Memory) (dataSize pktsize : Nat) :
  Logs (Event.Within pktsize) (RsTurtleGenericDataItem.ofPacket data dataSize pktsize) 0 ↔
    TurtleDataSafe data dataSize pktsize
  := by
  have htunnel := fieldEnd_le_add pktsize 8 4
  simp only [RsTurtleGenericDataItem.ofPacket, getRawUInt32, getRawUInt_eq, logs_seek_bind,
    logs_getRsItemSize_bind]
  rw [logs_getRaw_bind (by omega) le_rfl, logs_getRaw_bind (by omega) le_rfl,
    logs_copyBytes_bind]
  simp only [logs_finish, and_true, Event.Within, TurtleDataSafe, CopySafe, field32, fieldsEnd,
    List.foldl_cons, List.foldl_nil]
  apply and_congr_left
  intro _
  omega

theorem logs_chunk (data : Memory) (chunkSize pktsize : Nat) :
  Logs (Event.Within pktsize) (deserialiseRsGRouterTransactionChunkItem data chunkSize pktsize)
      0 ↔
    ChunkSafe data chunkSize pktsize
  := by
  have hid := fieldEnd_le_add pktsize 8 8
  have hstart := fieldEnd_le_add pktsize (fieldEnd pktsize 8 8) 4
  have hsize := fieldEnd_le_add pktsize (fieldEnd pktsize (fieldEnd pktsize 8 8) 4) 4
  simp only [deserialiseRsGRouterTransactionChunkItem, getRawUInt32, getRawUInt64, getRawUInt_eq,
    logs_seek_bind, logs_getRsItemSize_bind]
  rw [logs_getRaw_bind (by omega) le_rfl, logs_getRaw_bind (by omega) le_rfl,
    logs_getRaw_bind (by omega) le_rfl, logs_getRaw_bind (by omega) le_rfl]
  simp only [logs_here_bind, logs_ite_iff, logs_pure, logs_copyBytes_bind, logs_finish, and_true,
    implies_true, true_and, not_lt, Event.Within, ChunkSafe, CopySafe, field32, fieldsEnd,
    List.foldl_cons, List.foldl_nil]
  apply and_congr_left
  intro _
  omega

/-! ### Signatures -/

instance (data : Memory) (type lim p : Nat) : Decidable (Accepted data type lim p) :=
  inferInstanceAs (Decidable (_ ∧ _))

/-- A string of type `type` is decoded at `p`. -/
def StringDecoded (data : Memory) (type lim p : Nat) : Prop :=
  p ≤ lim ∧ Accepted data type lim p

/-- Binary data of type `type` is decoded at `p`. -/
def BinaryDecoded (data : Memory) (type lim p : Nat) : Prop :=
  add32 p tlvHeaderSize ≤ lim ∧ Accepted data type lim p ∧ tlvHeaderSize ≤ data.be32 (p + 2)

/-- The header of a signature is accepted at `p`. -/
def SignatureAccepted (data : Memory) (lim p : Nat) : Prop :=
  add32 p tlvHeaderSize ≤ lim ∧ Accepted data tlvTypeKeysignature lim p

instance (data : Memory) (type lim p : Nat) : Decidable (StringDecoded data type lim p) :=
  inferInstanceAs (Decidable (_ ∧ _))

instance (data : Memory) (type lim p : Nat) : Decidable (BinaryDecoded data type lim p) :=
  inferInstanceAs (Decidable (_ ∧ _))

instance (data : Memory) (lim p : Nat) : Decidable (SignatureAccepted data lim p) :=
  inferInstanceAs (Decidable (_ ∧ _))

/-- The end that the header at `p` gives. -/
def tlvEnd (data : Memory) (p : Nat) : Nat := add32 p (data.be32 (p + 2))

/-- The offset after the key id of the signature at `p`. -/
def keyIdEnd (data : Memory) (p : Nat) : Nat :=
  if StringDecoded data tlvTypeStrKeyid (tlvEnd data p) (add32 p tlvHeaderSize) then
    tlvEnd data (add32 p tlvHeaderSize)
  else
    add32 p tlvHeaderSize

/-- The offset after a signature. -/
def signatureEnd (data : Memory) (lim p : Nat) : Nat :=
  if SignatureAccepted data lim p then tlvEnd data p else p

/-- A signature is decoded at `p`. -/
def SignatureDecoded (data : Memory) (lim p : Nat) : Prop :=
  SignatureAccepted data lim p ∧
    StringDecoded data tlvTypeStrKeyid (tlvEnd data p) (add32 p tlvHeaderSize) ∧
    BinaryDecoded data tlvTypeSignRsaSha1 (tlvEnd data p) (keyIdEnd data p)

instance (data : Memory) (lim p : Nat) : Decidable (SignatureDecoded data lim p) :=
  inferInstanceAs (Decidable (_ ∧ _))

/-- The condition for the binary data of a signature at `p`, which can lie behind its end. -/
def BlobSafe (data : Memory) (lim p : Nat) : Prop :=
  add32 p tlvHeaderSize ≤ lim → p + tlvHeaderSize < 2 ^ 32 ∧
    (Accepted data tlvTypeSignRsaSha1 lim p → tlvHeaderSize ≤ data.be32 (p + 2) →
      p + data.be32 (p + 2) < 2 ^ 32)

/-- The condition for a signature at `p`: its header does not wrap around, its key id is safe
unless it lies behind the end, and so is its binary data. -/
def SignatureSafe (data : Memory) (lim bound p : Nat) : Prop :=
  HeaderSafe p ∧ (SignatureAccepted data lim p →
    (p + tlvHeaderSize ≤ tlvEnd data p →
      StringSafe data tlvTypeStrKeyid (tlvEnd data p) bound (p + tlvHeaderSize)) ∧
    BlobSafe data (tlvEnd data p) (keyIdEnd data p))

theorem returns_getTlvType (data : Memory) (q p : Nat) :
  Returns (getTlvType data q) p (data.be16 q) p
  := (returns_tell _ p).bind (returns_pure _ p)

theorem returns_getTlvSize (data : Memory) (q p : Nat) :
  Returns (getTlvSize data q) p (data.be32 (q + 2)) p
  := (returns_tell _ p).bind (returns_pure _ p)

theorem returns_closeTlv {tlvend : Nat} (h : Returns (content tlvend) p a q) :
  Returns (closeTlv content tlvend) p a tlvend
  := h.bind ((returns_seek _ _).bind (returns_pure _ _))

/-- The content of an item whose header is accepted. -/
theorem returns_withTlv (hroom : add32 p tlvHeaderSize ≤ lim) (h : Accepted data type lim p)
    (hcontent : Returns (content (tlvEnd data p)) (add32 p tlvHeaderSize) a q) :
  Returns (withTlv data type lim old content) p a q
  := by
  rw [withTlv]
  apply (returns_here p).bind
  rw [if_neg (not_lt.2 hroom), withTlvHeader]
  apply (returns_here p).bind
  apply (returns_getTlvType data p p).bind
  apply (returns_getTlvSize data p p).bind
  rw [if_neg (not_lt.2 h.1), if_neg (not_not.2 h.2)]
  exact (returns_seek _ p).bind hcontent

theorem post_withTlv {Q : Bool × α → Nat → Prop} (hroom : add32 p tlvHeaderSize ≤ lim)
    (h : Accepted data type lim p) :
  Post (withTlv data type lim old content) p Q ↔
    Post (content (tlvEnd data p)) (add32 p tlvHeaderSize) Q
  := by
  rw [tlvEnd]
  simp only [withTlv, withTlvHeader, getTlvType, getTlvSize, post_bind, post_here, post_tell,
    post_pure, post_seek, if_neg (not_lt.2 hroom), if_neg (not_lt.2 h.1), if_neg (not_not.2 h.2)]

/-- An item whose header is not accepted is kept, and so is the offset. -/
theorem returns_withTlv_of_not (h : ¬ (add32 p tlvHeaderSize ≤ lim ∧ Accepted data type lim p)) :
  Returns (withTlv data type lim old content) p (false, old) p
  := by
  rw [withTlv]
  apply (returns_here p).bind
  by_cases hroom : lim < add32 p tlvHeaderSize
  · rw [if_pos hroom]
    exact returns_pure _ _
  rw [if_neg hroom, withTlvHeader]
  apply (returns_here p).bind
  apply (returns_getTlvType data p p).bind
  apply (returns_getTlvSize data p p).bind
  by_cases hend : lim < add32 p (data.be32 (p + 2))
  · rw [if_pos hend]
    exact returns_pure _ _
  rw [if_neg hend]
  have htype : data.be16 p ≠ type := fun htype => h ⟨by omega, by omega, htype⟩
  rw [if_pos htype]
  exact returns_pure _ _

theorem returns_getTlvString (data : Memory) (type lim p : Nat) (old : List UInt8) :
  Returns (getTlvString data lim type old) p
    (if StringDecoded data type lim p then
        (true, sanitise type
          (data.read (p + tlvHeaderSize) (sub32 (data.be32 (p + 2)) tlvHeaderSize)))
      else (false, old))
    (if StringDecoded data type lim p then tlvEnd data p else p)
  := by
  rw [getTlvString]
  apply (returns_here p).bind
  by_cases hdecoded : StringDecoded data type lim p
  · obtain ⟨hp, hend, htype⟩ := id hdecoded
    rw [if_pos hdecoded, if_pos hdecoded, if_neg (not_lt.2 hp)]
    apply (returns_getTlvType data p p).bind
    apply (returns_getTlvSize data p p).bind
    rw [if_neg (not_lt.2 hend), if_neg (not_not.2 htype.symm)]
    exact (returns_tell _ p).bind ((returns_seek _ p).bind (returns_pure _ _))
  rw [if_neg hdecoded, if_neg hdecoded]
  by_cases hlim : lim < p
  · rw [if_pos hlim]
    exact returns_pure _ _
  rw [if_neg hlim]
  apply (returns_getTlvType data p p).bind
  apply (returns_getTlvSize data p p).bind
  by_cases hend : lim < add32 p (data.be32 (p + 2))
  · rw [if_pos hend]
    exact returns_pure _ _
  have htype : type ≠ data.be16 p :=
    fun htype => hdecoded ⟨not_lt.1 hlim, not_lt.1 hend, htype.symm⟩
  rw [if_neg hend, if_pos htype]
  exact returns_pure _ _

theorem returns_binaryData (data : Memory) (self : RsTlvBinaryData) (lim p : Nat) :
  Returns (self.getTlv data lim) p
    (if BinaryDecoded data self.tlvtype lim p then
        (true, { self with
          binData := data.read (add32 p tlvHeaderSize) (data.be32 (p + 2) - tlvHeaderSize) })
      else (false, self))
    (if BinaryDecoded data self.tlvtype lim p then tlvEnd data p else p)
  := by
  rw [RsTlvBinaryData.getTlv]
  apply (returns_here p).bind
  by_cases hdecoded : BinaryDecoded data self.tlvtype lim p
  · obtain ⟨hroom, ⟨hend, htype⟩, hsize⟩ := id hdecoded
    rw [if_pos hdecoded, if_pos hdecoded, if_neg (not_lt.2 hroom)]
    apply (returns_getTlvType data p p).bind
    apply (returns_getTlvSize data p p).bind
    rw [if_neg (not_lt.2 hend), if_neg (not_lt.2 hsize), if_neg (not_not.2 htype.symm)]
    exact (returns_tell _ p).bind ((returns_seek _ p).bind (returns_pure _ _))
  rw [if_neg hdecoded, if_neg hdecoded]
  by_cases hroom : lim < add32 p tlvHeaderSize
  · rw [if_pos hroom]
    exact returns_pure _ _
  rw [if_neg hroom]
  apply (returns_getTlvType data p p).bind
  apply (returns_getTlvSize data p p).bind
  by_cases hend : lim < add32 p (data.be32 (p + 2))
  · rw [if_pos hend]
    exact returns_pure _ _
  rw [if_neg hend]
  by_cases hsize : data.be32 (p + 2) < tlvHeaderSize
  · rw [if_pos hsize]
    exact returns_pure _ _
  have htype : self.tlvtype ≠ data.be16 p :=
    fun htype => hdecoded ⟨not_lt.1 hroom, ⟨not_lt.1 hend, htype.symm⟩, not_lt.1 hsize⟩
  rw [if_neg hsize, if_pos htype]
  exact returns_pure _ _

/-- The signature at `p`, when it is decoded. -/
def signatureAt (data : Memory) (p : Nat) : Serialiser.RsTlvKeySignature :=
  ⟨rsGxsId (sanitise tlvTypeStrKeyid (data.read (add32 p tlvHeaderSize + tlvHeaderSize)
      (sub32 (data.be32 (add32 p tlvHeaderSize + 2)) tlvHeaderSize))),
    ⟨tlvTypeSignRsaSha1, data.read (add32 (keyIdEnd data p) tlvHeaderSize)
      (data.be32 (keyIdEnd data p + 2) - tlvHeaderSize)⟩⟩

theorem fst_ite_true (c : Prop) [Decidable c] (a b : α) :
  (if c then (true, a) else (false, b)).1 = decide c
  := by
  split <;> simp [*]

theorem returns_signature (data : Memory) (lim p : Nat) :
  ∃ signature,
    Returns (Serialiser.RsTlvKeySignature.getTlv data lim Serialiser.RsTlvKeySignature.new) p
      (decide (SignatureDecoded data lim p), signature) (signatureEnd data lim p) ∧
    (SignatureDecoded data lim p → signature = signatureAt data p)
  := by
  have htype : Serialiser.RsTlvKeySignature.new.signData.tlvtype = tlvTypeSignRsaSha1 := rfl
  rw [Serialiser.RsTlvKeySignature.getTlv, htype, signatureEnd]
  by_cases haccepted : SignatureAccepted data lim p
  case neg =>
    rw [if_neg haccepted, decide_eq_false fun h => haccepted h.1]
    exact ⟨_, returns_withTlv_of_not haccepted, fun h => absurd h.1 haccepted⟩
  case pos =>
    have hstring := returns_getTlvString data tlvTypeStrKeyid (tlvEnd data p)
      (add32 p tlvHeaderSize) []
    have hbinary := returns_binaryData data ⟨tlvTypeSignRsaSha1, []⟩ (tlvEnd data p)
      (keyIdEnd data p)
    rw [if_pos haccepted]
    generalize hkey : ite (StringDecoded data tlvTypeStrKeyid (tlvEnd data p)
      (add32 p tlvHeaderSize)) (true, _) (false, _) = key at hstring
    generalize hblob : ite (BinaryDecoded data tlvTypeSignRsaSha1 (tlvEnd data p)
      (keyIdEnd data p)) (true, _) (false, _) = blob at hbinary
    have hboth : (key.1 && blob.1) = decide (SignatureDecoded data lim p) := by
      rw [← hkey, ← hblob, fst_ite_true, fst_ite_true, ← Bool.decide_and, decide_eq_decide]
      exact ⟨fun h => ⟨haccepted, h⟩, And.right⟩
    refine ⟨⟨rsGxsId key.2, blob.2⟩, ?_, ?_⟩
    case refine_1 =>
      rw [← hboth]
      exact returns_withTlv haccepted.1 haccepted.2
        (returns_closeTlv (hstring.bind (hbinary.bind (returns_pure _ _))))
    case refine_2 =>
      rintro ⟨-, hstringDecoded, hbinaryDecoded⟩
      rw [← hkey, ← hblob, if_pos hstringDecoded, if_pos hbinaryDecoded, signatureAt]

section Signature

variable (hlim : lim ≤ bound) (hbound : bound < 2 ^ 32)

include hlim hbound

theorem logs_signData (content : List UInt8) :
  Logs (Event.Within bound) (RsTlvBinaryData.getTlv data ⟨tlvTypeSignRsaSha1, content⟩ lim) p ↔
    BlobSafe data lim p
  := by
  have hlt := data.be32_lt (p + 2)
  simp only [RsTlvBinaryData.getTlv, getTlvType, getTlvSize, logs_bind, logs_here, post_here,
    logs_ite_iff, logs_pure, logs_tell, logs_seek, post_bind, post_tell, post_pure, post_seek,
    implies_true, and_true, true_and]
  simp only [Event.Within, BlobSafe, Accepted, add32, tlvHeaderSize, ne_eq]
  omega

theorem logs_keyId (old : List UInt8) :
  Logs (Event.Within bound) (getTlvString data lim tlvTypeStrKeyid old) p ↔
    (p ≤ lim → StringSafe data tlvTypeStrKeyid lim bound p)
  := by
  by_cases hp : p ≤ lim
  · rw [logs_getTlvString hp hlim hbound, forall_prop_of_true hp]
  · simp only [getTlvString, logs_bind, logs_here, post_here, true_and, if_pos (not_le.1 hp),
      logs_pure, hp, false_implies]

theorem logs_signature (hp : p ≤ lim) :
  Logs (Event.Within bound)
      (Serialiser.RsTlvKeySignature.getTlv data lim Serialiser.RsTlvKeySignature.new) p ↔
    SignatureSafe data lim bound p
  := by
  rw [Serialiser.RsTlvKeySignature.getTlv, logs_withTlv hp hlim hbound, SignatureSafe]
  apply and_congr_right
  intro hheader
  have hadd : add32 p tlvHeaderSize = p + tlvHeaderSize := Nat.mod_eq_of_lt hheader
  rw [SignatureAccepted, hadd, and_imp]
  apply imp_congr_right
  intro _
  apply imp_congr_right
  intro haccepted
  have hend : tlvEnd data p ≤ bound := haccepted.1.trans hlim
  rw [logs_closeTlv, logs_bind, ← tlvEnd]
  simp only [logs_bind, logs_pure, post_true, and_true]
  rw [logs_keyId hend hbound]
  apply and_congr_right
  intro _
  rw [post_iff_of_returns (returns_getTlvString data tlvTypeStrKeyid (tlvEnd data p)
    (p + tlvHeaderSize) []), keyIdEnd, hadd]
  apply logs_signData hend hbound

end Signature

/-! ### Messages -/

/-- The `data_size` of a data item. -/
def dataItemSize (data : Memory) (dataSize pktsize : Nat) : Nat :=
  field32 data pktsize (fieldsEnd pktsize 8 [8, 16, 4]) dataSize

/-- The offset of the data of a data item. -/
def dataItemOffset (pktsize : Nat) : Nat := fieldsEnd pktsize 8 [8, 16, 4, 4]

/-- The condition for what follows the data of a data item: the signature at `p` is safe, and
the two numbers after it do not wrap around. -/
def TrailerSafe (data : Memory) (pktsize p : Nat) : Prop :=
  SignatureSafe data pktsize pktsize p ∧
    RawSafe 4 pktsize (signatureEnd data pktsize p) ∧
    RawSafe 4 pktsize (rawEnd 4 pktsize (signatureEnd data pktsize p))

/-- The condition for a data item: the header lies in the packet, and when the data fits the
size in the header, in 32-bit numbers, it lies in the packet and what follows it is safe. -/
def DataItemSafe (data : Memory) (dataSize pktsize : Nat) : Prop :=
  8 ≤ pktsize ∧
    (add32 (dataItemSize data dataSize pktsize) (dataItemOffset pktsize) ≤ data.be32 4 →
      CopySafe pktsize (dataItemOffset pktsize) (dataItemSize data dataSize pktsize) ∧
      TrailerSafe data pktsize (dataItemOffset pktsize + dataItemSize data dataSize pktsize))

/-- The condition for a receipt: the header lies in the packet, and the signature is safe. -/
def ReceiptSafe (data : Memory) (pktsize : Nat) : Prop :=
  8 ≤ pktsize ∧ SignatureSafe data pktsize pktsize (fieldsEnd pktsize 8 [8, 4, 16, 4, 20])

/-- A data item is decoded: its fields lie in the packet, its data fits the size in the header,
what follows is decoded, and it ends where the header says. -/
def DataItemDecoded (data : Memory) (pktsize : Nat) : Prop :=
  40 ≤ pktsize ∧ add32 (data.be32 36) 40 ≤ data.be32 4 ∧
    SignatureDecoded data pktsize (add32 40 (data.be32 36)) ∧
    add32 (signatureEnd data pktsize (add32 40 (data.be32 36))) 4 ≤ pktsize ∧
    add32 (add32 (signatureEnd data pktsize (add32 40 (data.be32 36))) 4) 4 ≤ pktsize ∧
    add32 (add32 (signatureEnd data pktsize (add32 40 (data.be32 36))) 4) 4 = data.be32 4

instance (data : Memory) (pktsize : Nat) : Decidable (DataItemDecoded data pktsize) :=
  show Decidable (_ ∧ _) from inferInstance

/-- The `serial_size` of the data item that is decoded. -/
def decodedSize (data : Memory) : Nat :=
  98 + data.be32 36 + (data.be32 (keyIdEnd data (add32 40 (data.be32 36)) + 2) - tlvHeaderSize)

/-- The data item at the start of the packet, when it is decoded. -/
def dataItemAt (data : Memory) : RsGRouterGenericDataItem where
  peerId := 0
  routingId := data.be64 8
  destinationKey := idValue (data.read 16 16)
  serviceId := data.be32 32
  signature := .ofTlv (signatureAt data (add32 40 (data.be32 36)))
  flags := UInt32.ofNat (data.be32 (add32 (tlvEnd data (add32 40 (data.be32 36))) 4))
  dataBytes := data.read 40 (data.be32 36)
  randomizedDistance := data.be32 (tlvEnd data (add32 40 (data.be32 36)))

theorem serialSize_dataItemAt (data : Memory) :
  (dataItemAt data).serialSize = decodedSize data
  := by
  simp only [RsGRouterGenericDataItem.serialSize, RsTlvKeySignature.tlvSize, dataItemAt,
    RsTlvKeySignature.ofTlv, signatureAt, Memory.length_read, decodedSize, tlvHeaderSize]
  omega

theorem returns_getRsItemSize (data : Memory) (p : Nat) :
  Returns (getRsItemSize data) p (data.be32 4) p
  := (returns_tell _ p).bind (returns_pure _ p)

theorem returns_finish (ok : Bool) (rssize : Nat) (item : α) (p : Nat) :
  Returns (finish ok rssize item) p (if p ≠ rssize ∨ ok = false then none else some item) p
  := (returns_here p).bind (returns_pure _ p)

theorem returns_copyBytes (data : Memory) (n p : Nat) :
  Returns (copyBytes data n) p (data.read p n) (add32 p n)
  := (returns_here p).bind ((returns_tell _ p).bind ((returns_seek _ p).bind (returns_pure _ _)))

theorem fieldEnd_of_le (h : p + n ≤ lim) :
  fieldEnd lim p n = p + n
  := if_pos h

theorem fields_dataItem (pktsize : Nat) :
  (decide (8 + 8 ≤ pktsize) && decide (fieldEnd pktsize 8 8 + 16 ≤ pktsize) &&
    decide (fieldEnd pktsize (fieldEnd pktsize 8 8) 16 + 4 ≤ pktsize) &&
    decide (fieldEnd pktsize (fieldEnd pktsize (fieldEnd pktsize 8 8) 16) 4 + 4 ≤ pktsize)) =
  decide (40 ≤ pktsize)
  := by
  rw [Bool.eq_iff_iff]
  simp only [Bool.and_eq_true, decide_eq_true_eq]
  constructor
  · rintro ⟨⟨⟨h8, h16⟩, h32⟩, h36⟩
    rw [fieldEnd_of_le h8] at h16 h32 h36
    rw [fieldEnd_of_le h16] at h32 h36
    rw [fieldEnd_of_le h32] at h36
    exact h36
  · intro h
    have h8 : 8 + 8 ≤ pktsize := by omega
    have h16 : 8 + 8 + 16 ≤ pktsize := by omega
    have h32 : 8 + 8 + 16 + 4 ≤ pktsize := by omega
    rw [fieldEnd_of_le h8, fieldEnd_of_le h16, fieldEnd_of_le h32]
    exact ⟨⟨⟨h8, h16⟩, h32⟩, h⟩

theorem dataItem_fields_eq (data : Memory) (hroom : 40 ≤ pktsize) (dataSize : Nat) :
  dataItemOffset pktsize = 40 ∧ dataItemSize data dataSize pktsize = data.be32 36
  := by
  have hlast : fieldsEnd pktsize 8 [8, 16, 4] = 36 :=
    fieldsEnd_eq [8, 16, 4] (by simp only [List.sum_cons, List.sum_nil]; omega)
  refine ⟨fieldsEnd_eq [8, 16, 4, 4] hroom, ?_⟩
  rw [dataItemSize, field32, hlast, if_pos hroom]

theorem rawEnd_of_le (h : add32 p n ≤ lim) :
  rawEnd n lim p = add32 p n
  := if_neg (not_lt.2 h)

theorem returns_dataItem (data : Memory) (dataSize pktsize : Nat) :
  ∃ q, Returns (deserialiseRsGRouterGenericDataItem data dataSize pktsize) 0
    (if DataItemDecoded data pktsize then some (dataItemAt data) else none) q
  := by
  have hid := fieldEnd_le_add pktsize 8 8
  have hkey := fieldEnd_le_add pktsize (fieldEnd pktsize 8 8) 16
  have hservice := fieldEnd_le_add pktsize (fieldEnd pktsize (fieldEnd pktsize 8 8) 16) 4
  have hfields := fields_dataItem pktsize
  have h8 : 8 + 8 < 2 ^ 32 := by omega
  have h16 : fieldEnd pktsize 8 8 + 16 < 2 ^ 32 := by omega
  have h32 : fieldEnd pktsize (fieldEnd pktsize 8 8) 16 + 4 < 2 ^ 32 := by omega
  have h36 : fieldEnd pktsize (fieldEnd pktsize (fieldEnd pktsize 8 8) 16) 4 + 4 < 2 ^ 32 := by
    omega
  by_cases hcheck : data.be32 4 <
      add32 (dataItemSize data dataSize pktsize) (dataItemOffset pktsize)
  case pos =>
    have hnot : ¬ DataItemDecoded data pktsize := by
      rintro ⟨hroom, hfits, -⟩
      obtain ⟨hoffset, hsize⟩ := dataItem_fields_eq data hroom dataSize
      rw [hoffset, hsize] at hcheck
      omega
    rw [if_neg hnot, deserialiseRsGRouterGenericDataItem]
    apply Exists.intro
    apply (returns_seek 8 0).bind
    apply (returns_getRsItemSize data 8).bind
    apply (returns_getRaw_of_lt h8 _ _).bind
    apply (returns_getRaw_of_lt h16 _ _).bind
    apply (returns_getRaw_of_lt h32 _ _).bind
    apply (returns_getRaw_of_lt h36 _ _).bind
    apply (returns_here _).bind
    apply returns_ite_pos hcheck
    exact returns_pure _ _
  case neg =>
    obtain ⟨signature, hsignature, hdecoded⟩ := returns_signature data pktsize
      (add32 (dataItemOffset pktsize) (dataItemSize data dataSize pktsize))
    apply Exists.intro
    rw [deserialiseRsGRouterGenericDataItem]
    apply (returns_seek 8 0).bind
    apply (returns_getRsItemSize data 8).bind
    apply (returns_getRaw_of_lt h8 _ _).bind
    apply (returns_getRaw_of_lt h16 _ _).bind
    apply (returns_getRaw_of_lt h32 _ _).bind
    apply (returns_getRaw_of_lt h36 _ _).bind
    apply (returns_here _).bind
    apply returns_ite_neg hcheck
    apply (returns_copyBytes data _ _).bind
    apply hsignature.bind
    apply (returns_getRaw 4 pktsize data.be32 0 _).bind
    apply (returns_getRaw 4 pktsize data.be32 0 _).bind
    convert returns_finish _ _ _ _ using 1
    simp only [hfields]
    by_cases hroom : 40 ≤ pktsize
    case neg =>
      rw [if_neg fun h => hroom h.1, if_pos]
      rw [decide_eq_false hroom]
      exact Or.inr rfl
    obtain ⟨hoffset, hsize⟩ := dataItem_fields_eq data hroom dataSize
    rw [hoffset, hsize] at hcheck hdecoded ⊢
    by_cases h : DataItemDecoded data pktsize
    case pos =>
      obtain ⟨-, -, hsignature, hdistance, hflags, hend⟩ := id h
      have e8 : fieldEnd pktsize 8 8 = 16 := fieldEnd_of_le (by omega)
      have e16 : fieldEnd pktsize 16 16 = 32 := fieldEnd_of_le (by omega)
      have e32 : fieldEnd pktsize 32 4 = 36 := fieldEnd_of_le (by omega)
      have e36 : fieldEnd pktsize 36 4 = 40 := fieldEnd_of_le hroom
      have htlv : signatureEnd data pktsize (add32 40 (data.be32 36)) =
          tlvEnd data (add32 40 (data.be32 36)) := if_pos hsignature.1
      rw [if_pos h, rawEnd_of_le hdistance, rawEnd_of_le hflags, if_neg]
      · rw [htlv] at hdistance hflags ⊢
        simp only [e8, e16, e32, e36, if_pos hroom, if_pos hdistance, if_pos hflags,
          hdecoded hsignature, dataItemAt]
        rw [if_pos (by omega), if_pos (by omega), if_pos (by omega)]
      · rw [decide_eq_true hroom, decide_eq_true hsignature, decide_eq_true hdistance,
          decide_eq_true hflags, not_or, not_ne_iff]
        exact ⟨hend, Bool.noConfusion⟩
    case neg =>
      rw [if_neg h, if_pos]
      by_contra hall
      rw [not_or, not_ne_iff, Bool.not_eq_false] at hall
      simp only [Bool.and_eq_true, decide_eq_true_eq] at hall
      obtain ⟨hend, ⟨⟨-, hsignature⟩, hdistance⟩, hflags⟩ := hall
      rw [rawEnd_of_le hdistance] at hend hflags
      rw [rawEnd_of_le hflags] at hend
      exact h ⟨hroom, not_lt.1 hcheck, hsignature, hdistance, hflags, hend⟩

/-- The reads of what follows the data of a data item. -/
theorem logs_trailer (hpktsize : pktsize < 2 ^ 32) (hp : p ≤ pktsize)
    (f : Bool × Serialiser.RsTlvKeySignature → Bool × Nat → Bool × Nat → Dec α)
    (hf : ∀ signature distance flags q, Logs (Event.Within pktsize) (f signature distance flags) q)
      :
  Logs (Event.Within pktsize)
      (do
        let signature ← Serialiser.RsTlvKeySignature.getTlv data pktsize
          Serialiser.RsTlvKeySignature.new
        let randomizedDistance ← getRawUInt32 data pktsize 0
        let flags ← getRawUInt32 data pktsize 0
        f signature randomizedDistance flags) p ↔
    TrailerSafe data pktsize p
  := by
  rw [logs_bind, logs_signature le_rfl hpktsize hp, TrailerSafe]
  apply and_congr_right
  intro _
  obtain ⟨signature, hreturns, -⟩ := returns_signature data pktsize p
  simp only [getRawUInt32, getRawUInt_eq]
  rw [post_iff_of_returns hreturns, logs_bind, logs_getRaw le_rfl hpktsize,
    or_iff_right (by decide)]
  apply and_congr_right
  intro _
  rw [post_iff_of_returns (returns_getRaw 4 pktsize data.be32 0 _), logs_bind,
    logs_getRaw le_rfl hpktsize, or_iff_right (by decide), and_iff_left]
  intro flags _
  apply hf

theorem logs_dataItem (data : Memory) (dataSize pktsize : Nat) (hpktsize : pktsize < 2 ^ 32) :
  Logs (Event.Within pktsize) (deserialiseRsGRouterGenericDataItem data dataSize pktsize) 0 ↔
    DataItemSafe data dataSize pktsize
  := by
  have hid := fieldEnd_le_add pktsize 8 8
  have hkey := fieldEnd_le_add pktsize (fieldEnd pktsize 8 8) 16
  have hservice := fieldEnd_le_add pktsize (fieldEnd pktsize (fieldEnd pktsize 8 8) 16) 4
  simp only [deserialiseRsGRouterGenericDataItem, getRawUInt64, getRawUInt32, getRawUInt_eq,
    deserialiseId_eq, logs_seek_bind, logs_getRsItemSize_bind]
  rw [logs_getRaw_bind (by omega) le_rfl, logs_getRaw_bind (by omega) le_rfl,
    logs_getRaw_bind (by omega) le_rfl, logs_getRaw_bind (by omega) le_rfl]
  have hheader : Event.Within pktsize (.read 4 4) ↔ 8 ≤ pktsize := by
    simp only [Event.Within]
    omega
  simp only [logs_here_bind, logs_ite_iff, logs_pure, logs_copyBytes_bind, implies_true, true_and,
    not_lt, hheader, DataItemSafe]
  apply and_congr_right
  intro hroom
  have hoffset : dataItemOffset pktsize ≤ pktsize := fieldsEnd_le _ hroom
  have hend : fieldEnd pktsize
      (fieldEnd pktsize (fieldEnd pktsize (fieldEnd pktsize 8 8) 16) 4) 4 =
      dataItemOffset pktsize := rfl
  have hfield (q : Nat) : ite (q + 4 ≤ pktsize) (data.be32 q) dataSize =
      field32 data pktsize q dataSize := rfl
  have hsize : field32 data pktsize (fieldEnd pktsize (fieldEnd pktsize (fieldEnd pktsize 8 8)
      16) 4) dataSize = dataItemSize data dataSize pktsize := rfl
  rw [hend, hfield, hsize]
  generalize dataItemOffset pktsize = offset at hoffset ⊢
  generalize dataItemSize data dataSize pktsize = size
  apply imp_congr_right
  intro _
  have hcopy : Event.Within pktsize (.read offset size) ↔ CopySafe pktsize offset size := Iff.rfl
  rw [hcopy]
  apply and_congr_right
  intro hcopy
  have hsum : offset + size ≤ pktsize := by
    rw [CopySafe] at hcopy
    omega
  rw [show add32 offset size = offset + size from Nat.mod_eq_of_lt (by omega)]
  apply logs_trailer hpktsize hsum
  intros
  apply logs_finish

theorem logs_receipt (data : Memory) (pktsize : Nat) (hpktsize : pktsize < 2 ^ 32) :
  Logs (Event.Within pktsize) (deserialiseRsGRouterSignedReceiptItem data pktsize) 0 ↔
    ReceiptSafe data pktsize
  := by
  have hid := fieldEnd_le_add pktsize 8 8
  have hflags := fieldEnd_le_add pktsize (fieldEnd pktsize 8 8) 4
  have hkey := fieldEnd_le_add pktsize (fieldEnd pktsize (fieldEnd pktsize 8 8) 4) 16
  have hservice := fieldEnd_le_add pktsize
    (fieldEnd pktsize (fieldEnd pktsize (fieldEnd pktsize 8 8) 4) 16) 4
  simp only [deserialiseRsGRouterSignedReceiptItem, getRawUInt64, getRawUInt32, getRawUInt_eq,
    deserialiseId_eq, sha1Size, logs_seek_bind, logs_getRsItemSize_bind]
  rw [logs_getRaw_bind (by omega) le_rfl, logs_getRaw_bind (by omega) le_rfl,
    logs_getRaw_bind (by omega) le_rfl, logs_getRaw_bind (by omega) le_rfl,
    logs_getRaw_bind (by omega) le_rfl]
  have hheader : Event.Within pktsize (.read 4 4) ↔ 8 ≤ pktsize := by
    simp only [Event.Within]
    omega
  rw [hheader, ReceiptSafe]
  apply and_congr_right
  intro hroom
  rw [logs_bind, and_iff_left]
  · apply logs_signature le_rfl hpktsize (fieldsEnd_le [8, 4, 16, 4, 20] hroom)
  · intro signature _
    apply logs_finish

/-! ### Sets of peers -/

/-- The offset after the ids of 16 bytes that lie between `q` and `tlvend`. -/
def idsEnd (tlvend q : Nat) : Nat := q + (tlvend - q) / 16 * 16

/-- The header of a set of peers is accepted at `p`. -/
def PeersAccepted (data : Memory) (lim p : Nat) : Prop :=
  add32 p tlvHeaderSize ≤ lim ∧ Accepted data tlvTypePeerset lim p

instance (data : Memory) (lim p : Nat) : Decidable (PeersAccepted data lim p) :=
  show Decidable (_ ∧ _) from inferInstance

/-- The condition for a set of peers: the loop over the ids ends before the offset wraps
around. -/
def PeersSafe (data : Memory) (lim p : Nat) : Prop :=
  PeersAccepted data lim p → idsEnd (tlvEnd data p) (p + tlvHeaderSize) + 16 < 2 ^ 32

/-- The offset after a set of peers. -/
def peersEnd (data : Memory) (lim p : Nat) : Nat :=
  if PeersAccepted data lim p then idsEnd (tlvEnd data p) (p + tlvHeaderSize) else p

/-- The loop over the ids of a set of peers. -/
abbrev getIds (data : Memory) (tlvend fuel : Nat) (v : Bool × IdSet) :
    Dec (Bool × Bool × IdSet) :=
  loop (fun offset => add32 offset 16 ≤ tlvend) (.enter .idSet) (.leave .idSet)
    (IdSet.getId data 16 tlvend) fuel true v

section Ids

variable {tlvend q : Nat} (htlvend : tlvend ≤ bound) (hbound : bound < 2 ^ 32)

theorem idsEnd_of_le (h : q + 16 ≤ tlvend) :
  idsEnd tlvend (q + 16) = idsEnd tlvend q
  := by
  simp only [idsEnd]
  omega

theorem idsEnd_of_not_le (h : ¬ q + 16 ≤ tlvend) :
  idsEnd tlvend q = q
  := by
  simp only [idsEnd]
  omega

/-- An iteration reads an id. -/
theorem returns_getId (hguard : add32 q 16 ≤ tlvend) (ids : IdSet) :
  Returns (IdSet.getId data 16 tlvend (true, ids)) q
    (true, true, ids.add (data.read q 16)) (add32 q 16)
  := by
  have hid : Returns (deserialiseId data 16 tlvend (List.replicate 16 0)) q
      (true, data.read q 16) (add32 q 16) :=
    (returns_here q).bind (returns_ite_neg (not_lt.2 hguard)
      ((returns_tell _ q).bind ((returns_seek _ q).bind (returns_pure _ _))))
  rw [IdSet.getId, if_pos rfl]
  exact hid.bind (returns_pure _ _)

theorem logs_getId (P : Serialiser.Event → Prop) (hguard : add32 q 16 ≤ tlvend) (ids : IdSet) :
  Logs P (IdSet.getId data 16 tlvend (true, ids)) q ↔ P (.read q 16)
  := by
  simp only [IdSet.getId, if_true, deserialiseId, logs_bind, logs_here, post_here,
    if_neg (not_lt.2 hguard), logs_tell, logs_seek, logs_pure, post_true, and_true, true_and]

/-- With an iteration for every id, the loop ends. -/
theorem halts_getIds (data : Memory) (fuel : Nat) (ids : IdSet) (hsafe : idsEnd tlvend q + 16 < 2 ^ 32)
    (hfuel : (tlvend - q) / 16 ≤ fuel) :
  Halts (getIds data tlvend fuel (true, ids)) q
  := by
  have hadd : add32 q 16 = q + 16 := by
    simp only [idsEnd] at hsafe
    exact Nat.mod_eq_of_lt (by omega)
  induction fuel generalizing q ids with
  | zero =>
    have hguard : ¬ q + 16 ≤ tlvend := by omega
    simp only [getIds, loop, halts_bind, halts_here, post_here, true_and, hadd,
      decide_eq_true_eq, if_neg hguard, halts_pure]
  | succ fuel ih =>
    simp only [getIds, loop, halts_bind, halts_here, post_here, true_and, hadd,
      decide_eq_true_eq]
    by_cases hguard : q + 16 ≤ tlvend
    case neg => simp only [if_neg hguard, halts_pure]
    case pos =>
      have hguard' : add32 q 16 ≤ tlvend := by rwa [hadd]
      have hnext := idsEnd_of_le hguard
      have hrest := ih (q := q + 16) (ids.add (data.read q 16)) (by rwa [hnext]) (by omega) (by
        rw [← hnext] at hsafe
        simp only [idsEnd] at hsafe
        exact Nat.mod_eq_of_lt (by omega))
      have hbody : Halts (IdSet.getId data 16 tlvend (true, ids)) q := by
        rw [Halts, (returns_getId hguard' ids).1]
        rfl
      simp only [if_pos hguard, halts_bind, halts_tell, post_tell,
        post_iff_of_returns (returns_getId hguard' ids), Bool.and_self,
        if_true, halts_here, post_here, true_and, hadd]
      exact ⟨hbody, hrest⟩

include htlvend hbound

/-- The loop reads within the packet when it ends before the offset wraps around. -/
theorem logs_getIds (data : Memory) (fuel : Nat) (ids : IdSet) (hsafe : idsEnd tlvend q + 16 < 2 ^ 32) :
  Logs (Event.Within bound) (getIds data tlvend fuel (true, ids)) q ∧
    Post (getIds data tlvend fuel (true, ids)) q fun _ r => r = idsEnd tlvend q
  := by
  have hadd : add32 q 16 = q + 16 := by
    simp only [idsEnd] at hsafe
    exact Nat.mod_eq_of_lt (by omega)
  induction fuel generalizing q ids with
  | zero =>
    simp only [getIds, loop, logs_bind, logs_here, post_here, post_bind, true_and, hadd,
      decide_eq_true_eq]
    by_cases hguard : q + 16 ≤ tlvend
    · simp only [if_pos hguard, logs_diverge, post_diverge, and_self]
    · simp only [if_neg hguard, logs_pure, post_pure, idsEnd_of_not_le hguard, and_self]
  | succ fuel ih =>
    simp only [getIds, loop, logs_bind, logs_here, post_here, post_bind, true_and, hadd,
      decide_eq_true_eq]
    by_cases hguard : q + 16 ≤ tlvend
    case neg => simp only [if_neg hguard, logs_pure, post_pure, idsEnd_of_not_le hguard, and_self]
    case pos =>
      have hguard' : add32 q 16 ≤ tlvend := by rwa [hadd]
      have hnext := idsEnd_of_le hguard
      have hrest := ih (q := q + 16) (ids.add (data.read q 16)) (by rwa [hnext]) (by
        rw [← hnext] at hsafe
        simp only [idsEnd] at hsafe
        exact Nat.mod_eq_of_lt (by omega))
      simp only [if_pos hguard, logs_bind, post_bind, logs_tell, post_tell,
        logs_getId _ hguard', post_iff_of_returns (returns_getId hguard' ids), Bool.and_self,
        if_true, logs_here, post_here, true_and, hadd]
      rw [hnext] at hrest
      simp only [Event.Within, true_and]
      exact ⟨⟨by omega, hrest.1⟩, hrest.2⟩

/-- A loop whose offset wraps around reads beyond the packet. -/
theorem not_logs_getIds (fuel : Nat) (ids : IdSet) (hq : q ≤ tlvend)
    (hsafe : ¬ idsEnd tlvend q + 16 < 2 ^ 32) (hfuel : (tlvend - q) / 16 < fuel) :
  ¬ Logs (Event.Within bound) (getIds data tlvend fuel (true, ids)) q
  := by
  induction fuel generalizing q ids with
  | zero => omega
  | succ fuel ih =>
    have hguard : add32 q 16 ≤ tlvend := by
      simp only [idsEnd] at hsafe
      simp only [add32]
      omega
    simp only [getIds, loop, logs_bind, logs_here, post_here, true_and, decide_eq_true_eq,
      if_pos hguard, logs_tell, post_tell, logs_getId _ hguard,
      post_iff_of_returns (returns_getId hguard ids), Bool.and_self, if_true]
    rintro ⟨-, hread, -, hrest⟩
    by_cases hnext : q + 16 ≤ tlvend
    case pos =>
      have hadd : add32 q 16 = q + 16 := Nat.mod_eq_of_lt (by omega)
      rw [hadd] at hrest
      exact ih _ hnext (by rwa [idsEnd_of_le hnext]) (by omega) hrest
    case neg =>
      rw [idsEnd_of_not_le hnext] at hsafe
      simp only [Event.Within] at hread
      omega

end Ids

/-- The reads of a set of peers and of what follows it, for every number of iterations, when the
reads of what follows only depend on the offset. -/
theorem logs_peers_bind {β : Type} (hp : p + 22 < 2 ^ 32) (hple : p ≤ lim) (hlim : lim ≤ bound)
    (hbound : bound < 2 ^ 32) (f : Bool × IdSet → Dec β) (R : Nat → Prop)
    (hf : ∀ a q, q ≤ lim → (Logs (Event.Within bound) (f a) q ↔ R q)) :
  (∀ fuel, Logs (Event.Within bound)
      (rsTlvIdSetGetTlv data 16 tlvTypePeerset fuel lim OrdMap.empty >>= f) p) ↔
    PeersSafe data lim p ∧ R (peersEnd data lim p)
  := by
  have hadd : add32 p tlvHeaderSize = p + tlvHeaderSize :=
    Nat.mod_eq_of_lt (by simp only [tlvHeaderSize]; omega)
  have hheader : HeaderSafe p := by
    simp only [HeaderSafe, tlvHeaderSize]
    omega
  by_cases haccepted : PeersAccepted data lim p
  case neg =>
    have hset (fuel : Nat) :
        Returns (rsTlvIdSetGetTlv data 16 tlvTypePeerset fuel lim OrdMap.empty) p
          (false, OrdMap.empty) p := returns_withTlv_of_not haccepted
    rw [PeersSafe, peersEnd, if_neg haccepted, and_iff_right fun h => absurd h haccepted]
    simp only [logs_bind, post_iff_of_returns (hset _), hf _ p hple]
    constructor
    · intro h
      exact (h 0).2
    · intro h fuel
      rw [rsTlvIdSetGetTlv, logs_withTlv hple hlim hbound, and_iff_right hheader]
      refine ⟨?_, h⟩
      intro hroom hheader
      exact absurd ⟨hadd.trans_le hroom, hheader⟩ haccepted
  case pos =>
    have hend : tlvEnd data p ≤ lim := haccepted.2.1
    rw [PeersSafe, forall_prop_of_true haccepted, peersEnd, if_pos haccepted]
    have hroom : p + tlvHeaderSize ≤ lim := hadd ▸ haccepted.1
    have hle : idsEnd (tlvEnd data p) (p + tlvHeaderSize) ≤ lim := by
      simp only [idsEnd]
      omega
    -- the ids, and what follows them
    have hreads (fuel : Nat) :
        Logs (Event.Within bound)
          (rsTlvIdSetGetTlv data 16 tlvTypePeerset fuel lim OrdMap.empty >>= f) p ↔
        Logs (Event.Within bound) (getIds data (tlvEnd data p) fuel (true, OrdMap.empty))
          (p + tlvHeaderSize) ∧
        Post (getIds data (tlvEnd data p) fuel (true, OrdMap.empty)) (p + tlvHeaderSize)
          fun r q => Logs (Event.Within bound) (f (q == tlvEnd data p, r.2.2)) q := by
      rw [rsTlvIdSetGetTlv, logs_bind, logs_withTlv hple hlim hbound, and_iff_right hheader,
        post_withTlv haccepted.1 haccepted.2, hadd, forall_prop_of_true hroom,
        forall_prop_of_true haccepted.2]
      simp only [logs_bind, logs_here, logs_pure, post_bind, post_here, post_pure, post_true,
        and_true]
      rfl
    simp only [hreads]
    constructor
    case mp =>
      intro h
      have hsafe : idsEnd (tlvEnd data p) (p + tlvHeaderSize) + 16 < 2 ^ 32 := by
        by_contra hsafe
        have hq : p + tlvHeaderSize ≤ tlvEnd data p := by
          simp only [idsEnd, tlvHeaderSize] at hsafe ⊢
          omega
        exact not_logs_getIds (hend.trans hlim) hbound (tlvEnd data p + 1) OrdMap.empty hq hsafe
          (by omega) (h _).1
      refine ⟨hsafe, ?_⟩
      have hhalts := halts_getIds data (tlvEnd data p) OrdMap.empty hsafe (by omega)
      obtain ⟨r, hr⟩ := Option.isSome_iff_exists.1 hhalts
      have hoffset := (logs_getIds (hend.trans hlim) hbound data (tlvEnd data p) OrdMap.empty
        hsafe).2 r hr
      have hnext := (h (tlvEnd data p)).2 r hr
      rw [hoffset] at hnext
      exact (hf _ _ hle).1 hnext
    case mpr =>
      rintro ⟨hsafe, hR⟩ fuel
      obtain ⟨hids, hpost⟩ := logs_getIds (hend.trans hlim) hbound data fuel
        OrdMap.empty hsafe
      refine ⟨hids, hpost.mono ?_⟩
      rintro r _ rfl
      exact (hf _ _ hle).2 hR

/-! ### Saved messages -/

/-- The offset of the receipt of a saved message whose data item is at `base`. -/
def receiptOffset (data : Memory) (pktsize base : Nat) : Nat :=
  if DataItemDecoded (shift data base) (pktsize - base) then
    add32 base (decodedSize (shift data base))
  else
    base

/-- The condition for the items of a saved message from `base` on: the data item is safe in the
rest of the packet, and so is the receipt when it starts in the packet. -/
def ItemsSafe (data : Memory) (dataSize pktsize base : Nat) : Prop :=
  DataItemSafe (shift data base) dataSize (pktsize - base) ∧
    (receiptOffset data pktsize base < pktsize →
      ReceiptSafe (shift data (receiptOffset data pktsize base))
        (pktsize - receiptOffset data pktsize base))

/-- The offset of the set of peers of a saved message. -/
def routesOffset (pktsize : Nat) : Nat :=
  fieldsEnd pktsize 8 [16, 4, 4, 8, 8, 8, 4, 4, 20, 20, 4]

/-- The condition for a saved message: its header lies in the packet, the set of peers is safe,
and so are the items after it. -/
def RoutingInfoSafe (data : Memory) (dataSize pktsize : Nat) : Prop :=
  8 ≤ pktsize ∧ PeersSafe data pktsize (routesOffset pktsize) ∧
    ItemsSafe data dataSize pktsize (peersEnd data pktsize (routesOffset pktsize))

theorem within_shiftEvent (hbase : base ≤ pktsize) (e : Serialiser.Event) :
  (shiftEvent base e).Within pktsize ↔ e.Within (pktsize - base)
  := by
  cases e with
  | read p n =>
    simp only [shiftEvent, Event.Within]
    omega
  | enter l p => rfl
  | leave l p q => rfl

/-- The reads of an item in a packet are those of the item alone. -/
theorem logs_nested (hbase : base ≤ pktsize) (hpktsize : pktsize < 2 ^ 32)
    (decode : Memory → Nat → Dec α) :
  Logs (Event.Within pktsize) (nested data pktsize decode) base ↔
    Logs (Event.Within (pktsize - base)) (decode (shift data base) (pktsize - base)) 0
  := by
  have hsub : sub32 pktsize base = pktsize - base := by
    simp only [sub32]
    omega
  rw [nested, logs_here_bind, logs_scope, hsub]
  simp only [within_shiftEvent hbase]

theorem returns_nested (hbase : base ≤ pktsize) (hpktsize : pktsize < 2 ^ 32)
    {decode : Memory → Nat → Dec α} {a : α}
    (h : Returns (decode (shift data base) (pktsize - base)) 0 a q) :
  Returns (nested data pktsize decode) base a base
  := by
  have hsub : sub32 pktsize base = pktsize - base := by
    simp only [sub32]
    omega
  rw [← hsub] at h
  exact (returns_here base).bind (returns_scope _ h base)

theorem logs_advance (P : Serialiser.Event → Prop) (serialSize : α → Nat) (item : Option α) :
  Logs P (advance serialSize item) p
  := by
  cases item with
  | none => apply logs_pure
  | some item => simp only [advance, logs_bind, logs_here, logs_seek, post_here, and_self]

theorem logs_optionalReceipt (hpktsize : pktsize < 2 ^ 32) (base : Nat) :
  Logs (Event.Within pktsize) (optionalReceipt data pktsize) base ↔
    (base < pktsize → ReceiptSafe (shift data base) (pktsize - base))
  := by
  rw [optionalReceipt, logs_here_bind, logs_ite_iff, and_iff_left fun _ => logs_pure _ _]
  apply imp_congr_right
  intro hbase
  rw [logs_bind, logs_nested hbase.le hpktsize, logs_receipt _ _ (by omega), and_iff_left]
  intro receiptItem _
  rw [logs_bind]
  refine ⟨logs_advance _ _ _, ?_⟩
  intro _ _
  apply logs_pure

theorem logs_items (hbase : base ≤ pktsize) (hpktsize : pktsize < 2 ^ 32) (dataSize : Nat)
    (ok : Bool) (rssize : Nat)
    (make : RsGRouterGenericDataItem → Option RsGRouterSignedReceiptItem → RsGRouterRoutingInfoItem)
      :
  Logs (Event.Within pktsize) (routingInfoItems data dataSize pktsize ok rssize make) base ↔
    ItemsSafe data dataSize pktsize base
  := by
  obtain ⟨q, hitem⟩ := returns_dataItem (shift data base) dataSize (pktsize - base)
  have hadvance (dataItem : Option RsGRouterGenericDataItem) :
      dataItem = (if DataItemDecoded (shift data base) (pktsize - base) then
        some (dataItemAt (shift data base)) else none) →
      Returns (advance RsGRouterGenericDataItem.serialSize dataItem : Dec Unit) base ⟨⟩
        (receiptOffset data pktsize base) := by
    rintro rfl
    rw [receiptOffset]
    by_cases hdecoded : DataItemDecoded (shift data base) (pktsize - base)
    · rw [if_pos hdecoded, if_pos hdecoded, ← serialSize_dataItemAt]
      exact (returns_here base).bind (returns_seek _ base)
    · rw [if_neg hdecoded, if_neg hdecoded]
      exact returns_pure _ base
  rw [routingInfoItems, logs_bind, logs_nested hbase hpktsize, logs_dataItem _ _ _ (by omega),
    post_iff_of_returns (returns_nested hbase hpktsize hitem), ItemsSafe]
  apply and_congr_right
  intro _
  rw [logs_bind_of_returns (hadvance _ rfl) (logs_advance _ _ _), logs_bind,
    logs_optionalReceipt hpktsize, and_iff_left]
  intro receiptItem _
  split
  · apply logs_pure
  · apply logs_finish

theorem fieldsEnd_add_lt (pktsize : Nat) (widths : List Nat) (hsum : widths.sum + n ≤ 200) :
  fieldsEnd pktsize 8 widths + n < 2 ^ 32
  := by
  have hle := fieldsEnd_le_add pktsize widths 8
  omega

theorem fieldEnd_fieldsEnd (pktsize : Nat) (widths : List Nat) (n : Nat) :
  fieldEnd pktsize (fieldsEnd pktsize p widths) n = fieldsEnd pktsize p (widths ++ [n])
  := by
  rw [fieldsEnd, fieldsEnd, List.foldl_append, List.foldl_cons, List.foldl_nil]

/-- What is read after a field depends on the offset alone. -/
theorem exists_getRaw (value : Nat → α) (old : α) (pktsize : Nat) (widths : List Nat) (n : Nat)
    (hsum : widths.sum + n ≤ 200) :
  ∃ a, ∀ {β : Type} (f : Bool × α → Dec β),
    Logs (Event.Within pktsize) (getRaw n value pktsize old >>= f)
        (fieldsEnd pktsize 8 widths) ↔
      Logs (Event.Within pktsize) (f a) (fieldsEnd pktsize 8 (widths ++ [n]))
  := by
  apply Exists.intro
  intro β f
  rw [logs_getRaw_bind (fieldsEnd_add_lt pktsize widths hsum) le_rfl, fieldEnd_fieldsEnd]

theorem logs_routingInfo (data : Memory) (dataSize pktsize : Nat) (hpktsize : pktsize < 2 ^ 32) :
  (∀ fuel, Logs (Event.Within pktsize)
      (deserialiseRsGRouterRoutingInfoItem data dataSize fuel pktsize) 0) ↔
    RoutingInfoSafe data dataSize pktsize
  := by
  have hwidths (widths : List Nat) := exists_getRaw data.be32 0 pktsize widths 4
  have htimes (widths : List Nat) := exists_getRaw data.be64 0 pktsize widths 8
  have hhashes (widths : List Nat) := exists_getRaw (fun p => data.read p 20) [] pktsize widths 20
  obtain ⟨peerId, hpeerId⟩ := exists_getRaw (fun p => data.read p 16) [] pktsize [] 16 (by decide)
  obtain ⟨dataStatus, hdataStatus⟩ := hwidths [16] (by decide)
  obtain ⟨tunnelStatus, htunnelStatus⟩ := hwidths [16, 4] (by decide)
  obtain ⟨received, hreceived⟩ := htimes [16, 4, 4] (by decide)
  obtain ⟨lastSent, hlastSent⟩ := htimes [16, 4, 4, 8] (by decide)
  obtain ⟨lastRequest, hlastRequest⟩ := htimes [16, 4, 4, 8, 8] (by decide)
  obtain ⟨attempts, hattempts⟩ := hwidths [16, 4, 4, 8, 8, 8] (by decide)
  obtain ⟨clientId, hclientId⟩ := hwidths [16, 4, 4, 8, 8, 8, 4] (by decide)
  obtain ⟨itemHash, hitemHash⟩ := hhashes [16, 4, 4, 8, 8, 8, 4, 4] (by decide)
  obtain ⟨tunnelHash, htunnelHash⟩ := hhashes [16, 4, 4, 8, 8, 8, 4, 4, 20] (by decide)
  obtain ⟨flags, hflags⟩ := hwidths [16, 4, 4, 8, 8, 8, 4, 4, 20, 20] (by decide)
  have hstart : fieldsEnd pktsize 8 [] = 8 := rfl
  have hheader : Event.Within pktsize (.read 4 4) ↔ 8 ≤ pktsize := by
    simp only [Event.Within]
    omega
  rw [hstart] at hpeerId
  simp only [deserialiseRsGRouterRoutingInfoItem, getRawUInt64, getRawUInt32, getRawUInt_eq,
    deserialiseId_eq, sha1Size, logs_seek_bind, logs_getRsItemSize_bind, hheader, forall_and, forall_const, RoutingInfoSafe,
    List.cons_append, List.nil_append, hpeerId, hdataStatus, htunnelStatus, hreceived, hlastSent,
    hlastRequest, hattempts, hclientId, hitemHash, htunnelHash, hflags, routesOffset]
  apply and_congr_right
  intro hroom
  apply logs_peers_bind (fieldsEnd_add_lt pktsize _ (by decide)) (fieldsEnd_le _ hroom) le_rfl
    hpktsize _ (ItemsSafe data dataSize pktsize)
  intro incomingRoutes base hbase
  apply logs_items hbase hpktsize

/-! ### All packets -/

/-- A packet that is decoded.  The number is what the size field of the item holds before it is
decoded. -/
inductive Packet
  | turtleGenericData (dataSize : Nat)
  | transactionChunk (chunkSize : Nat)
  | genericData (dataSize : Nat)
  | routingInfo (dataSize : Nat)

/-- The decoder of a packet only reads bytes at positions below `pktsize`. -/
def Packet.ReadsWithin (data : Memory) (pktsize : Nat) : Packet → Prop
  | .turtleGenericData dataSize =>
      Logs (Event.Within pktsize) (RsTurtleGenericDataItem.ofPacket data dataSize pktsize) 0
  | .transactionChunk chunkSize =>
      Logs (Event.Within pktsize)
        (deserialiseRsGRouterTransactionChunkItem data chunkSize pktsize) 0
  | .genericData dataSize =>
      Logs (Event.Within pktsize) (deserialiseRsGRouterGenericDataItem data dataSize pktsize) 0
  | .routingInfo dataSize => ∀ fuel, Logs (Event.Within pktsize)
      (deserialiseRsGRouterRoutingInfoItem data dataSize fuel pktsize) 0

/-- The condition on the bytes of a packet. -/
def Packet.Safe (data : Memory) (pktsize : Nat) : Packet → Prop
  | .turtleGenericData dataSize => TurtleDataSafe data dataSize pktsize
  | .transactionChunk chunkSize => ChunkSafe data chunkSize pktsize
  | .genericData dataSize => DataItemSafe data dataSize pktsize
  | .routingInfo dataSize => RoutingInfoSafe data dataSize pktsize

/-- A decoder stays within its packet if and only if its condition holds. -/
theorem Packet.readsWithin_iff (data : Memory) (pktsize : Nat) (hpktsize : pktsize < 2 ^ 32)
    (packet : Packet) :
  packet.ReadsWithin data pktsize ↔ packet.Safe data pktsize
  := by
  cases packet with
  | turtleGenericData dataSize => apply logs_turtleData
  | transactionChunk chunkSize => apply logs_chunk
  | genericData dataSize => apply logs_dataItem data dataSize pktsize hpktsize
  | routingInfo dataSize => apply logs_routingInfo data dataSize pktsize hpktsize

/-- A packet of 16 bytes, which announces 4 bytes of data that it does not have. -/
def announcedData : List UInt8 := [2, 0, 0x14, 0x0a, 0, 0, 0, 20, 0, 0, 0, 1, 0, 0, 0, 4]

theorem Packet.readsWithin_iff_announcedData :
  (Packet.turtleGenericData 0).ReadsWithin (Bytes.toMemory announcedData) 16 ↔
    (Packet.turtleGenericData 0).Safe (Bytes.toMemory announcedData) 16
  := Packet.readsWithin_iff _ 16 (by decide) _

/-- The four bytes behind `announcedData` are read. -/
theorem not_readsWithin_announcedData :
  ¬ (Packet.turtleGenericData 0).ReadsWithin (Bytes.toMemory announcedData) announcedData.length
  := by
  intro hreads
  have hsafe := (logs_turtleData _ 0 announcedData.length).1 hreads
  rw [TurtleDataSafe, CopySafe] at hsafe
  revert hsafe
  decide

end GRouter
