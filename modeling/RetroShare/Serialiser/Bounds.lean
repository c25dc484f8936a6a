import RetroShare.Serialiser.TlvItems

/-!
# Where the decoders read

Each decoder checks the numbers it takes from the buffer in its own way, in 32-bit arithmetic.
For each of them there is a condition on the bytes at its offset, `HeaderSafe` for
`SkipUnknownTlv`, `NumberSafe` for the numbers and so on, under which it only reads bytes of
the buffer, and without which it reads beyond.  A decoder gets the end `lim` of the item that
it is part of; `bound` is the size of the buffer.
-/

namespace Serialiser

open Decoder

/-- A read stays below `bound`. -/
def Event.Within (bound : Nat) : Event → Prop
  | .read p n => n = 0 ∨ p + n ≤ bound
  | _ => True

variable (data : Memory)

/-- The header at `p` is accepted by the decoder of an item of type `type`. -/
def Accepted (type lim p : Nat) : Prop :=
  add32 p (data.be32 (p + 2)) ≤ lim ∧ data.be16 p = type

/-- The end of the `n` bytes at `p` does not wrap around into the item. -/
def RawSafe (n lim p : Nat) : Prop := p + n < 2 ^ 32 ∨ lim < add32 p n

/-- The header at `p` does not wrap around. -/
def HeaderSafe (p : Nat) : Prop := p + tlvHeaderSize < 2 ^ 32

/-- The condition for a number of `n` bytes. -/
def NumberSafe (n type lim p : Nat) : Prop :=
  HeaderSafe p ∧ (p + tlvHeaderSize ≤ lim → Accepted data type lim p →
    RawSafe n (add32 p (data.be32 (p + 2))) (p + tlvHeaderSize))

/-- The condition for a string: the header lies in the buffer, which is not checked, and the
size counts the header and does not wrap around. -/
def StringSafe (type lim bound p : Nat) : Prop :=
  p + tlvHeaderSize ≤ bound ∧ (Accepted data type lim p →
    tlvHeaderSize ≤ data.be32 (p + 2) ∧ p + data.be32 (p + 2) < 2 ^ 32)

/-- The condition for binary data. -/
def BinarySafe (type lim p : Nat) : Prop :=
  HeaderSafe p ∧ (p + tlvHeaderSize ≤ lim → Accepted data type lim p →
    tlvHeaderSize ≤ data.be32 (p + 2) → p + data.be32 (p + 2) < 2 ^ 32)

/-- The condition for a raw string. -/
def RawStringSafe (lim p : Nat) : Prop :=
  p + 4 < 2 ^ 32 ∧ (p + 4 ≤ lim → RawSafe (data.be32 p) lim (p + 4))

variable {data} {lim bound p : Nat} {P : Event → Prop}

section Simple

variable (hp : p ≤ lim) (hlim : lim ≤ bound) (hbound : bound < 2 ^ 32) {α : Type} (type n : Nat)

include hp hlim hbound

theorem logs_skipUnknownTlv :
  Logs (Event.Within bound) (skipUnknownTlv data lim) p ↔ HeaderSafe p
  := by
  simp only [skipUnknownTlv, getTlvSize, logs_bind, logs_here, post_here, logs_ite_iff, logs_pure,
    logs_tell, logs_seek, post_bind, post_tell, post_pure, post_seek, implies_true, and_true,
    true_and]
  simp only [Event.Within, HeaderSafe, add32, tlvHeaderSize]
  omega

omit hp in
theorem logs_getRaw (value : Nat → α) (old : α) :
  Logs (Event.Within bound) (getRaw n value lim old) p ↔ n = 0 ∨ RawSafe n lim p
  := by
  simp only [getRaw, logs_bind, logs_here, post_here, logs_ite_iff, logs_pure,
    logs_tell, logs_seek, post_tell, post_seek, implies_true, and_true, true_and]
  simp only [Event.Within, RawSafe, add32]
  omega

omit hp in
theorem logs_getRawUInt (value : Nat → Nat) (old : Nat) :
  Logs (Event.Within bound) (getRawUInt n value lim old) p ↔ n = 0 ∨ RawSafe n lim p
  := logs_getRaw hlim hbound n value old

omit hp in
theorem logs_deserialiseId (old : List UInt8) :
  Logs (Event.Within bound) (deserialiseId data n lim old) p ↔ n = 0 ∨ RawSafe n lim p
  := logs_getRaw hlim hbound n (fun p => data.read p n) old

theorem logs_getTlvString (old : List UInt8) :
  Logs (Event.Within bound) (getTlvString data lim type old) p ↔ StringSafe data type lim bound p
  := by
  have hlt := data.be32_lt (p + 2)
  simp only [getTlvString, getTlvType, getTlvSize, logs_bind, logs_here, post_here, logs_ite_iff,
    logs_pure, logs_tell, logs_seek, post_bind, post_tell, post_pure, post_seek, implies_true,
    and_true, true_and]
  simp only [Event.Within, StringSafe, Accepted, add32, sub32, tlvHeaderSize, ne_eq]
  omega

omit hp hlim in
/-- The reads of an item: those of its header, and when it is accepted those of the content. -/
theorem logs_withTlvHeader (old : α) (content : Nat → Dec (Bool × α)) :
  Logs (Event.Within bound) (withTlvHeader data type lim old content) p ↔
    p + tlvHeaderSize ≤ bound ∧ (Accepted data type lim p →
      Logs (Event.Within bound) (content (add32 p (data.be32 (p + 2)))) (p + tlvHeaderSize))
  := by
  simp only [withTlvHeader, getTlvType, getTlvSize, logs_bind, logs_here, post_here, logs_ite_iff,
    logs_pure, logs_tell, logs_seek, post_bind, post_tell, post_pure, post_seek, implies_true,
    and_true, true_and]
  simp only [Event.Within, Accepted, tlvHeaderSize, ne_eq]
  constructor
  · rintro ⟨-, hread, hcontent⟩
    refine ⟨by omega, ?_⟩
    rintro ⟨hend, htype⟩
    have h := hcontent (by omega) (by simpa using htype)
    rwa [show add32 p 6 = p + 6 by simp only [add32]; omega] at h
  · rintro ⟨hread, hcontent⟩
    refine ⟨by omega, by omega, ?_⟩
    intro hend htype
    rw [show add32 p 6 = p + 6 by simp only [add32]; omega]
    apply hcontent ⟨by omega, by simpa using htype⟩

theorem logs_withTlv (old : α) (content : Nat → Dec (Bool × α)) :
  Logs (Event.Within bound) (withTlv data type lim old content) p ↔
    HeaderSafe p ∧ (p + tlvHeaderSize ≤ lim → Accepted data type lim p →
      Logs (Event.Within bound) (content (add32 p (data.be32 (p + 2)))) (p + tlvHeaderSize))
  := by
  simp only [withTlv, logs_bind, logs_here, post_here, logs_ite_iff, logs_pure, implies_true,
    true_and]
  rw [logs_withTlvHeader hbound]
  simp only [HeaderSafe, tlvHeaderSize]
  constructor
  · intro h
    by_cases hroom : lim < add32 p 6
    · simp only [add32] at hroom
      exact ⟨by omega, fun hle => by omega⟩
    · exact ⟨by have := (h hroom).1; omega, fun _ => (h hroom).2⟩
  · rintro ⟨hheader, hcontent⟩ hroom
    simp only [add32] at hroom
    exact ⟨by omega, hcontent (by omega)⟩

omit hp hlim hbound in
/-- The end of an item reads nothing. -/
theorem logs_closeTlv (content : Nat → Dec (Bool × α)) (tlvend : Nat) :
  Logs P (closeTlv content tlvend) p ↔ Logs P (content tlvend) p
  := by
  simp only [closeTlv, logs_bind, logs_seek, logs_pure, post_true, and_true]

/-- The reads of a number. -/
theorem logs_getTlvUInt (n type : Nat) (hn : n ≠ 0) (value : Nat → Nat) (old : Nat) :
  Logs (Event.Within bound)
      (withTlv data type lim old fun tlvend => getRawUInt n value tlvend old) p ↔
    NumberSafe data n type lim p
  := by
  rw [logs_withTlv hp hlim hbound, NumberSafe]
  apply and_congr_right
  intro _
  apply imp_congr_right
  intro _
  apply imp_congr_right
  intro haccepted
  rw [logs_getRawUInt (haccepted.1.trans hlim) hbound, or_iff_right hn]

theorem logs_binaryData (self : RsTlvBinaryData) :
  Logs (Event.Within bound) (self.getTlv data lim) p ↔ BinarySafe data self.tlvtype lim p
  := by
  have hlt := data.be32_lt (p + 2)
  simp only [RsTlvBinaryData.getTlv, getTlvType, getTlvSize, logs_bind, logs_here, post_here,
    logs_ite_iff, logs_pure, logs_tell, logs_seek, post_bind, post_tell, post_pure, post_seek,
    implies_true, and_true, true_and]
  simp only [Event.Within, BinarySafe, HeaderSafe, Accepted, add32, tlvHeaderSize, ne_eq]
  omega

theorem logs_getRawString (outStr : List UInt8) :
  Logs (Event.Within bound) (getRawString data lim outStr) p ↔ RawStringSafe data lim p
  := by
  have hlt := data.be32_lt p
  simp only [getRawString, getRawUInt32, getRawUInt, logs_bind, logs_here, post_here, logs_ite_iff,
    post_ite_iff, logs_pure, logs_tell, logs_seek, post_bind, post_tell, post_pure, post_seek,
    implies_true, and_true, true_and, Bool.false_eq_true, false_implies, true_implies]
  simp only [Event.Within, RawStringSafe, RawSafe, add32]
  omega

end Simple

/-! ### Strings stay in the buffer -/

@[simp]
theorem length_removeSuspicious (s : List UInt8) :
  (removeSuspicious s).length = s.length
  := by
  rw [removeSuspicious]
  split <;> simp

@[simp]
theorem length_sanitise (type : Nat) (s : List UInt8) :
  (sanitise type s).length = s.length
  := by
  rw [sanitise]
  split <;> simp [replaceControl]

theorem removeSuspicious_eq {s : List UInt8} (h : ∀ b ∈ s, b.toNat ≠ 0x3c ∧ b.toNat ≠ 0x50) :
  removeSuspicious s = s
  := by
  have hhead : ∀ t ∈ suspiciousStrings, ∃ b ∈ t, b.toNat = 0x3c ∨ b.toNat = 0x50 := by decide
  rw [removeSuspicious, if_neg]
  rw [Bool.not_eq_true, List.any_eq_false]
  intro t ht hinfix
  obtain ⟨b, hb, hvalue⟩ := hhead t ht
  have hne := h b ((of_decide_eq_true hinfix).subset hb)
  omega

/-- A string that has been decoded is no longer than the rest of the buffer, and ends in it. -/
theorem post_getTlvString_le {type : Nat} (old : List UInt8)
    (hsafe : StringSafe data type bound bound p) :
  Post (getTlvString data bound type old) p fun r q =>
    r.1 → r.2.length ≤ bound - p ∧ q ≤ bound
  := by
  have hlt := data.be32_lt (p + 2)
  simp only [getTlvString, getTlvType, getTlvSize, post_bind, post_here, post_ite_iff, post_tell,
    post_pure, post_seek, implies_true, true_and, Bool.false_eq_true, false_implies, true_implies,
    length_sanitise, Memory.length_read]
  simp only [StringSafe, Accepted, add32, sub32, tlvHeaderSize, ne_eq] at hsafe ⊢
  omega

/-- A raw string that has been decoded adds no more than the rest of the buffer, and ends in
it. -/
theorem post_getRawString_le (outStr : List UInt8) (hbound : bound < 2 ^ 32)
    (hsafe : RawStringSafe data bound p) :
  Post (getRawString data bound outStr) p fun r q =>
    r.1 → r.2.length ≤ outStr.length + (bound - p) ∧ q ≤ bound
  := by
  have hlt := data.be32_lt p
  simp only [getRawString, getRawUInt32, getRawUInt, post_bind, post_here, post_ite_iff, post_tell,
    post_pure, post_seek, implies_true, and_true, true_and, Bool.false_eq_true, false_implies,
    true_implies, List.length_append, Memory.length_read]
  simp only [RawStringSafe, RawSafe, add32] at hsafe ⊢
  omega

/-! ### File items -/

/-- The condition for an optional part of a file item at `p`. -/
def OptionalSafe (data : Memory) (tlvend bound p : Nat) : Prop :=
  p + 2 < 2 ^ 32 ∧
    if data.be16 p ∈ [tlvTypeStrName, tlvTypeStrPath] then
      StringSafe data (data.be16 p) tlvend bound p
    else if data.be16 p ∈ [tlvTypeUInt32Pop, tlvTypeUInt32Age, tlvTypeUInt32Size] then
      NumberSafe data 4 (data.be16 p) tlvend p
    else HeaderSafe p

/-- The condition for an iteration of the loop of a file item that ends at `tlvend`, or of a
set of hashes in it. -/
def Event.Safe (data : Memory) (tlvend bound : Nat) : Event → Prop
  | .enter .fileItem p => OptionalSafe data tlvend bound p
  | .enter .idSet p => p + sha1Size < 2 ^ 32
  | _ => True

/-- The condition for the mandatory part of a file item at `p`: the number and the hash do not
wrap around.  The hash is decoded after the number, or in its place when there is no room for
the number. -/
def MandatorySafe (tlvend p : Nat) : Prop :=
  RawSafe 8 tlvend (p + 6) ∧
    if tlvend < add32 (p + 6) 8 then RawSafe sha1Size tlvend (p + 6)
    else RawSafe sha1Size tlvend (p + 14)

/-- The condition for a file item: its header lies in the buffer, which is not checked, its
mandatory part does not wrap around, and every iteration over the optional parts is safe. -/
def FileItemSafe (data : Memory) (self : RsTlvFileItem) (bound p : Nat) : Prop :=
  p + tlvHeaderSize ≤ bound ∧ (Accepted data tlvTypeFileitem bound p →
    MandatorySafe (add32 p (data.be32 (p + 2))) p ∧
    ∀ fuel, Logs (Event.Safe data (add32 p (data.be32 (p + 2))) bound)
      (self.getTlv data fuel bound) p)

/-- A number is read, or the offset is kept. -/
theorem post_getRawUInt (n : Nat) (value : Nat → Nat) (size old : Nat) {q : Nat}
    (Q : Bool × Nat → Nat → Prop) :
  Post (getRawUInt n value size old : Dec (Bool × Nat)) q Q ↔
    if size < add32 q n then Q (false, old) q else Q (true, value q) (add32 q n)
  := by
  simp only [getRawUInt, post_bind, post_here]
  split <;> simp only [post_bind, post_tell, post_seek, post_pure]

section Reads

variable {P : Event → Prop} (hread : ∀ p n, P (.read p n)) {α : Type}

include hread

theorem logs_skipUnknownTlv_of_read (size : Nat) :
  Logs P (skipUnknownTlv data size) p
  := by
  simp [skipUnknownTlv, getTlvSize, logs_ite_iff, hread]

theorem logs_getTlvString_of_read (size type : Nat) (old : List UInt8) :
  Logs P (getTlvString data size type old) p
  := by
  simp [getTlvString, getTlvType, getTlvSize, logs_ite_iff, hread]

theorem logs_getRawUInt_of_read (n : Nat) (value : Nat → Nat) (size old : Nat) :
  Logs P (getRawUInt n value size old) p
  := by
  simp [getRawUInt, logs_ite_iff, hread]

theorem logs_deserialiseId_of_read (n size : Nat) (old : List UInt8) :
  Logs P (deserialiseId data n size old) p
  := by
  simp [deserialiseId, logs_ite_iff, hread]

theorem logs_withTlvHeader_of_read (type size : Nat) (old : α) (content : Nat → Dec (Bool × α)) :
  Logs P (withTlvHeader data type size old content) p ↔
    (Accepted data type size p →
      Logs P (content (add32 p (data.be32 (p + 2)))) (add32 p tlvHeaderSize))
  := by
  simp [withTlvHeader, getTlvType, getTlvSize, logs_ite_iff, hread, Accepted]

theorem logs_withTlv_of_read (type size : Nat) (old : α) (content : Nat → Dec (Bool × α)) :
  Logs P (withTlv data type size old content) p ↔
    (add32 p tlvHeaderSize ≤ size → Accepted data type size p →
      Logs P (content (add32 p (data.be32 (p + 2)))) (add32 p tlvHeaderSize))
  := by
  simp only [withTlv, logs_bind, logs_here, post_here, logs_ite_iff, logs_pure, implies_true,
    true_and, not_lt, logs_withTlvHeader_of_read hread]

theorem logs_getTlvUInt32_of_read (size type old : Nat) :
  Logs P (getTlvUInt32 data size type old) p
  := by
  rw [getTlvUInt32, logs_withTlv_of_read hread]
  intro _ _
  apply logs_getRawUInt_of_read hread

end Reads

theorem logs_fill {α β : Type} (x : Dec (Bool × α)) (set : α → β) :
  Logs P (fill x set) p ↔ Logs P x p
  := by
  simp only [fill, logs_bind, logs_pure, and_iff_left_iff_imp]
  intro _
  apply post_true

theorem logs_skip {α : Type} (tlvend : Nat) (v : α) :
  Logs P (skip data tlvend v) p ↔ Logs P (skipUnknownTlv data tlvend) p
  := by
  simp only [skip, logs_bind, logs_pure, and_iff_left_iff_imp]
  intro _
  apply post_true

section FileItem

variable (hlim : lim ≤ bound) (hbound : bound < 2 ^ 32) {q : Nat}

include hlim hbound

/-- An iteration of the loop over a set of ids, as its guard holds, is safe when the end of
the id does not wrap around. -/
theorem logs_idSet_getId (hguard : add32 q sha1Size ≤ lim) (v : Bool × IdSet) (hv : v.1 = true) :
  Logs (Event.Within bound) (IdSet.getId data sha1Size lim v) q ↔ q + sha1Size < 2 ^ 32
  := by
  simp only [IdSet.getId, hv, if_true, logs_bind, logs_pure, post_true, and_true]
  rw [logs_deserialiseId hlim hbound, or_iff_right (by decide), RawSafe]
  omega

omit hlim hbound in
/-- An id is read, as the guard of the loop holds. -/
theorem post_idSet_getId_of_room (hguard : add32 q sha1Size ≤ lim) (v : Bool × IdSet)
    (hv : v.1 = true) :
  Post (IdSet.getId data sha1Size lim v) q fun r _ => r.1 → r.2.1 = true
  := by
  rw [IdSet.getId, if_pos hv, post_bind, deserialiseId, post_bind, post_here,
    if_neg (Nat.not_lt.2 hguard)]
  simp

theorem logs_idSet (hp : p ≤ lim) (fuel tlvend : Nat) (self : IdSet) :
  Logs (Event.Within bound) (rsTlvIdSetGetTlv data sha1Size tlvTypeHashset fuel lim self) p ↔
    HeaderSafe p ∧
      Logs (Event.Safe data tlvend bound)
        (rsTlvIdSetGetTlv data sha1Size tlvTypeHashset fuel lim self) p
  := by
  rw [rsTlvIdSetGetTlv, logs_withTlv hp hlim hbound, logs_withTlv_of_read fun _ _ => trivial]
  apply and_congr_right
  intro hheader
  rw [show add32 p tlvHeaderSize = p + tlvHeaderSize by
    simp only [HeaderSafe, tlvHeaderSize] at hheader; simp only [add32, tlvHeaderSize]; omega]
  apply imp_congr_right
  intro _
  apply imp_congr_right
  intro haccepted
  simp only [logs_bind, logs_here, logs_pure, post_true, and_true]
  refine logs_loop_iff (I := fun v => v.1 = true) ?_ ?_ fuel true _ _ rfl
  · intro v q hv hguard
    rw [decide_eq_true_eq] at hguard
    rw [logs_idSet_getId (haccepted.1.trans hlim) hbound hguard v hv]
    simp only [IdSet.getId, hv, if_true, logs_bind, logs_pure, post_true, and_true]
    simp only [logs_deserialiseId_of_read (P := Event.Safe data tlvend bound) fun _ _ => trivial,
      and_true, Event.Within, Event.Safe, true_and]
  · intro v q hv hguard
    rw [decide_eq_true_eq] at hguard
    refine (post_idSet_getId_of_room hguard v hv).mono ?_
    intro r q' h hok
    exact ⟨Iff.rfl, h hok⟩

/-- An iteration over the optional parts of a file item is safe when the part is and, for a
set of hashes, its iterations are. -/
theorem logs_fileItem_getOptional (hguard : add32 q 2 < lim) (fuel : Nat) (self : RsTlvFileItem) :
  Logs (Event.Within bound) (self.getOptional data fuel lim) q ↔
    OptionalSafe data lim bound q ∧
      Logs (Event.Safe data lim bound) (self.getOptional data fuel lim) q
  := by
  have hread : ∀ p n, Event.Safe data lim bound (.read p n) := fun _ _ => trivial
  have htype : Event.Within bound (.read q 2) ↔ q + 2 < 2 ^ 32 := by
    simp only [add32] at hguard
    simp only [Event.Within]
    omega
  simp only [RsTlvFileItem.getOptional, getTlvType, logs_bind, logs_here, post_here, logs_tell,
    logs_pure, post_bind, post_tell, post_pure, true_and, and_true, htype, hread, OptionalSafe,
    and_assoc]
  apply and_congr_right
  intro hwrap
  have hq : q ≤ lim := by
    simp only [add32] at hguard
    omega
  simp only [List.mem_cons, List.not_mem_nil, or_false]
  by_cases hname : data.be16 q = tlvTypeStrName
  · simp only [hname, if_true, true_or, logs_fill, logs_getTlvString_of_read hread, and_true]
    apply logs_getTlvString hq hlim hbound
  by_cases hpath : data.be16 q = tlvTypeStrPath
  · simp only [hname, if_false, false_or]
    simp only [hpath, if_true, logs_fill, logs_getTlvString_of_read hread, and_true]
    apply logs_getTlvString hq hlim hbound
  simp only [hname, hpath, if_false, false_or]
  by_cases hpop : data.be16 q = tlvTypeUInt32Pop
  · simp only [hpop, if_true, true_or, logs_fill, logs_getTlvUInt32_of_read hread, and_true]
    apply logs_getTlvUInt hq hlim hbound 4 _ (by decide)
  by_cases hage : data.be16 q = tlvTypeUInt32Age
  · simp only [hpop, if_false, false_or]
    simp only [hage, if_true, true_or, logs_fill, logs_getTlvUInt32_of_read hread, and_true]
    apply logs_getTlvUInt hq hlim hbound 4 _ (by decide)
  by_cases hsize : data.be16 q = tlvTypeUInt32Size
  · simp only [hpop, hage, if_false, false_or]
    simp only [hsize, if_true, logs_fill, logs_getTlvUInt32_of_read hread, and_true]
    apply logs_getTlvUInt hq hlim hbound 4 _ (by decide)
  simp only [hpop, hage, hsize, if_false, false_or]
  by_cases hhash : data.be16 q = tlvTypeHashset
  · simp only [hhash, if_true, logs_fill]
    apply logs_idSet hlim hbound hq
  · simp only [hhash, if_false, logs_skip, logs_skipUnknownTlv_of_read hread, and_true]
    apply logs_skipUnknownTlv hq hlim hbound

/-- The optional parts of a file item, which is the rest of it, are read safely when every
iteration is safe. -/
theorem logs_fileItem_loop (fuel : Nat) (ok : Bool) (v : RsTlvFileItem) (q : Nat) :
  Logs (Event.Within bound)
      (contentLoop .fileItem 2 lim (RsTlvFileItem.getOptional data fuel lim) fuel ok v) q ↔
    Logs (Event.Safe data lim bound)
      (contentLoop .fileItem 2 lim (RsTlvFileItem.getOptional data fuel lim) fuel ok v) q
  := by
  refine logs_loop_iff (I := fun _ => True) ?_ ?_ fuel ok v q trivial
  · intro v q _ hguard
    rw [decide_eq_true_eq] at hguard
    rw [logs_fileItem_getOptional hlim hbound hguard]
    simp only [Event.Within, Event.Safe, true_and]
  · intro v q _ _ _ _ _
    exact ⟨Iff.rfl, trivial⟩

end FileItem

theorem logs_fileItem_getTlv (fuel : Nat) (self : RsTlvFileItem) (hbound : bound < 2 ^ 32) :
  Logs (Event.Within bound) (self.getTlv data fuel bound) p ↔
    p + tlvHeaderSize ≤ bound ∧ (Accepted data tlvTypeFileitem bound p →
      MandatorySafe (add32 p (data.be32 (p + 2))) p ∧
      Logs (Event.Safe data (add32 p (data.be32 (p + 2))) bound) (self.getTlv data fuel bound) p)
  := by
  have hread : ∀ q n, Event.Safe data (add32 p (data.be32 (p + 2))) bound (.read q n) :=
    fun _ _ => trivial
  simp only [RsTlvFileItem.getTlv, logs_withTlvHeader hbound, logs_withTlvHeader_of_read hread]
  apply and_congr_right
  intro hroom
  rw [show add32 p tlvHeaderSize = p + 6 by
    simp only [tlvHeaderSize] at hroom; simp only [add32, tlvHeaderSize]; omega]
  apply imp_congr_right
  intro haccepted
  rw [forall_prop_of_true haccepted]
  have hlim := haccepted.1
  generalize add32 p (data.be32 (p + 2)) = lim at hlim hread
  simp only [logs_closeTlv, getRawUInt64, tlvHeaderSize, logs_bind, logs_getRawUInt_of_read hread,
    logs_deserialiseId_of_read hread, logs_getRawUInt hlim hbound, logs_deserialiseId hlim hbound,
    post_getRawUInt, logs_fileItem_loop hlim hbound, MandatorySafe, true_and]
  rw [or_iff_right (by decide), and_assoc]
  apply and_congr_right
  intro hraw
  by_cases hshort : lim < add32 (p + 6) 8
  · simp only [hshort, if_true]
    rw [or_iff_right (by decide)]
  · simp only [hshort, if_false]
    rw [or_iff_right (by decide), show add32 (p + 6) 8 = p + 14 by
      simp only [RawSafe] at hraw; simp only [add32] at hshort hraw ⊢; omega]

theorem logs_fileItem (self : RsTlvFileItem) (hbound : bound < 2 ^ 32) :
  (∀ fuel, Logs (Event.Within bound) (self.getTlv data fuel bound) p) ↔
    FileItemSafe data self bound p
  := by
  simp only [logs_fileItem_getTlv _ self hbound, FileItemSafe]
  constructor
  · intro h
    refine ⟨(h 0).1, ?_⟩
    intro haccepted
    refine ⟨((h 0).2 haccepted).1, ?_⟩
    intro fuel
    apply ((h fuel).2 haccepted).2
  · rintro ⟨hroom, hcontent⟩ fuel
    refine ⟨hroom, ?_⟩
    intro haccepted
    exact ⟨(hcontent haccepted).1, (hcontent haccepted).2 fuel⟩

/-! ### All decoders -/

/-- The call of a decoder, without the buffer. -/
inductive Call where
  | tlvString (type : Nat) (in' : List UInt8)
  | rawString (outStr : List UInt8)
  | skipUnknown
  | tlvUInt16 (type old : Nat)
  | tlvUInt32 (type old : Nat)
  | tlvUInt64 (type old : Nat)
  | binaryData (self : RsTlvBinaryData)
  | fileItem (self : RsTlvFileItem)

/-- A call at `offset` only reads bytes of the buffer, which are those below `size`.  A string
that it decodes has no more bytes than the rest of the buffer, and it ends in the buffer;
`getRawString` adds the bytes to what it is given. -/
def Call.InBuffer (data : Memory) (size offset : Nat) : Call → Prop
  | .tlvString type in' =>
      Logs (Event.Within size) (getTlvString data size type in') offset ∧
        Post (getTlvString data size type in') offset fun r q =>
          r.1 → r.2.length ≤ size - offset ∧ q ≤ size
  | .rawString outStr =>
      Logs (Event.Within size) (getRawString data size outStr) offset ∧
        Post (getRawString data size outStr) offset fun r q =>
          r.1 → r.2.length ≤ outStr.length + (size - offset) ∧ q ≤ size
  | .skipUnknown => Logs (Event.Within size) (skipUnknownTlv data size) offset
  | .tlvUInt16 type old => Logs (Event.Within size) (getTlvUInt16 data size type old) offset
  | .tlvUInt32 type old => Logs (Event.Within size) (getTlvUInt32 data size type old) offset
  | .tlvUInt64 type old => Logs (Event.Within size) (getTlvUInt64 data size type old) offset
  | .binaryData self => Logs (Event.Within size) (self.getTlv data size) offset
  | .fileItem self => ∀ fuel, Logs (Event.Within size) (self.getTlv data fuel size) offset

/-- The condition on the bytes of the buffer for a call. -/
def Call.Safe (data : Memory) (size offset : Nat) : Call → Prop
  | .tlvString type _ => StringSafe data type size size offset
  | .rawString _ => RawStringSafe data size offset
  | .skipUnknown => HeaderSafe offset
  | .tlvUInt16 type _ => NumberSafe data 2 type size offset
  | .tlvUInt32 type _ => NumberSafe data 4 type size offset
  | .tlvUInt64 type _ => NumberSafe data 8 type size offset
  | .binaryData self => BinarySafe data self.tlvtype size offset
  | .fileItem self => FileItemSafe data self size offset

/-- A call from within the buffer stays in the buffer if and only if its condition holds. -/
theorem Call.inBuffer_iff (data : Memory) (size offset : Nat) (hoffset : offset ≤ size)
    (hsize : size < 2 ^ 32) (call : Call) :
  call.InBuffer data size offset ↔ call.Safe data size offset
  := by
  cases call with
  | tlvString type in' =>
    rw [InBuffer, Safe, logs_getTlvString hoffset le_rfl hsize, and_iff_left_iff_imp]
    apply post_getTlvString_le
  | rawString outStr =>
    rw [InBuffer, Safe, logs_getRawString hoffset le_rfl hsize, and_iff_left_iff_imp]
    apply post_getRawString_le outStr hsize
  | skipUnknown => apply logs_skipUnknownTlv hoffset le_rfl hsize
  | tlvUInt16 type old => apply logs_getTlvUInt hoffset le_rfl hsize 2 type (by decide)
  | tlvUInt32 type old => apply logs_getTlvUInt hoffset le_rfl hsize 4 type (by decide)
  | tlvUInt64 type old => apply logs_getTlvUInt hoffset le_rfl hsize 8 type (by decide)
  | binaryData self => apply logs_binaryData hoffset le_rfl hsize
  | fileItem self => apply logs_fileItem self hsize

/-- A name with the size field `0`, which does not even count the header. -/
def zeroName : List UInt8 := [0, 0x51, 0, 0, 0, 0]

theorem inBuffer_iff_zeroName :
  (Call.tlvString tlvTypeStrName []).InBuffer (Bytes.toMemory zeroName) 6 0 ↔
    (Call.tlvString tlvTypeStrName []).Safe (Bytes.toMemory zeroName) 6 0
  := Call.inBuffer_iff _ 6 0 (by decide) (by decide) _

/-- After the header of `zeroName`, `2 ^ 32 - 6` bytes are read. -/
theorem not_inBuffer_zeroName :
  ¬ (Call.tlvString tlvTypeStrName []).InBuffer (Bytes.toMemory zeroName) zeroName.length 0
  := by
  rintro ⟨hreads, -⟩
  rw [logs_getTlvString (by decide) le_rfl (by decide)] at hreads
  have hsize := (hreads.2 (by constructor <;> decide)).1
  revert hsize
  decide

end Serialiser
