import RetroShare.Serialiser.SetTlv

/-!
# The content of containers

An `Entry` is a sub-item of a container: its bytes, and what the value of the container is after it
has been read.  The loop over the content reads the entries one after the other when each of them
is read by the body (`returns_contentLoop`), and ends after the last one unless the end of the
container is so near `2 ^ 32` that its guard wraps around (`fits_of_returns_contentLoop`).
-/

namespace Serialiser

open Decoder Encoder
open GRouter (setRaw HasBytes hasBytes_append)

/-! ### Parts -/

/-- `setRawUInt64`. -/
def setRawUInt64 (size value : Nat) : Encoder := setBytes (setRaw 8 value) size

/-- `GetTlvUInt32Size`. -/
def getTlvUInt32Size : Nat := tlvHeaderSize + 4

/-- `SetTlvUInt32`. -/
def setTlvUInt32 (size type out : Nat) : Encoder :=
  setTlv size getTlvUInt32Size type fun tlvend => setRawUInt32 tlvend out

/-- What is written only when `c` holds. -/
def writeIf (c : Prop) [Decidable c] (x : Encoder) : Encoder := if c then x else all []

/-- `setRawUInt64`, as a part. -/
def Part32.uInt64 (value : Nat) : Part32 where
  bytes := setRaw 8 value
  set size := setRawUInt64 size value
  writes := writes_setBytes (setRaw 8 value)

theorem writes_setTlvUInt32 (type out size p : Nat)
    (hroom : p + (tlvBytes type (setRaw 4 out)).length ≤ size) (hsize : size < 2 ^ 32) :
  Writes (setTlvUInt32 size type out) p (tlvBytes type (setRaw 4 out))
  := by
  rw [length_tlvBytes, GRouter.length_setRaw] at hroom
  apply writes_setTlv
  · rw [getTlvUInt32Size, GRouter.length_setRaw]
  · exact hroom
  · exact hsize
  · apply writes_setBytes
    · rw [GRouter.length_setRaw, getTlvUInt32Size, Nat.add_assoc]
    · rw [getTlvUInt32Size]
      omega

/-- `SetTlvUInt32`, as a part. -/
def Part32.tlvUInt32 (type out : Nat) : Part32 where
  bytes := tlvBytes type (setRaw 4 out)
  set size := setTlvUInt32 size type out
  writes := writes_setTlvUInt32 type out

/-- A part that is written only when `c` holds. -/
def Part32.writeIf (c : Prop) [Decidable c] (part : Part32) : Part32 where
  bytes := if c then part.bytes else []
  set size := Serialiser.writeIf c (part.set size)
  writes size p hroom hsize := by
    rw [Serialiser.writeIf]
    by_cases hc : c
    · simp only [if_pos hc] at hroom ⊢
      apply part.writes size p hroom hsize
    · simp only [if_neg hc]
      apply writes_nil

@[simp]
theorem Part32.bytes_uInt64 (value : Nat) :
  (Part32.uInt64 value).bytes = setRaw 8 value
  := rfl

@[simp]
theorem Part32.bytes_tlvUInt32 (type out : Nat) :
  (Part32.tlvUInt32 type out).bytes = tlvBytes type (setRaw 4 out)
  := rfl

@[simp]
theorem Part32.bytes_writeIf (c : Prop) [Decidable c] (part : Part32) :
  (Part32.writeIf c part).bytes = if c then part.bytes else []
  := rfl

/-- A part has the size that is computed for it, up to wrapping. -/
def Part32.HasSize (size : Nat) (part : Part32) : Prop :=
  size % 2 ^ 32 = part.bytes.length % 2 ^ 32

theorem sum32_eq_of_hasSize {n : Nat} {sizes : List Nat} {parts : List Part32}
    (h : List.Forall₂ Part32.HasSize sizes parts) :
  sum32 (n :: sizes) = (n + (Component.bytesOf parts).length) % 2 ^ 32
  := by
  rw [sum32_eq, List.sum_cons]
  induction h with
  | nil => rfl
  | cons hsize _ ih =>
    rw [Part32.HasSize] at hsize
    rw [Component.bytesOf_cons, List.length_append, List.sum_cons]
    omega

theorem Part32.HasSize.writeIf {c : Prop} [Decidable c] {size : Nat} {part : Part32}
    (h : part.HasSize size) :
  (Part32.writeIf c part).HasSize (if c then size else 0)
  := by
  rw [HasSize, bytes_writeIf]
  split
  · exact h
  · rfl

theorem hasSize_string (type : Nat) (s : List UInt8) :
  (Part32.string type s).HasSize (getTlvStringSize s)
  := by
  rw [Part32.HasSize, Part32.bytes_string, length_tlvBytes, getTlvStringSize, add32, Nat.mod_mod]

theorem hasSize_tlvUInt32 (type out : Nat) :
  (Part32.tlvUInt32 type out).HasSize getTlvUInt32Size
  := by
  rw [Part32.HasSize, Part32.bytes_tlvUInt32, length_tlvBytes, GRouter.length_setRaw,
    getTlvUInt32Size]

theorem reads_getRawUInt64 {value : Nat} (hvalue : value < 2 ^ 64) (old : Nat) :
  Reads (fun data size => getRawUInt64 data size old) (setRaw 8 value) value
  := by
  intro data size p hbytes hroom hsize
  rw [GRouter.length_setRaw] at hroom ⊢
  have h := GRouter.returns_getRaw_of_le hsize hroom data.be64 old
  rwa [GRouter.be64_of_hasBytes hbytes hvalue] at h

/-! ### Items at a place -/

section Item

variable {α : Type} {data : Memory} {type size p q : Nat} {bytes : List UInt8} {old : α}
  {content : Nat → Dec (Bool × α)} {r : Bool × α}

theorem returns_closeTlv_iff {tlvend : Nat} :
  Returns (closeTlv content tlvend) p r q ↔
    q = tlvend ∧ ∃ q', Returns (content tlvend) p r q'
  := by
  rw [closeTlv, returns_bind_iff]
  constructor
  · rintro ⟨r', q', hcontent, hrest⟩
    rw [returns_bind_iff_of_returns (returns_seek _ _), returns_pure_iff] at hrest
    obtain ⟨rfl, rfl⟩ := hrest
    exact ⟨rfl, q', hcontent⟩
  · rintro ⟨rfl, q', hcontent⟩
    exact ⟨r, q', hcontent, (returns_seek _ _).bind (returns_pure _ _)⟩

/-- The content of an item that lies in the buffer is decoded, up to its end. -/
theorem returns_withTlvHeader_iff (htype : type < 2 ^ 16)
    (hbytes : HasBytes data p (tlvBytes type bytes))
    (hroom : p + (tlvBytes type bytes).length ≤ size) (hsize : size < 2 ^ 32) :
  Returns (withTlvHeader data type size old content) p r q ↔
    Returns (content (p + (tlvBytes type bytes).length)) (p + tlvHeaderSize) r q
  := by
  obtain ⟨haccepted, hlen, -⟩ := header_of_hasBytes htype hbytes hroom hsize
  have hend : add32 p (data.be32 (p + 2)) = p + (tlvBytes type bytes).length := by
    rw [hlen, ← length_tlvBytes type, add32_eq_of_le hroom hsize]
  have hstart : add32 p tlvHeaderSize = p + tlvHeaderSize := by
    rw [length_tlvBytes] at hroom
    exact add32_eq_of_le (show _ ≤ size by omega) hsize
  rw [withTlvHeader, returns_bind_iff_of_returns (returns_here p),
    returns_bind_iff_of_returns (GRouter.returns_getTlvType data p p),
    returns_bind_iff_of_returns (GRouter.returns_getTlvSize data p p),
    if_neg (not_lt.mpr haccepted.1), if_neg (not_not.mpr haccepted.2),
    returns_bind_iff_of_returns (returns_seek _ p), hend, hstart]

theorem returns_withTlv_iff (htype : type < 2 ^ 16)
    (hbytes : HasBytes data p (tlvBytes type bytes))
    (hroom : p + (tlvBytes type bytes).length ≤ size) (hsize : size < 2 ^ 32) :
  Returns (withTlv data type size old content) p r q ↔
    Returns (content (p + (tlvBytes type bytes).length)) (p + tlvHeaderSize) r q
  := by
  have hle : add32 p tlvHeaderSize ≤ size := by
    rw [length_tlvBytes] at hroom
    rw [add32_eq_of_le (show _ ≤ size by omega) hsize]
    omega
  rw [withTlv, returns_bind_iff_of_returns (returns_here p), if_neg (not_lt.mpr hle),
    returns_withTlvHeader_iff htype hbytes hroom hsize]

theorem hasBytes_content (hbytes : HasBytes data p (tlvBytes type bytes)) :
  HasBytes data (p + tlvHeaderSize) bytes
  := by
  rw [tlvBytes, hasBytes_append, length_setTlvBase] at hbytes
  exact hbytes.2

theorem reads_getTlvUInt32 {value : Nat} (htype : type < 2 ^ 16) (hvalue : value < 2 ^ 32)
    (old : Nat) :
  Reads (fun data size => getTlvUInt32 data size type old) (tlvBytes type (setRaw 4 value)) value
  := by
  intro data size p hbytes hroom hsize
  have hcontent := reads_getRawUInt32 hvalue old data _ _ (hasBytes_content hbytes)
    (by rw [length_tlvBytes]; omega) (hroom.trans_lt hsize)
  apply (returns_withTlv_iff htype hbytes hroom hsize).mpr
  rwa [Nat.add_assoc, ← length_tlvBytes type] at hcontent

theorem returns_fill_iff {β : Type} {x : Dec (Bool × α)} {set : α → β} {b : Bool} {w : β} :
  Returns (fill x set) p (b, w) q ↔ ∃ a, Returns x p (b, a) q ∧ set a = w
  := by
  rw [fill, returns_bind_iff]
  constructor
  · rintro ⟨⟨b', a⟩, q', hx, hrest⟩
    rw [returns_pure_iff] at hrest
    obtain ⟨⟨rfl, rfl⟩, rfl⟩ := And.imp_left Prod.mk.inj hrest
    exact ⟨a, hx, rfl⟩
  · rintro ⟨a, hx, rfl⟩
    exact ⟨(b, a), q, hx, returns_pure _ _⟩

/-- Behind the last byte that has an offset, a header of zeros is skipped without a move. -/
theorem returns_skip_of_zero (hsize : size < 2 ^ 32) (hwrap : 2 ^ 32 ≤ size + 2)
    (hzero : ∀ a, size ≤ a → data a = 0) (v : α) :
  Returns (skip data size v) size (true, v) size
  := by
  have hnum : data.be32 (size + 2) = 0 := by
    simp [Memory.be32, Memory.be16, hzero, Nat.add_assoc]
  have hheader : add32 size tlvHeaderSize ≤ size := by
    simp only [add32, tlvHeaderSize]
    omega
  have hstay : add32 size 0 = size := Nat.mod_eq_of_lt hsize
  have hskip : Returns (skipUnknownTlv data size) size true size := by
    apply (returns_here size).bind
    rw [if_neg (not_lt.mpr hheader)]
    apply (GRouter.returns_getTlvSize data size size).bind
    rw [hnum, hstay, if_neg (lt_irrefl _)]
    exact (returns_seek _ _).bind (returns_pure _ _)
  exact hskip.bind (returns_pure _ _)

end Item

/-! ### Bytes at a place -/

/-- The bytes lie in a buffer of `size` bytes, from `p` on. -/
structure LiesAt (data : Memory) (size p : Nat) (bytes : List UInt8) : Prop where
  hasBytes : HasBytes data p bytes
  room : p + bytes.length ≤ size

section LiesAt

variable {data : Memory} {size p : Nat} {bytes bytes' : List UInt8}

theorem LiesAt.head (h : LiesAt data size p (bytes ++ bytes')) :
  LiesAt data size p bytes
  := by
  have hroom := h.room
  rw [List.length_append] at hroom
  use ((hasBytes_append _ _ _ _).mp h.hasBytes).1
  omega

theorem LiesAt.tail (h : LiesAt data size p (bytes ++ bytes')) :
  LiesAt data size (p + bytes.length) bytes'
  := by
  have hroom := h.room
  rw [List.length_append, ← Nat.add_assoc] at hroom
  use ((hasBytes_append _ _ _ _).mp h.hasBytes).2

theorem Reads.bind_iff {α β : Type} {get : Memory → Nat → Dec (Bool × α)} {a : α}
    (hreads : Reads get bytes a) (h : LiesAt data size p (bytes ++ bytes')) (hsize : size < 2 ^ 32)
    {f : Bool × α → Dec β} {r : β} {q : Nat} :
  Returns (get data size >>= f) p r q ↔ Returns (f (true, a)) (p + bytes.length) r q
  := returns_bind_iff_of_returns (hreads data size p h.head.hasBytes h.head.room hsize)

end LiesAt

/-! ### Entries -/

/-- A sub-item of a container. -/
structure Entry (α : Type) where
  bytes : List UInt8
  /-- What becomes of the value when the sub-item is read. -/
  update : α → α
  /-- The ends at which the sub-item can be read. -/
  Fits : Nat → Prop
  header_le : tlvHeaderSize ≤ bytes.length

namespace Entry

variable {α : Type} {e : Entry α} {c : Prop}

/-- A sub-item of type `type`. -/
def tlv (type : Nat) (content : List UInt8) (update : α → α) (Fits : Nat → Prop) : Entry α where
  bytes := tlvBytes type content
  update := update
  Fits := Fits
  header_le := by
    rw [length_tlvBytes]
    omega

/-- A sub-item that is there when `c` holds. -/
def optional (c : Prop) [Decidable c] (e : Entry α) : List (Entry α) := if c then [e] else []

/-- The bytes of some entries. -/
def bytesOf (entries : List (Entry α)) : List UInt8 := entries.flatMap Entry.bytes

/-- What becomes of a value when the entries are read. -/
def updateAll (entries : List (Entry α)) (v : α) : α := entries.foldl (fun v e => e.update v) v

/-- The entries can be read from `p` on. -/
def FitFrom : Nat → List (Entry α) → Prop
  | _, [] => True
  | p, e :: entries => e.Fits (p + e.bytes.length) ∧ FitFrom (p + e.bytes.length) entries

@[simp]
theorem bytesOf_nil :
  bytesOf ([] : List (Entry α)) = []
  := rfl

@[simp]
theorem bytesOf_cons (e : Entry α) (entries : List (Entry α)) :
  bytesOf (e :: entries) = e.bytes ++ bytesOf entries
  := rfl

@[simp]
theorem bytesOf_append (entries entries' : List (Entry α)) :
  bytesOf (entries ++ entries') = bytesOf entries ++ bytesOf entries'
  := List.flatMap_append

theorem updateAll_append (entries entries' : List (Entry α)) (v : α) :
  updateAll (entries ++ entries') v = updateAll entries' (updateAll entries v)
  := List.foldl_append

@[simp]
theorem bytesOf_optional (c : Prop) [Decidable c] (e : Entry α) :
  bytesOf (optional c e) = if c then e.bytes else []
  := by
  rw [optional]
  split <;> simp

/-- A sub-item that is left out when it would change nothing. -/
theorem updateAll_optional [Decidable c] {v w : α} (h : e.update v = w) (hdefault : ¬ c → v = w) :
  updateAll (optional c e) v = w
  := by
  rw [optional]
  split
  case isTrue => exact h
  case isFalse hc => exact hdefault hc

theorem updateAll_optional_append [Decidable c] {v w : α} (h : e.update v = w)
    (hdefault : ¬ c → v = w) (entries : List (Entry α)) :
  updateAll (optional c e ++ entries) v = updateAll entries w
  := by
  rw [updateAll_append, updateAll_optional h hdefault]

theorem eq_of_mem_optional [Decidable c] {e' : Entry α} (h : e' ∈ optional c e) :
  e' = e
  := by
  rw [optional] at h
  split at h
  · exact List.mem_singleton.mp h
  · cases h

theorem fitFrom_append (entries entries' : List (Entry α)) (p : Nat) :
  FitFrom p (entries ++ entries') ↔
    FitFrom p entries ∧ FitFrom (p + (bytesOf entries).length) entries'
  := by
  induction entries generalizing p with
  | nil => simp [FitFrom]
  | cons e entries ih =>
    rw [List.cons_append, FitFrom, FitFrom, ih, bytesOf_cons, List.length_append, Nat.add_assoc,
      and_assoc]

theorem fitFrom_of_forall {entries : List (Entry α)} (h : ∀ e ∈ entries, ∀ q, e.Fits q) (p : Nat) :
  FitFrom p entries
  := by
  induction entries generalizing p with
  | nil => trivial
  | cons e entries ih =>
    rw [List.forall_mem_cons] at h
    exact ⟨h.1 _, ih h.2 _⟩

theorem fitFrom_optional (c : Prop) [Decidable c] (e : Entry α) (p : Nat) :
  FitFrom p (optional c e) ↔ (c → e.Fits (p + e.bytes.length))
  := by
  rw [optional]
  split
  case isTrue hc => simp [FitFrom, hc]
  case isFalse hc => simp [FitFrom, hc]

theorem length_le (entries : List (Entry α)) :
  entries.length ≤ (bytesOf entries).length
  := by
  induction entries with
  | nil => exact le_rfl
  | cons e entries ih =>
    have hheader := e.header_le
    rw [bytesOf_cons, List.length_append, List.length_cons]
    simp only [tlvHeaderSize] at hheader
    omega

/-- The body of a loop reads the entry in a container that ends at `tlvend` where it fits. -/
def ReadIfFits (data : Memory) (tlvend : Nat) (body : α → Dec (Bool × α)) (e : Entry α) : Prop :=
  ∀ p v, HasBytes data p e.bytes → p + e.bytes.length ≤ tlvend →
    e.Fits (p + e.bytes.length) → Returns (body v) p (true, e.update v) (p + e.bytes.length)

/-- The body of a loop reads the entry where it fits and only there, provided that zeros follow it
at the end of the 32-bit offsets. -/
structure ReadBy (data : Memory) (tlvend : Nat) (body : α → Dec (Bool × α)) (e : Entry α) :
    Prop where
  reads : e.ReadIfFits data tlvend body
  fits : ∀ p v w q, HasBytes data p e.bytes → p + e.bytes.length ≤ tlvend →
    (2 ^ 32 ≤ p + e.bytes.length + 2 → ∀ a, p + e.bytes.length ≤ a → data a = 0) →
    Returns (body v) p (true, w) q → e.Fits (p + e.bytes.length)

section Loop

variable {data : Memory} {tlvend : Nat} {body : α → Dec (Bool × α)} {l : Loop}

/-- There is room for an entry, so the guard holds. -/
theorem guard_of_le {p : Nat} (e : Entry α) (hroom : p + e.bytes.length ≤ tlvend)
    (hlim : tlvend < 2 ^ 32) :
  add32 p 2 < tlvend
  := by
  have hheader := e.header_le
  simp only [tlvHeaderSize] at hheader
  rw [add32, Nat.mod_eq_of_lt (by omega)]
  omega

theorem returns_contentLoop (hlast : tlvend + 2 < 2 ^ 32) :
  ∀ (entries : List (Entry α)) {fuel p : Nat} (v : α),
    (∀ e ∈ entries, e.ReadIfFits data tlvend body) →
    HasBytes data p (bytesOf entries) → p + (bytesOf entries).length = tlvend →
    FitFrom p entries → entries.length ≤ fuel →
    Returns (contentLoop l 2 tlvend body fuel true v) p (true, updateAll entries v) tlvend
  | [], fuel, p, v, _, _, hend, _, _ => by
      obtain rfl : p = tlvend := hend
      apply returns_loop_done
      rw [decide_eq_true_eq, add32, Nat.mod_eq_of_lt hlast]
      omega
  | e :: entries, 0, p, v, _, _, _, _, hfuel => by cases hfuel
  | e :: entries, fuel + 1, p, v, hread, hbytes, hend, hfit, hfuel => by
      rw [List.forall_mem_cons] at hread
      rw [bytesOf_cons, hasBytes_append] at hbytes
      rw [bytesOf_cons, List.length_append, ← Nat.add_assoc] at hend
      have hroom : p + e.bytes.length ≤ tlvend := by omega
      have hguard : add32 p 2 < tlvend := e.guard_of_le hroom (by omega)
      apply returns_loop_next (decide_eq_true hguard)
      · exact hread.1 p v hbytes.1 hroom hfit.1
      · apply returns_contentLoop hlast entries (e.update v) hread.2 hbytes.2 hend hfit.2
        exact Nat.le_of_succ_le_succ hfuel

/-- A loop that reads the entries, with zeros behind them, ends in time, and every entry fits. -/
theorem fits_of_returns_contentLoop (hlim : tlvend < 2 ^ 32)
    (hzero : 2 ^ 32 ≤ tlvend + 2 → ∀ a, tlvend ≤ a → data a = 0)
    (hskip : 2 ^ 32 ≤ tlvend + 2 → ∀ v, Returns (body v) tlvend (true, v) tlvend) :
  ∀ (entries : List (Entry α)) {fuel p : Nat} {v w : α} {q : Nat},
    (∀ e ∈ entries, e.ReadBy data tlvend body) → HasBytes data p (bytesOf entries) →
    p + (bytesOf entries).length = tlvend →
    Returns (contentLoop l 2 tlvend body fuel true v) p (true, w) q →
    tlvend + 2 < 2 ^ 32 ∧ FitFrom p entries
  | [], fuel, p, v, w, q, _, _, hend, h => by
      obtain rfl : p = tlvend := hend
      refine ⟨?_, trivial⟩
      by_contra hwrap
      have hguard : add32 p 2 < p := by
        simp only [add32]
        omega
      rw [contentLoop] at h
      apply not_halts_loop _ (fun v => ⟨v, hskip (by omega) v⟩) fuel v
      · exact Option.isSome_iff_exists.mpr ⟨_, h.1⟩
      · exact decide_eq_true hguard
  | e :: entries, fuel, p, v, w, q, hread, hbytes, hend, h => by
      rw [List.forall_mem_cons] at hread
      rw [bytesOf_cons, hasBytes_append] at hbytes
      rw [bytesOf_cons, List.length_append, ← Nat.add_assoc] at hend
      have hroom : p + e.bytes.length ≤ tlvend := by omega
      have hguard : add32 p 2 < tlvend := e.guard_of_le hroom hlim
      obtain ⟨fuel', v', q', hbody, hrest⟩ := exists_of_returns_loop (decide_eq_true hguard) h
      have hfits : e.Fits (p + e.bytes.length) := by
        apply hread.1.fits p v v' q' hbytes.1 hroom _ hbody
        intro hlast
        cases entries with
        | nil =>
          obtain rfl : p + e.bytes.length = tlvend := hend
          exact hzero hlast
        | cons e' entries =>
          have hheader := e'.header_le
          rw [bytesOf_cons, List.length_append] at hend
          simp only [tlvHeaderSize] at hheader
          omega
      obtain ⟨-, rfl⟩ := (hread.1.reads p v hbytes.1 hroom hfits).unique hbody
      obtain ⟨hlast, hfit⟩ :=
        fits_of_returns_contentLoop hlim hzero hskip entries hread.2 hbytes.2 hend hrest
      exact ⟨hlast, hfits, hfit⟩

end Loop

end Entry

end Serialiser
