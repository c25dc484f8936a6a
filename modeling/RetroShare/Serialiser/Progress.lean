import RetroShare.Serialiser.TlvItems

/-!
# When the container decoders terminate

A successful iteration of a container's loop adds the size of the sub-item at its offset to
the offset, modulo `2 ^ 32`: `advance` is this size.  So every iteration either fails or
increases the offset exactly when no sub-item that is accepted has the size `0` or reaches
past `2 ^ 32`, and then a decoder terminates.

`Regular` is what the decoders have in common: their loops move by `advance`, and when the
offset increases in every iteration they halt with more than `2 ^ 32` iterations of fuel.
-/

namespace Serialiser

open Decoder

variable (data : Memory)

/-- How far an iteration of a loop at the offset `p` moves: by the size field of the sub-item,
but by the size of the content where this is fixed. -/
def advance : Loop → Nat → Nat
  | .idSet, _ => sha1Size
  | .fileItem, p =>
      if data.be16 p ∈ [tlvTypeUInt32Pop, tlvTypeUInt32Age, tlvTypeUInt32Size] then 10
      else data.be32 (p + 2)
  | .serviceIdSet, p => if data.be16 p = tlvTypeUInt32Serid then 10 else data.be32 (p + 2)
  | .keySignatureSet, p =>
      if data.be16 p = tlvTypeKeysignaturetype then 10 else data.be32 (p + 2)
  | _, p => data.be32 (p + 2)

/-- A successful iteration increases the offset. -/
def Event.Increases : Event → Prop
  | .leave _ p q => p < q
  | _ => True

/-- A successful iteration moves the offset by `advance`. -/
def Event.Exact : Event → Prop
  | .leave l p q => q = add32 p (advance data l p)
  | _ => True

/-- The sub-item of a successful iteration has a size, and does not reach past `2 ^ 32`. -/
def Event.Advances : Event → Prop
  | .leave l p _ => 0 < advance data l p ∧ p + advance data l p < 2 ^ 32
  | _ => True

theorem advance_lt (l : Loop) (p : Nat) :
  advance data l p < 2 ^ 32
  := by
  have h := data.be32_lt (p + 2)
  cases l <;> simp only [advance, sha1Size] <;> first | omega | (split <;> omega)

theorem Event.increases_iff {data : Memory} {e : Event} (h : e.Exact data) :
  e.Increases ↔ e.Advances data
  := by
  cases e with
  | read | enter => rfl
  | leave l p q =>
    have hlt := advance_lt data l p
    simp only [Exact, add32] at h
    simp only [Increases, Advances, h]
    omega

/-- A decoder whose loops move by `advance`, and which halts with enough fuel when they
increase the offset. -/
class Regular {α : Type} (fuel : Nat) (x : Dec α) : Prop where
  exact : ∀ p, Logs (Event.Exact data) x p
  halts : 2 ^ 32 < fuel → ∀ p, Logs Event.Increases x p → Halts x p

variable {data} {fuel p type size : Nat} {α β : Type} {content : Nat → Dec (Bool × α)}
  {body : α → Dec (Bool × α)} {Q : Bool × α → Nat → Prop} {old : α}

instance regular_pure (a : α) :
  Regular data fuel (pure a)
  where
  exact _ := by simp
  halts _ _ _ := by simp

instance regular_here :
  Regular data fuel here
  where
  exact _ := by simp
  halts _ _ _ := by simp

instance regular_seek (q : Nat) :
  Regular data fuel (seek q)
  where
  exact _ := by simp
  halts _ _ _ := by simp

instance regular_read (p n : Nat) :
  Regular data fuel (tell (.read p n))
  where
  exact _ := by simp [Event.Exact]
  halts _ _ _ := by simp

instance regular_bind {x : Dec α} {f : α → Dec β} [hx : Regular data fuel x]
    [hf : ∀ a, Regular data fuel (f a)] :
  Regular data fuel (x >>= f)
  where
  exact p := by
    rw [logs_bind]
    refine ⟨hx.exact p, ?_⟩
    intro a _
    apply (hf a).exact
  halts hfuel p h := by
    rw [logs_bind] at h
    rw [halts_bind]
    refine ⟨hx.halts hfuel p h.1, ?_⟩
    refine h.2.mono ?_
    intro a q hq
    apply (hf a).halts hfuel q hq

instance regular_ite {c : Prop} [Decidable c] {x y : Dec α} [hx : Regular data fuel x]
    [hy : Regular data fuel y] :
  Regular data fuel (if c then x else y)
  := by
  split
  · exact hx
  · exact hy

/-- A loop whose body moves by `advance` is regular; `I` is an invariant of the value. -/
theorem regular_loop {guard : Nat → Bool} {l : Loop} {I : α → Prop}
    (hbody : ∀ v, Regular data fuel (body v))
    (hpost : ∀ v p, I v → guard p → Post (body v) p fun r q => r.1 → q = add32 p (advance data l p)
      ∧ I r.2) (ok : Bool) {v : α} (hv : I v) :
  Regular data fuel (loop guard (.enter l) (.leave l) body fuel ok v)
  := by
  have hexact : ∀ p, Logs (Event.Exact data) (loop guard (.enter l) (.leave l) body fuel ok v) p := by
    intro p
    refine logs_loop (I := I) ?_ ?_ ?_ fuel ok v p hv
    · intro p _
      trivial
    · intro v p _ _
      apply (hbody v).exact
    · intro v p hI hguard
      apply hpost v p hI hguard
  refine ⟨hexact, ?_⟩
  intro hfuel p h
  apply halts_loop (P := fun e => e.Increases ∧ e.Exact data) _ _ fuel ok v p (.inl hfuel)
  · intro e he
    exact ⟨h e he, hexact p e he⟩
  · intro v p _ hlogs
    apply (hbody v).halts hfuel p (hlogs.mono fun _ => And.left)
  · rintro p q ⟨hinc, hex⟩
    simp only [Event.Exact, add32] at hex
    exact ⟨hinc, by omega⟩

theorem regular_contentLoop {l : Loop} {n tlvend : Nat} [hbody : ∀ v, Regular data fuel (body v)]
    (hpost : ∀ v p, Post (body v) p fun r q => r.1 → q = add32 p (advance data l p)) (ok : Bool)
    (v : α) :
  Regular data fuel (contentLoop l n tlvend body fuel ok v)
  := by
  refine regular_loop (I := fun _ => True) hbody ?_ ok trivial
  intro v p _ _
  refine (hpost v p).mono ?_
  intro r q hr hok
  exact ⟨hr hok, trivial⟩

/-! ### The decoders are regular -/

section Decoders

variable (data fuel)

instance regular_getRawUInt (n : Nat) (value : Nat → Nat) (size old : Nat) :
  Regular data fuel (getRawUInt n value size old)
  := by
  unfold getRawUInt
  infer_instance

instance regular_getRawUInt8 (size old : Nat) :
  Regular data fuel (getRawUInt8 data size old)
  := regular_getRawUInt data fuel 1 _ size old

instance regular_getRawUInt16 (size old : Nat) :
  Regular data fuel (getRawUInt16 data size old)
  := regular_getRawUInt data fuel 2 _ size old

instance regular_getRawUInt32 (size old : Nat) :
  Regular data fuel (getRawUInt32 data size old)
  := regular_getRawUInt data fuel 4 _ size old

instance regular_getRawUInt64 (size old : Nat) :
  Regular data fuel (getRawUInt64 data size old)
  := regular_getRawUInt data fuel 8 _ size old

instance regular_deserialiseId (n size : Nat) (old : List UInt8) :
  Regular data fuel (deserialiseId data n size old)
  := by
  unfold deserialiseId
  infer_instance

instance regular_getTlvType (p : Nat) :
  Regular data fuel (getTlvType data p)
  := by
  unfold getTlvType
  infer_instance

instance regular_getTlvSize (p : Nat) :
  Regular data fuel (getTlvSize data p)
  := by
  unfold getTlvSize
  infer_instance

instance regular_skip (tlvend : Nat) (v : α) :
  Regular data fuel (skip data tlvend v)
  := by
  unfold skip skipUnknownTlv
  infer_instance

instance regular_withTlvHeader (type size : Nat) (old : α) (content : Nat → Dec (Bool × α))
    [∀ tlvend, Regular data fuel (content tlvend)] :
  Regular data fuel (withTlvHeader data type size old content)
  := by
  unfold withTlvHeader
  infer_instance

instance regular_withTlv (type size : Nat) (old : α) (content : Nat → Dec (Bool × α))
    [∀ tlvend, Regular data fuel (content tlvend)] :
  Regular data fuel (withTlv data type size old content)
  := by
  unfold withTlv
  infer_instance

instance regular_closeTlv (content : Nat → Dec (Bool × α)) (tlvend : Nat)
    [Regular data fuel (content tlvend)] :
  Regular data fuel (closeTlv content tlvend)
  := by
  unfold closeTlv
  infer_instance

instance regular_getTlvUInt32 (size type old : Nat) :
  Regular data fuel (getTlvUInt32 data size type old)
  := by
  unfold getTlvUInt32
  infer_instance

instance regular_getTlvString (size type : Nat) (old : List UInt8) :
  Regular data fuel (getTlvString data size type old)
  := by
  unfold getTlvString
  infer_instance

instance regular_binaryData (self : RsTlvBinaryData) (size : Nat) :
  Regular data fuel (self.getTlv data size)
  := by
  unfold RsTlvBinaryData.getTlv
  infer_instance

instance regular_fill (x : Dec (Bool × α)) (set : α → β) [Regular data fuel x] :
  Regular data fuel (fill x set)
  := by
  unfold fill
  infer_instance

instance regular_securityKey (size : Nat) (self : RsTlvSecurityKey) :
  Regular data fuel (self.getTlv data size)
  := by
  unfold RsTlvSecurityKey.getTlv
  infer_instance

instance regular_keySignature (size : Nat) (self : RsTlvKeySignature) :
  Regular data fuel (self.getTlv data size)
  := by
  unfold RsTlvKeySignature.getTlv
  infer_instance

instance regular_dsdvEntry (size : Nat) (self : RsTlvDsdvEntry) :
  Regular data fuel (self.getTlv data size)
  := by
  unfold RsTlvDsdvEntry.getTlv RsTlvDsdvEndPoint.getTlv
  infer_instance

instance regular_ipAddrPortV4 (size type : Nat) (old : SockAddr) :
  Regular data fuel (getTlvIpAddrPortV4 data size type old)
  := by
  unfold getTlvIpAddrPortV4
  infer_instance

instance regular_ipAddrPortV6 (size type : Nat) (old : SockAddr) :
  Regular data fuel (getTlvIpAddrPortV6 data size type old)
  := by
  unfold getTlvIpAddrPortV6
  infer_instance

instance regular_ipAddress (size : Nat) (self : SockAddr) :
  Regular data fuel (rsTlvIpAddressGetTlv data size self)
  := by
  unfold rsTlvIpAddressGetTlv
  infer_instance

instance regular_banListEntry (size : Nat) (self : RsTlvBanListEntry) :
  Regular data fuel (self.getTlv data size)
  := by
  unfold RsTlvBanListEntry.getTlv
  infer_instance

instance regular_ipAddressInfo (size : Nat) (self : RsTlvIpAddressInfo) :
  Regular data fuel (self.getTlv data size)
  := by
  unfold RsTlvIpAddressInfo.getTlv
  infer_instance

end Decoders

/-! ### Where a sub-item ends -/

theorem post_ite {c : Prop} [Decidable c] {x y : Dec α} {Q : α → Nat → Prop} (hx : c → Post x p Q)
    (hy : ¬ c → Post y p Q) :
  Post (if c then x else y) p Q
  := by
  split
  · apply hx ‹_›
  · apply hy ‹_›

/-- A sub-item ends where its size field says. -/
def EndsAtSize (data : Memory) (p : Nat) (r : Bool × α) (q : Nat) : Prop :=
  r.1 → q = add32 p (data.be32 (p + 2))

theorem post_skip (tlvend : Nat) (v : α) (p : Nat) :
  Post (skip data tlvend v) p (EndsAtSize data p)
  := by
  simp only [skip, skipUnknownTlv, getTlvSize, post_bind, post_here, post_pure]
  apply post_ite
  · simp [EndsAtSize]
  · intro _
    simp only [post_bind, post_tell, post_pure]
    apply post_ite <;> simp [EndsAtSize]

theorem post_getTlvString (size type : Nat) (old : List UInt8) (p : Nat) :
  Post (getTlvString data size type old) p (EndsAtSize data p)
  := by
  simp only [getTlvString, getTlvType, getTlvSize, post_bind, post_here]
  apply post_ite
  · simp [EndsAtSize]
  · intro _
    simp only [post_bind, post_tell, post_pure]
    apply post_ite
    · simp [EndsAtSize]
    · intro _
      apply post_ite <;> simp [EndsAtSize]

theorem post_withTlvHeader (hfail : ∀ q, Q (false, old) q)
    (h : Post (content (add32 p (data.be32 (p + 2)))) (add32 p tlvHeaderSize) Q) :
  Post (withTlvHeader data type size old content) p Q
  := by
  simp only [withTlvHeader, getTlvType, getTlvSize, post_bind, post_here, post_tell, post_pure]
  apply post_ite
  · simp [hfail]
  · intro _
    apply post_ite
    · simp [hfail]
    · simp [h]

theorem post_withTlv (hfail : ∀ q, Q (false, old) q)
    (h : Post (content (add32 p (data.be32 (p + 2)))) (add32 p tlvHeaderSize) Q) :
  Post (withTlv data type size old content) p Q
  := by
  simp only [withTlv, post_bind, post_here]
  apply post_ite
  · simp [hfail]
  · intro _
    apply post_withTlvHeader hfail h

theorem post_closeTlv (tlvend p : Nat) :
  Post (closeTlv content tlvend) p fun _ q => q = tlvend
  := by
  simp only [closeTlv, post_bind, post_seek, post_pure]
  apply post_true

theorem post_withTlv_closeTlv (type size : Nat) (old : α) (content : Nat → Dec (Bool × α))
    (p : Nat) :
  Post (withTlv data type size old (closeTlv content)) p (EndsAtSize data p)
  := by
  apply post_withTlv
  · simp [EndsAtSize]
  · refine (post_closeTlv _ _).mono ?_
    intro r q hq _
    exact hq

/-- A number ends `10` bytes behind its start, whatever its size field says. -/
theorem post_getTlvUInt32 (size type old p : Nat) :
  Post (getTlvUInt32 data size type old) p fun r q => r.1 → q = add32 p 10
  := by
  apply post_withTlv
  · simp
  · simp only [getRawUInt32, getRawUInt, post_bind, post_here]
    apply post_ite
    · simp
    · simp only [post_bind, post_tell, post_seek, post_pure, add32, tlvHeaderSize]
      intro _ _
      omega

theorem post_fill {x : Dec (Bool × α)} {set : α → β} {Q : Nat → Prop}
    (h : Post x p fun r q => r.1 → Q q) :
  Post (fill x set) p fun r q => r.1 → Q q
  := by
  simp only [fill, post_bind, post_pure]
  exact h

/-! ### The loops of the containers -/

section Containers

variable (data fuel) {x : Dec (Bool × α)}

/-- An iteration of the loop over a set of ids, as its guard holds, reads an id. -/
theorem post_idSet_getId {tlvend : Nat} (hguard : add32 p sha1Size ≤ tlvend) (v : Bool × IdSet)
    (hv : v.1 = true) :
  Post (IdSet.getId data sha1Size tlvend v) p
    fun r q => r.1 → q = add32 p (advance data .idSet p) ∧ r.2.1 = true
  := by
  simp only [IdSet.getId, hv, if_true, deserialiseId, post_bind, post_here]
  rw [if_neg (by omega)]
  simp [advance]

instance regular_idSet_getId (tlvend : Nat) (v : Bool × IdSet) :
  Regular data fuel (IdSet.getId data sha1Size tlvend v)
  := by
  unfold IdSet.getId
  infer_instance

instance regular_idSet (type size : Nat) (self : IdSet) :
  Regular data fuel (rsTlvIdSetGetTlv data sha1Size type fuel size self)
  := by
  unfold rsTlvIdSetGetTlv
  have hloop : ∀ tlvend, Regular data fuel (loop (fun offset => add32 offset sha1Size ≤ tlvend)
      (.enter .idSet) (.leave .idSet) (IdSet.getId data sha1Size tlvend)
      fuel true (true, OrdMap.empty)) := by
    intro tlvend
    refine regular_loop (I := fun v => v.1 = true) (regular_idSet_getId data fuel tlvend) ?_ _ rfl
    intro v p hv hguard
    apply post_idSet_getId data (by simpa using hguard) v hv
  infer_instance

theorem post_idSet_getTlv (n type size : Nat) (self : IdSet) (p : Nat) :
  Post (rsTlvIdSetGetTlv data n type fuel size self) p (EndsAtSize data p)
  := by
  apply post_withTlv
  · simp [EndsAtSize]
  · simp only [post_bind, post_here, post_pure, EndsAtSize, beq_iff_eq]
    refine (post_true _ _).mono ?_
    intro _ q _ hq
    exact hq

/-- The decoder of a sub-item, joined to the object it fills, ends where the loop expects. -/
theorem post_fill_of_advance {set : α → β} {l : Loop} {n : Nat}
    (hx : Post x p fun r q => r.1 → q = add32 p n) (hn : n = advance data l p) :
  Post (fill x set) p fun r q => r.1 → q = add32 p (advance data l p)
  := by
  rw [← hn]
  apply post_fill hx

instance regular_fileItem_getOptional (tlvend : Nat) (self : RsTlvFileItem) :
  Regular data fuel (self.getOptional data fuel tlvend)
  := by
  unfold RsTlvFileItem.getOptional
  infer_instance

theorem post_fileItem_getOptional (tlvend : Nat) (self : RsTlvFileItem) (p : Nat) :
  Post (self.getOptional data fuel tlvend) p
    fun r q => r.1 → q = add32 p (advance data .fileItem p)
  := by
  simp only [RsTlvFileItem.getOptional, getTlvType, post_bind, post_here, post_tell, post_pure]
  apply post_ite <;> intro hname
  · apply post_fill_of_advance data (post_getTlvString _ _ _ _)
    simp [advance, hname, tlvTypeStrName, tlvTypeUInt32Pop, tlvTypeUInt32Age, tlvTypeUInt32Size]
  apply post_ite <;> intro hpath
  · apply post_fill_of_advance data (post_getTlvString _ _ _ _)
    simp [advance, hpath, tlvTypeStrPath, tlvTypeUInt32Pop, tlvTypeUInt32Age, tlvTypeUInt32Size]
  apply post_ite <;> intro hpop
  · apply post_fill_of_advance data (post_getTlvUInt32 _ _ _ _)
    simp [advance, hpop]
  apply post_ite <;> intro hage
  · apply post_fill_of_advance data (post_getTlvUInt32 _ _ _ _)
    simp [advance, hage]
  apply post_ite <;> intro hsize
  · apply post_fill_of_advance data (post_getTlvUInt32 _ _ _ _)
    simp [advance, hsize]
  have hadv : advance data .fileItem p = data.be32 (p + 2) := by
    simp [advance, hpop, hage, hsize]
  apply post_ite <;> intro hhashset
  · apply post_fill_of_advance data _ hadv.symm
    apply post_idSet_getTlv
  · rw [hadv]
    apply post_skip

theorem post_fileItem_getTlv (size : Nat) (self : RsTlvFileItem) (p : Nat) :
  Post (self.getTlv data fuel size) p (EndsAtSize data p)
  := by
  apply post_withTlvHeader
  · simp [EndsAtSize]
  · refine (post_closeTlv _ _).mono ?_
    intro r q hq _
    exact hq

instance regular_fileItem (size : Nat) (self : RsTlvFileItem) :
  Regular data fuel (self.getTlv data fuel size)
  := by
  unfold RsTlvFileItem.getTlv
  have hloop : ∀ tlvend ok v, Regular data fuel
      (contentLoop .fileItem 2 tlvend (RsTlvFileItem.getOptional data fuel tlvend) fuel ok v) :=
    fun tlvend => regular_contentLoop (post_fileItem_getOptional data fuel tlvend)
  infer_instance

instance regular_fileSet_getSub (size tlvend : Nat) (self : RsTlvFileSet) :
  Regular data fuel (self.getSub data fuel size tlvend)
  := by
  unfold RsTlvFileSet.getSub
  infer_instance

theorem post_fileSet_getSub (size tlvend : Nat) (self : RsTlvFileSet) (p : Nat) :
  Post (self.getSub data fuel size tlvend) p
    fun r q => r.1 → q = add32 p (advance data .fileSet p)
  := by
  simp only [RsTlvFileSet.getSub, getTlvType, post_bind, post_here, post_tell, post_pure]
  apply post_ite <;> intro _
  · rw [post_bind]
    refine (post_fileItem_getTlv data fuel size _ p).mono ?_
    intro r q hr
    apply post_ite <;> intro hok
    · simp only [post_pure]
      exact fun _ => hr hok
    · simp
  apply post_ite <;> intro _
  · apply post_fill (post_getTlvString _ _ _ _)
  apply post_ite <;> intro _
  · apply post_fill (post_getTlvString _ _ _ _)
  · apply post_skip

instance regular_fileSet (size : Nat) (self : RsTlvFileSet) :
  Regular data fuel (self.getTlv data fuel size)
  := by
  unfold RsTlvFileSet.getTlv
  have hloop : ∀ tlvend ok v, Regular data fuel
      (contentLoop .fileSet 2 tlvend (RsTlvFileSet.getSub data fuel size tlvend) fuel ok v) :=
    fun tlvend => regular_contentLoop (post_fileSet_getSub data fuel size tlvend)
  infer_instance

omit data fuel in
theorem post_store {Q : Nat → Prop} {g : Bool × α → β} (hx : Post x p fun r q => r.1 → Q q) :
  Post (x >>= fun r => pure (r.1, g r)) p fun r q => r.1 → Q q
  := by
  simp only [post_bind, post_pure]
  exact hx

instance regular_serviceIdSet (size : Nat) (self : List Nat) :
  Regular data fuel (rsTlvServiceIdSetGetTlv data fuel size self)
  := by
  unfold rsTlvServiceIdSetGetTlv
  have hsub : ∀ tlvend v, Regular data fuel (rsTlvServiceIdSetGetSub data tlvend v) := by
    unfold rsTlvServiceIdSetGetSub
    infer_instance
  have hloop : ∀ tlvend ok v, Regular data fuel
      (contentLoop .serviceIdSet 2 tlvend (rsTlvServiceIdSetGetSub data tlvend) fuel ok v) := by
    intro tlvend
    apply regular_contentLoop
    intro v p
    simp only [rsTlvServiceIdSetGetSub, getTlvType, post_bind, post_here, post_tell, post_pure,
      advance]
    apply post_ite <;> intro hserid
    · rw [if_pos hserid]
      apply post_store (post_getTlvUInt32 _ _ _ _)
    · rw [if_neg hserid]
      apply post_skip
  infer_instance

instance regular_stringSet (size : Nat) (self : RsTlvStringSet) :
  Regular data fuel (self.getTlv data fuel size)
  := by
  unfold RsTlvStringSet.getTlv
  have hsub : ∀ tlvend v, Regular data fuel (RsTlvStringSet.getSub data tlvend v) := by
    unfold RsTlvStringSet.getSub
    infer_instance
  have hloop : ∀ tlvend ok v, Regular data fuel
      (contentLoop .stringSet 2 tlvend (RsTlvStringSet.getSub data tlvend) fuel ok v) := by
    intro tlvend
    apply regular_contentLoop
    intro v p
    simp only [RsTlvStringSet.getSub, getTlvType, post_bind, post_here, post_tell, post_pure,
      advance]
    apply post_ite <;> intro _
    · apply post_store (post_getTlvString _ _ _ _)
    · apply post_skip
  infer_instance

instance regular_securityKeySet (size : Nat) (self : RsTlvSecurityKeySet) :
  Regular data fuel (self.getTlv data fuel size)
  := by
  unfold RsTlvSecurityKeySet.getTlv
  have hsub : ∀ ok tlvend v,
      Regular data fuel (RsTlvSecurityKeySet.getSub data ok size tlvend v) := by
    unfold RsTlvSecurityKeySet.getSub
    infer_instance
  have hloop : ∀ ok' tlvend ok v, Regular data fuel (contentLoop .securityKeySet 2 tlvend
      (RsTlvSecurityKeySet.getSub data ok' size tlvend) fuel ok v) := by
    intro ok' tlvend
    apply regular_contentLoop
    intro v p
    simp only [RsTlvSecurityKeySet.getSub, getTlvType, post_bind, post_here, post_tell, post_pure,
      advance]
    apply post_ite <;> intro _
    · rw [post_bind]
      refine (post_withTlv_closeTlv _ _ _ _ p).mono ?_
      intro r q hr
      apply post_ite <;> intro hok
      · simp only [post_pure]
        intro _
        apply hr (by simp_all)
      · simp
    · apply post_skip
  infer_instance

instance regular_keySignatureSet (currType size : Nat) (self : OrdMap Nat RsTlvKeySignature) :
  Regular data fuel (rsTlvKeySignatureSetGetTlv data currType fuel size self)
  := by
  unfold rsTlvKeySignatureSetGetTlv
  have hsub : ∀ tlvend v,
      Regular data fuel (rsTlvKeySignatureSetGetSub data currType size tlvend v) := by
    unfold rsTlvKeySignatureSetGetSub
    infer_instance
  have hloop : ∀ tlvend ok v, Regular data fuel (contentLoop .keySignatureSet 2 tlvend
      (rsTlvKeySignatureSetGetSub data currType size tlvend) fuel ok v) := by
    intro tlvend
    apply regular_contentLoop
    intro v p
    simp only [rsTlvKeySignatureSetGetSub, getTlvType, post_bind, post_here, post_tell, post_pure,
      advance]
    apply post_ite <;> intro hsign
    · rw [if_neg (by simp [hsign, tlvTypeKeysignature, tlvTypeKeysignaturetype])]
      apply post_store (post_withTlv_closeTlv _ _ _ _ _)
    apply post_ite <;> intro htype
    · rw [if_pos htype]
      rw [post_bind]
      refine (post_getTlvUInt32 _ _ _ _).mono ?_
      intro r q hr
      simpa using hr
    · rw [if_neg htype]
      apply post_skip
  infer_instance

theorem regular_tlvList {getTlv : Nat → α → Dec (Bool × α)} {new : α}
    [∀ size, Regular data fuel (getTlv size new)]
    (hpost : ∀ size p, Post (getTlv size new) p (EndsAtSize data p))
    (type size : Nat) (self : List α) :
  Regular data fuel (rsTlvListGetTlv data getTlv new type fuel size self)
  := by
  unfold rsTlvListGetTlv
  have hloop : ∀ tlvend ok (v : List α), Regular data fuel (contentLoop .tlvList 6 tlvend
      (fun mList => do
        let item ← getTlv tlvend new
        pure (item.1, if item.1 then mList ++ [item.2] else mList)) fuel ok v) := by
    intro tlvend
    apply regular_contentLoop
    intro v p
    apply post_store
    apply hpost
  infer_instance

instance regular_dsdvEntrySet (size : Nat) (self : List RsTlvDsdvEntry) :
  Regular data fuel (rsTlvDsdvEntrySetGetTlv data fuel size self)
  := by
  apply regular_tlvList
  intro size p
  apply post_withTlv_closeTlv

instance regular_banList (size : Nat) (self : List RsTlvBanListEntry) :
  Regular data fuel (rsTlvBanListGetTlv data fuel size self)
  := by
  apply regular_tlvList
  intro size p
  apply post_withTlv_closeTlv

instance regular_ipAddrSet (size : Nat) (self : List RsTlvIpAddressInfo) :
  Regular data fuel (rsTlvIpAddrSetGetTlv data fuel size self)
  := by
  apply regular_tlvList
  intro size p
  apply post_withTlv_closeTlv

end Containers

/-! ### Termination -/

/-- A container that is deserialised into. -/
inductive Container where
  | fileItem (self : RsTlvFileItem)
  | fileSet (self : RsTlvFileSet)
  | serviceIdSet (self : List Nat)
  | stringSet (self : RsTlvStringSet)
  | securityKeySet (self : RsTlvSecurityKeySet)
  | keySignatureSet (currType : Nat) (self : OrdMap Nat RsTlvKeySignature)
  | dsdvEntrySet (self : List RsTlvDsdvEntry)
  | banList (self : List RsTlvBanListEntry)
  | ipAddrSet (self : List RsTlvIpAddressInfo)

/-- Whether the `GetTlv` of a container succeeds. -/
def Container.getTlv (data : Memory) (fuel size : Nat) : Container → Dec Bool
  | fileItem self => Prod.fst <$> self.getTlv data fuel size
  | fileSet self => Prod.fst <$> self.getTlv data fuel size
  | serviceIdSet self => Prod.fst <$> rsTlvServiceIdSetGetTlv data fuel size self
  | stringSet self => Prod.fst <$> self.getTlv data fuel size
  | securityKeySet self => Prod.fst <$> self.getTlv data fuel size
  | keySignatureSet currType self =>
      Prod.fst <$> rsTlvKeySignatureSetGetTlv data currType fuel size self
  | dsdvEntrySet self => Prod.fst <$> rsTlvDsdvEntrySetGetTlv data fuel size self
  | banList self => Prod.fst <$> rsTlvBanListGetTlv data fuel size self
  | ipAddrSet self => Prod.fst <$> rsTlvIpAddrSetGetTlv data fuel size self

instance regular_map (f : α → β) (x : Dec α) [Regular data fuel x] :
  Regular data fuel (f <$> x)
  := regular_bind (f := fun a => pure (f a))

theorem halts_map (f : α → β) (x : Dec α) (p : Nat) :
  Halts (f <$> x) p ↔ Halts x p
  := by
  apply (halts_bind x (fun a => pure (f a)) p).trans
  simp only [halts_pure, and_iff_left_iff_imp]
  intro _
  apply post_true

instance Container.regular_getTlv (c : Container) (size : Nat) :
  Regular data fuel (c.getTlv data fuel size)
  := by
  cases c <;> unfold getTlv <;> infer_instance

/-- A decoder finishes with enough fuel, and whatever the fuel, every iteration of its loops
fails or increases the offset. -/
structure Terminates (x : Nat → Dec Bool) (offset : Nat) : Prop where
  halts : ∃ fuel, Halts (x fuel) offset
  increases : ∀ fuel, Logs Event.Increases (x fuel) offset

/-- The deserialiser of a container terminates if and only if no sub-item that one of its
loops accepts has the size `0` or reaches past `2 ^ 32`. -/
theorem Container.terminates_iff (data : Memory) (c : Container) (size offset : Nat) :
  Terminates (fun fuel => c.getTlv data fuel size) offset ↔
    ∀ fuel, Logs (Event.Advances data) (c.getTlv data fuel size) offset
  := by
  have hexact : ∀ fuel, Logs (Event.Exact data) (c.getTlv data fuel size) offset :=
    fun fuel => Regular.exact fuel offset
  constructor
  · intro h fuel e he
    rw [← Event.increases_iff (hexact fuel e he)]
    apply h.increases fuel e he
  · intro h
    have hincreases : ∀ fuel, Logs Event.Increases (c.getTlv data fuel size) offset := by
      intro fuel e he
      rw [Event.increases_iff (hexact fuel e he)]
      apply h fuel e he
    refine ⟨⟨2 ^ 32 + 1, ?_⟩, hincreases⟩
    apply (c.regular_getTlv size).halts (by omega) offset (hincreases _)

theorem halts_content (h : Halts (withTlv data type size old (closeTlv content)) p)
    (hroom : ¬ size < add32 p tlvHeaderSize) (hend : ¬ size < add32 p (data.be32 (p + 2)))
    (htype : ¬ data.be16 p ≠ type) :
  Halts (content (add32 p (data.be32 (p + 2)))) (add32 p tlvHeaderSize)
  := by
  simp only [withTlv, halts_bind, halts_here, post_here, true_and, if_neg hroom] at h
  simp only [withTlvHeader, getTlvType, getTlvSize, halts_bind, halts_here, halts_tell,
    halts_pure, halts_seek, post_bind, post_here, post_tell, post_pure, post_seek, true_and,
    if_neg hend, if_neg htype, closeTlv] at h
  exact h.1

/-- A service set with one unknown sub-item, of the size `0`. -/
def zeroItem : List UInt8 := [0x10, 0x30, 0, 0, 0, 12, 0, 0xff, 0, 0, 0, 0]

/-- The sub-item of `zeroItem` is skipped again and again. -/
theorem zeroItem_not_terminates :
  ¬ Terminates (fun fuel => (Container.serviceIdSet []).getTlv (Bytes.toMemory zeroItem) fuel
    zeroItem.length) 0
  := by
  rintro ⟨⟨fuel, h⟩, -⟩
  have hloop : ¬ Halts (contentLoop .serviceIdSet 2 12
      (rsTlvServiceIdSetGetSub (Bytes.toMemory zeroItem) 12) fuel true []) 6 :=
    not_halts_loop (by decide) (fun v => ⟨v, rfl, rfl⟩) fuel []
  apply hloop
  apply halts_content (halts_map _ _ _ |>.mp h) <;> decide

end Serialiser
