import RetroShare.Lib.Shape
import RetroShare.Serialiser.KeySignatures

/-!
# The shapes of the decoders

For each decoder there is a shape, which tells from the bytes of the buffer whether the decoder only
reads bytes below `bound`, and where it ends.  Unlike the conditions of the single decoders, those
of the shapes hold at every offset, within the item or behind its end, so they can be put together.
-/

namespace Serialiser

open Decoder
open GRouter (tlvEnd rawEnd StringDecoded BinaryDecoded)

variable {data : Memory} {lim bound p size : Nat}

/-! ### Numbers, ids and strings -/

/-- `n` bytes of a number or an id. -/
def rawShape (n lim : Nat) : Shape where
  Safe p := RawSafe n lim p
  Ends p q := q = rawEnd n lim p
  Succeeds p := add32 p n ≤ lim

/-- `GetTlvString`. -/
def stringShape (data : Memory) (type lim bound : Nat) : Shape where
  Safe p := p ≤ lim → StringSafe data type lim bound p
  Ends p q := q = if StringDecoded data type lim p then tlvEnd data p else p
  Succeeds p := StringDecoded data type lim p

/-- `RsTlvBinaryData::GetTlv`. -/
def binaryShape (data : Memory) (type lim : Nat) : Shape where
  Safe p := add32 p tlvHeaderSize ≤ lim → HeaderSafe p ∧
    (Accepted data type lim p → tlvHeaderSize ≤ data.be32 (p + 2) →
      p + data.be32 (p + 2) < 2 ^ 32)
  Ends p q := q = if BinaryDecoded data type lim p then tlvEnd data p else p
  Succeeds p := BinaryDecoded data type lim p

/-- `SkipUnknownTlv`. -/
def skipShape (data : Memory) (lim : Nat) : Shape where
  Safe p := add32 p tlvHeaderSize ≤ lim → HeaderSafe p
  Ends p q :=
    q = if add32 p tlvHeaderSize ≤ lim ∧ tlvEnd data p ≤ lim then tlvEnd data p else p
  Succeeds p := add32 p tlvHeaderSize ≤ lim ∧ tlvEnd data p ≤ lim

section Simple

variable (hlim : lim ≤ bound) (hbound : bound < 2 ^ 32)

include hlim hbound

theorem follows_getRaw {α : Type} {n : Nat} (hn : n ≠ 0) (value : Nat → α) (old : α) :
  Follows (Event.Within bound) (fun _ => getRaw n value lim old) (rawShape n lim) True p
  := by
  apply Follows.of_returns (GRouter.returns_getRaw n lim value old p)
  · rw [logs_getRaw hlim hbound, or_iff_right hn]
    rfl
  · exact fun _ => Iff.rfl
  · rw [decide_eq_true_eq, true_and]
    rfl

theorem follows_getTlvString (type : Nat) (old : List UInt8) :
  Follows (Event.Within bound) (fun _ => getTlvString data lim type old)
    (stringShape data type lim bound) True p
  := by
  apply Follows.of_returns (GRouter.returns_getTlvString data type lim p old)
  · by_cases hp : p ≤ lim
    · rw [logs_getTlvString hp hlim hbound]
      apply Iff.symm
      apply forall_prop_of_true (p := p ≤ lim) hp
    · simp only [getTlvString, logs_bind, logs_here, post_here, true_and, if_pos (not_le.mp hp),
        logs_pure, stringShape, hp, false_implies]
  · exact fun _ => Iff.rfl
  · rw [GRouter.fst_ite_true, decide_eq_true_eq, true_and]
    rfl

theorem follows_binaryData (self : RsTlvBinaryData) :
  Follows (Event.Within bound) (fun _ => self.getTlv data lim)
    (binaryShape data self.tlvtype lim) True p
  := by
  apply Follows.of_returns (GRouter.returns_binaryData data self lim p)
  · have hlt := data.be32_lt (p + 2)
    simp only [RsTlvBinaryData.getTlv, getTlvType, getTlvSize, logs_bind, logs_here, post_here,
      logs_ite_iff, logs_pure, logs_tell, logs_seek, post_bind, post_tell, post_pure, post_seek,
      implies_true, and_true, true_and]
    simp only [Event.Within, binaryShape, HeaderSafe, Accepted, add32, tlvHeaderSize, ne_eq]
    omega
  · exact fun _ => Iff.rfl
  · rw [GRouter.fst_ite_true, decide_eq_true_eq, true_and]
    rfl

theorem follows_skipUnknownTlv {α : Type} (v : α) :
  Follows (Event.Within bound) (fun _ => skip data lim v) (skipShape data lim) True p
  := by
  have hreturns : Returns (skip data lim v) p
      (decide (add32 p tlvHeaderSize ≤ lim ∧ tlvEnd data p ≤ lim), v)
      (if add32 p tlvHeaderSize ≤ lim ∧ tlvEnd data p ≤ lim then tlvEnd data p else p) := by
    have hskip : Returns (skipUnknownTlv data lim) p
        (decide (add32 p tlvHeaderSize ≤ lim ∧ tlvEnd data p ≤ lim))
        (if add32 p tlvHeaderSize ≤ lim ∧ tlvEnd data p ≤ lim then tlvEnd data p else p) := by
      rw [skipUnknownTlv]
      apply (returns_here p).bind
      by_cases hroom : add32 p tlvHeaderSize ≤ lim
      case neg =>
        have hskips : ¬ (add32 p tlvHeaderSize ≤ lim ∧ tlvEnd data p ≤ lim) :=
          fun h => hroom h.1
        rw [if_pos (not_le.mp hroom), if_neg hskips, decide_eq_false hskips]
        apply returns_pure
      case pos =>
        rw [if_neg (not_lt.mpr hroom)]
        apply (GRouter.returns_getTlvSize data p p).bind
        by_cases hend : add32 p (data.be32 (p + 2)) ≤ lim
        · have hskips : add32 p tlvHeaderSize ≤ lim ∧ tlvEnd data p ≤ lim := ⟨hroom, hend⟩
          rw [if_neg (not_lt.mpr hend), if_pos hskips, decide_eq_true hskips]
          apply (returns_seek _ p).bind
          apply returns_pure
        · have hskips : ¬ (add32 p tlvHeaderSize ≤ lim ∧ tlvEnd data p ≤ lim) :=
            fun h => hend h.2
          rw [if_pos (not_le.mp hend), if_neg hskips, decide_eq_false hskips]
          apply returns_pure
    apply hskip.bind
    apply returns_pure
  apply Follows.of_returns hreturns
  · rw [logs_skip]
    simp only [skipUnknownTlv, getTlvSize, logs_bind, logs_here, post_here, logs_ite_iff,
      logs_pure, logs_tell, logs_seek, post_bind, post_tell, post_pure, post_seek, implies_true,
      and_true, true_and]
    simp only [Event.Within, skipShape, HeaderSafe, add32, tlvHeaderSize]
    omega
  · exact fun _ => Iff.rfl
  · rw [decide_eq_true_eq, true_and]
    rfl

end Simple

/-! ### Items -/

/-- An item whose content, up to its end, has the shape `t`. -/
def headerShape (data : Memory) (type lim : Nat) (t : Nat → Shape) : Shape where
  Safe p := add32 p tlvHeaderSize ≤ lim → HeaderSafe p ∧
    (Accepted data type lim p → (t (tlvEnd data p)).Safe (add32 p tlvHeaderSize))
  Ends p q :=
    if add32 p tlvHeaderSize ≤ lim ∧ Accepted data type lim p then
      (t (tlvEnd data p)).Ends (add32 p tlvHeaderSize) q
    else q = p
  Succeeds p := (add32 p tlvHeaderSize ≤ lim ∧ Accepted data type lim p) ∧
    (t (tlvEnd data p)).Succeeds (add32 p tlvHeaderSize)

/-- What follows starts at `tlvend`. -/
def closeShape (tlvend : Nat) (s : Shape) : Shape where
  Safe := s.Safe
  Ends p q := (∃ r, s.Ends p r) ∧ q = tlvend
  Succeeds := s.Succeeds

/-- An item with the given content, after which everything up to its end is skipped. -/
def itemShape (data : Memory) (type lim : Nat) (t : Nat → Shape) : Shape :=
  headerShape data type lim fun tlvend => closeShape tlvend (t tlvend)

/-- What comes next depends on the type at the offset. -/
def typeShape (data : Memory) (s : Nat → Shape) : Shape where
  Safe p := p + 2 < 2 ^ 32 ∧ (s (data.be16 p)).Safe p
  Ends p := (s (data.be16 p)).Ends p
  Succeeds p := (s (data.be16 p)).Succeeds p

section Items

variable {α : Type} {P : Event → Prop} {s : Shape} {b : Prop} (hlim : lim ≤ bound)
  (hbound : bound < 2 ^ 32) {type tlvend : Nat} {content : Nat → Nat → Dec (Bool × α)}
  {t : Nat → Shape}

theorem follows_closeTlv (h : Follows P (fun fuel => content fuel tlvend) s b p) :
  Follows P (fun fuel => closeTlv (content fuel) tlvend) (closeShape tlvend s) b p
  where
  logs n := by
    simp only [logs_closeTlv]
    apply h.logs
  ends fuel _ _ hreturns := by
    obtain ⟨rfl, q', hq'⟩ := returns_closeTlv_iff.mp hreturns
    obtain ⟨hends, hsuccess⟩ := h.ends fuel hq'
    exact ⟨⟨⟨q', hends⟩, rfl⟩, hsuccess⟩
  returns hq := by
    obtain ⟨⟨q', hends⟩, rfl⟩ := hq
    obtain ⟨n, hn⟩ := h.returns hends
    use n
    intro fuel hfuel
    obtain ⟨r, hr⟩ := hn fuel hfuel
    use r
    apply returns_closeTlv_iff.mpr
    use rfl, q'

include hlim hbound

/-- The reads of an item, which can start behind the end of what it is part of. -/
theorem logs_withTlv_of_room (old : α) (content : Nat → Dec (Bool × α)) :
  Logs (Event.Within bound) (withTlv data type lim old content) p ↔
    (add32 p tlvHeaderSize ≤ lim → HeaderSafe p ∧ (Accepted data type lim p →
      Logs (Event.Within bound) (content (tlvEnd data p)) (add32 p tlvHeaderSize)))
  := by
  simp only [withTlv, logs_bind, logs_here, post_here, logs_ite_iff, logs_pure, implies_true,
    true_and, not_lt]
  apply imp_congr_right
  intro hroom
  have hheader : p + tlvHeaderSize ≤ bound ↔ HeaderSafe p := by
    simp only [HeaderSafe, add32, tlvHeaderSize] at hroom ⊢
    omega
  rw [logs_withTlvHeader hbound, hheader, tlvEnd]
  apply and_congr_right
  intro hsafe
  rw [show add32 p tlvHeaderSize = p + tlvHeaderSize from Nat.mod_eq_of_lt hsafe]

omit hlim hbound in
theorem returns_withTlv_iff_of_accepted {q : Nat} {r : Bool × α} {old : α}
    {content : Nat → Dec (Bool × α)} (hroom : add32 p tlvHeaderSize ≤ lim)
    (h : Accepted data type lim p) :
  Returns (withTlv data type lim old content) p r q ↔
    Returns (content (tlvEnd data p)) (add32 p tlvHeaderSize) r q
  := by
  rw [withTlv, returns_bind_iff_of_returns (returns_here p), if_neg (not_lt.mpr hroom),
    withTlvHeader, returns_bind_iff_of_returns (returns_here p),
    returns_bind_iff_of_returns (GRouter.returns_getTlvType data p p),
    returns_bind_iff_of_returns (GRouter.returns_getTlvSize data p p), if_neg (not_lt.mpr h.1),
    if_neg (not_not.mpr h.2), returns_bind_iff_of_returns (returns_seek _ p), tlvEnd]

theorem follows_withTlv (old : α)
    (hcontent : tlvEnd data p ≤ lim → Follows (Event.Within bound) (fun fuel => content fuel (tlvEnd
      data p)) (t (tlvEnd data p)) True (add32 p tlvHeaderSize)) :
  Follows (Event.Within bound) (fun fuel => withTlv data type lim old (content fuel))
    (headerShape data type lim t) True p
  := by
  by_cases haccepted : add32 p tlvHeaderSize ≤ lim ∧ Accepted data type lim p
  case neg =>
    have hnot (fuel : Nat) : Returns (withTlv data type lim old (content fuel)) p (false, old) p :=
      GRouter.returns_withTlv_of_not haccepted
    constructor
    case logs =>
      intro n
      simp only [logs_withTlv_of_room hlim hbound, headerShape]
      constructor
      · intro h hroom
        use (h n le_rfl hroom).1
        intro hheader
        exact absurd ⟨hroom, hheader⟩ haccepted
      · intro h _ _ hroom
        use (h hroom).1
        intro hheader
        exact absurd ⟨hroom, hheader⟩ haccepted
    case ends =>
      intro fuel r q hreturns
      obtain ⟨rfl, rfl⟩ := (hnot fuel).unique hreturns
      simp only [headerShape, if_neg haccepted, true_and]
      apply iff_of_false Bool.false_ne_true
      exact fun h => haccepted h.1
    case returns =>
      intro q hq
      simp only [headerShape, if_neg haccepted] at hq
      obtain rfl := hq
      use 0
      intro fuel _
      exact ⟨_, hnot fuel⟩
  case pos =>
    have hfollows := hcontent haccepted.2.1
    have hiff (fuel : Nat) {r : Bool × α} {q : Nat} :
        Returns (withTlv data type lim old (content fuel)) p r q ↔
          Returns (content fuel (tlvEnd data p)) (add32 p tlvHeaderSize) r q :=
      returns_withTlv_iff_of_accepted haccepted.1 haccepted.2
    constructor
    case logs =>
      intro n
      simp only [logs_withTlv_of_room hlim hbound, headerShape, ← hfollows.logs n, haccepted.1,
        haccepted.2, forall_const]
      constructor
      · intro h
        use (h n le_rfl).1
        intro fuel hfuel
        apply (h fuel hfuel).2
      · rintro ⟨hheader, h⟩ fuel hfuel
        exact ⟨hheader, h fuel hfuel⟩
    case ends =>
      intro fuel r q hreturns
      simp only [headerShape, haccepted, true_and]
      obtain ⟨hends, hsuccess⟩ := hfollows.ends fuel ((hiff fuel).mp hreturns)
      rw [true_and] at hsuccess
      exact ⟨hends, hsuccess⟩
    case returns =>
      intro q hq
      simp only [headerShape, if_pos haccepted] at hq
      obtain ⟨n, hn⟩ := hfollows.returns hq
      use n
      intro fuel hfuel
      obtain ⟨r, hr⟩ := hn fuel hfuel
      exact ⟨r, (hiff fuel).mpr hr⟩

theorem follows_getTlvType {f : Nat → Nat → Dec (Bool × α)} (hguard : add32 p 2 < lim)
    (h : Follows (Event.Within bound) (fun fuel => f fuel (data.be16 p)) (t (data.be16 p)) b p) :
  Follows (Event.Within bound) (fun fuel => do
    let offset ← here
    let tlvsubtype ← getTlvType data offset
    f fuel tlvsubtype) (typeShape data t) b p
  := by
  have hread : Logs (Event.Within bound) (getTlvType data p) p ↔ p + 2 < 2 ^ 32 := by
    simp only [getTlvType, logs_bind, logs_tell, logs_pure, post_true, and_true]
    simp only [Event.Within, add32] at hguard ⊢
    omega
  have htype := Follows.prepend (GRouter.returns_getTlvType data p p) hread h
  apply (Follows.prepend (returns_here p) (iff_of_true (logs_here p) trivial) htype).congr
  · rw [true_and]
    rfl
  · exact fun _ => Iff.rfl
  · rfl

omit hlim hbound in
theorem follows_contentLoop {l : Loop} {body : α → Dec (Bool × α)}
    (hbody : ∀ v q, add32 q 2 < tlvend → Follows (Event.Within bound) (fun _ => body v) s True q)
    (ok : Bool) (v : Nat → α) :
  Follows (Event.Within bound) (fun fuel => contentLoop l 2 tlvend body fuel ok (v fuel))
    (.loop (fun offset => add32 offset 2 < tlvend) (s.when (ok = true))) (ok = true) p
  := by
  apply follows_loop
  · exact fun _ => trivial
  · exact fun _ _ => trivial
  · intro v q hguard
    apply hbody v q (of_decide_eq_true hguard)

end Items

/-! ### Keys and signatures -/

/-- `RsTlvKeySignature::GetTlv`. -/
def signatureShape (data : Memory) (lim bound : Nat) : Shape :=
  itemShape data tlvTypeKeysignature lim fun tlvend => .seq [
    stringShape data tlvTypeStrKeyid tlvend bound,
    binaryShape data tlvTypeSignRsaSha1 tlvend]

/-- `RsTlvSecurityKey::GetTlv`. -/
def keyShape (data : Memory) (lim bound : Nat) : Shape :=
  itemShape data tlvTypeSecuritykey lim fun tlvend => .seq [
    stringShape data tlvTypeStrKeyid tlvend bound,
    rawShape 4 tlvend,
    rawShape 4 tlvend,
    rawShape 4 tlvend,
    binaryShape data tlvTypeKeyEvpPkey tlvend]

/-- The body of the loop of `RsTlvKeySignatureSet::GetTlv`. -/
def signSubShape (data : Memory) (size tlvend : Nat) : Shape :=
  typeShape data fun type =>
    if type = tlvTypeKeysignature then signatureShape data size size
    else if type = tlvTypeKeysignaturetype then
      headerShape data tlvTypeKeysignaturetype size fun tlvend => rawShape 4 tlvend
    else skipShape data tlvend

/-- `RsTlvKeySignatureSet::GetTlv`. -/
def signSetShape (data : Memory) (size : Nat) : Shape :=
  itemShape data tlvTypeKeysignatureset size fun tlvend =>
    .loop (fun offset => add32 offset 2 < tlvend) (signSubShape data size tlvend)

/-- The body of the loop of `RsTlvSecurityKeySet::GetTlv`, where a key only counts when the group
id has been read. -/
def keySubShape (data : Memory) (size tlvend : Nat) (groupId : Prop) : Shape :=
  typeShape data fun type =>
    if type = tlvTypeSecuritykey then (keyShape data size size).when groupId
    else skipShape data tlvend

/-- `RsTlvSecurityKeySet::GetTlv`. -/
def keySetShape (data : Memory) (size : Nat) : Shape :=
  itemShape data tlvTypeSecuritykeyset size fun tlvend =>
    (stringShape data tlvTypeStrGroupid tlvend size).andThen fun groupId =>
      .loop (fun offset => add32 offset 2 < tlvend)
        ((keySubShape data size tlvend groupId).when groupId)

section Sets

variable (hlim : lim ≤ bound) (hbound : bound < 2 ^ 32)

include hlim hbound

theorem follows_signature :
  Follows (Event.Within bound) (fun _ => RsTlvKeySignature.getTlv data lim RsTlvKeySignature.new)
    (signatureShape data lim bound) True p
  := by
  unfold RsTlvKeySignature.getTlv signatureShape itemShape
  apply follows_withTlv hlim hbound
  intro hend
  have hend := hend.trans hlim
  -- the end of the item is not to be evaluated
  obtain ⟨tlvend, htlvend⟩ : ∃ tlvend, tlvEnd data p = tlvend := ⟨_, rfl⟩
  rw [htlvend] at hend ⊢
  apply follows_closeTlv
  apply (follows_getTlvString hend hbound _ _).bind
  intro _ _ s hs
  apply (follows_binaryData hend hbound _).bind
  intro _ _ signData hsignData
  apply Follows.done
  intro fuel
  simp only [Bool.and_eq_true, hs, hsignData, true_and]

theorem follows_key :
  Follows (Event.Within bound) (fun _ => RsTlvSecurityKey.getTlv data lim RsTlvSecurityKey.new)
    (keyShape data lim bound) True p
  := by
  unfold RsTlvSecurityKey.getTlv keyShape itemShape
  apply follows_withTlv hlim hbound
  intro hend
  have hend := hend.trans hlim
  obtain ⟨tlvend, htlvend⟩ : ∃ tlvend, tlvEnd data p = tlvend := ⟨_, rfl⟩
  rw [htlvend] at hend ⊢
  apply follows_closeTlv
  apply (follows_getTlvString hend hbound _ _).bind
  intro _ _ s hs
  apply (follows_getRaw hend hbound (by decide) _ _).bind
  intro _ _ keyFlags hkeyFlags
  apply (follows_getRaw hend hbound (by decide) _ _).bind
  intro _ _ startTS hstartTS
  apply (follows_getRaw hend hbound (by decide) _ _).bind
  intro _ _ endTS hendTS
  apply (follows_binaryData hend hbound _).bind
  intro _ _ keyData hkeyData
  apply Follows.done
  intro fuel
  simp only [Bool.and_eq_true, hs, hkeyFlags, hstartTS, hendTS, hkeyData, true_and]

end Sets

theorem follows_signSub {tlvend : Nat} (hend : tlvend ≤ size) (hsize : size < 2 ^ 32)
    (hguard : add32 p 2 < tlvend) (currType : Nat) (v : RsTlvKeySignatureSet) :
  Follows (Event.Within size) (fun _ => rsTlvKeySignatureSetGetSub data currType size tlvend v)
    (signSubShape data size tlvend) True p
  := by
  apply follows_getTlvType hend hsize hguard
  split
  · apply (follows_signature le_rfl hsize).map
    intro r
    rw [true_and]
  · split
    · apply Follows.map
      · apply follows_withTlv le_rfl hsize
        intro hend
        apply follows_getRaw hend hsize (by decide)
      · intro r
        rw [true_and]
    · apply follows_skipUnknownTlv hend hsize

theorem follows_signSet (hsize : size < 2 ^ 32) (currType : Nat → Nat)
    (self : RsTlvKeySignatureSet) :
  Follows (Event.Within size)
    (fun fuel => RsTlvKeySignatureSet.getTlv data currType fuel size self)
    (signSetShape data size) True p
  := by
  unfold RsTlvKeySignatureSet.getTlv signSetShape itemShape
  apply follows_withTlv le_rfl hsize
  intro hend
  apply follows_closeTlv
  have hbody (v : RsTlvKeySignatureSet) (q : Nat) (hguard : add32 q 2 < tlvEnd data p) :
      Follows (Event.Within size)
        (fun _ => RsTlvKeySignatureSet.body data currType size (tlvEnd data p) v)
        (signSubShape data size (tlvEnd data p)) True q := by
    apply (Follows.prepend (returns_here q) (iff_of_true (logs_here q) trivial)
      (follows_signSub hend hsize hguard (currType q) v)).congr
    · rw [true_and]
    · exact fun _ => Iff.rfl
    · rfl
  have hloop := follows_contentLoop (l := .keySignatureSet) (p := add32 p tlvHeaderSize) hbody true
    fun _ => OrdMap.empty
  rwa [eq_self, Shape.when_true] at hloop

theorem follows_keySub {tlvend : Nat} (hend : tlvend ≤ size) (hsize : size < 2 ^ 32)
    (hguard : add32 p 2 < tlvend) (ok : Bool) (v : RsTlvSecurityKeySet) :
  Follows (Event.Within size) (fun _ => RsTlvSecurityKeySet.getSub data ok size tlvend v)
    (keySubShape data size tlvend (ok = true)) True p
  := by
  apply follows_getTlvType hend hsize hguard
  split
  · apply Follows.when
    simp only [← apply_ite pure]
    apply (follows_key le_rfl hsize).map
    intro r
    cases ok <;> cases r.1 <;> simp
  · apply follows_skipUnknownTlv hend hsize

theorem follows_keySet (hsize : size < 2 ^ 32) (self : RsTlvSecurityKeySet) :
  Follows (Event.Within size) (fun fuel => RsTlvSecurityKeySet.getTlv data fuel size self)
    (keySetShape data size) True p
  := by
  unfold RsTlvSecurityKeySet.getTlv keySetShape itemShape
  apply follows_withTlv le_rfl hsize
  intro hend
  obtain ⟨tlvend, htlvend⟩ : ∃ tlvend, tlvEnd data p = tlvend := ⟨_, rfl⟩
  rw [htlvend] at hend ⊢
  apply follows_closeTlv
  apply (follows_getTlvString hend hsize _ _).bind
  intro q _ groupId hgroupId
  -- whether the group id has been read is the same for every amount of fuel
  obtain ⟨ok, hok⟩ : ∃ ok, ∀ fuel, (groupId fuel).1 = ok := by
    use (groupId 0).1
    intro fuel
    rw [Bool.eq_iff_iff, hgroupId, hgroupId]
  have hsuccess : (ok = true) =
      (stringShape data tlvTypeStrGroupid tlvend size).Succeeds (add32 p tlvHeaderSize) := by
    rw [← hok 0, hgroupId]
  simp only [hok]
  rw [true_and, ← hsuccess]
  apply follows_contentLoop
  intro v q hguard
  apply follows_keySub hend hsize hguard

end Serialiser
