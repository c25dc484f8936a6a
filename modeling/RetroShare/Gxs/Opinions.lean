import RetroShare.Gxs.Reputation

/-!
# The opinions of a friend

A node asks its friend for the opinions that changed after a second, and remembers the second of the
last opinion that it received.  When no packet ends between two opinions of one second, it knows
every opinion up to the second that it remembers.

`Informs` is the invariant: whatever of the packets on their way arrives, all opinions are known up
to each second that is remembered, asked from, or stated by a packet that arrived.
-/

universe u v

namespace Gxs

variable {φ : Type u} {γ : Type v} [LinearOrder φ] [LinearOrder γ] (value : Int)

/-! ### Opinions on the wire -/

theorem limited_eq :
  limited value = max (-100) (min 100 value)
  := by
  simp only [limited, lowerLimit, upperLimit]
  omega

/-- An opinion arrives as it was limited. -/
theorem convertFromSerialised_convertToSerialised :
  convertFromSerialised (convertToSerialised value true) true = limited value
  := by
  obtain ⟨n, hn, hlt⟩ : ∃ n : Nat, limited value + reputationOffset = n ∧ n < 2 ^ 31 := by
    rw [limited_eq, reputationOffset]
    exact ⟨(max (-100) (min 100 value) + 100000).toNat, by omega, by omega⟩
  have hto : convertToSerialised value true = UInt32.ofNat n := by
    simp only [convertToSerialised, if_true, hn]
    rw [if_neg (by omega), Int.toNat_natCast]
  have hfrom : (UInt32.ofNat n).toInt32.toInt = n := by
    rw [UInt32.toInt32_ofNat']
    exact Int32.toInt_ofNat_of_lt hlt
  have hlimited : limited (limited value) = limited value := by
    simp only [limited_eq]
    omega
  simp only [convertFromSerialised, if_true]
  rw [hto, hfrom, ← hn, Int.add_sub_cancel, hlimited]

/-! ### Known opinions -/

/-- The opinion that a friend is known to have, limited to what a packet carries. -/
def P3GxsReputation.Knows (b : P3GxsReputation φ γ) (peer : φ) (gxsId : γ) (opinion : Int) : Prop :=
  ((b.mReputations.get? gxsId).bind fun reputation => reputation.mOpinions.get? peer) =
    some (max (-100) (min 100 opinion))

/-- `b` knows the opinions of `a` that are not later than `ts`. -/
def KnowsUpTo (a b : P3GxsReputation φ γ) (peer : φ) (ts : Nat) : Prop :=
  ∀ gxsId reputation, a.mReputations.get? gxsId = some reputation →
    reputation.mOwnOpinionTs ≤ ts → b.Knows peer gxsId reputation.mOwnOpinion

/-- The packet carries opinions that `a` still has. -/
def ReputationUpdateItem.Current (pkt : ReputationUpdateItem γ) (a : P3GxsReputation φ γ) : Prop :=
  ∀ gxsId value, pkt.mOpinions.get? gxsId = some value → ∃ reputation,
    a.mReputations.get? gxsId = some reputation ∧
      value = convertToSerialised reputation.mOwnOpinion true

namespace P3GxsReputation

variable {a b : P3GxsReputation φ γ} {peer : φ} {pkt : ReputationUpdateItem γ} {gxsId : γ}
  {reputation : Reputation φ}

theorem get?_recvReputations (b : P3GxsReputation φ γ) (peer : φ) (pkt : ReputationUpdateItem γ)
    (gxsId : γ) :
  (b.recvReputations peer pkt).mReputations.get? gxsId =
    ((pkt.mOpinions.get? gxsId).map fun value =>
      some (recvOpinion peer (b.mReputations.get? gxsId) value)).getD (b.mReputations.get? gxsId)
  := by
  apply OrdMap.get?_foldl (g := fun _ value reputation => some (recvOpinion peer reputation value))
  intro reputations e k
  rw [OrdMap.get?_insert]
  split
  case isTrue h => rw [h]
  case isFalse => rfl

theorem knows_recvReputations_of_mem (hpkt : pkt.Current a)
    (hget : a.mReputations.get? gxsId = some reputation)
    (hmem : (pkt.mOpinions.get? gxsId).isSome) :
  (b.recvReputations peer pkt).Knows peer gxsId reputation.mOwnOpinion
  := by
  obtain ⟨value, hvalue⟩ := Option.isSome_iff_exists.mp hmem
  obtain ⟨reputation', hget', rfl⟩ := hpkt gxsId value hvalue
  rw [hget] at hget'
  cases hget'
  rw [Knows, get?_recvReputations, hvalue]
  simp [recvOpinion, convertFromSerialised_convertToSerialised, limited_eq]

/-- A current packet takes away no opinion of `a` that is known. -/
theorem knows_recvReputations (hpkt : pkt.Current a)
    (hget : a.mReputations.get? gxsId = some reputation)
    (hknows : b.Knows peer gxsId reputation.mOwnOpinion) :
  (b.recvReputations peer pkt).Knows peer gxsId reputation.mOwnOpinion
  := by
  cases hvalue : pkt.mOpinions.get? gxsId with
  | some value => exact knows_recvReputations_of_mem hpkt hget (by rw [hvalue]; rfl)
  | none =>
    rw [Knows, get?_recvReputations, hvalue]
    exact hknows

@[simp]
theorem sendReputationRequest_recvReputations (b : P3GxsReputation φ γ) :
  (b.recvReputations peer pkt).sendReputationRequest peer = { mLastUpdate := pkt.mLatestUpdate }
  := by
  simp [sendReputationRequest, recvReputations, updateLatestUpdate]

theorem get?_mConfig_recvReputations :
  (b.recvReputations peer pkt).mConfig.get? peer =
    some { mLatestUpdate := pkt.mLatestUpdate.toNat }
  := by
  simp [recvReputations, updateLatestUpdate]

end P3GxsReputation

open P3GxsReputation

variable {a b : P3GxsReputation φ γ} {peer : φ} {pkt : ReputationUpdateItem γ}

theorem KnowsUpTo.recvReputations {ts : Nat} (h : KnowsUpTo a b peer ts) (hpkt : pkt.Current a) :
  KnowsUpTo a (b.recvReputations peer pkt) peer ts
  := by
  intro gxsId reputation hget hle
  apply knows_recvReputations hpkt hget
  apply h gxsId reputation hget hle

/-! ### Opinions and their seconds -/

/-- `mUpdated` has each own opinion under its second, and none of them is of the future. -/
structure P3GxsReputation.WellFormed (a : P3GxsReputation φ γ) (now : Nat) : Prop where
  nodup : a.mUpdated.toList.Nodup
  mem_iff : ∀ ts gxsId, (ts, gxsId) ∈ a.mUpdated.toList ↔
    ∃ reputation, a.mReputations.get? gxsId = some reputation ∧ reputation.mOwnOpinionTs = ts
  pos : ∀ gxsId reputation, a.mReputations.get? gxsId = some reputation →
    0 < reputation.mOwnOpinionTs
  le : ∀ gxsId reputation, a.mReputations.get? gxsId = some reputation →
    reputation.mOwnOpinionTs ≤ now

namespace P3GxsReputation

variable {now : Nat}

theorem wellFormed_new (now : Nat) :
  (new : P3GxsReputation φ γ).WellFormed now where
  nodup := List.nodup_nil
  mem_iff := by simp [new, MultiMap.empty]
  pos := by simp [new]
  le := by simp [new]

theorem WellFormed.wait (h : a.WellFormed now) (seconds : Nat) :
  a.WellFormed (now + seconds)
  := by
  constructor
  case nodup => exact h.nodup
  case mem_iff => exact h.mem_iff
  case pos => exact h.pos
  case le =>
    intro gxsId reputation hget
    apply (h.le gxsId reputation hget).trans
    apply Nat.le_add_right

theorem updateOpinion_cases (a : P3GxsReputation φ γ) (gxsid : γ) (opinion : Int) (now : Nat) :
  (a.updateOpinion gxsid opinion now).1 = a ∨
    ∃ reputation updated,
      (a.updateOpinion gxsid opinion now).1 =
        { a with
          mReputations := a.mReputations.insert gxsid reputation
          mUpdated := MultiMap.insert updated now gxsid } ∧
      reputation.mOwnOpinionTs = now ∧
      updated =
        (if ((a.mReputations.get? gxsid).getD .new).mOwnOpinionTs ≠ 0 then
          a.mUpdated.erase ((a.mReputations.get? gxsid).getD .new).mOwnOpinionTs gxsid
        else a.mUpdated)
  := by
  simp only [updateOpinion]
  split
  case isTrue => exact .inl rfl
  case isFalse => exact .inr ⟨_, _, rfl, rfl, rfl⟩

/-- Before an opinion is changed, `mUpdated` loses the entry of its identity and no other. -/
theorem WellFormed.mem_erased (h : a.WellFormed now) (gxsid : γ) {updated : MultiMap Nat γ}
    (hupdated : updated =
      if ((a.mReputations.get? gxsid).getD .new).mOwnOpinionTs ≠ 0 then
        a.mUpdated.erase ((a.mReputations.get? gxsid).getD .new).mOwnOpinionTs gxsid
      else a.mUpdated) :
  updated.toList.Nodup ∧
    ∀ ts gxsId, (ts, gxsId) ∈ updated.toList ↔ gxsId ≠ gxsid ∧ (ts, gxsId) ∈ a.mUpdated.toList
  := by
  cases hget : a.mReputations.get? gxsid with
  | none =>
    have hsame : updated = a.mUpdated := by simpa [hget, Reputation.new] using hupdated
    subst hsame
    refine ⟨h.nodup, fun ts gxsId => ⟨fun hmem => ⟨?_, hmem⟩, And.right⟩⟩
    rintro rfl
    obtain ⟨reputation, hget', -⟩ := (h.mem_iff ts gxsId).mp hmem
    rw [hget] at hget'
    cases hget'
  | some reputation =>
    rw [hget, Option.getD_some, if_pos (h.pos gxsid reputation hget).ne'] at hupdated
    subst hupdated
    refine ⟨h.nodup.erase _, fun ts gxsId => ?_⟩
    rw [MultiMap.erase, h.nodup.mem_erase_iff]
    apply and_congr_left
    intro hmem
    apply not_congr
    constructor
    · rintro ⟨-, rfl⟩
      rfl
    · rintro rfl
      obtain ⟨reputation', hget', rfl⟩ := (h.mem_iff ts gxsId).mp hmem
      rw [hget] at hget'
      cases hget'
      rfl

theorem WellFormed.updateOpinion (h : a.WellFormed now) (hnow : 0 < now) (gxsid : γ)
    (opinion : Int) :
  (a.updateOpinion gxsid opinion now).1.WellFormed now
  := by
  rcases a.updateOpinion_cases gxsid opinion now with
    heq | ⟨reputation, updated, heq, hts, hupdated⟩
  · rw [heq]
    exact h
  obtain ⟨hnodup, herased⟩ := h.mem_erased gxsid hupdated
  have hmem : ∀ ts gxsId, (ts, gxsId) ∈ (updated.insert now gxsid).toList ↔
      (ts = now ∧ gxsId = gxsid) ∨ (gxsId ≠ gxsid ∧ (ts, gxsId) ∈ a.mUpdated.toList) := by
    intro ts gxsId
    rw [(MultiMap.toList_insert_perm now gxsid).mem_iff, List.mem_cons, Prod.mk.injEq, herased]
  rw [heq]
  constructor
  case nodup =>
    rw [(MultiMap.toList_insert_perm now gxsid).nodup_iff, List.nodup_cons]
    refine ⟨?_, hnodup⟩
    rw [herased]
    rintro ⟨hne, -⟩
    exact hne rfl
  case mem_iff =>
    intro ts gxsId
    rw [hmem, OrdMap.get?_insert]
    split
    case isTrue heq =>
      simp [heq, hts, eq_comm]
    case isFalse hne =>
      simp [hne, h.mem_iff]
  case pos =>
    intro gxsId reputation' hget
    rcases OrdMap.get?_insert_iff.mp hget with ⟨-, rfl⟩ | ⟨-, hget⟩
    · rwa [hts]
    · exact h.pos gxsId reputation' hget
  case le =>
    intro gxsId reputation' hget
    rcases OrdMap.get?_insert_iff.mp hget with ⟨-, rfl⟩ | ⟨-, hget⟩
    · exact hts.le
    · exact h.le gxsId reputation' hget

theorem knowsUpTo_updateOpinion {ts : Nat} (h : KnowsUpTo a b peer ts) (hlt : ts < now) (gxsid : γ)
    (opinion : Int) :
  KnowsUpTo (a.updateOpinion gxsid opinion now).1 b peer ts
  := by
  rcases a.updateOpinion_cases gxsid opinion now with heq | ⟨reputation, updated, heq, hts, -⟩
  · rw [heq]
    exact h
  · rw [heq]
    intro gxsId reputation' hget hle
    rcases OrdMap.get?_insert_iff.mp hget with ⟨-, rfl⟩ | ⟨-, hget⟩
    · omega
    · exact h gxsId reputation' hget hle

end P3GxsReputation

/-! ### Packets -/

/-- No packet is full between two opinions of one second, unless the second is the one that the
clock showed.  `count` is the number of opinions in the packet that is being filled. -/
def Uncut (now : Nat) : Nat → List (Nat × γ) → Prop
  | count, e :: e' :: es =>
      (kMaximumSetSize < count + 1 → e.1 < e'.1 ∨ e.1 = now) ∧
        Uncut now (if kMaximumSetSize < count + 1 then 0 else count + 1) (e' :: es)
  | _, _ => True

instance decidableUncut (now : Nat) :
    ∀ (count : Nat) (es : List (Nat × γ)), Decidable (Uncut now count es)
  | _, [] => .isTrue trivial
  | _, [_] => .isTrue trivial
  | _, _ :: e' :: es => @instDecidableAnd _ _ _ (decidableUncut now _ (e' :: es))

/-- Whichever of the packets arrive, in their order, `b` then knows the opinions of `a` up to all
`marks`, and up to the second that each packet states once it has arrived. -/
def Informs (a : P3GxsReputation φ γ) (peer : φ) :
    List Nat → P3GxsReputation φ γ → List (ReputationUpdateItem γ) → Prop
  | marks, b, [] => ∀ ts ∈ marks, KnowsUpTo a b peer ts
  | marks, b, pkt :: pkts =>
      (∀ ts ∈ marks, KnowsUpTo a b peer ts) ∧
        Informs a peer (pkt.mLatestUpdate.toNat :: marks) (b.recvReputations peer pkt) pkts

namespace Informs

variable {marks : List Nat} {pkts : List (ReputationUpdateItem γ)}

theorem knowsUpTo (h : Informs a peer marks b pkts) {ts : Nat} (hts : ts ∈ marks) :
  KnowsUpTo a b peer ts
  := by
  cases pkts with
  | nil => exact h ts hts
  | cons pkt pkts => exact h.1 ts hts

theorem mono {marks' : List Nat} (h : Informs a peer marks b pkts) (hsub : marks' ⊆ marks) :
  Informs a peer marks' b pkts
  := by
  induction pkts generalizing b marks marks' with
  | nil =>
    intro ts hts
    exact h ts (hsub hts)
  | cons pkt pkts ih =>
    constructor
    · intro ts hts
      exact h.1 ts (hsub hts)
    · apply ih h.2
      exact List.cons_subset_cons _ hsub

theorem updateOpinion {now : Nat} (h : Informs a peer marks b pkts)
    (hmarks : ∀ ts ∈ marks, ts < now) (hpkts : ∀ pkt ∈ pkts, pkt.mLatestUpdate.toNat < now)
    (gxsid : γ) (opinion : Int) :
  Informs (a.updateOpinion gxsid opinion now).1 peer marks b pkts
  := by
  induction pkts generalizing b marks with
  | nil =>
    intro ts hts
    exact knowsUpTo_updateOpinion (h ts hts) (hmarks ts hts) gxsid opinion
  | cons pkt pkts ih =>
    rw [List.forall_mem_cons] at hpkts
    constructor
    · intro ts hts
      exact knowsUpTo_updateOpinion (h.1 ts hts) (hmarks ts hts) gxsid opinion
    · apply ih h.2 _ hpkts.2
      rw [List.forall_mem_cons]
      exact ⟨hpkts.1, hmarks⟩

/-- Packets that keep `b` informed wherever it knows as much as after the packets before them. -/
theorem append {pkts' : List (ReputationUpdateItem γ)} (h : Informs a peer marks b pkts)
    (h' : ∀ marks' b', marks ⊆ marks' → (∀ ts ∈ marks', KnowsUpTo a b' peer ts) →
      Informs a peer marks' b' pkts') :
  Informs a peer marks b (pkts ++ pkts')
  := by
  induction pkts generalizing b marks with
  | nil => exact h' marks b (List.Subset.refl marks) h
  | cons pkt pkts ih =>
    refine ⟨h.1, ih h.2 ?_⟩
    intro marks' b' hsub
    apply h' marks' b'
    intro ts hts
    apply hsub
    exact List.mem_cons_of_mem _ hts

end Informs

namespace P3GxsReputation

variable {clock now : Nat} {reputation : Reputation φ} {es : List (Nat × γ)} {e : Nat × γ}
  {gxsId : γ}

/-- The second that a packet states: that of its last opinion, or the one before it while the clock
still shows it. -/
theorem toNat_mLatestUpdate_add (pkt : ReputationUpdateItem γ) (gxsId : γ)
    (hpos : 0 < reputation.mOwnOpinionTs) (hts : reputation.mOwnOpinionTs < 2 ^ 32)
    (hnow : now < 2 ^ 32) :
  (pkt.add gxsId reputation now).mLatestUpdate.toNat =
    if reputation.mOwnOpinionTs = now then reputation.mOwnOpinionTs - 1
    else reputation.mOwnOpinionTs
  := by
  have heq : UInt32.ofNat reputation.mOwnOpinionTs = UInt32.ofNat now ↔
      reputation.mOwnOpinionTs = now := by
    rw [← UInt32.toNat_inj, UInt32.toNat_ofNat_of_lt' hts, UInt32.toNat_ofNat_of_lt' hnow]
  simp only [ReputationUpdateItem.add, heq]
  split
  case isFalse => exact UInt32.toNat_ofNat_of_lt' hts
  case isTrue =>
    rw [UInt32.toNat_sub_of_le, UInt32.toNat_ofNat_of_lt' hts]
    · rfl
    · rw [UInt32.le_iff_toNat_le, UInt32.toNat_ofNat_of_lt' hts]
      exact hpos

theorem fillPackets_cons {count : Nat} (hget : a.mReputations.get? e.2 = some reputation)
    (hpos : 0 < reputation.mOwnOpinionTs) :
  a.fillPackets now count pkt (e :: es) =
    if kMaximumSetSize < count + 1 then
      pkt.add e.2 reputation now :: a.fillPackets now 0 .new es
    else a.fillPackets now (count + 1) (pkt.add e.2 reputation now) es
  := by
  rw [fillPackets, hget]
  simp only [if_neg hpos.ne']

theorem fillPackets_append (now : Nat) (hes : ∀ e ∈ es, a.mReputations.get? e.2 = some reputation)
    (hpos : 0 < reputation.mOwnOpinionTs) (es' : List (Nat × γ)) :
  ∀ (count : Nat) (pkt : ReputationUpdateItem γ), count ≤ kMaximumSetSize →
    count + es.length = kMaximumSetSize + 1 →
    ∃ pkt', a.fillPackets now count pkt (es ++ es') = pkt' :: a.fillPackets now 0 .new es' ∧
      ∀ gxsId, pkt'.mLatestUpdate = (pkt.add gxsId reputation now).mLatestUpdate ∧
        (gxsId ∉ es.map Prod.snd → pkt'.mOpinions.get? gxsId = pkt.mOpinions.get? gxsId)
  := by
  induction es with
  | nil =>
    intro count pkt hcount hfull
    rw [List.length_nil] at hfull
    omega
  | cons e es ih =>
    intro count pkt hcount hfull
    rw [List.forall_mem_cons] at hes
    rw [List.length_cons] at hfull
    have hadd : ∀ gxsId, gxsId ≠ e.2 →
        (pkt.add e.2 reputation now).mOpinions.get? gxsId = pkt.mOpinions.get? gxsId := by
      intro gxsId hne
      rw [ReputationUpdateItem.add, OrdMap.get?_insert, if_neg hne]
    rw [List.cons_append, fillPackets_cons hes.1 hpos]
    split
    case isTrue =>
      have hnil : es = [] := List.eq_nil_of_length_eq_zero (by omega)
      refine ⟨_, by rw [hnil, List.nil_append], fun gxsId => ⟨rfl, fun hnot => hadd gxsId ?_⟩⟩
      exact fun heq => hnot (heq ▸ List.mem_map_of_mem List.mem_cons_self)
    case isFalse =>
      obtain ⟨pkt', hpkt', hfacts⟩ := ih hes.2 (count + 1) (pkt.add e.2 reputation now)
        (by omega) (by omega)
      refine ⟨pkt', hpkt', fun gxsId => ⟨(hfacts gxsId).1, fun hnot => ?_⟩⟩
      rw [List.map_cons, List.mem_cons, not_or] at hnot
      rw [(hfacts gxsId).2 hnot.2, hadd gxsId hnot.1]

theorem current_new :
  (.new : ReputationUpdateItem γ).Current a
  := by
  intro gxsId value hvalue
  cases hvalue

theorem current_add (hpkt : pkt.Current a) (hget : a.mReputations.get? gxsId = some reputation) :
  (pkt.add gxsId reputation now).Current a
  := by
  intro gxsId' value hvalue
  rw [ReputationUpdateItem.add] at hvalue
  rcases OrdMap.get?_insert_iff.mp hvalue with ⟨heq, rfl⟩ | ⟨-, hvalue⟩
  · rw [heq]
    exact ⟨reputation, hget, rfl⟩
  · exact hpkt gxsId' value hvalue

/-- An opinion that `b` knows, that is in the packet, or that is still to be put into one. -/
def Covered (a b : P3GxsReputation φ γ) (peer : φ) (pkt : ReputationUpdateItem γ)
    (es : List (Nat × γ)) : Prop :=
  ∀ gxsId reputation, a.mReputations.get? gxsId = some reputation →
    b.Knows peer gxsId reputation.mOwnOpinion ∨ (pkt.mOpinions.get? gxsId).isSome ∨
      (reputation.mOwnOpinionTs, gxsId) ∈ es

theorem Covered.add (h : Covered a b peer pkt (e :: es)) (reputation : Reputation φ) (now : Nat) :
  Covered a b peer (pkt.add e.2 reputation now) es
  := by
  intro gxsId reputation' hget
  rw [ReputationUpdateItem.add, OrdMap.get?_insert]
  rcases h gxsId reputation' hget with hknows | hpkt | hmem
  · exact .inl hknows
  · right
    left
    split
    case isTrue => rfl
    case isFalse => exact hpkt
  · rcases List.mem_cons.mp hmem with rfl | hmem
    · right
      left
      rw [if_pos rfl]
      rfl
    · exact .inr (.inr hmem)

/-- When the packet has arrived, the other opinions are still to come. -/
theorem Covered.recvReputations (h : Covered a b peer pkt es) (hpkt : pkt.Current a)
    (hget : a.mReputations.get? gxsId = some reputation) :
  (b.recvReputations peer pkt).Knows peer gxsId reputation.mOwnOpinion ∨
    (reputation.mOwnOpinionTs, gxsId) ∈ es
  := by
  rcases h gxsId reputation hget with hknows | hmem | hmem
  · exact .inl (knows_recvReputations hpkt hget hknows)
  · exact .inl (knows_recvReputations_of_mem hpkt hget hmem)
  · exact .inr hmem

theorem WellFormed.informs_fillPackets (h : a.WellFormed clock) (hclock : clock < 2 ^ 32)
    (hnow : now ≤ clock) :
  ∀ {es : List (Nat × γ)} {count : Nat} {pkt : ReputationUpdateItem γ} {marks : List Nat}
    {b : P3GxsReputation φ γ}, es.Pairwise (fun e e' => e.1 ≤ e'.1) →
    (∀ e ∈ es, e ∈ a.mUpdated.toList) → Uncut now count es → pkt.Current a →
    (∀ ts ∈ marks, KnowsUpTo a b peer ts) → Covered a b peer pkt es →
    Informs a peer marks b (a.fillPackets now count pkt es)
  | [], count, pkt, marks, b, _, _, _, hpkt, hmarks, hcovered => by
      rw [fillPackets]
      split
      case isTrue => exact hmarks
      case isFalse =>
        refine ⟨hmarks, ?_⟩
        intro ts _ gxsId reputation hget _
        rcases hcovered.recvReputations hpkt hget with hknows | hmem
        · exact hknows
        · cases hmem
  | e :: es, count, pkt, marks, b, hsorted, hmem, huncut, hpkt, hmarks, hcovered => by
      rw [List.pairwise_cons] at hsorted
      rw [List.forall_mem_cons] at hmem
      obtain ⟨reputation, hget, hts⟩ := (h.mem_iff e.1 e.2).mp hmem.1
      have hpos := h.pos e.2 reputation hget
      have hle := h.le e.2 reputation hget
      have hpkt' := @current_add _ _ _ _ _ _ now _ _ hpkt hget
      have hcovered' := hcovered.add reputation now
      have hrest : Uncut now (if kMaximumSetSize < count + 1 then 0 else count + 1) es := by
        cases es with
        | nil => trivial
        | cons e' es => exact huncut.2
      rw [fillPackets_cons hget hpos]
      split
      case isFalse hfull =>
        rw [if_neg hfull] at hrest
        exact h.informs_fillPackets hclock hnow hsorted.2 hmem.2 hrest hpkt' hmarks hcovered'
      case isTrue hfull =>
        rw [if_pos hfull] at hrest
        refine ⟨hmarks, ?_⟩
        apply h.informs_fillPackets hclock hnow hsorted.2 hmem.2 hrest current_new
        · rw [List.forall_mem_cons]
          constructor
          · -- what is still to come is later than the second that the full packet states
            intro gxsId reputation' hget' hle'
            rcases hcovered'.recvReputations hpkt' hget' with hknows | hlater
            · exact hknows
            · exfalso
              rw [toNat_mLatestUpdate_add pkt e.2 hpos (hle.trans_lt hclock)
                (hnow.trans_lt hclock)] at hle'
              cases es with
              | nil => cases hlater
              | cons e' es =>
                have hfirst : e'.1 ≤ reputation'.mOwnOpinionTs := by
                  rcases List.mem_cons.mp hlater with heq | hlater
                  · rw [← heq]
                  · exact (List.pairwise_cons.mp hsorted.2).1 _ hlater
                have hbehind := hsorted.1 e' List.mem_cons_self
                rcases huncut.1 hfull with hlt | heq
                · split at hle' <;> omega
                · rw [if_pos (hts.trans heq)] at hle'
                  omega
          · intro ts hts
            exact (hmarks ts hts).recvReputations hpkt'
        · intro gxsId reputation' hget'
          rcases hcovered'.recvReputations hpkt' hget' with hknows | hlater
          · exact .inl hknows
          · exact .inr (.inr hlater)

theorem WellFormed.mLatestUpdate_fillPackets (h : a.WellFormed clock) (hclock : clock < 2 ^ 32)
    (hnow : now ≤ clock) :
  ∀ {es : List (Nat × γ)} {count : Nat} {pkt : ReputationUpdateItem γ},
    (∀ e ∈ es, e ∈ a.mUpdated.toList ∧ (e.1 = clock → now = clock)) →
    pkt.mLatestUpdate.toNat ≤ clock - 1 →
    ∀ pkt' ∈ a.fillPackets now count pkt es, pkt'.mLatestUpdate.toNat ≤ clock - 1
  | [], count, pkt, _, hpkt, pkt', hmem => by
      rw [fillPackets] at hmem
      split at hmem
      case isTrue => cases hmem
      case isFalse =>
        rw [List.mem_singleton] at hmem
        rwa [hmem]
  | e :: es, count, pkt, hes, hpkt, pkt', hmem => by
      rw [List.forall_mem_cons] at hes
      obtain ⟨⟨hupdated, hclocks⟩, hes⟩ := hes
      obtain ⟨reputation, hget, hts⟩ := (h.mem_iff e.1 e.2).mp hupdated
      have hpos := h.pos e.2 reputation hget
      have hle := h.le e.2 reputation hget
      have hpkt' : (pkt.add e.2 reputation now).mLatestUpdate.toNat ≤ clock - 1 := by
        rw [toNat_mLatestUpdate_add pkt e.2 hpos (hle.trans_lt hclock) (hnow.trans_lt hclock)]
        split
        case isTrue => omega
        case isFalse hne =>
          have hover : reputation.mOwnOpinionTs ≠ clock := by
            intro heq
            exact hne (heq.trans (hclocks (hts.symm.trans heq)).symm)
          omega
      rw [fillPackets_cons hget hpos] at hmem
      split at hmem
      case isFalse => exact h.mLatestUpdate_fillPackets hclock hnow hes hpkt' pkt' hmem
      case isTrue =>
        rcases List.mem_cons.mp hmem with rfl | hmem
        · exact hpkt'
        · apply h.mLatestUpdate_fillPackets hclock hnow hes _ pkt' hmem
          exact Nat.zero_le _

theorem mem_updatedAfter {last_update : Nat} :
  e ∈ a.updatedAfter last_update ↔ e ∈ a.mUpdated.toList ∧ last_update < e.1
  := by
  rw [updatedAfter, List.mem_filter, decide_eq_true_eq]

/-- An answer, to a friend who knows the opinions up to the second that it asks from. -/
theorem WellFormed.informs_sendReputations (h : a.WellFormed clock) (hclock : clock < 2 ^ 32)
    (hnow : now ≤ clock) {request : ReputationRequestItem}
    (huncut : Uncut now 0 (a.updatedAfter request.mLastUpdate.toNat)) {marks : List Nat}
    (hrequest : request.mLastUpdate.toNat ∈ marks)
    (hmarks : ∀ ts ∈ marks, KnowsUpTo a b peer ts) :
  Informs a peer marks b (a.sendReputations request now)
  := by
  apply h.informs_fillPackets hclock hnow _ _ huncut current_new hmarks
  · intro gxsId reputation hget
    rcases Nat.lt_or_ge request.mLastUpdate.toNat reputation.mOwnOpinionTs with hlt | hle
    · right
      right
      rw [mem_updatedAfter]
      exact ⟨(h.mem_iff _ gxsId).mpr ⟨reputation, hget, rfl⟩, hlt⟩
    · exact .inl (hmarks _ hrequest gxsId reputation hget hle)
  · exact a.mUpdated.sorted.filter _
  · intro e he
    exact (mem_updatedAfter.mp he).1

end P3GxsReputation

/-! ### Exchange -/

namespace Exchange

variable {s : Exchange φ γ}

/-- `b` has the own opinions of `a`, up to the second that it keeps for `a`. -/
def Informed (s : Exchange φ γ) (peer : φ) : Prop :=
  ∀ config, s.b.mConfig.get? peer = some config →
    ∀ gxsId reputation, s.a.mReputations.get? gxsId = some reputation →
      reputation.mOwnOpinionTs ≤ config.mLatestUpdate →
        ((s.b.mReputations.get? gxsId).bind fun known => known.mOpinions.get? peer) =
          some (max (-100) (min 100 reputation.mOwnOpinion))

/-- The clock is past 0, where a time stamp says that there is no opinion, and fits 32 bits.  No
packet of an answer is full between two opinions of one second, unless the clock was read in it.
And opinions of the present second are sent only when the clock was read in it. -/
def Timely (s : Exchange φ γ) : Input γ → Prop
  | .updateOpinion _ _ => 0 < s.now
  | .answer =>
      s.answering.all fun (request, now) =>
        s.now < 2 ^ 32 ∧ Uncut now 0 (s.a.updatedAfter request.mLastUpdate.toNat) ∧
          ∀ e ∈ s.a.updatedAfter request.mLastUpdate.toNat, e.1 = s.now → now = s.now
  | _ => True

instance decidableTimely (s : Exchange φ γ) : ∀ input, Decidable (s.Timely input)
  | .updateOpinion _ _ => inferInstanceAs (Decidable (0 < s.now))
  | .answer => inferInstanceAs (Decidable (Option.all _ _ = true))
  | .request => .isTrue trivial
  | .readClock => .isTrue trivial
  | .deliver => .isTrue trivial
  | .lose => .isTrue trivial
  | .wait _ => .isTrue trivial

/-- The seconds that `b` keeps, that it asked from, and that `a` is answering from. -/
def marks (s : Exchange φ γ) (peer : φ) : List Nat :=
  ((s.b.sendReputationRequest peer :: s.requests) ++ (s.answering.map Prod.fst).toList).map
    fun request => request.mLastUpdate.toNat

/-- The invariant of the exchange. -/
structure Sound (peer : φ) (s : Exchange φ γ) : Prop where
  wellFormed : s.a.WellFormed s.now
  latest : ∀ config, s.b.mConfig.get? peer = some config →
    config.mLatestUpdate = (s.b.sendReputationRequest peer).mLastUpdate.toNat
  informs : Informs s.a peer (s.marks peer) s.b s.packets
  marks_le : ∀ ts ∈ s.marks peer, ts ≤ s.now - 1
  packets_le : ∀ pkt ∈ s.packets, pkt.mLatestUpdate.toNat ≤ s.now - 1
  clock : ∀ request now, s.answering = some (request, now) → now ≤ s.now

theorem Sound.informed (h : s.Sound peer) :
  s.Informed peer
  := by
  intro config hconfig gxsId reputation hget hle
  apply h.informs.knowsUpTo _ gxsId reputation hget hle
  rw [h.latest config hconfig, marks, List.cons_append, List.map_cons]
  exact List.mem_cons_self

theorem sound_start (peer : φ) (now : Nat) :
  (start now : Exchange φ γ).Sound peer
  := by
  constructor
  case wellFormed => exact wellFormed_new now
  case latest => simp [start, P3GxsReputation.new]
  case informs =>
    intro ts _ gxsId reputation hget
    cases hget
  case marks_le => simp [start, marks, sendReputationRequest, P3GxsReputation.new]
  case packets_le => simp [start]
  case clock => simp [start]

section

variable (h : s.Sound peer)

include h

/-- A step that only forgets seconds and packets, or lets time pass. -/
theorem Sound.of_subset {s' : Exchange φ γ} (ha : s'.a = s.a) (hb : s'.b = s.b)
    (hmarks : s'.marks peer ⊆ s.marks peer) (hpackets : s'.packets = s.packets ∨ s'.packets = [])
    (hnow : s.now ≤ s'.now)
    (hclock : ∀ request now, s'.answering = some (request, now) → now ≤ s'.now) :
  s'.Sound peer
  := by
  have hle : s.now - 1 ≤ s'.now - 1 := Nat.sub_le_sub_right hnow 1
  constructor
  case wellFormed =>
    rw [ha, ← Nat.add_sub_cancel' hnow]
    exact h.wellFormed.wait _
  case latest =>
    rw [hb]
    exact h.latest
  case informs =>
    rw [ha, hb]
    rcases hpackets with hpackets | hpackets
    · rw [hpackets]
      exact h.informs.mono hmarks
    · rw [hpackets]
      intro ts hts
      exact h.informs.knowsUpTo (hmarks hts)
  case marks_le =>
    intro ts hts
    exact (h.marks_le ts (hmarks hts)).trans hle
  case packets_le =>
    intro pkt hpkt
    rcases hpackets with hpackets | hpackets
    · rw [hpackets] at hpkt
      exact (h.packets_le pkt hpkt).trans hle
    · rw [hpackets] at hpkt
      cases hpkt
  case clock => exact hclock

theorem Sound.updateOpinion {gxsid : γ} {opinion : Int}
    (htimely : s.Timely (.updateOpinion gxsid opinion)) :
  (s.apply peer (.updateOpinion gxsid opinion)).Sound peer
  := by
  have hpos : 0 < s.now := htimely
  constructor
  case wellFormed => exact h.wellFormed.updateOpinion hpos gxsid opinion
  case latest => exact h.latest
  case informs =>
    apply h.informs.updateOpinion
    · intro ts hts
      exact (h.marks_le ts hts).trans_lt (Nat.sub_one_lt hpos.ne')
    · intro pkt hpkt
      exact (h.packets_le pkt hpkt).trans_lt (Nat.sub_one_lt hpos.ne')
  case marks_le => exact h.marks_le
  case packets_le => exact h.packets_le
  case clock => exact h.clock

theorem Sound.answer (htimely : s.Timely .answer) :
  (s.apply peer .answer).Sound peer
  := by
  rw [apply]
  split
  case h_2 => exact h
  case h_1 request now hanswering =>
    rw [Timely, hanswering] at htimely
    simp only [Option.all_some, decide_eq_true_eq] at htimely
    obtain ⟨hclock, huncut, hclocks⟩ := htimely
    have hnow := h.clock request now hanswering
    have hrequest : request.mLastUpdate.toNat ∈ s.marks peer := by
      simp [marks, hanswering]
    have hsub : ({ s with
          answering := none
          packets := s.packets ++ s.a.sendReputations request now } : Exchange φ γ).marks peer ⊆
        s.marks peer := by
      apply List.map_subset
      simp
    constructor
    case wellFormed => exact h.wellFormed
    case latest => exact h.latest
    case informs =>
      apply Informs.mono _ hsub
      apply h.informs.append
      intro marks' b' hsub' hmarks'
      exact h.wellFormed.informs_sendReputations hclock hnow huncut (hsub' hrequest) hmarks'
    case marks_le =>
      intro ts hts
      exact h.marks_le ts (hsub hts)
    case packets_le =>
      intro pkt hpkt
      rcases List.mem_append.mp hpkt with hpkt | hpkt
      · exact h.packets_le pkt hpkt
      · apply h.wellFormed.mLatestUpdate_fillPackets hclock hnow _ _ pkt hpkt
        · intro e he
          exact ⟨(mem_updatedAfter.mp he).1, hclocks e he⟩
        · exact Nat.zero_le _
    case clock => simp

theorem Sound.deliver :
  (s.apply peer .deliver).Sound peer
  := by
  rw [apply]
  split
  case h_2 => exact h
  case h_1 pkt packets hpackets =>
    have hinforms := h.informs
    have hpackets_le := h.packets_le
    rw [hpackets] at hinforms hpackets_le
    rw [List.forall_mem_cons] at hpackets_le
    have hmarks : ({ s with
          b := s.b.recvReputations peer pkt
          packets := packets } : Exchange φ γ).marks peer ⊆
        pkt.mLatestUpdate.toNat :: s.marks peer := by
      simp only [marks, List.cons_append, List.map_cons, sendReputationRequest_recvReputations]
      apply List.cons_subset_cons
      apply List.subset_cons_self
    constructor
    case wellFormed => exact h.wellFormed
    case latest =>
      intro config hconfig
      rw [get?_mConfig_recvReputations] at hconfig
      cases hconfig
      rw [sendReputationRequest_recvReputations]
    case informs => exact hinforms.2.mono hmarks
    case marks_le =>
      intro ts hts
      rcases List.mem_cons.mp (hmarks hts) with rfl | hts
      · exact hpackets_le.1
      · exact h.marks_le ts hts
    case packets_le => exact hpackets_le.2
    case clock => exact h.clock

/-- Every timely step keeps the invariant. -/
theorem Sound.next {input : Input γ} (htimely : s.Timely input) :
  (s.apply peer input).Sound peer
  := by
  cases input with
  | updateOpinion gxsid opinion => exact h.updateOpinion htimely
  | answer => exact h.answer htimely
  | deliver => exact h.deliver
  | request =>
    apply h.of_subset
    case ha => rfl
    case hb => rfl
    case hpackets => exact .inl rfl
    case hnow => exact Nat.le_refl _
    case hclock => exact h.clock
    case hmarks =>
      apply List.map_subset
      intro request hmem
      simp only [apply, List.mem_append, List.mem_cons, List.not_mem_nil, or_false] at hmem ⊢
      tauto
  | readClock =>
    rw [apply]
    split
    case h_2 => exact h
    case h_1 request requests hanswering hrequests =>
      apply h.of_subset
      case ha => rfl
      case hb => rfl
      case hpackets => exact .inl rfl
      case hnow => exact Nat.le_refl _
      case hclock =>
        rintro _ _ ⟨⟩
        exact Nat.le_refl _
      case hmarks =>
        apply List.map_subset
        intro request' hmem
        simp only [hanswering, hrequests, Option.map_some, Option.toList_some, List.mem_append,
          List.mem_cons, List.not_mem_nil, or_false] at hmem ⊢
        tauto
  | lose =>
    apply h.of_subset
    case ha => rfl
    case hb => rfl
    case hpackets => exact .inr rfl
    case hnow => exact Nat.le_refl _
    case hclock => exact h.clock
    case hmarks =>
      apply List.map_subset
      intro request hmem
      simp only [apply, List.mem_append, List.mem_cons, List.not_mem_nil, or_false] at hmem ⊢
      tauto
  | wait seconds =>
    apply h.of_subset
    case ha => rfl
    case hb => rfl
    case hpackets => exact .inl rfl
    case hnow => exact Nat.le_add_right _ _
    case hmarks => exact List.Subset.refl _
    case hclock =>
      intro request now hanswering
      exact (h.clock request now hanswering).trans (Nat.le_add_right _ _)

end

/-- In a run of timely steps, `b` always has the own opinions of `a` up to the second that it keeps
for `a`. -/
theorem informed_run (peer : φ) (now : Nat) {inputs : List (Input γ)}
    (htimely : (machine peer).Along Timely (start now : Exchange φ γ) inputs) :
  ((machine peer).run (start now : Exchange φ γ) inputs).Informed peer
  := by
  apply Sound.informed
  apply Machine.run_of_step (m := machine peer) (P := Sound peer)
  · intro s input hs hinput
    exact hs.next hinput
  · exact sound_start peer now
  · exact htimely

/-- An opinion that changes while the first is on its way. -/
theorem informed_run_changedOpinion :
  ((machine 0).run (start 1 : Exchange Nat Nat)
    [.updateOpinion 7 200, .request, .readClock, .answer, .wait 1, .updateOpinion 7 (-200),
      .deliver, .request, .readClock, .wait 1, .answer, .deliver]).Informed 0
  := by
  apply informed_run
  decide

/-- The opinions about as many identities, all of one second, and the answer in the next. -/
def answerToMany (identities : Nat) : List (Input Nat) :=
  (List.range identities).map (fun gxsid => .updateOpinion gxsid 1) ++
    [.wait 1, .request, .readClock, .answer]

theorem run_firstOpinions (identities : Nat) :
  ∃ a : P3GxsReputation Nat Nat,
    (machine 0).run (start 1) ((List.range identities).map fun gxsid => .updateOpinion gxsid 1) =
      { (start 1 : Exchange Nat Nat) with a } ∧
    a.mUpdated.toList = (List.range identities).map (Prod.mk 1) ∧
    ∀ gxsid, a.mReputations.get? gxsid =
      if gxsid < identities then some { mOpinions := .empty, mOwnOpinion := 1, mOwnOpinionTs := 1 }
      else none
  := by
  induction identities with
  | zero => exact ⟨.new, rfl, rfl, fun _ => rfl⟩
  | succ n ih =>
    obtain ⟨a, hrun, hupdated, hget⟩ := ih
    have hnone : a.mReputations.get? n = none := by rw [hget, if_neg (Nat.lt_irrefl n)]
    rw [List.range_succ, List.map_append, Machine.run_append, hrun]
    refine ⟨{ a with
      mReputations := a.mReputations.insert n ⟨.empty, 1, 1⟩
      mUpdated := a.mUpdated.insert 1 n }, ?_, ?_, ?_⟩
    · change { (start 1 : Exchange Nat Nat) with a := (a.updateOpinion n 1 1).1 } = _
      simp [P3GxsReputation.updateOpinion, hnone, Reputation.new]
    · change a.mUpdated.toList.filter _ ++ (1, n) :: a.mUpdated.toList.filter _ = _
      rw [hupdated, List.map_append, List.filter_eq_self.mpr (by simp),
        List.filter_eq_nil_iff.mpr (by simp)]
      rfl
    · intro gxsid
      rw [OrdMap.get?_insert, hget]
      split_ifs <;> first | rfl | omega

/-- One opinion more than a packet takes, in a second that is over when they are asked for: the
first packet states that second, and the last opinion is lost with the connection. -/
theorem not_informed_fullPacket :
  ¬∀ (now : Nat) (inputs : List (Input Nat)), 0 < now →
    ((machine 0).run (start now : Exchange Nat Nat) inputs).Informed 0
  := by
  intro h
  have hinformed := h 1 (answerToMany 102 ++ [.deliver, .lose]) Nat.one_pos
  obtain ⟨a, hupdates, hupdated, hget⟩ := run_firstOpinions 102
  have hopinions : ∀ e ∈ (List.range 101).map (Prod.mk 1), a.mReputations.get? e.2 =
      some ⟨.empty, 1, 1⟩ := by
    intro e he
    obtain ⟨gxsid, hlt, rfl⟩ := List.mem_map.mp he
    rw [hget, if_pos (by rw [List.mem_range] at hlt; omega)]
  obtain ⟨pkt, hpackets, hpkt⟩ := P3GxsReputation.fillPackets_append 2 hopinions Nat.one_pos
    [(1, 101)] 0 .new (Nat.zero_le _) rfl
  obtain ⟨hlatest, hmissing⟩ := hpkt 101
  have hsend : a.sendReputations ⟨0⟩ 2 = pkt :: a.fillPackets 2 0 .new [(1, 101)] := by
    rw [P3GxsReputation.sendReputations, P3GxsReputation.updatedAfter, hupdated,
      List.filter_eq_self.mpr (by simp), ← hpackets]
    rfl
  have hanswer : (machine 0).run { (start 1 : Exchange Nat Nat) with a }
      [.wait 1, .request, .readClock, .answer] =
        ⟨a, .new, [], none, pkt :: a.fillPackets 2 0 .new [(1, 101)], 2⟩ := by
    rw [← hsend]
    rfl
  rw [answerToMany, Machine.run_append, Machine.run_append, hupdates, hanswer] at hinformed
  have hlost : ((.new : P3GxsReputation Nat Nat).recvReputations 0 pkt).mReputations.get? 101 =
      none := by
    rw [get?_recvReputations, hmissing (by simp)]
    rfl
  have hknown := hinformed _ get?_mConfig_recvReputations 101 _ (hget 101) (by
    rw [hlatest]
    decide)
  change (((P3GxsReputation.new.recvReputations 0 pkt).mReputations.get? 101).bind _) = _ at hknown
  rw [hlost] at hknown
  cases hknown

end Exchange

end Gxs
