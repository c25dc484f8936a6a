import RetroShare.Dht.Peers
import RetroShare.Lib.CompareMap
import RetroShare.Lib.Machine
import RetroShare.Lib.MultiMap

/-!
# The order of ids

`operator<` and `operator==` of `bdpeer.cc`, and the history of `bdQueryHistory`, which is keyed by
ids.  The comparison of addresses tests the same thing twice: where two ids differ in their
addresses, the ports are compared all the same.  On ids whose addresses and ports are ordered the
same way it is a strict weak order (`strictWeakOrderOn_iff`), and the history keeps each id once.
-/

namespace Dht

/-! ### The comparisons -/

/-- The loop of `operator<` over the bytes of two node ids. -/
def ltBytes : List UInt8 → List UInt8 → Bool
  | a :: as, b :: bs => if a < b then true else if b < a then false else ltBytes as bs
  | _, _ => false

/-- `operator<` of `bdNodeId`. -/
def NodeId.lt (a b : NodeId) : Bool := ltBytes a.data.toList b.data.toList

/-- The loop of `operator==` over the bytes of two node ids. -/
def eqBytes : List UInt8 → List UInt8 → Bool
  | a :: as, b :: bs => if a < b then false else if b < a then false else eqBytes as bs
  | _, _ => true

/-- `operator==` of `bdNodeId`. -/
def NodeId.eq (a b : NodeId) : Bool := eqBytes a.data.toList b.data.toList

/-- `operator<` of `bdId`. -/
def Id.lt (a b : Id) : Bool :=
  if a.id.lt b.id then true
  else if b.id.lt a.id then false
  else if a.sAddr < b.sAddr then true
  -- this is the same comparison once more
  else if b.sAddr > a.sAddr then false
  else if a.sinPort < b.sinPort then true
  else false

/-- `operator==` of `bdId`. -/
def Id.eq (a b : Id) : Bool :=
  if !(a.id.eq b.id) then false
  else if a.sAddr = b.sAddr ∧ a.sinPort = b.sinPort then true
  else false

/-! ### Bytes -/

theorem ltBytes_irrefl (a : List UInt8) :
  ltBytes a a = false
  := by
  induction a with
  | nil => rfl
  | cons a as ih => rw [ltBytes, if_neg (UInt8.lt_irrefl a), if_neg (UInt8.lt_irrefl a), ih]

variable {a b : List UInt8} {S : Set Id}

theorem ltBytes_asymm (h : ltBytes a b) :
  ltBytes b a = false
  := by
  induction a generalizing b with
  | nil => cases h
  | cons a as ih =>
    cases b with
    | nil => rfl
    | cons b bs =>
      rw [ltBytes] at h ⊢
      split at h
      case isTrue hlt => rw [if_neg (UInt8.lt_asymm hlt), if_pos hlt]
      case isFalse hge =>
        split at h
        case isTrue => cases h
        case isFalse hle => rw [if_neg hle, if_neg hge, ih h]

theorem ltBytes_trans {c : List UInt8} (h : ltBytes a b) (h' : ltBytes b c) :
  ltBytes a c
  := by
  induction a generalizing b c with
  | nil => cases h
  | cons a as ih =>
    cases b with
    | nil => cases h
    | cons b bs =>
      cases c with
      | nil => cases h'
      | cons c cs =>
        have heq : ∀ {x y : UInt8}, ¬ x < y → ¬ y < x → x = y :=
          fun hge hle => UInt8.le_antisymm (UInt8.not_lt.1 hle) (UInt8.not_lt.1 hge)
        rw [ltBytes] at h h' ⊢
        split at h
        case isTrue hlt =>
          split at h'
          case isTrue hlt' => rw [if_pos (UInt8.lt_trans hlt hlt')]
          case isFalse hge' =>
            split at h'
            case isTrue => cases h'
            case isFalse hle' =>
              obtain rfl := heq hge' hle'
              rw [if_pos hlt]
        case isFalse hge =>
          split at h
          case isTrue => cases h
          case isFalse hle =>
            obtain rfl := heq hge hle
            split at h'
            case isTrue hlt' => rw [if_pos hlt']
            case isFalse hge' =>
              split at h'
              case isTrue => cases h'
              case isFalse hle' => rw [if_neg hge', if_neg hle', ih h h']

/-- Of two lists of one length that differ, one is less. -/
theorem eq_of_not_ltBytes (hlen : a.length = b.length) (h : ltBytes a b = false)
    (h' : ltBytes b a = false) :
  a = b
  := by
  induction a generalizing b with
  | nil => exact (List.eq_nil_of_length_eq_zero hlen.symm).symm
  | cons a as ih =>
    cases b with
    | nil => cases hlen
    | cons b bs =>
      rw [ltBytes] at h h'
      split at h
      case isTrue => cases h
      case isFalse hge =>
        split at h
        case isTrue hlt =>
          rw [if_pos hlt] at h'
          cases h'
        case isFalse hle =>
          rw [if_neg hle, if_neg hge] at h'
          obtain rfl := UInt8.le_antisymm (UInt8.not_lt.1 hle) (UInt8.not_lt.1 hge)
          rw [ih (Nat.succ.inj hlen) h h']

theorem eqBytes_iff (hlen : a.length = b.length) :
  eqBytes a b ↔ a = b
  := by
  induction a generalizing b with
  | nil =>
    rw [List.eq_nil_of_length_eq_zero hlen.symm]
    exact iff_of_true rfl rfl
  | cons a as ih =>
    cases b with
    | nil => cases hlen
    | cons b bs =>
      rw [eqBytes, List.cons.injEq]
      split
      case isTrue hlt =>
        refine iff_of_false Bool.false_ne_true ?_
        rintro ⟨rfl, -⟩
        exact UInt8.lt_irrefl a hlt
      case isFalse hge =>
        split
        case isTrue hlt =>
          refine iff_of_false Bool.false_ne_true ?_
          rintro ⟨rfl, -⟩
          exact UInt8.lt_irrefl a hlt
        case isFalse hle =>
          rw [ih (Nat.succ.inj hlen)]
          have heq := UInt8.le_antisymm (UInt8.not_lt.1 hle) (UInt8.not_lt.1 hge)
          exact (and_iff_right heq).symm

/-! ### Ids -/

theorem NodeId.length_data (a : NodeId) :
  a.data.toList.length = keyLen
  := a.data.length_toList

theorem NodeId.eq_of_not_lt {a b : NodeId} (h : a.lt b = false) (h' : b.lt a = false) :
  a = b
  := by
  have hlist := eq_of_not_ltBytes (a.length_data.trans b.length_data.symm) h h'
  obtain ⟨a⟩ := a
  obtain ⟨b⟩ := b
  rw [NodeId.mk.injEq]
  exact Vector.toList_inj.1 hlist

theorem NodeId.eq_iff {a b : NodeId} :
  a.eq b ↔ a = b
  := by
  rw [NodeId.eq, eqBytes_iff (a.length_data.trans b.length_data.symm)]
  constructor
  · intro h
    obtain ⟨a⟩ := a
    obtain ⟨b⟩ := b
    rw [NodeId.mk.injEq]
    exact Vector.toList_inj.1 h
  · rintro rfl
    rfl

theorem Id.eq_iff {a b : Id} :
  a.eq b ↔ a = b
  := by
  obtain ⟨ida, addra, porta⟩ := a
  obtain ⟨idb, addrb, portb⟩ := b
  have hid : ida.eq idb ↔ ida = idb := NodeId.eq_iff
  rw [Id.mk.injEq, ← hid, Id.eq]
  cases ida.eq idb <;> simp

/-- An id is less than another one of the same node when its address is, or its port. -/
theorem Id.lt_iff {a b : Id} :
  a.lt b ↔ a.id.lt b.id ∨ (a.id = b.id ∧ (a.sAddr < b.sAddr ∨ a.sinPort < b.sinPort))
  := by
  have hself : b.id.lt b.id = false := ltBytes_irrefl _
  rw [Id.lt]
  cases h : a.id.lt b.id with
  | true => simp
  | false =>
    cases h' : b.id.lt a.id with
    | true =>
      have hne : a.id ≠ b.id := by
        intro heq
        rw [heq, hself] at h'
        cases h'
      simp [hne]
    | false =>
      have heq := NodeId.eq_of_not_lt h h'
      by_cases haddr : a.sAddr < b.sAddr <;> simp [heq, haddr]

/-! ### The history of queries -/

/-- `QUERY_HISTORY_LIMIT`. -/
def queryHistoryLimit : Nat := 10

/-- `QUERY_HISTORY_PERIOD`, which `mStorePeriod` stays at. -/
def queryHistoryPeriod : Int := 600

/-- `bdQueryHistoryList`. -/
structure QueryHistoryList where
  mBadPeer : Bool
  mList : MultiMap Int NodeId

namespace QueryHistoryList

/-- The constructor. -/
def new : QueryHistoryList := ⟨false, MultiMap.empty⟩

variable (l : QueryHistoryList)

/-- `addIncomingQuery`. -/
def addIncomingQuery (recvd : Int) (aboutId : NodeId) : QueryHistoryList where
  mBadPeer := queryHistoryLimit < (l.mList.insert recvd aboutId).toList.length
  mList := l.mList.insert recvd aboutId

/-- `cleanupMsgs`, with whether the list is empty after it. -/
def cleanupMsgs (before : Int) : QueryHistoryList × Bool :=
  if before = 0 then ({ l with mList := MultiMap.empty }, true)
  else
    let l := { l with mList := l.mList.filter fun e => before ≤ e.1 }
    (l, l.mList.toList.isEmpty)

end QueryHistoryList

/-- `bdQueryHistory`: the entries of `mHistory` in their order. -/
abbrev QueryHistory : Type := List (Id × QueryHistoryList)

/-- A call of a history; `now` is the time. -/
inductive HistoryCall
  | addIncomingQuery (recvd : Int) (id : Id) (aboutId : NodeId)
  | cleanupOldMsgs (now : Int)

namespace QueryHistory

variable (h : QueryHistory)

/-- `addIncomingQuery`. -/
def addIncomingQuery (recvd : Int) (id : Id) (aboutId : NodeId) : QueryHistory :=
  let l := (CompareMap.find? Id.lt id h).getD .new
  CompareMap.set Id.lt id (l.addIncomingQuery recvd aboutId) h

/-- `cleanupOldMsgs`. -/
def cleanupOldMsgs (now : Int) : QueryHistory :=
  let before := now - queryHistoryPeriod
  (h.filter fun e => !(e.2.cleanupMsgs before).2).map fun e => (e.1, (e.2.cleanupMsgs before).1)

/-- The histories of the queries of other peers. -/
def machine : Machine QueryHistory HistoryCall Empty where
  step
    | h, .addIncomingQuery recvd id aboutId => (addIncomingQuery h recvd id aboutId, [])
    | h, .cleanupOldMsgs now => (cleanupOldMsgs h now, [])

/-- Each id is kept once, and found. -/
structure Keeps : Prop where
  once : (h.map Prod.fst).Nodup
  found : ∀ e ∈ h, CompareMap.find? Id.lt e.1 h = some e.2

end QueryHistory

/-- The ids of a call are in `S`. -/
def HistoryCall.In (S : Set Id) : HistoryCall → Prop
  | .addIncomingQuery _ id _ => id ∈ S
  | .cleanupOldMsgs _ => True

/-! ### The order on a set of ids -/

/-- Of two ids of one node in `S`, the one with the lower address has no higher port. -/
def Aligned (S : Set Id) : Prop :=
  ∀ a ∈ S, ∀ b ∈ S, a.id = b.id → a.sAddr < b.sAddr → a.sinPort ≤ b.sinPort

/-- The addresses and the ports of two ids of one node are in one order. -/
theorem Aligned.le (h : Aligned S) {a b : Id} (ha : a ∈ S) (hb : b ∈ S) (hid : a.id = b.id)
    (hlt : a.sAddr < b.sAddr ∨ a.sinPort < b.sinPort) :
  a.sAddr ≤ b.sAddr ∧ a.sinPort ≤ b.sinPort
  := by
  have hab := h a ha b hb hid
  have hba := h b hb a ha hid.symm
  simp only [UInt32.lt_iff_toNat_lt, UInt32.le_iff_toNat_le, UInt16.lt_iff_toNat_lt,
    UInt16.le_iff_toNat_le] at *
  omega

theorem Aligned.strictWeakOrderOn (h : Aligned S) :
  StrictWeakOrderOn S Id.lt Id.eq
  where
  irrefl a ha := by
    rw [Bool.eq_false_iff, Ne, Id.lt_iff, NodeId.lt, ltBytes_irrefl]
    simp
  asymm a ha b hb hab := by
    rw [Id.lt_iff] at hab
    rw [Bool.eq_false_iff, Ne, Id.lt_iff]
    rintro (hlt | ⟨hid, hlt⟩)
    · rcases hab with hlt' | ⟨hid', -⟩
      · exact Bool.false_ne_true ((ltBytes_asymm hlt).symm.trans hlt')
      · rw [hid', NodeId.lt, ltBytes_irrefl] at hlt
        cases hlt
    · rcases hab with hlt' | ⟨-, hlt'⟩
      · rw [hid, NodeId.lt, ltBytes_irrefl] at hlt'
        cases hlt'
      · have hle := h.le hb ha hid hlt
        have hle' := h.le ha hb hid.symm hlt'
        simp only [UInt32.lt_iff_toNat_lt, UInt32.le_iff_toNat_le, UInt16.lt_iff_toNat_lt,
          UInt16.le_iff_toNat_le] at *
        omega
  trans a ha b hb c hc hab hbc := by
    rw [Id.lt_iff] at hab hbc ⊢
    rcases hab with hlt | ⟨hid, hlt⟩
    · left
      rcases hbc with hlt' | ⟨hid', -⟩
      · exact ltBytes_trans hlt hlt'
      · exact hid' ▸ hlt
    · rcases hbc with hlt' | ⟨hid', hlt'⟩
      · left
        exact hid ▸ hlt'
      · right
        refine ⟨hid.trans hid', ?_⟩
        have hle := h.le ha hb hid hlt
        have hle' := h.le hb hc hid' hlt'
        simp only [UInt32.lt_iff_toNat_lt, UInt32.le_iff_toNat_le, UInt16.lt_iff_toNat_lt,
          UInt16.le_iff_toNat_le] at *
        omega
  equiv a ha b hb := by
    rw [Id.eq_iff]
    constructor
    · rintro ⟨hab, hba⟩
      rw [Bool.eq_false_iff, Ne, Id.lt_iff, not_or, Bool.not_eq_true] at hab hba
      have hid := NodeId.eq_of_not_lt hab.1 hba.1
      have haddr := hab.2
      have haddr' := hba.2
      simp only [hid, true_and, not_or, UInt32.not_lt, UInt16.not_lt] at haddr haddr'
      obtain ⟨ida, addra, porta⟩ := a
      obtain ⟨idb, addrb, portb⟩ := b
      rw [Id.mk.injEq]
      exact ⟨hid, UInt32.le_antisymm haddr'.1 haddr.1, UInt16.le_antisymm haddr'.2 haddr.2⟩
    · rintro rfl
      rw [Bool.eq_false_iff, Ne, Id.lt_iff, NodeId.lt, ltBytes_irrefl]
      simp

/-- A history of ids in `S` stays in order. -/
theorem Aligned.sorted_run (h : Aligned S) {calls : List HistoryCall}
    (hcalls : ∀ call ∈ calls, call.In S) :
  CompareMap.Sorted Id.lt S (QueryHistory.machine.run [] calls)
  := by
  have ho := h.strictWeakOrderOn
  apply Machine.run_of_step (P := CompareMap.Sorted Id.lt S) (C := fun _ call => call.In S)
  · intro history call hs hcall
    cases call with
    | addIncomingQuery recvd id aboutId => exact hs.set ho (fun _ _ => Id.eq_iff.1) hcall _
    | cleanupOldMsgs now =>
      change CompareMap.Sorted Id.lt S (QueryHistory.cleanupOldMsgs history now)
      unfold QueryHistory.cleanupOldMsgs
      apply (hs.sublist List.filter_sublist).of_map_fst
      rw [List.map_map]
      rfl
  · exact CompareMap.sorted_nil
  · exact Machine.along_of_forall_mem hcalls _

/-- On a set of ids `operator<` is a strict weak order whose equivalence is `operator==`, and keeps
the histories of these ids in order, exactly when no id of a node has a lower address and a higher
port than another one of the set. -/
theorem strictWeakOrderOn_iff (S : Set Id) :
  (StrictWeakOrderOn S Id.lt Id.eq ∧ ∀ calls : List HistoryCall, (∀ call ∈ calls, call.In S) →
    QueryHistory.Keeps (QueryHistory.machine.run [] calls)) ↔ Aligned S
  := by
  constructor
  · rintro ⟨ho, -⟩ a ha b hb hid haddr
    rw [← UInt16.not_lt]
    intro hport
    have hba := ho.asymm a ha b hb (Id.lt_iff.2 (.inr ⟨hid, .inl haddr⟩))
    rw [Id.lt_iff.2 (.inr ⟨hid.symm, .inr hport⟩)] at hba
    cases hba
  · intro h
    have ho := h.strictWeakOrderOn
    refine ⟨ho, ?_⟩
    intro calls hcalls
    have hs := h.sorted_run hcalls
    refine ⟨hs.nodup ho, ?_⟩
    intro e he
    exact (hs.find?_eq_some_iff ho (fun _ _ => Id.eq_iff.1) (hs.mem e he)).2 he

/-- Two ids of one node of which each is less than the other one. -/
theorem not_strictWeakOrderOn_univ :
  ¬ StrictWeakOrderOn Set.univ Id.lt Id.eq
  := by
  intro h
  have hasymm := h.asymm ⟨zeroNodeId, 1, 2⟩ trivial ⟨zeroNodeId, 2, 1⟩ trivial (by decide)
  revert hasymm
  decide

end Dht
