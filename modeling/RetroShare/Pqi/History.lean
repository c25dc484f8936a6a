import RetroShare.Lib.OrdMap

/-!
# The history of the chats

`p3HistoryMgr` keeps the messages of every conversation under their ids, and `removeMessages`
removes those of a list from all the conversations.  Ids and peers are numbers, and a message may
be anything.

The loop over the list goes on while the list is not empty, so that it reads behind its end unless
the first conversation has all of them (`removesExactly_iff`).
-/

namespace Pqi

abbrev RsPeerId := Nat

namespace History

variable {RsHistoryMsgItem : Type}

/-- `mMessages`: the messages of every conversation. -/
abbrev Messages (RsHistoryMsgItem : Type) := OrdMap RsPeerId (OrdMap Nat RsHistoryMsgItem)

/-- What the loops of `removeMessages` change besides the conversations: the ids that are left, and
those that have been removed. -/
structure Ids where
  ids : List Nat
  removedIds : List Nat

/-- The loop over the ids, of which those in `passed` lie in front of the iterator.  There is no
result when the iterator is read at the end. -/
def removeFrom : OrdMap Nat RsHistoryMsgItem → List Nat → List Nat → List Nat →
    Option (OrdMap Nat RsHistoryMsgItem × Ids)
  | messages, removedIds, passed, [] =>
      if passed.isEmpty then some (messages, ⟨passed, removedIds⟩) else none
  | messages, removedIds, passed, iit :: ids =>
      match messages.get? iit with
      | some _ => removeFrom (messages.erase iit) (removedIds ++ [iit]) passed ids
      | none => removeFrom messages removedIds (passed ++ [iit]) ids

/-- The body of the loop over the conversations. -/
def removeStep (s : Messages RsHistoryMsgItem × Ids)
    (mit : RsPeerId × OrdMap Nat RsHistoryMsgItem) : Option (Messages RsHistoryMsgItem × Ids) :=
  (removeFrom mit.2 s.2.removedIds [] s.2.ids).map fun r => (s.1.insert mit.1 r.1, r.2)

/-- What `removeMessages` leaves, and whom it tells. -/
structure Removal (RsHistoryMsgItem : Type) where
  mMessages : Messages RsHistoryMsgItem
  configChanged : Bool
  notified : List Nat

variable (mMessages : Messages RsHistoryMsgItem)

/-- `p3HistoryMgr::removeMessages`. -/
def removeMessages (msgIds : List Nat) :
    Option (Removal RsHistoryMsgItem) :=
  (mMessages.toList.foldlM removeStep (mMessages, ⟨msgIds, []⟩)).map fun s =>
    ⟨s.1, !s.2.removedIds.isEmpty, s.2.removedIds⟩

/-- The message of a conversation. -/
def message (peerId : RsPeerId) (msgId : Nat) :
    Option RsHistoryMsgItem :=
  (mMessages.get? peerId).bind fun messages => messages.get? msgId

/-- The ids of the messages of all conversations. -/
def allIds : List Nat :=
  mMessages.toList.flatMap fun mit => mit.2.toList.map Prod.fst

/-- The messages with the ids are removed and no others, and there is one notification for every
message that is removed. -/
def RemovesExactly (msgIds : List Nat) : Prop :=
  ∃ r, removeMessages mMessages msgIds = some r ∧
    (∀ peerId msgId, message r.mMessages peerId msgId =
      if msgId ∈ msgIds then none else message mMessages peerId msgId) ∧
    r.notified.Perm ((allIds mMessages).filter (· ∈ msgIds))

/-! ### One conversation -/

/-- The messages without those of some ids. -/
def without (messages : OrdMap Nat RsHistoryMsgItem) (ids : List Nat) :
    OrdMap Nat RsHistoryMsgItem :=
  messages.filter fun msgId _ => msgId ∉ ids

section Conversation

variable (messages : OrdMap Nat RsHistoryMsgItem) (iit : Nat)

@[simp]
theorem get?_without (ids : List Nat) (msgId : Nat) :
  (without messages ids).get? msgId = if msgId ∈ ids then none else messages.get? msgId
  := by
  rw [without, OrdMap.get?_filter]
  split
  case isTrue h => simp [h]
  case isFalse h =>
    cases messages.get? msgId with
    | none => rfl
    | some item => simp [h]

@[simp]
theorem without_nil :
  without messages [] = messages
  := by
  apply OrdMap.ext_get?
  simp

theorem without_erase (ids : List Nat) :
  without (messages.erase iit) ids = without messages (iit :: ids)
  := by
  apply OrdMap.ext_get?
  intro msgId
  rw [get?_without, get?_without, OrdMap.get?_erase]
  simp only [List.mem_cons]
  split_ifs <;> simp_all

theorem forall_erase_iff (ids : List Nat) :
  (∀ msgId ∈ ids, ((messages.erase iit).get? msgId).isSome) ↔
    iit ∉ ids ∧ ∀ msgId ∈ ids, (messages.get? msgId).isSome
  := by
  constructor
  · intro h
    constructor
    · intro hmem
      have := h iit hmem
      rw [OrdMap.get?_erase_self] at this
      contradiction
    · intro msgId hmem
      have := h msgId hmem
      rw [OrdMap.get?_erase] at this
      split at this
      case isTrue => contradiction
      case isFalse => exact this
  · rintro ⟨hnot, h⟩ msgId hmem
    have hne : msgId ≠ iit := by
      rintro rfl
      exact hnot hmem
    rw [OrdMap.get?_erase, if_neg hne]
    exact h msgId hmem

/-- The loop over the ids comes to its end just when the conversation has all of them. -/
theorem removeFrom_eq_some_iff (removedIds passed ids : List Nat)
    {r : OrdMap Nat RsHistoryMsgItem × Ids} :
  removeFrom messages removedIds passed ids = some r ↔
    passed = [] ∧ ids.Nodup ∧ (∀ msgId ∈ ids, (messages.get? msgId).isSome) ∧
      r = (without messages ids, ⟨[], removedIds ++ ids⟩)
  := by
  induction ids generalizing messages removedIds passed with
  | nil =>
    rw [removeFrom]
    cases passed with
    | nil =>
      simp only [List.isEmpty_nil, if_true, List.nodup_nil, List.not_mem_nil, without_nil,
        List.append_nil, false_imp_iff, implies_true, true_and, Option.some_inj]
      exact eq_comm
    | cons => simp
  | cons iit ids ih =>
    rw [removeFrom, List.nodup_cons, List.forall_mem_cons]
    cases hget : messages.get? iit with
    | none =>
      dsimp only
      rw [ih]
      simp
    | some item =>
      dsimp only
      rw [ih, forall_erase_iff, without_erase, List.append_assoc, List.singleton_append]
      simp only [Option.isSome_some, true_and]
      tauto

end Conversation

/-! ### All conversations -/

section Conversations

variable {mMessages : Messages RsHistoryMsgItem} {msgIds : List Nat}
    {mit : RsPeerId × OrdMap Nat RsHistoryMsgItem}
    {rest : List (RsPeerId × OrdMap Nat RsHistoryMsgItem)}

/-- Without ids the loop over the conversations changes nothing. -/
theorem foldlM_removeStep_nil (removedIds : List Nat)
    (hrest : ∀ mit ∈ rest, mMessages.get? mit.1 = some mit.2) :
  rest.foldlM removeStep (mMessages, ⟨[], removedIds⟩) = some (mMessages, ⟨[], removedIds⟩)
  := by
  induction rest with
  | nil => rfl
  | cons mit rest ih =>
    obtain ⟨hmit, hrest⟩ := List.forall_mem_cons.1 hrest
    have hstep : removeStep (mMessages, ⟨[], removedIds⟩) mit =
        some (mMessages, ⟨[], removedIds⟩) := by
      rw [removeStep, removeFrom]
      simp [OrdMap.insert_of_get?_eq_some hmit]
    rw [List.foldlM_cons, hstep]
    exact ih hrest

/-- The first conversation is the only one that is looked into. -/
theorem removeMessages_of_all (hmessages : mMessages.toList = mit :: rest) (hnodup : msgIds.Nodup)
    (hall : ∀ msgId ∈ msgIds, (mit.2.get? msgId).isSome) :
  removeMessages mMessages msgIds =
    some ⟨mMessages.insert mit.1 (without mit.2 msgIds), !msgIds.isEmpty, msgIds⟩
  := by
  have hfirst := (removeFrom_eq_some_iff mit.2 [] [] msgIds).2 ⟨rfl, hnodup, hall, rfl⟩
  have hstep : removeStep (mMessages, ⟨msgIds, []⟩) mit =
      some (mMessages.insert mit.1 (without mit.2 msgIds), ⟨[], msgIds⟩) := by
    rw [removeStep, hfirst]
    rfl
  have hsorted := mMessages.sorted
  rw [hmessages, List.pairwise_cons] at hsorted
  have hrest : ∀ mit' ∈ rest,
      (mMessages.insert mit.1 (without mit.2 msgIds)).get? mit'.1 = some mit'.2 := by
    intro mit' hmit'
    rw [OrdMap.get?_insert, if_neg (hsorted.1 mit' hmit').ne']
    apply OrdMap.mem_toList.1
    rw [hmessages]
    exact List.mem_cons_of_mem mit hmit'
  rw [removeMessages, hmessages, List.foldlM_cons, hstep]
  change ((rest.foldlM removeStep _).map _) = _
  rw [foldlM_removeStep_nil msgIds hrest]
  rfl

/-- Unless it has all the ids, and these once each, the list is read behind its end. -/
theorem removeMessages_eq_none (hmessages : mMessages.toList = mit :: rest)
    (hall : ¬ (msgIds.Nodup ∧ ∀ msgId ∈ msgIds, (mit.2.get? msgId).isSome)) :
  removeMessages mMessages msgIds = none
  := by
  have hfirst : removeFrom mit.2 [] [] msgIds = none := by
    rw [Option.eq_none_iff_forall_not_mem]
    intro r hr
    obtain ⟨-, hnodup, hsome, -⟩ := (removeFrom_eq_some_iff mit.2 [] [] msgIds).1 hr
    exact hall ⟨hnodup, hsome⟩
  rw [removeMessages, hmessages, List.foldlM_cons, removeStep, hfirst]
  rfl

theorem mem_ids_iff {messages : OrdMap Nat RsHistoryMsgItem} {msgId : Nat} :
  msgId ∈ messages.toList.map Prod.fst ↔ (messages.get? msgId).isSome
  := by
  rw [List.mem_map, Option.isSome_iff_exists]
  constructor
  · rintro ⟨e, he, rfl⟩
    exact ⟨e.2, OrdMap.mem_toList.1 he⟩
  · rintro ⟨item, hitem⟩
    exact ⟨_, OrdMap.mem_toList.2 hitem, rfl⟩

theorem perm_allIds (hmessages : mMessages.toList = mit :: rest) (hnodup : msgIds.Nodup)
    (hall : ∀ msgId ∈ msgIds, (mit.2.get? msgId).isSome)
    (hothers : ∀ mit' ∈ rest, ∀ msgId ∈ msgIds, mit'.2.get? msgId = none) :
  msgIds.Perm ((allIds mMessages).filter (· ∈ msgIds))
  := by
  have hkeys : (mit.2.toList.map Prod.fst).Nodup := by
    rw [List.nodup_iff_pairwise_ne, List.pairwise_map]
    exact mit.2.sorted.imp fun hlt => hlt.ne
  have hnone : (rest.flatMap fun mit => mit.2.toList.map Prod.fst).filter (· ∈ msgIds) = [] := by
    rw [List.filter_eq_nil_iff]
    intro msgId hmem
    obtain ⟨mit', hmit', hmem⟩ := List.mem_flatMap.1 hmem
    have hsome := mem_ids_iff.1 hmem
    rw [decide_eq_true_eq]
    intro hids
    rw [hothers mit' hmit' msgId hids] at hsome
    contradiction
  rw [allIds, hmessages, List.flatMap_cons, List.filter_append, hnone, List.append_nil,
    List.perm_ext_iff_of_nodup hnodup (hkeys.filter _)]
  intro msgId
  rw [List.mem_filter, mem_ids_iff, decide_eq_true_eq]
  exact ⟨fun h => ⟨hall msgId h, h⟩, And.right⟩

/-- Of a history with conversations, the messages are removed when the first of these has all the
ids, and no other one has any. -/
theorem removesExactly_of_first (hmessages : mMessages.toList = mit :: rest)
    (hnodup : msgIds.Nodup) (hall : ∀ msgId ∈ msgIds, (mit.2.get? msgId).isSome)
    (hothers : ∀ mit' ∈ rest, ∀ msgId ∈ msgIds, mit'.2.get? msgId = none) :
  RemovesExactly mMessages msgIds
  := by
  refine ⟨_, removeMessages_of_all hmessages hnodup hall, ?_,
    perm_allIds hmessages hnodup hall hothers⟩
  intro peerId msgId
  have hmit : mMessages.get? mit.1 = some mit.2 := by
    apply OrdMap.mem_toList.1
    rw [hmessages]
    exact List.mem_cons_self
  simp only [message]
  rw [OrdMap.get?_insert]
  by_cases hpeer : peerId = mit.1
  · rw [if_pos hpeer, hpeer, hmit]
    exact get?_without mit.2 msgIds msgId
  · rw [if_neg hpeer]
    split
    case isTrue hmem =>
      cases hget : mMessages.get? peerId with
      | none => rfl
      | some messages =>
        have hmem' := OrdMap.mem_toList.2 hget
        rw [hmessages] at hmem'
        obtain rfl | hrest := List.mem_cons.1 hmem'
        · exact absurd rfl hpeer
        · exact hothers _ hrest msgId hmem
    case isFalse => rfl

/-- The messages with the ids are removed just when there is no conversation, or the ids are
different and those of messages of the first conversation and of no other. -/
theorem removesExactly_iff (mMessages : Messages RsHistoryMsgItem) (msgIds : List Nat) :
  RemovesExactly mMessages msgIds ↔
    ∀ mit rest, mMessages.toList = mit :: rest →
      msgIds.Nodup ∧ (∀ msgId ∈ msgIds, (mit.2.get? msgId).isSome) ∧
        ∀ mit' ∈ rest, ∀ msgId ∈ msgIds, mit'.2.get? msgId = none
  := by
  constructor
  · rintro ⟨r, hremoved, hmessage, -⟩ mit rest hmessages
    have hall : msgIds.Nodup ∧ ∀ msgId ∈ msgIds, (mit.2.get? msgId).isSome := by
      by_contra hall
      rw [removeMessages_eq_none hmessages hall] at hremoved
      contradiction
    refine ⟨hall.1, hall.2, ?_⟩
    intro mit' hmit' msgId hmem
    rw [removeMessages_of_all hmessages hall.1 hall.2, Option.some_inj] at hremoved
    have hsorted := mMessages.sorted
    rw [hmessages, List.pairwise_cons] at hsorted
    have hget : mMessages.get? mit'.1 = some mit'.2 := by
      apply OrdMap.mem_toList.1
      rw [hmessages]
      exact List.mem_cons_of_mem mit hmit'
    have hleft := hmessage mit'.1 msgId
    rw [if_pos hmem, ← hremoved, message, OrdMap.get?_insert,
      if_neg (hsorted.1 mit' hmit').ne', hget] at hleft
    exact hleft
  · intro h
    cases hmessages : mMessages.toList with
    | nil =>
      refine ⟨⟨mMessages, false, []⟩, by rw [removeMessages, hmessages]; rfl, ?_, ?_⟩
      · intro peerId msgId
        have hnone : mMessages.get? peerId = none := by
          rw [OrdMap.get?, hmessages]
          rfl
        simp [message, hnone]
      · rw [allIds, hmessages]
        exact List.Perm.refl _
    | cons mit rest =>
      obtain ⟨hnodup, hall, hothers⟩ := h mit rest hmessages
      exact removesExactly_of_first hmessages hnodup hall hothers

/-- A single message is not removed when there is another conversation in front of its own. -/
theorem not_removesExactly_second :
  ¬ RemovesExactly ((OrdMap.empty.insert 1 (OrdMap.empty.insert 10 'a')).insert 2
    (OrdMap.empty.insert 11 'b')) [11]
  := by
  rintro ⟨r, hremoved, -⟩
  have hnone : removeMessages ((OrdMap.empty.insert 1 (OrdMap.empty.insert 10 'a')).insert 2
      (OrdMap.empty.insert 11 'b')) [11] = none := rfl
  rw [hnone] at hremoved
  contradiction

end Conversations

end History

end Pqi
