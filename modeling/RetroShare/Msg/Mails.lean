import RetroShare.Msg.Service

/-!
# Mails to a friend

A message of more than 15000 bytes is sent in parts, by any of the calls of `checkOutgoingMessages`
that are in progress.  The friend puts a part together with the next item of the sender, whatever
it is, so that mails arrive as they were sent when no other item is sent to the friend between the
parts of one message.
-/

namespace Msg

/-- A subject and a text. -/
abbrev Mail := List UInt8 × List UInt8

/-- The mail of an item. -/
def RsMsgItem.mail (item : RsMsgItem) : Mail := (item.subject, item.message)

/-- The item is for a friend, and not for a distant identity. -/
def RsMsgItem.isFor (item : RsMsgItem) (friend : RsPeerId) : Bool :=
  item.peerId = friend && !item.has flagDistant

/-- The service of the friend, who gets items of a sender, with the messages that it passes to
`processMsg`. -/
def receiver (sender : RsPeerId) : Machine P3MsgService RsMsgItem RsMsgItem where
  step svc item :=
    let r := svc.handleIncomingItem { item with peerId := sender }
    (r.1, r.2.toList)

/-- The items that were sent to a friend. -/
def sentTo (friend : RsPeerId) (history : List Event) : List RsMsgItem :=
  history.filterMap fun
    | .sendItem item => if item.peerId = friend then some item else none
    | _ => none

/-- The mails that a friend is to get. -/
def Input.mails (friend : RsPeerId) : Input → List Mail
  | .messageSend info => (info.peers.filter (· = friend)).map fun _ => (info.title, info.msg)
  | _ => []

/-- The mails to a friend that wait in `msgOutgoing`. -/
def outbox (friend : RsPeerId) (svc : P3MsgService) : List Mail :=
  svc.msgOutgoing.toList.filterMap fun e => if e.2.isFor friend then some e.2.mail else none

/-- Every mail to the friend waits, or has arrived once. -/
def MailsArrive (sender friend : RsPeerId) (time : Nat) (inputs : List Input) (s : System) : Prop :=
  (inputs.flatMap (Input.mails friend)).Perm
    (((receiver sender).trace (.new time) (sentTo friend s.history)).map RsMsgItem.mail ++
      outbox friend s.svc)

/-- What sends messages: no answer of the global router, and no restart. -/
def Input.sends : Input → Bool
  | .notifyDataStatus _ _ => false
  | .saveList => false
  | .restart _ => false
  | _ => true

/-- A message to the friend of which a part is sent and a part is not. -/
def Task.begunTo (friend : RsPeerId) : Task → Bool
  | .sendPart item begun => begun && item.peerId = friend
  | _ => false

/-- No item is sent to the friend between the parts of another message, and no message gets the id
of one that waits. -/
def undisturbed (friend : RsPeerId) (s : System) : Input → Bool
  | .advance call _ _ =>
      match s.task? call with
      | some (.enqueue item _) => (s.svc.msgOutgoing.get? item.msgId).isNone
      | some (.sendPart item _) =>
          item.peerId ≠ friend || (s.otherTasks call).all fun task => !task.begunTo friend
      | _ => true
  | _ => true

/-! ### Parts -/

namespace P3MsgService

variable {svc : P3MsgService} (ci : RsMsgItem)

/-- The text of the parts that a friend holds. -/
def heldText (svc : P3MsgService) (peer : RsPeerId) : List UInt8 :=
  (svc.pendingPartialMessages.get? peer).elim [] RsMsgItem.message

theorem heldText_eq_nil {peer : RsPeerId} (h : svc.pendingPartialMessages.get? peer = none) :
  svc.heldText peer = []
  := by
  rw [heldText, h]
  rfl

@[simp]
theorem processMsg_pendingPartialMessages (svc : P3MsgService) (mi : RsMsgItem) :
  (svc.processMsg mi).pendingPartialMessages = svc.pendingPartialMessages
  := rfl

theorem handleIncomingItem_of_partial (hci : ci.has flagPartial) :
  ∃ svc', svc.handleIncomingItem ci = (svc', none) ∧
    (svc'.pendingPartialMessages.get? ci.peerId).isSome ∧
    svc'.heldText ci.peerId = svc.heldText ci.peerId ++ ci.message
  := by
  cases hpending : svc.pendingPartialMessages.get? ci.peerId with
  | none => simp [handleIncomingItem, checkAndRebuildPartialMessage, hci, hpending, heldText]
  | some pending =>
    simp [handleIncomingItem, checkAndRebuildPartialMessage, hci, hpending, heldText]

theorem handleIncomingItem_of_not_partial (hci : ci.has flagPartial = false) :
  ∃ svc' mi, svc.handleIncomingItem ci = (svc', some mi) ∧
    svc'.pendingPartialMessages.get? ci.peerId = none ∧
    mi.mail = (ci.subject, svc.heldText ci.peerId ++ ci.message)
  := by
  cases hpending : svc.pendingPartialMessages.get? ci.peerId with
  | none =>
    simp [handleIncomingItem, checkAndRebuildPartialMessage, hci, hpending, heldText,
      RsMsgItem.mail]
  | some pending =>
    simp [handleIncomingItem, checkAndRebuildPartialMessage, hci, hpending, heldText,
      RsMsgItem.mail]

end P3MsgService

/-! ### Mails on their way -/

/-- The mail that a task is to send to a friend.  `held` is what the friend holds of a message that
is begun. -/
def Task.mail? (friend : RsPeerId) (held : List UInt8) : Task → Option Mail
  | .newMsgId item _ => if item.isFor friend then some item.mail else none
  | .enqueue item _ => if item.isFor friend then some item.mail else none
  | .sendPart item begun =>
      if item.peerId = friend then
        some (item.subject, (if begun then held else []) ++ item.message)
      else none
  | _ => none

/-- The items of a task have no part flag. -/
def Task.Whole : Task → Prop
  | .newMsgId item _ => item.has flagPartial = false
  | .enqueue item _ => item.has flagPartial = false
  | .sendPart item _ => item.has flagPartial = false
  | _ => True

variable {friend : RsPeerId} {tasks : List Task}

theorem Task.mail?_of_not_begunTo {task : Task} (h : ¬task.begunTo friend)
    (held held' : List UInt8) :
  task.mail? friend held = task.mail? friend held'
  := by
  cases task with
  | sendPart item begun =>
    cases begun with
    | false => rfl
    | true =>
      have hne : item.peerId ≠ friend := by simpa [Task.begunTo] using h
      simp [Task.mail?, hne]
  | _ => rfl

/-- The mails that the calls in progress are to send to a friend. -/
def mailsOf (friend : RsPeerId) (held : List UInt8) (tasks : List Task) : List Mail :=
  tasks.filterMap (Task.mail? friend held)

theorem mailsOf_of_not_begunTo (h : ∀ task ∈ tasks, ¬task.begunTo friend)
    (held held' : List UInt8) :
  mailsOf friend held tasks = mailsOf friend held' tasks
  := by
  apply List.filterMap_congr
  intro task htask
  exact Task.mail?_of_not_begunTo (h task htask) held held'

theorem mailsOf_singleton (friend : RsPeerId) (held : List UInt8) (task : Task) :
  mailsOf friend held [task] = (task.mail? friend held).toList
  := by
  rw [mailsOf]
  cases hmail : task.mail? friend held <;> simp [hmail]

theorem mailsOf_perm {old rest : List Task} (h : tasks.Perm (old ++ rest)) (friend : RsPeerId)
    (held : List UInt8) :
  (mailsOf friend held tasks).Perm (mailsOf friend held old ++ mailsOf friend held rest)
  := by
  rw [mailsOf, mailsOf, mailsOf, ← List.filterMap_append]
  exact h.filterMap _

section Flowing

variable {sender friend ownId : RsPeerId} {time msgId : Nat} {inputs : List Input} {s s' : System}
  {held : Option RsMsgItem} {rest new : List Task} {input : Input} {item : RsMsgItem} {begun : Bool}
  {task : Task} {history : List Event} {svc : P3MsgService}

/-- The service of the friend after what was sent. -/
def friendOf (sender friend : RsPeerId) (time : Nat) (history : List Event) : P3MsgService :=
  (receiver sender).run (.new time) (sentTo friend history)

/-- The mails that have arrived. -/
def arrived (sender friend : RsPeerId) (time : Nat) (history : List Event) : List Mail :=
  ((receiver sender).trace (.new time) (sentTo friend history)).map RsMsgItem.mail

/-- What the friend holds is the beginning of the one message that is begun. -/
def Begun (friend : RsPeerId) (held : Option RsMsgItem) (tasks : List Task) : Prop :=
  if held.isSome then
    ∃ task rest, tasks.Perm (task :: rest) ∧ task.begunTo friend ∧
      ∀ task' ∈ rest, ¬task'.begunTo friend
  else ∀ task ∈ tasks, ¬task.begunTo friend

/-- The invariant: every mail to the friend waits, is on its way or has arrived. -/
structure Flowing (sender friend : RsPeerId) (time : Nat) (inputs : List Input) (s : System) :
    Prop where
  outgoing : ∀ msgId item, s.svc.msgOutgoing.get? msgId = some item → item.has flagPartial = false
  whole : ∀ task ∈ s.tasks, task.Whole
  begun : Begun friend
    ((friendOf sender friend time s.history).pendingPartialMessages.get? sender) s.tasks
  mails : (inputs.flatMap (Input.mails friend)).Perm
    (arrived sender friend time s.history ++
      (outbox friend s.svc ++
        mailsOf friend ((friendOf sender friend time s.history).heldText sender) s.tasks))

theorem Flowing.mailsArrive (h : Flowing sender friend time inputs s) (hidle : s.Idle) :
  MailsArrive sender friend time inputs s
  := by
  have hmails := h.mails
  rw [hidle.tasks_eq_nil] at hmails
  simpa [mailsOf, MailsArrive, arrived] using hmails

theorem Begun.perm {tasks' : List Task} (h : Begun friend held tasks) (hperm : tasks.Perm tasks') :
  Begun friend held tasks'
  := by
  rw [Begun] at h ⊢
  split
  case isTrue hheld =>
    rw [if_pos hheld] at h
    obtain ⟨task, rest, htasks, hbegun, hrest⟩ := h
    exact ⟨task, rest, hperm.symm.trans htasks, hbegun, hrest⟩
  case isFalse hheld =>
    rw [if_neg hheld] at h
    intro task htask
    exact h task (hperm.mem_iff.mpr htask)

theorem Begun.append {old : List Task} (h : Begun friend held (old ++ rest))
    (hold : ∀ task ∈ old, ¬task.begunTo friend) (hnew : ∀ task ∈ new, ¬task.begunTo friend) :
  Begun friend held (new ++ rest)
  := by
  rw [Begun] at h ⊢
  split
  case isTrue hheld =>
    rw [if_pos hheld] at h
    obtain ⟨task, others, hperm, hbegun, hothers⟩ := h
    have hmem : task ∈ old ++ rest := hperm.mem_iff.mpr List.mem_cons_self
    have hrest : task ∈ rest := by
      rcases List.mem_append.mp hmem with hmem | hmem
      · exact absurd hbegun (hold task hmem)
      · exact hmem
    refine ⟨task, new ++ rest.erase task, ?_, hbegun, ?_⟩
    · apply ((List.perm_cons_erase hrest).append_left new).trans
      exact List.perm_middle
    · intro task' htask'
      rcases List.mem_append.mp htask' with htask' | htask'
      · exact hnew task' htask'
      · apply hothers
        have herase : (old ++ rest.erase task).Perm others := by
          apply List.Perm.cons_inv (a := task)
          apply List.Perm.trans _ hperm
          apply List.perm_middle.symm.trans
          exact ((List.perm_cons_erase hrest).append_left old).symm
        exact herase.mem_iff.mp (List.mem_append_right old htask')
  case isFalse hheld =>
    rw [if_neg hheld] at h
    intro task htask
    rcases List.mem_append.mp htask with htask | htask
    · exact hnew task htask
    · exact h task (List.mem_append_right old htask)

/-- A step after which the same items are sent to the friend: it replaces tasks by others, which are
not begun either, with the same mails. -/
theorem Flowing.of_perm (h : Flowing sender friend time inputs s) (old new rest : List Task)
    (htasks : s.tasks.Perm (old ++ rest)) (htasks' : s'.tasks.Perm (new ++ rest))
    (hsent : sentTo friend s'.history = sentTo friend s.history)
    (houtgoing : ∀ msgId item, s'.svc.msgOutgoing.get? msgId = some item → item.has flagPartial =
      false) (hwhole : (∀ task ∈ old, task.Whole) → ∀ task ∈ new, task.Whole)
    (hold : ∀ task ∈ old, ¬task.begunTo friend) (hnew : ∀ task ∈ new, ¬task.begunTo friend)
    (hmails : (input.mails friend ++ (outbox friend s.svc ++ mailsOf friend [] old)).Perm (outbox
      friend s'.svc ++ mailsOf friend [] new)) :
  Flowing sender friend time (inputs ++ [input]) s'
  := by
  have hfriend : friendOf sender friend time s'.history =
      friendOf sender friend time s.history := by
    rw [friendOf, friendOf, hsent]
  constructor
  case outgoing => exact houtgoing
  case whole =>
    intro task htask
    rw [htasks'.mem_iff, List.mem_append] at htask
    rcases htask with htask | htask
    · apply hwhole _ task htask
      intro task' htask'
      apply h.whole
      rw [htasks.mem_iff]
      exact List.mem_append_left rest htask'
    · apply h.whole
      rw [htasks.mem_iff]
      exact List.mem_append_right old htask
  case begun =>
    rw [hfriend]
    exact ((h.begun.perm htasks).append hold hnew).perm htasks'.symm
  case mails =>
    rw [arrived, hsent, hfriend, List.flatMap_append, List.flatMap_singleton, List.perm_iff_count]
    intro mail
    have hbefore := h.mails.count_eq mail
    have hchange := hmails.count_eq mail
    have hsplit := (mailsOf_perm htasks friend
      ((friendOf sender friend time s.history).heldText sender)).count_eq mail
    have hsplit' := (mailsOf_perm htasks' friend
      ((friendOf sender friend time s.history).heldText sender)).count_eq mail
    rw [mailsOf_of_not_begunTo hold _ []] at hsplit
    rw [mailsOf_of_not_begunTo hnew _ []] at hsplit'
    simp only [arrived, List.count_append] at hbefore hchange hsplit hsplit' ⊢
    omega

/-! ### Parts on their way -/

theorem sentTo_append (friend : RsPeerId) (history : List Event) (item : RsMsgItem) :
  sentTo friend (history ++ [.sendItem item]) =
    if item.peerId = friend then sentTo friend history ++ [item] else sentTo friend history
  := by
  rw [sentTo, List.filterMap_append]
  split
  case isTrue h => simp [sentTo, h]
  case isFalse h => simp [sentTo, h]

theorem friendOf_sendItem (h : item.peerId = friend) :
  friendOf sender friend time (history ++ [.sendItem item]) =
    ((friendOf sender friend time history).handleIncomingItem { item with peerId := sender }).1
  := by
  rw [friendOf, sentTo_append, if_pos h, Machine.run_append]
  rfl

theorem arrived_sendItem (h : item.peerId = friend) :
  arrived sender friend time (history ++ [.sendItem item]) =
    arrived sender friend time history ++
      ((friendOf sender friend time history).handleIncomingItem
        { item with peerId := sender }).2.toList.map RsMsgItem.mail
  := by
  rw [arrived, sentTo_append, if_pos h, Machine.trace_append, List.map_append]
  simp [arrived, friendOf, receiver, Machine.emit]

theorem Begun.isSome_eq (h : Begun friend held (.sendPart item begun :: rest))
    (hpeer : item.peerId = friend) (hrest : ∀ task ∈ rest, ¬task.begunTo friend) :
  held.isSome = begun
  := by
  have hbegun : (Task.sendPart item begun).begunTo friend = begun := by
    simp [Task.begunTo, hpeer]
  rw [Begun] at h
  split at h
  case isTrue hheld =>
    obtain ⟨task, others, hperm, htask, -⟩ := h
    rcases List.mem_cons.mp (hperm.mem_iff.mpr List.mem_cons_self) with rfl | hmem
    · rw [hheld, ← hbegun, htask]
    · exact absurd htask (hrest task hmem)
  case isFalse hheld =>
    have hnot := h _ List.mem_cons_self
    rw [hbegun] at hnot
    simp_all

section

variable (h : Flowing sender friend time inputs s)

include h

theorem Flowing.sendPart (hpeer : item.peerId = friend)
    (htasks : s.tasks.Perm (.sendPart item begun :: rest))
    (hrest : ∀ task ∈ rest, ¬task.begunTo friend) (hmails : input.mails friend = [])
    (hsvc : s'.svc = s.svc)
    (hhistory : s'.history = s.history ++ [.sendItem (P3MsgService.sendPart item).1])
    (htasks' : s'.tasks.Perm ((P3MsgService.sendPart item).2 ++ rest)) :
  Flowing sender friend time (inputs ++ [input]) s'
  := by
  have hwhole : item.has flagPartial = false :=
    h.whole (.sendPart item begun) (htasks.mem_iff.mpr List.mem_cons_self)
  have hbegun := (h.begun.perm htasks).isSome_eq hpeer hrest
  have hold := h.mails
  generalize hf : friendOf sender friend time s.history = f at hbegun hold
  have hheld : (if begun then f.heldText sender else []) = f.heldText sender := by
    rw [← hbegun]
    split
    case isTrue => rfl
    case isFalse hnone => exact (f.heldText_eq_nil (by simpa using hnone)).symm
  have htext : (mailsOf friend (f.heldText sender) s.tasks).Perm
      ((item.subject, f.heldText sender ++ item.message) ::
        mailsOf friend (f.heldText sender) rest) := by
    have hperm := htasks.filterMap (Task.mail? friend (f.heldText sender))
    rwa [List.filterMap_cons_some (by rw [Task.mail?, if_pos hpeer]), hheld] at hperm
  have hwhole' : ∀ task ∈ rest, task.Whole := by
    intro task htask
    exact h.whole task (htasks.mem_iff.mpr (List.mem_cons_of_mem _ htask))
  rw [P3MsgService.sendPart] at hhistory htasks'
  split at hhistory
  case isTrue hlong =>
    -- the friend keeps the part
    rw [if_pos hlong] at htasks'
    obtain ⟨f', hhandled, hsome, hheld'⟩ := f.handleIncomingItem_of_partial
      { ({ item with message := item.message.take maxStringSize }.set flagPartial) with
        peerId := sender }
      (by
        change (RsMsgItem.set _ _).has flagPartial = true
        rw [RsMsgItem.has_set]
        simp [flagPartial])
    have hfriend : friendOf sender friend time s'.history = f' := by
      rw [hhistory, friendOf_sendItem, hf, hhandled]
      exact hpeer
    have harrived : arrived sender friend time s'.history =
        arrived sender friend time s.history := by
      rw [hhistory, arrived_sendItem, hf, hhandled]
      · apply List.append_nil
      · exact hpeer
    constructor
    case outgoing =>
      rw [hsvc]
      exact h.outgoing
    case whole =>
      intro task htask
      rcases List.mem_cons.mp (htasks'.mem_iff.mp htask) with rfl | htask
      · exact hwhole
      · exact hwhole' task htask
    case begun =>
      rw [hfriend, Begun, if_pos hsome]
      exact ⟨_, rest, htasks', by simp [Task.begunTo, hpeer], hrest⟩
    case mails =>
      have htext' : (mailsOf friend (f'.heldText sender) s'.tasks).Perm
          ((item.subject, f.heldText sender ++ item.message) ::
            mailsOf friend (f.heldText sender) rest) := by
        have hperm := htasks'.filterMap (Task.mail? friend (f'.heldText sender))
        rw [List.cons_append, List.nil_append,
          List.filterMap_cons_some (by rw [Task.mail?, if_pos hpeer])] at hperm
        have hwhole : (if true then f'.heldText sender else []) ++
            item.message.drop maxStringSize = f.heldText sender ++ item.message := by
          rw [if_pos rfl, hheld', List.append_assoc, RsMsgItem.set, List.take_append_drop]
        rw [hwhole] at hperm
        exact hperm.trans (.cons _ (.of_eq (mailsOf_of_not_begunTo hrest _ _)))
      rw [harrived, hfriend, hsvc, List.flatMap_append, List.flatMap_singleton, hmails,
        List.append_nil]
      apply hold.trans
      apply List.Perm.append_left
      apply List.Perm.append_left
      exact htext.trans htext'.symm
  case isFalse hshort =>
    -- the friend passes the message on
    rw [if_neg hshort] at htasks'
    obtain ⟨f', mi, hhandled, hnone, hmail⟩ := f.handleIncomingItem_of_not_partial
      { item with peerId := sender } hwhole
    have hfriend : friendOf sender friend time s'.history = f' := by
      rw [hhistory, friendOf_sendItem hpeer, hf, hhandled]
    have harrived : arrived sender friend time s'.history =
        arrived sender friend time s.history ++
          [(item.subject, f.heldText sender ++ item.message)] := by
      rw [hhistory, arrived_sendItem hpeer, hf, hhandled, ← hmail]
      rfl
    constructor
    case outgoing =>
      rw [hsvc]
      exact h.outgoing
    case whole =>
      intro task htask
      exact hwhole' task (htasks'.mem_iff.mp htask)
    case begun =>
      rw [hfriend, Begun, if_neg (by simp [hnone])]
      intro task htask
      exact hrest task (htasks'.mem_iff.mp htask)
    case mails =>
      have htext' : (mailsOf friend (f'.heldText sender) s'.tasks).Perm
          (mailsOf friend (f.heldText sender) rest) := by
        rw [mailsOf_of_not_begunTo hrest _ (f'.heldText sender)]
        exact htasks'.filterMap _
      rw [harrived, hfriend, hsvc, List.flatMap_append, List.flatMap_singleton, hmails,
        List.append_nil, List.append_assoc]
      apply hold.trans
      apply List.Perm.append_left
      apply (htext.append_left _).trans
      apply List.perm_middle.trans
      exact (htext'.symm.append_left _).cons _

/-! ### Steps -/

theorem Flowing.begin (call : List Task) (hhistory : s'.history = s.history)
    (htasks : s'.tasks = s.tasks ++ call)
    (houtgoing : ∀ msgId item, s'.svc.msgOutgoing.get? msgId = some item → item.has flagPartial =
      false) (hcall : ∀ task ∈ call, task.Whole ∧ ¬task.begunTo friend)
    (hmails : (input.mails friend ++ outbox friend s.svc).Perm (outbox friend s'.svc ++ mailsOf
      friend [] call)) :
  Flowing sender friend time (inputs ++ [input]) s'
  := by
  apply h.of_perm [] call s.tasks
  case htasks => exact List.Perm.refl _
  case htasks' =>
    rw [htasks]
    exact List.perm_append_comm
  case hsent => rw [hhistory]
  case houtgoing => exact houtgoing
  case hwhole => exact fun _ task htask => (hcall task htask).1
  case hold => simp
  case hnew => exact fun task htask => (hcall task htask).2
  case hmails => simpa [mailsOf] using hmails

/-- A call does a task that sends nothing to the friend. -/
theorem Flowing.advance (htasks : s.tasks.Perm (task :: rest))
    (htasks' : s'.tasks.Perm (new ++ rest))
    (hsent : sentTo friend s'.history = sentTo friend s.history)
    (houtgoing : ∀ msgId item, s'.svc.msgOutgoing.get? msgId = some item → item.has flagPartial =
      false) (hwhole : task.Whole → ∀ task ∈ new, task.Whole) (hold : ¬task.begunTo friend)
    (hnew : ∀ task ∈ new, ¬task.begunTo friend) (hmails : input.mails friend = [])
    (hperm : ((outbox friend s.svc) ++ (task.mail? friend []).toList).Perm (outbox friend s'.svc ++
      mailsOf friend [] new)) :
  Flowing sender friend time (inputs ++ [input]) s'
  := by
  apply h.of_perm [task] new rest htasks htasks' hsent houtgoing
  · intro htask
    exact hwhole (htask task (List.mem_singleton_self task))
  · simpa using hold
  · exact hnew
  · rw [hmails, mailsOf_singleton]
    exact hperm

/-- A call does a task that sends nothing, and the next ones are of the same mail. -/
theorem Flowing.advance_of_eq (htasks : s.tasks.Perm (task :: rest))
    (htasks' : s'.tasks.Perm (new ++ rest))
    (hsent : sentTo friend s'.history = sentTo friend s.history)
    (houtgoing : s'.svc.msgOutgoing = s.svc.msgOutgoing)
    (hwhole : task.Whole → ∀ task ∈ new, task.Whole) (hold : ¬task.begunTo friend)
    (hnew : ∀ task ∈ new, ¬task.begunTo friend) (hmails : input.mails friend = [])
    (htask : mailsOf friend [] new = (task.mail? friend []).toList) :
  Flowing sender friend time (inputs ++ [input]) s'
  := by
  apply h.advance htasks htasks' hsent _ hwhole hold hnew hmails
  · rw [htask, outbox, outbox, houtgoing]
  · rw [houtgoing]
    exact h.outgoing

end

theorem outbox_insert_of_get?_eq_some (friend : RsPeerId) (item' : RsMsgItem)
    (hget : svc.msgOutgoing.get? msgId = some item) (hmail : item'.mail = item.mail)
    (hfor : item'.isFor friend = item.isFor friend) :
  (outbox friend svc).Perm
    (outbox friend { svc with msgOutgoing := svc.msgOutgoing.insert msgId item' })
  := by
  have hbefore := (OrdMap.toList_perm_of_get?_eq_some hget).filterMap
    fun e => if e.2.isFor friend then some e.2.mail else none
  have hafter := (svc.msgOutgoing.toList_insert_perm msgId item').filterMap
    fun e => if e.2.isFor friend then some e.2.mail else none
  apply hbefore.trans
  apply List.Perm.trans _ hafter.symm
  rw [List.filterMap_cons, List.filterMap_cons, hfor, hmail]

theorem outbox_insert_of_get?_eq_none (friend : RsPeerId) (item : RsMsgItem)
    (hget : svc.msgOutgoing.get? msgId = none) :
  (outbox friend { svc with msgOutgoing := svc.msgOutgoing.insert msgId item }).Perm
    (outbox friend svc ++ (if item.isFor friend then some item.mail else none).toList)
  := by
  have hafter := (svc.msgOutgoing.toList_insert_perm msgId item).filterMap
    fun e => if e.2.isFor friend then some e.2.mail else none
  rw [OrdMap.erase_of_get?_eq_none hget] at hafter
  apply hafter.trans
  rw [List.filterMap_cons]
  split
  case h_1 hfor => rw [hfor, Option.toList_none, List.append_nil]; rfl
  case h_2 mail hfor =>
    rw [hfor, Option.toList_some]
    exact (List.perm_append_singleton mail _).symm

/-- What `checkOutgoingMessages` takes out is to be sent, and the rest stays. -/
theorem outbox_collect (svc : P3MsgService) (ownId : RsPeerId) (isPeerConnected : RsPeerId → Bool) :
  (outbox friend svc).Perm
    (outbox friend (svc.collect ownId isPeerConnected).1 ++
      mailsOf friend [] (svc.collect ownId isPeerConnected).2)
  := by
  simp only [outbox, mailsOf, P3MsgService.collect, OrdMap.map, OrdMap.filter]
  generalize P3MsgService.isSent ownId isPeerConnected = isSent
  induction svc.msgOutgoing.toList with
  | nil => exact List.Perm.refl _
  | cons e l ih =>
    cases hsent : isSent e.2 with
    | false =>
      simp only [List.filter_cons, hsent, Bool.false_and, Bool.not_false, if_true,
        Bool.false_eq_true, if_false, List.map_cons, List.filterMap_cons]
      cases e.2.isFor friend with
      | false => exact ih
      | true => exact ih.cons _
    | true =>
      cases hdistant : e.2.has flagDistant with
      | true =>
        have hfor : (e.2.set flagRouted).isFor friend = e.2.isFor friend := by
          simp [RsMsgItem.isFor, RsMsgItem.has_set, hdistant]
        have hnot : e.2.isFor friend = false := by
          simp [RsMsgItem.isFor, hdistant]
        simp only [List.filter_cons, hsent, hdistant, Bool.not_true, Bool.and_false,
          Bool.not_false, if_true, List.map_cons, List.filterMap_cons, hfor, hnot,
          Bool.false_eq_true, if_false, P3MsgService.sendTask, Task.mail?]
        exact ih
      | false =>
        have hmail : (P3MsgService.sendTask e.2).mail? friend [] =
            if e.2.isFor friend then some e.2.mail else none := by
          simp [P3MsgService.sendTask, hdistant, Task.mail?, RsMsgItem.isFor,
            RsMsgItem.unset, RsMsgItem.mail]
        simp only [List.filter_cons, hsent, hdistant, Bool.not_false, Bool.and_true,
          Bool.not_true, Bool.false_eq_true, if_false, if_true, List.map_cons,
          List.filterMap_cons, hmail]
        cases e.2.isFor friend with
        | false => exact ih
        | true => exact (ih.cons _).trans List.perm_middle.symm

theorem mailsOf_messageSend (ownId : RsPeerId) (info : MessageInfo) :
  mailsOf friend [] (P3MsgService.messageSend ownId info) =
    (Input.messageSend info).mails friend
  := by
  have hpeer : ∀ pit, (info.initForPeer pit).isFor friend = decide (pit = friend) := by
    intro pit
    have hdistant : (info.initForPeer pit).has flagDistant = false := by
      rw [MessageInfo.initForPeer, RsMsgItem.has_set_of_and_eq_zero _ (by decide)]
      exact info.initMIRsMsg_has pit (by decide) (by decide)
    simp only [RsMsgItem.isFor, hdistant, Bool.not_false, Bool.and_true]
    rfl
  have hgxs : ∀ pit, (info.initForGxsId pit).isFor friend = false := by
    intro pit
    have hdistant : (info.initForGxsId pit).has flagDistant = true := by
      rw [MessageInfo.initForGxsId]
      split <;> simp [RsMsgItem.has_set, flagDistant]
    simp [RsMsgItem.isFor, hdistant]
  simp only [mailsOf, P3MsgService.messageSend, List.filterMap_append, List.filterMap_map,
    Input.mails, Function.comp_def, Task.mail?, hpeer, hgxs, Bool.false_eq_true, if_false,
    decide_eq_true_eq]
  have hpeers : ∀ pits : List RsPeerId,
      pits.filterMap (fun pit => if pit = friend then some (info.initForPeer pit).mail else none) =
        (pits.filter (· = friend)).map fun _ => (info.title, info.msg) := by
    intro pits
    induction pits with
    | nil => rfl
    | cons pit pits ih =>
      rw [List.filterMap_cons, List.filter_cons, ih]
      by_cases hpit : pit = friend
      · simp only [hpit, if_true, decide_true, List.map_cons]
        rfl
      · simp [hpit]
  rw [hpeers]
  simp [Task.mail?]

theorem whole_messageSend (ownId : RsPeerId) (info : MessageInfo) :
  ∀ task ∈ P3MsgService.messageSend ownId info, task.Whole ∧ ¬task.begunTo friend
  := by
  intro task htask
  simp only [P3MsgService.messageSend, List.mem_append, List.mem_map, List.mem_singleton] at htask
  rcases htask with (⟨pit, -, rfl⟩ | ⟨pit, -, rfl⟩) | rfl
  · refine ⟨?_, by simp [Task.begunTo]⟩
    rw [Task.Whole, MessageInfo.initForPeer, RsMsgItem.has_set_of_and_eq_zero _ (by decide)]
    exact info.initMIRsMsg_has pit (by decide) (by decide)
  · refine ⟨?_, by simp [Task.begunTo]⟩
    rw [Task.Whole, MessageInfo.initForGxsId]
    split
    case isTrue =>
      rw [RsMsgItem.has_set_of_and_eq_zero _ (by decide),
        RsMsgItem.has_set_of_and_eq_zero _ (by decide)]
      exact info.initMIRsMsg_has pit (by decide) (by decide)
    case isFalse =>
      rw [RsMsgItem.has_set_of_and_eq_zero _ (by decide)]
      exact info.initMIRsMsg_has pit (by decide) (by decide)
  · exact ⟨trivial, by simp [Task.begunTo]⟩

section

variable (h : Flowing sender friend time inputs s)

include h

theorem Flowing.messageToTrash (msgId : Nat) (bTrash : Bool) :
  Flowing sender friend time (inputs ++ [.messageToTrash msgId bTrash])
    (s.apply ownId (.messageToTrash msgId bTrash))
  := by
  apply h.begin (if (s.svc.messageToTrash msgId bTrash).2 then [.collect] else [])
  case hhistory => rfl
  case htasks =>
    rw [System.apply]
    cases hchanged : (s.svc.messageToTrash msgId bTrash).2 <;> simp [System.tasks, hchanged]
  case houtgoing =>
    intro msgId' item' hget
    change (s.svc.messageToTrash msgId bTrash).1.msgOutgoing.get? msgId' = some item' at hget
    rcases s.svc.messageToTrash_cases msgId bTrash with heq | ⟨item, flags, hitem, heq, hflags⟩
    · rw [heq] at hget
      exact h.outgoing msgId' item' hget
    · rw [heq] at hget
      rcases OrdMap.get?_insert_iff.mp hget with ⟨-, rfl⟩ | ⟨-, hget⟩
      · rw [hflags flagPartial (by decide) (by decide)]
        exact h.outgoing msgId item hitem
      · exact h.outgoing msgId' item' hget
  case hcall =>
    intro task htask
    split at htask
    case isTrue =>
      rw [List.mem_singleton.mp htask]
      simp [Task.Whole, Task.begunTo]
    case isFalse => cases htask
  case hmails =>
    have hnone : mailsOf friend []
        (if (s.svc.messageToTrash msgId bTrash).2 then [.collect] else []) = [] := by
      split <;> rfl
    rw [hnone, List.append_nil]
    change (outbox friend s.svc).Perm (outbox friend (s.svc.messageToTrash msgId bTrash).1)
    rcases s.svc.messageToTrash_cases msgId bTrash with heq | ⟨item, flags, hitem, heq, hflags⟩
    · rw [outbox, outbox, heq]
    · have hreplaced := outbox_insert_of_get?_eq_some friend
        { item with msgFlags := flags } hitem rfl
        (by rw [RsMsgItem.isFor, hflags flagDistant (by decide) (by decide)]; rfl)
      rw [outbox, outbox, heq]
      exact hreplaced

theorem Flowing.enqueue {signer : Option RsGxsId}
    (htasks : s.tasks.Perm (.enqueue item signer :: rest))
    (hfresh : s.svc.msgOutgoing.get? item.msgId = none) (hsvc : s'.svc = s.svc.enqueue ownId item)
    (hhistory : s'.history = s.history)
    (htasks' : s'.tasks.Perm ((signer.map fun signer => .recordSigner item.msgId signer).toList ++
      rest)) (hmails : input.mails friend = []) :
  Flowing sender friend time (inputs ++ [input]) s'
  := by
  have hflag : ∀ flag, (flagOutgoing ||| flagPending) &&& flag = 0 →
      (item.set (flagOutgoing ||| flagPending)).has flag = item.has flag :=
    fun flag hzero => item.has_set_of_and_eq_zero hzero
  apply h.advance htasks htasks'
  case hsent => rw [hhistory]
  case houtgoing =>
    intro msgId item' hget
    rw [hsvc, P3MsgService.enqueue] at hget
    rcases OrdMap.get?_insert_iff.mp hget with ⟨-, rfl⟩ | ⟨-, hget⟩
    · rw [hflag flagPartial (by decide)]
      exact h.whole (.enqueue item signer) (htasks.mem_iff.mpr List.mem_cons_self)
    · exact h.outgoing msgId item' hget
  case hwhole =>
    intro _ task htask
    cases signer with
    | none => cases htask
    | some signer =>
      rw [List.mem_singleton.mp htask]
      trivial
  case hold => simp [Task.begunTo]
  case hnew => cases signer <;> simp [Task.begunTo]
  case hmails => exact hmails
  case hperm =>
    have hnone : mailsOf friend []
        (signer.map fun signer => Task.recordSigner item.msgId signer).toList = [] := by
      cases signer <;> rfl
    have hinsert := outbox_insert_of_get?_eq_none friend
      (item.set (flagOutgoing ||| flagPending)) hfresh
    rw [RsMsgItem.isFor, hflag flagDistant (by decide)] at hinsert
    rw [hnone, List.append_nil, hsvc]
    exact hinsert.symm

theorem Flowing.collect {isPeerConnected : RsPeerId → Bool}
    (htasks : s.tasks.Perm (.collect :: rest))
    (hsvc : s'.svc = (s.svc.collect ownId isPeerConnected).1) (hhistory : s'.history = s.history)
    (htasks' : s'.tasks.Perm ((s.svc.collect ownId isPeerConnected).2 ++ rest))
    (hmails : input.mails friend = []) :
  Flowing sender friend time (inputs ++ [input]) s'
  := by
  have hnew : ∀ task ∈ (s.svc.collect ownId isPeerConnected).2,
      task.Whole ∧ ¬task.begunTo friend := by
    intro task htask
    obtain ⟨⟨msgId, item⟩, he, rfl⟩ := List.mem_map.mp htask
    have hget := OrdMap.mem_toList.mp he
    rw [OrdMap.get?_filter, Option.filter_eq_some_iff] at hget
    rw [P3MsgService.sendTask]
    split
    case isTrue => exact ⟨trivial, by simp [Task.begunTo]⟩
    case isFalse =>
      refine ⟨?_, by simp [Task.begunTo]⟩
      rw [Task.Whole, RsMsgItem.has_unset (by decide)]
      exact h.outgoing msgId item hget.1
  apply h.advance htasks htasks'
  case hsent => rw [hhistory]
  case houtgoing =>
    intro msgId item' hget
    rw [hsvc, P3MsgService.collect, OrdMap.get?_map, OrdMap.get?_filter] at hget
    obtain ⟨item, hitem, rfl⟩ := Option.map_eq_some_iff.mp hget
    rw [Option.filter_eq_some_iff] at hitem
    have hpartial := h.outgoing msgId item hitem.1
    split
    case isTrue => rw [RsMsgItem.has_set_of_and_eq_zero _ (by decide), hpartial]
    case isFalse => exact hpartial
  case hwhole => exact fun _ task htask => (hnew task htask).1
  case hold => simp [Task.begunTo]
  case hnew => exact fun task htask => (hnew task htask).2
  case hmails => exact hmails
  case hperm =>
    rw [hsvc]
    exact (List.append_nil _).symm ▸ outbox_collect s.svc ownId isPeerConnected

theorem Flowing.sendPart_of_ne (hpeer : item.peerId ≠ friend)
    (htasks : s.tasks.Perm (.sendPart item begun :: rest)) (hmails : input.mails friend = [])
    (hsvc : s'.svc = s.svc)
    (hhistory : s'.history = s.history ++ [.sendItem (P3MsgService.sendPart item).1])
    (htasks' : s'.tasks.Perm ((P3MsgService.sendPart item).2 ++ rest)) :
  Flowing sender friend time (inputs ++ [input]) s'
  := by
  have hpart : (P3MsgService.sendPart item).1.peerId ≠ friend := by
    rw [P3MsgService.sendPart]
    split <;> exact hpeer
  have hnew : ∀ task ∈ (P3MsgService.sendPart item).2,
      ((Task.sendPart item begun).Whole → task.Whole) ∧ ¬task.begunTo friend ∧
        task.mail? friend [] = none := by
    intro task htask
    rw [P3MsgService.sendPart] at htask
    split at htask
    case isTrue =>
      rw [List.mem_singleton.mp htask]
      exact ⟨id, by simp [Task.begunTo, hpeer], by simp [Task.mail?, hpeer]⟩
    case isFalse => cases htask
  apply h.advance_of_eq htasks htasks'
  case hsent => rw [hhistory, sentTo_append, if_neg hpart]
  case houtgoing => rw [hsvc]
  case hwhole => exact fun hwhole task htask => (hnew task htask).1 hwhole
  case hold => simp [Task.begunTo, hpeer]
  case hnew => exact fun task htask => (hnew task htask).2.1
  case hmails => exact hmails
  case htask =>
    have hnone : mailsOf friend [] (P3MsgService.sendPart item).2 = [] :=
      List.filterMap_eq_nil_iff.mpr fun task htask => (hnew task htask).2.2
    rw [hnone, Task.mail?, if_neg hpeer]
    rfl

end

/-- A task that sends nothing to friends and leaves `msgOutgoing` as it is. -/
def Task.Quiet : Task → Prop
  | .enqueue _ _ => False
  | .collect => False
  | .sendPart _ _ => False
  | _ => True

theorem perform_of_quiet (friend ownId : RsPeerId) (isPeerConnected : RsPeerId → Bool)
    (outcome : Outcome) (svc : P3MsgService) (htask : task.Quiet) :
  (svc.perform ownId isPeerConnected outcome task).1.msgOutgoing = svc.msgOutgoing ∧
    sentTo friend (svc.perform ownId isPeerConnected outcome task).2.2 = [] ∧
    mailsOf friend [] (svc.perform ownId isPeerConnected outcome task).2.1 =
      (task.mail? friend []).toList ∧
    ∀ task' ∈ (svc.perform ownId isPeerConnected outcome task).2.1,
      (task.Whole → task'.Whole) ∧ ¬task'.begunTo friend
  := by
  cases task with
  | enqueue item signer => exact htask.elim
  | collect => exact htask.elim
  | sendPart item begun => exact htask.elim
  | newMsgId item signer =>
    refine ⟨rfl, rfl, ?_, ?_⟩
    · exact mailsOf_singleton friend [] _
    · simp [P3MsgService.perform, Task.Whole, Task.begunTo, RsMsgItem.has]
  | recordSigner msgId signer => exact ⟨rfl, rfl, rfl, by simp [P3MsgService.perform]⟩
  | newOwnMsgId item =>
    exact ⟨rfl, rfl, rfl, by simp [P3MsgService.perform, Task.Whole, Task.begunTo]⟩
  | fileOwnMsg item => exact ⟨rfl, rfl, rfl, by simp [P3MsgService.perform]⟩
  | findSigner item =>
    refine ⟨rfl, rfl, ?_, ?_⟩
    · simp only [P3MsgService.perform]
      split <;> rfl
    · intro task' htask'
      simp only [P3MsgService.perform] at htask'
      split at htask'
      case isTrue => cases htask'
      case isFalse =>
        rw [List.mem_singleton.mp htask']
        simp [Task.Whole, Task.begunTo]
  | handOver item signer =>
    cases outcome with
    | notSerialised => exact ⟨rfl, rfl, rfl, by simp [P3MsgService.perform]⟩
    | refused id =>
      exact ⟨rfl, rfl, rfl, by simp [P3MsgService.perform, Task.Whole, Task.begunTo]⟩
    | accepted id =>
      exact ⟨rfl, rfl, rfl, by simp [P3MsgService.perform, Task.Whole, Task.begunTo]⟩
  | recordOngoing id msgId => exact ⟨rfl, rfl, rfl, by simp [P3MsgService.perform]⟩

theorem Task.Quiet.not_begunTo (h : task.Quiet) (friend : RsPeerId) :
  ¬task.begunTo friend
  := by
  cases task with
  | sendPart item begun => exact h.elim
  | _ => simp [Task.begunTo]

theorem sentTo_append_events (friend : RsPeerId) (history events : List Event) :
  sentTo friend (history ++ events) = sentTo friend history ++ sentTo friend events
  := List.filterMap_append

/-- Every undisturbed step of sending keeps the invariant. -/
theorem Flowing.next (h : Flowing sender friend time inputs s) (hsends : input.sends)
    (hinput : undisturbed friend s input) :
  Flowing sender friend time (inputs ++ [input]) (s.apply ownId input)
  := by
  cases input with
  | notifyDataStatus id data_status => cases hsends
  | saveList => cases hsends
  | restart time => cases hsends
  | messageSend info =>
    apply h.begin (P3MsgService.messageSend ownId info)
    case hhistory => rfl
    case htasks => exact s.tasks_append _
    case houtgoing => exact h.outgoing
    case hcall => exact whole_messageSend ownId info
    case hmails =>
      rw [mailsOf_messageSend]
      exact List.perm_append_comm
  | checkOutgoingMessages =>
    apply h.begin [.collect]
    case hhistory => rfl
    case htasks => exact s.tasks_append _
    case houtgoing => exact h.outgoing
    case hcall => simp [Task.Whole, Task.begunTo]
    case hmails => exact List.perm_append_comm
  | messageToTrash msgId bTrash => exact h.messageToTrash msgId bTrash
  | advance call isPeerConnected outcome =>
    cases htask : s.task? call with
    | none =>
      rw [System.apply_advance_of_task?_eq_none htask]
      apply h.begin []
      case hhistory => rfl
      case htasks => exact (List.append_nil _).symm
      case houtgoing => exact h.outgoing
      case hcall => simp
      case hmails => exact List.perm_append_comm
    | some task =>
      obtain ⟨s', happly, hsvc, hhistory, -, htasks, htasks'⟩ :=
        @System.apply_advance ownId s call isPeerConnected outcome task htask
      rw [happly]
      rw [undisturbed, htask] at hinput
      have hquiet : task.Quiet → Flowing sender friend time
          (inputs ++ [.advance call isPeerConnected outcome]) s' := by
        intro hquiet
        obtain ⟨houtgoing, hsent, hmails, hfollowing⟩ :=
          perform_of_quiet friend ownId isPeerConnected outcome s.svc hquiet
        apply h.advance_of_eq htasks htasks'
        case hsent => rw [hhistory, sentTo_append_events, hsent, List.append_nil]
        case houtgoing => rw [hsvc, houtgoing]
        case hwhole => exact fun hwhole task' htask' => (hfollowing task' htask').1 hwhole
        case hold => exact hquiet.not_begunTo friend
        case hnew => exact fun task' htask' => (hfollowing task' htask').2
        case hmails => rfl
        case htask => exact hmails
      cases task with
      | enqueue item signer =>
        apply h.enqueue htasks _ hsvc _ htasks' rfl
        · simpa using hinput
        · rw [hhistory]
          exact List.append_nil _
      | collect =>
        apply h.collect htasks hsvc _ htasks' rfl
        rw [hhistory]
        exact List.append_nil _
      | sendPart item begun =>
        by_cases hpeer : item.peerId = friend
        · apply h.sendPart hpeer htasks _ rfl hsvc hhistory htasks'
          simpa [hpeer] using hinput
        · exact h.sendPart_of_ne hpeer htasks rfl hsvc hhistory htasks'
      | _ => exact hquiet trivial

theorem flowing_start (sender friend : RsPeerId) (time time' : Nat) :
  Flowing sender friend time' [] (System.start time)
  := by
  constructor
  case outgoing => simp [System.start, P3MsgService.new]
  case whole => simp [System.start, System.tasks]
  case begun => simp [Begun, friendOf, System.start, System.tasks, sentTo, P3MsgService.new]
  case mails => exact List.Perm.refl _

theorem flowing_run (ownId sender friend : RsPeerId) (time time' : Nat)
    (hsends : ∀ input ∈ inputs, input.sends)
    (hinputs : (System.machine ownId).Along (fun s input => undisturbed friend s input)
      (System.start time) inputs) :
  Flowing sender friend time' inputs ((System.machine ownId).run (System.start time) inputs)
  := by
  induction inputs using List.reverseRecOn with
  | nil => exact flowing_start sender friend time time'
  | append_singleton inputs input ih =>
    rw [Machine.along_append, Machine.along_cons] at hinputs
    rw [Machine.run_append]
    apply Flowing.next _ _ hinputs.2.1
    · apply ih _ hinputs.1
      intro input' hinput'
      exact hsends input' (List.mem_append_left _ hinput')
    · exact hsends input (List.mem_append_right _ (List.mem_singleton_self input))

end Flowing

/-! ### Runs -/

/-- In a run of undisturbed sending, every mail to the friend waits or has arrived once as it was
sent, whenever no call is in progress. -/
theorem mailsArrive_run (ownId sender friend : RsPeerId) (time time' : Nat) {inputs : List Input}
    (hsends : ∀ input ∈ inputs, input.sends)
    (hinputs : (System.machine ownId).Along (fun s input => undisturbed friend s input)
      (System.start time) inputs)
    (hidle : ((System.machine ownId).run (System.start time) inputs).Idle) :
  MailsArrive sender friend time' inputs ((System.machine ownId).run (System.start time) inputs)
  := by
  apply Flowing.mailsArrive _ hidle
  exact flowing_run ownId sender friend time time' hsends hinputs

/-- A message to the friend 2. -/
def mailTo (text : List UInt8) : MessageInfo where
  rsgxsid_srcId := 0
  msgflags := 0
  rspeerid_msgto := [2]
  rspeerid_msgcc := []
  rspeerid_msgbcc := []
  rsgxsid_msgto := []
  rsgxsid_msgcc := []
  rsgxsid_msgbcc := []
  title := [77]
  msg := text

/-- The next steps of a call. -/
def advances (call steps : Nat) : List Input :=
  List.replicate steps (.advance call (fun _ => true) .notSerialised)

/-- A message in two parts. -/
def twoParts : List Input :=
  .messageSend (mailTo (List.replicate 15001 97)) :: advances 0 4 ++
    .checkOutgoingMessages :: advances 1 3

theorem mailsArrive_run_twoParts :
  MailsArrive 1 2 0 twoParts ((System.machine 1).run (System.start 5) twoParts)
  := by
  have hrun : (System.machine 1).Along (fun s input => undisturbed 2 s input) (System.start 5)
      twoParts ∧ ((System.machine 1).run (System.start 5) twoParts).Idle := by decide +kernel
  exact mailsArrive_run 1 1 2 5 0 (by decide) hrun.1 hrun.2

/-- A message in two parts, and another one that a second call sends between them. -/
def twoCalls : List Input :=
  .messageSend (mailTo (List.replicate 15001 97)) :: advances 0 4 ++
    .checkOutgoingMessages :: advances 1 2 ++
    .messageSend (mailTo [98]) :: advances 2 4 ++
    .checkOutgoingMessages :: advances 3 2 ++ advances 1 1

theorem not_mailsArrive_twoCalls :
  ¬∀ (ownId sender friend : RsPeerId) (time time' : Nat) (inputs : List Input),
    (∀ input ∈ inputs, input.sends) →
    ((System.machine ownId).run (System.start time) inputs).Idle →
      MailsArrive sender friend time' inputs
        ((System.machine ownId).run (System.start time) inputs)
  := by
  intro h
  -- the short message is in no text of its own
  have hrun : let s := (System.machine 1).run (System.start 5) twoCalls
      s.Idle ∧ (([77], [98]) : Mail) ∉
        ((receiver 1).trace (.new 0) (sentTo 2 s.history)).map RsMsgItem.mail ++
          outbox 2 s.svc := by decide +kernel
  have hmails := h 1 1 2 5 0 twoCalls (by decide) hrun.1
  exact hrun.2 (hmails.mem_iff.mp (by decide))

end Msg
