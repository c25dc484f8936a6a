import RetroShare.Chat.Messages

/-!
# Splitting of messages

A private message of more than 15000 bytes is sent in parts.  The friend puts a part together with
the next item of the sender, whatever it is, so that the texts arrive as they were sent exactly when
nothing comes between the parts of a message.
-/

namespace Chat

open p3ChatService

/-- A private message, as `sendChat` makes it.  `ownIsNew` says that there is a new avatar. -/
structure PrivateMessage where
  sendTime : Nat
  ownIsNew : Bool
  text : List UInt8

/-- The item of a private message. -/
def PrivateMessage.item (friend : RsPeerId) (m : PrivateMessage) : RsChatMsgItem where
  peerId := friend
  chatFlags := if m.ownIsNew then flagPrivate ||| flagAvatarAvailable else flagPrivate
  sendTime := m.sendTime
  message := m.text
  lobby := none

/-- What is sent to a friend: an item of a private message, or one of the others. -/
inductive Sent where
  | part (item : RsChatMsgItem)
  /-- `sendAvatarRequest`. -/
  | avatarRequest (sendTime : Nat)
  /-- `sendPublicChat`. -/
  | publicMessage (sendTime : Nat) (text : List UInt8)
  /-- An own message of a lobby, or one that is forwarded. -/
  | lobbyMessage (sendTime : Nat) (text : List UInt8) (lobby : LobbyPart)

namespace Sent

/-- The item that is sent. -/
def item (friend : RsPeerId) : Sent → RsChatMsgItem
  | part item => item
  | avatarRequest sendTime =>
      { peerId := friend, chatFlags := flagPrivate ||| flagRequestsAvatar, sendTime, message := [],
        lobby := none }
  | publicMessage sendTime text =>
      { peerId := friend, chatFlags := flagPublic, sendTime, message := text, lobby := none }
  | lobbyMessage sendTime text lobby =>
      { peerId := friend, chatFlags := flagLobby ||| flagPrivate, sendTime, message := text,
        lobby := some lobby }

/-- The item as the friend gets it. -/
def received (sender friend : RsPeerId) (e : Sent) : RsChatMsgItem :=
  { e.item friend with peerId := sender }

/-- The item of a private message. -/
def part? : Sent → Option RsChatMsgItem
  | part item => some item
  | _ => none

/-- A part that another one is to follow. -/
def continues : Sent → Bool
  | part item => item.chatFlags &&& flagPartialMessage ≠ 0
  | _ => false

/-- The text of a public message. -/
def publicText? : Sent → Option (List UInt8)
  | publicMessage _ text => some text
  | _ => none

end Sent

/-- What is sent to a friend, in order, with how it arrives. -/
abbrev Stream := List (Sent × Arrival)

/-- The items of private messages. -/
def parts (stream : Stream) : List RsChatMsgItem := stream.filterMap fun e => e.1.part?

/-- What the friend receives. -/
def arrivals (sender friend : RsPeerId) (stream : Stream) : List (RsChatMsgItem × Arrival) :=
  stream.map fun e => (e.1.received sender friend, e.2)

/-- The text of a message of a conversation. -/
def Output.text? (c : ChatId) : Output → Option (List UInt8)
  | .chatMessage cm => if cm.chat_id = c then some cm.msg else none
  | _ => none

/-- The texts that are handed on to a conversation. -/
def handedOn (c : ChatId) (outputs : List Output) : List (List UInt8) :=
  outputs.filterMap (Output.text? c)

section Texts

variable (tooMany : Nat → Nat → Bool) (sender friend : RsPeerId)

/-- What a message does in the lobbies, and its lobby and text if it is taken.  The lobbies get no
message that is too long. -/
def lobbyText (lobbies : DistributedChatService) (e : Sent × Arrival) :
    DistributedChatService × List (ChatLobbyId × List UInt8) :=
  match e.1 with
  | .lobbyMessage _ text lobby =>
      if maxMessageSecuritySize < text.length then (lobbies, [])
      else
        let ci := e.1.received sender friend
        let handled :=
          lobbies.handleRecvChatLobbyMsgItem tooMany (ci.bouncingObject lobby) (e.2.reception ci)
        (handled.1, if handled.2.1 then [(lobby.lobby_id, text)] else [])
  | _ => (lobbies, [])

/-- The texts that the lobbies of the friend take. -/
def lobbyTexts : DistributedChatService → Stream → List (ChatLobbyId × List UInt8)
  | _, [] => []
  | lobbies, e :: stream =>
      let r := lobbyText tooMany sender friend lobbies e
      r.2 ++ lobbyTexts r.1 stream

/-- The texts for a lobby. -/
def textsOf (lobby_id : ChatLobbyId) (texts : List (ChatLobbyId × List UInt8)) :
    List (List UInt8) :=
  texts.filterMap fun t => if t.1 = lobby_id then some t.2 else none

/-- The texts that are sent to a conversation.  `texts` are those of the private messages. -/
def textsFor (lobbies : DistributedChatService) (texts : List (List UInt8)) (stream : Stream) :
    ChatId → List (List UInt8)
  | .peer id => if id = sender then texts else []
  | .broadcast => stream.filterMap fun e => e.1.publicText?
  | .lobby lobby_id => textsOf lobby_id (lobbyTexts tooMany sender friend lobbies stream)

/-- Every conversation gets the texts that are sent to it. -/
def Transparent (svc : p3ChatService) (msgs : List PrivateMessage) (stream : Stream) : Prop :=
  ∀ c, handedOn c ((machine tooMany).trace svc (arrivals sender friend stream)) =
    textsFor tooMany sender friend svc.lobbies (msgs.map PrivateMessage.text) stream c

/-- The parts of a message follow each other. -/
def Contiguous (stream : Stream) : Prop :=
  stream.IsChain fun e e' => e.1.continues → e'.1.part?.isSome

end Texts

/-! ### Parts -/

/-- The flags of a part that another one is to follow. -/
def partFlags : UInt32 := flagPrivate ||| flagPartialMessage

/-- A part that another one is to follow. -/
structure OpenPart (ci : RsChatMsgItem) : Prop where
  lobby : ci.lobby = none
  flags : ci.chatFlags = partFlags
  message : ci.message ≠ []

/-- The end of a private message. -/
structure LastPart (ci : RsChatMsgItem) : Prop where
  lobby : ci.lobby = none
  flags : ci.chatFlags = flagPrivate ∨ ci.chatFlags = flagPrivate ||| flagAvatarAvailable

theorem OpenPart.incomplete {ci : RsChatMsgItem} (h : OpenPart ci) :
  ci.chatFlags &&& flagPartialMessage ≠ 0
  := by
  rw [h.flags]
  decide

theorem LastPart.complete {ci : RsChatMsgItem} (h : LastPart ci) :
  ci.chatFlags &&& flagPartialMessage = 0
  := by
  rcases h.flags with hflags | hflags
  all_goals
    rw [hflags]
    decide

theorem PrivateMessage.lastPart (friend : RsPeerId) (m : PrivateMessage) :
  LastPart (m.item friend)
  := by
  constructor
  · rfl
  · simp only [PrivateMessage.item]
    split
    · exact .inr rfl
    · exact .inl rfl

/-- The first part of a long message. -/
def firstPart (m : RsChatMsgItem) : RsChatMsgItem :=
  { m with message := m.message.take maxStringSize, chatFlags := partFlags }

/-- What is left of a long message behind its first part. -/
def restOf (m : RsChatMsgItem) : RsChatMsgItem :=
  { m with message := m.message.drop maxStringSize }

variable {m : RsChatMsgItem} (pre : Option (List UInt8)) (ci : RsChatMsgItem)

theorem LastPart.restOf (h : LastPart m) :
  LastPart (restOf m)
  := ⟨h.lobby, h.flags⟩

theorem LastPart.openPart (h : LastPart m) (hlong : maxStringSize < m.message.length) :
  OpenPart (firstPart m)
  := by
  constructor
  · exact h.lobby
  · rfl
  · apply List.ne_nil_of_length_pos
    rw [firstPart, List.length_take]
    have : 0 < maxStringSize := by decide
    omega

theorem checkSizeAndSendMessage_of_long (h : LastPart m)
    (hlong : maxStringSize < m.message.length) :
  checkSizeAndSendMessage m = firstPart m :: checkSizeAndSendMessage (restOf m)
  := by
  have hflags : m.chatFlags &&& (flagPrivate ||| flagPublic ||| flagLobby) ||| flagPartialMessage =
      partFlags := by
    rcases h.flags with hflags | hflags
    all_goals
      rw [hflags]
      decide
  rw [checkSizeAndSendMessage, if_pos hlong, hflags]
  rfl

theorem checkSizeAndSendMessage_of_short (hshort : ¬maxStringSize < m.message.length) :
  checkSizeAndSendMessage m = [m]
  := by
  rw [checkSizeAndSendMessage, if_neg hshort]

/-- The number of bytes of some items. -/
def bytes (items : List RsChatMsgItem) : Nat := (items.map fun ci => ci.message.length).sum

theorem bytes_append (items items' : List RsChatMsgItem) :
  bytes (items ++ items') = bytes items + bytes items'
  := by
  rw [bytes, List.map_append, List.sum_append]
  rfl

theorem checkSizeAndSendMessage_parts (n : Nat) (h : LastPart m) (hn : m.message.length ≤ n) :
  bytes (checkSizeAndSendMessage m) = m.message.length ∧
    ∀ ci ∈ checkSizeAndSendMessage m, OpenPart ci ∨ LastPart ci
  := by
  induction n using Nat.strong_induction_on generalizing m with
  | h n ih =>
    by_cases hlong : maxStringSize < m.message.length
    · have hlength : (restOf m).message.length = m.message.length - maxStringSize :=
        List.length_drop
      have hpos : 0 < maxStringSize := by decide
      obtain ⟨hbytes, hparts⟩ :=
        ih (m.message.length - maxStringSize) (by omega) h.restOf hlength.le
      rw [checkSizeAndSendMessage_of_long h hlong]
      constructor
      · have hfirst : (firstPart m).message.length = maxStringSize := by
          rw [firstPart, List.length_take]
          omega
        rw [bytes, List.map_cons, List.sum_cons, hfirst, ← bytes, hbytes, hlength]
        omega
      · intro ci hci
        rcases List.mem_cons.1 hci with rfl | hci
        · exact .inl (h.openPart hlong)
        · exact hparts ci hci
    · rw [checkSizeAndSendMessage_of_short hlong]
      constructor
      · rfl
      · intro ci hci
        obtain rfl := List.mem_singleton.1 hci
        exact .inr h

/-! ### Receiving an item -/

/-- What is kept of the message of a peer that is not complete. -/
def p3ChatService.Holds (svc : p3ChatService) (sender : RsPeerId) : Option (List UInt8) → Prop
  | none => svc.pendingPartialMessages.get? sender = none
  | some text => ∃ ci,
      svc.pendingPartialMessages.get? sender = some ci ∧ ci.message = text ∧
        ci.chatFlags = partFlags

/-- An item behind what is kept. -/
def glued (pre : Option (List UInt8)) (ci : RsChatMsgItem) : RsChatMsgItem :=
  match pre with
  | none => ci
  | some text => { ci with message := text ++ ci.message, chatFlags := ci.chatFlags ||| partFlags }

theorem glued_message :
  (glued pre ci).message = pre.getD [] ++ ci.message
  := by
  cases pre with
  | none => rfl
  | some text => rfl

theorem glued_peerId :
  (glued pre ci).peerId = ci.peerId
  := by
  cases pre with
  | none => rfl
  | some text => rfl

theorem glued_lobby :
  (glued pre ci).lobby = ci.lobby
  := by
  cases pre with
  | none => rfl
  | some text => rfl

section Receive

variable {tooMany : Nat → Nat → Bool} {svc : p3ChatService} {pre : Option (List UInt8)}
  {ci : RsChatMsgItem} {a : Arrival} {c : ChatId}

/-- The service without what it keeps of the message of a peer. -/
def p3ChatService.forget (svc : p3ChatService) (sender : RsPeerId) : p3ChatService :=
  { svc with pendingPartialMessages := svc.pendingPartialMessages.erase sender }

theorem holds_forget (svc : p3ChatService) (sender : RsPeerId) :
  (svc.forget sender).Holds sender none
  := OrdMap.get?_erase_self _

theorem lockedCheckAndRebuildPartialMessage_of_complete (hpre : svc.Holds ci.peerId pre)
    (hci : ci.chatFlags &&& flagPartialMessage = 0) :
  svc.lockedCheckAndRebuildPartialMessage ci = (svc.forget ci.peerId, some (glued pre ci))
  := by
  rw [lockedCheckAndRebuildPartialMessage]
  cases pre with
  | none =>
    rw [show svc.pendingPartialMessages.get? ci.peerId = none from hpre]
    simp only [hci, ne_eq, not_true_eq_false, decide_false, Bool.false_eq_true, if_false]
    rfl
  | some text =>
    obtain ⟨pending, hpending, rfl, hflags⟩ := hpre
    rw [hpending]
    simp only [hci, ne_eq, not_true_eq_false, decide_false, Bool.false_eq_true, if_false, hflags]
    rfl

theorem lockedCheckAndRebuildPartialMessage_of_openPart (hpre : svc.Holds ci.peerId pre)
    (hci : OpenPart ci) :
  svc.lockedCheckAndRebuildPartialMessage ci =
    ({ svc with
        pendingPartialMessages := svc.pendingPartialMessages.insert ci.peerId (glued pre ci) },
      none)
  := by
  rw [lockedCheckAndRebuildPartialMessage]
  cases pre with
  | none =>
    rw [show svc.pendingPartialMessages.get? ci.peerId = none from hpre]
    simp only [hci.incomplete, ne_eq, not_false_eq_true, decide_true, if_true]
    rfl
  | some text =>
    obtain ⟨pending, hpending, rfl, hflags⟩ := hpre
    rw [hpending]
    simp only [hci.incomplete, ne_eq, not_false_eq_true, decide_true, if_true, hflags]
    rfl

theorem OpenPart.glued_flags (hci : OpenPart ci) (pre : Option (List UInt8)) :
  (glued pre ci).chatFlags = partFlags
  := by
  cases pre with
  | none => exact hci.flags
  | some text =>
    simp only [glued, hci.flags]
    decide

theorem handleRecvChatMsgItem_of_openPart (hpre : svc.Holds ci.peerId pre) (hci : OpenPart ci) :
  (svc.handleRecvChatMsgItem tooMany ci a).2 = [] ∧
    (svc.handleRecvChatMsgItem tooMany ci a).1.Holds ci.peerId
      (some (pre.getD [] ++ ci.message)) ∧
    (svc.handleRecvChatMsgItem tooMany ci a).1.lobbies = svc.lobbies
  := by
  rw [handleRecvChatMsgItem, lockedCheckAndRebuildPartialMessage_of_openPart hpre hci]
  refine ⟨rfl, ?_, rfl⟩
  exact ⟨glued pre ci, OrdMap.get?_insert_self _ _, glued_message pre ci, hci.glued_flags pre⟩

/-- What is done with an item that no part is to follow. -/
def dispatch (tooMany : Nat → Nat → Bool) (svc : p3ChatService) (ci : RsChatMsgItem)
    (a : Arrival) : p3ChatService × List Output :=
  match checkForMessageSecurity ci with
  | none => (svc, [])
  | some ci =>
      match svc.handleRecvChatLobbyMsgItem tooMany ci a with
      | (svc, none, outputs) => (svc, outputs)
      | (svc, some ci, outputs) => (svc, outputs ++ handOn ci)

theorem handleRecvChatMsgItem_of_complete (hpre : svc.Holds ci.peerId pre)
    (hci : ci.chatFlags &&& flagPartialMessage = 0) :
  svc.handleRecvChatMsgItem tooMany ci a =
    dispatch tooMany (svc.forget ci.peerId) (glued pre ci) a
  := by
  rw [handleRecvChatMsgItem, lockedCheckAndRebuildPartialMessage_of_complete hpre hci]
  rfl

theorem handleRecvChatLobbyMsgItem_pendingPartialMessages (svc : p3ChatService) :
  (svc.handleRecvChatLobbyMsgItem tooMany ci a).1.pendingPartialMessages =
    svc.pendingPartialMessages
  := by
  rw [p3ChatService.handleRecvChatLobbyMsgItem]
  split
  · rfl
  · rfl

theorem dispatch_pendingPartialMessages (svc : p3ChatService) :
  (dispatch tooMany svc ci a).1.pendingPartialMessages = svc.pendingPartialMessages
  := by
  rw [dispatch]
  split
  · rfl
  · rename_i ci' _
    have hpending :=
      @handleRecvChatLobbyMsgItem_pendingPartialMessages tooMany ci' a svc
    split
    · rename_i heq
      rwa [heq] at hpending
    · rename_i heq
      rwa [heq] at hpending

/-- Nothing of it is kept. -/
theorem holds_dispatch (sender : RsPeerId) :
  (dispatch tooMany (svc.forget sender) ci a).1.Holds sender none
  := by
  rw [p3ChatService.Holds, dispatch_pendingPartialMessages]
  exact holds_forget svc sender

theorem lobby_eq_of_checkForMessageSecurity {ci' : RsChatMsgItem}
    (h : checkForMessageSecurity ci = some ci') :
  ci'.lobby = ci.lobby
  := by
  rw [checkForMessageSecurity] at h
  split_ifs at h
  cases hlobby : ci.lobby with
  | some lobby =>
    rw [hlobby] at h
    obtain rfl := Option.some.inj h
    rfl
  | none =>
    rw [hlobby] at h
    simp only at h
    split at h
    · cases h
    · obtain rfl := Option.some.inj h
      exact hlobby

theorem dispatch_of_lobby_eq_none (hlobby : ci.lobby = none) :
  dispatch tooMany svc ci a = (svc, (checkForMessageSecurity ci).toList.flatMap handOn)
  := by
  rw [dispatch]
  cases hsecure : checkForMessageSecurity ci with
  | none => rfl
  | some ci' =>
    have hlobby' : ci'.lobby = none := (lobby_eq_of_checkForMessageSecurity hsecure).trans hlobby
    simp only [p3ChatService.handleRecvChatLobbyMsgItem, hlobby', Option.toList_some,
      List.flatMap_singleton, List.nil_append]

/-- The flags of a private text. -/
structure PrivateFlags (flags : UInt32) : Prop where
  kind : flags &&& (flagPrivate ||| flagPublic ||| flagLobby) = flagPrivate
  isPrivate : flags &&& flagPrivate ≠ 0
  isPrivate' : flags &&& ~~~flagAvatarAvailable &&& flagPrivate ≠ 0
  notLobby : flags &&& flagLobby = 0
  noRequest : flags &&& flagRequestsAvatar = 0

theorem LastPart.privateFlags (hci : LastPart ci) (pre : Option (List UInt8)) :
  PrivateFlags (glued pre ci).chatFlags
  := by
  cases pre with
  | none =>
    rcases hci.flags with hflags | hflags
    all_goals
      rw [glued, hflags]
      constructor <;> decide
  | some text =>
    rcases hci.flags with hflags | hflags
    all_goals
      simp only [glued, hflags]
      constructor <;> decide

theorem checkForMessageSecurity_of_privateFlags (hlobby : ci.lobby = none)
    (hflags : PrivateFlags ci.chatFlags) :
  checkForMessageSecurity ci = if forbidden <:+: ci.message then none else some ci
  := by
  rw [checkForMessageSecurity, hlobby]
  simp only [hflags.notLobby, hflags.kind]
  simp

theorem handedOn_handOn_of_privateFlags (hlobby : ci.lobby = none)
    (hflags : PrivateFlags ci.chatFlags) :
  handedOn c (handOn ci) = if c = .peer ci.peerId then [ci.message] else []
  := by
  have hinit : ∀ flags : UInt32, flags &&& flagPrivate ≠ 0 →
      Output.text? c (.chatMessage (initChatMessage { ci with chatFlags := flags })) =
        if c = .peer ci.peerId then some ci.message else none := by
    intro flags hprivate
    simp only [initChatMessage, hlobby, if_pos hprivate, Output.text?, eq_comm]
  rw [handOn, if_neg (not_not.2 hflags.notLobby), if_neg (not_not.2 hflags.noRequest)]
  split
  · rw [handedOn, List.filterMap_cons_none rfl, List.filterMap_cons,
      hinit _ hflags.isPrivate']
    split_ifs
    · rfl
    · rfl
  · rw [handedOn, List.filterMap_cons, hinit _ hflags.isPrivate]
    split_ifs
    · rfl
    · rfl

/-- The end of a private message goes to the conversation with the peer, behind what was kept. -/
theorem handleRecvChatMsgItem_of_lastPart (hpre : svc.Holds ci.peerId pre) (hci : LastPart ci) :
  (svc.handleRecvChatMsgItem tooMany ci a).1 = svc.forget ci.peerId ∧
    handedOn c (svc.handleRecvChatMsgItem tooMany ci a).2 =
      if c = .peer ci.peerId ∧ ¬forbidden <:+: pre.getD [] ++ ci.message then
        [pre.getD [] ++ ci.message]
      else []
  := by
  have hlobby : (glued pre ci).lobby = none := (glued_lobby pre ci).trans hci.lobby
  rw [handleRecvChatMsgItem_of_complete hpre hci.complete, dispatch_of_lobby_eq_none hlobby,
    checkForMessageSecurity_of_privateFlags hlobby (hci.privateFlags pre), glued_message]
  refine ⟨rfl, ?_⟩
  by_cases hclean : forbidden <:+: pre.getD [] ++ ci.message
  · rw [if_pos hclean, if_neg fun h => h.2 hclean]
    rfl
  · rw [if_neg hclean, Option.toList_some, List.flatMap_singleton,
      handedOn_handOn_of_privateFlags hlobby (hci.privateFlags pre), glued_message, glued_peerId]
    simp only [hclean, not_false_eq_true, and_true]

end Receive

/-! ### Receiving what is no part -/

section Others

variable {tooMany : Nat → Nat → Bool} {svc : p3ChatService} {pre : Option (List UInt8)}
  {sender friend : RsPeerId} {e : Sent} {a : Arrival} {c : ChatId} {lobby_id : ChatLobbyId}
  {ci ci' : RsChatMsgItem} {lobby : LobbyPart} (sendTime : Nat) {text : List UInt8}

theorem received_complete (he : e.part? = none) :
  (e.received sender friend).chatFlags &&& flagPartialMessage = 0
  := by
  cases e with
  | part item => cases he
  | avatarRequest sendTime =>
    simp only [Sent.received, Sent.item]
    decide
  | publicMessage sendTime text =>
    simp only [Sent.received, Sent.item]
    decide
  | lobbyMessage sendTime text lobby =>
    simp only [Sent.received, Sent.item]
    decide

theorem handedOn_append (outputs outputs' : List Output) :
  handedOn c (outputs ++ outputs') = handedOn c outputs ++ handedOn c outputs'
  := List.filterMap_append

theorem handedOn_map_lobby (events : List Event) :
  handedOn c (events.map .lobby) = []
  := by
  apply List.filterMap_eq_nil_iff.2
  intro output houtput
  obtain ⟨event, -, rfl⟩ := List.mem_map.1 houtput
  rfl

theorem mem_handOn {output : Output} (h : output ∈ handOn ci) :
  (∀ c, output.text? c = none) ∨
    ∃ flags, output = .chatMessage (initChatMessage { ci with chatFlags := flags })
  := by
  rw [handOn] at h
  split_ifs at h
  · obtain rfl := List.mem_singleton.1 h
    exact .inr ⟨ci.chatFlags, rfl⟩
  · obtain rfl := List.mem_singleton.1 h
    exact .inl fun _ => rfl
  · rcases List.mem_cons.1 h with rfl | h
    · exact .inl fun _ => rfl
    · obtain rfl := List.mem_singleton.1 h
      exact .inr ⟨_, rfl⟩
  · obtain rfl := List.mem_singleton.1 h
    exact .inr ⟨ci.chatFlags, rfl⟩

theorem handOn_of_flagLobby (h : ci.chatFlags &&& flagLobby ≠ 0) :
  handOn ci = [.chatMessage (initChatMessage ci)]
  := if_pos h

theorem handedOn_handOn_of_lobby (hlobby : ci.lobby = some lobby) (hc : c ≠ .lobby lobby.lobby_id) :
  handedOn c (handOn ci) = []
  := by
  apply List.filterMap_eq_nil_iff.2
  intro output houtput
  rcases mem_handOn houtput with hnone | ⟨flags, rfl⟩
  · exact hnone c
  · simp only [Output.text?, initChatMessage, hlobby, if_neg hc.symm]

theorem dispatch_of_lobby (hsecure : checkForMessageSecurity ci = some ci')
    (hlobby : ci'.lobby = some lobby) :
  dispatch tooMany svc ci a =
    let handled :=
      svc.lobbies.handleRecvChatLobbyMsgItem tooMany (ci'.bouncingObject lobby) (a.reception ci')
    ({ svc with lobbies := handled.1 },
      handled.2.2.map .lobby ++
        if handled.2.1 then handOn { ci' with peerId := svc.virtualPeerId lobby.lobby_id } else [])
  := by
  rw [dispatch, hsecure]
  simp only [p3ChatService.handleRecvChatLobbyMsgItem, hlobby]
  cases (svc.lobbies.handleRecvChatLobbyMsgItem tooMany (ci'.bouncingObject lobby)
    (a.reception ci')).2.1 with
  | false => simp only [Bool.false_eq_true, if_false, List.append_nil]
  | true => rfl

theorem handedOn_dispatch_of_lobby (hlobby : ci.lobby = some lobby)
    (hc : c ≠ .lobby lobby.lobby_id) :
  handedOn c (dispatch tooMany svc ci a).2 = []
  := by
  cases hsecure : checkForMessageSecurity ci with
  | none =>
    rw [dispatch, hsecure]
    rfl
  | some ci' =>
    have hlobby' : ci'.lobby = some lobby :=
      (lobby_eq_of_checkForMessageSecurity hsecure).trans hlobby
    rw [dispatch_of_lobby hsecure hlobby', handedOn_append, handedOn_map_lobby, List.nil_append]
    split
    · exact handedOn_handOn_of_lobby hlobby' hc
    · rfl

theorem eq_of_checkForMessageSecurity (hlobby : ci.lobby = none)
    (h : checkForMessageSecurity ci = some ci') :
  ci' = ci
  := by
  rw [checkForMessageSecurity, hlobby] at h
  split_ifs at h
  simp only at h
  split at h
  · cases h
  · exact (Option.some.inj h).symm

theorem handedOn_dispatch_avatarRequest :
  handedOn c (dispatch tooMany svc
    (glued pre ((Sent.avatarRequest sendTime).received sender friend)) a).2 = []
  := by
  have hlobby : (glued pre ((Sent.avatarRequest sendTime).received sender friend)).lobby = none :=
    glued_lobby _ _
  have hflags :
      (glued pre ((Sent.avatarRequest sendTime).received sender friend)).chatFlags &&& flagLobby =
          0 ∧
        (glued pre ((Sent.avatarRequest sendTime).received sender friend)).chatFlags &&&
          flagRequestsAvatar ≠ 0 := by
    cases pre with
    | none =>
      simp only [glued, Sent.received, Sent.item]
      decide
    | some text =>
      simp only [glued, Sent.received, Sent.item]
      decide
  rw [dispatch_of_lobby_eq_none hlobby]
  cases hsecure : checkForMessageSecurity _ with
  | none => rfl
  | some ci =>
    obtain rfl := eq_of_checkForMessageSecurity hlobby hsecure
    rw [Option.toList_some, List.flatMap_singleton, handOn, if_neg (not_not.2 hflags.1),
      if_pos hflags.2]
    rfl

theorem dispatch_publicMessage_of_some (text text' : List UInt8) :
  dispatch tooMany svc
    (glued (some text') ((Sent.publicMessage sendTime text).received sender friend)) a = (svc, [])
  := by
  rw [dispatch_of_lobby_eq_none (glued_lobby _ _)]
  have hsecure : checkForMessageSecurity
      (glued (some text') ((Sent.publicMessage sendTime text).received sender friend)) = none := by
    rw [checkForMessageSecurity]
    split_ifs
    · rfl
    · rfl
    · simp only [glued, Sent.received, Sent.item]
      exact if_pos (by decide)
  rw [hsecure]
  rfl

theorem dispatch_publicMessage (hclean : ¬forbidden <:+: text) :
  (dispatch tooMany svc ((Sent.publicMessage sendTime text).received sender friend) a).1 = svc ∧
    handedOn c (dispatch tooMany svc
      ((Sent.publicMessage sendTime text).received sender friend) a).2 =
      if c = .broadcast then [text] else []
  := by
  have hsecure : checkForMessageSecurity ((Sent.publicMessage sendTime text).received sender friend)
      = some ((Sent.publicMessage sendTime text).received sender friend) := by
    have hclean' :
        ¬forbidden <:+: ((Sent.publicMessage sendTime text).received sender friend).message :=
      hclean
    rw [checkForMessageSecurity, if_neg, if_neg hclean']
    · simp only [Sent.received, Sent.item]
      exact if_neg (by decide)
    · simp only [Sent.received, Sent.item]
      rintro ⟨hflags, -⟩
      exact hflags (by decide)
  rw [dispatch_of_lobby_eq_none rfl, hsecure]
  refine ⟨rfl, ?_⟩
  have hhandOn : handOn ((Sent.publicMessage sendTime text).received sender friend) =
      [.chatMessage
        (initChatMessage ((Sent.publicMessage sendTime text).received sender friend))] := by
    have hlobby : flagPublic &&& flagLobby = 0 := by decide
    have hrequest : flagPublic &&& flagRequestsAvatar = 0 := by decide
    have havatar : flagPublic &&& flagAvatarAvailable = 0 := by decide
    simp only [handOn, Sent.received, Sent.item, hlobby, hrequest, havatar, ne_eq,
      not_true_eq_false, if_false]
  have hinit : (initChatMessage
      ((Sent.publicMessage sendTime text).received sender friend)).chat_id = .broadcast ∧
      (initChatMessage ((Sent.publicMessage sendTime text).received sender friend)).msg = text := by
    have hprivate : flagPublic &&& flagPrivate = 0 := by decide
    simp only [initChatMessage, Sent.received, Sent.item, hprivate, ne_eq, not_true_eq_false,
      if_false, and_self]
  rw [Option.toList_some, List.flatMap_singleton, hhandOn, handedOn, List.filterMap_cons]
  simp only [Output.text?, hinit.1, hinit.2, List.filterMap_nil]
  by_cases hc : c = .broadcast
  · rw [if_pos hc.symm, if_pos hc]
  · rw [if_neg (Ne.symm hc), if_neg hc]

/-- Behind what was kept, or not, it goes to no private conversation. -/
theorem handleRecvChatMsgItem_of_other (he : e.part? = none) (hpre : svc.Holds sender pre)
    (hclean : ¬forbidden <:+: (e.item friend).message) (id : RsPeerId) :
  (svc.handleRecvChatMsgItem tooMany (e.received sender friend) a).1.Holds sender none ∧
    handedOn (.peer id)
      (svc.handleRecvChatMsgItem tooMany (e.received sender friend) a).2 = []
  := by
  rw [@handleRecvChatMsgItem_of_complete tooMany svc pre (e.received sender friend) a hpre
    (received_complete he)]
  constructor
  · exact holds_dispatch sender
  · cases e with
    | part item => cases he
    | avatarRequest sendTime => exact handedOn_dispatch_avatarRequest sendTime
    | publicMessage sendTime text =>
      cases pre with
      | none => exact (dispatch_publicMessage sendTime hclean).2
      | some text' =>
        rw [dispatch_publicMessage_of_some]
        rfl
    | lobbyMessage sendTime text lobby =>
      exact handedOn_dispatch_of_lobby (glued_lobby _ _) (by rintro ⟨⟩)

/-- The text of an item that is no part, for a conversation. -/
def otherText (tooMany : Nat → Nat → Bool) (sender friend : RsPeerId)
    (lobbies : DistributedChatService) (e : Sent × Arrival) : ChatId → List (List UInt8)
  | .peer _ => []
  | .broadcast => e.1.publicText?.toList
  | .lobby lobby_id => textsOf lobby_id (lobbyText tooMany sender friend lobbies e).2

theorem dispatch_lobbyMessage (lobby : LobbyPart) (hclean : ¬forbidden <:+: text) :
  let e := Sent.lobbyMessage sendTime text lobby
  let taken := lobbyText tooMany sender friend svc.lobbies (e, a)
  (dispatch tooMany svc (e.received sender friend) a).1.lobbies = taken.1 ∧
    handedOn (.lobby lobby_id) (dispatch tooMany svc (e.received sender friend) a).2 =
      textsOf lobby_id taken.2
  := by
  intro e taken
  have hclean' : ¬forbidden <:+: (e.received sender friend).message := hclean
  by_cases hlong : maxMessageSecuritySize < text.length
  · have hsecure : checkForMessageSecurity (e.received sender friend) = none := by
      rw [checkForMessageSecurity, if_pos]
      exact ⟨by simp only [e, Sent.received, Sent.item]; decide, hlong⟩
    have htaken : taken = (svc.lobbies, []) := if_pos hlong
    rw [dispatch, hsecure, htaken]
    exact ⟨rfl, rfl⟩
  · have hsecure : checkForMessageSecurity (e.received sender friend) =
        some { e.received sender friend with
          chatFlags := (flagLobby ||| flagPrivate) &&& ~~~flagPublic } := by
      rw [checkForMessageSecurity, if_neg, if_neg hclean']
      · rfl
      · rintro ⟨-, hlength⟩
        exact hlong hlength
    let handled := svc.lobbies.handleRecvChatLobbyMsgItem tooMany
      ((e.received sender friend).bouncingObject lobby) (a.reception (e.received sender friend))
    have htaken : taken =
        (handled.1, if handled.2.1 then [(lobby.lobby_id, text)] else []) := if_neg hlong
    have hdispatch : dispatch tooMany svc (e.received sender friend) a =
        ({ svc with lobbies := handled.1 },
          handled.2.2.map .lobby ++
            if handled.2.1 then
              handOn { e.received sender friend with
                chatFlags := (flagLobby ||| flagPrivate) &&& ~~~flagPublic
                peerId := svc.virtualPeerId lobby.lobby_id }
            else []) := dispatch_of_lobby hsecure rfl
    rw [hdispatch, htaken]
    refine ⟨rfl, ?_⟩
    rw [handedOn_append, handedOn_map_lobby, List.nil_append]
    cases handled.2.1 with
    | false => rfl
    | true =>
      rw [if_pos rfl, if_pos rfl, handOn_of_flagLobby]
      · rw [handedOn, textsOf, List.filterMap_cons, List.filterMap_cons]
        simp only [Output.text?, initChatMessage, e, Sent.received, Sent.item, ChatId.lobby.injEq]
        rfl
      · simp only
        decide

/-- When nothing was kept, it goes where it belongs. -/
theorem handleRecvChatMsgItem_of_holds_none (he : e.part? = none) (hpre : svc.Holds sender none)
    (hclean : ¬forbidden <:+: (e.item friend).message) :
  (svc.handleRecvChatMsgItem tooMany (e.received sender friend) a).1.lobbies =
      (lobbyText tooMany sender friend svc.lobbies (e, a)).1 ∧
    handedOn c (svc.handleRecvChatMsgItem tooMany (e.received sender friend) a).2 =
      otherText tooMany sender friend svc.lobbies (e, a) c
  := by
  have hprivate := fun id =>
    (@handleRecvChatMsgItem_of_other tooMany svc none sender friend e a he hpre hclean id).2
  rw [@handleRecvChatMsgItem_of_complete tooMany svc none (e.received sender friend) a hpre
    (received_complete he)] at hprivate ⊢
  cases e with
  | part item => cases he
  | avatarRequest sendTime =>
    constructor
    · rw [dispatch_of_lobby_eq_none (glued_lobby _ _)]
      rfl
    · rw [handedOn_dispatch_avatarRequest]
      cases c with
      | peer id => rfl
      | lobby lobby_id => rfl
      | broadcast => rfl
  | publicMessage sendTime text =>
    obtain ⟨hsvc, htext⟩ :=
      @dispatch_publicMessage tooMany (svc.forget sender) sender friend a c sendTime text hclean
    constructor
    · exact (congrArg p3ChatService.lobbies hsvc :)
    · apply htext.trans
      cases c with
      | peer id => rfl
      | lobby lobby_id => rfl
      | broadcast => rfl
  | lobbyMessage sendTime text lobby =>
    have hlobby := fun lobby_id =>
      @dispatch_lobbyMessage tooMany (svc.forget sender) sender friend a lobby_id sendTime text
        lobby hclean
    constructor
    · exact (hlobby 0).1
    · cases c with
      | peer id => exact hprivate id
      | lobby lobby_id => exact (hlobby lobby_id).2
      | broadcast => exact handedOn_dispatch_of_lobby rfl (by rintro ⟨⟩)

end Others

/-! ### What is handed on when nothing comes between the parts -/

/-- What was kept comes before the first of the texts. -/
def gluedTexts (pre : Option (List UInt8)) : List (List UInt8) → List (List UInt8)
  | [] => []
  | text :: texts => (pre.getD [] ++ text) :: texts

theorem gluedTexts_none (texts : List (List UInt8)) :
  gluedTexts none texts = texts
  := by
  cases texts with
  | nil => rfl
  | cons text texts => rfl

section Run

variable {tooMany : Nat → Nat → Bool} {svc : p3ChatService} {pre : Option (List UInt8)}
  {sender friend : RsPeerId} {stream : Stream} {items : List RsChatMsgItem} {c : ChatId}
  (lobbies : DistributedChatService) {item : RsChatMsgItem} {a : Arrival}
  (texts : List (List UInt8))

theorem textsFor_part (item : RsChatMsgItem) (a : Arrival) :
  textsFor tooMany sender friend lobbies texts ((.part item, a) :: stream) c =
    textsFor tooMany sender friend lobbies texts stream c
  := by
  cases c with
  | peer id => rfl
  | lobby lobby_id => rfl
  | broadcast => rfl

theorem textsFor_text (text : List UInt8) (texts : List (List UInt8)) :
  textsFor tooMany sender friend lobbies (text :: texts) stream c =
    (if c = .peer sender then [text] else []) ++
      textsFor tooMany sender friend lobbies texts stream c
  := by
  cases c with
  | peer id =>
    simp only [textsFor, ChatId.peer.injEq]
    split_ifs
    · rfl
    · rfl
  | lobby lobby_id => rfl
  | broadcast => rfl

theorem textsFor_other (e : Sent × Arrival) :
  textsFor tooMany sender friend lobbies texts (e :: stream) c =
    otherText tooMany sender friend lobbies e c ++
      textsFor tooMany sender friend (lobbyText tooMany sender friend lobbies e).1 texts stream c
  := by
  cases c with
  | peer id => rfl
  | lobby lobby_id => exact List.filterMap_append
  | broadcast =>
    rw [textsFor, List.filterMap_cons, otherText, textsFor]
    cases e.1.publicText? with
    | none => rfl
    | some text => rfl

theorem receive_openPart (hpre : svc.Holds sender pre) (h : OpenPart item) :
  (svc.handleRecvChatMsgItem tooMany ((Sent.part item).received sender friend) a).2 = [] ∧
    (svc.handleRecvChatMsgItem tooMany ((Sent.part item).received sender friend) a).1.Holds sender
      (some (pre.getD [] ++ item.message)) ∧
    (svc.handleRecvChatMsgItem tooMany ((Sent.part item).received sender friend) a).1.lobbies =
      svc.lobbies
  := by
  have hreceived : OpenPart ((Sent.part item).received sender friend) :=
    ⟨h.lobby, h.flags, h.message⟩
  exact handleRecvChatMsgItem_of_openPart hpre hreceived

theorem receive_lastPart (hpre : svc.Holds sender pre) (h : LastPart item) :
  (svc.handleRecvChatMsgItem tooMany ((Sent.part item).received sender friend) a).1 =
      svc.forget sender ∧
    handedOn c
      (svc.handleRecvChatMsgItem tooMany ((Sent.part item).received sender friend) a).2 =
      if c = .peer sender ∧ ¬forbidden <:+: pre.getD [] ++ item.message then
        [pre.getD [] ++ item.message]
      else []
  := by
  have hreceived : LastPart ((Sent.part item).received sender friend) := ⟨h.lobby, h.flags⟩
  exact handleRecvChatMsgItem_of_lastPart hpre hreceived

theorem eq_part_of_part? {s : Sent} (hs : s.part? = some item) :
  s = .part item
  := by
  cases s with
  | part item' =>
    cases hs
    rfl
  | _ => cases hs

theorem parts_cons_of_none {s : Sent} (hs : s.part? = none) :
  parts ((s, a) :: stream) = parts stream
  := by
  simp only [parts, List.filterMap_cons, hs]

theorem checkSizeAndSendMessage_ne_nil (m : RsChatMsgItem) :
  checkSizeAndSendMessage m ≠ []
  := by
  rw [checkSizeAndSendMessage]
  split
  · rintro ⟨⟩
  · rintro ⟨⟩

/-- The first item that is left is a part, if something is kept. -/
def HeadOk (pre : Option (List UInt8)) (stream : Stream) : Prop :=
  pre.isSome → ∀ e ∈ stream.head?, e.1.part?.isSome

theorem headOk_some {text : List UInt8} {e : Sent × Arrival} (he : e.1.continues)
    (hchain : Contiguous (e :: stream)) :
  HeadOk (some text) stream
  := by
  intro _ e' he'
  exact (List.isChain_cons.1 hchain).1 e' he' he

theorem continues_of_openPart (h : OpenPart item) :
  (Sent.part item).continues
  := decide_eq_true h.incomplete

theorem handedOn_trace_of_contiguous (hpre : svc.Holds sender pre)
    (hparts : parts stream = items.flatMap checkSizeAndSendMessage)
    (hitems : ∀ m ∈ items, LastPart m)
    (hclean : ∀ text ∈ gluedTexts pre (items.map RsChatMsgItem.message), ¬forbidden <:+: text)
    (hothers : ∀ e ∈ stream, e.1.part? = none → ¬forbidden <:+: (e.1.item friend).message)
    (hhead : HeadOk pre stream) (hchain : Contiguous stream) :
  handedOn c ((machine tooMany).trace svc (arrivals sender friend stream)) =
    textsFor tooMany sender friend svc.lobbies
      (gluedTexts pre (items.map RsChatMsgItem.message)) stream c
  := by
  induction stream generalizing svc pre items with
  | nil =>
    have hnil : items = [] := by
      cases items with
      | nil => rfl
      | cons m ms =>
        have hflat := List.flatMap_eq_nil_iff.1 hparts.symm m List.mem_cons_self
        exact absurd hflat (checkSizeAndSendMessage_ne_nil m)
    subst hnil
    cases c with
    | peer id => exact (ite_self _).symm
    | lobby lobby_id => rfl
    | broadcast => rfl
  | cons e stream ih =>
    obtain ⟨s, a⟩ := e
    have hchain' : Contiguous stream := (List.isChain_cons.1 hchain).2
    have hothers' := fun e he => hothers e (List.mem_cons_of_mem _ he)
    have htrace : (machine tooMany).trace svc (arrivals sender friend ((s, a) :: stream)) =
        (svc.handleRecvChatMsgItem tooMany (s.received sender friend) a).2 ++
          (machine tooMany).trace
            (svc.handleRecvChatMsgItem tooMany (s.received sender friend) a).1
            (arrivals sender friend stream) := rfl
    rw [htrace, handedOn_append]
    cases hs : s.part? with
    | some item =>
      obtain rfl := eq_part_of_part? hs
      cases items with
      | nil => cases hparts
      | cons m ms =>
        have hm := hitems m List.mem_cons_self
        have hms := fun m' hm' => hitems m' (List.mem_cons_of_mem m hm')
        have hparts_cons : item :: parts stream =
            checkSizeAndSendMessage m ++ ms.flatMap checkSizeAndSendMessage := hparts
        rw [textsFor_part]
        by_cases hlong : maxStringSize < m.message.length
        · -- a part that another one follows
          rw [checkSizeAndSendMessage_of_long hm hlong] at hparts_cons
          obtain ⟨rfl, hparts'⟩ := List.cons.inj hparts_cons
          rw [List.append_eq, ← List.flatMap_cons] at hparts'
          have hopen := hm.openPart hlong
          obtain ⟨houtputs, hholds, hlobbies⟩ :=
            @receive_openPart tooMany svc pre sender friend _ a hpre hopen
          have htexts : gluedTexts (some (pre.getD [] ++ (firstPart m).message))
              ((restOf m :: ms).map RsChatMsgItem.message) =
              gluedTexts pre ((m :: ms).map RsChatMsgItem.message) := by
            simp only [List.map_cons, gluedTexts, Option.getD_some, firstPart, restOf,
              List.append_assoc, List.take_append_drop]
          have hrest : ∀ m' ∈ restOf m :: ms, LastPart m' := by
            rintro m' (_ | ⟨_, hm'⟩)
            · exact hm.restOf
            · exact hms m' hm'
          rw [houtputs,
            ih hholds hparts' hrest (by rwa [← htexts] at hclean) hothers'
              (headOk_some (continues_of_openPart hopen) hchain) hchain',
            hlobbies]
          exact congrArg (textsFor tooMany sender friend svc.lobbies · stream c) htexts
        · -- the last part, or a message that is sent whole
          rw [checkSizeAndSendMessage_of_short hlong] at hparts_cons
          obtain ⟨rfl, hparts'⟩ := List.cons.inj hparts_cons
          obtain ⟨hsvc, houtputs⟩ :=
            @receive_lastPart tooMany svc pre sender friend c _ a hpre hm
          have hclean_m := hclean (pre.getD [] ++ item.message) List.mem_cons_self
          have hclean_ms : ∀ text ∈ gluedTexts none (ms.map RsChatMsgItem.message),
              ¬forbidden <:+: text := by
            intro text htext
            rw [gluedTexts_none] at htext
            exact hclean text (List.mem_cons_of_mem _ htext)
          rw [houtputs, hsvc, List.map_cons, gluedTexts, textsFor_text,
            ih (holds_forget svc sender) hparts' hms hclean_ms hothers'
              (fun h => by cases h) hchain',
            gluedTexts_none]
          congr 1
          by_cases hc : c = .peer sender
          · rw [if_pos hc, if_pos ⟨hc, hclean_m⟩]
          · rw [if_neg hc, if_neg fun h => hc h.1]
    | none =>
      have hnone : pre = none := by
        cases pre with
        | none => rfl
        | some text =>
          have hpart := hhead rfl (s, a) rfl
          rw [hs] at hpart
          cases hpart
      subst hnone
      have hclean_s := hothers (s, a) List.mem_cons_self hs
      obtain ⟨hlobbies, htext⟩ :=
        @handleRecvChatMsgItem_of_holds_none tooMany svc sender friend s a c hs hpre hclean_s
      obtain ⟨hholds, -⟩ :=
        @handleRecvChatMsgItem_of_other tooMany svc none sender friend s a hs hpre hclean_s 0
      have hparts' : parts stream = items.flatMap checkSizeAndSendMessage := by
        rw [← hparts, parts_cons_of_none hs]
      rw [htext, ih hholds hparts' hitems hclean hothers' (fun h => by cases h) hchain',
        hlobbies, ← textsFor_other]

end Run

/-! ### What is lost when something comes between -/

section Loss

variable {tooMany : Nat → Nat → Bool} {svc : p3ChatService} {pre : Option (List UInt8)}
  {sender friend : RsPeerId} {stream : Stream} {msgs : List PrivateMessage} (e : Sent × Arrival)

/-- The number of bytes of a part. -/
def partBytes (e : Sent) : Nat := (e.part?.toList.map fun item => item.message.length).sum

theorem bytes_parts_cons :
  bytes (parts (e :: stream)) = partBytes e.1 + bytes (parts stream)
  := by
  rw [parts, List.filterMap_cons, partBytes]
  cases e.1.part? with
  | none => exact (Nat.zero_add _).symm
  | some item => rfl

/-- No more bytes are handed on to the private conversation, or kept, than there were.  What was
kept is lost with an item that is no part. -/
theorem length_step_le {e : Sent} {a : Arrival} (hpre : svc.Holds sender pre)
    (he : ∀ item, e.part? = some item → OpenPart item ∨ LastPart item)
    (hclean : e.part? = none → ¬forbidden <:+: (e.item friend).message) :
  ∃ pre',
    (svc.handleRecvChatMsgItem tooMany (e.received sender friend) a).1.Holds sender pre' ∧
      (handedOn (.peer sender)
          (svc.handleRecvChatMsgItem tooMany (e.received sender friend) a).2).flatten.length +
          (pre'.getD []).length ≤
        (if e.part? = none then 0 else (pre.getD []).length) + partBytes e ∧
      (pre'.isSome → pre'.getD [] ≠ []) ∧ (e.continues → pre'.isSome)
  := by
  cases hpart : e.part? with
  | none =>
    obtain ⟨hholds, houtputs⟩ :=
      @handleRecvChatMsgItem_of_other tooMany svc pre sender friend e a hpart hpre
        (hclean hpart) sender
    refine ⟨none, hholds, ?_, by rintro ⟨⟩, ?_⟩
    · rw [houtputs]
      exact Nat.zero_le _
    · intro hcontinues
      cases e with
      | part item => cases hpart
      | _ => cases hcontinues
  | some item =>
    obtain rfl := eq_part_of_part? hpart
    have hbytes : partBytes (.part item) = item.message.length := rfl
    rw [if_neg (by rintro ⟨⟩), hbytes]
    rcases he item rfl with hopen | hlast
    · obtain ⟨houtputs, hholds, -⟩ :=
        @receive_openPart tooMany svc pre sender friend item a hpre hopen
      refine ⟨_, hholds, ?_, ?_, fun _ => rfl⟩
      · rw [houtputs, Option.getD_some, List.length_append]
        exact (Nat.zero_add _).le
      · intro _
        exact List.append_ne_nil_of_right_ne_nil _ hopen.message
    · obtain ⟨hsvc, houtputs⟩ :=
        @receive_lastPart tooMany svc pre sender friend (.peer sender) item a hpre hlast
      refine ⟨none, ?_, ?_, by rintro ⟨⟩, ?_⟩
      · rw [hsvc]
        exact holds_forget svc sender
      · rw [houtputs, ← List.length_append]
        split_ifs
        · rw [List.flatten_singleton, Option.getD_none, List.append_nil, List.length_append]
        · exact Nat.zero_le _
      · intro hcontinues
        exact absurd hlast.complete (of_decide_eq_true hcontinues)

theorem trace_arrivals_cons :
  (machine tooMany).trace svc (arrivals sender friend (e :: stream)) =
    (svc.handleRecvChatMsgItem tooMany (e.1.received sender friend) e.2).2 ++
      (machine tooMany).trace
        (svc.handleRecvChatMsgItem tooMany (e.1.received sender friend) e.2).1
        (arrivals sender friend stream)
  := rfl

theorem length_trace_le (hpre : svc.Holds sender pre)
    (hitems : ∀ e ∈ stream, ∀ item, e.1.part? = some item → OpenPart item ∨ LastPart item)
    (hothers : ∀ e ∈ stream, e.1.part? = none → ¬forbidden <:+: (e.1.item friend).message) :
  (handedOn (.peer sender)
      ((machine tooMany).trace svc (arrivals sender friend stream))).flatten.length ≤
    (pre.getD []).length + bytes (parts stream)
  := by
  induction stream generalizing svc pre with
  | nil => exact Nat.zero_le _
  | cons e stream ih =>
    obtain ⟨pre', hholds, hle, -, -⟩ :=
      @length_step_le tooMany svc pre sender friend e.1 e.2 hpre
        (hitems e List.mem_cons_self) (hothers e List.mem_cons_self)
    have hrest := ih hholds (fun e' he' => hitems e' (List.mem_cons_of_mem e he'))
      (fun e' he' => hothers e' (List.mem_cons_of_mem e he'))
    rw [trace_arrivals_cons, handedOn_append, List.flatten_append, List.length_append,
      bytes_parts_cons]
    split_ifs at hle
    · omega
    · omega

theorem length_trace_lt (hpre : svc.Holds sender pre) (hne : pre.isSome → pre.getD [] ≠ [])
    (hitems : ∀ e ∈ stream, ∀ item, e.1.part? = some item → OpenPart item ∨ LastPart item)
    (hothers : ∀ e ∈ stream, e.1.part? = none → ¬forbidden <:+: (e.1.item friend).message)
    (hbad : ¬(HeadOk pre stream ∧ Contiguous stream)) :
  (handedOn (.peer sender)
      ((machine tooMany).trace svc (arrivals sender friend stream))).flatten.length <
    (pre.getD []).length + bytes (parts stream)
  := by
  induction stream generalizing svc pre with
  | nil =>
    have hhead : HeadOk pre [] := by
      rintro - e ⟨⟩
    exact absurd ⟨hhead, List.IsChain.nil⟩ hbad
  | cons e stream ih =>
    obtain ⟨pre', hholds, hle, hne', hcontinues⟩ :=
      @length_step_le tooMany svc pre sender friend e.1 e.2 hpre
        (hitems e List.mem_cons_self) (hothers e List.mem_cons_self)
    have hitems' := fun e' he' => hitems e' (List.mem_cons_of_mem e he')
    have hothers' := fun e' he' => hothers e' (List.mem_cons_of_mem e he')
    rw [trace_arrivals_cons, handedOn_append, List.flatten_append, List.length_append,
      bytes_parts_cons]
    by_cases hok : HeadOk pre' stream ∧ Contiguous stream
    · -- what was kept is lost here
      have hchain : Contiguous (e :: stream) := by
        apply List.isChain_cons.2
        exact ⟨fun e' he' h => hok.1 (hcontinues h) e' he', hok.2⟩
      have hlost : pre.isSome ∧ e.1.part? = none := by
        by_contra h
        apply hbad
        refine ⟨?_, hchain⟩
        intro hsome e' he'
        obtain rfl := Option.some.inj he'
        rw [Option.isSome_iff_ne_none]
        exact fun hpart => h ⟨hsome, hpart⟩
      have hrest := @length_trace_le tooMany _ pre' sender friend stream hholds hitems' hothers'
      have hpos := List.length_pos_iff.2 (hne hlost.1)
      rw [if_pos hlost.2] at hle
      omega
    · have hrest := ih hholds hne' hitems' hothers' hok
      split_ifs at hle
      · omega
      · omega

theorem bytes_flatMap_checkSizeAndSendMessage (msgs : List PrivateMessage) :
  bytes (msgs.flatMap fun m => checkSizeAndSendMessage (m.item friend)) =
    (msgs.map PrivateMessage.text).flatten.length
  := by
  induction msgs with
  | nil => rfl
  | cons m msgs ih =>
    rw [List.flatMap_cons, bytes_append, ih,
      (checkSizeAndSendMessage_parts _ (m.lastPart friend) le_rfl).1, List.map_cons,
      List.flatten_cons, List.length_append]
    rfl

/-- What is handed on as it was sent was sent with nothing between the parts. -/
theorem Transparent.contiguous (hpre : svc.pendingPartialMessages.get? sender = none)
    (hparts : parts stream = msgs.flatMap fun m => checkSizeAndSendMessage (m.item friend))
    (hothers : ∀ e ∈ stream, e.1.part? = none → ¬forbidden <:+: (e.1.item friend).message)
    (h : Transparent tooMany sender friend svc msgs stream) :
  Contiguous stream
  := by
  by_contra hbad
  have hitems : ∀ e ∈ stream, ∀ item, e.1.part? = some item →
      OpenPart item ∨ LastPart item := by
    intro e he item hitem
    have hmem : item ∈ parts stream := List.mem_filterMap.2 ⟨e, he, hitem⟩
    rw [hparts] at hmem
    obtain ⟨m, -, hmem⟩ := List.mem_flatMap.1 hmem
    exact (checkSizeAndSendMessage_parts _ (m.lastPart friend) le_rfl).2 item hmem
  have hlt := @length_trace_lt tooMany svc none sender friend stream hpre (by rintro ⟨⟩) hitems
    hothers (fun hok => hbad hok.2)
  have hpeer := h (.peer sender)
  rw [textsFor, if_pos rfl] at hpeer
  rw [hpeer, hparts, bytes_flatMap_checkSizeAndSendMessage] at hlt
  exact absurd hlt (by simp only [Option.getD_none, List.length_nil, Nat.zero_add, lt_irrefl,
    not_false_eq_true])

end Loss

/-! ### Transparency -/

section Transparency

variable {tooMany : Nat → Nat → Bool} {svc : p3ChatService} {sender friend : RsPeerId}
  {msgs : List PrivateMessage} {stream : Stream}

/-- The messages that are sent to a friend are handed on as they were sent, each to its
conversation, exactly when no other item is sent between the parts of a private message. -/
theorem transparent_iff_contiguous (tooMany : Nat → Nat → Bool)
    (hpre : svc.pendingPartialMessages.get? sender = none)
    (hparts : parts stream = msgs.flatMap fun m => checkSizeAndSendMessage (m.item friend))
    (hclean : ∀ m ∈ msgs, ¬forbidden <:+: m.text)
    (hothers : ∀ e ∈ stream, e.1.part? = none → ¬forbidden <:+: (e.1.item friend).message) :
  Transparent tooMany sender friend svc msgs stream ↔ Contiguous stream
  := by
  constructor
  · intro h
    exact h.contiguous hpre hparts hothers
  · intro h c
    have hmessages : (msgs.map (PrivateMessage.item friend)).map RsChatMsgItem.message =
        msgs.map PrivateMessage.text := by
      rw [List.map_map]
      rfl
    have hitems : ∀ m ∈ msgs.map (PrivateMessage.item friend), LastPart m := by
      intro m hm
      obtain ⟨m, -, rfl⟩ := List.mem_map.1 hm
      exact m.lastPart friend
    have hrun := @handedOn_trace_of_contiguous tooMany svc none sender friend stream
      (msgs.map (PrivateMessage.item friend)) c hpre (by rw [hparts, List.flatMap_map]) hitems
    rw [hmessages, gluedTexts_none] at hrun
    apply hrun _ hothers (by rintro ⟨⟩) h
    intro text htext
    obtain ⟨m, hm, rfl⟩ := List.mem_map.1 htext
    exact hclean m hm

/-- A service that has received nothing. -/
def idleService : p3ChatService where
  pendingPartialMessages := .empty
  lobbies :=
    { ownId := 2, now := 0, chatLobbys := .empty, visibleLobbies := .empty,
      messageCounts := fun _ _ => [] }
  virtualPeerId := id

/-- A message of one byte more than a part has. -/
def longMessage : PrivateMessage where
  sendTime := 0
  ownIsNew := false
  text := List.replicate (maxStringSize + 1) 0x61

/-- Nothing special about how an item arrives. -/
def plainArrival : Arrival where
  signs _ := true
  connected _ := true
  elapsed := 0
  elapsedToBounce := 0
  elapsedToUse := 0

theorem checkSizeAndSendMessage_longMessage :
  checkSizeAndSendMessage (longMessage.item 2) =
    [firstPart (longMessage.item 2), restOf (longMessage.item 2)]
  := by
  have hlength : (longMessage.item 2).message.length = maxStringSize + 1 :=
    List.length_replicate
  rw [checkSizeAndSendMessage_of_long (longMessage.lastPart 2) (by omega),
    checkSizeAndSendMessage_of_short]
  have hrest : (restOf (longMessage.item 2)).message.length = 1 := by
    rw [restOf, List.length_drop, hlength]
    decide
  rw [hrest]
  decide

theorem longMessage_clean :
  ¬forbidden <:+: longMessage.text
  := by
  intro h
  have hmem : 0x3C ∈ longMessage.text := h.subset List.mem_cons_self
  exact absurd (List.eq_of_mem_replicate hmem) (by decide)

/-- A long message, and an avatar request behind it. -/
theorem transparent_iff_contiguous_longMessage :
  Transparent (fun _ _ => false) 1 2 idleService [longMessage]
    [(.part (firstPart (longMessage.item 2)), plainArrival),
      (.part (restOf (longMessage.item 2)), plainArrival), (.avatarRequest 0, plainArrival)]
  := by
  apply (transparent_iff_contiguous _ rfl _ _ _).2
  · apply List.isChain_cons_cons.2
    refine ⟨fun _ => rfl, ?_⟩
    apply List.isChain_cons_cons.2
    refine ⟨fun h => ?_, List.isChain_singleton _⟩
    cases h
  · rw [List.flatMap_singleton, checkSizeAndSendMessage_longMessage]
    rfl
  · intro m hm
    obtain rfl := List.mem_singleton.1 hm
    exact longMessage_clean
  · decide

/-- A long message, with an avatar request between its parts. -/
theorem not_transparent_avatarRequest :
  ¬∀ (tooMany : Nat → Nat → Bool) (sender friend : RsPeerId) (svc : p3ChatService)
      (msgs : List PrivateMessage) (stream : Stream),
    svc.pendingPartialMessages.get? sender = none →
    (parts stream = msgs.flatMap fun m => checkSizeAndSendMessage (m.item friend)) →
    (∀ m ∈ msgs, ¬forbidden <:+: m.text) →
    (∀ e ∈ stream, e.1.part? = none → ¬forbidden <:+: (e.1.item friend).message) →
    Transparent tooMany sender friend svc msgs stream
  := by
  intro h
  let stream : Stream :=
    [(.part (firstPart (longMessage.item 2)), plainArrival), (.avatarRequest 0, plainArrival),
      (.part (restOf (longMessage.item 2)), plainArrival)]
  have hparts : parts stream =
      [longMessage].flatMap fun m => checkSizeAndSendMessage (m.item 2) := by
    rw [List.flatMap_singleton, checkSizeAndSendMessage_longMessage]
    rfl
  have hclean : ∀ m ∈ [longMessage], ¬forbidden <:+: m.text := by
    intro m hm
    obtain rfl := List.mem_singleton.1 hm
    exact longMessage_clean
  have hothers : ∀ e ∈ stream, e.1.part? = none → ¬forbidden <:+: (e.1.item 2).message := by
    decide
  have htransparent := h (fun _ _ => false) 1 2 idleService [longMessage] stream rfl hparts hclean
    hothers
  have hchain := htransparent.contiguous rfl hparts hothers
  have hpart := (List.isChain_cons_cons.1 hchain).1 rfl
  cases hpart

end Transparency

end Chat
