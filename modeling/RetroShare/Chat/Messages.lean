import RetroShare.Chat.Lobby

/-!
# Chat messages

`p3ChatService` of `p3chatservice.cc`, as far as messages go: how a long one is split into parts,
how the parts are put together again, and how a received message is handed on.  Items of friends
are modelled; items out of a tunnel are not.
-/

namespace Chat

/-- `RS_CHAT_FLAG_PRIVATE`. -/
def flagPrivate : UInt32 := 0x0001

/-- `RS_CHAT_FLAG_REQUESTS_AVATAR`. -/
def flagRequestsAvatar : UInt32 := 0x0002

/-- `RS_CHAT_FLAG_AVATAR_AVAILABLE`. -/
def flagAvatarAvailable : UInt32 := 0x0008

/-- `RS_CHAT_FLAG_PUBLIC`. -/
def flagPublic : UInt32 := 0x0020

/-- `RS_CHAT_FLAG_PARTIAL_MESSAGE`. -/
def flagPartialMessage : UInt32 := 0x0100

/-- `RS_CHAT_FLAG_LOBBY`. -/
def flagLobby : UInt32 := 0x0200

/-- `RS_CHAT_PUBLIC`, of a `ChatMessage`. -/
def chatPublic : UInt32 := 0x0001

/-- `RS_CHAT_PRIVATE`, of a `ChatMessage`. -/
def chatPrivate : UInt32 := 0x0002

/-- `MAX_STRING_SIZE` of `checkSizeAndSendMessage`. -/
def maxStringSize : Nat := 15000

/-- `MAX_MESSAGE_SECURITY_SIZE`. -/
def maxMessageSecuritySize : Nat := 6000

/-- The string `<!`. -/
def forbidden : List UInt8 := [0x3C, 0x21]

/-- What a `RsChatLobbyMsgItem` has besides a `RsChatMsgItem`.  `serialSize` is the size of the item
without its text. -/
structure LobbyPart where
  lobby_id : ChatLobbyId
  msg_id : ChatLobbyMsgId
  keyId : RsGxsId
  serialSize : Nat

/-- `RsChatMsgItem`, or a `RsChatLobbyMsgItem` if it has the part of one. -/
structure RsChatMsgItem where
  peerId : RsPeerId
  chatFlags : UInt32
  sendTime : Nat
  message : List UInt8
  lobby : Option LobbyPart

/-- `ChatId`, of the conversations with friends. -/
inductive ChatId where
  | peer (id : RsPeerId)
  | lobby (id : ChatLobbyId)
  | broadcast
  deriving DecidableEq

/-- `ChatMessage`. -/
structure ChatMessage where
  chat_id : ChatId
  broadcast_peer_id : Option RsPeerId
  lobby_peer_gxs_id : Option RsGxsId
  chatflags : UInt32
  sendTime : Nat
  msg : List UInt8

/-- What the service does with a received item. -/
inductive Output where
  /-- `notifyChatMessage`. -/
  | chatMessage (cm : ChatMessage)
  /-- `sendAvatarJpegData`. -/
  | avatarSent (peer_id : RsPeerId)
  /-- `sendAvatarRequest`. -/
  | avatarRequested (peer_id : RsPeerId)
  /-- What `DistributedChatService` does. -/
  | lobby (event : Event)

/-- The parts that `checkSizeAndSendMessage` sends for a message. -/
def checkSizeAndSendMessage (msg : RsChatMsgItem) : List RsChatMsgItem :=
  if maxStringSize < msg.message.length then
    { msg with
        message := msg.message.take maxStringSize
        chatFlags :=
          (msg.chatFlags &&& (flagPrivate ||| flagPublic ||| flagLobby)) ||| flagPartialMessage } ::
      checkSizeAndSendMessage { msg with message := msg.message.drop maxStringSize }
  else [msg]
termination_by msg.message.length
decreasing_by
  rw [List.length_drop]
  have : 0 < maxStringSize := by decide
  omega

/-- `checkForMessageSecurity`, with the item as it is left when it is not dropped. -/
def checkForMessageSecurity (ci : RsChatMsgItem) : Option RsChatMsgItem :=
  if ci.chatFlags &&& flagLobby ≠ 0 ∧ maxMessageSecuritySize < ci.message.length then none
  else if forbidden <:+: ci.message then none
  else
    match ci.lobby with
    | some _ => some { ci with chatFlags := ci.chatFlags &&& ~~~flagPublic }
    | none =>
        let fl := ci.chatFlags &&& (flagPrivate ||| flagPublic ||| flagLobby)
        if fl ≠ 0 ∧ ¬(fl = flagPrivate ∨ fl = flagPublic) then none else some ci

/-- `initChatMessage`. -/
def initChatMessage (c : RsChatMsgItem) : ChatMessage :=
  match c.lobby with
  | some part =>
      { chat_id := .lobby part.lobby_id, broadcast_peer_id := none,
        lobby_peer_gxs_id := some part.keyId, chatflags := 0, sendTime := c.sendTime,
        msg := c.message }
  | none =>
      if c.chatFlags &&& flagPrivate ≠ 0 then
        { chat_id := .peer c.peerId, broadcast_peer_id := none, lobby_peer_gxs_id := none,
          chatflags := chatPrivate, sendTime := c.sendTime, msg := c.message }
      else
        { chat_id := .broadcast, broadcast_peer_id := some c.peerId, lobby_peer_gxs_id := none,
          chatflags := chatPublic, sendTime := c.sendTime, msg := c.message }

/-- The item that goes through the lobby. -/
def RsChatMsgItem.bouncingObject (ci : RsChatMsgItem) (part : LobbyPart) :
    RsChatLobbyBouncingObject where
  lobby_id := part.lobby_id
  msg_id := part.msg_id
  sendTime := ci.sendTime
  keyId := part.keyId
  kind := .message
  content := ci.message
  serialSize := part.serialSize + ci.message.length

/-- What an item comes with: for an item of a lobby, the texts that its signature is one of, who is
connected, and the time before each of the three readings of the clock. -/
structure Arrival where
  signs : List UInt8 → Bool
  connected : RsPeerId → Bool
  elapsed : Nat
  elapsedToBounce : Nat
  elapsedToUse : Nat

/-- The reception of an item of a lobby. -/
def Arrival.reception (a : Arrival) (ci : RsChatMsgItem) :
    DistributedChatService.Reception where
  peer_id := ci.peerId
  signed := a.signs ci.message
  connected := a.connected
  elapsed := a.elapsed
  elapsedToBounce := a.elapsedToBounce
  elapsedToUse := a.elapsedToUse

/-- `p3ChatService`. -/
structure p3ChatService where
  pendingPartialMessages : OrdMap RsPeerId RsChatMsgItem
  lobbies : DistributedChatService
  /-- The virtual peers of the lobbies. -/
  virtualPeerId : ChatLobbyId → RsPeerId

namespace p3ChatService

variable (tooMany : Nat → Nat → Bool) (svc : p3ChatService)

/-- `locked_checkAndRebuildPartialMessage`, with the item when it is complete. -/
def lockedCheckAndRebuildPartialMessage (ci : RsChatMsgItem) :
    p3ChatService × Option RsChatMsgItem :=
  let ciIsIncomplete : Bool := ci.chatFlags &&& flagPartialMessage ≠ 0
  let ci' : RsChatMsgItem :=
    match svc.pendingPartialMessages.get? ci.peerId with
    | some pending =>
        { ci with
          message := pending.message ++ ci.message
          chatFlags := ci.chatFlags ||| pending.chatFlags }
    | none => ci
  if ciIsIncomplete then
    ({ svc with pendingPartialMessages := svc.pendingPartialMessages.insert ci.peerId ci' }, none)
  else
    ({ svc with pendingPartialMessages := svc.pendingPartialMessages.erase ci.peerId }, some ci')

/-- `DistributedChatService::handleRecvChatLobbyMsgItem` of any item, with the item when it is to be
handed on. -/
def handleRecvChatLobbyMsgItem (ci : RsChatMsgItem) (a : Arrival) :
    p3ChatService × Option RsChatMsgItem × List Output :=
  match ci.lobby with
  | none => (svc, some ci, [])
  | some part =>
      let handled :=
        svc.lobbies.handleRecvChatLobbyMsgItem tooMany (ci.bouncingObject part) (a.reception ci)
      ({ svc with lobbies := handled.1 },
        if handled.2.1 then some { ci with peerId := svc.virtualPeerId part.lobby_id } else none,
        handled.2.2.map .lobby)

/-- What `handleRecvChatMsgItem` does with an item that has passed the checks. -/
def handOn (ci : RsChatMsgItem) : List Output :=
  if ci.chatFlags &&& flagLobby ≠ 0 then [.chatMessage (initChatMessage ci)]
  else if ci.chatFlags &&& flagRequestsAvatar ≠ 0 then [.avatarSent ci.peerId]
  else if ci.chatFlags &&& flagAvatarAvailable ≠ 0 then
    [.avatarRequested ci.peerId,
      .chatMessage
        (initChatMessage { ci with chatFlags := ci.chatFlags &&& ~~~flagAvatarAvailable })]
  else [.chatMessage (initChatMessage ci)]

/-- `handleRecvChatMsgItem`. -/
def handleRecvChatMsgItem (ci : RsChatMsgItem) (a : Arrival) : p3ChatService × List Output :=
  match svc.lockedCheckAndRebuildPartialMessage ci with
  | (svc, none) => (svc, [])
  | (svc, some ci) =>
      match checkForMessageSecurity ci with
      | none => (svc, [])
      | some ci =>
          match svc.handleRecvChatLobbyMsgItem tooMany ci a with
          | (svc, none, outputs) => (svc, outputs)
          | (svc, some ci, outputs) => (svc, outputs ++ handOn ci)

/-- The service as a machine that receives items. -/
def machine : Machine p3ChatService (RsChatMsgItem × Arrival) Output where
  step svc i := svc.handleRecvChatMsgItem tooMany i.1 i.2

end p3ChatService

end Chat
