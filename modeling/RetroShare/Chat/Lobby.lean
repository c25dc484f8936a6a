import RetroShare.Lib.Machine
import RetroShare.Lib.OrdMap

/-!
# Chat lobbies

`DistributedChatService` of `distributedchat.cc`, as far as messages and events of lobbies go: how
they are received, forwarded to the friends in the lobby and remembered, how own ones are sent, and
how the caches are cleaned.

The clock is a part of the state, and every reading of it comes with the time since the last one.
The signature checks, the random numbers and what other parts of the program say are part of the
inputs.  The limit of the flood check, which is a `float`, is the parameter `tooMany`.
-/

namespace Chat

abbrev RsPeerId := Nat

abbrev RsGxsId := Nat

abbrev ChatLobbyId := Nat

abbrev ChatLobbyMsgId := Nat

/-- `MAX_KEEP_MSG_RECORD`. -/
def maxKeepMsgRecord : Nat := 1200

/-- `MAX_KEEP_INACTIVE_NICKNAME`. -/
def maxKeepInactiveNickname : Nat := 180

/-- `MAX_DELAY_BETWEEN_LOBBY_KEEP_ALIVE`. -/
def maxDelayBetweenLobbyKeepAlive : Nat := 120

/-- `MAX_KEEP_PUBLIC_LOBBY_RECORD`. -/
def maxKeepPublicLobbyRecord : Nat := 60

/-- `MAX_MESSAGES_PER_SECONDS_PERIOD`. -/
def maxMessagesPerSecondsPeriod : Nat := 10

/-- `CONNECTION_CHALLENGE_MAX_COUNT`. -/
def connectionChallengeMaxCount : Nat := 20

/-- `CONNECTION_CHALLENGE_MIN_DELAY`. -/
def connectionChallengeMinDelay : Nat := 15

/-- `MAX_ITEM_SIZE` of `checkSizeAndSendLobbyMessage`. -/
def maxItemSize : Nat := 32000

/-- What an item is for: `RsChatLobbyMsgItem` or the event type of an `RsChatLobbyEventItem`. -/
inductive Kind where
  | message
  | peerLeft
  | peerJoined
  | keepAlive
  /-- The other types of events. -/
  | otherEvent
  deriving DecidableEq

/-- `RsChatLobbyBouncingObject`, of the two kinds that there are.  `content` is what no function
here looks at. -/
structure RsChatLobbyBouncingObject where
  lobby_id : ChatLobbyId
  msg_id : ChatLobbyMsgId
  sendTime : Nat
  keyId : RsGxsId
  kind : Kind
  content : List UInt8
  serialSize : Nat
  deriving DecidableEq

/-- `ChatLobbyEntry`. -/
structure ChatLobbyEntry where
  gxs_id : RsGxsId
  participating_friends : OrdMap RsPeerId Unit
  gxs_ids : OrdMap RsGxsId Nat
  last_activity : Nat
  msg_cache : OrdMap ChatLobbyMsgId Nat
  connexion_challenge_count : Nat
  last_connexion_challenge_time : Nat
  last_keep_alive_packet_time : Nat

/-- `VisibleChatLobbyRecord`. -/
structure VisibleChatLobbyRecord where
  total_number_of_peers : Nat
  last_report_time : Nat

/-- `DistributedChatService`, with the clock. -/
structure DistributedChatService where
  ownId : RsPeerId
  now : Nat
  chatLobbys : OrdMap ChatLobbyId ChatLobbyEntry
  visibleLobbies : OrdMap ChatLobbyId VisibleChatLobbyRecord
  /-- `message_counts` of `locked_bouncingObjectCheck`. -/
  messageCounts : RsPeerId → ChatLobbyId → List Nat

/-- What the service does. -/
inductive Event where
  /-- `bounceLobbyObject` returns `true` for an item. -/
  | accepted (item : RsChatLobbyBouncingObject)
  /-- An item is sent to a friend. -/
  | sent (peer_id : RsPeerId) (item : RsChatLobbyBouncingObject)
  /-- The notification of a message or an event is given. -/
  | displayed (item : RsChatLobbyBouncingObject)
  deriving DecidableEq

namespace DistributedChatService

variable (tooMany : Nat → Nat → Bool) (svc : DistributedChatService)
  (item : RsChatLobbyBouncingObject)

/-- `time(NULL)`, `elapsed` seconds after the last time. -/
def time (elapsed : Nat) : DistributedChatService := { svc with now := svc.now + elapsed }

/-- The number of peers in a lobby, which is that of the visible lobby if there is one. -/
def lobbyCount (lobby_id : ChatLobbyId) : Option Nat :=
  match svc.visibleLobbies.get? lobby_id with
  | some record => some record.total_number_of_peers
  | none => (svc.chatLobbys.get? lobby_id).map fun lobby => lobby.gxs_ids.toList.length

/-- `locked_bouncingObjectCheck`. -/
def lockedBouncingObjectCheck (peer_id : RsPeerId) :
    DistributedChatService × Bool :=
  match svc.lobbyCount item.lobby_id with
  | none => (svc, false)
  | some lobby_count =>
      let lst := (svc.messageCounts peer_id item.lobby_id).dropWhile fun t =>
        t + maxMessagesPerSecondsPeriod < svc.now
      let record (lst : List Nat) : DistributedChatService :=
        { svc with
          messageCounts := Function.update svc.messageCounts peer_id
            (Function.update (svc.messageCounts peer_id) item.lobby_id lst) }
      if tooMany lst.length lobby_count then (record lst, false)
      else (record (lst ++ [svc.now]), true)

/-- The lobby after an item of `peer_id` has come in, up to its cache. -/
def meet (lobby : ChatLobbyEntry) (item : RsChatLobbyBouncingObject) (peer_id : RsPeerId) :
    ChatLobbyEntry :=
  { lobby with
    participating_friends :=
      if peer_id ≠ svc.ownId then lobby.participating_friends.insert peer_id ()
      else lobby.participating_friends
    gxs_ids := lobby.gxs_ids.insert item.keyId svc.now }

/-- The copies of an item for the friends in the lobby that are connected, but for `peer_id`.  An
item that is too long is not sent. -/
def forwards (lobby : ChatLobbyEntry) (connected : RsPeerId → Bool)
    (item : RsChatLobbyBouncingObject) (peer_id : RsPeerId) : List Event :=
  ((lobby.participating_friends.toList.map Prod.fst).filter fun friend =>
    friend ≠ peer_id && connected friend && item.serialSize ≤ maxItemSize).map (.sent · item)

/-- Sets the entry of a lobby. -/
def setLobby (lobby_id : ChatLobbyId) (lobby : ChatLobbyEntry) : DistributedChatService :=
  { svc with chatLobbys := svc.chatLobbys.insert lobby_id lobby }

/-- `bounceLobbyObject`, with what it returns. -/
def bounceLobbyObject (peer_id : RsPeerId) (connected : RsPeerId → Bool) : DistributedChatService × Bool × List Event :=
  match svc.chatLobbys.get? item.lobby_id with
  | none => (svc, false, [])
  | some entry =>
      let lobby := svc.meet entry item peer_id
      match lobby.msg_cache.get? item.msg_id with
      | some _ =>
          -- the item has been seen: it is remembered for longer
          (svc.setLobby item.lobby_id
            { lobby with msg_cache := lobby.msg_cache.insert item.msg_id svc.now }, false, [])
      | none =>
          let lobby :=
            { lobby with
              msg_cache := lobby.msg_cache.insert item.msg_id svc.now
              last_activity := svc.now }
          let checked :=
            lockedBouncingObjectCheck tooMany (svc.setLobby item.lobby_id lobby) item peer_id
          if !checked.2 then (checked.1, false, [])
          else
            (checked.1.setLobby item.lobby_id
                { lobby with connexion_challenge_count := lobby.connexion_challenge_count + 1 },
              true, forwards lobby connected item peer_id ++ [.accepted item])

/-- What a received item comes with: whether `checkSignature` accepts it, who is connected, and the
time before each of the three readings of the clock. -/
structure Reception where
  peer_id : RsPeerId
  signed : Bool
  connected : RsPeerId → Bool
  elapsed : Nat
  elapsedToBounce : Nat
  elapsedToUse : Nat

/-- `handleRecvChatLobbyMsgItem`, with what it returns. -/
def handleRecvChatLobbyMsgItem (cli : RsChatLobbyBouncingObject) (r : Reception) :
    DistributedChatService × Bool × List Event :=
  let svc := svc.time r.elapsed
  if svc.now + 100 > cli.sendTime + maxKeepMsgRecord then (svc, false, [])
  else if svc.now + 600 < cli.sendTime then (svc, false, [])
  else if !r.signed then (svc, false, [])
  else
    match bounceLobbyObject tooMany (svc.time r.elapsedToBounce) cli r.peer_id r.connected with
    | (svc, false, events) => (svc, false, events)
    | (svc, true, events) => (svc, true, events ++ [.displayed cli])

/-- What an event makes of the participants. -/
def participants (gxs_ids : OrdMap RsGxsId Nat) :
    OrdMap RsGxsId Nat :=
  match item.kind with
  | .peerLeft => gxs_ids.erase item.keyId
  | .peerJoined => gxs_ids.insert item.keyId svc.now
  | .keepAlive => gxs_ids.insert item.keyId svc.now
  | _ => gxs_ids

/-- `handleRecvChatLobbyEventItem`. -/
def handleRecvChatLobbyEventItem (r : Reception) :
    DistributedChatService × List Event :=
  if svc.chatLobbys.get? item.lobby_id = none then (svc, [])
  else
    let svc := svc.time r.elapsed
    if !r.signed then (svc, [])
    else if svc.now + 100 > item.sendTime + maxKeepMsgRecord then (svc, [])
    else if svc.now + 600 < item.sendTime then (svc, [])
    else
      match bounceLobbyObject tooMany (svc.time r.elapsedToBounce) item r.peer_id r.connected with
      | (svc, false, events) => (svc, events)
      | (svc, true, events) =>
          let svc := svc.time r.elapsedToUse
          ({ svc with
              chatLobbys := svc.chatLobbys.map fun lobby_id lobby =>
                if lobby_id = item.lobby_id then
                  { lobby with gxs_ids := svc.participants item lobby.gxs_ids }
                else lobby },
            events ++ [.displayed item])

/-- What an own item comes with: the random numbers that are drawn for its identifier, whether the
identity of the lobby is known and can sign, and the time before each reading of the clock. -/
structure Sending where
  kind : Kind
  content : List UInt8
  serialSize : Nat
  random : List ChatLobbyMsgId
  signs : Bool
  connected : RsPeerId → Bool
  elapsed : Nat
  elapsedToBounce : Nat

/-- `sendLobbyChat` and `sendLobbyStatusItem`: an item is made by `locked_initLobbyBouncableObject`,
with the first number that is not in the cache of the lobby, and bounced. -/
def sendItem (lobby_id : ChatLobbyId) (s : Sending) : DistributedChatService × List Event :=
  let svc := svc.time s.elapsed
  match svc.chatLobbys.get? lobby_id with
  | none => (svc, [])
  | some lobby =>
      match s.random.find? fun msg_id => (lobby.msg_cache.get? msg_id).isNone with
      | none => (svc, [])
      | some msg_id =>
          if !s.signs then (svc, [])
          else
            let item : RsChatLobbyBouncingObject :=
              { lobby_id, msg_id, sendTime := svc.now, keyId := lobby.gxs_id, kind := s.kind,
                content := s.content, serialSize := s.serialSize }
            let bounced :=
              bounceLobbyObject tooMany (svc.time s.elapsedToBounce) item svc.ownId s.connected
            (bounced.1, bounced.2.2)

/-- What `cleanLobbyCaches` makes of a lobby. -/
def cleanLobby (lobby : ChatLobbyEntry) : ChatLobbyEntry :=
  let challenged : Bool :=
    connectionChallengeMaxCount < lobby.connexion_challenge_count + 1 &&
      lobby.last_connexion_challenge_time + connectionChallengeMinDelay < svc.now
  { lobby with
    msg_cache := lobby.msg_cache.filter fun _ t => ¬ t + maxKeepMsgRecord < svc.now
    gxs_ids := lobby.gxs_ids.filter fun _ t => ¬ t + maxKeepInactiveNickname < svc.now
    last_keep_alive_packet_time :=
      if lobby.last_keep_alive_packet_time + maxDelayBetweenLobbyKeepAlive < svc.now then svc.now
      else lobby.last_keep_alive_packet_time
    connexion_challenge_count :=
      if challenged then 0 else lobby.connexion_challenge_count + 1
    last_connexion_challenge_time :=
      if challenged then svc.now else lobby.last_connexion_challenge_time }

/-- The caches after `cleanLobbyCaches` has gone through the lobbies. -/
def cleaned : DistributedChatService :=
  { svc with
    chatLobbys := svc.chatLobbys.map fun _ lobby => svc.cleanLobby lobby
    visibleLobbies := svc.visibleLobbies.filter fun lobby_id record =>
      ¬(record.last_report_time + maxKeepPublicLobbyRecord < svc.now ∧
        (svc.chatLobbys.get? lobby_id).isNone) }

/-- The lobbies that are sent a keep-alive packet. -/
def keepAliveLobbyIds : List ChatLobbyId :=
  (svc.chatLobbys.toList.filter fun e =>
    e.2.last_keep_alive_packet_time + maxDelayBetweenLobbyKeepAlive < svc.now).map Prod.fst

/-- Own items, one after the other. -/
def sendItems : DistributedChatService → List (ChatLobbyId × Sending) →
    DistributedChatService × List Event
  | svc, [] => (svc, [])
  | svc, e :: es =>
      let sent := sendItem tooMany svc e.1 e.2
      let rest := sendItems sent.1 es
      (rest.1, sent.2 ++ rest.2)

/-- `cleanLobbyCaches`.  `keepAlive` are the packets for the lobbies that are due.  The connection
challenges leave the service as it is. -/
def cleanLobbyCaches (elapsed : Nat) (keepAlive : ChatLobbyId → Sending) :
    DistributedChatService × List Event :=
  let svc := svc.time elapsed
  sendItems tooMany svc.cleaned
    (svc.keepAliveLobbyIds.map fun lobby_id => (lobby_id, keepAlive lobby_id))

/-- What happens to the service. -/
inductive Input where
  | recvMsg (item : RsChatLobbyBouncingObject) (r : Reception)
  | recvEvent (item : RsChatLobbyBouncingObject) (r : Reception)
  | send (lobby_id : ChatLobbyId) (s : Sending)
  | clean (elapsed : Nat) (keepAlive : ChatLobbyId → Sending)

/-- The service as a machine. -/
def machine : Machine DistributedChatService Input Event where
  step
    | svc, .recvMsg item r =>
        let handled := handleRecvChatLobbyMsgItem tooMany svc item r
        (handled.1, handled.2.2)
    | svc, .recvEvent item r => handleRecvChatLobbyEventItem tooMany svc item r
    | svc, .send lobby_id s => sendItem tooMany svc lobby_id s
    | svc, .clean elapsed keepAlive => cleanLobbyCaches tooMany svc elapsed keepAlive

end DistributedChatService

end Chat
