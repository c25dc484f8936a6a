import RetroShare.Chat.Lobby

/-!
# Echoes

An item of a lobby is used again when it comes back after it has been forgotten and is not too old
yet.  `Remembers` says that what has been accepted is in the cache of its lobby, last seen no more
than 100 seconds before its time, or is too old.  Items from further in the future break this: they
are accepted up to 600 seconds ahead, and forgotten before they are too old.
-/

namespace Chat

/-- A lobby, an identifier and the time that an item says it was sent at. -/
abbrev Key := ChatLobbyId × ChatLobbyMsgId × Nat

/-- What an item is known by. -/
def RsChatLobbyBouncingObject.key (item : RsChatLobbyBouncingObject) : Key :=
  (item.lobby_id, item.msg_id, item.sendTime)

/-- The item that is accepted. -/
def Event.acceptedKey : Event → Option Key
  | .accepted item => some item.key
  | _ => none

/-- The items that are accepted. -/
def acceptedKeys (events : List Event) : List Key := events.filterMap Event.acceptedKey

namespace DistributedChatService

variable {tooMany : Nat → Nat → Bool} {svc svc' : DistributedChatService} {events : List Event}
  {item : RsChatLobbyBouncingObject} {r : Reception}

/-- A received item that is signed is not from between 100 and 600 seconds in the future. -/
def Punctual (svc : DistributedChatService) : Input → Prop
  | .recvMsg item r =>
      r.signed → ¬(svc.now + r.elapsed + 100 < item.sendTime ∧
        item.sendTime ≤ svc.now + r.elapsed + 600)
  | .recvEvent item r =>
      r.signed → ¬(svc.now + r.elapsed + 100 < item.sendTime ∧
        item.sendTime ≤ svc.now + r.elapsed + 600)
  | _ => True

/-! ### What is remembered -/

/-- The item is in the cache of its lobby, and was not seen long before its time. -/
def Cached (svc : DistributedChatService) (k : Key) : Prop :=
  ∃ lobby last,
    svc.chatLobbys.get? k.1 = some lobby ∧ lobby.msg_cache.get? k.2.1 = some last ∧
    k.2.2 ≤ last + 100 ∧ last ≤ svc.now

/-- The accepted items are in the caches or too old. -/
def Remembers (svc : DistributedChatService) (keys : List Key) : Prop :=
  ∀ k ∈ keys, svc.Cached k ∨ k.2.2 + 1100 < svc.now

/-- No item has been accepted twice, and all are remembered. -/
structure Safe (svc : DistributedChatService) (events : List Event) : Prop where
  nodup : (acceptedKeys events).Nodup
  remembers : svc.Remembers (acceptedKeys events)

/-- The caches only grow, up to the times at which their messages were seen. -/
structure Keeps (svc svc' : DistributedChatService) : Prop where
  now_le : svc.now ≤ svc'.now
  cache : ∀ lobby_id lobby, svc.chatLobbys.get? lobby_id = some lobby →
    ∃ lobby', svc'.chatLobbys.get? lobby_id = some lobby' ∧
      ∀ msg_id last, lobby.msg_cache.get? msg_id = some last → last ≤ svc.now →
        ∃ last',
          lobby'.msg_cache.get? msg_id = some last' ∧ last ≤ last' ∧ last' ≤ svc'.now

theorem Cached.of_keeps {k : Key} (h : svc.Cached k) (hkeeps : Keeps svc svc') :
  svc'.Cached k
  := by
  obtain ⟨lobby, last, hlobby, hlast, hle, hnow⟩ := h
  obtain ⟨lobby', hlobby', hcache⟩ := hkeeps.cache k.1 lobby hlobby
  obtain ⟨last', hlast', hle', hnow'⟩ := hcache k.2.1 last hlast hnow
  exact ⟨lobby', last', hlobby', hlast', by omega, hnow'⟩

theorem Safe.of_keeps (h : Safe svc events) (hkeeps : Keeps svc svc') :
  Safe svc' events
  := by
  constructor
  · exact h.nodup
  · intro k hk
    rcases h.remembers k hk with hcached | hold
    · exact .inl (hcached.of_keeps hkeeps)
    · exact .inr (lt_of_lt_of_le hold hkeeps.now_le)

theorem keeps_of_chatLobbys (hnow : svc.now ≤ svc'.now) (h : svc'.chatLobbys = svc.chatLobbys) :
  Keeps svc svc'
  := by
  constructor
  · exact hnow
  · intro lobby_id lobby hlobby
    refine ⟨lobby, by rwa [h], ?_⟩
    intro msg_id last hlast hle
    exact ⟨last, hlast, le_rfl, le_trans hle hnow⟩

theorem Safe.time (h : Safe svc events) (elapsed : Nat) :
  Safe (svc.time elapsed) events
  := h.of_keeps (keeps_of_chatLobbys (Nat.le_add_right _ _) rfl)

theorem acceptedKeys_append (events events' : List Event) :
  acceptedKeys (events ++ events') = acceptedKeys events ++ acceptedKeys events'
  := List.filterMap_append

/-- Events that accept nothing. -/
theorem Safe.append_of_nil {events' : List Event} (h : Safe svc events)
    (hnil : acceptedKeys events' = []) :
  Safe svc (events ++ events')
  := by
  have hkeys : acceptedKeys (events ++ events') = acceptedKeys events := by
    rw [acceptedKeys_append, hnil, List.append_nil]
  constructor
  · rw [hkeys]
    exact h.nodup
  · rw [hkeys]
    exact h.remembers

/-- An item that is not too old and not in the cache has not been accepted. -/
theorem Safe.notMem (h : Safe svc events) {k : Key} (hyoung : svc.now ≤ k.2.2 + 1100)
    {lobby : ChatLobbyEntry} (hlobby : svc.chatLobbys.get? k.1 = some lobby)
    (hcache : lobby.msg_cache.get? k.2.1 = none) :
  k ∉ acceptedKeys events
  := by
  intro hk
  rcases h.remembers k hk with ⟨lobby', last, hlobby', hlast, -, -⟩ | hold
  · obtain rfl := Option.some.inj (hlobby.symm.trans hlobby')
    rw [hcache] at hlast
    cases hlast
  · omega

/-! ### Bouncing an item -/

section Bounce

variable {item : RsChatLobbyBouncingObject} {peer_id : RsPeerId} {connected : RsPeerId → Bool}

theorem acceptedKeys_forwards (lobby : ChatLobbyEntry) :
  acceptedKeys (forwards lobby connected item peer_id) = []
  := by
  apply List.filterMap_eq_nil_iff.2
  intro e he
  obtain ⟨friend, -, rfl⟩ := List.mem_map.1 he
  rfl

theorem lockedBouncingObjectCheck_chatLobbys (svc : DistributedChatService) :
  (lockedBouncingObjectCheck tooMany svc item peer_id).1.chatLobbys = svc.chatLobbys ∧
    (lockedBouncingObjectCheck tooMany svc item peer_id).1.now = svc.now
  := by
  rw [lockedBouncingObjectCheck]
  split
  · exact ⟨rfl, rfl⟩
  · dsimp only
    split
    · exact ⟨rfl, rfl⟩
    · exact ⟨rfl, rfl⟩

/-- What `bounceLobbyObject` does to the caches: the item is seen now. -/
theorem bounceLobbyObject_chatLobbys {lobby : ChatLobbyEntry}
    (hlobby : svc.chatLobbys.get? item.lobby_id = some lobby) :
  (bounceLobbyObject tooMany svc item peer_id connected).1.now = svc.now ∧
    ∃ lobby', (∀ lobby_id,
      (bounceLobbyObject tooMany svc item peer_id connected).1.chatLobbys.get? lobby_id =
        if lobby_id = item.lobby_id then some lobby' else svc.chatLobbys.get? lobby_id) ∧
      lobby'.msg_cache = lobby.msg_cache.insert item.msg_id svc.now
  := by
  simp only [bounceLobbyObject, hlobby]
  let seen : ChatLobbyEntry :=
    { svc.meet lobby item peer_id with msg_cache := lobby.msg_cache.insert item.msg_id svc.now }
  let active : ChatLobbyEntry := { seen with last_activity := svc.now }
  obtain ⟨hlobbys, hnow⟩ := @lockedBouncingObjectCheck_chatLobbys tooMany item peer_id
    (svc.setLobby item.lobby_id active)
  have hactive (lobby_id : ChatLobbyId) :
      (lockedBouncingObjectCheck tooMany (svc.setLobby item.lobby_id active) item
        peer_id).1.chatLobbys.get? lobby_id =
        if lobby_id = item.lobby_id then some active else svc.chatLobbys.get? lobby_id := by
    rw [hlobbys]
    apply OrdMap.get?_insert
  split
  · refine ⟨rfl, seen, ?_, rfl⟩
    intro lobby_id
    apply OrdMap.get?_insert
  · split
    · exact ⟨hnow, active, hactive, rfl⟩
    · refine ⟨hnow, { active with
        connexion_challenge_count := active.connexion_challenge_count + 1 }, ?_, rfl⟩
      intro lobby_id
      apply (OrdMap.get?_insert _ _ _).trans
      by_cases hid : lobby_id = item.lobby_id
      · rw [if_pos hid, if_pos hid]
        rfl
      · rw [if_neg hid, if_neg hid]
        exact (hactive lobby_id).trans (if_neg hid)

theorem bounceLobbyObject_accepted :
  let bounced := bounceLobbyObject tooMany svc item peer_id connected
  acceptedKeys bounced.2.2 = [] ∨ acceptedKeys bounced.2.2 = [item.key] ∧
    ∃ lobby, svc.chatLobbys.get? item.lobby_id = some lobby ∧
      lobby.msg_cache.get? item.msg_id = none
  := by
  simp only [bounceLobbyObject]
  split
  · exact .inl rfl
  · rename_i lobby hlobby
    split
    · exact .inl rfl
    · rename_i hcache
      split
      · exact .inl rfl
      · right
        refine ⟨?_, lobby, hlobby, hcache⟩
        rw [acceptedKeys_append, acceptedKeys_forwards]
        rfl

theorem keeps_bounceLobbyObject :
  Keeps svc (bounceLobbyObject tooMany svc item peer_id connected).1
  := by
  cases hlobby : svc.chatLobbys.get? item.lobby_id with
  | none =>
    rw [bounceLobbyObject, hlobby]
    exact keeps_of_chatLobbys le_rfl rfl
  | some lobby =>
    obtain ⟨hnow, lobby', hget, hcache⟩ :=
      @bounceLobbyObject_chatLobbys tooMany svc item peer_id connected lobby hlobby
    constructor
    · exact hnow.ge
    · intro lobby_id entry hentry
      rw [hget lobby_id, hnow]
      by_cases hid : lobby_id = item.lobby_id
      · obtain rfl : lobby = entry := by
          rw [hid, hlobby] at hentry
          exact Option.some.inj hentry
        refine ⟨lobby', if_pos hid, ?_⟩
        intro msg_id last hlast hle
        rw [hcache, OrdMap.get?_insert]
        split
        · exact ⟨svc.now, rfl, hle, le_rfl⟩
        · exact ⟨last, hlast, le_rfl, hle⟩
      · refine ⟨entry, by rwa [if_neg hid], ?_⟩
        intro msg_id last hlast hle
        exact ⟨last, hlast, le_rfl, hle⟩

/-- Bouncing an item keeps the invariant, when the item is not too old and not from far in the
future. -/
theorem Safe.bounceLobbyObject (h : Safe svc events) (hyoung : svc.now ≤ item.sendTime + 1100)
    (elapsed : Nat) (hpunctual : item.sendTime ≤ svc.now + elapsed + 100) :
  let bounced := bounceLobbyObject tooMany (svc.time elapsed) item peer_id connected
  Safe bounced.1 (events ++ bounced.2.2)
  := by
  intro bounced
  have hkept : Safe bounced.1 events :=
    (h.time elapsed).of_keeps keeps_bounceLobbyObject
  obtain hnil | ⟨haccepted, lobby, hlobby, hcache⟩ :=
    @bounceLobbyObject_accepted tooMany (svc.time elapsed) item peer_id connected
  · exact hkept.append_of_nil hnil
  · have hnew : item.key ∉ acceptedKeys events := h.notMem hyoung hlobby hcache
    obtain ⟨hnow, lobby', hget, hcache'⟩ :=
      @bounceLobbyObject_chatLobbys tooMany (svc.time elapsed) item peer_id connected lobby hlobby
    have hkeys : acceptedKeys (events ++ bounced.2.2) = acceptedKeys events ++ [item.key] := by
      rw [acceptedKeys_append, haccepted]
    constructor
    · rw [hkeys]
      apply List.nodup_append'.2
      exact ⟨h.nodup, List.nodup_singleton _, List.disjoint_singleton.2 hnew⟩
    · rw [hkeys]
      intro k hk
      rcases List.mem_append.1 hk with hk | hk
      · exact hkept.remembers k hk
      · obtain rfl := List.mem_singleton.1 hk
        left
        refine ⟨lobby', (svc.time elapsed).now, ?_, ?_, hpunctual, hnow.ge⟩
        · rw [hget]
          exact if_pos rfl
        · rw [hcache']
          exact OrdMap.get?_insert_self _ _

end Bounce

/-! ### The steps -/

/-- Receiving a message keeps the invariant. -/
theorem Safe.handleRecvChatLobbyMsgItem (h : Safe svc events)
    (hpunctual : Punctual svc (.recvMsg item r)) :
  Safe (handleRecvChatLobbyMsgItem tooMany svc item r).1
    (events ++ (handleRecvChatLobbyMsgItem tooMany svc item r).2.2)
  := by
  have hstart := h.time r.elapsed
  simp only [DistributedChatService.handleRecvChatLobbyMsgItem]
  split
  · exact hstart.append_of_nil rfl
  · rename_i hold
    split
    · exact hstart.append_of_nil rfl
    · rename_i hfuture
      split
      · exact hstart.append_of_nil rfl
      · rename_i hsigned
        have hsigned : r.signed = true := by simpa using hsigned
        have hwindow := hpunctual hsigned
        simp only [maxKeepMsgRecord, DistributedChatService.time] at hold hfuture
        have hbounced := @Safe.bounceLobbyObject tooMany (svc.time r.elapsed) events item r.peer_id
          r.connected hstart (by simp only [DistributedChatService.time]; omega) r.elapsedToBounce
          (by simp only [DistributedChatService.time]; omega)
        split
        · rename_i heq
          rw [heq] at hbounced
          exact hbounced
        · rename_i heq
          rw [heq] at hbounced
          rw [← List.append_assoc]
          exact hbounced.append_of_nil rfl

theorem keeps_map_gxs_ids (svc : DistributedChatService) (lobby_id : ChatLobbyId)
    (f : OrdMap RsGxsId Nat → OrdMap RsGxsId Nat) :
  Keeps svc { svc with
    chatLobbys := svc.chatLobbys.map fun id lobby =>
      if id = lobby_id then { lobby with gxs_ids := f lobby.gxs_ids } else lobby }
  := by
  constructor
  · exact le_rfl
  · intro id lobby hlobby
    refine ⟨_, by rw [OrdMap.get?_map, hlobby, Option.map_some], ?_⟩
    intro msg_id last hlast hle
    refine ⟨last, ?_, le_rfl, hle⟩
    split
    · exact hlast
    · exact hlast

section

variable (h : Safe svc events)

include h

theorem Safe.handleRecvChatLobbyEventItem (hpunctual : Punctual svc (.recvEvent item r)) :
  Safe (handleRecvChatLobbyEventItem tooMany svc item r).1
    (events ++ (handleRecvChatLobbyEventItem tooMany svc item r).2)
  := by
  have hstart := h.time r.elapsed
  simp only [DistributedChatService.handleRecvChatLobbyEventItem]
  split
  · exact h.append_of_nil rfl
  · split
    · exact hstart.append_of_nil rfl
    · rename_i hsigned
      split
      · exact hstart.append_of_nil rfl
      · rename_i hold
        split
        · exact hstart.append_of_nil rfl
        · rename_i hfuture
          have hsigned : r.signed = true := by simpa using hsigned
          have hwindow := hpunctual hsigned
          simp only [maxKeepMsgRecord, DistributedChatService.time] at hold hfuture
          have hbounced := @Safe.bounceLobbyObject tooMany (svc.time r.elapsed) events item
            r.peer_id r.connected hstart (by simp only [DistributedChatService.time]; omega)
            r.elapsedToBounce (by simp only [DistributedChatService.time]; omega)
          split
          · rename_i heq
            rw [heq] at hbounced
            exact hbounced
          · rename_i heq
            rw [heq] at hbounced
            rw [← List.append_assoc]
            apply Safe.append_of_nil _ rfl
            exact (hbounced.time r.elapsedToUse).of_keeps (keeps_map_gxs_ids _ _ _)

theorem Safe.sendItem (lobby_id : ChatLobbyId) (s : Sending) :
  Safe (sendItem tooMany svc lobby_id s).1 (events ++ (sendItem tooMany svc lobby_id s).2)
  := by
  have hstart := h.time s.elapsed
  simp only [DistributedChatService.sendItem]
  split
  · exact hstart.append_of_nil rfl
  · split
    · exact hstart.append_of_nil rfl
    · split
      · exact hstart.append_of_nil rfl
      · apply hstart.bounceLobbyObject
        · exact Nat.le_add_right _ _
        · exact le_trans (Nat.le_add_right _ _) (Nat.le_add_right _ _)

theorem Safe.sendItems (es : List (ChatLobbyId × Sending)) :
  Safe (sendItems tooMany svc es).1 (events ++ (sendItems tooMany svc es).2)
  := by
  induction es generalizing svc events with
  | nil => exact h.append_of_nil rfl
  | cons e es ih =>
    have hrest := ih (@Safe.sendItem tooMany svc events h e.1 e.2)
    rwa [List.append_assoc] at hrest

theorem Safe.cleaned :
  Safe svc.cleaned events
  := by
  constructor
  · exact h.nodup
  · intro k hk
    rcases h.remembers k hk with ⟨lobby, last, hlobby, hlast, hle, hnow⟩ | hold
    · by_cases hforgotten : last + maxKeepMsgRecord < svc.now
      · right
        simp only [maxKeepMsgRecord] at hforgotten
        change k.2.2 + 1100 < svc.now
        omega
      · left
        refine ⟨svc.cleanLobby lobby, last, ?_, ?_, hle, hnow⟩
        · rw [DistributedChatService.cleaned, OrdMap.get?_map, hlobby, Option.map_some]
        · rw [cleanLobby, OrdMap.get?_filter, hlast]
          simpa using hforgotten
    · exact .inr hold

theorem Safe.step {i : Input} (hpunctual : Punctual svc i) :
  Safe ((machine tooMany).next svc i) (events ++ (machine tooMany).emit svc i)
  := by
  cases i with
  | recvMsg item r => exact h.handleRecvChatLobbyMsgItem hpunctual
  | recvEvent item r => exact h.handleRecvChatLobbyEventItem hpunctual
  | send lobby_id s => exact h.sendItem lobby_id s
  | clean elapsed keepAlive => exact ((h.time elapsed).cleaned).sendItems _

end

/-- Every item is accepted at most once, when no signed item is received that is from between 100
and 600 seconds in the future. -/
theorem nodup_accepted {is : List Input} (h : (machine tooMany).Along Punctual svc is) :
  (acceptedKeys ((machine tooMany).trace svc is)).Nodup
  := by
  have hstart : Safe svc [] := by
    constructor
    · exact List.nodup_nil
    · intro k hk
      exact absurd hk List.not_mem_nil
  have hsafe := Machine.run_trace_of_step (m := machine tooMany) (C := Punctual) (P := Safe)
    (fun _ _ _ h hi => h.step hi) hstart h
  exact hsafe.nodup

/-! ### Runs -/

/-- A lobby that has just been entered. -/
def newLobby : ChatLobbyEntry where
  gxs_id := 1
  participating_friends := OrdMap.empty
  gxs_ids := OrdMap.empty
  last_activity := 0
  msg_cache := OrdMap.empty
  connexion_challenge_count := 0
  last_connexion_challenge_time := 0
  last_keep_alive_packet_time := 5000

/-- A service in one lobby. -/
def inLobby : DistributedChatService where
  ownId := 1
  now := 5000
  chatLobbys := OrdMap.empty.insert 7 newLobby
  visibleLobbies := OrdMap.empty
  messageCounts := fun _ _ => []

/-- A message of this lobby. -/
def lobbyMessage (sendTime : Nat) : RsChatLobbyBouncingObject where
  lobby_id := 7
  msg_id := 99
  sendTime := sendTime
  keyId := 3
  kind := .message
  content := []
  serialSize := 60

/-- A signed item of a friend, `elapsed` seconds later. -/
def signedItem (elapsed : Nat) : Reception where
  peer_id := 2
  signed := true
  connected := fun _ => false
  elapsed := elapsed
  elapsedToBounce := 0
  elapsedToUse := 0

/-- No keep-alive packet can be signed. -/
def unsigned (_ : ChatLobbyId) : Sending where
  kind := .keepAlive
  content := []
  serialSize := 60
  random := []
  signs := false
  connected := fun _ => false
  elapsed := 0
  elapsedToBounce := 0

/-- The message comes, the caches are cleaned, and the message comes again. -/
def echo (sendTime : Nat) : List Input :=
  [.recvMsg (lobbyMessage sendTime) (signedItem 0), .clean 1201 unsigned,
    .recvMsg (lobbyMessage sendTime) (signedItem 0)]

theorem nodup_accepted_echo :
  (acceptedKeys ((machine fun n _ => 10 < n).trace inLobby (echo 5100))).Nodup
  := by
  apply nodup_accepted
  refine ⟨?_, trivial, ?_, trivial⟩
  · intro _
    decide
  · intro _
    decide

/-- A message from 600 seconds in the future is accepted, forgotten after 1201 seconds, and accepted
again. -/
theorem not_nodup_accepted_future :
  ¬ (acceptedKeys ((machine fun n _ => 10 < n).trace inLobby (echo 5600))).Nodup
  := by
  decide +kernel

end DistributedChatService

end Chat
