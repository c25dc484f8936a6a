import RetroShare.TcpOnUdp.RelayAccounting
import RetroShare.TcpOnUdp.RelayPackets

/-!
# UDP relays are transparent

Three receivers: two have added each other as peers, with the third one as their proxy, which has
added the relay between them.  A block from the one to the other that fits into a packet arrives at
the peer once, and nowhere else (`transparent_iff`).  Of a block that does not fit a datagram leaves
all the same: an empty one when it is too large, a header when it is empty.
-/

namespace TcpOnUdp

/-! ### Packets -/

@[simp]
theorem SockaddrIn.length_bytes (a : SockaddrIn) :
  a.bytes.length = 6
  := by
  simp [bytes]

theorem addrAt_append {a : SockaddrIn} (ha : a.IsInet) (front rest : List UInt8) :
  addrAt (front ++ (a.bytes ++ rest)) front.length = a
  := by
  have haddr : ofBytes (toBytes 4 a.s_addr) = a.s_addr := ofBytes_toBytes 4 _ ha.addr
  have hport : ofBytes (toBytes 2 a.sin_port) = a.sin_port := ofBytes_toBytes 2 _ ha.port
  obtain ⟨family, addr, port⟩ := a
  obtain rfl : family = afInet := ha.family
  simp only [addrAt, SockaddrIn.bytes, List.append_assoc, SockaddrIn.mk.injEq, true_and]
  constructor
  · rw [List.drop_left, List.take_left' (length_toBytes 4 addr)]
    exact haddr
  · rw [← List.drop_drop, List.drop_left, List.drop_left' (length_toBytes 4 addr),
      List.take_left' (length_toBytes 2 port)]
    exact hport

section

variable (data : List UInt8) (ure : UdpRelayEnd)

@[simp]
theorem length_relayPacket :
  (relayPacket data ure).length = udpRelayHeaderSize + data.length
  := by
  simp only [relayPacket, List.length_append, SockaddrIn.length_bytes]
  change 4 + _ = 16 + _
  omega

theorem isUdpRelayPacket_relayPacket :
  isUdpRelayPacket (relayPacket data ure)
  := by
  rw [isUdpRelayPacket, if_neg (by rw [length_relayPacket]; omega), relayPacket, List.take_left]
  exact decide_eq_true rfl

theorem drop_relayPacket :
  (relayPacket data ure).drop udpRelayHeaderSize = data
  := by
  have hsplit : relayPacket data ure =
      (udpIdentityStringV1 ++ (ure.mLocalAddr.bytes ++ ure.mRemoteAddr.bytes)) ++ data := by
    simp only [relayPacket, List.append_assoc]
  rw [hsplit]
  apply List.drop_left'
  simp only [List.length_append, SockaddrIn.length_bytes]
  rfl

theorem extractUdpRelayAddrSet_relayPacket (hlocal : ure.mLocalAddr.IsInet)
    (hremote : ure.mRemoteAddr.IsInet) :
  extractUdpRelayAddrSet (relayPacket data ure) = some ⟨ure.mLocalAddr, ure.mRemoteAddr⟩
  := by
  have hsrc := addrAt_append hlocal udpIdentityStringV1 (ure.mRemoteAddr.bytes ++ data)
  have hdest := addrAt_append hremote (udpIdentityStringV1 ++ ure.mLocalAddr.bytes) data
  rw [List.append_assoc, List.length_append, SockaddrIn.length_bytes] at hdest
  rw [extractUdpRelayAddrSet, if_neg (by rw [length_relayPacket]; omega)]
  congr 2

end

/-! ### Receivers -/

namespace RelayingReceiver

variable {β π : Type} {bandwidths : Bandwidths β} {receiver : RelayingReceiver β π}
  {addrSet : UdpRelayAddrSet} {data : List UInt8} {peer : π}

/-- The peer of an address, and where its stream goes. -/
structure HasPeer (receiver : RelayingReceiver β π) (peer : π) (endPoints : UdpRelayAddrSet)
    (proxyaddr : SockaddrIn) : Prop where
  peer : receiver.mPeers.get? endPoints.mDestAddr = some peer
  stream : receiver.mStreams.get? endPoints.mDestAddr = some (.new endPoints proxyaddr)

/-- There is a relay with these addresses. -/
def HasRelay (receiver : RelayingReceiver β π) (addrSet : UdpRelayAddrSet) : Prop :=
  (receiver.classOf addrSet).isSome

theorem hasRelay_iff :
  receiver.HasRelay addrSet ↔ (receiver.mRelays.get? addrSet).isSome
  := by
  rw [HasRelay, UdpRelayReceiver.classOf, Option.isSome_map]

theorem recvPkt_of_hasRelay (hpacket : isUdpRelayPacket data)
    (hextract : extractUdpRelayAddrSet data = some addrSet) (hrelay : receiver.HasRelay addrSet)
    (now : Int) :
  (receiver.recvPkt data now).2.2 = [.sendPkt ⟨addrSet.mDestAddr, data, stdRelayTtl⟩]
  := by
  rw [recvPkt, if_neg (not_not_intro hpacket), hextract]
  dsimp only
  rw [if_pos (hasRelay_iff.1 hrelay)]

/-- A packet that is for no relay is given to the peer of its source, without the header. -/
theorem recvPkt_of_peer (hpacket : isUdpRelayPacket data)
    (hextract : extractUdpRelayAddrSet data = some addrSet) (hrelay : ¬receiver.HasRelay addrSet)
    (hpeer : receiver.mPeers.get? addrSet.mSrcAddr = some peer) (now : Int) :
  (receiver.recvPkt data now).2.2 =
    if 0 < data.length - udpRelayHeaderSize then
      [.recvPkt peer (data.drop udpRelayHeaderSize)]
    else []
  := by
  rw [recvPkt, if_neg (not_not_intro hpacket), hextract]
  dsimp only
  rw [if_neg (mt hasRelay_iff.2 hrelay), hpeer]

/-! ### What calls keep -/

theorem HasPeer.addUdpPeer {endPoints : UdpRelayAddrSet} {proxyaddr : SockaddrIn}
    (h : (receiver.addUdpPeer peer endPoints proxyaddr).2 = 1) :
  (receiver.addUdpPeer peer endPoints proxyaddr).1.HasPeer peer endPoints proxyaddr
  := by
  rw [RelayingReceiver.addUdpPeer] at h ⊢
  split at h
  case isTrue => cases h
  case isFalse hnone =>
    rw [if_neg hnone]
    constructor
    · apply OrdMap.get?_insert_self
    · apply OrdMap.get?_insert_self

section

variable [DecidableEq π] {call : Call π} {addrSet endPoints : UdpRelayAddrSet}
  {proxyaddr : SockaddrIn}

theorem HasPeer.next (h : receiver.HasPeer peer endPoints proxyaddr)
    (hcall : call ≠ .removePeer peer) :
  ((machine bandwidths).next receiver call).HasPeer peer endPoints proxyaddr
  := by
  cases call with
  | addPeer peer' endPoints' proxyaddr' =>
    change (receiver.addUdpPeer peer' endPoints' proxyaddr').1.HasPeer _ _ _
    rw [RelayingReceiver.addUdpPeer]
    split
    case isTrue => exact h
    case isFalse hnone =>
      have hne : endPoints.mDestAddr ≠ endPoints'.mDestAddr := by
        intro heq
        rw [← heq, h.stream] at hnone
        exact hnone rfl
      constructor
      · rw [OrdMap.get?_insert, if_neg hne]
        exact h.peer
      · rw [OrdMap.get?_insert, if_neg hne]
        exact h.stream
  | removePeer peer' =>
    change (receiver.removeUdpPeer peer').1.HasPeer _ _ _
    rw [RelayingReceiver.removeUdpPeer]
    split
    case h_1 => exact h
    case h_2 addr peer'' hfind =>
      have hentry := OrdMap.mem_toList.1 (List.mem_of_find?_eq_some hfind)
      have hpeer : peer'' = peer' := by simpa using List.find?_some hfind
      have hne : endPoints.mDestAddr ≠ addr := by
        rintro rfl
        rw [h.peer, Option.some.injEq] at hentry
        exact hcall (by rw [hentry, hpeer])
      constructor
      · rw [OrdMap.get?_erase, if_neg hne]
        exact h.peer
      · rw [OrdMap.get?_erase, if_neg hne]
        exact h.stream
  | relays input => exact ⟨h.peer, h.stream⟩
  | recv data now =>
    change (receiver.recvPkt data now).1.HasPeer _ _ _
    rw [recvPkt]
    split
    · exact h
    · split
      · exact h
      · split
        · exact ⟨h.peer, h.stream⟩
        · split
          · exact h
          · exact ⟨h.peer, h.stream⟩
  | send data dest =>
    have hsend : ∀ sent, receiver.sendPkt data dest = some sent →
        sent.1.HasPeer peer endPoints proxyaddr := by
      intro sent hsent
      rw [sendPkt] at hsent
      split at hsent
      · cases hsent
        exact h
      · obtain ⟨packet, -, rfl⟩ := Option.map_eq_some_iff.1 hsent
        exact ⟨h.peer, h.stream⟩
    cases hsent : receiver.sendPkt data dest with
    | none => simpa only [Machine.next, machine, hsent] using h
    | some sent => simpa only [Machine.next, machine, hsent] using hsend sent hsent

/-- The call adds a relay between these addresses. -/
def AddsRelay (addrSet : UdpRelayAddrSet) : Call π → Prop
  | .relays (.add addrSet' _ _) => addrSet.pair = addrSet'.pair
  | _ => False

/-- The call removes the relay between these addresses, or finds that it is to be dropped. -/
def RemovesRelay (bandwidths : Bandwidths β) (receiver : RelayingReceiver β π)
    (addrSet : UdpRelayAddrSet) : Call π → Prop
  | .relays (.remove addrSet') => addrSet.pair = addrSet'.pair
  | .relays (.check now) =>
      ∃ addrSet' relay, addrSet.pair = addrSet'.pair ∧
        receiver.mRelays.get? addrSet' = some relay ∧
        (relay.measured bandwidths now).dropped bandwidths now
  | _ => False

/-- The relays after a call: those before it that are not removed, and the one that is added. -/
theorem classOf_next (receiver : RelayingReceiver β π) (call : Call π) (a : UdpRelayAddrSet) :
  ((machine bandwidths).next receiver call).classOf a = receiver.classOf a ∨
    AddsRelay a call ∧ (((machine bandwidths).next receiver call).classOf a).isSome ∨
    receiver.RemovesRelay bandwidths a call ∧
      ((machine bandwidths).next receiver call).classOf a = none
  := by
  cases call with
  | addPeer peer endPoints proxyaddr =>
    change (receiver.addUdpPeer peer endPoints proxyaddr).1.classOf a = _ ∨ _
    rw [addUdpPeer]
    split
    · exact .inl rfl
    · exact .inl rfl
  | removePeer peer =>
    change (receiver.removeUdpPeer peer).1.classOf a = _ ∨ _
    rw [removeUdpPeer]
    split
    · exact .inl rfl
    · exact .inl rfl
  | recv data now =>
    change (receiver.recvPkt data now).1.classOf a = _ ∨ _
    rw [recvPkt]
    split
    · exact .inl rfl
    · split
      · exact .inl rfl
      · split
        · exact .inl (UdpRelayReceiver.classOf_relayPkt receiver.toUdpRelayReceiver _ _ _ _)
        · split
          · exact .inl rfl
          · exact .inl rfl
  | send data dest =>
    left
    have hsend : ∀ sent, receiver.sendPkt data dest = some sent →
        sent.1.classOf a = receiver.classOf a := by
      intro sent hsent
      rw [sendPkt] at hsent
      split at hsent
      · cases hsent
        rfl
      · obtain ⟨packet, -, rfl⟩ := Option.map_eq_some_iff.1 hsent
        rfl
    cases hsent : receiver.sendPkt data dest with
    | none => simp only [Machine.next, machine, hsent]
    | some sent => simpa only [Machine.next, machine, hsent] using hsend sent hsent
  | relays input =>
    cases input with
    | add addrSet relayClass now =>
      rcases UdpRelayReceiver.addUdpRelay_cases bandwidths receiver.toUdpRelayReceiver addrSet
        relayClass now with ⟨hsame, -⟩ | ⟨c, -, -, hadds, -⟩
      · exact .inl (congrArg (fun receiver => UdpRelayReceiver.classOf receiver a) hsame)
      · have hclass := hadds.classOf a
        split at hclass
        case isTrue hpair =>
          exact .inr (.inl ⟨UdpRelayAddrSet.pair_eq_iff.2 hpair,
            Option.isSome_iff_exists.2 ⟨c, hclass⟩⟩)
        case isFalse => exact .inl hclass
    | remove addrSet =>
      have hclass :=
        UdpRelayReceiver.classOf_removeUdpRelay receiver.toUdpRelayReceiver addrSet a
      split at hclass
      case isTrue hpair => exact .inr (.inr ⟨UdpRelayAddrSet.pair_eq_iff.2 hpair, hclass⟩)
      case isFalse => exact .inl hclass
    | check now =>
      have hclass := UdpRelayReceiver.classOf_foldl_removeUdpRelay
        (UdpRelayReceiver.eraseList bandwidths { receiver.toUdpRelayReceiver with
          mRelays := receiver.mRelays.map fun _ relay => relay.measured bandwidths now } now)
        { receiver.toUdpRelayReceiver with
          mRelays := receiver.mRelays.map fun _ relay => relay.measured bandwidths now } a
      rw [UdpRelayReceiver.classOf_measured] at hclass
      split at hclass
      case isTrue hdropped =>
        obtain ⟨addrSet, hmem, hpair⟩ := hdropped
        refine .inr (.inr ⟨?_, hclass⟩)
        obtain ⟨⟨addrSet', relay⟩, hentry, rfl⟩ := List.mem_map.1 hmem
        obtain ⟨hentry, hdrop⟩ := List.mem_filter.1 hentry
        rw [OrdMap.mem_toList, OrdMap.get?_map] at hentry
        obtain ⟨relay', hget, rfl⟩ := Option.map_eq_some_iff.1 hentry
        exact ⟨addrSet', relay', hpair, hget, hdrop⟩
      case isFalse => exact .inl hclass
    | setTotal count => exact .inl rfl
    | setClassMax classIdx count bandwidth =>
      left
      change (receiver.toUdpRelayReceiver.setRelayClassMax classIdx count bandwidth).classOf a =
        receiver.classOf a
      rw [UdpRelayReceiver.setRelayClassMax]
      split
      · rfl
      · rfl
    | relay addrSet size now =>
      left
      exact UdpRelayReceiver.classOf_relayPkt receiver.toUdpRelayReceiver addrSet size now a

theorem HasRelay.next (h : receiver.HasRelay addrSet)
    (hcall : ¬receiver.RemovesRelay bandwidths addrSet call) :
  ((machine bandwidths).next receiver call).HasRelay addrSet
  := by
  rcases classOf_next receiver call addrSet with hsame | ⟨-, hadded⟩ | ⟨hremoves, -⟩
  · rw [HasRelay, hsame]
    exact h
  · exact hadded
  · exact absurd hremoves hcall

theorem not_hasRelay_next (h : ¬receiver.HasRelay addrSet) (hcall : ¬AddsRelay addrSet call) :
  ¬((machine bandwidths).next receiver call).HasRelay addrSet
  := by
  rcases classOf_next receiver call addrSet with hsame | ⟨hadds, -⟩ | ⟨-, hremoved⟩
  · rw [HasRelay, hsame]
    exact h
  · exact absurd hadds hcall
  · rw [HasRelay, hremoved]
    exact Bool.false_ne_true

/-! ### What runs keep -/

variable (bandwidths)

/-- A receiver that makes these calls adds the peer, and does not remove it afterwards. -/
def AddsPeer (calls : List (Call π)) (peer : π) (endPoints : UdpRelayAddrSet)
    (proxyaddr : SockaddrIn) : Prop :=
  ∃ before after, calls = before ++ .addPeer peer endPoints proxyaddr :: after ∧
    (((machine bandwidths).run new before).addUdpPeer peer endPoints proxyaddr).2 = 1 ∧
    ∀ call ∈ after, call ≠ .removePeer peer

/-- A receiver that makes these calls adds the relay, and does not remove it afterwards. -/
def KeepsRelay (calls : List (Call π)) (addrSet : UdpRelayAddrSet) : Prop :=
  ∃ before relayClass now after, calls = before ++ .relays (.add addrSet relayClass now) :: after ∧
    (((machine bandwidths).run new before).addUdpRelay bandwidths addrSet relayClass now).2.isSome ∧
    (machine bandwidths).Along (fun receiver call => ¬receiver.RemovesRelay bandwidths addrSet call)
      ((machine bandwidths).run new (before ++ [.relays (.add addrSet relayClass now)])) after

variable {bandwidths} {calls : List (Call π)}

theorem AddsPeer.hasPeer (h : AddsPeer bandwidths calls peer endPoints proxyaddr) :
  ((machine bandwidths).run new calls).HasPeer peer endPoints proxyaddr
  := by
  obtain ⟨before, after, rfl, hadded, hkeep⟩ := h
  rw [Machine.run_append, Machine.run_cons]
  apply Machine.run_of_step
    (P := fun receiver : RelayingReceiver β π => receiver.HasPeer peer endPoints proxyaddr)
    (fun receiver call h hcall => h.next hcall)
  · exact HasPeer.addUdpPeer hadded
  · exact Machine.along_of_forall_mem hkeep _

theorem KeepsRelay.hasRelay (h : KeepsRelay bandwidths calls addrSet) :
  ((machine bandwidths).run new calls).HasRelay addrSet ∧
    ((machine bandwidths).run new calls).HasRelay addrSet.flippedSet
  := by
  obtain ⟨before, relayClass, now, after, rfl, hadded, hkeep⟩ := h
  rw [Machine.run_append] at hkeep
  rw [Machine.run_append, Machine.run_cons]
  apply Machine.run_of_step
    (P := fun receiver : RelayingReceiver β π =>
      receiver.HasRelay addrSet ∧ receiver.HasRelay addrSet.flippedSet) _ _ hkeep
  · rintro receiver call ⟨h, hflipped⟩ hcall
    refine ⟨h.next hcall, hflipped.next ?_⟩
    intro hremoves
    apply hcall
    have hpair : addrSet.flippedSet.pair = addrSet.pair :=
      UdpRelayAddrSet.pair_eq_iff.2 (.inr rfl)
    cases call with
    | relays input =>
      cases input with
      | remove addrSet' => simpa only [RemovesRelay, hpair] using hremoves
      | check now => simpa only [RemovesRelay, hpair] using hremoves
      | _ => exact hremoves
    | _ => exact hremoves
  · rcases UdpRelayReceiver.addUdpRelay_cases bandwidths
      ((machine bandwidths).run new before).toUdpRelayReceiver addrSet relayClass now with
      ⟨-, hnone, -⟩ | ⟨c, -, -, hadds, -⟩
    · rw [hnone] at hadded
      cases hadded
    · constructor
      · apply Option.isSome_iff_exists.2 ⟨c, _⟩
        exact (hadds.classOf addrSet).trans (if_pos (.inl rfl))
      · apply Option.isSome_iff_exists.2 ⟨c, _⟩
        exact (hadds.classOf addrSet.flippedSet).trans (if_pos (.inr rfl))

theorem not_hasRelay_run (h : ∀ call ∈ calls, ¬AddsRelay addrSet call) :
  ¬((machine bandwidths).run new calls).HasRelay addrSet
  := by
  apply Machine.run_of_step (P := fun receiver : RelayingReceiver β π => ¬receiver.HasRelay addrSet)
    (fun receiver call h hcall => not_hasRelay_next h hcall) _ (Machine.along_of_forall_mem h _)
  exact Bool.false_ne_true

end

end RelayingReceiver

/-! ### The network -/

/-- The receivers, by their addresses. -/
abbrev RelayNetwork (β π : Type) : Type := SockaddrIn → Option (RelayingReceiver β π)

/-- A block that the receiver at `host` gives to a `UdpPeer`. -/
structure Receipt (π : Type) where
  host : SockaddrIn
  peer : π
  data : List UInt8
  deriving DecidableEq

namespace RelayNetwork

variable {β π : Type} (net : RelayNetwork β π)

/-- The datagrams among some effects. -/
def sent (effects : List (RelayEffect π)) : List Datagram :=
  effects.filterMap fun
    | .sendPkt datagram => some datagram
    | .recvPkt _ _ => none

/-- The blocks that are received among some effects. -/
def received (host : SockaddrIn) (effects : List (RelayEffect π)) : List (Receipt π) :=
  effects.filterMap fun
    | .sendPkt _ => none
    | .recvPkt peer data => some ⟨host, peer, data⟩

/-- A datagram arrives at the receiver with its address, if there is one: the network afterwards
and the effects. -/
def deliver (datagram : Datagram) (now : Int) : RelayNetwork β π × List (RelayEffect π) :=
  match net datagram.dest with
  | none => (net, [])
  | some receiver =>
      let result := receiver.recvPkt datagram.data now
      (Function.update net datagram.dest (some result.1), result.2.2)

/-- All datagrams are delivered, in some order, with those that are sent meanwhile.  Then `receipts`
are the blocks that have been received. -/
inductive Delivers : RelayNetwork β π → List Datagram → List (Receipt π) → Prop
  | done (net : RelayNetwork β π) : Delivers net [] []
  | step {net : RelayNetwork β π} {before after : List Datagram} {datagram : Datagram}
      {receipts : List (Receipt π)} (now : Int)
      (h : Delivers (net.deliver datagram now).1
        (before ++ after ++ sent (net.deliver datagram now).2) receipts) :
      Delivers net (before ++ datagram :: after)
        (received datagram.dest (net.deliver datagram now).2 ++ receipts)

/-- What the receiver at `host` does when it sends a block to `dest`, when this is defined. -/
def send (host dest : SockaddrIn) (data : List UInt8) :
    Option (RelayNetwork β π × List Datagram) := do
  let receiver ← net host
  let result ← receiver.sendPkt data dest
  return (Function.update net host (some result.1), sent result.2.2)

/-- The block is not empty, and fits into a packet. -/
def Fits (data : List UInt8) : Prop :=
  1 ≤ data.length ∧ data.length + udpRelayHeaderSize ≤ maxRelayUdpPacketSize

instance (data : List UInt8) : Decidable (Fits data) :=
  inferInstanceAs (Decidable (_ ∧ _))

/-- A block from `a` to `b` that fits is received by the peer at `b`, once, and by nobody else when
its datagrams are delivered.  Of a block that does not fit no datagram is sent. -/
def Transparent (a b : SockaddrIn) (peer : π) (data : List UInt8) : Prop :=
  ∃ after datagrams, net.send a b data = some (after, datagrams) ∧
    if Fits data then
      (∃ receipts, Delivers after datagrams receipts) ∧
        ∀ receipts, Delivers after datagrams receipts → receipts = [⟨b, peer, data⟩]
    else datagrams = []

/-! ### Deliveries -/

@[simp]
theorem sent_sendPkt (datagram : Datagram) :
  sent [(.sendPkt datagram : RelayEffect π)] = [datagram]
  := rfl

@[simp]
theorem received_sendPkt (host : SockaddrIn) (datagram : Datagram) :
  received host [(.sendPkt datagram : RelayEffect π)] = []
  := rfl

@[simp]
theorem sent_recvPkt (peer : π) (data : List UInt8) :
  sent [.recvPkt peer data] = []
  := rfl

@[simp]
theorem received_recvPkt (host : SockaddrIn) (peer : π) (data : List UInt8) :
  received host [.recvPkt peer data] = [⟨host, peer, data⟩]
  := rfl

variable {net} {datagram : Datagram} {receipts : List (Receipt π)}

theorem deliver_eq {receiver : RelayingReceiver β π} (h : net datagram.dest = some receiver)
    (now : Int) :
  net.deliver datagram now =
    (Function.update net datagram.dest (some (receiver.recvPkt datagram.data now).1),
      (receiver.recvPkt datagram.data now).2.2)
  := by
  rw [deliver, h]

/-- Nothing is received when no datagram is under way. -/
theorem delivers_nil_iff :
  Delivers net [] receipts ↔ receipts = []
  := by
  constructor
  · intro h
    generalize hnil : ([] : List Datagram) = datagrams at h
    cases h with
    | done => rfl
    | step now h => simp at hnil
  · rintro rfl
    exact .done net

theorem delivers_singleton_iff :
  Delivers net [datagram] receipts ↔
    ∃ now rest, receipts = received datagram.dest (net.deliver datagram now).2 ++ rest ∧
      Delivers (net.deliver datagram now).1 (sent (net.deliver datagram now).2) rest
  := by
  constructor
  · intro h
    generalize hone : [datagram] = datagrams at h
    cases h with
    | done => cases hone
    | @step net before after datagram' rest now h =>
      rcases before with _ | ⟨first, before⟩
      · cases hone
        exact ⟨now, rest, rfl, h⟩
      · simp at hone
  · rintro ⟨now, rest, rfl, h⟩
    exact @Delivers.step _ _ net [] [] datagram rest now h

/-! ### Transparency -/

/-- The receivers at `a` and `b` have added each other as peers, with the proxy at `r`, which has
added the relay between them.  They may have made any other calls, but the one at `b` has not added
a relay between the same addresses. -/
structure Relayed [DecidableEq π] (bandwidths : Bandwidths β) (a r b : SockaddrIn)
    (peerA peerB : π) : Prop where
  inetA : a.IsInet
  inetB : b.IsInet
  ne : a ≠ b ∧ a ≠ r ∧ b ≠ r
  endA : ∃ calls, net a = some ((RelayingReceiver.machine bandwidths).run .new calls) ∧
    RelayingReceiver.AddsPeer bandwidths calls peerB ⟨a, b⟩ r
  proxy : ∃ calls, net r = some ((RelayingReceiver.machine bandwidths).run .new calls) ∧
    (RelayingReceiver.KeepsRelay bandwidths calls ⟨a, b⟩ ∨
      RelayingReceiver.KeepsRelay bandwidths calls ⟨b, a⟩)
  endB : ∃ calls, net b = some ((RelayingReceiver.machine bandwidths).run .new calls) ∧
    RelayingReceiver.AddsPeer bandwidths calls peerA ⟨b, a⟩ r ∧
    ∀ call ∈ calls, ¬RelayingReceiver.AddsRelay ⟨a, b⟩ call

section

variable {a r b : SockaddrIn} {peer : π} {data : List UInt8} {proxyaddr : SockaddrIn}
  {receiver : RelayingReceiver β π}

theorem delivers_end_iff (hb : net b = some receiver) (ha : a.IsInet) (hinet : b.IsInet)
    (hrelay : ¬receiver.HasRelay ⟨a, b⟩) (hpeer : receiver.mPeers.get? a = some peer)
    (hdata : 1 ≤ data.length) :
  Delivers net [⟨b, relayPacket data (.new ⟨a, b⟩ proxyaddr), stdRelayTtl⟩] receipts ↔
    receipts = [⟨b, peer, data⟩]
  := by
  have heffects : ∀ now, (receiver.recvPkt (relayPacket data (.new ⟨a, b⟩ proxyaddr)) now).2.2 =
      [.recvPkt peer data] := by
    intro now
    rw [RelayingReceiver.recvPkt_of_peer (isUdpRelayPacket_relayPacket data _)
      (extractUdpRelayAddrSet_relayPacket data _ ha hinet) hrelay hpeer, if_pos, drop_relayPacket]
    rw [length_relayPacket]
    omega
  rw [delivers_singleton_iff]
  constructor
  · rintro ⟨now, rest, rfl, hrest⟩
    rw [deliver_eq hb] at hrest ⊢
    rw [heffects, sent_recvPkt, delivers_nil_iff] at hrest
    rw [heffects, received_recvPkt, hrest]
    rfl
  · rintro rfl
    refine ⟨0, [], ?_, ?_⟩
    · rw [deliver_eq hb, heffects, received_recvPkt]
      rfl
    · rw [deliver_eq hb, heffects, sent_recvPkt]
      exact .done _

theorem delivers_proxy_iff {proxy : RelayingReceiver β π} (hr : net r = some proxy)
    (hb : net b = some receiver) (hne : b ≠ r) (ha : a.IsInet) (hinet : b.IsInet)
    (hproxy : proxy.HasRelay ⟨a, b⟩) (hrelay : ¬receiver.HasRelay ⟨a, b⟩)
    (hpeer : receiver.mPeers.get? a = some peer) (hdata : 1 ≤ data.length) :
  Delivers net [⟨r, relayPacket data (.new ⟨a, b⟩ proxyaddr), stdRelayTtl⟩] receipts ↔
    receipts = [⟨b, peer, data⟩]
  := by
  have hdeliver : ∀ now,
      (net.deliver ⟨r, relayPacket data (.new ⟨a, b⟩ proxyaddr), stdRelayTtl⟩ now).2 =
        [.sendPkt ⟨b, relayPacket data (.new ⟨a, b⟩ proxyaddr), stdRelayTtl⟩] := by
    intro now
    rw [deliver_eq hr]
    apply RelayingReceiver.recvPkt_of_hasRelay (isUdpRelayPacket_relayPacket data _)
      (extractUdpRelayAddrSet_relayPacket data _ ha hinet) hproxy
  have hend : ∀ (now : Int) (rest : List (Receipt π)),
      Delivers (net.deliver ⟨r, relayPacket data (.new ⟨a, b⟩ proxyaddr), stdRelayTtl⟩ now).1
        [⟨b, relayPacket data (.new ⟨a, b⟩ proxyaddr), stdRelayTtl⟩] rest ↔
      rest = [⟨b, peer, data⟩] := by
    intro now rest
    apply delivers_end_iff _ ha hinet hrelay hpeer hdata
    rw [deliver_eq hr]
    exact (Function.update_of_ne hne _ _).trans hb
  rw [delivers_singleton_iff]
  constructor
  · rintro ⟨now, rest, rfl, hrest⟩
    rw [hdeliver, sent_sendPkt, hend] at hrest
    rw [hdeliver, received_sendPkt, hrest]
    rfl
  · rintro rfl
    refine ⟨0, [⟨b, peer, data⟩], ?_, ?_⟩
    · rw [hdeliver, received_sendPkt]
      rfl
    · rw [hdeliver, sent_sendPkt, hend]

/-- A block that is sent to a peer leaves as a packet for the proxy, if one is made. -/
theorem send_eq (ha : net a = some receiver) (hpeer : receiver.HasPeer peer ⟨a, b⟩ r)
    (data : List UInt8) :
  net.send a b data =
    (createRelayUdpPacket data maxRelayUdpPacketSize (.new ⟨a, b⟩ r)).map fun packet =>
      (Function.update net a (some { receiver with
          mWriteBytes := RelayingReceiver.counted receiver.mWriteBytes data.length }),
        [⟨r, packet, stdRelayTtl⟩])
  := by
  have hstream : receiver.mStreams.get? b = some (.new ⟨a, b⟩ r) := hpeer.stream
  rw [send, ha]
  simp only [RelayingReceiver.sendPkt, hstream, Option.bind_eq_bind, Option.bind_some]
  cases createRelayUdpPacket data maxRelayUdpPacketSize (.new ⟨a, b⟩ r) with
  | none => rfl
  | some packet => rfl

end

variable [DecidableEq π] {bandwidths : Bandwidths β} {data : List UInt8} {a r b : SockaddrIn}
  {peerA peerB : π}

/-- A block arrives if it fits. -/
theorem Relayed.transparent {net : RelayNetwork β π} (h : net.Relayed bandwidths a r b peerA peerB)
    (hfits : Fits data) :
  net.Transparent a b peerA data
  := by
  obtain ⟨hinetA, hinetB, ⟨hab, har, hbr⟩, ⟨callsA, ha, haddA⟩, ⟨callsR, hr, haddR⟩,
    ⟨callsB, hb, haddB, hnoB⟩⟩ := h
  have hproxy : ((RelayingReceiver.machine bandwidths).run .new callsR).HasRelay ⟨a, b⟩ := by
    rcases haddR with hadd | hadd
    · exact hadd.hasRelay.1
    · exact hadd.hasRelay.2
  have hcreate : createRelayUdpPacket data maxRelayUdpPacketSize (.new ⟨a, b⟩ r) =
      some (relayPacket data (.new ⟨a, b⟩ r)) := by
    obtain ⟨-, hmax⟩ := hfits
    have hsmall : data.length + udpRelayHeaderSize < 2 ^ 31 :=
      hmax.trans_lt (by decide)
    rw [createRelayUdpPacket, if_neg (by omega), if_neg (by omega)]
  have hsend := send_eq ha haddA.hasPeer data
  rw [hcreate, Option.map_some] at hsend
  refine ⟨_, _, hsend, ?_⟩
  rw [if_pos hfits]
  have hdelivers : ∀ (sender : Option (RelayingReceiver β π)) receipts,
      Delivers (Function.update net a sender)
        [⟨r, relayPacket data (.new ⟨a, b⟩ r), stdRelayTtl⟩] receipts ↔
      receipts = [⟨b, peerA, data⟩] := by
    intro sender receipts
    apply delivers_proxy_iff _ _ hbr hinetA hinetB hproxy
      (RelayingReceiver.not_hasRelay_run hnoB) haddB.hasPeer.peer hfits.1
    · exact (Function.update_of_ne har.symm _ _).trans hr
    · exact (Function.update_of_ne hab.symm _ _).trans hb
  constructor
  · exact ⟨_, (hdelivers _ _).2 rfl⟩
  · exact fun receipts => (hdelivers _ receipts).1

/-- Of a block that does not fit a datagram is sent, if the call is defined at all. -/
theorem Relayed.not_transparent {net : RelayNetwork β π}
    (h : net.Relayed bandwidths a r b peerA peerB) (hfits : ¬Fits data) :
  ¬net.Transparent a b peerA data
  := by
  obtain ⟨callsA, ha, haddA⟩ := h.endA
  rintro ⟨after, datagrams, hsend, hnone⟩
  rw [if_neg hfits] at hnone
  rw [send_eq ha haddA.hasPeer, hnone] at hsend
  obtain ⟨packet, -, heq⟩ := Option.map_eq_some_iff.1 hsend
  cases congrArg Prod.snd heq

/-- UDP relaying is transparent for exactly the blocks that fit into a packet. -/
theorem transparent_iff {net : RelayNetwork β π} {bandwidths : Bandwidths β} {a r b : SockaddrIn}
    {peerA peerB : π} (h : net.Relayed bandwidths a r b peerA peerB) (data : List UInt8) :
  net.Transparent a b peerA data ↔ Fits data
  := by
  constructor
  · intro htransparent
    by_contra hfits
    exact h.not_transparent hfits htransparent
  · exact h.transparent

/-! ### An example -/

/-- Two receivers behind a proxy, with the `UdpPeer`s `1` and `2`. -/
def relayedPair : RelayNetwork Unit Nat :=
  let machine := RelayingReceiver.machine UdpRelayReceiver.unitBandwidths
  Function.update (Function.update (Function.update (fun _ => none)
    ⟨2, 1, 1⟩ (some (machine.run .new [.addPeer 2 ⟨⟨2, 1, 1⟩, ⟨2, 2, 2⟩⟩ ⟨2, 3, 3⟩])))
    ⟨2, 3, 3⟩ (some (machine.run .new [.relays (.add ⟨⟨2, 1, 1⟩, ⟨2, 2, 2⟩⟩ 1 0)])))
    ⟨2, 2, 2⟩ (some (machine.run .new [.addPeer 1 ⟨⟨2, 2, 2⟩, ⟨2, 1, 1⟩⟩ ⟨2, 3, 3⟩]))

theorem relayed_relayedPair :
  relayedPair.Relayed UdpRelayReceiver.unitBandwidths ⟨2, 1, 1⟩ ⟨2, 3, 3⟩ ⟨2, 2, 2⟩ 1 2
  := by
  refine ⟨⟨rfl, by decide, by decide⟩, ⟨rfl, by decide, by decide⟩, by decide,
    ⟨_, rfl, [], [], rfl, rfl, ?_⟩, ⟨_, rfl, .inl ⟨[], 1, 0, [], rfl, rfl, trivial⟩⟩,
    ⟨_, rfl, ⟨[], [], rfl, rfl, ?_⟩, ?_⟩⟩
  · rintro call ⟨⟩
  · rintro call ⟨⟩
  · intro call hcall
    rw [List.mem_singleton.1 hcall]
    exact not_false

theorem transparent_iff_relayedPair :
  relayedPair.Relayed UdpRelayReceiver.unitBandwidths ⟨2, 1, 1⟩ ⟨2, 3, 3⟩ ⟨2, 2, 2⟩ 1 2 ∧
    (relayedPair.Transparent ⟨2, 1, 1⟩ ⟨2, 2, 2⟩ 1 [7] ↔ Fits [7])
  := ⟨relayed_relayedPair, transparent_iff relayed_relayedPair [7]⟩

/-- Of a block of 1421 bytes an empty datagram is sent to the proxy. -/
theorem not_transparent_relayedPair :
  relayedPair.Relayed UdpRelayReceiver.unitBandwidths ⟨2, 1, 1⟩ ⟨2, 3, 3⟩ ⟨2, 2, 2⟩ 1 2 ∧
    (relayedPair.send ⟨2, 1, 1⟩ ⟨2, 2, 2⟩ (List.replicate 1421 0)).map Prod.snd =
      some [⟨⟨2, 3, 3⟩, [], 64⟩] ∧
    ¬relayedPair.Transparent ⟨2, 1, 1⟩ ⟨2, 2, 2⟩ 1 (List.replicate 1421 0)
  := by
  have hfits : ¬Fits (List.replicate 1421 0) := by
    rw [Fits, List.length_replicate]
    decide
  refine ⟨relayed_relayedPair, ?_, relayed_relayedPair.not_transparent hfits⟩
  obtain ⟨callsA, ha, haddA⟩ := relayed_relayedPair.endA
  rw [send_eq ha haddA.hasPeer, createRelayUdpPacket, List.length_replicate]
  rfl

end RelayNetwork

end TcpOnUdp
