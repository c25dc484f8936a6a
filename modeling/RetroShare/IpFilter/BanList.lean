import RetroShare.IpFilter.Address
import RetroShare.GRouter.Router

/-!
# The ban list

`p3BanList` of `p3banlist.cc` decides which addresses may connect.  Users add ranges of addresses
to a black list and a white list; the DHT and friends report single addresses, which are kept
apart for each source and condensed into one set; ranges are added by themselves when many
addresses of the set lie in them.

The service is a machine.  Its inputs are the calls it serves and the parts of its tick, each with
the time at which it happens; its events are the lists it sends.
-/

namespace IpFilter

open GRouter (RsPeerId)

/-! ### Entries and tables -/

/-- `BanListPeer`, less `state`, which is always true. -/
structure BanListPeer where
  addr : SockaddrStorage
  maskedBytes : Nat
  reason : BitVec 32
  level : BitVec 32
  connectAttempts : Nat
  ts : Int
  comment : String
  deriving DecidableEq

def reasonUnknown : BitVec 32 := 0

def reasonUser : BitVec 32 := 1

def reasonDht : BitVec 32 := 2

def reasonAutoRange : BitVec 32 := 3

def originUnknown : BitVec 32 := 0

def originSelf : BitVec 32 := 1

def originFriend : BitVec 32 := 2

/-- The constructor of `BanListPeer`. -/
def BanListPeer.init : BanListPeer :=
  ⟨⟨.unspec, 0⟩, 0, reasonUnknown, originUnknown, 0, 0, ""⟩

/-- `BanList`: what one source reports, and when it last reported something new. -/
structure BanList where
  peerId : RsPeerId
  lastUpdate : Int
  banPeers : OrdMap SockaddrStorage BanListPeer
  deriving DecidableEq

/-- `p3BanList`. -/
structure p3BanList where
  sentListTime : Int
  banSources : OrdMap RsPeerId BanList
  banSet : OrdMap IpAddress BanListPeer
  banRanges : OrdMap IpAddress BanListPeer
  whiteListedRanges : OrdMap IpAddress BanListPeer
  lastDhtInfoRequest : Int
  ipFilteringEnabled : Bool
  ipFriendGatheringEnabled : Bool
  ipDHTGatheringEnabled : Bool
  autoRangeLimit : Nat
  autoRangeIps : Bool
  deriving DecidableEq

/-- The constructor of `p3BanList`. -/
def p3BanList.init : p3BanList where
  sentListTime := 0
  banSources := OrdMap.empty
  banSet := OrdMap.empty
  banRanges := OrdMap.empty
  whiteListedRanges := OrdMap.empty
  lastDhtInfoRequest := 0
  ipFilteringEnabled := true
  ipFriendGatheringEnabled := false
  ipDHTGatheringEnabled := false
  autoRangeLimit := 3
  autoRangeIps := true

def entryMaxAge : Int := 60 * 60 * 24

def sendPeriod : Int := 600

def delayBetweenTalkToDht : Int := 240

def checkingFlagsBlacklist : BitVec 32 := 1

def checkingFlagsWhitelist : BitVec 32 := 2

/-- What a check of an address reports besides its verdict. -/
inductive CheckResult
  | nocheck
  | blacklisted
  | notWhitelisted
  | accepted
  deriving DecidableEq

def typeBlacklist : BitVec 32 := 2

def typeWhitelist : BitVec 32 := 3

/-- `RsTlvBanListEntry`. -/
structure RsTlvBanListEntry where
  addr : SockaddrStorage
  level : BitVec 32
  reason : BitVec 32
  age : BitVec 32
  maskedBytes : Nat
  comment : String
  deriving DecidableEq

/-- `RsBanListItem`. -/
structure RsBanListItem where
  peerId : RsPeerId
  peerList : List RsTlvBanListEntry
  deriving DecidableEq

/-- `RsDhtFilteredPeer`, as far as the ban list reads it. -/
structure RsDhtFilteredPeer where
  sAddr : BitVec 32
  sinPort : BitVec 16
  lastSeen : Int
  deriving DecidableEq

namespace p3BanList

variable (s : p3BanList) (ownId : RsPeerId)

/-! ### Condensing the sources -/

/-- `isWhiteListed_locked`. -/
def isWhiteListed (ip : IpAddress) : Bool :=
  (s.whiteListedRanges.get? (makeBitsRange ip 0)).isSome ||
    (s.whiteListedRanges.get? (makeBitsRange ip 1)).isSome ||
    (s.whiteListedRanges.get? (makeBitsRange ip 2)).isSome

/-- The address under which an entry is banned: an `AF_INET` address into which the IP of the entry
is copied. -/
def bannedAddr : IpAddress → IpAddress
  | .unspec => .inet 0
  | ip => ip

/-- The level that condensing gives to an entry of a source: it grows when the entry is from someone
else. -/
def condensedLevel (ownId peer : RsPeerId) (level : BitVec 32) : BitVec 32 :=
  if peer ≠ ownId then level + 1 else level

/-- One entry of a source, in `condenseBanSources_locked`. -/
def condenseEntry (now : Int) (peer : RsPeerId) (set : OrdMap IpAddress BanListPeer)
    (e : BanListPeer) : OrdMap IpAddress BanListPeer :=
  if now > entryMaxAge + e.ts then set
  else
    let lvl := condensedLevel ownId peer e.level
    let key := bannedAddr e.addr.ip
    let bp := { e with level := lvl, maskedBytes := 0, addr := { e.addr with port := 0 } }
    if s.isWhiteListed key then set
    else match set.get? key with
      | none => set.insert key bp
      | some bp' =>
          if lvl < bp'.level then set.insert key bp
          else if lvl = bp'.level then
            set.insert key { bp' with
              reason := bp'.reason ||| e.reason
              ts := if bp'.ts < e.ts then e.ts else bp'.ts }
          else set

/-- One source, in `condenseBanSources_locked`. -/
def condenseSource (now : Int) (set : OrdMap IpAddress BanListPeer) (source : RsPeerId × BanList) : OrdMap IpAddress BanListPeer :=
  if now - source.2.lastUpdate > entryMaxAge then set
  else source.2.banPeers.toList.foldl
    (fun set e => s.condenseEntry ownId now source.1 set e.2) set

/-- `condenseBanSources_locked`. -/
def condenseBanSources (now : Int) : p3BanList :=
  { s with banSet := s.banSources.toList.foldl (s.condenseSource ownId now) OrdMap.empty }

/-! ### What bans -/

/-- `acceptedBanSet_locked`. -/
def acceptedBanSet (blp : BanListPeer) : Bool :=
  if 1 < blp.level && s.ipFriendGatheringEnabled then true
  else if blp.reason = reasonUser then true
  else if blp.reason = reasonDht then s.ipDHTGatheringEnabled && blp.level = 1
  -- shouldn't find an AUTO RANGE in BanSet
  else false

/-- `acceptedBanRanges_locked`. -/
def acceptedBanRanges (blp : BanListPeer) : Bool :=
  if blp.reason = reasonUser then true
  else if blp.reason = reasonAutoRange then s.autoRangeIps
  else false

/-- An entry of `mBanRanges` that `acceptedBanRanges_locked` takes. -/
def bannedRange (key : IpAddress) : Option BanListPeer :=
  (s.banRanges.get? key).filter s.acceptedBanRanges

/-- One more attempt is counted on a range. -/
def attemptRange (key : IpAddress) (blp : BanListPeer) : p3BanList :=
  { s with
    banRanges := s.banRanges.insert key
      { blp with connectAttempts := blp.connectAttempts + 1 } }

/-- `isAddressAccepted`: the verdict, the reported result, and the list after the check. -/
def isAddressAccepted (addr : SockaddrStorage) (checkingFlags : BitVec 32) :
    Bool × CheckResult × p3BanList :=
  if isLoopbackNet addr.ip then (true, .nocheck, s)
  else if !s.ipFilteringEnabled then (true, .nocheck, s)
  else
    let addr32 := makeBitsRange addr.ip 0
    let addr24 := makeBitsRange addr.ip 1
    let addr16 := makeBitsRange addr.ip 2
    if (s.whiteListedRanges.get? addr16).isSome || (s.whiteListedRanges.get? addr24).isSome ||
        (s.whiteListedRanges.get? addr32).isSome then (true, .accepted, s)
    else if checkingFlags &&& checkingFlagsWhitelist ≠ 0 then (false, .notWhitelisted, s)
    else if checkingFlags &&& checkingFlagsBlacklist = 0 then (true, .accepted, s)
    else match s.bannedRange addr16 with
      | some blp => (false, .blacklisted, s.attemptRange addr16 blp)
      | none => match s.bannedRange addr24 with
        | some blp => (false, .blacklisted, s.attemptRange addr24 blp)
        | none => match s.bannedRange addr32 with
          | some blp => (false, .blacklisted, s.attemptRange addr32 blp)
          | none => match (s.banSet.get? addr32).filter s.acceptedBanSet with
            | some blp => (false, .blacklisted,
                { s with
                  banSet := s.banSet.insert addr32
                    { blp with connectAttempts := blp.connectAttempts + 1 } })
            | none => (true, .accepted, s)

/-! ### Ranges -/

/-- `removeIpRange`. -/
def removeIpRange (addr : SockaddrStorage) (maskedBytes : Int) (listType : BitVec 32) (now : Int) : p3BanList :=
  let key := makeBitsRange addr.ip maskedBytes
  let s' :=
    if listType = typeBlacklist then { s with banRanges := s.banRanges.erase key }
    else if listType = typeWhitelist then
      { s with whiteListedRanges := s.whiteListedRanges.erase key }
    else s
  s'.condenseBanSources ownId now

/-- The list with the ranges inside the new one taken out and the new one put in, in
`addIpRange`. -/
def withRange (banlist : OrdMap IpAddress BanListPeer) (ip : IpAddress) (maskedBytes : Nat)
    (blp : BanListPeer) : OrdMap IpAddress BanListPeer :=
  ((List.range maskedBytes).foldl (fun list i => list.erase (makeBitsRange ip i)) banlist).insert
    (makeBitsRange ip maskedBytes) blp

/-- The entry that `addIpRange` stores. -/
def userRange (addr : SockaddrStorage) (maskedBytes : Nat) (comment : String) (now : Int) :
    BanListPeer where
  addr := addr
  maskedBytes := maskedBytes
  reason := reasonUser
  level := originSelf
  connectAttempts := 0
  ts := now
  comment := comment

/-- `addIpRange`. -/
def addIpRange (addr : SockaddrStorage) (maskedBytes : Int) (listType : BitVec 32)
    (comment : String) (now : Int) : p3BanList :=
  -- the comparison is one of unsigned numbers
  if getBitRange addr.ip > maskedBytes % 2 ^ 32 then s
  else if maskedBytes ≠ 0 ∧ maskedBytes ≠ 1 ∧ maskedBytes ≠ 2 then s
  else if listType ≠ typeBlacklist ∧ listType ≠ typeWhitelist then s
  else
    let blp := userRange addr maskedBytes.toNat comment now
    let s' :=
      if listType = typeBlacklist then
        { s with banRanges := withRange s.banRanges addr.ip maskedBytes.toNat blp }
      else
        { s with whiteListedRanges := withRange s.whiteListedRanges addr.ip maskedBytes.toNat blp }
    s'.condenseBanSources ownId now

/-- `range_map` of `autoFigureOutBanRanges`: how many addresses of the set lie in each range with the
last octet masked. -/
def rangeMap {ν : Type} (set : OrdMap IpAddress ν) : OrdMap IpAddress Nat :=
  set.toList.foldl
    (fun map e =>
      let range := makeBitsRange e.1 1
      map.insert range ((map.get? range).getD 0 + 1))
    OrdMap.empty

/-- The entry that `autoFigureOutBanRanges` makes of the one that is there. -/
def autoRange (peer : BanListPeer) (range : IpAddress) (n : Nat) (now : Int) : BanListPeer :=
  { peer with
    addr := ⟨range, 0⟩
    maskedBytes := 1
    reason := reasonAutoRange
    level := originSelf
    ts := now
    connectAttempts := n }

/-- One range of `range_map`, in `autoFigureOutBanRanges`. -/
def figureOutRange (now : Int) (ranges : OrdMap IpAddress BanListPeer) (r : IpAddress × Nat) :
    OrdMap IpAddress BanListPeer :=
  if r.2 ≥ s.autoRangeLimit then
    let peer := (ranges.get? r.1).getD BanListPeer.init
    if peer.reason = reasonUser then ranges
    else ranges.insert r.1 (autoRange peer r.1 r.2 now)
  else ranges

/-- `autoFigureOutBanRanges`. -/
def autoFigureOutBanRanges (now : Int) : p3BanList :=
  let kept := s.banRanges.filter fun _ blp => blp.reason ≠ reasonAutoRange
  if !s.autoRangeIps then { s with banRanges := kept }
  else
    { s with banRanges := (rangeMap s.banSet).toList.foldl (s.figureOutRange now) kept
      }.condenseBanSources ownId now

/-! ### Entries of sources -/

/-- The entry that `addBanEntry` stores over the one that is there. -/
def banEntry (old : BanListPeer) (addr : SockaddrStorage) (level reason : BitVec 32)
    (timeStamp : Int) : BanListPeer :=
  { old with
    addr := addr, reason := reason, level := level, ts := timeStamp, maskedBytes := 0 }

/-- `addBanEntry`: whether something changed, and the list after it. -/
def addBanEntry (peerId : RsPeerId) (addr : SockaddrStorage) (level reason : BitVec 32)
    (timeStamp now : Int) : Bool × p3BanList :=
  if !isExternalNet addr.ip then (false, s)
  else
    let (source, updated) := match s.banSources.get? peerId with
      | some source => (source, false)
      | none => (⟨peerId, now, OrdMap.empty⟩, true)
    let bannedaddr : SockaddrStorage := ⟨addr.ip, 0⟩
    let (source', updated') := match source.banPeers.get? bannedaddr with
      | none =>
          ({ source with
            banPeers := source.banPeers.insert bannedaddr
              (banEntry BanListPeer.init addr level reason timeStamp)
            lastUpdate := now }, true)
      | some blp =>
          if blp.reason ≠ reason ∨ blp.level ≠ level ∨ blp.ts < timeStamp then
            ({ source with
              banPeers := source.banPeers.insert bannedaddr
                (banEntry blp addr level reason timeStamp)
              lastUpdate := now }, true)
          else (source, updated)
    (updated', { s with banSources := s.banSources.insert peerId source' })

/-- `recvBanItem`. -/
def recvBanItem (item : RsBanListItem) (now : Int) : Bool × p3BanList :=
  item.peerList.foldl
    (fun r e =>
      let r' := r.2.addBanEntry item.peerId e.addr e.level e.reason (now - e.age.toNat) now
      (r'.1 || r.1, r'.2))
    (false, s)

/-- The items that wait, one after the other, in `processIncoming`. -/
def recvItems (items : List RsBanListItem) (now : Int) : Bool × p3BanList :=
  items.foldl
    (fun r item =>
      let r' := r.2.recvBanItem item now
      (r'.1 || r.1, r'.2))
    (false, s)

/-- `processIncoming`. -/
def processIncoming (items : List RsBanListItem) (now : Int) : p3BanList :=
  let r := s.recvItems items now
  if r.1 then r.2.condenseBanSources ownId now else r.2

/-- `updatePeer`. -/
def updatePeer (addr : SockaddrStorage) (timeStamp now : Int) : p3BanList :=
  (s.addBanEntry ownId addr originSelf reasonDht timeStamp now).2.condenseBanSources ownId now

/-- `getDhtInfo`.  The time at which an address was last seen is cut to an `int`. -/
def getDhtInfo (filteredPeers : List RsDhtFilteredPeer) (now : Int) :
    p3BanList :=
  (filteredPeers.foldl
    (fun s p => (s.addBanEntry ownId ⟨.inet p.sAddr, p.sinPort⟩ originSelf reasonDht
      (p.lastSeen.bmod (2 ^ 32)) now).2) s).condenseBanSources ownId now

/-! ### Lists sent to friends -/

/-- `toRsTlvBanListEntry`, as `sendBanSet` completes it. -/
def sentEntry (blp : BanListPeer) (now : Int) : RsTlvBanListEntry where
  addr := blp.addr
  level := blp.level
  reason := blp.reason
  age := BitVec.ofInt 32 (now - blp.ts)
  maskedBytes := 0
  comment := ""

/-- `sendBanSet`: only what is our own is shared. -/
def sendBanSet (peerid : RsPeerId) (now : Int) : RsBanListItem where
  peerId := peerid
  peerList := (s.banSet.toList.filter fun e => e.2.level < originFriend).map
    fun e => sentEntry e.2 now

/-- `sendPackets`. -/
def sendPackets (peersConnected : List RsPeerId) (now : Int) : p3BanList × List RsBanListItem :=
  if now - s.sentListTime > sendPeriod then
    ({ s with sentListTime := now }, peersConnected.map (s.sendBanSet · now))
  else (s, [])

/-! ### The tick -/

/-- `tick`. -/
def tick (items : List RsBanListItem) (peersConnected : List RsPeerId)
    (filteredPeers : List RsDhtFilteredPeer) (now : Int) : p3BanList × List RsBanListItem :=
  let (s, sent) := (s.processIncoming ownId items now).sendPackets peersConnected now
  if s.lastDhtInfoRequest + delayBetweenTalkToDht < now then
    let s := { s.getDhtInfo ownId filteredPeers now with lastDhtInfoRequest := now }
    (if s.autoRangeIps then s.autoFigureOutBanRanges ownId now else s, sent)
  else (s, sent)

end p3BanList

/-! ### The machine -/

/-- What the ban list is asked to do. -/
inductive Call
  | addIpRange (addr : SockaddrStorage) (maskedBytes : Int) (listType : BitVec 32)
    (comment : String)
  | removeIpRange (addr : SockaddrStorage) (maskedBytes : Int) (listType : BitVec 32)
  | isAddressAccepted (addr : SockaddrStorage) (checkingFlags : BitVec 32)
  | enableIPFiltering (b : Bool)
  | enableIPsFromFriends (b : Bool)
  | enableIPsFromDHT (b : Bool)
  | enableAutoRange (b : Bool)
  | setAutoRangeLimit (n : Int)
  | updatePeer (addr : SockaddrStorage) (timeStamp : Int)
  | addBanEntry (peerId : RsPeerId) (addr : SockaddrStorage) (level reason : BitVec 32)
    (timeStamp : Int)
  | condenseBanSources
  | autoFigureOutBanRanges
  | processIncoming (items : List RsBanListItem)
  | sendPackets (peersConnected : List RsPeerId)
  | getDhtInfo (filteredPeers : List RsDhtFilteredPeer)
  deriving DecidableEq

/-- A call and the time at which it is made. -/
structure Input where
  now : Int
  call : Call
  deriving DecidableEq

/-- The list after a call, and what is sent. -/
def p3BanList.step (ownId : RsPeerId) (s : p3BanList) (i : Input) :
    p3BanList × List RsBanListItem :=
  match i.call with
  | .addIpRange addr m listType comment => (s.addIpRange ownId addr m listType comment i.now, [])
  | .removeIpRange addr m listType => (s.removeIpRange ownId addr m listType i.now, [])
  | .isAddressAccepted addr flags => ((s.isAddressAccepted addr flags).2.2, [])
  | .enableIPFiltering b => ({ s with ipFilteringEnabled := b }, [])
  | .enableIPsFromFriends b =>
      ({ s with ipFriendGatheringEnabled := b, lastDhtInfoRequest := 0 }, [])
  | .enableIPsFromDHT b => ({ s with ipDHTGatheringEnabled := b, lastDhtInfoRequest := 0 }, [])
  | .enableAutoRange b => ({ s with autoRangeIps := b }.autoFigureOutBanRanges ownId i.now, [])
  | .setAutoRangeLimit n =>
      ({ s with autoRangeLimit := (n % 2 ^ 32).toNat }.autoFigureOutBanRanges ownId i.now, [])
  | .updatePeer addr timeStamp => (s.updatePeer ownId addr timeStamp i.now, [])
  | .addBanEntry peerId addr level reason timeStamp =>
      ((s.addBanEntry peerId addr level reason timeStamp i.now).2, [])
  | .condenseBanSources => (s.condenseBanSources ownId i.now, [])
  | .autoFigureOutBanRanges => (s.autoFigureOutBanRanges ownId i.now, [])
  | .processIncoming items => (s.processIncoming ownId items i.now, [])
  | .sendPackets peersConnected => s.sendPackets peersConnected i.now
  | .getDhtInfo filteredPeers =>
      ({ s.getDhtInfo ownId filteredPeers i.now with lastDhtInfoRequest := i.now }, [])

/-- The ban list of the node `ownId`. -/
def service (ownId : RsPeerId) : Machine p3BanList Input RsBanListItem where
  step := p3BanList.step ownId

/-- The calls that make up a tick, in a given state. -/
def tickCalls (ownId : RsPeerId) (s : p3BanList) (items : List RsBanListItem)
    (peersConnected : List RsPeerId) (filteredPeers : List RsDhtFilteredPeer) (now : Int) :
    List Input :=
  let s := ((s.processIncoming ownId items now).sendPackets peersConnected now).1
  [⟨now, .processIncoming items⟩, ⟨now, .sendPackets peersConnected⟩] ++
    if s.lastDhtInfoRequest + delayBetweenTalkToDht < now then
      ⟨now, .getDhtInfo filteredPeers⟩ ::
        if (s.getDhtInfo ownId filteredPeers now).autoRangeIps then
          [⟨now, .autoFigureOutBanRanges⟩]
        else []
    else []

theorem run_tickCalls (ownId : RsPeerId) (s : p3BanList) (items : List RsBanListItem)
    (peersConnected : List RsPeerId) (filteredPeers : List RsDhtFilteredPeer) (now : Int) :
  (service ownId).run s (tickCalls ownId s items peersConnected filteredPeers now) =
    (s.tick ownId items peersConnected filteredPeers now).1
  := by
  rw [tickCalls, p3BanList.tick]
  split
  case isTrue =>
    split
    case isTrue hauto => simp [Machine.next, service, p3BanList.step, *]
    case isFalse hauto => simp [Machine.next, service, p3BanList.step, *]
  case isFalse => simp [Machine.next, service, p3BanList.step, *]

end IpFilter
