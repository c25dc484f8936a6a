import RetroShare.Ft.Progress
import RetroShare.Ft.Restart
import RetroShare.Serialiser.TlvBase

/-!
# Downloads that survive a restart

What `saveList` writes is loaded as requests that are pending, which are saved again as they are
(`iterate_restart`), and started when they are handled (`Waiting.handle`).  The downloads of a
controller come back exactly when they are `Kept` (`downloads_survive_iff`).  A request that is made before
the controller is activated is not: `saveList` takes the last component off its directory, as if it
were the path of a file, and leaves its strategy as the constructor sets it.
-/

namespace Ft

open Serialiser (ascii)
open RsDirUtil (slash removeTopDir IsDirectory IsComponent)

/-! ### Availability maps -/

namespace CompressedChunkMap

/-- The bits after some of the first `n` have been set. -/
theorem get_foldl_set (p : Nat → Prop) [DecidablePred p] (cmap : CompressedChunkMap) (n : Nat)
    (hn : n ≤ 32 * cmap.map.length) :
  let result := (List.range n).foldl (fun cmap i => if p i then cmap.set i else cmap) cmap
  result.map.length = cmap.map.length ∧
    ∀ j, result.get j = true ↔ j < n ∧ p j ∨ cmap.get j = true
  := by
  induction n with
  | zero => simp
  | succ n ih =>
    obtain ⟨hlength, hget⟩ := ih (by omega)
    simp only [List.range_succ, List.foldl_append, List.foldl_cons, List.foldl_nil]
    by_cases hp : p n
    · rw [if_pos hp, length_set]
      refine ⟨hlength, ?_⟩
      intro j
      rw [get_set_iff, hget, hlength, and_iff_left (by omega)]
      constructor
      · rintro (rfl | ⟨hj, hpj⟩ | hj)
        · exact .inl ⟨Nat.lt_succ_self _, hp⟩
        · exact .inl ⟨hj.trans (Nat.lt_succ_self n), hpj⟩
        · exact .inr hj
      · rintro (⟨hj, hpj⟩ | hj)
        · rcases Nat.lt_succ_iff_lt_or_eq.mp hj with hj | rfl
          · exact .inr (.inl ⟨hj, hpj⟩)
          · exact .inl rfl
        · exact .inr (.inr hj)
    · rw [if_neg hp]
      refine ⟨hlength, ?_⟩
      intro j
      rw [hget]
      apply or_congr_left
      apply and_congr_left
      intro hpj
      have hne : j ≠ n := fun heq => hp (heq ▸ hpj)
      omega

theorem le_getCompressedSize (n : Nat) :
  n ≤ 32 * getCompressedSize n
  := by
  rw [getCompressedSize]
  split <;> omega

theorem ofStates_spec (states : List ChunkState) :
  (ofStates states).map.length = getCompressedSize states.length ∧
    ∀ i, (ofStates states).get i = true ↔ states[i]? = some .done
  := by
  obtain ⟨hlength, hget⟩ := get_foldl_set (fun i => states[i]? = some .done)
    ⟨List.replicate (getCompressedSize states.length) 0⟩ states.length (by
      rw [List.length_replicate]
      apply le_getCompressedSize)
  refine ⟨hlength.trans List.length_replicate, ?_⟩
  intro i
  have hzero : CompressedChunkMap.get ⟨List.replicate (getCompressedSize states.length) 0⟩ i ≠
      true := by
    rw [ne_eq, get_iff, List.getD_eq_getElem?_getD, List.getElem?_replicate]
    split <;> simp
  rw [ofStates, hget, or_iff_left hzero, and_iff_right_iff_imp]
  intro hi
  apply (List.getElem?_eq_some_iff.mp hi).1

/-- Only which chunks are there matters. -/
theorem ofStates_congr {states states' : List ChunkState} (hlength : states.length = states'.length)
    (h : ∀ i : Nat, states[i]? = some ChunkState.done ↔ states'[i]? = some ChunkState.done) :
  ofStates states = ofStates states'
  := by
  rw [ofStates, ofStates, hlength]
  simp only [h]

end CompressedChunkMap

namespace ChunkMap

variable {PeerId : Type} [LinearOrder PeerId] {m m' : ChunkMap PeerId}

theorem tooSmall_getAvailabilityMap_iff (hlength : m.map.length = m'.map.length)
    (hpos : 0 < m.map.length) (hbound : m.map.length < 2 ^ 32) :
  m.TooSmall m'.getAvailabilityMap ↔ 2 ^ 31 ≤ m.map.length
  := by
  rw [TooSmall, getAvailabilityMap, (CompressedChunkMap.ofStates_spec _).1, ← hlength,
    CompressedChunkMap.getCompressedSize, FtController.asInt]
  split <;> split <;> omega

/-- Only the states of the chunks matter. -/
theorem getAvailabilityMap_setAvailabilityMap_congr (h : m.map = m'.map)
    (cmap : CompressedChunkMap) :
  (m.setAvailabilityMap cmap).getAvailabilityMap = (m'.setAvailabilityMap cmap).getAvailabilityMap
  := by
  rw [setAvailabilityMap, setAvailabilityMap]
  by_cases htoo : m.TooSmall cmap
  · have htoo' : m'.TooSmall cmap := by rwa [TooSmall, ← h]
    rw [if_pos htoo, if_pos htoo', getAvailabilityMap, getAvailabilityMap, h]
  · have htoo' : ¬m'.TooSmall cmap := by rwa [TooSmall, ← h]
    rw [if_neg htoo, if_neg htoo', getAvailabilityMap, getAvailabilityMap, h]

theorem getAvailabilityMap_setAvailabilityMap_iff (hlength : m.map.length = m'.map.length)
    (hpos : 0 < m.map.length) (hbound : m.map.length < 2 ^ 32) (hnone : .done ∉ m.map) :
  (m.setAvailabilityMap m'.getAvailabilityMap).getAvailabilityMap = m'.getAvailabilityMap ↔
    m.map.length < 2 ^ 31 ∨ .done ∉ m'.map
  := by
  have hsmall := tooSmall_getAvailabilityMap_iff hlength hpos hbound
  have hnot : ∀ i : Nat, m.map[i]? ≠ some ChunkState.done := by
    intro i hi
    exact hnone (List.mem_of_getElem? hi)
  rw [setAvailabilityMap]
  by_cases htoo : m.TooSmall m'.getAvailabilityMap
  · rw [if_pos htoo, or_iff_right (not_lt.mpr (hsmall.mp htoo))]
    constructor
    · intro heq hdone
      obtain ⟨i, hi⟩ := List.mem_iff_getElem?.mp hdone
      have hget := ((CompressedChunkMap.ofStates_spec m'.map).2 i).mpr hi
      rw [← getAvailabilityMap, ← heq, getAvailabilityMap,
        (CompressedChunkMap.ofStates_spec _).2] at hget
      exact hnot i hget
    · intro hdone
      apply CompressedChunkMap.ofStates_congr hlength
      intro i
      apply iff_of_false (hnot i)
      intro hi
      exact hdone (List.mem_of_getElem? hi)
  · rw [if_neg htoo]
    apply iff_of_true
    · apply CompressedChunkMap.ofStates_congr
      · simp [hlength]
      · intro i
        have hbit := (CompressedChunkMap.ofStates_spec m'.map).2 i
        rw [← getAvailabilityMap] at hbit
        rw [List.getElem?_map]
        by_cases hi : i < m.map.length
        · rw [List.getElem?_range hi, ← hbit]
          simp
        · rw [List.getElem?_eq_none (by simpa using hi), List.getElem?_eq_none (by omega)]
          simp
    · exact .inl (not_le.mp fun h => htoo (hsmall.mpr h))

end ChunkMap

namespace FtController

variable (flags : Nat)

/-- Whether the flag of previous versions is set. -/
theorem networkWide_ne_zero_iff :
  flags &&& rsFileHintsNetworkWide ≠ 0 ↔ flags.testBit 7 = true
  := by
  rw [show rsFileHintsNetworkWide = 2 ^ 7 from rfl, Nat.and_two_pow]
  cases flags.testBit 7 <;> simp

theorem testBit_compatibleFlags :
  (compatibleFlags flags).testBit 7 = false
  := by
  rw [compatibleFlags]
  split
  case isTrue h =>
    rw [networkWide_ne_zero_iff] at h
    simp only [Nat.testBit_or, Nat.testBit_xor, h]
    decide
  case isFalse h =>
    rw [networkWide_ne_zero_iff] at h
    exact Bool.eq_false_iff.mpr h

theorem compatibleFlags_eq_self_iff :
  compatibleFlags flags = flags ↔ flags &&& rsFileHintsNetworkWide = 0
  := by
  constructor
  · intro heq
    by_contra hset
    rw [← ne_eq, networkWide_ne_zero_iff, ← heq, testBit_compatibleFlags] at hset
    cases hset
  · intro hnone
    rw [compatibleFlags, if_neg (not_not.mpr hnone)]

theorem compatibleFlags_compatibleFlags :
  compatibleFlags (compatibleFlags flags) = compatibleFlags flags
  := by
  rw [compatibleFlags_eq_self_iff]
  by_contra hset
  rw [← ne_eq, networkWide_ne_zero_iff, testBit_compatibleFlags] at hset
  cases hset

end FtController

namespace Restart

theorem RsFileTransfer.compatible_compatible {Hash PeerId : Type}
    (item : RsFileTransfer Hash PeerId) :
  item.compatible.compatible = item.compatible
  := by
  simp only [compatible, Ft.FtController.compatibleFlags_compatibleFlags]

/-- The item that is kept for a hash when the items have different ones. -/
theorem get?_loaded {Hash PeerId : Type} [LinearOrder Hash]
    {items : List (RsFileTransfer Hash PeerId)} (hdistinct : (items.map (·.hash)).Nodup)
    {item : RsFileTransfer Hash PeerId} (hitem : item ∈ items) :
  (items.foldl (fun maps item => maps.insert item.hash item.compatible) OrdMap.empty).get?
    item.hash = some item.compatible
  := by
  have hperm := OrdMap.toList_foldl_perm
    (f := fun (maps : OrdMap Hash (RsFileTransfer Hash PeerId)) item =>
      maps.insert item.hash item.compatible) (fun _ _ _ => rfl) hdistinct OrdMap.empty
    fun _ _ => rfl
  rw [← OrdMap.mem_toList, hperm.mem_iff]
  apply List.mem_append_right
  exact List.mem_map.mpr ⟨item, hitem, rfl⟩

variable {Hash PeerId : Type} [LinearOrder Hash] [LinearOrder PeerId]
  {env : Surroundings Hash PeerId}

namespace FtController

variable {c : FtController Hash PeerId} {items : List (RsFileTransfer Hash PeerId)}

/-! ### Loading -/

/-- The file of an item can be requested. -/
def Loadable (env : Surroundings Hash PeerId) (item : RsFileTransfer Hash PeerId) : Prop :=
  ValidSize item.filesize ∧ env.alreadyHaveFile item.hash = false

/-- As long as the controller is not active, all items go to the requests and the chunk maps that
are pending. -/
theorem loadList_eq (hactive : c.mFtActive = false) (hnone : c.mDownloads = .empty)
    (hitems : ∀ item ∈ items, Loadable env item) :
  c.loadList env items =
    { c with
      mPendingRequests := c.mPendingRequests ++ items.map fun item => item.compatible.request
      mPendingChunkMaps :=
        items.foldl (fun maps item => maps.insert item.hash item.compatible)
          c.mPendingChunkMaps }
  := by
  induction items generalizing c with
  | nil => simp [loadList]
  | cons item items ih =>
    rw [List.forall_mem_cons] at hitems
    obtain ⟨⟨hsize, hhave⟩, hrest⟩ := hitems
    have hstep : c.loadTransfer env item =
        { c with
          mPendingRequests := c.mPendingRequests ++ [item.compatible.request]
          mPendingChunkMaps := c.mPendingChunkMaps.insert item.hash item.compatible } := by
      have hrequest : c.fileRequest env item.compatible.request =
          { c with mPendingRequests := c.mPendingRequests ++ [item.compatible.request] } := by
        rw [fileRequest, if_neg, if_pos (by simp [hactive])]
        rintro (h | h)
        · rw [RsFileTransfer.request, RsFileTransfer.compatible, hhave] at h
          cases h
        · exact h hsize
      rw [loadTransfer, hrequest, hnone]
      rfl
    rw [loadList, List.foldl_cons, hstep, ← loadList, ih (by exact hactive) (by exact hnone)
      hrest]
    simp

theorem saveList_loadList (hitems : ∀ item ∈ items, Loadable env item)
    (hdistinct : (items.map (·.hash)).Nodup)
    (hpeers : ∀ item ∈ items, ∀ id ∈ item.allPeerIds, env.isTurtlePeer id = false) :
  (new.loadList env items).saveList env = items.map (·.compatible)
  := by
  rw [loadList_eq rfl rfl hitems, saveList]
  simp only [new, List.nil_append, List.map_map]
  apply List.map_congr_left
  intro item hitem
  have hget : (items.foldl (fun maps item => maps.insert item.hash item.compatible)
      OrdMap.empty).get? item.compatible.hash = some item.compatible := get?_loaded hdistinct hitem
  have hpending : item.compatible.allPeerIds.filter (fun id => !env.isTurtlePeer id) =
      item.compatible.allPeerIds := by
    rw [List.filter_eq_self]
    intro id hid
    rw [hpeers item hitem id hid]
    rfl
  simp only [Function.comp_apply, savePending, RsFileTransfer.request, hget, Option.getD_some,
    hpending]

/-- However often a controller is started anew, it has loaded what was saved first. -/
theorem iterate_restart (hitems : ∀ item ∈ c.saveList env, Loadable env item)
    (hdistinct : ((c.saveList env).map (·.hash)).Nodup) (n : Nat) :
  (restart env)^[n + 1] c = new.loadList env (c.saveList env)
  := by
  have hpeers : ∀ item ∈ c.saveList env, ∀ id ∈ item.allPeerIds, env.isTurtlePeer id = false := by
    intro item hitem id hid
    rw [saveList, List.mem_append, List.mem_map, List.mem_map] at hitem
    rcases hitem with ⟨f, -, rfl⟩ | ⟨req, -, rfl⟩
    · simpa using (List.mem_filter.mp hid).2
    · simpa using (List.mem_filter.mp hid).2
  have hagain : ∀ (items : List (RsFileTransfer Hash PeerId)) (c : FtController Hash PeerId),
      c.loadList env (items.map (·.compatible)) = c.loadList env items := by
    intro items c
    simp only [loadList, List.foldl_map, loadTransfer,
      RsFileTransfer.compatible_compatible]
    rfl
  induction n with
  | zero => rfl
  | succ n ih =>
    rw [Function.iterate_succ_apply', ih, restart, saveList_loadList hitems hdistinct hpeers,
      hagain]

/-! ### Handling the requests -/

end FtController

/-- The download of an item that has been loaded, when its request has been handled. -/
def RsFileTransfer.started (env : Surroundings Hash PeerId) (item : RsFileTransfer Hash PeerId) :
    FtFileControl Hash PeerId :=
  { (FtController.new.newDownload env item.request).withMap item.compressedChunkMap
      item.chunkStrategy with mState := item.state }

namespace FtController

variable {c : FtController Hash PeerId} {items : List (RsFileTransfer Hash PeerId)}
  {item : RsFileTransfer Hash PeerId}

/-- The requests of the items are pending, and so are their chunk maps. -/
structure Waiting (env : Surroundings Hash PeerId) (c : FtController Hash PeerId)
    (items : List (RsFileTransfer Hash PeerId)) : Prop where
  active : c.mFtActive
  requests : c.mPendingRequests = items.map RsFileTransfer.request
  distinct : (items.map (·.hash)).Nodup
  loadable : ∀ item ∈ items, Loadable env item
  none : ∀ item ∈ items, c.mDownloads.get? item.hash = none
  maps : ∀ item ∈ items, c.mPendingChunkMaps.get? item.hash = some item

/-- Handling the request of the first item starts its download. -/
theorem Waiting.next (h : c.Waiting env (item :: items)) :
  (c.handleAPendingRequest env).Waiting env items ∧
    ∀ hash, (c.handleAPendingRequest env).mDownloads.get? hash =
      if hash = item.hash then some (item.started env) else c.mDownloads.get? hash
  := by
  obtain ⟨hsize, hhave⟩ := h.loadable item List.mem_cons_self
  have hnone := h.none item List.mem_cons_self
  have hmap := h.maps item List.mem_cons_self
  have hdistinct := h.distinct
  rw [List.map_cons, List.nodup_cons] at hdistinct
  have hne : ∀ item' ∈ items, item'.hash ≠ item.hash :=
    fun item' hitem' heq => hdistinct.1 (List.mem_map.mpr ⟨item', hitem', heq⟩)
  have hrequest :
      { c with mPendingRequests := items.map RsFileTransfer.request }.fileRequest env item.request =
      { c with
        mPendingRequests := items.map RsFileTransfer.request
        queue := c.queue ++ [item.hash]
        mDownloads := c.mDownloads.insert item.hash (c.newDownload env item.request) } := by
    rw [fileRequest, if_neg, if_neg (by simp [h.active])]
    · simp only [RsFileTransfer.request, hnone]
      rfl
    · rintro (hhave' | hsize')
      · rw [RsFileTransfer.request, hhave] at hhave'
        cases hhave'
      · exact hsize' hsize
  have hstep : c.handleAPendingRequest env =
      { c with
        mPendingRequests := items.map RsFileTransfer.request
        queue := c.queue ++ [item.hash]
        mDownloads := (c.mDownloads.insert item.hash (c.newDownload env item.request)).insert
          item.hash (item.started env)
        mPendingChunkMaps := c.mPendingChunkMaps.erase item.hash } := by
    rw [handleAPendingRequest, h.requests, List.map_cons]
    dsimp only
    rw [hrequest, restoreChunkMap]
    simp only [RsFileTransfer.request, hmap, OrdMap.get?_insert_self]
    rfl
  have hget : ∀ hash, (c.handleAPendingRequest env).mDownloads.get? hash =
      if hash = item.hash then some (item.started env) else c.mDownloads.get? hash := by
    intro hash
    rw [hstep, OrdMap.get?_insert, OrdMap.get?_insert]
    split <;> rfl
  refine ⟨⟨?_, ?_, hdistinct.2, ?_, ?_, ?_⟩, hget⟩
  · rw [hstep]
    exact h.active
  · rw [hstep]
  · intro item' hitem'
    exact h.loadable item' (List.mem_cons_of_mem _ hitem')
  · intro item' hitem'
    rw [hget, if_neg (hne item' hitem')]
    exact h.none item' (List.mem_cons_of_mem _ hitem')
  · intro item' hitem'
    rw [hstep]
    dsimp only
    rw [OrdMap.get?_erase, if_neg (hne item' hitem')]
    exact h.maps item' (List.mem_cons_of_mem _ hitem')

theorem Waiting.handle (h : c.Waiting env items) :
  (∀ item ∈ items,
    (c.handlePendingRequests env).mDownloads.get? item.hash = some (item.started env)) ∧
  ∀ hash, (∀ item ∈ items, item.hash ≠ hash) →
    (c.handlePendingRequests env).mDownloads.get? hash = c.mDownloads.get? hash
  := by
  induction items generalizing c with
  | nil =>
    rw [handlePendingRequests, h.requests]
    simp
  | cons item items ih =>
    obtain ⟨hnext, hget⟩ := h.next
    obtain ⟨hstarted, hother⟩ := ih hnext
    have hsplit : c.handlePendingRequests env =
        (c.handleAPendingRequest env).handlePendingRequests env := by
      rw [handlePendingRequests, handlePendingRequests, h.requests, hnext.requests,
        List.map_cons, List.foldl_cons]
    have hdistinct := h.distinct
    rw [List.map_cons, List.nodup_cons] at hdistinct
    rw [hsplit]
    refine ⟨?_, ?_⟩
    · intro item' hitem'
      rcases List.mem_cons.mp hitem' with rfl | hitem'
      · rw [hother, hget, if_pos rfl]
        intro item'' hitem'' heq
        exact hdistinct.1 (List.mem_map.mpr ⟨item'', hitem'', heq⟩)
      · exact hstarted item' hitem'
    · intro hash hne
      rw [List.forall_mem_cons] at hne
      rw [hother hash hne.2, hget, if_neg hne.1.symm]

/-- What is saved is started again, however often the controller is started anew before it is
activated. -/
theorem get?_restarted (hitems : ∀ item ∈ c.saveList env, Loadable env item)
    (hdistinct : ((c.saveList env).map (·.hash)).Nodup) (n : Nat) (hitem : item ∈ c.saveList env) :
  (((restart env)^[n + 1] c).activate.handlePendingRequests env).mDownloads.get? item.hash =
    some (item.compatible.started env)
  := by
  rw [iterate_restart hitems hdistinct, loadList_eq rfl rfl hitems]
  have hwaiting : Waiting env (activate { new with
      mPendingRequests := (new : FtController Hash PeerId).mPendingRequests ++
        (c.saveList env).map fun item => item.compatible.request
      mPendingChunkMaps := (c.saveList env).foldl
        (fun maps item => maps.insert item.hash item.compatible) new.mPendingChunkMaps })
      ((c.saveList env).map RsFileTransfer.compatible) := by
    constructor
    case active => rfl
    case requests => simp [activate, new]
    case distinct =>
      rw [List.map_map]
      exact hdistinct
    case loadable =>
      rw [List.forall_mem_map]
      exact hitems
    case none =>
      intro _ _
      rfl
    case maps =>
      rw [List.forall_mem_map]
      intro item hitem
      exact get?_loaded hdistinct hitem
  exact hwaiting.handle.1 _ (List.mem_map_of_mem hitem)

end FtController

/-! ### What survives -/

/-- What there is to see of a download, apart from its sources. -/
structure Transfer (Hash : Type) where
  name : List UInt8
  hash : Hash
  size : Nat
  flags : Nat
  destination : List UInt8
  paused : Bool
  chunkStrategy : ChunkStrategy
  availabilityMap : CompressedChunkMap
  deriving DecidableEq

attribute [ext] Transfer

def FtFileControl.transfer (f : FtFileControl Hash PeerId) : Transfer Hash where
  name := f.mName
  hash := f.mHash
  size := f.mSize
  flags := f.mFlags
  destination := f.mDestination
  paused := f.mState = .paused
  chunkStrategy := f.chunkMap.strategy
  availabilityMap := f.chunkMap.getAvailabilityMap

/-- A download of a controller: one that has been started, whatever its state is, or a request that
is pending, with the item that holds its chunk map if it has been loaded. -/
inductive Download (Hash PeerId : Type) [LinearOrder PeerId]
  | running (f : FtFileControl Hash PeerId)
  | pending (req : FtPendingRequest Hash PeerId) (rsft : Option (RsFileTransfer Hash PeerId))

namespace Download

def hash : Download Hash PeerId → Hash
  | running f => f.mHash
  | pending req _ => req.mHash

def flags : Download Hash PeerId → Nat
  | running f => f.mFlags
  | pending req _ => req.mFlags

def sources : Download Hash PeerId → List PeerId
  | running f => f.mFileSources
  | pending req _ => req.mSrcIds

/-- What a download is, or what a request asks for: with the default strategy and nothing of the
file, or with what its item holds. -/
def transfer (env : Surroundings Hash PeerId) : Download Hash PeerId → Transfer Hash
  | running f => f.transfer
  | pending req rsft =>
      let chunkMap : ChunkMap PeerId := .new req.mSize (isCache req.mFlags)
      { name := req.mName
        hash := req.mHash
        size := req.mSize
        flags := req.mFlags
        destination := env.destination req.mDest req.mName
        paused := (rsft.elim req.mState (·.state)) = .paused
        chunkStrategy := rsft.elim env.mDefaultChunkStrategy (·.chunkStrategy)
        availabilityMap :=
          (rsft.elim chunkMap
            fun rsft => chunkMap.setAvailabilityMap rsft.compressedChunkMap).getAvailabilityMap }

/-- The item that is written for a download. -/
def item (env : Surroundings Hash PeerId) : Download Hash PeerId → RsFileTransfer Hash PeerId
  | running f => f.save env
  | pending req rsft =>
      let rft := rsft.getD req.newItem
      { rft with allPeerIds := rft.allPeerIds.filter fun id => !env.isTurtlePeer id }

/-- The sizes are those that `FileRequest` lets through, and the chunk map is that of the file. -/
def WellFormed : Download Hash PeerId → Prop
  | running f => FtController.ValidSize f.mSize ∧ f.chunkMap.map.length = chunksOf f.mSize
  | pending req rsft => FtController.ValidSize req.mSize ∧
      ∀ r ∈ rsft, r.hash = req.mHash ∧ FtController.ValidSize r.filesize

/-- The file is not there already, and the sources that are saved may be downloaded from. -/
def Available (env : Surroundings Hash PeerId) (d : Download Hash PeerId) : Prop :=
  env.alreadyHaveFile d.hash = false ∧ ∀ id ∈ (d.item env).allPeerIds, env.mayDownload id = true

/-- The controller has the download, with its sources and those that a search has found. -/
def Restored (env : Surroundings Hash PeerId) (d : Download Hash PeerId)
    (c : FtController Hash PeerId) : Prop :=
  ∃ f, c.mDownloads.get? d.hash = some f ∧ f.transfer = d.transfer env ∧
    ∀ id, env.isTurtlePeer id = false →
      (id ∈ f.mFileSources ↔ id ∈ d.sources ∨ id ∈ env.found d.hash d.flags)

/-- The destination is a name in a directory that `removeTopDir` gives back, or in the one for all
downloads if it gives nothing back. -/
def KeepsDestination (env : Surroundings Hash PeerId) (f : FtFileControl Hash PeerId) : Prop :=
  ∃ dir, f.mDestination = dir ++ slash :: f.mName ∧
    (IsDirectory dir ∧ IsComponent f.mName ∨
      removeTopDir f.mDestination = [] ∧ dir = env.mDownloadPath)

/-- The condition for a download to survive.  The flag of previous versions is not set, and: the
destination of a download that has been started can be split, and nothing of its file is there if it
has too many chunks for an `int`; a request that was never loaded goes to the directory for all
downloads, and streaming is the default strategy; the item of a loaded request holds what the
request asks for. -/
def Kept (env : Surroundings Hash PeerId) : Download Hash PeerId → Prop
  | running f =>
      f.mFlags &&& rsFileHintsNetworkWide = 0 ∧ KeepsDestination env f ∧
        (f.chunkMap.map.length < 2 ^ 31 ∨ .done ∉ f.chunkMap.map)
  | pending req none =>
      req.mFlags &&& rsFileHintsNetworkWide = 0 ∧
        (req.mDest = [] ∨ removeTopDir req.mDest = [] ∧ req.mDest = env.mDownloadPath) ∧
        env.mDefaultChunkStrategy = .streaming
  | pending req (some rsft) =>
      rsft.name = req.mName ∧ rsft.filesize = req.mSize ∧
        Ft.FtController.compatibleFlags rsft.flags = req.mFlags ∧
        env.directory rsft.path = env.directory req.mDest ∧
        ∀ id, env.isTurtlePeer id = false → id ∉ env.found req.mHash req.mFlags →
          (id ∈ rsft.allPeerIds ↔ id ∈ req.mSrcIds)

theorem chunksOf_bounds {size : Nat} (h : FtController.ValidSize size) :
  0 < chunksOf size ∧ chunksOf size < 2 ^ 32
  := by
  obtain ⟨hpos, hlt⟩ := h
  rw [CompressedChunkMap.chunksOf_eq]
  by_cases hrem : size % chunkSize = 0
  · rw [if_pos hrem]
    simp only [chunkSize] at hrem ⊢
    omega
  · rw [if_neg hrem]
    simp only [chunkSize]
    omega

omit [LinearOrder Hash] in
theorem destination_eq_iff (f : FtFileControl Hash PeerId) :
  env.destination (removeTopDir f.mDestination) f.mName = f.mDestination ↔ KeepsDestination env f
  := by
  rw [Surroundings.destination, Surroundings.directory]
  constructor
  case mp =>
    intro heq
    refine ⟨_, heq.symm, ?_⟩
    by_cases hnil : removeTopDir f.mDestination = []
    · exact .inr ⟨hnil, if_pos hnil⟩
    · rw [if_neg hnil] at heq ⊢
      apply Or.inl
      rw [← RsDirUtil.removeTopDir_append_iff, heq]
      exact ⟨hnil, rfl⟩
  case mpr =>
    rintro ⟨dir, heq, h | ⟨hnil, hdir⟩⟩
    · rw [← RsDirUtil.removeTopDir_append_iff, ← heq] at h
      rw [h.2, if_neg h.1, heq]
    · rw [if_pos hnil, ← hdir, heq]

omit [LinearOrder Hash] [LinearOrder PeerId] in
theorem directory_eq_iff (dest : List UInt8) :
  env.directory (removeTopDir dest) = env.directory dest ↔
    dest = [] ∨ removeTopDir dest = [] ∧ dest = env.mDownloadPath
  := by
  rw [Surroundings.directory, Surroundings.directory]
  by_cases hdest : dest = []
  · subst hdest
    simp [removeTopDir]
  · have hlt := RsDirUtil.length_removeTopDir_lt hdest
    rw [if_neg hdest, or_iff_right hdest]
    by_cases hnil : removeTopDir dest = []
    · rw [if_pos hnil, and_iff_right hnil, eq_comm]
    · rw [if_neg hnil]
      apply iff_of_false
      · intro heq
        rw [heq] at hlt
        exact lt_irrefl _ hlt
      · intro h
        exact hnil h.1

theorem mem_started {item : RsFileTransfer Hash PeerId}
    (h : ∀ id ∈ item.allPeerIds, env.mayDownload id = true) (id : PeerId) :
  id ∈ (item.started env).mFileSources ↔
    id ∈ item.allPeerIds ∨ id ∈ env.found item.hash item.flags
  := by
  have hpermitted : item.request.permitted env = item.allPeerIds := by
    rw [FtPendingRequest.permitted]
    split
    · rfl
    · apply List.filter_eq_self.mpr h
  change id ∈ (item.request.permitted env ++ env.found item.hash item.flags).dedup ↔ _
  rw [List.mem_dedup, List.mem_append, hpermitted]

variable (d : Download Hash PeerId)

theorem paused_transfer :
  ((d.item env).compatible.started env).transfer.paused = (d.transfer env).paused
  := by
  rcases d with f | ⟨req, _ | rsft⟩ <;> rfl

theorem transfer_started_eq_iff :
  ((d.item env).compatible.started env).transfer = d.transfer env ↔
    (d.item env).name = (d.transfer env).name ∧ (d.item env).hash = (d.transfer env).hash ∧
    (d.item env).filesize = (d.transfer env).size ∧
    (d.item env).compatible.flags = (d.transfer env).flags ∧
    env.destination (d.item env).path (d.item env).name = (d.transfer env).destination ∧
    (d.item env).chunkStrategy = (d.transfer env).chunkStrategy ∧
    ((ChunkMap.new (d.item env).filesize false : ChunkMap PeerId).setAvailabilityMap
      (d.item env).compressedChunkMap).getAvailabilityMap = (d.transfer env).availabilityMap
  := by
  have hmap : ((d.item env).compatible.started env).transfer.availabilityMap =
      ((ChunkMap.new (d.item env).filesize false : ChunkMap PeerId).setAvailabilityMap
        (d.item env).compressedChunkMap).getAvailabilityMap := by
    apply ChunkMap.getAvailabilityMap_setAvailabilityMap_congr
    rfl
  rw [Transfer.ext_iff, paused_transfer, hmap, eq_self_iff_true, true_and]
  rfl

omit [LinearOrder Hash] [LinearOrder PeerId] in
theorem mem_filter_isTurtlePeer {id : PeerId} (hid : env.isTurtlePeer id = false)
    (ids : List PeerId) :
  id ∈ ids.filter (fun id => !env.isTurtlePeer id) ↔ id ∈ ids
  := by
  rw [List.mem_filter, hid]
  apply and_iff_left rfl

/-- The controller has the download that its item starts. -/
def Restarted (env : Surroundings Hash PeerId) (d : Download Hash PeerId) : Prop :=
  ((d.item env).compatible.started env).transfer = d.transfer env ∧
    ∀ id, env.isTurtlePeer id = false →
      (id ∈ (d.item env).allPeerIds ∨
        id ∈ env.found (d.item env).hash (d.item env).compatible.flags ↔
          id ∈ d.sources ∨ id ∈ env.found d.hash d.flags)

theorem restored_iff_restarted {d : Download Hash PeerId} {c : FtController Hash PeerId}
    (havail : d.Available env)
    (hget : c.mDownloads.get? d.hash = some ((d.item env).compatible.started env)) :
  d.Restored env c ↔ d.Restarted env
  := by
  have hsources := @mem_started _ _ _ _ env (d.item env).compatible havail.2
  simp only [Restored, hget, Option.some.injEq, exists_eq_left', hsources]
  rfl

/-- A download that has been started. -/
theorem restarted_running_iff {f : FtFileControl Hash PeerId}
    (hd : (running f : Download Hash PeerId).WellFormed) :
  (running f).Restarted env ↔ (running f).Kept env
  := by
  obtain ⟨hvalid, hlength⟩ := hd
  have hchunks := chunksOf_bounds hvalid
  have hnew := @ChunkMap.length_new PeerId _ f.mSize false
  have hnone : ChunkState.done ∉ (ChunkMap.new f.mSize false : ChunkMap PeerId).map := by
    intro hmem
    cases List.eq_of_mem_replicate hmem
  have hmap := ChunkMap.getAvailabilityMap_setAvailabilityMap_iff (hnew.trans hlength.symm)
    (hnew ▸ hchunks.1) (hnew ▸ hchunks.2) hnone
  rw [hnew, ← hlength] at hmap
  rw [Restarted, transfer_started_eq_iff, Kept, and_iff_left_of_imp]
  · simp only [item, FtFileControl.save, RsFileTransfer.compatible, transfer,
      FtFileControl.transfer, true_and, Ft.FtController.compatibleFlags_eq_self_iff,
      destination_eq_iff, hmap]
  · rintro ⟨-, -, -, hflags, -⟩ id hid
    apply or_congr (mem_filter_isTurtlePeer hid f.mFileSources)
    rw [hflags]
    rfl

theorem restarted_requested_iff (req : FtPendingRequest Hash PeerId) :
  (pending req none).Restarted env ↔ (pending req none).Kept env
  := by
  have hmap : (ChunkMap.new req.mSize false : ChunkMap PeerId).setAvailabilityMap ⟨[]⟩ =
      .new req.mSize false := by
    rw [ChunkMap.setAvailabilityMap, if_pos]
    apply lt_or_ge
  have hnew : (ChunkMap.new req.mSize (isCache req.mFlags) : ChunkMap PeerId).getAvailabilityMap =
      (ChunkMap.new req.mSize false : ChunkMap PeerId).getAvailabilityMap := rfl
  rw [Restarted, transfer_started_eq_iff, Kept, and_iff_left_of_imp]
  · simp only [item, FtPendingRequest.newItem, RsFileTransfer.compatible, transfer,
      Option.getD_none, Option.elim_none, true_and, hmap, hnew, and_true,
      Ft.FtController.compatibleFlags_eq_self_iff, Surroundings.destination,
      List.append_left_inj, directory_eq_iff, @eq_comm _ ChunkStrategy.streaming]
  · rintro ⟨-, -, -, hflags, -⟩ id hid
    apply or_congr ((mem_filter_isTurtlePeer hid _).trans List.mem_dedup)
    rw [hflags]
    rfl

theorem restarted_loaded_iff {req : FtPendingRequest Hash PeerId}
    {rsft : RsFileTransfer Hash PeerId} (hhash : rsft.hash = req.mHash) :
  (pending req (some rsft)).Restarted env ↔ (pending req (some rsft)).Kept env
  := by
  have hmap : rsft.filesize = req.mSize →
      ((ChunkMap.new rsft.filesize false : ChunkMap PeerId).setAvailabilityMap
        rsft.compressedChunkMap).getAvailabilityMap =
      ((ChunkMap.new req.mSize (isCache req.mFlags) : ChunkMap PeerId).setAvailabilityMap
        rsft.compressedChunkMap).getAvailabilityMap := by
    intro hsize
    apply ChunkMap.getAvailabilityMap_setAvailabilityMap_congr
    rw [hsize]
    rfl
  have hsources (hflags : Ft.FtController.compatibleFlags rsft.flags = req.mFlags) (id : PeerId)
      (hid : env.isTurtlePeer id = false) :
      (id ∈ rsft.allPeerIds.filter (fun id => !env.isTurtlePeer id) ∨
        id ∈ env.found rsft.hash (Ft.FtController.compatibleFlags rsft.flags) ↔
          id ∈ req.mSrcIds ∨ id ∈ env.found req.mHash req.mFlags) ↔
      (id ∉ env.found req.mHash req.mFlags → (id ∈ rsft.allPeerIds ↔ id ∈ req.mSrcIds)) := by
    rw [hhash, hflags, mem_filter_isTurtlePeer hid]
    tauto
  rw [Restarted, transfer_started_eq_iff, Kept]
  constructor
  case mp =>
    rintro ⟨⟨hname, -, hsize, hflags, hdest, -, -⟩, hids⟩
    refine ⟨hname, hsize, hflags, ?_, ?_⟩
    · apply (List.append_left_inj (slash :: req.mName)).mp
      change env.directory rsft.path ++ slash :: rsft.name = _ at hdest
      have hname' : rsft.name = req.mName := hname
      rw [hname'] at hdest
      exact hdest
    · intro id hid
      exact (hsources hflags id hid).mp (hids id hid)
  case mpr =>
    rintro ⟨hname, hsize, hflags, hdirectory, hids⟩
    refine ⟨⟨hname, hhash, hsize, hflags, ?_, rfl, hmap hsize⟩, ?_⟩
    · change env.directory rsft.path ++ slash :: rsft.name = _
      rw [hdirectory, hname]
      rfl
    · intro id hid
      exact (hsources hflags id hid).mpr (hids id hid)

end Download

namespace FtController

/-- The downloads of a controller, less the cache files that have been started. -/
def downloads (c : FtController Hash PeerId) : List (Download Hash PeerId) :=
  ((c.mDownloads.toList.map Prod.snd).filter fun f => !isCache f.mFlags).map .running ++
    c.mPendingRequests.map fun req => .pending req (c.mPendingChunkMaps.get? req.mHash)

/-- The downloads have different hashes, and all of them are well-formed. -/
structure WellFormed (c : FtController Hash PeerId) : Prop where
  distinct : (c.downloads.map (·.hash)).Nodup
  downloads : ∀ d ∈ c.downloads, d.WellFormed

theorem saveList_eq (env : Surroundings Hash PeerId) (c : FtController Hash PeerId) :
  c.saveList env = c.downloads.map (·.item env)
  := by
  rw [saveList, downloads, List.map_append, List.map_map, List.map_map]
  rfl

theorem WellFormed.restored_iff {c : FtController Hash PeerId} (h : c.WellFormed)
    (havail : ∀ d ∈ c.downloads, d.Available env) (n : Nat) {d : Download Hash PeerId}
    (hd : d ∈ c.downloads) :
  d.Restored env (((restart env)^[n + 1] c).activate.handlePendingRequests env) ↔ d.Kept env
  := by
  have hhash : ∀ d ∈ c.downloads, (d.item env).hash = d.hash := by
    intro d hd
    have hwell := h.downloads d hd
    rcases d with f | ⟨req, _ | rsft⟩
    · rfl
    · rfl
    · exact (hwell.2 rsft rfl).1
  have hloadable : ∀ item ∈ c.saveList env, Loadable env item := by
    rw [saveList_eq, List.forall_mem_map]
    intro d hd
    have hwell := h.downloads d hd
    refine ⟨?_, ?_⟩
    · rcases d with f | ⟨req, _ | rsft⟩
      · exact hwell.1
      · exact hwell.1
      · exact (hwell.2 rsft rfl).2
    · rw [hhash d hd]
      exact (havail d hd).1
  have hdistinct : ((c.saveList env).map (·.hash)).Nodup := by
    have hmap : (c.saveList env).map (·.hash) = c.downloads.map (·.hash) := by
      rw [saveList_eq, List.map_map]
      exact List.map_congr_left hhash
    rw [hmap]
    exact h.distinct
  have hitem : d.item env ∈ c.saveList env := by
    rw [saveList_eq]
    exact List.mem_map_of_mem hd
  have hget := get?_restarted hloadable hdistinct n hitem
  rw [hhash d hd] at hget
  rw [Download.restored_iff_restarted (havail d hd) hget]
  have hwell := h.downloads d hd
  rcases d with f | ⟨req, _ | rsft⟩
  · exact Download.restarted_running_iff hwell
  · exact Download.restarted_requested_iff req
  · exact Download.restarted_loaded_iff (hwell.2 rsft rfl).1

/-- The downloads of a controller survive any number of restarts before it is activated exactly when
all of them are kept. -/
theorem downloads_survive_iff (env : Surroundings Hash PeerId) (c : FtController Hash PeerId)
    (h : c.WellFormed) (havail : ∀ d ∈ c.downloads, d.Available env) (n : Nat) :
  (∀ d ∈ c.downloads, isCache d.flags = false →
    d.Restored env (((restart env)^[n + 1] c).activate.handlePendingRequests env)) ↔
  ∀ d ∈ c.downloads, isCache d.flags = false → d.Kept env
  := by
  apply forall₂_congr
  intro d hd
  rw [h.restored_iff havail n hd]

/-- A controller with the default settings, whose sources may all be downloaded from. -/
def home : Surroundings Nat Nat where
  mDownloadPath := ascii "/home/me"
  mDefaultChunkStrategy := .progressive
  maxActiveDownloads := 5
  alreadyHaveFile _ := false
  search _ := []
  isTurtlePeer _ := false
  mayDownload _ := true

/-- A paused download of three chunks, the first of which is there. -/
def paused : FtController Nat Nat :=
  { (new : FtController Nat Nat) with
    mFtActive := true
    queue := [1]
    mDownloads := OrdMap.empty.insert 1
      { mName := ascii "song"
        mDestination := ascii "/home/me/music/song"
        mState := .paused
        mHash := 1
        mSize := 3000000
        mFlags := rsFileReqAnonymousRouting
        chunkMap := { ChunkMap.new 3000000 false with map := [.done, .active, .outstanding] }
        mFileSources := [4] } }

theorem downloads_survive_iff_paused :
  (∀ d ∈ paused.downloads, isCache d.flags = false →
    d.Restored home (((restart home)^[3] paused).activate.handlePendingRequests home)) ↔
  ∀ d ∈ paused.downloads, isCache d.flags = false → d.Kept home
  := by
  apply downloads_survive_iff home paused
  · constructor
    · decide
    · intro d hd
      obtain rfl := List.mem_singleton.mp hd
      exact ⟨by decide, by decide⟩
  · intro d hd
    exact ⟨rfl, fun _ _ => rfl⟩

/-- A request, before the controller is activated, of a file that goes to a directory of its own. -/
def requested : FtController Nat Nat :=
  { (new : FtController Nat Nat) with
    mPendingRequests := [
      { mName := ascii "song"
        mHash := 1
        mSize := 3000000
        mDest := ascii "/home/me/music"
        mFlags := 0
        mSrcIds := [4]
        mState := .downloading }] }

/-- The file goes to the directory above. -/
theorem not_downloads_survive_requested :
  ¬∀ d ∈ requested.downloads, isCache d.flags = false →
    d.Restored home (((restart home)^[1] requested).activate.handlePendingRequests home)
  := by
  have hwell : requested.WellFormed := by
    constructor
    · decide
    · intro d hd
      obtain rfl := List.mem_singleton.mp hd
      exact ⟨by decide, fun _ h => nomatch h⟩
  intro h
  have hkept := (hwell.restored_iff (fun d _ => ⟨rfl, fun _ _ => rfl⟩) 0 List.mem_cons_self).mp
    (h _ List.mem_cons_self (by decide))
  obtain ⟨-, hdest, -⟩ := hkept
  revert hdest
  decide

end FtController

end Restart

end Ft
