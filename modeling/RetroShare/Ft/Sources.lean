import RetroShare.Ft.ChunkMap

/-!
# The sources of a chunk map

What a chunk map records about its sources: a chunk map and a later one have the `SameSources` when
the chunks of every source are the same in both, whatever happens to time stamps and to blank
records that are made up.  `Has` says that a source has a chunk by what is recorded about it.
-/

namespace Ft

/-- The source has the chunk `c`. -/
def SourceChunksInfo.Holds (sci : SourceChunksInfo) (c : Nat) : Prop :=
  sci.isFull || sci.cmap.get c

namespace ChunkMap

variable {PeerId : Type} [LinearOrder PeerId] {m m' m'' : ChunkMap PeerId}

/-- The sources have the same chunks. -/
structure SameSources (m m' : ChunkMap PeerId) : Prop where
  assumeAvailability : m'.assumeAvailability = m.assumeAvailability
  length : m'.map.length = m.map.length
  cmap : ∀ peerId,
    (m'.getSourceChunksInfo peerId).2.cmap = (m.getSourceChunksInfo peerId).2.cmap
  isFull : ∀ peerId,
    (m'.getSourceChunksInfo peerId).2.isFull = (m.getSourceChunksInfo peerId).2.isFull

theorem SameSources.refl (m : ChunkMap PeerId) :
  m.SameSources m
  := ⟨rfl, rfl, fun _ => rfl, fun _ => rfl⟩

theorem SameSources.trans (h : m.SameSources m') (h' : m'.SameSources m'') :
  m.SameSources m''
  where
  assumeAvailability := h'.assumeAvailability.trans h.assumeAvailability
  length := h'.length.trans h.length
  cmap peerId := (h'.cmap peerId).trans (h.cmap peerId)
  isFull peerId := (h'.isFull peerId).trans (h.isFull peerId)

/-- What `getSourceChunksInfo` finds is known by the records, and the number of chunks. -/
theorem sameSources_of_eq (hassume : m'.assumeAvailability = m.assumeAvailability)
    (hlength : m'.map.length = m.map.length)
    (hsources : m'.peersChunksAvailability = m.peersChunksAvailability) :
  m.SameSources m'
  := by
  have hsame : ∀ peerId, (m'.getSourceChunksInfo peerId).2 = (m.getSourceChunksInfo peerId).2 := by
    intro peerId
    rw [getSourceChunksInfo, getSourceChunksInfo, hsources]
    cases m.peersChunksAvailability.get? peerId with
    | none => simp only [hassume, hlength]
    | some sci => rfl
  exact ⟨hassume, hlength, fun peerId => congrArg _ (hsame peerId),
    fun peerId => congrArg _ (hsame peerId)⟩

theorem sameSources_insert (m : ChunkMap PeerId) (peerId : PeerId) {sci : SourceChunksInfo}
    (hcmap : sci.cmap = (m.getSourceChunksInfo peerId).2.cmap)
    (hfull : sci.isFull = (m.getSourceChunksInfo peerId).2.isFull) :
  m.SameSources
    { m with peersChunksAvailability := m.peersChunksAvailability.insert peerId sci }
  := by
  have hsame : ∀ peerId', (ChunkMap.getSourceChunksInfo
      { m with peersChunksAvailability := m.peersChunksAvailability.insert peerId sci }
      peerId').2 = if peerId' = peerId then sci else (m.getSourceChunksInfo peerId').2 := by
    intro peerId'
    rw [getSourceChunksInfo]
    simp only [OrdMap.get?_insert]
    split
    case h_1 sci' hget =>
      split at hget
      case isTrue heq =>
        cases hget
        rw [if_pos heq]
      case isFalse hne =>
        rw [if_neg hne, getSourceChunksInfo, hget]
    case h_2 hget =>
      split at hget
      case isTrue => cases hget
      case isFalse hne =>
        rw [if_neg hne, getSourceChunksInfo, hget]
  constructor
  · rfl
  · rfl
  · intro peerId'
    rw [hsame]
    split
    case isTrue heq => rw [heq, hcmap]
    case isFalse => rfl
  · intro peerId'
    rw [hsame]
    split
    case isTrue heq => rw [heq, hfull]
    case isFalse => rfl

theorem sameSources_getSourceChunksInfo (m : ChunkMap PeerId) (peerId : PeerId) :
  m.SameSources (m.getSourceChunksInfo peerId).1
  := by
  cases hget : m.peersChunksAvailability.get? peerId with
  | some sci =>
    have hsame : (m.getSourceChunksInfo peerId).1 = m := by
      rw [getSourceChunksInfo, hget]
    rw [hsame]
    exact .refl m
  | none =>
    have hsame := @sameSources_insert _ _ m peerId (m.getSourceChunksInfo peerId).2 rfl rfl
    rw [getSourceChunksInfo, hget] at hsame ⊢
    exact hsame

/-- The peer has a chunk, by what is recorded about it. -/
def Has (m : ChunkMap PeerId) (peerId : PeerId) (c : Nat) : Prop :=
  (m.getSourceChunksInfo peerId).2.Holds c

theorem SameSources.has_iff (h : m.SameSources m') {peerId : PeerId} {c : Nat} :
  m'.Has peerId c ↔ m.Has peerId c
  := by
  rw [Has, Has, SourceChunksInfo.Holds, SourceChunksInfo.Holds, h.cmap, h.isFull]

theorem sameSources_allocate (m : ChunkMap PeerId) (peerId : PeerId) (c : Nat) :
  m.SameSources (m.allocate peerId c)
  := by
  apply sameSources_of_eq
  · rfl
  · apply List.length_set
  · rfl

theorem sameSources_takeSlice (m : ChunkMap PeerId) (now : Int) (sizeHint : Nat)
    (peerId owner : PeerId) (feed : Chunk) :
  m.SameSources (m.takeSlice now sizeHint peerId owner feed).1
  := sameSources_of_eq rfl rfl rfl

theorem getSourceChunksInfo_fst (m : ChunkMap PeerId) (peerId : PeerId) :
  ∃ sources, (m.getSourceChunksInfo peerId).1 = { m with peersChunksAvailability := sources }
  := by
  cases hget : m.peersChunksAvailability.get? peerId with
  | none => exact ⟨_, by simp only [getSourceChunksInfo, hget]; rfl⟩
  | some sci => exact ⟨m.peersChunksAvailability, by simp only [getSourceChunksInfo, hget]⟩

/-- What an element of a list, or a default value, is. -/
theorem getD_mem_or {l : List Nat} {k n : Nat} (hne : l.getD k n ≠ n) :
  l.getD k n ∈ l
  := by
  rw [List.getD_eq_getElem?_getD] at hne ⊢
  cases hget : l[k]? with
  | none => simp [hget] at hne
  | some c => exact List.mem_of_getElem? hget

/-- `getAvailableChunk` only changes what is recorded about the sources, and a chunk that it
finds is outstanding, and one of the peer. -/
theorem getAvailableChunk_spec (m : ChunkMap PeerId) (now : Int) (rand : Nat) (peerId : PeerId) :
  (∃ sources, (m.getAvailableChunk now rand peerId).1 =
      { m with peersChunksAvailability := sources }) ∧
    m.SameSources (m.getAvailableChunk now rand peerId).1 ∧
    ((m.getAvailableChunk now rand peerId).2.1 < m.map.length →
      m.state (m.getAvailableChunk now rand peerId).2.1 = .outstanding ∧
        m.Has peerId (m.getAvailableChunk now rand peerId).2.1)
  := by
  have hsame := m.sameSources_getSourceChunksInfo peerId
  obtain ⟨sources, hsources⟩ := m.getSourceChunksInfo_fst peerId
  have hcmap := hsame.cmap peerId
  have hfull := hsame.isFull peerId
  rw [hsources] at hsame hcmap hfull
  simp only [getAvailableChunk, hsources, Has]
  generalize (m.getSourceChunksInfo peerId).2 = sci at hcmap hfull ⊢
  generalize (!sci.isFull && _ : Bool) = tooOld
  -- whether or not the time stamp of the source is renewed
  have hrenew : ∃ sources', (if tooOld then
      { m with peersChunksAvailability := sources.insert peerId { sci with ts := now } }
      else { m with peersChunksAvailability := sources }) =
        { m with peersChunksAvailability := sources' } ∧
      m.SameSources { m with peersChunksAvailability := sources' } := by
    cases tooOld with
    | false => exact ⟨sources, rfl, hsame⟩
    | true =>
      refine ⟨_, rfl, hsame.trans ?_⟩
      exact sameSources_insert { m with peersChunksAvailability := sources } peerId
        hcmap.symm hfull.symm
  obtain ⟨sources', hsources', hsame'⟩ := hrenew
  simp only [hsources']
  split
  case isFalse =>
    refine ⟨⟨sources', rfl⟩, hsame', ?_⟩
    intro hlt
    exact absurd hlt (lt_irrefl _)
  case isTrue =>
    refine ⟨⟨sources', rfl⟩, hsame', ?_⟩
    intro hlt
    have hmem := getD_mem_or hlt.ne
    simp only [List.mem_filter, isAvailable, Bool.and_eq_true, decide_eq_true_eq] at hmem
    exact hmem.2

end ChunkMap

end Ft
