import RetroShare.Ft.FileCreator
import RetroShare.Ft.Soundness

/-!
# What the operations of a file creator do to the parts of slices

The entries of `mChunks` are the parts of slices that are missing.  Data that arrives in the
middle of a part first splits it, and is then data at the start of a part.  A part that data
starts at is shortened, or it is removed, and with the last part of a slice the slice is
finished.
-/

namespace Ft

namespace FileCreator

variable {PeerId : Type} [LinearOrder PeerId] {s : FileCreator PeerId} {e v : FtChunk PeerId}
  {offset k size : Nat} {p : FtChunk PeerId → Bool} {now : Int} {file : File}
  {r : MissingChunk PeerId} {m : ChunkMap PeerId}

/-- The number of parts that share a counter. -/
def shares (s : FileCreator PeerId) (p : Nat) : Nat := s.mChunks.countP fun e => e.refCnt = p

/-- By how much a counter exceeds the number of the parts that share it. -/
def slack (s : FileCreator PeerId) (p : Nat) : Int := s.count p - s.shares p

/-- The number of parts of a slice. -/
def fragments (s : FileCreator PeerId) (id : Nat) : Nat := s.mChunks.countP fun e => e.id = id

/-! ### Counters -/

theorem count_decrementRef (p q : Nat) :
  (s.decrementRef p).count q = if q = p then s.count p - 1 else s.count q
  := by
  rw [count, decrementRef]
  dsimp only
  split
  case isTrue hlast =>
    rw [OrdMap.get?_erase]
    split
    · rw [hlast, Option.getD_none]
    · rw [count]
  case isFalse =>
    rw [OrdMap.get?_insert]
    split
    · rw [Option.getD_some]
    · rw [count]

theorem cnt_decrementCnt (peerId q : PeerId) :
  (s.decrementCnt peerId).cnt q = if q = peerId then sub32 (s.cnt peerId) 1 else s.cnt q
  := by
  rw [cnt, decrementCnt, OrdMap.get?_insert]
  split
  · rw [Option.getD_some]
  · rw [cnt]

/-! ### Data that arrives -/

/-- The part `e` is split at `offset`. -/
def split (s : FileCreator PeerId) (e : FtChunk PeerId) (offset : Nat) : FileCreator PeerId :=
  { s with
    mChunks := (s.mChunks.insert e.offset { e with size := sub64 offset e.offset }).insert offset
      { e with offset := offset, size := sub64 e.size (sub64 offset e.offset) }
    refCnt := s.refCnt.insert e.refCnt (s.count e.refCnt + 1) }

/-- The part `e` is shortened by `size` bytes at its start. -/
def shrink (s : FileCreator PeerId) (now : Int) (e : FtChunk PeerId) (size : Nat) :
    FileCreator PeerId :=
  { s with
    lastRecvTime := now
    mChunks := (s.mChunks.erase e.offset).insert (add64 e.offset size)
      { e with size := sub64 e.size size, offset := add64 e.offset size } }

/-- The part `e` is removed, and other parts share its counter. -/
def drop (s : FileCreator PeerId) (now : Int) (e : FtChunk PeerId) : FileCreator PeerId :=
  { s.decrementRef e.refCnt with lastRecvTime := now, mChunks := s.mChunks.erase e.offset }

/-- The last part `e` of a slice is removed. -/
def finish (s : FileCreator PeerId) (now : Int) (e : FtChunk PeerId) : FileCreator PeerId :=
  { (s.decrementCnt e.peerId).decrementRef e.refCnt with
    lastRecvTime := now
    mChunks := s.mChunks.erase e.offset
    chunkMap := (s.chunkMap.dataReceived now e.id).1 }

/-- What the parts of a slice have in common does not depend on where they are. -/
def Shared (p : FtChunk PeerId → Bool) : Prop :=
  ∀ (e : FtChunk PeerId) (offset size : Nat), p { e with offset := offset, size := size } = p e

theorem get?_split :
  (s.split e offset).mChunks.get? k = some v ↔
    k = offset ∧
      v = { e with offset := offset, size := sub64 e.size (sub64 offset e.offset) } ∨
    k ≠ offset ∧ k = e.offset ∧ v = { e with size := sub64 offset e.offset } ∨
    k ≠ offset ∧ k ≠ e.offset ∧ s.mChunks.get? k = some v
  := by
  rw [split, OrdMap.get?_insert, OrdMap.get?_insert]
  split
  case isTrue heq => simp [heq, eq_comm]
  case isFalse hne =>
    split
    case isTrue heq =>
      subst heq
      rw [Option.some.injEq, eq_comm]
      tauto
    case isFalse hne' => simp [hne, hne']

/-- The parts after a part that lies in the file has been split at an offset within it. -/
theorem get?_split_of_lt (hlt : e.offset < offset) (hin : offset < e.offset + e.size)
    (hend : e.offset + e.size ≤ file.size) :
  (s.split e offset).mChunks.get? k = some v ↔
    k = offset ∧ v = { e with offset := offset, size := e.size - (offset - e.offset) } ∨
    k ≠ offset ∧ k = e.offset ∧ v = { e with size := offset - e.offset } ∨
    k ≠ offset ∧ k ≠ e.offset ∧ s.mChunks.get? k = some v
  := by
  have hsize := file.le
  simp only [chunkSize] at hsize
  have hfst : sub64 offset e.offset = offset - e.offset := sub64_of_le hlt.le (by omega)
  rw [get?_split, hfst, sub64_of_le (by omega) (by omega)]

theorem get?_split_self (s : FileCreator PeerId) (e : FtChunk PeerId) (offset : Nat) :
  (s.split e offset).mChunks.get? offset =
    some { e with offset := offset, size := sub64 e.size (sub64 offset e.offset) }
  := OrdMap.get?_insert_self _ _

theorem countP_split (hp : Shared p) (he : s.mChunks.get? e.offset = some e)
    (hnone : s.mChunks.get? offset = none) :
  (s.split e offset).mChunks.countP p = s.mChunks.countP p + if p e then 1 else 0
  := by
  have hne : offset ≠ e.offset := by
    rintro rfl
    rw [he] at hnone
    cases hnone
  rw [split]
  dsimp only
  rw [OrdMap.countP_insert, OrdMap.erase_of_get?_eq_none, hp,
    OrdMap.countP_insert_of_eq he (hp e e.offset _)]
  rwa [OrdMap.get?_insert, if_neg hne]

theorem get?_shrink :
  (s.shrink now e size).mChunks.get? k = some v ↔
    k = add64 e.offset size ∧
      v = { e with size := sub64 e.size size, offset := add64 e.offset size } ∨
    k ≠ add64 e.offset size ∧ k ≠ e.offset ∧ s.mChunks.get? k = some v
  := by
  rw [shrink, OrdMap.get?_insert, OrdMap.get?_erase]
  split
  case isTrue heq => simp [heq, eq_comm]
  case isFalse hne =>
    split
    case isTrue heq =>
      subst heq
      simp only [reduceCtorEq, false_iff]
      tauto
    case isFalse hne' => simp [hne, hne']

/-- What is left of a part may take the place of another part. -/
theorem countP_shrink_le (hp : Shared p) (he : s.mChunks.get? e.offset = some e) :
  (s.shrink now e size).mChunks.countP p ≤ s.mChunks.countP p
  := by
  have hle := (s.mChunks.erase e.offset).countP_erase_le (add64 e.offset size) p
  rw [shrink]
  dsimp only
  rw [OrdMap.countP_insert, hp, OrdMap.countP_of_get?_eq_some p he]
  omega

theorem countP_shrink (hp : Shared p) (he : s.mChunks.get? e.offset = some e)
    (hfree : ∀ v, s.mChunks.get? (add64 e.offset size) = some v → add64 e.offset size = e.offset) :
  (s.shrink now e size).mChunks.countP p = s.mChunks.countP p
  := by
  rw [shrink]
  dsimp only
  rw [OrdMap.countP_insert, OrdMap.erase_of_get?_eq_none, hp,
    ← OrdMap.countP_of_get?_eq_some p he]
  rw [OrdMap.get?_erase]
  split
  case isTrue => rfl
  case isFalse hne =>
    cases hget : s.mChunks.get? (add64 e.offset size) with
    | none => rfl
    | some v => exact absurd (hfree v hget) hne

omit [LinearOrder PeerId] in
theorem shared_refCnt (p : Nat) :
  Shared fun e : FtChunk PeerId => decide (e.refCnt = p)
  := fun _ _ _ => rfl

theorem slack_split (he : s.mChunks.get? e.offset = some e) (hnone : s.mChunks.get? offset = none)
    (p : Nat) :
  (s.split e offset).slack p = s.slack p
  := by
  have hcount : (s.split e offset).count p =
      if p = e.refCnt then s.count e.refCnt + 1 else s.count p := by
    rw [count, split, OrdMap.get?_insert]
    split
    · rw [Option.getD_some]
    · rw [count]
  rw [slack, slack, shares, shares, countP_split (shared_refCnt p) he hnone, hcount]
  simp only [decide_eq_true_eq]
  by_cases hp : p = e.refCnt
  · rw [if_pos hp, if_pos hp.symm, hp]
    omega
  · rw [if_neg hp, if_neg (Ne.symm hp), Nat.add_zero]

theorem slack_le_shrink (he : s.mChunks.get? e.offset = some e) (p : Nat) :
  s.slack p ≤ (s.shrink now e size).slack p
  := by
  have hle : (s.shrink now e size).mChunks.countP _ ≤ _ := countP_shrink_le (shared_refCnt p) he
  have hcount : (s.shrink now e size).count p = s.count p := rfl
  simp only [slack, shares, hcount]
  omega

/-- The counter of a part that is removed has been decreased. -/
theorem slack_erase {s' : FileCreator PeerId} (he : s.mChunks.get? k = some e)
    (hparts : s'.mChunks = s.mChunks.erase k)
    (hcount : s'.refCnt = (s.decrementRef e.refCnt).refCnt) (p : Nat) :
  s'.slack p = s.slack p
  := by
  have hsame : s'.count p = (s.decrementRef e.refCnt).count p := by
    rw [count, count, hcount]
  have hshares := OrdMap.countP_of_get?_eq_some (fun e => decide (e.refCnt = p)) he
  simp only [decide_eq_true_eq] at hshares
  rw [slack, slack, hsame, count_decrementRef, shares, shares, hparts, hshares]
  by_cases hp : p = e.refCnt
  · rw [if_pos hp, if_pos hp.symm, hp]
    omega
  · rw [if_neg hp, if_neg (Ne.symm hp), Nat.add_zero]

/-- When a counter says so, no other part shares it. -/
theorem refCnt_ne_of_last (he : s.mChunks.get? k = some e) (hslack : 0 ≤ s.slack e.refCnt)
    (hlast : s.count e.refCnt - 1 = 0) {k' : Nat} (hv : (s.mChunks.erase k).get? k' = some v) :
  v.refCnt ≠ e.refCnt
  := by
  have hnone : (s.mChunks.erase k).countP (fun v => v.refCnt = e.refCnt) = 0 := by
    have hshares := OrdMap.countP_of_get?_eq_some (fun v => decide (v.refCnt = e.refCnt)) he
    rw [slack, shares, hshares, decide_eq_true rfl, if_pos rfl] at hslack
    omega
  exact of_decide_eq_false (OrdMap.countP_eq_zero_iff.mp hnone k' v hv)

/-- Data arrives at the start of the part `e`. -/
theorem notifyReceived_of_get?_eq_some (he : s.mChunks.get? offset = some e)
    (hoffset : e.offset = offset) :
  s.notifyReceived now offset size =
    if e.size ≠ size then (s.shrink now e size, [])
    else if s.count e.refCnt - 1 = 0 then
      (s.finish now e, .finished e.id :: (s.chunkMap.dataReceived now e.id).2.map .chunk)
    else (s.drop now e, [])
  := by
  subst hoffset
  simp only [notifyReceived, he, receivePart, shrink, drop, finish, decrementCnt, decrementRef,
    cnt, count]
  rfl

/-- Data arrives in the middle of the part `e`, which is split. -/
theorem notifyReceived_of_findEnclosing (hnone : s.mChunks.get? offset = none)
    (he : s.findEnclosing offset size = some e) (hoffset : e.offset ≠ offset) :
  s.notifyReceived now offset size = (s.split e offset).notifyReceived now offset size
  := by
  have herase : (s.split e offset).mChunks.erase offset =
      s.mChunks.insert e.offset { e with size := sub64 offset e.offset } := by
    apply OrdMap.ext_get?
    intro k
    simp only [split, OrdMap.get?_erase, OrdMap.get?_insert]
    by_cases hk : k = offset
    · simp [hk, hnone, hoffset.symm]
    · simp [hk]
  simp only [notifyReceived, hnone, he, get?_split_self, herase]
  simp only [split]

theorem get?_of_findEnclosing (he : s.findEnclosing offset size = some e) :
  (∃ k, s.mChunks.get? k = some e) ∧ e.offset < offset ∧
    add64 size offset ≤ add64 e.size e.offset
  := by
  obtain ⟨⟨k, e'⟩, hfind, rfl⟩ := Option.map_eq_some_iff.mp he
  have hprop := List.find?_some hfind
  rw [decide_eq_true_eq] at hprop
  exact ⟨⟨k, OrdMap.mem_toList.mp (List.mem_of_find?_eq_some hfind)⟩, hprop⟩

/-- Every part is found under its offset. -/
def Keyed (s : FileCreator PeerId) : Prop := ∀ k e, s.mChunks.get? k = some e → e.offset = k

/-- Data belongs to no part, or it arrives at the start of a part, or in the middle of one. -/
theorem Keyed.notifyReceived_cases (h : s.Keyed) (now : Int) (offset size : Nat) :
  s.notifyReceived now offset size = (s, []) ∨
  (∃ e, s.mChunks.get? offset = some e ∧ e.offset = offset) ∨
  s.mChunks.get? offset = none ∧
    ∃ e, s.mChunks.get? e.offset = some e ∧ e.offset < offset ∧
      add64 size offset ≤ add64 e.size e.offset ∧
      s.notifyReceived now offset size = (s.split e offset).notifyReceived now offset size
  := by
  cases hget : s.mChunks.get? offset with
  | some e => exact .inr (.inl ⟨e, rfl, h offset e hget⟩)
  | none =>
    cases hfind : s.findEnclosing offset size with
    | none => exact .inl (by simp only [notifyReceived, hget, hfind])
    | some e =>
      obtain ⟨⟨k, hk⟩, hlt, hle⟩ := get?_of_findEnclosing hfind
      refine .inr (.inr ⟨rfl, e, ?_, hlt, hle, ?_⟩)
      · rwa [h k e hk]
      · exact notifyReceived_of_findEnclosing hget hfind hlt.ne

/-- The size of what is written of the data of a packet. -/
def written (s : FileCreator PeerId) (offset chunkSize : Nat) : Nat :=
  min chunkSize (s.chunkMap.fileSize - offset)

/-- At most a beginning is written of a packet and not noted, or data is written and belongs to a
part or not. -/
theorem addFileData_cases (hsize : s.chunkMap.fileSize = file.size) (now : Int) (io : WriteOutcome)
    (offset : UInt64) (chunkSize : UInt32) :
  (∃ fd, ∃ ns : List Nat, s.addFileData now io offset chunkSize =
    ({ s with fd := fd }, (ns.map (.wrote offset.toNat)).map .chunk)) ∨
  ∃ size fd, 0 < size ∧ offset.toNat + size < 2 ^ 64 ∧
    (offset.toNat ≤ file.size → size = s.written offset.toNat chunkSize.toNat) ∧
    s.addFileData now io offset chunkSize =
      ({ ({ s with fd := true }.notifyReceived now offset.toNat size).1 with fd := fd },
        .chunk (.wrote offset.toNat size) ::
          ({ s with fd := true }.notifyReceived now offset.toNat size).2)
  := by
  simp only [addFileData]
  generalize hclamp : (if s.chunkMap.fileSize < add64 offset.toNat chunkSize.toNat then
    sub64 s.chunkMap.fileSize offset.toNat % 2 ^ 32 else chunkSize.toNat) = size
  have hlt := chunkSize.toNat_lt
  have hle := file.le
  simp only [Ft.chunkSize] at hle
  have hclamped : size < 2 ^ 32 := by
    rw [← hclamp]
    split
    · apply Nat.mod_lt
      decide
    · exact hlt
  split
  case isTrue => exact .inl ⟨s.fd, [], rfl⟩
  split
  case isTrue => exact .inl ⟨s.fd, [], rfl⟩
  split
  case isTrue => exact .inl ⟨true, [], rfl⟩
  case isFalse hseek =>
    split
    case isTrue => exact .inl ⟨true, [], rfl⟩
    split
    case isTrue => exact .inl ⟨true, [_], rfl⟩
    case isFalse hwrite hall =>
      simp only [Bool.or_eq_true, decide_eq_true_eq, not_or] at hseek
      generalize hr : ({ s with fd := true } : FileCreator PeerId).notifyReceived now
        offset.toNat size = r
      refine .inr ⟨size, if r.1.chunkMap.fileIsComplete then false else r.1.fd, by omega, by omega,
        ?_, ?_⟩
      · intro hoffset
        rw [← hclamp, written, hsize, add64_of_lt (by omega)]
        split
        case isTrue hend =>
          rw [sub64_of_le hoffset (by omega)]
          omega
        case isFalse => omega
      · rw [hr]
        split <;> rfl

/-! ### Slices that are handed -/

/-- The counter of a peer is looked up. -/
def touch (s : FileCreator PeerId) (peerId : PeerId) : FileCreator PeerId :=
  { s with mChunksPerPeer := s.mChunksPerPeer.insert peerId (s.cnt peerId) }

/-- A slice of the feed `feed` of `owner` is handed to `peerId`. -/
def hand (s : FileCreator PeerId) (now : Int) (sizeHint : Nat) (peerId owner : PeerId)
    (feed : Chunk) : FileCreator PeerId :=
  let r := s.chunkMap.takeSlice now sizeHint peerId owner feed
  { s with
    chunkMap := r.1
    mChunks := s.mChunks.insert feed.offset { r.2 with refCnt := s.fresh }
    mChunksPerPeer := s.mChunksPerPeer.insert peerId (s.cnt peerId + 1)
    refCnt := s.refCnt.insert s.fresh 1
    fresh := s.fresh + 1 }

@[simp]
theorem cnt_touch (peerId q : PeerId) :
  (s.touch peerId).cnt q = s.cnt q
  := by
  rw [cnt, touch, OrdMap.get?_insert]
  split
  case isTrue heq => rw [heq, Option.getD_some]
  case isFalse => rw [cnt]

theorem findFaulting_spec (now : Int) (peerId : PeerId) :
  ∀ (l : List (Nat × FtChunk PeerId)) (m : ChunkMap PeerId),
    (∃ sources, (findFaulting now peerId l m).1 = { m with peersChunksAvailability := sources }) ∧
    ∀ e, (findFaulting now peerId l m).2 = some e → e ∈ l
  | [], m => ⟨⟨m.peersChunksAvailability, rfl⟩, fun e he => (by cases he)⟩
  | e :: l, m => by
      obtain ⟨sources, hsources⟩ := m.getSourceChunksInfo_fst peerId
      rw [findFaulting]
      split
      case isTrue =>
        dsimp only
        split
        case isTrue =>
          refine ⟨⟨sources, hsources⟩, ?_⟩
          rintro e' ⟨⟩
          exact List.mem_cons_self
        case isFalse =>
          obtain ⟨⟨sources', hrest⟩, hmem⟩ := findFaulting_spec now peerId l
            (m.getSourceChunksInfo peerId).1
          refine ⟨⟨sources', ?_⟩, fun e' he' => List.mem_cons_of_mem _ (hmem e' he')⟩
          rw [hrest, hsources]
      case isFalse =>
        obtain ⟨hrest, hmem⟩ := findFaulting_spec now peerId l m
        exact ⟨hrest, fun e' he' => List.mem_cons_of_mem _ (hmem e' he')⟩

/-- When no part is asked for again, there may be nothing to ask for, or a slice is handed. -/
def Offers (s : FileCreator PeerId) (now : Int) (peerId : PeerId) (sizeHint : Nat)
    (r : MissingChunk PeerId) : Prop :=
  ∃ m events, s.chunkMap.Prepared peerId m events ∧
    (r.creator = { s.touch peerId with chunkMap := m } ∧ r.events = events.map .chunk ∨
      ∃ owner feed, m.activeChunksFeed.get? owner = some feed ∧
        s.cnt peerId < maxFtchunksPerPeer ∧
        r.creator = ({ s.touch peerId with chunkMap := m } : FileCreator PeerId).hand now sizeHint
          peerId owner feed ∧
        r.events = events.map .chunk ++ [.handed peerId feed.offset])

theorem handSlice_offers (h : s.chunkMap.Sound file) (fits : Nat → Nat → Bool) (now : Int)
    (rand : Nat) (peerId : PeerId) (sizeHint : Nat)
    (hr : s.handSlice fits now rand peerId sizeHint = r) :
  s.Offers now peerId sizeHint r
  := by
  have hcnt := s.cnt_touch peerId peerId
  change (if maxFtchunksPerPeer ≤ (s.touch peerId).cnt peerId then _ else _) = r at hr
  rw [hcnt] at hr
  rcases le_or_gt maxFtchunksPerPeer (s.cnt peerId) with hle | hlt
  · rw [if_pos hle] at hr
    subst hr
    exact ⟨_, [], ⟨s.chunkMap.peersChunksAvailability, .inl ⟨rfl, rfl⟩⟩, .inl ⟨rfl, rfl⟩⟩
  · rw [if_neg hlt.not_ge] at hr
    dsimp only at hr
    generalize hdata : ChunkMap.getDataChunk _ fits now rand peerId sizeHint false = data at hr
    obtain ⟨m, hm, ⟨hmap, hnone⟩ | ⟨owner, feed, hfeed, hmap, hsome⟩⟩ :=
      h.getDataChunk_cases fits now rand peerId sizeHint false hdata
    · simp only [hnone] at hr
      subst hr
      exact ⟨m, data.events, hm, .inl ⟨by rw [hmap]; rfl, rfl⟩⟩
    · simp only [hsome] at hr
      subst hr
      refine ⟨m, data.events, hm, .inr ⟨owner, feed, hfeed, hlt, ?_, rfl⟩⟩
      rw [hmap]
      rfl

/-- `getMissingChunk` asks for a part again, or finds nothing to ask for, or hands a slice. -/
theorem getMissingChunk_cases (h : s.chunkMap.Sound file) (fits : Nat → Nat → Bool) (now : Int)
    (rand : Nat) (peerId : PeerId) (sizeHint : Nat)
    (hr : s.getMissingChunk fits now rand peerId sizeHint = r) :
  (∃ sources k e, s.mChunks.get? k = some e ∧ r.events = [] ∧
    r.creator = { s with
      chunkMap := { s.chunkMap with peersChunksAvailability := sources }
      mChunks := s.mChunks.insert k { e with ts := now } }) ∨
    s.Offers now peerId sizeHint r
  := by
  obtain ⟨⟨sources, hsources⟩, hmem⟩ := findFaulting_spec now peerId s.mChunks.toList s.chunkMap
  simp only [getMissingChunk, hsources] at hr
  cases hfault : (findFaulting now peerId s.mChunks.toList s.chunkMap).2 with
  | some e =>
    simp only [hfault] at hr
    subst hr
    exact .inl ⟨sources, e.1, e.2, OrdMap.mem_toList.mp (hmem e hfault), rfl, rfl⟩
  | none =>
    right
    simp only [hfault] at hr
    obtain ⟨m, events, hm, hcases⟩ := handSlice_offers (h.withSources sources) fits now rand
      peerId sizeHint hr
    refine ⟨m, events, ?_, hcases⟩
    obtain ⟨sources', hm | ⟨c, hc, hstate, hpeer, hm, hevents⟩⟩ := hm
    · exact ⟨sources', .inl hm⟩
    · exact ⟨sources', .inr ⟨c, hc, hstate, hpeer, hm, hevents⟩⟩

theorem exists_hand (h : s.chunkMap.Sound file) {owner : PeerId} {feed : Chunk}
    (hfeed : s.chunkMap.activeChunksFeed.get? owner = some feed) (now : Int) (sizeHint : Nat)
    (peerId : PeerId) :
  ∃ v : FtChunk PeerId,
    (s.hand now sizeHint peerId owner feed).mChunks = s.mChunks.insert feed.offset v ∧
      v.offset = feed.offset ∧ v.size = ChunkMap.sliceSize feed sizeHint ∧ v.id = feed.offset ∧
      v.refCnt = s.fresh ∧ v.peerId = peerId
  := by
  obtain ⟨c, info, hinfo, hc, hof, -⟩ := h.of_feed hfeed
  refine ⟨_, rfl, ?_⟩
  rw [ChunkMap.takeSlice_of_isFeed hc hof hinfo]
  exact ⟨rfl, rfl, rfl, rfl, rfl⟩

theorem count_hand (now : Int) (sizeHint : Nat) (peerId owner : PeerId) (feed : Chunk) (p : Nat) :
  (s.hand now sizeHint peerId owner feed).count p = if p = s.fresh then 1 else s.count p
  := by
  change ((s.refCnt.insert s.fresh 1).get? p).getD 0 = _
  rw [OrdMap.get?_insert]
  split
  · rw [Option.getD_some]
  · rw [count]

/-! ### Parts that are removed -/

/-- The number of parts that a peer has been asked for. -/
def owned (s : FileCreator PeerId) (q : PeerId) : Nat := s.mChunks.countP fun e => e.peerId = q

/-- From `s` to `s'` parts have been removed: the counters have decreased by as many. -/
structure Purged (s s' : FileCreator PeerId) : Prop where
  chunkMap : s'.chunkMap = s.chunkMap
  fresh : s'.fresh = s.fresh
  slack : ∀ p, s'.slack p = s.slack p
  budget : ∀ q, (s'.cnt q + s.owned q) % 2 ^ 32 = (s.cnt q + s'.owned q) % 2 ^ 32
  bound : ∀ q, s.cnt q < 2 ^ 32 → s'.cnt q < 2 ^ 32

theorem Purged.refl (s : FileCreator PeerId) :
  Purged s s
  := ⟨rfl, rfl, fun _ => rfl, fun _ => rfl, fun _ h => h⟩

theorem Purged.trans {s₁ s₂ s₃ : FileCreator PeerId} (h₁ : Purged s₁ s₂) (h₂ : Purged s₂ s₃) :
  Purged s₁ s₃
  where
  chunkMap := h₂.chunkMap.trans h₁.chunkMap
  fresh := h₂.fresh.trans h₁.fresh
  slack p := (h₂.slack p).trans (h₁.slack p)
  budget q := by
    have hfst := h₁.budget q
    have hsnd := h₂.budget q
    omega
  bound q h := h₂.bound q (h₁.bound q h)

theorem cnt_removePart (e : Nat × FtChunk PeerId) (q : PeerId) :
  (s.removePart e).cnt q = if q = e.2.peerId then sub32 (s.cnt e.2.peerId) 1 else s.cnt q
  := cnt_decrementCnt e.2.peerId q

theorem Purged.removePart {e : Nat × FtChunk PeerId} (he : s.mChunks.get? e.1 = some e.2) :
  Purged s (s.removePart e)
  := by
  constructor
  case chunkMap => rfl
  case fresh => rfl
  case slack => exact slack_erase he rfl rfl
  case budget =>
    intro q
    have howned := OrdMap.countP_of_get?_eq_some (fun e => decide (e.peerId = q)) he
    rw [cnt_removePart, owned, owned, howned]
    simp only [FileCreator.removePart, decide_eq_true_eq]
    by_cases hq : q = e.2.peerId
    · simp only [hq, if_true, sub32]
      omega
    · rw [if_neg hq, if_neg (Ne.symm hq), Nat.add_zero]
  case bound =>
    intro q hlt
    rw [cnt_removePart]
    split
    · apply Nat.mod_lt
      decide
    · exact hlt

/-- What the inner loop of `removeInactiveChunks` does over some of the entries. -/
theorem foldl_removePart (id : Nat) :
  ∀ {l : List (Nat × FtChunk PeerId)} {s : FileCreator PeerId},
    l.Pairwise (fun e e' => e.1 < e'.1) → (∀ e ∈ l, s.mChunks.get? e.1 = some e.2) →
    Purged s (l.foldl (fun s e => if e.2.id = id then s.removePart e else s) s) ∧
      ∀ k v, (l.foldl (fun s e => if e.2.id = id then s.removePart e else s) s).mChunks.get? k =
        some v ↔ s.mChunks.get? k = some v ∧ ¬((k, v) ∈ l ∧ v.id = id)
  | [], s, _, _ => ⟨Purged.refl s, fun k v => by simp⟩
  | e :: l, s, hl, hmem => by
      rw [List.pairwise_cons] at hl
      rw [List.foldl_cons]
      have he := hmem e List.mem_cons_self
      by_cases hid : e.2.id = id
      · rw [if_pos hid]
        obtain ⟨hpurged, hrest⟩ := foldl_removePart id (s := s.removePart e) hl.2 (by
          intro e' he'
          rw [removePart, OrdMap.get?_erase, if_neg (hl.1 e' he').ne']
          exact hmem e' (List.mem_cons_of_mem _ he'))
        refine ⟨(Purged.removePart he).trans hpurged, ?_⟩
        intro k v
        rw [hrest, removePart, OrdMap.get?_erase, List.mem_cons]
        by_cases hk : k = e.1
        · rw [if_pos hk]
          subst hk
          simp only [reduceCtorEq, false_and, he, Option.some.injEq, false_iff, not_and]
          rintro rfl hother
          exact hother (.inl rfl) hid
        · have hne : (k, v) ≠ e := by
            rintro rfl
            exact hk rfl
          simp [hk, hne]
      · rw [if_neg hid]
        obtain ⟨hpurged, hrest⟩ := foldl_removePart id (s := s) hl.2 fun e' he' =>
          hmem e' (List.mem_cons_of_mem _ he')
        refine ⟨hpurged, ?_⟩
        intro k v
        rw [hrest, List.mem_cons]
        have hne : (k, v) = e → v.id ≠ id := by
          rintro rfl
          exact hid
        tauto

theorem removeSlice_spec (id : Nat) :
  Purged s (s.removeSlice id) ∧
    (s.removeSlice id).mChunks = s.mChunks.filter fun _ e => !decide (e.id = id)
  := by
  obtain ⟨hpurged, hget⟩ := foldl_removePart id (s := s) s.mChunks.sorted
    fun e he => OrdMap.mem_toList.mp he
  refine ⟨hpurged, ?_⟩
  apply OrdMap.ext_get?
  intro k
  ext v
  rw [removeSlice, hget, OrdMap.get?_filter, Option.filter_eq_some_iff, OrdMap.mem_toList]
  simp only [Bool.not_eq_true', decide_eq_false_iff_not]
  tauto

theorem foldl_removeSlice :
  ∀ (ids : List Nat) (s : FileCreator PeerId),
    Purged s (ids.foldl removeSlice s) ∧
      (ids.foldl removeSlice s).mChunks = s.mChunks.filter fun _ e => !decide (e.id ∈ ids)
  | [], s => by
      refine ⟨Purged.refl s, ?_⟩
      apply OrdMap.ext_get?
      intro k
      ext v
      simp [Option.filter_eq_some_iff]
  | id :: ids, s => by
      obtain ⟨hpurged, hparts⟩ := removeSlice_spec (s := s) id
      obtain ⟨hpurged', hparts'⟩ := foldl_removeSlice ids (s.removeSlice id)
      refine ⟨hpurged.trans hpurged', ?_⟩
      rw [List.foldl_cons, hparts', hparts]
      apply OrdMap.ext_get?
      intro k
      ext v
      simp only [OrdMap.get?_filter, Option.filter_eq_some_iff, List.mem_cons]
      simp only [Bool.not_eq_true', decide_eq_false_iff_not, not_or, and_assoc]

theorem removeInactiveChunks_slices (now : Int) :
  (∀ c info, (m.removeInactiveChunks now).1.slicesToDownload.get? c = some info →
      m.slicesToDownload.get? c = some info) ∧
  (∀ c info, m.slicesToDownload.get? c = some info →
    (m.removeInactiveChunks now).1.slicesToDownload.get? c = some info ∨
      ∀ id size, info.slices.get? id = some size → id ∈ (m.removeInactiveChunks now).2) ∧
  ∀ id ∈ (m.removeInactiveChunks now).2, ∃ c info size, m.slicesToDownload.get? c = some info ∧
    (m.removeInactiveChunks now).1.slicesToDownload.get? c = none ∧
    ChunkMap.inactiveChunkTimeLapse < now - info.lastDataReceived ∧
    info.slices.get? id = some size
  := by
  apply ChunkMap.removeInactiveChunks_induction (P := fun m' ids =>
    (∀ c info, m'.slicesToDownload.get? c = some info → m.slicesToDownload.get? c = some info) ∧
    (∀ c info, m.slicesToDownload.get? c = some info → m'.slicesToDownload.get? c = some info ∨
      ∀ id size, info.slices.get? id = some size → id ∈ ids) ∧
    ∀ id ∈ ids, ∃ c info size, m.slicesToDownload.get? c = some info ∧
      m'.slicesToDownload.get? c = none ∧
      ChunkMap.inactiveChunkTimeLapse < now - info.lastDataReceived ∧
      info.slices.get? id = some size)
  · refine ⟨fun _ _ h => h, fun _ _ h => .inl h, ?_⟩
    intro id hid
    cases hid
  · rintro m' ids c info ⟨hfrom, hkept, hgone⟩ hinfo hlapse
    have hget : ∀ c', (m'.removeChunk c info).slicesToDownload.get? c' =
        if c' = c then none else m'.slicesToDownload.get? c' := fun c' => OrdMap.get?_erase c c'
    refine ⟨?_, ?_, ?_⟩
    · intro c' info' hinfo'
      rw [hget] at hinfo'
      split at hinfo'
      · cases hinfo'
      · exact hfrom c' info' hinfo'
    · intro c' info' hinfo'
      rw [hget]
      rcases hkept c' info' hinfo' with hkeep | hlost
      · split
        case isTrue heq =>
          subst heq
          obtain rfl : info = info' := by simpa [hinfo] using hkeep
          right
          intro id size hid
          rw [List.mem_append, List.mem_map]
          exact .inr ⟨(id, size), OrdMap.mem_toList.mpr hid, rfl⟩
        case isFalse => exact .inl hkeep
      · right
        intro id size hid
        rw [List.mem_append]
        exact .inl (hlost id size hid)
    · intro id hid
      rw [List.mem_append, List.mem_map] at hid
      obtain hid | ⟨⟨id', size⟩, hid, rfl⟩ := hid
      · obtain ⟨c', info', size, hinfo', hnone, hrest⟩ := hgone id hid
        refine ⟨c', info', size, hinfo', ?_, hrest⟩
        rw [hget, hnone, ite_self]
      · refine ⟨c, info, size, hfrom c info hinfo, ?_, hlapse, OrdMap.mem_toList.mp hid⟩
        rw [hget, if_pos rfl]

theorem removeInactiveChunks_records (h : m.Sound file) (now : Int) {id : Nat} :
  (m.removeInactiveChunks now).1.Records id size ↔
    id ∉ (m.removeInactiveChunks now).2 ∧ m.Records id size
  := by
  obtain ⟨hfrom, hkept, hgone⟩ := removeInactiveChunks_slices (m := m) now
  have hsound := h.removeInactiveChunks now
  constructor
  · rintro ⟨c, info, hinfo, hsize⟩
    have hold := hfrom c info hinfo
    refine ⟨?_, c, info, hold, hsize⟩
    intro hid
    obtain ⟨c', info', size', hinfo', hnone, -, hsize'⟩ := hgone id hid
    obtain ⟨info₂, hinfo₂, -⟩ := hsound.of_records ⟨c, info, hinfo, hsize⟩
    obtain ⟨o, -, htaken⟩ := h.taken c' info' hinfo'
    obtain ⟨hstart, hlt, -⟩ := htaken.slice id size' hsize'
    rw [← File.div_chunkSize hstart hlt, hinfo₂] at hnone
    cases hnone
  · rintro ⟨hid, c, info, hinfo, hsize⟩
    rcases hkept c info hinfo with hkeep | hlost
    · exact ⟨c, info, hkeep, hsize⟩
    · exact absurd (hlost id size hsize) hid

/-! ### What the examples are about -/

theorem ten_pos :
  0 < 10
  := by decide

theorem ten_le :
  10 ≤ 2 ^ 31 * chunkSize
  := by decide

/-- Ten bytes. -/
def tenByteFile : File where
  size := 10
  pos := ten_pos
  le := ten_le

/-- Nothing fails when data is written. -/
def writeSucceeds : WriteOutcome := ⟨true, true, true, 2 ^ 32⟩

end FileCreator

end Ft
