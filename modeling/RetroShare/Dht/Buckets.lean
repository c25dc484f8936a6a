import Mathlib.Data.List.Nodup
import RetroShare.Dht.Space

/-!
# The buckets of the routing table

In every state of a `Space` the entries are in the buckets of their distances, a bucket is not
longer than allowed and in the order in which its peers have been heard of, and no two entries are
similar.  A full bucket gives up at most one entry for a new one.

The invariant speaks of the ids and receive times of the entries only, so that calls that change
flags keep it at once.
-/

namespace Dht

/-- What the order of the table depends on: the id and the receive time of an entry. -/
def Peer.core (peer : Peer) : Id × Int := (peer.mPeerId, peer.mLastRecvTime)

namespace Space

/-- The entry may be given up for a new peer: it has not been heard of for a long time, or it has
the lowest flags and lower ones than the new peer. -/
def Expendable (peerflags : UInt32) (ts : Int) (entries : List Peer) (peer : Peer) : Prop :=
  maxRecvPeriod < ts - peer.mLastRecvTime ∨
    ((∀ other ∈ entries, peer.mPeerFlags ≤ other.mPeerFlags) ∧ peer.mPeerFlags < peerflags)

/-- The entries of a table that are not in another one. -/
def evicted (space space' : Space) : List Peer :=
  space.buckets.flatten.filter fun peer =>
    !space'.buckets.flatten.any fun other => similarId peer.mPeerId other.mPeerId

/-- What holds of every state, `nodesPerBucket` being the size of the buckets. -/
structure WellFormed (nodesPerBucket : ℕ+) (s : Timed) : Prop where
  bucket : ∀ (b : Nat) (entries : List Peer), s.space.buckets[b]? = some entries →
    ∀ peer ∈ entries, bucketDistance (distance s.space.mOwnId peer.mPeerId.id) = b
  size : ∀ entries ∈ s.space.buckets, entries.length ≤ nodesPerBucket
  order : ∀ entries ∈ s.space.buckets,
    entries.Pairwise fun peer peer' => peer.mLastRecvTime ≤ peer'.mLastRecvTime
  distinct : s.space.buckets.flatten.Pairwise fun peer peer' =>
    ¬similarId peer.mPeerId peer'.mPeerId
  evicts : ∀ (id : Id) (peerflags : UInt32),
    s.space.evicted (s.space.addPeer nodesPerBucket id peerflags s.now).2 = [] ∨
      ∃ entries, s.space.buckets[s.space.bucketOf id.id]? = some entries ∧
        nodesPerBucket ≤ entries.length ∧
        ∃ peer ∈ entries,
          s.space.evicted (s.space.addPeer nodesPerBucket id peerflags s.now).2 = [peer] ∧
            Expendable peerflags s.now entries peer

/-! ### What `add_peer` does to a bucket -/

theorem minScore_le (peerflags : UInt32) (entries : List Peer) :
  minScore peerflags entries ≤ peerflags ∧
    ∀ peer ∈ entries, minScore peerflags entries ≤ peer.mPeerFlags
  := by
  induction entries generalizing peerflags with
  | nil => exact ⟨UInt32.le_refl _, fun _ h => absurd h List.not_mem_nil⟩
  | cons first entries ih =>
    rw [minScore, List.foldl_cons, ← minScore]
    obtain ⟨hstart, hall⟩ := ih
      (if first.mPeerFlags < peerflags then first.mPeerFlags else peerflags)
    split at hstart
    case isTrue hlt =>
      rw [if_pos hlt] at hall ⊢
      refine ⟨UInt32.le_trans hstart (UInt32.le_of_lt hlt), ?_⟩
      intro peer hpeer
      rcases List.mem_cons.mp hpeer with rfl | hpeer
      · exact hstart
      · exact hall peer hpeer
    case isFalse hle =>
      rw [if_neg hle] at hall ⊢
      refine ⟨hstart, ?_⟩
      intro peer hpeer
      rcases List.mem_cons.mp hpeer with rfl | hpeer
      · exact UInt32.le_trans hstart (UInt32.not_lt.mp hle)
      · exact hall peer hpeer

variable (nodesPerBucket : ℕ+) (id : Id) (peerflags : UInt32) (ts : Int) (entries : List Peer)

/-- The entry of the peer is moved to the back, or a new one is put there, or the bucket stays. -/
inductive AddOutcome (entries' : List Peer) : Prop where
  | moved (before : List Peer) (peer : Peer) (after : List Peer)
      (heq : entries = before ++ peer :: after) (hsimilar : similarId id peer.mPeerId)
      (hentries : entries' = before ++ after ++ [heardPeer id peerflags ts peer])
  | added (hnew : ∀ peer ∈ entries, ¬similarId id peer.mPeerId)
      (hroom : entries.length < nodesPerBucket)
      (hentries : entries' = entries ++ [newPeer id peerflags ts])
  | evicted (hnew : ∀ peer ∈ entries, ¬similarId id peer.mPeerId)
      (hfull : nodesPerBucket ≤ entries.length)
      (before : List Peer) (peer : Peer) (after : List Peer)
      (heq : entries = before ++ peer :: after)
      (hexpendable : Expendable peerflags ts entries peer)
      (hentries : entries' = before ++ after ++ [newPeer id peerflags ts])
  | dropped (hentries : entries' = entries)

theorem addToBucket_outcome :
  AddOutcome nodesPerBucket id peerflags ts entries
    (addToBucket nodesPerBucket id peerflags ts entries).2
  := by
  rw [addToBucket.eq_def]
  split
  case h_1 peer hfind =>
    obtain ⟨hsimilar, before, after, rfl, hbefore⟩ := List.find?_eq_some_iff_append.mp hfind
    have hnot : ∀ other ∈ before, ¬similarId id other.mPeerId := by
      intro other hother
      simpa using hbefore other hother
    apply AddOutcome.moved before peer after rfl hsimilar
    rw [List.eraseP_append_right _ hnot,
      List.eraseP_cons_of_pos (p := fun peer : Peer => similarId id peer.mPeerId) hsimilar]
  case h_2 hfind =>
    have hnew : ∀ peer ∈ entries, ¬similarId id peer.mPeerId := List.find?_eq_none.mp hfind
    split
    case isTrue hroom => exact .added hnew hroom rfl
    case isFalse hfull =>
      have hfull' := Nat.le_of_not_lt hfull
      split
      case h_1 => exact .dropped rfl
      case h_2 oldest rest =>
        split
        case isTrue hold => exact .evicted hnew hfull' [] oldest rest rfl (.inl hold) rfl
        case isFalse =>
          split
          case isFalse => exact .dropped rfl
          case isTrue hlow =>
            split
            case isFalse => exact .dropped rfl
            case isTrue hany =>
              obtain ⟨least, hleast, heq⟩ := List.any_eq_true.mp hany
              obtain ⟨evictee, before, after, -, hscore, hentries, herase⟩ :=
                List.exists_of_eraseP
                  (p := fun peer : Peer => peer.mPeerFlags = minScore peerflags (oldest :: rest))
                  hleast heq
              rw [decide_eq_true_eq] at hscore
              refine .evicted hnew hfull' before evictee after hentries (.inr ?_) ?_
              · rw [hscore]
                exact ⟨(minScore_le _ _).2, hlow⟩
              · rw [herase]

/-! ### The invariant of a bucket -/

/-- What is kept of the ids and receive times of the entries of bucket `b`. -/
structure GoodBucket (ownId : NodeId) (nodesPerBucket : Nat) (now : Int) (b : Nat)
    (cores : List (Id × Int)) : Prop where
  bucket : ∀ e ∈ cores, bucketDistance (distance ownId e.1.id) = b
  size : cores.length ≤ nodesPerBucket
  order : cores.Pairwise fun e e' => e.2 ≤ e'.2
  recent : ∀ e ∈ cores, e.2 ≤ now
  distinct : cores.Pairwise fun e e' => ¬similarId e.1 e'.1

section GoodBucket

variable {ownId : NodeId} {size b : Nat} {now : Int} {cores : List (Id × Int)}
  (h : GoodBucket ownId size now b cores)

theorem goodBucket_nil :
  GoodBucket ownId size now b []
  where
  bucket _ h := absurd h List.not_mem_nil
  size := Nat.zero_le _
  order := List.Pairwise.nil
  recent _ h := absurd h List.not_mem_nil
  distinct := List.Pairwise.nil

include h

theorem GoodBucket.sublist {cores' : List (Id × Int)} (hsub : cores'.Sublist cores) :
  GoodBucket ownId size now b cores'
  where
  bucket e he := h.bucket e (hsub.subset he)
  size := hsub.length_le.trans h.size
  order := h.order.sublist hsub
  recent e he := h.recent e (hsub.subset he)
  distinct := h.distinct.sublist hsub

theorem GoodBucket.wait {now' : Int} (hnow : now ≤ now') :
  GoodBucket ownId size now' b cores
  where
  bucket := h.bucket
  size := h.size
  order := h.order
  recent e he := (h.recent e he).trans hnow
  distinct := h.distinct

/-- A peer that has just been heard of is put at the back. -/
theorem GoodBucket.push {id : Id} (hbucket : bucketDistance (distance ownId id.id) = b)
    (hsize : cores.length < size) (hnew : ∀ e ∈ cores, ¬similarId id e.1) :
  GoodBucket ownId size now b (cores ++ [(id, now)])
  := by
  constructor
  case bucket =>
    intro e he
    rcases List.mem_append.mp he with he | he
    · exact h.bucket e he
    · rw [List.mem_singleton.mp he]
      exact hbucket
  case size =>
    rw [List.length_append]
    exact hsize
  case order =>
    rw [List.pairwise_append]
    refine ⟨h.order, List.pairwise_singleton _ _, ?_⟩
    intro e he e' he'
    rw [List.mem_singleton.mp he']
    exact h.recent e he
  case recent =>
    intro e he
    rcases List.mem_append.mp he with he | he
    · exact h.recent e he
    · rw [List.mem_singleton.mp he]
  case distinct =>
    rw [List.pairwise_append]
    refine ⟨h.distinct, List.pairwise_singleton _ _, ?_⟩
    intro e he e' he'
    rw [List.mem_singleton.mp he', similarId_comm]
    exact hnew e he

end GoodBucket

variable {nodesPerBucket id peerflags ts entries} {space space' : Space} {s : Timed} (peer : Peer)
  {b : Nat}

theorem core_heardPeer :
  (heardPeer id peerflags ts peer).core = ((heardPeer id peerflags ts peer).mPeerId, ts)
  := by
  rw [Peer.core, heardPeer, Peer.mLastRecvTime_updateFrom]

theorem similarId_heardPeer :
  similarId peer.mPeerId (heardPeer id peerflags ts peer).mPeerId
  := by
  rw [heardPeer]
  exact Peer.similarId_updateFrom
    { peer with mLastRecvTime := ts, mPeerFlags := peer.mPeerFlags ||| peerflags } id

theorem GoodBucket.addToBucket {ownId : NodeId}
    (h : GoodBucket ownId nodesPerBucket ts b (entries.map Peer.core))
    (hbucket : bucketDistance (distance ownId id.id) = b) :
  GoodBucket ownId nodesPerBucket ts b
    ((addToBucket nodesPerBucket id peerflags ts entries).2.map Peer.core)
  := by
  cases addToBucket_outcome nodesPerBucket id peerflags ts entries with
  | dropped hentries =>
    rw [hentries]
    exact h
  | added hnew hroom hentries =>
    rw [hentries, List.map_append]
    apply h.push hbucket
    · rwa [List.length_map]
    · intro e he
      obtain ⟨peer, hpeer, rfl⟩ := List.mem_map.mp he
      exact hnew peer hpeer
  | evicted hnew hfull before peer after heq hexpendable hentries =>
    have hsub : (before ++ after).Sublist entries := by
      rw [heq]
      apply List.Sublist.append_left (List.sublist_cons_self peer after)
    rw [hentries, List.map_append]
    apply (h.sublist (hsub.map _)).push hbucket
    · have hsize := h.size
      rw [heq, List.length_map, List.length_append, List.length_cons] at hsize
      rw [List.length_map, List.length_append]
      omega
    · intro e he
      obtain ⟨other, hother, rfl⟩ := List.mem_map.mp he
      exact hnew other (hsub.subset hother)
  | moved before peer after heq hsimilar hentries =>
    have hsub : (before ++ after).Sublist entries := by
      rw [heq]
      apply List.Sublist.append_left (List.sublist_cons_self peer after)
    have hheard : similarId peer.mPeerId (heardPeer id peerflags ts peer).mPeerId :=
      similarId_heardPeer peer
    rw [hentries, List.map_append, List.map_singleton, core_heardPeer]
    apply (h.sublist (hsub.map _)).push
    · rw [← (similarId_iff.mp hheard).1, ← (similarId_iff.mp hsimilar).1]
      exact hbucket
    · have hsize := h.size
      rw [heq, List.length_map, List.length_append, List.length_cons] at hsize
      rw [List.length_map, List.length_append]
      omega
    · intro e he hsim
      obtain ⟨other, hother, rfl⟩ := List.mem_map.mp he
      have hpeer := similarId_trans hheard hsim
      have hdistinct := h.distinct
      rw [heq, List.map_append, List.map_cons, List.pairwise_append, List.pairwise_cons]
        at hdistinct
      obtain ⟨-, ⟨hafter, -⟩, hbefore⟩ := hdistinct
      rcases List.mem_append.mp hother with hother | hother
      · rw [similarId_comm] at hpeer
        exact hbefore _ (List.mem_map_of_mem hother) _ List.mem_cons_self hpeer
      · exact hafter _ (List.mem_map_of_mem hother) hpeer

/-! ### The invariant of the table -/

/-- The ids and receive times of the entries, by bucket. -/
def cores (space : Space) : List (List (Id × Int)) := space.buckets.map (List.map Peer.core)

/-- Every bucket is good. -/
def Sound (nodesPerBucket : ℕ+) (s : Timed) : Prop :=
  ∀ (b : Nat) (cores : List (Id × Int)), s.space.cores[b]? = some cores →
    GoodBucket s.space.mOwnId nodesPerBucket s.now b cores

theorem getElem?_cores {cores : List (Id × Int)} :
  space.cores[b]? = some cores ↔
    ∃ entries, space.buckets[b]? = some entries ∧ entries.map Peer.core = cores
  := by
  rw [Space.cores, List.getElem?_map, Option.map_eq_some_iff]

theorem sound_new (ownId : NodeId) (now : Int) :
  Sound nodesPerBucket ⟨new ownId, now⟩
  := by
  intro b cores hcores
  obtain ⟨entries, hentries, rfl⟩ := getElem?_cores.mp hcores
  have hnil : entries = [] := by
    rw [new, List.getElem?_replicate] at hentries
    split at hentries
    · exact (Option.some.inj hentries).symm
    · cases hentries
  rw [hnil]
  exact goodBucket_nil

/-- Taking entries out and changing flags keeps the invariant. -/
theorem Sound.thin (h : Sound nodesPerBucket s) (hown : space.mOwnId = s.space.mOwnId)
    (hthin : ∀ (b : Nat) (cores : List (Id × Int)), space.cores[b]? = some cores → ∃ cores',
      s.space.cores[b]? = some cores' ∧ cores.Sublist cores') :
  Sound nodesPerBucket ⟨space, s.now⟩
  := by
  intro b cores hcores
  obtain ⟨cores', hcores', hsub⟩ := hthin b cores hcores
  dsimp only
  rw [hown]
  exact (h b cores' hcores').sublist hsub

theorem Sound.of_cores_eq (h : Sound nodesPerBucket s) (hown : space.mOwnId = s.space.mOwnId)
    (hcores : space.cores = s.space.cores) :
  Sound nodesPerBucket ⟨space, s.now⟩
  := by
  apply h.thin hown
  intro b cores hb
  rw [hcores] at hb
  exact ⟨cores, hb, List.Sublist.refl _⟩

theorem cores_map_of_core {buckets : List (List Peer)} {f : Peer → Peer}
    (hf : ∀ peer, (f peer).core = peer.core) :
  (buckets.map fun entries => entries.map f).map (List.map Peer.core) =
    buckets.map (List.map Peer.core)
  := by
  rw [List.map_map]
  apply List.map_congr_left
  intro entries _
  rw [Function.comp_apply, List.map_map]
  apply List.map_congr_left
  intro peer _
  exact hf peer

theorem cores_cleanNodeFlags (space : Space) (flags : UInt32) :
  (space.cleanNodeFlags flags).2.cores = space.cores
  := by
  apply cores_map_of_core
  intro peer
  split <;> rfl

theorem cores_flagpeer (space : Space) (id : Id) (flags exFlags : UInt32) :
  (space.flagpeer id flags exFlags).cores = space.cores
  := by
  apply List.ext_getElem?
  intro b
  rw [cores, cores, List.getElem?_map, List.getElem?_map, flagpeer]
  dsimp only
  rw [List.getElem?_modify]
  cases space.buckets[b]? with
  | none => rfl
  | some entries =>
    rw [Option.map_eq_map, Option.map_some, Option.map_some, Option.map_some]
    split
    case isFalse => rfl
    case isTrue =>
      rw [List.map_map, Option.some_inj]
      apply List.map_congr_left
      intro peer _
      rw [Function.comp_apply]
      split <;> rfl

theorem core_attachEntry (space : Space) (peer : Peer) (vars : Bool × UInt32) :
  (space.attachEntry peer vars).2.core = peer.core
  := by
  rw [attachEntry]
  split <;> rfl

theorem cores_mapAccumr (space : Space) (entries : List Peer) (vars : Bool × UInt32) :
  (entries.mapAccumr space.attachEntry vars).2.map Peer.core = entries.map Peer.core
  := by
  induction entries with
  | nil => rfl
  | cons peer entries ih =>
    change Peer.core _ :: (entries.mapAccumr space.attachEntry vars).2.map Peer.core = _
    rw [ih, core_attachEntry, List.map_cons]

theorem cores_attachBuckets (space : Space) (buckets : List (List Peer)) (vars : Bool × UInt32) :
  (space.attachBuckets vars buckets).map (List.map Peer.core) = buckets.map (List.map Peer.core)
  := by
  induction buckets generalizing vars with
  | nil => rfl
  | cons entries buckets ih =>
    rw [attachBuckets, List.map_cons, ih, cores_mapAccumr, List.map_cons]

theorem cores_updateAttachedPeers (space : Space) :
  space.updateAttachedPeers.cores = space.cores
  := by
  rw [updateAttachedPeers, cores, cores]
  dsimp only
  split
  case h_1 h => rw [h]
  case h_2 h => rw [h, List.map_cons, cores_attachBuckets, List.map_cons]

theorem core_scanEntry {peer peer' : Peer} (h : space.scanEntry ts peer = some peer') :
  peer'.core = peer.core
  := by
  rw [scanEntry] at h
  split at h
  · cases h
  · rw [← Option.some.inj h]
    split <;> rfl

theorem thin_scanned {cores : List (Id × Int)} (h : (space.scanned ts).cores[b]? = some cores) :
  ∃ cores', space.cores[b]? = some cores' ∧ cores.Sublist cores'
  := by
  obtain ⟨entries, hentries, rfl⟩ := getElem?_cores.mp h
  rw [scanned] at hentries
  dsimp only at hentries
  rw [List.getElem?_map] at hentries
  obtain ⟨entries', hentries', rfl⟩ := Option.map_eq_some_iff.mp hentries
  refine ⟨_, getElem?_cores.mpr ⟨entries', hentries', rfl⟩, ?_⟩
  clear hentries hentries' h
  induction entries' with
  | nil => exact List.Sublist.refl _
  | cons peer entries ih =>
    rw [List.filterMap_cons]
    split
    case h_1 => exact ih.cons _
    case h_2 peer' hpeer =>
      rw [List.map_cons, List.map_cons, core_scanEntry hpeer]
      exact ih.cons_cons _

theorem Sound.scanOutOfDatePeers (h : Sound nodesPerBucket s) :
  Sound nodesPerBucket ⟨(s.space.scanOutOfDatePeers s.now).2, s.now⟩
  := by
  rw [Space.scanOutOfDatePeers]
  dsimp only
  split
  · apply h.thin
    case hown => rfl
    case hthin =>
      intro b cores hcores
      have hscanned : (s.space.scanned s.now).cores[b]? = some cores := by
        rw [← hcores, ← cores_updateAttachedPeers]
        rfl
      exact thin_scanned hscanned
  · apply h.thin
    case hown => rfl
    case hthin =>
      intro b cores hcores
      exact thin_scanned hcores

theorem Sound.addPeer (h : Sound nodesPerBucket s) (id : Id) (peerflags : UInt32) :
  Sound nodesPerBucket ⟨(s.space.addPeer nodesPerBucket id peerflags s.now).2, s.now⟩
  := by
  intro b cores hcores
  obtain ⟨entries', hentries', rfl⟩ := getElem?_cores.mp hcores
  rw [Space.addPeer] at hentries'
  dsimp only at hentries'
  rw [List.getElem?_modify] at hentries'
  obtain ⟨entries, hentries, rfl⟩ := Option.map_eq_some_iff.mp hentries'
  have hgood := h b _ (getElem?_cores.mpr ⟨entries, hentries, rfl⟩)
  split
  case isFalse => exact hgood
  case isTrue hb => exact hgood.addToBucket hb

/-- Every call keeps the invariant. -/
theorem Sound.next (h : Sound nodesPerBucket s) (input : Input) :
  Sound nodesPerBucket ((machine nodesPerBucket).next s input)
  := by
  cases input with
  | addPeer id peerflags => exact h.addPeer id peerflags
  | flagpeer id flags exFlags => exact h.of_cores_eq rfl (cores_flagpeer _ _ _ _)
  | cleanNodeFlags flags => exact h.of_cores_eq rfl (cores_cleanNodeFlags _ _)
  | scanOutOfDatePeers => exact h.scanOutOfDatePeers
  | updateAttachedPeers => exact h.of_cores_eq rfl (cores_updateAttachedPeers _)
  | setAttachedFlag withflags count => exact h.of_cores_eq rfl rfl
  | clear =>
    apply h.thin
    case hown => rfl
    case hthin =>
      intro b cores hcores
      rw [Space.cores, Space.clear, List.map_map, List.getElem?_map] at hcores
      obtain ⟨entries, hentries, rfl⟩ := Option.map_eq_some_iff.mp hcores
      exact ⟨_, getElem?_cores.mpr ⟨entries, hentries, rfl⟩, List.nil_sublist _⟩
  | wait seconds =>
    intro b cores hcores
    exact (h b cores hcores).wait (Int.le_add_of_nonneg_right (Int.natCast_nonneg _))

/-! ### The whole table -/

namespace Sound

variable (h : Sound nodesPerBucket s)

include h

theorem good {entries : List Peer} (hb : s.space.buckets[b]? = some entries) :
  GoodBucket s.space.mOwnId nodesPerBucket s.now b (entries.map Peer.core)
  := h b _ (getElem?_cores.mpr ⟨entries, hb, rfl⟩)

/-- Similar peers have one distance, so they are in one bucket. -/
theorem distinct :
  s.space.buckets.flatten.Pairwise fun peer peer' => ¬similarId peer.mPeerId peer'.mPeerId
  := by
  rw [List.pairwise_flatten]
  constructor
  · intro entries hentries
    obtain ⟨b, hb⟩ := List.getElem?_of_mem hentries
    have hdistinct := (h.good hb).distinct
    rwa [List.pairwise_map] at hdistinct
  · rw [List.pairwise_iff_getElem]
    intro b b' hb hb' hlt peer hpeer peer' hpeer' hsimilar
    have hbucket := (h.good (List.getElem?_eq_getElem hb)).bucket _ (List.mem_map_of_mem hpeer)
    have hbucket' := (h.good (List.getElem?_eq_getElem hb')).bucket _ (List.mem_map_of_mem hpeer')
    have hid : peer.core.1.id = peer'.core.1.id := (similarId_iff.mp hsimilar).1
    rw [hid, hbucket'] at hbucket
    exact hlt.ne' hbucket

end Sound

/-- In a table without similar peers, exactly the one is evicted that a new table leaves out. -/
theorem evicted_eq_singleton {peer : Peer} (before after : List Peer) (new : Peer)
    (hspace : space.buckets.flatten = before ++ peer :: after)
    (hspace' : ∀ other, other ∈ space'.buckets.flatten ↔ other ∈ before ∨ other ∈ after ∨ other =
      new) (hdistinct : space.buckets.flatten.Pairwise fun p p' => ¬similarId p.mPeerId p'.mPeerId)
    (hnew : ¬similarId peer.mPeerId new.mPeerId) :
  space.evicted space' = [peer]
  := by
  rw [hspace, List.pairwise_append, List.pairwise_cons] at hdistinct
  obtain ⟨-, ⟨hafter, -⟩, hbefore⟩ := hdistinct
  have hkept : ∀ other ∈ space'.buckets.flatten,
      (!space'.buckets.flatten.any fun other' =>
        similarId other.mPeerId other'.mPeerId) = false := by
    intro other hother
    rw [Bool.not_eq_false', List.any_eq_true]
    exact ⟨other, hother, similarId_self _⟩
  have hgone : (!space'.buckets.flatten.any fun other =>
      similarId peer.mPeerId other.mPeerId) = true := by
    rw [Bool.not_eq_true', List.any_eq_false]
    intro other hother
    rcases (hspace' other).mp hother with hother | hother | rfl
    · rw [similarId_comm]
      exact hbefore other hother peer List.mem_cons_self
    · exact hafter other hother
    · exact hnew
  have hfilter : ∀ l : List Peer, (∀ other ∈ l, other ∈ space'.buckets.flatten) →
      (l.filter fun other => !space'.buckets.flatten.any fun other' =>
        similarId other.mPeerId other'.mPeerId) = [] := by
    intro l hl
    rw [List.filter_eq_nil_iff]
    intro other hother
    rw [hkept other (hl other hother)]
    exact Bool.false_ne_true
  rw [evicted, hspace, List.filter_append, List.filter_cons, if_pos hgone, hfilter before,
    hfilter after, List.nil_append]
  · intro other hother
    exact (hspace' other).mpr (.inr (.inl hother))
  · intro other hother
    exact (hspace' other).mpr (.inl hother)

/-- What a table holds whose changed bucket lost one peer and got another. -/
theorem mem_evicted_iff {front back before after : List Peer} {other new : Peer} :
  other ∈ front ++ (before ++ after ++ [new] ++ back) ↔
    other ∈ front ++ before ∨ other ∈ after ++ back ∨ other = new
  := by
  constructor
  · intro hother
    rcases List.mem_append.mp hother with hfront | hother
    · exact .inl (List.mem_append_left _ hfront)
    rcases List.mem_append.mp hother with hother | hback
    · rcases List.mem_append.mp hother with hother | hnew
      · rcases List.mem_append.mp hother with hbefore | hafter
        · exact .inl (List.mem_append_right _ hbefore)
        · exact .inr (.inl (List.mem_append_left _ hafter))
      · exact .inr (.inr (List.mem_singleton.mp hnew))
    · exact .inr (.inl (List.mem_append_right _ hback))
  · rintro (hother | hother | rfl)
    · rcases List.mem_append.mp hother with hfront | hbefore
      · exact List.mem_append_left _ hfront
      · simp [hbefore]
    · rcases List.mem_append.mp hother with hafter | hback
      · simp [hafter]
      · simp [hback]
    · simp

theorem evicted_eq_nil
    (h : ∀ peer ∈ space.buckets.flatten, ∃ other ∈ space'.buckets.flatten, similarId peer.mPeerId
      other.mPeerId) :
  space.evicted space' = []
  := by
  rw [evicted, List.filter_eq_nil_iff]
  intro peer hpeer
  obtain ⟨other, hother, hsimilar⟩ := h peer hpeer
  rw [Bool.not_eq_true', Bool.not_eq_false, List.any_eq_true]
  exact ⟨other, hother, hsimilar⟩

/-- A full bucket gives up at most one entry for a new one. -/
theorem Sound.evicts (h : Sound nodesPerBucket s) (id : Id) (peerflags : UInt32) :
  s.space.evicted (s.space.addPeer nodesPerBucket id peerflags s.now).2 = [] ∨
    ∃ entries, s.space.buckets[s.space.bucketOf id.id]? = some entries ∧
      nodesPerBucket ≤ entries.length ∧
      ∃ peer ∈ entries,
        s.space.evicted (s.space.addPeer nodesPerBucket id peerflags s.now).2 = [peer] ∧
          Expendable peerflags s.now entries peer
  := by
  by_cases hb : s.space.bucketOf id.id < s.space.buckets.length
  case neg =>
    have hsame : (s.space.addPeer nodesPerBucket id peerflags s.now).2 = s.space := by
      rw [Space.addPeer, List.modify_eq_self (Nat.le_of_not_lt hb)]
    left
    rw [hsame]
    apply evicted_eq_nil
    intro peer hpeer
    exact ⟨peer, hpeer, similarId_self _⟩
  case pos =>
    obtain ⟨front, entries, back, hbuckets, hfront, hmodify⟩ := List.exists_of_modify
      (fun entries => (Space.addToBucket nodesPerBucket id peerflags s.now entries).2) hb
    have hspace' : (s.space.addPeer nodesPerBucket id peerflags s.now).2.buckets.flatten =
        front.flatten ++ ((Space.addToBucket nodesPerBucket id peerflags s.now entries).2 ++
          back.flatten) := by
      rw [Space.addPeer]
      dsimp only
      rw [hmodify, List.flatten_append, List.flatten_cons]
    have hspace : s.space.buckets.flatten = front.flatten ++ (entries ++ back.flatten) := by
      rw [hbuckets, List.flatten_append, List.flatten_cons]
    have hentries : s.space.buckets[s.space.bucketOf id.id]? = some entries := by
      rw [hbuckets, ← hfront, List.getElem?_append_right (Nat.le_refl _), Nat.sub_self]
      rfl
    cases addToBucket_outcome nodesPerBucket id peerflags s.now entries with
    | dropped hsame =>
      left
      apply evicted_eq_nil
      intro peer hpeer
      refine ⟨peer, ?_, similarId_self _⟩
      rwa [hspace', hsame, ← hspace]
    | added hnew hroom hadded =>
      left
      apply evicted_eq_nil
      intro peer hpeer
      refine ⟨peer, ?_, similarId_self _⟩
      rw [hspace] at hpeer
      rw [hspace', hadded]
      simp only [List.mem_append] at hpeer ⊢
      tauto
    | moved before peer after heq hsimilar hmoved =>
      left
      apply evicted_eq_nil
      intro other hother
      rw [hspace, heq] at hother
      simp only [hspace', hmoved, List.mem_append, List.mem_cons, List.not_mem_nil, or_false]
        at hother ⊢
      rcases hother with hother | (hother | rfl | hother) | hother
      · exact ⟨other, .inl hother, similarId_self _⟩
      · exact ⟨other, .inr (.inl (.inl (.inl hother))), similarId_self _⟩
      · exact ⟨_, .inr (.inl (.inr rfl)), similarId_heardPeer other⟩
      · exact ⟨other, .inr (.inl (.inl (.inr hother))), similarId_self _⟩
      · exact ⟨other, .inr (.inr hother), similarId_self _⟩
    | evicted hnew hfull before peer after heq hexpendable hevicted =>
      right
      refine ⟨entries, hentries, hfull, peer, ?_, ?_, hexpendable⟩
      · rw [heq]
        exact List.mem_append_right _ List.mem_cons_self
      · apply evicted_eq_singleton (front.flatten ++ before) (after ++ back.flatten)
          (newPeer id peerflags s.now)
        · rw [hspace, heq, List.append_assoc, List.append_assoc, List.cons_append]
        · intro other
          rw [hspace', hevicted]
          exact mem_evicted_iff
        · exact h.distinct
        · rw [similarId_comm]
          apply hnew peer
          rw [heq]
          exact List.mem_append_right _ List.mem_cons_self

/-- For every own id and every sequence of calls with a clock that does not go back, the table is
well formed. -/
theorem wellFormed_run (nodesPerBucket : ℕ+) (ownId : NodeId) (now : Int) (inputs : List Input) :
  WellFormed nodesPerBucket ((machine nodesPerBucket).run ⟨new ownId, now⟩ inputs)
  := by
  have h : Sound nodesPerBucket ((machine nodesPerBucket).run ⟨new ownId, now⟩ inputs) := by
    apply Machine.run_of_next (P := Sound nodesPerBucket)
    · intro s input hs
      exact hs.next input
    · exact sound_new ownId now
  constructor
  case bucket =>
    intro b entries hb peer hpeer
    have hcore : peer.core ∈ entries.map Peer.core := List.mem_map_of_mem hpeer
    exact (h.good hb).bucket peer.core hcore
  case size =>
    intro entries hentries
    obtain ⟨b, hb⟩ := List.getElem?_of_mem hentries
    have hsize := (h.good hb).size
    rwa [List.length_map] at hsize
  case order =>
    intro entries hentries
    obtain ⟨b, hb⟩ := List.getElem?_of_mem hentries
    have horder := (h.good hb).order
    rwa [List.pairwise_map] at horder
  case distinct => exact h.distinct
  case evicts => exact h.evicts

/-- In every run `find_node` and `find_exactnode` find what is in the table, and only once. -/
theorem lookups_run (nodesPerBucket : ℕ+) (ownId : NodeId) (now : Int) (inputs : List Input) :
  let space := ((machine nodesPerBucket).run ⟨new ownId, now⟩ inputs).space
  (∀ id matchIds withFlags, ∃ found : List Id, found.Nodup ∧
    space.findNode id matchIds withFlags = (found.length, matchIds ++ found) ∧
    ∀ who, who ∈ found ↔ who.id = id ∧
      ∃ peer ∈ space.buckets.flatten, peer.mPeerId = who ∧ hasFlags withFlags peer) ∧
  ∀ who peer, space.findExactnode who = some peer ↔
    peer ∈ space.buckets.flatten ∧ peer.mPeerId = who
  := by
  intro space
  have h := Machine.run_of_next (P := Sound nodesPerBucket) (fun _ input hs => hs.next input)
    (sound_new ownId now) inputs
  have hnodup : (space.buckets.flatten.map Peer.mPeerId).Nodup := by
    rw [List.Nodup, List.pairwise_map]
    apply h.distinct.imp
    intro p q hpq heq
    exact hpq (heq ▸ similarId_self _)
  have hsub : ∀ id, (space.lookedIn id).Sublist space.buckets.flatten := by
    intro id
    rw [lookedIn]
    cases hb : space.buckets[bucketDistance (distance id space.mOwnId)]? with
    | none => exact List.nil_sublist _
    | some entries => exact List.sublist_flatten_of_mem (List.mem_of_getElem? hb)
  have hin : ∀ peer ∈ space.buckets.flatten, peer ∈ space.lookedIn peer.mPeerId.id := by
    intro peer hpeer
    obtain ⟨entries, hentries, hmem⟩ := List.mem_flatten.1 hpeer
    obtain ⟨b, hb⟩ := List.getElem?_of_mem hentries
    have hcore : peer.core ∈ entries.map Peer.core := List.mem_map_of_mem hmem
    have hbucket := (h.good hb).bucket peer.core hcore
    dsimp only [Peer.core] at hbucket
    rwa [lookedIn, distance_comm, hbucket, hb]
  constructor
  · intro id matchIds withFlags
    refine ⟨_, ?_, by rw [findNode, List.length_map], ?_⟩
    · exact hnodup.sublist ((List.filter_sublist.trans (hsub id)).map _)
    · intro who
      simp only [List.mem_map, List.mem_filter, Bool.and_eq_true, decide_eq_true_eq]
      constructor
      · rintro ⟨peer, ⟨hpeer, hflags, rfl⟩, rfl⟩
        exact ⟨rfl, peer, (hsub _).subset hpeer, rfl, hflags⟩
      · rintro ⟨rfl, peer, hpeer, rfl, hflags⟩
        exact ⟨peer, ⟨hin peer hpeer, hflags, rfl⟩, rfl⟩
  · intro who peer
    have hfound : ∀ q, space.findExactnode who = some q →
        q ∈ space.buckets.flatten ∧ q.mPeerId = who := by
      intro q hq
      rw [findExactnode] at hq
      have hwho := List.find?_some hq
      exact ⟨(hsub _).subset (List.mem_of_find?_eq_some hq), (of_decide_eq_true hwho).symm⟩
    refine ⟨hfound peer, ?_⟩
    rintro ⟨hpeer, rfl⟩
    cases hq : space.findExactnode peer.mPeerId with
    | none => cases List.find?_eq_none.1 hq peer (hin peer hpeer) (by simp)
    | some q => rw [List.inj_on_of_nodup_map hnodup (hfound q hq).1 hpeer (hfound q hq).2]

end Space

end Dht
