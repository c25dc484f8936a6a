import RetroShare.Dht.QueryReads
import RetroShare.Lib.Nearest

/-!
# The closest peers of a query

While every peer that is asked answers in time, a query that starts without peers keeps the
`mClosestListSize` closest ones of those that have sent it a message (`holdsClosest_run`).

An answer is recorded unless the list is full of peers that are not farther away than the one that
answers, which counts itself among them (`recorded_iff`).
-/

namespace Dht

/-- What similar ids have in common. -/
def Id.who (id : Id) : NodeId × UInt32 := (id.id, id.sAddr)

theorem similarId_iff_who {id id' : Id} :
  similarId id id' ↔ id.who = id'.who
  := by
  rw [similarId_iff, Id.who, Id.who, Prod.mk.injEq]

namespace Query

variable {q q' : Query} {id : Id} {mode : UInt32} {ts now : Int} {offers : List Id} (peer : Peer)
  {r : Option (Id × NodeId) × Query} {rnd : NodeId} {s s' : Timed} {input : Input}

/-- The closest peers, up to similarity. -/
def listed (q : Query) : List (NodeId × UInt32) := q.mClosest.toList.map fun e => e.2.mPeerId.who

/-- Every entry lies at the distance of its peer. -/
def Keyed (q : Query) : Prop :=
  ∀ e ∈ q.mClosest.toList, e.1 = distance q.mId e.2.mPeerId.id

/-! ### Entries that are updated -/

theorem who_updateFrom (id : Id) :
  (peer.updateFrom id).mPeerId.who = peer.mPeerId.who
  := (similarId_iff_who.mp (peer.similarId_updateFrom id)).symm

theorem who_heardClosest :
  (heardClosest id mode ts peer).mPeerId.who = peer.mPeerId.who
  := by
  rw [heardClosest]
  split
  · split
    · exact who_updateFrom peer id
    · rfl
  · split
    · exact who_updateFrom peer id
    · rfl

/-- An update of an entry that leaves its peer alone. -/
theorem Keyed.modifyFirst (h : q.Keyed) (p : NodeId × Peer → Bool) {f : Peer → Peer}
    (hf : ∀ peer, (f peer).mPeerId.who = peer.mPeerId.who) :
  Keyed { q with mClosest := q.mClosest.modifyFirst p f } ∧
    listed { q with mClosest := q.mClosest.modifyFirst p f } = q.listed
  := by
  have hid : ∀ peer, (f peer).mPeerId.id = peer.mPeerId.id := by
    intro peer
    exact congrArg Prod.fst (hf peer)
  constructor
  · have hmap := MultiMap.map_toList_modifyFirst (m := q.mClosest)
      (g := fun e => (e.1, e.2.mPeerId.id)) p (f := f) fun k v => by rw [hid]
    intro e he
    have hmem := List.mem_map_of_mem (f := fun e => (e.1, e.2.mPeerId.id)) he
    rw [hmap, List.mem_map] at hmem
    obtain ⟨e', he', heq⟩ := hmem
    obtain ⟨hkey, hpeer⟩ := Prod.mk.injEq .. ▸ heq
    rw [← hkey, ← hpeer]
    exact h e' he'
  · exact MultiMap.map_toList_modifyFirst p fun k v => hf v

/-! ### Offers -/

/-- The distance of a peer to the id that is looked for. -/
def peerDistance (mId : NodeId) (who : NodeId × UInt32) : NodeId := distance mId who.1

/-- The closest peers are the `mClosestListSize` closest ones of those that have been offered:
fewer than `mClosestListSize` others are closer, or as close and were offered earlier. -/
def HoldsClosest (q : Query) (offers : List Id) : Prop :=
  q.listed.Nodup ∧
    ∀ who, who ∈ q.listed ↔ who ∈ offers.map Id.who ∧
      (offers.map Id.who).dedup.countP
        (Nearest.Before (peerDistance q.mId) (offers.map Id.who) · who) < closestListSize

/-- The closest peers are the closest ones of those that have been offered, in their order. -/
structure Ranked (q : Query) (offers : List Id) : Prop where
  keyed : q.Keyed
  ranks : Nearest.Ranks (peerDistance q.mId) closestListSize (offers.map Id.who) q.listed

theorem Ranked.holdsClosest (h : q.Ranked offers) :
  q.HoldsClosest offers
  := ⟨h.ranks.nodup, fun _ => h.ranks.mem_iff⟩

theorem Keyed.length_closer (h : q.Keyed) :
  (q.closer id).length = q.listed.countP (peerDistance q.mId · ≤ peerDistance q.mId id.who)
  := by
  rw [closer, MultiMap.takeWhile_le, ← List.countP_eq_length_filter, listed, List.countP_map]
  apply List.countP_congr
  intro e he
  rw [h e he]
  rfl

theorem Keyed.any_isPeer_iff (h : q.Keyed) :
  q.mClosest.toList.any (q.isPeer id) ↔ id.who ∈ q.listed
  := by
  rw [List.any_eq_true, listed, List.mem_map]
  apply exists_congr
  intro e
  apply and_congr_right
  intro he
  rw [isPeer, Bool.and_eq_true, decide_eq_true_eq, similarId_iff_who, h e he, eq_comm (a := id.who)]
  apply and_iff_right_of_imp
  intro hwho
  rw [Id.who, Id.who, Prod.mk.injEq] at hwho
  rw [hwho.1]

/-- The list with a new peer. -/
theorem Keyed.insert (h : q.Keyed) (peer : Peer) :
  Keyed { q with
      mClosest := (q.mClosest.take (closestListSize - 1)).insert
        (distance q.mId peer.mPeerId.id) peer } ∧
    listed { q with
        mClosest := (q.mClosest.take (closestListSize - 1)).insert
          (distance q.mId peer.mPeerId.id) peer } =
      Nearest.place (peerDistance q.mId) peer.mPeerId.who (q.listed.take (closestListSize - 1))
  := by
  have htake : ∀ e ∈ (q.mClosest.take (closestListSize - 1)).toList, e ∈ q.mClosest.toList :=
    fun e he => List.mem_of_mem_take he
  constructor
  · intro e he
    rw [(MultiMap.toList_insert_perm _ _).mem_iff, List.mem_cons] at he
    rcases he with rfl | he
    · rfl
    · exact h e (htake e he)
  · have hfilter : ∀ (p : NodeId → Bool),
        ((q.mClosest.take (closestListSize - 1)).toList.filter fun e => p e.1).map
            (fun e => e.2.mPeerId.who) =
          (q.listed.take (closestListSize - 1)).filter fun who => p (peerDistance q.mId who) := by
      intro p
      rw [listed, ← List.map_take, List.filter_map]
      congr 1
      apply List.filter_congr
      intro e he
      rw [h e (htake e he)]
      rfl
    rw [listed, MultiMap.insert, List.map_append, List.map_cons, Nearest.place]
    congr 1
    · exact hfilter fun d => decide (d ≤ distance q.mId peer.mPeerId.id)
    · congr 1
      exact hfilter fun d => !decide (d ≤ distance q.mId peer.mPeerId.id)

theorem Ranked.addClosestPeer (h : q.Ranked offers)
    (hquiet : ∀ e ∈ q.mClosest.toList, ¬ silent ts e.2) :
  (q.addClosestPeer id mode ts).2.Ranked (offers ++ [id])
  := by
  have hdrop : q.toDrop id ts = 0 := by
    rw [toDrop, List.countP_eq_zero]
    intro e he
    exact hquiet e (List.takeWhile_subset _ he)
  have hlength := @Keyed.length_closer _ id h.keyed
  have hany := @Keyed.any_isPeer_iff _ id h.keyed
  have hsize : closestListSize = 15 := rfl
  have hranks := h.ranks
  rw [Query.addClosestPeer, hdrop, Nat.sub_zero, hlength, dropSilent]
  by_cases hnew : id.who ∈ offers.map Id.who
  · -- a peer that is not listed any more is too far away
    have hagain : Nearest.Ranks (peerDistance q.mId) closestListSize
        ((offers ++ [id]).map Id.who) q.listed := by
      rw [List.map_append]
      exact hranks.again hnew
    split
    case isTrue => exact ⟨h.keyed, hagain⟩
    case isFalse hnear =>
      rw [if_pos]
      · obtain ⟨hkeyed, hlisted⟩ := h.keyed.modifyFirst (q.isPeer id)
          (f := heardClosest id mode ts) fun peer => who_heardClosest peer
        refine ⟨hkeyed, ?_⟩
        rw [hlisted]
        exact hagain
      · rw [hany]
        by_contra hnot
        rw [hranks.countP_of_notMem hnew hnot] at hnear
        omega
  · have hnot : id.who ∉ q.listed := fun hmem => hnew (hranks.subset hmem)
    split
    case isTrue hfar =>
      refine ⟨h.keyed, ?_⟩
      rw [List.map_append]
      apply hranks.pass hnew
      omega
    case isFalse hnear =>
      rw [if_neg (hany.not.mpr hnot)]
      obtain ⟨hkeyed, hlisted⟩ := h.keyed.insert (closestPeer id mode ts)
      refine ⟨hkeyed, ?_⟩
      rw [List.map_append]
      apply Eq.subst hlisted.symm
      apply hranks.place hnew
      omega

/-! ### Other calls -/

/-- Two queries with the same target and the same closest peers. -/
def SameClosest (q q' : Query) : Prop := q'.mId = q.mId ∧ q'.mClosest = q.mClosest

theorem SameClosest.trans {q'' : Query} (h : SameClosest q q') (h' : SameClosest q' q'') :
  SameClosest q q''
  := ⟨h'.1.trans h.1, h'.2.trans h.2⟩

theorem SamePeers.sameClosest (h : SamePeers q q') :
  SameClosest q q'
  := ⟨h.1, h.2.1⟩

theorem SameClosest.keyed (h : SameClosest q q') (hkeyed : q.Keyed) :
  q'.Keyed
  := by
  rw [Keyed, h.1, h.2]
  exact hkeyed

theorem SameClosest.ranked (h : SameClosest q q') (hranked : q.Ranked offers) :
  q'.Ranked offers
  := by
  refine ⟨h.keyed hranked.keyed, ?_⟩
  rw [listed, h.1, h.2]
  exact hranked.ranks

theorem sameClosest_updatePotentialPeer {addType : AddType} {r : Bool × Query}
    (h : q.updatePotentialPeer id mode addType now = some r) :
  SameClosest q r.2
  := by
  rw [updatePotentialPeer] at h
  split at h
  case h_1 =>
    obtain rfl := Option.some.inj h
    exact ⟨rfl, rfl⟩
  case h_2 =>
    obtain ⟨q', htrim, rfl⟩ := Option.map_eq_some_iff.mp h
    rw [trimPotentialPeersToClosest] at htrim
    split at htrim
    case isTrue =>
      obtain rfl := Option.some.inj htrim
      exact ⟨rfl, rfl⟩
    case isFalse =>
      split at htrim
      case h_1 => cases htrim
      case h_2 =>
        obtain rfl := Option.some.inj htrim
        exact ⟨rfl, rfl⟩

theorem sameClosest_addPeer (h : q.addPeer id mode now = some q') :
  SameClosest (q.addClosestPeer id mode now).2 q'
  := by
  obtain ⟨r, hr, rfl⟩ := Option.map_eq_some_iff.mp h
  apply (sameClosest_updatePotentialPeer hr).trans
  apply SamePeers.sameClosest
  exact samePeers_updateProxyLists.trans ⟨rfl, rfl, rfl⟩

theorem sameClosest_addPotentialPeer {src : Option Id} {srcmode : UInt32} {r : Bool × Query}
    (h : q.addPotentialPeer id src srcmode now = some r) :
  SameClosest q r.2
  := by
  have hproxy : SameClosest q (q.addProxy id src srcmode now) :=
    (samePeers_addProxy src srcmode).sameClosest
  rw [addPotentialPeer] at h
  split at h
  case isTrue => exact hproxy.trans (sameClosest_updatePotentialPeer h)
  case isFalse =>
    obtain rfl := Option.some.inj h
    exact hproxy

/-- A question marks the peer that is asked. -/
theorem nextQuery_closest (h : q.nextQuery rnd now = some r) :
  r.2.mId = q.mId ∧ (r.2.mClosest = q.mClosest ∨
    ∃ p, r.2.mClosest = q.mClosest.modifyFirst p fun peer => { peer with mLastSendTime := now })
  := by
  have hretry : SameClosest q (q.updateRetryPeriod now) := by
    rw [updateRetryPeriod]
    split <;> exact ⟨rfl, rfl⟩
  rw [nextQuery] at h
  split at h
  case isTrue =>
    obtain rfl := Option.some.inj h
    exact ⟨rfl, .inl rfl⟩
  case isFalse =>
    dsimp only at h
    split at h
    case h_1 =>
      obtain rfl := Option.some.inj h
      refine ⟨hretry.1, .inr ⟨fun e => (q.updateRetryPeriod now).queryPeer now e.2, ?_⟩⟩
      rw [hretry.2]
    case h_2 =>
      split at h
      case isTrue =>
        obtain ⟨q', hfinish, rfl⟩ := Option.map_eq_some_iff.mp h
        obtain ⟨state, -, rfl⟩ := Option.map_eq_some_iff.mp hfinish
        have hold : ∀ q : Query, SameClosest q (q.removeOldPotentialPeers now) := by
          intro q
          rw [removeOldPotentialPeers]
          split <;> exact ⟨rfl, rfl⟩
        have hsearch : ∀ q : Query, SameClosest q
            (if q.mState = .querying then { q with mSearchTime := int32 (now - q.mQueryTS) }
              else q) := by
          intro q
          split <;> exact ⟨rfl, rfl⟩
        have hsame := hretry.trans ((hsearch _).trans (hold _))
        exact ⟨hsame.1, .inl hsame.2⟩
      case isFalse =>
        obtain rfl := Option.some.inj h
        exact ⟨hretry.1, .inl hretry.2⟩

theorem nextQuery_listed (hkeyed : q.Keyed) (h : q.nextQuery rnd now = some r) :
  r.2.mId = q.mId ∧ r.2.Keyed ∧ r.2.listed = q.listed
  := by
  obtain ⟨hid, hclosest⟩ := nextQuery_closest h
  refine ⟨hid, ?_⟩
  rw [Keyed, listed, hid]
  rcases hclosest with hclosest | ⟨p, hclosest⟩
  · rw [hclosest]
    exact ⟨hkeyed, rfl⟩
  · rw [hclosest]
    exact hkeyed.modifyFirst p fun _ => rfl

/-! ### Runs -/

/-- The peers that have sent messages, in their order. -/
def offered (inputs : List Input) : List Id :=
  inputs.filterMap fun
    | .addPeer id _ => some id
    | _ => none

theorem Ranked.new (id : NodeId) (queryFlags : UInt32) (start : Int) :
  (new id [] queryFlags start).Ranked []
  where
  keyed _ he := absurd he List.not_mem_nil
  ranks := .nil

/-- A call keeps the closest peers when no peer is silent while a message arrives. -/
theorem Ranked.step (h : s.query.Ranked offers) (hstep : s.step input = some s')
    (hquiet : (∃ id mode, input = .addPeer id mode) → ∀ e ∈ s.query.mClosest.toList, ¬ silent s.now
      e.2) :
  s'.query.Ranked (offers ++ offered [input])
  := by
  cases input with
  | addPeer id mode =>
    obtain ⟨q, hq, rfl⟩ := Option.map_eq_some_iff.mp hstep
    apply (sameClosest_addPeer hq).ranked
    exact h.addClosestPeer (hquiet ⟨id, mode, rfl⟩)
  | addPotentialPeer id src srcmode =>
    obtain ⟨r, hr, rfl⟩ := Option.map_eq_some_iff.mp hstep
    rw [offered, List.filterMap_cons_none rfl, List.filterMap_nil, List.append_nil]
    exact (sameClosest_addPotentialPeer hr).ranked h
  | nextQuery rnd =>
    obtain ⟨r, hr, rfl⟩ := Option.map_eq_some_iff.mp hstep
    rw [offered, List.filterMap_cons_none rfl, List.filterMap_nil, List.append_nil]
    obtain ⟨hid, hkeyed, hlisted⟩ := nextQuery_listed h.keyed hr
    refine ⟨hkeyed, ?_⟩
    rw [hid, hlisted]
    exact h.ranks
  | wait seconds =>
    obtain rfl := Option.some.inj hstep
    rw [offered, List.filterMap_cons_none rfl, List.filterMap_nil, List.append_nil]
    exact h

/-- A query that starts without peers keeps the closest ones of those that have sent a message,
when no peer on the list is silent while a message arrives. -/
theorem holdsClosest_run (id : NodeId) (queryFlags : UInt32) (start : Int) {inputs : List Input}
    {s : Timed} (hrun : Timed.run ⟨new id [] queryFlags start, start⟩ inputs = some s)
    (hquiet : ∀ done id' mode rest, inputs = done ++ .addPeer id' mode :: rest →
      ∀ s, Timed.run ⟨new id [] queryFlags start, start⟩ done = some s →
        ∀ e ∈ s.query.mClosest.toList, ¬ silent s.now e.2) :
  s.query.HoldsClosest (offered inputs)
  := by
  apply Ranked.holdsClosest
  have hinv := Folds.foldlM_of_step
    (P := fun done s => s.query.Ranked (offered done) ∧
      Timed.run ⟨new id [] queryFlags start, start⟩ done = some s) (l := inputs) ?_
    ⟨Ranked.new id queryFlags start, rfl⟩ hrun
  · exact hinv.1
  · rintro done input rest s s' hinputs ⟨hranked, hdone⟩ hstep
    constructor
    · rw [offered, List.filterMap_append]
      apply hranked.step hstep
      rintro ⟨id', mode, rfl⟩
      exact hquiet done id' mode rest hinputs s hdone
    · rw [Timed.run, List.foldlM_append, ← Timed.run, hdone]
      exact congrArg (Option.bind · some) hstep

/-- The peers of the run below. -/
def messages : List Input := [.addPeer (peerAt 2) recvNodes, .addPeer (peerAt 1) recvNodes]

/-- The query after these messages. -/
def afterMessages : Timed := (Timed.run ⟨new zeroNodeId [] 0 1, 1⟩ messages).get (by decide +kernel)

theorem holdsClosest_messages :
  afterMessages.query.HoldsClosest (offered messages)
  := by
  apply holdsClosest_run zeroNodeId 0 1 (Option.some_get _).symm
  intro done id mode rest hinputs s hs
  match done with
  | [] =>
    obtain rfl := Option.some.inj hs
    exact fun e he => absurd he List.not_mem_nil
  | [input] =>
    obtain ⟨rfl, -⟩ := List.cons.inj hinputs
    have hquiet : ∀ s ∈ Timed.run ⟨new zeroNodeId [] 0 1, 1⟩ [.addPeer (peerAt 2) recvNodes],
        ∀ e ∈ s.query.mClosest.toList, ¬ silent s.now e.2 := by decide +kernel
    exact hquiet s hs
  | _ :: _ :: done =>
    have hlength := congrArg List.length hinputs
    simp [messages] at hlength

/-! ### Answers -/

/-- An answer of a peer has been recorded now. -/
def Recorded (q : Query) (id : Id) (mode : UInt32) (now : Int) : Prop :=
  ∃ e ∈ q.mClosest.toList, similarId id e.2.mPeerId ∧ e.2.mLastRecvTime = now ∧
    e.2.mPeerFlags &&& mode = mode

/-- The entries that `addClosestPeer` counts: those at most as far away that are not silent. -/
def nearCount (q : Query) (id : Id) (now : Int) : Nat := (q.closer id).length - q.toDrop id now

theorem dropSilent_subset (n : Nat) (closest : MultiMap NodeId Peer) :
  (dropSilent ts n closest).toList ⊆ closest.toList
  := by
  induction n generalizing closest with
  | zero => exact List.Subset.refl _
  | succ n ih => exact List.Subset.trans (ih _) List.eraseP_subset

theorem Keyed.new (id : NodeId) (startList : List Id) (queryFlags : UInt32) (start : Int) :
  (Query.new id startList queryFlags start).Keyed
  := by
  have hkeys := Folds.foldl_of_step (l := startList) (b := (MultiMap.empty : MultiMap NodeId Peer))
    (f := fun closest id' => closest.insert (distance id id'.id) (startPeer start id'))
    (P := fun _ closest => ∀ e ∈ closest.toList, e.1 = distance id e.2.mPeerId.id) ?_ ?_
  · exact hkeys
  · rintro - id' - closest - h e he
    rw [(MultiMap.toList_insert_perm _ _).mem_iff, List.mem_cons] at he
    rcases he with rfl | he
    · rfl
    · exact h e he
  · exact fun e he => absurd he List.not_mem_nil

theorem Keyed.addClosestPeer (h : q.Keyed) :
  (q.addClosestPeer id mode ts).2.Keyed
  := by
  rw [Query.addClosestPeer]
  split
  case isTrue => exact h
  case isFalse =>
    split
    case isTrue => exact (h.modifyFirst _ who_heardClosest).1
    case isFalse =>
      have hdropped : Keyed { q with mClosest := dropSilent ts (q.toDrop id ts) q.mClosest } :=
        fun e he => h e (dropSilent_subset _ _ he)
      exact (hdropped.insert (closestPeer id mode ts)).1

theorem Keyed.step (h : s.query.Keyed) (hstep : s.step input = some s') :
  s'.query.Keyed
  := by
  cases input with
  | addPeer id mode =>
    obtain ⟨q, hq, rfl⟩ := Option.map_eq_some_iff.mp hstep
    exact (sameClosest_addPeer hq).keyed h.addClosestPeer
  | addPotentialPeer id src srcmode =>
    obtain ⟨r, hr, rfl⟩ := Option.map_eq_some_iff.mp hstep
    exact (sameClosest_addPotentialPeer hr).keyed h
  | nextQuery rnd =>
    obtain ⟨r, hr, rfl⟩ := Option.map_eq_some_iff.mp hstep
    exact (nextQuery_listed h hr).2.1
  | wait seconds =>
    obtain rfl := Option.some.inj hstep
    exact h

theorem keyed_run (id : NodeId) (startList : List Id) (queryFlags : UInt32) (start : Int)
    {inputs : List Input}
    (hrun : Timed.run ⟨new id startList queryFlags start, start⟩ inputs = some s) :
  s.query.Keyed
  := by
  apply Folds.foldlM_of_step (P := fun _ s => s.query.Keyed) (l := inputs) _ _ hrun
  · exact fun _ _ _ _ _ _ h hstep => h.step hstep
  · exact Keyed.new id startList queryFlags start

theorem heardClosest_of_recvNodes (hmode : mode &&& recvNodes ≠ 0) (peer : Peer) :
  (heardClosest id mode ts peer).mLastRecvTime = ts ∧
    (heardClosest id mode ts peer).mPeerFlags &&& mode = mode
  := by
  rw [heardClosest, if_pos hmode]
  refine ⟨rfl, ?_⟩
  dsimp only
  apply UInt32.toBitVec_inj.mp
  rw [UInt32.toBitVec_and, UInt32.toBitVec_or]
  ext i hi
  rw [BitVec.getElem_and, BitVec.getElem_or, Bool.and_eq_right_iff_imp]
  exact fun hbit => Bool.or_eq_true_iff.mpr (.inr hbit)

/-- An answer of a listed peer is recorded by `addClosestPeer` when the list is not full of peers
that are as close. -/
theorem Keyed.recorded_addClosestPeer_iff (h : q.Keyed) (hlisted : id.who ∈ q.listed)
    (hmode : mode &&& recvNodes ≠ 0) :
  (q.addClosestPeer id mode now).2.Recorded id mode now ↔
    q.nearCount id now < closestListSize ∨ q.Recorded id mode now
  := by
  have hsize : closestListSize = 15 := rfl
  rw [Query.addClosestPeer, ← nearCount, if_pos (h.any_isPeer_iff.mpr hlisted)]
  split
  case isTrue hfar => rw [or_iff_right (by omega)]
  case isFalse hnear =>
    apply iff_of_true _ (.inl (by omega))
    obtain ⟨e, he⟩ : ∃ e, q.mClosest.toList.find? (q.isPeer id) = some e := by
      rw [← Option.isSome_iff_exists, List.find?_isSome, ← List.any_eq_true]
      exact h.any_isPeer_iff.mpr hlisted
    obtain ⟨hrecv, hflags⟩ := @heardClosest_of_recvNodes id mode now hmode e.2
    refine ⟨_, MultiMap.mem_toList_modifyFirst he, ?_, hrecv, hflags⟩
    have hpeer := List.find?_some he
    rw [isPeer, Bool.and_eq_true, similarId_iff_who] at hpeer
    rw [similarId_iff_who, who_heardClosest, hpeer.2]

/-- The answer of a listed peer is recorded if and only if fewer than `mClosestListSize` peers that
are not silent are as close, itself among them, or if it has been recorded now before. -/
theorem recorded_iff (id : NodeId) (startList : List Id) (queryFlags : UInt32) (start : Int)
    {inputs : List Input} {s : Timed}
    (hrun : Timed.run ⟨new id startList queryFlags start, start⟩ inputs = some s) {id' : Id}
    {mode : UInt32} (hlisted : ∃ e ∈ s.query.mClosest.toList, similarId id' e.2.mPeerId)
    (hmode : mode &&& recvNodes ≠ 0) :
  ∃ q, s.query.addPeer id' mode s.now = some q ∧
    (q.Recorded id' mode s.now ↔
      s.query.nearCount id' s.now < closestListSize ∨ s.query.Recorded id' mode s.now)
  := by
  obtain ⟨q, hq⟩ := Option.isSome_iff_exists.mp
    (@isSome_addPeer s.query id' mode s.now)
  have hwho : id'.who ∈ s.query.listed := by
    obtain ⟨e, he, hsimilar⟩ := hlisted
    rw [similarId_iff_who] at hsimilar
    rw [hsimilar]
    exact List.mem_map_of_mem he
  refine ⟨q, hq, ?_⟩
  rw [← (keyed_run id startList queryFlags start hrun).recorded_addClosestPeer_iff hwho hmode,
    Recorded, (sameClosest_addPeer hq).2]
  rfl

theorem recorded_iff_messages :
  ∃ q, afterMessages.query.addPeer (peerAt 2) recvNodes afterMessages.now = some q ∧
    q.Recorded (peerAt 2) recvNodes afterMessages.now
  := by
  have hrun : Timed.run ⟨new zeroNodeId [] 0 1, 1⟩ messages = some afterMessages :=
    (Option.some_get _).symm
  have hlisted : ∃ e ∈ afterMessages.query.mClosest.toList, similarId (peerAt 2) e.2.mPeerId := by
    decide +kernel
  obtain ⟨q, hq, hiff⟩ := recorded_iff zeroNodeId [] 0 1 hrun hlisted
    (show recvNodes &&& recvNodes ≠ 0 by decide)
  exact ⟨q, hq, hiff.mpr (.inl (by decide +kernel))⟩

/-- Fifteen peers send a message, and the one that is farthest away answers a second later. -/
def fifteenPeers : List Input :=
  ([1, 2, 3, 4, 5, 6, 7, 8, 9, 10, 11, 12, 13, 14, 15].map
    fun n => .addPeer (peerAt n) recvNodes) ++ [.wait 1]

theorem isSome_run_of_safe {inputs : List Input} (hsafe : ∀ input ∈ inputs, ∀ s, Safe s input)
    (s : Timed) :
  (Timed.run s inputs).isSome
  := by
  induction inputs generalizing s with
  | nil => rfl
  | cons input inputs ih =>
    rw [List.forall_mem_cons] at hsafe
    obtain ⟨s', hs'⟩ := Option.isSome_iff_exists.mp ((isSome_step (s := s) input).mpr (hsafe.1 s))
    rw [Timed.run, List.foldlM_cons, hs']
    exact ih hsafe.2 s'

theorem isSome_run_fifteenPeers :
  (Timed.run ⟨new zeroNodeId [] 0 1, 1⟩ fifteenPeers).isSome
  := by
  apply isSome_run_of_safe
  intro input hinput s
  rw [fifteenPeers, List.mem_append, List.mem_map, List.mem_singleton] at hinput
  rcases hinput with ⟨n, -, rfl⟩ | rfl
  · trivial
  · trivial

/-- The query before that answer. -/
def afterFifteen : Timed :=
  (Timed.run ⟨new zeroNodeId [] 0 1, 1⟩ fifteenPeers).get isSome_run_fifteenPeers

/-- The second answer is not recorded. -/
theorem not_recorded_fifteenPeers :
  ¬ ∀ inputs s, Timed.run ⟨new zeroNodeId [] 0 1, 1⟩ inputs = some s →
    ∀ id mode, (∃ e ∈ s.query.mClosest.toList, similarId id e.2.mPeerId) →
      mode &&& recvNodes ≠ 0 →
        ∃ q, s.query.addPeer id mode s.now = some q ∧ q.Recorded id mode s.now
  := by
  intro h
  have hfacts : (∃ e ∈ afterFifteen.query.mClosest.toList, similarId (peerAt 15) e.2.mPeerId) ∧
      ∀ q ∈ afterFifteen.query.addPeer (peerAt 15) recvNodes afterFifteen.now,
        ∀ e ∈ q.mClosest.toList, similarId (peerAt 15) e.2.mPeerId →
          e.2.mLastRecvTime ≠ afterFifteen.now := by
    decide +kernel
  obtain ⟨hlisted, hnone⟩ := hfacts
  obtain ⟨q, hq, e, he, hsimilar, hrecv, -⟩ := h fifteenPeers afterFifteen
    (Option.some_get _).symm (peerAt 15) recvNodes hlisted (by decide)
  exact hnone q hq e he hsimilar hrecv

end Query

end Dht
