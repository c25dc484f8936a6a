import RetroShare.Dht.Query
import RetroShare.Lib.Folds

/-!
# Reads of empty lists by a query

`nextQuery` reads the first potential peer and `trimPotentialPeers_toClosest` the last closest
one.  A run has a state at its end if and only if no call makes such a read on an empty map, and
`Safe` says of the state before a call and of the call when that is so.
-/

namespace Dht

namespace Query

variable {q : Query} {id : Id} {mode : UInt32} {now : Int} (src : Option Id)

/-! ### Trimming the potential peers -/

theorem isSome_trimPotentialPeersToClosest :
  q.trimPotentialPeersToClosest.isSome ↔
    (q.mClosest.toList = [] → q.mPotentialPeers.toList.length ≤ numQueryNodes)
  := by
  rw [trimPotentialPeersToClosest]
  split
  case isTrue h => exact iff_of_true rfl fun _ => h
  case isFalse h =>
    cases hlast : q.mClosest.toList.getLast? with
    | none =>
      have hempty : q.mClosest.toList = [] := List.getLast?_eq_none_iff.mp hlast
      exact iff_of_false Bool.false_ne_true fun hle => h (hle hempty)
    | some e =>
      have hne : q.mClosest.toList ≠ [] := by
        rintro hempty
        rw [hempty] at hlast
        cases hlast
      exact iff_of_true rfl fun hempty => absurd hempty hne

/-- There is room for another potential peer, or the peer is one already. -/
def RoomForPotential (q : Query) (id : Id) : Prop :=
  q.mPotentialPeers.toList.length < numQueryNodes ∨ q.mPotentialPeers.toList.any (q.isPeer id)

theorem isSome_updatePotentialPeer (addType : AddType) :
  (q.updatePotentialPeer id mode addType now).isSome ↔
    (q.mClosest.toList = [] → q.RoomForPotential id)
  := by
  rw [updatePotentialPeer]
  split
  case h_1 e h =>
    have hany : q.mPotentialPeers.toList.any (q.isPeer id) :=
      List.any_eq_true.mpr ⟨e, List.mem_of_find?_eq_some h, List.find?_some h⟩
    exact iff_of_true rfl fun _ => .inr hany
  case h_2 h =>
    have hnone : q.mPotentialPeers.toList.any (q.isPeer id) = false := by
      rw [List.any_eq_false]
      exact List.find?_eq_none.mp h
    rw [Option.isSome_map, isSome_trimPotentialPeersToClosest, RoomForPotential, hnone,
      (MultiMap.toList_insert_perm _ _).length_eq, List.length_cons, Nat.succ_le_iff]
    exact imp_congr_right fun _ => (or_iff_left Bool.false_ne_true).symm

/-! ### Adding peers -/

theorem mClosest_addClosestPeer_ne_nil :
  (q.addClosestPeer id mode now).2.mClosest.toList ≠ []
  := by
  rw [addClosestPeer]
  split
  case isTrue h =>
    intro hempty
    rw [closer, hempty, List.takeWhile_nil, List.length_nil, Nat.zero_sub] at h
    exact absurd h (Nat.not_lt_zero _)
  case isFalse =>
    split
    case isTrue h =>
      intro hempty
      have hlength := congrArg List.length hempty
      rw [MultiMap.modifyFirst, List.length_modify, List.length_nil, List.length_eq_zero_iff]
        at hlength
      rw [hlength] at h
      exact Bool.false_ne_true h
    case isFalse =>
      apply List.ne_nil_of_length_pos
      rw [(MultiMap.toList_insert_perm _ _).length_eq]
      exact Nat.succ_pos _

theorem isSome_addPeer :
  (q.addPeer id mode now).isSome
  := by
  rw [addPeer, Option.isSome_map, isSome_updatePotentialPeer]
  intro hempty
  exact absurd hempty mClosest_addClosestPeer_ne_nil

/-- Two queries with the same target and the same peers, proxies apart. -/
def SamePeers (q q' : Query) : Prop :=
  q'.mId = q.mId ∧ q'.mClosest = q.mClosest ∧ q'.mPotentialPeers = q.mPotentialPeers

theorem SamePeers.trans {q' q'' : Query} (h : SamePeers q q') (h' : SamePeers q' q'') :
  SamePeers q q''
  := ⟨h'.1.trans h.1, h'.2.1.trans h.2.1, h'.2.2.trans h.2.2⟩

theorem samePeers_pushProxy (peer : Peer) :
  SamePeers q (q.pushProxy peer)
  := by
  rw [pushProxy]
  split
  · exact ⟨rfl, rfl, rfl⟩
  · exact ⟨rfl, rfl, rfl⟩

theorem samePeers_updateProxyList (proxies : ProxyList) :
  SamePeers q (q.updateProxyList id mode now proxies).2
  := by
  cases proxies with
  | unknown =>
    rw [updateProxyList]
    split
    · exact SamePeers.trans ⟨rfl, rfl, rfl⟩ (samePeers_pushProxy _)
    · exact ⟨rfl, rfl, rfl⟩
  | flagged =>
    rw [updateProxyList]
    split
    · exact SamePeers.trans ⟨rfl, rfl, rfl⟩ (samePeers_pushProxy _)
    · exact ⟨rfl, rfl, rfl⟩

theorem samePeers_updateProxyLists :
  SamePeers q (q.updateProxyLists id mode now).2
  := by
  rw [updateProxyLists]
  split <;> apply samePeers_updateProxyList

theorem samePeers_addProxy (srcmode : UInt32) :
  SamePeers q (q.addProxy id src srcmode now)
  := by
  cases src with
  | none => exact ⟨rfl, rfl, rfl⟩
  | some src =>
    rw [addProxy]
    split
    · exact ⟨rfl, rfl, rfl⟩
    · split
      · exact samePeers_updateProxyLists.trans ⟨rfl, rfl, rfl⟩
      · exact (samePeers_pushProxy _).trans ⟨rfl, rfl, rfl⟩

theorem worthyPotentialPeer_of_nil (h : q.mClosest.toList = []) :
  q.worthyPotentialPeer id
  := by
  rw [worthyPotentialPeer, h]
  rfl

theorem isSome_addPotentialPeer (srcmode : UInt32) :
  (q.addPotentialPeer id src srcmode now).isSome ↔
    (q.mClosest.toList = [] → q.RoomForPotential id)
  := by
  have hsame : SamePeers q (q.addProxy id src srcmode now) := samePeers_addProxy src srcmode
  obtain ⟨hid, hclosest, hpotential⟩ := hsame
  have hroom : (q.addProxy id src srcmode now).RoomForPotential id ↔ q.RoomForPotential id := by
    rw [RoomForPotential, RoomForPotential, hpotential]
    unfold isPeer
    rw [hid]
  rw [addPotentialPeer]
  split
  case isTrue => rw [isSome_updatePotentialPeer, hclosest, hroom]
  case isFalse h =>
    apply iff_of_true rfl
    intro hempty
    rw [← hclosest] at hempty
    exact absurd (worthyPotentialPeer_of_nil hempty) h

/-! ### The next question -/

/-- The closest peer is the target and has answered. -/
def reached (q : Query) : Bool :=
  q.mClosest.toList.head?.any fun e => e.2.mPeerId.id = q.mId ∧ e.2.mLastRecvTime ≠ 0

/-- `nextQuery` asks nobody and ends the query. -/
def Ends (q : Query) (now : Int) : Prop :=
  (q.mState = .querying ∨ q.idle) ∧ (∀ e ∈ q.mClosest.toList, ¬q.queryPeer now e.2) ∧
    q.finishable now

/-- A potential peer is left after `removeOldPotentialPeers`. -/
def KeepsPotential (q : Query) (now : Int) : Prop :=
  ∃ e ∈ q.mPotentialPeers.toList, ¬(q.cleanDue now ∧ q.oldPotential now e.2)

theorem isSome_finalState :
  q.finalState.isSome ↔
    (q.mClosest.toList ≠ [] → ¬q.reached → q.mPotentialPeers.toList ≠ [])
  := by
  rw [finalState, reached]
  cases q.mClosest.toList with
  | nil => exact iff_of_true rfl fun h => absurd rfl h
  | cons e closest =>
    dsimp only [List.head?_cons, Option.any_some]
    rw [decide_eq_true_eq]
    split
    case isTrue h => exact iff_of_true rfl fun _ hnot => absurd h hnot
    case isFalse h =>
      cases q.mPotentialPeers.toList with
      | nil =>
        apply iff_of_false Bool.false_ne_true
        intro hpotential
        exact hpotential (List.cons_ne_nil _ _) h rfl
      | cons e' potential =>
        apply iff_of_true
        · dsimp only
          split <;> rfl
        · intro _ _
          exact List.cons_ne_nil _ _

theorem removeOldPotentialPeers_ne_nil :
  (q.removeOldPotentialPeers now).mPotentialPeers.toList ≠ [] ↔ q.KeepsPotential now
  := by
  rw [removeOldPotentialPeers, KeepsPotential]
  split
  case isTrue h =>
    rw [MultiMap.filter, ne_eq, List.filter_eq_nil_iff]
    simp [h]
  case isFalse h =>
    constructor
    · intro hne
      obtain ⟨e, he⟩ := List.exists_mem_of_ne_nil _ hne
      exact ⟨e, he, fun hold => h hold.1⟩
    · rintro ⟨e, he, -⟩
      exact List.ne_nil_of_mem he

/-- `finish` reads the closest and the potential peers. -/
theorem isSome_finish :
  (q.finish now).isSome ↔
    (q.mClosest.toList ≠ [] → ¬q.reached → q.KeepsPotential now)
  := by
  rw [finish, Option.isSome_map, isSome_finalState, removeOldPotentialPeers_ne_nil, reached,
    reached, removeOldPotentialPeers]
  split <;> split <;> exact Iff.rfl

theorem updateRetryPeriod_running :
  ((q.updateRetryPeriod now).mState = .querying ∨ (q.updateRetryPeriod now).idle) ↔
    (q.mState = .querying ∨ q.idle)
  := by
  rw [updateRetryPeriod]
  split <;> exact Iff.rfl

theorem isSome_nextQuery (rnd : NodeId) :
  (q.nextQuery rnd now).isSome ↔
    ((q.updateRetryPeriod now).Ends now → (q.updateRetryPeriod now).mClosest.toList ≠ [] →
      ¬(q.updateRetryPeriod now).reached → (q.updateRetryPeriod now).KeepsPotential now)
  := by
  rw [nextQuery, Ends, updateRetryPeriod_running]
  split
  case isTrue h =>
    apply iff_of_true rfl
    rintro ⟨hquerying | hidle, -⟩
    · exact absurd hquerying h.1
    · exact absurd hidle (Bool.eq_false_iff.mp h.2)
  case isFalse h =>
    have hrunning : q.mState = .querying ∨ q.idle := by
      by_contra hnot
      rw [not_or, Bool.not_eq_true] at hnot
      exact h hnot
    generalize q.updateRetryPeriod now = q
    dsimp only
    split
    case h_1 e he =>
      apply iff_of_true rfl
      rintro ⟨-, hnobody, -⟩
      exact absurd (List.find?_some he) (hnobody e (List.mem_of_find?_eq_some he))
    case h_2 hnobody =>
      rw [List.find?_eq_none] at hnobody
      split
      case isTrue hfinishable =>
        rw [Option.isSome_map, isSome_finish]
        constructor
        · exact fun hkeeps _ => hkeeps
        · exact fun hkeeps => hkeeps ⟨hrunning, hnobody, hfinishable⟩
      case isFalse hfinishable =>
        apply iff_of_true rfl
        rintro ⟨-, -, hends⟩
        exact absurd hends hfinishable

/-! ### Runs -/

/-- A call makes no read of an empty map.  A potential peer needs a closest one, or room; and a
query that has found somebody else at its end needs a potential peer that is kept. -/
def Safe (s : Timed) : Input → Prop
  | .addPotentialPeer id _ _ => s.query.mClosest.toList = [] → s.query.RoomForPotential id
  | .nextQuery _ =>
      let q := s.query.updateRetryPeriod s.now
      q.Ends s.now → q.mClosest.toList ≠ [] → ¬q.reached → q.KeepsPotential s.now
  | .addPeer _ _ | .wait _ => True

theorem isSome_step {s : Timed} (input : Input) :
  (s.step input).isSome ↔ Safe s input
  := by
  cases input with
  | addPeer id mode =>
    rw [Timed.step, Option.isSome_map]
    exact iff_of_true isSome_addPeer trivial
  | addPotentialPeer id src srcmode =>
    rw [Timed.step, Option.isSome_map, isSome_addPotentialPeer, Safe]
  | nextQuery rnd =>
    rw [Timed.step, Option.isSome_map, isSome_nextQuery, Safe]
  | wait seconds => exact iff_of_true rfl trivial

/-- A run reads no empty map if and only if every call that it comes to is safe. -/
theorem isSome_run_iff (id : NodeId) (startList : List Id) (queryFlags : UInt32) (start : Int)
    (inputs : List Input) :
  (Timed.run ⟨new id startList queryFlags start, start⟩ inputs).isSome ↔
    ∀ done input rest, inputs = done ++ input :: rest →
      ∀ s, Timed.run ⟨new id startList queryFlags start, start⟩ done = some s → Safe s input
  := by
  rw [Timed.run, Folds.isSome_foldlM_iff]
  simp only [isSome_step, Timed.run]

/-- The peer of the runs below with number `n`. -/
def peerAt (n : UInt8) : Id := ⟨⟨Vector.replicate keyLen n⟩, 0, 0⟩

/-- A query with one peer that does not answer for five minutes, and one without peers that is
told of eleven. -/
theorem run_eq_none :
  Timed.run ⟨new zeroNodeId [peerAt 1] 0 1, 1⟩
      [.nextQuery zeroNodeId, .wait 301, .nextQuery zeroNodeId] = none ∧
    Timed.run ⟨new zeroNodeId [] 0 1, 1⟩
      ([1, 2, 3, 4, 5, 6, 7, 8, 9, 10, 11].map fun n => .addPotentialPeer (peerAt n) none 0) = none
  := by
  constructor
  · decide +kernel
  · decide +kernel

end Query

end Dht
