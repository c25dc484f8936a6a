import RetroShare.Dht.Buckets
import RetroShare.Dht.Query

/-!
# The nearest peers in the routing table
-/

namespace Dht

namespace Space

variable (space : Space) (id : NodeId) (withFlags : UInt32)

/-- The peers with the flags, at their distances to an id. -/
def flagged : List (NodeId × Id) :=
  (space.buckets.flatten.filter (hasFlags withFlags)).map fun peer =>
    (distance id peer.mPeerId.id, peer.mPeerId)

/-- `closest` of `find_nearest_nodes_with_flags`. -/
def closest : MultiMap NodeId Id :=
  (space.flagged id withFlags).foldl (fun closest e => closest.insert e.1 e.2) .empty

/-- `find_nearest_nodes_with_flags`, which does not read its list of ids to exclude. -/
def findNearestNodesWithFlags (number : Int) (nearest : MultiMap NodeId Id) : MultiMap NodeId Id :=
  ((space.closest id withFlags).toList.take number.toNat).foldl
    (fun nearest e => nearest.insert e.1 e.2) nearest

/-- The query that `addQuery` starts; `BITDHT_QUERY_START_PEERS` is 10. -/
def startQuery (qflags : UInt32) (now : Int) : Query :=
  .new id ((space.findNearestNodesWithFlags id 0 10 .empty).toList.map Prod.snd) qflags now

/-- The nearest peers with the flags are found, and a query starts with the ten nearest ones. -/
theorem nearest (number : Int) (qflags : UInt32) (now : Int) :
  let near := fun withFlags number =>
    (space.findNearestNodesWithFlags id withFlags number .empty).toList
  (near withFlags number).length = min number.toNat (space.flagged id withFlags).length ∧
  (∃ others, (near withFlags number ++ others).Perm (space.flagged id withFlags) ∧
    ∀ e ∈ near withFlags number, ∀ e' ∈ others, e.1 ≤ e'.1) ∧
  ((space.startQuery id qflags now).mClosest.toList.map fun e => (e.1, e.2.mPeerId)).Perm
    (near 0 10)
  := by
  intro near
  have hflagged : ∀ withFlags, (space.closest id withFlags).toList.Perm
      (space.flagged id withFlags) := fun _ => MultiMap.toList_foldl_insert_perm _
  have hnear : ∀ withFlags number,
      (near withFlags number).Perm ((space.closest id withFlags).toList.take number.toNat) :=
    fun _ _ => MultiMap.toList_foldl_insert_perm _
  refine ⟨?_, ⟨(space.closest id withFlags).toList.drop number.toNat, ?_, ?_⟩, ?_⟩
  · rw [(hnear _ _).length_eq, List.length_take, (hflagged _).length_eq]
  · apply ((hnear _ _).append_right _).trans
    rw [List.take_append_drop]
    exact hflagged withFlags
  · intro e he e' he'
    have hsorted := (space.closest id withFlags).sorted
    rw [← List.take_append_drop number.toNat (space.closest id withFlags).toList,
      List.pairwise_append] at hsorted
    exact hsorted.2.2 e ((hnear _ _).subset he) e' he'
  · rw [startQuery, Query.new, ← List.foldl_map (f := fun who =>
      (distance id who.id, Query.startPeer now who)) (g := fun m e => MultiMap.insert m e.1 e.2)]
    apply ((MultiMap.toList_foldl_insert_perm _).map _).trans
    rw [List.map_map, List.map_map, List.map_congr_left (g := fun e => e), List.map_id']
    intro e he
    have hmem := (hflagged 0).subset (List.mem_of_mem_take ((hnear _ _).subset he))
    obtain ⟨peer, -, rfl⟩ := List.mem_map.1 hmem
    rfl

end Space

end Dht
