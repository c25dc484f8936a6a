import Mathlib.Algebra.Order.Field.Rat
import RetroShare.Lib.Machine
import RetroShare.Lib.OrdMap

/-!
# The routing matrix

`GRouterMatrix` of `groutermatrix.cc`, which remembers from which friends the clues about keys came.

Its `float`s are rational numbers here, and its friends and keys are any ordered types.  The time is
an input of what reads the clock.
-/

universe u v

namespace GRouter

/-- `RS_GROUTER_MATRIX_MAX_HIT_ENTRIES`. -/
def matrixMaxHitEntries : Nat := 10

/-- `RS_GROUTER_MATRIX_MIN_TIME_BETWEEN_HITS`. -/
def matrixMinTimeBetweenHits : Int := 60

/-- `RoutingMatrixHitEntry`. -/
structure RoutingMatrixHitEntry where
  friendId : Nat
  weight : ℚ
  timeStamp : Int
  deriving DecidableEq

/-- The weight of a clue, of which a quarter is left after seven days. -/
def RoutingMatrixHitEntry.combined (clue : RoutingMatrixHitEntry) (now : Int) : ℚ :=
  let time_difference_in_days := 1 + ((now - clue.timeStamp : Int) : ℚ) / (7 * 86400)
  clue.weight / (time_difference_in_days * time_difference_in_days)

/-- `RsGRouterMatrixFriendListItem` and `RsGRouterMatrixCluesItem`. -/
inductive MatrixItem (κ : Type u) (φ : Type v) where
  | friendList (reverseFriendIndices : List φ)
  | clues (destinationKey : κ) (clues : List RoutingMatrixHitEntry)

/-- `GRouterMatrix`. -/
structure GRouterMatrix (κ : Type u) (φ : Type v) [LinearOrder κ] [LinearOrder φ] where
  routingClues : OrdMap κ (List RoutingMatrixHitEntry)
  timeCombinedHits : OrdMap κ (List ℚ)
  probaNeedUpdating : Bool
  friendIndices : OrdMap φ Nat
  reverseFriendIndices : List φ

namespace GRouterMatrix

variable {κ : Type u} {φ : Type v} [LinearOrder κ] [LinearOrder φ] (matrix : GRouterMatrix κ φ)

/-- The constructor. -/
def new : GRouterMatrix κ φ where
  routingClues := .empty
  timeCombinedHits := .empty
  probaNeedUpdating := true
  friendIndices := .empty
  reverseFriendIndices := []

/-- `getFriendId_const`. -/
def getFriendIdConst (source_friend : φ) : Nat :=
  (matrix.friendIndices.get? source_friend).getD matrix.reverseFriendIndices.length

/-- `getFriendId`. -/
def getFriendId (source_friend : φ) : GRouterMatrix κ φ × Nat :=
  match matrix.friendIndices.get? source_friend with
  | some fid => (matrix, fid)
  | none =>
      let new_id := matrix.reverseFriendIndices.length
      ({ matrix with
          reverseFriendIndices := matrix.reverseFriendIndices ++ [source_friend]
          friendIndices := matrix.friendIndices.insert source_friend new_id },
        new_id)

/-- There is a clue of the friend that is too close in the past. -/
def isFlooded (lst : List RoutingMatrixHitEntry) (fid : Nat) (now : Int) : Bool :=
  lst.any fun clue =>
    clue.friendId = fid && now < clue.timeStamp + matrixMinTimeBetweenHits

/-- `addRoutingClue`. -/
def addRoutingClue (key_id : κ) (source_friend : φ) (weight : ℚ) (now : Int) :
    GRouterMatrix κ φ × Bool :=
  let (matrix, fid) := matrix.getFriendId source_friend
  let rc : RoutingMatrixHitEntry := { friendId := fid, weight := weight, timeStamp := now }
  let lst := (matrix.routingClues.get? key_id).getD []
  if isFlooded lst fid now then
    ({ matrix with routingClues := matrix.routingClues.insert key_id lst }, false)
  else
    ({ matrix with
        routingClues := matrix.routingClues.insert key_id ((rc :: lst).take matrixMaxHitEntries)
        probaNeedUpdating := true },
      true)

/-- `computeRoutingProbabilities`. -/
def computeRoutingProbabilities (key_id : κ) (friends : List φ) : Bool × List ℚ :=
  match matrix.timeCombinedHits.get? key_id with
  | none => (false, List.replicate friends.length 0)
  | some w =>
      let probas := friends.map fun source_friend =>
        (w[matrix.getFriendIdConst source_friend]?).getD 0
      let total := probas.sum
      (true, if 0 < total then probas.map (· / total) else probas)

/-- The weights of the friends for a key, from its clues. -/
def combinedHits (clues : List RoutingMatrixHitEntry) (now : Int) : List ℚ :=
  clues.foldl (fun v clue => v.modify clue.friendId (· + clue.combined now))
    (List.replicate matrix.friendIndices.toList.length 0)

/-- `updateRoutingProbabilities`. -/
def updateRoutingProbabilities (now : Int) : GRouterMatrix κ φ × Bool :=
  if matrix.probaNeedUpdating then
    ({ matrix with
        timeCombinedHits :=
          matrix.routingClues.toList.foldl
            (fun hits e => hits.insert e.1 (matrix.combinedHits e.2 now)) matrix.timeCombinedHits
        probaNeedUpdating := false },
      true)
  else (matrix, false)

/-- `saveList`. -/
def saveList : List (MatrixItem κ φ) :=
  .friendList matrix.reverseFriendIndices ::
    matrix.routingClues.toList.map fun e => .clues e.1 e.2

/-- The indices of a list of friends, from `i` on. -/
def indexFriends : Nat → List φ → OrdMap φ Nat → OrdMap φ Nat
  | _, [], indices => indices
  | i, source_friend :: friends, indices =>
      indexFriends (i + 1) friends (indices.insert source_friend i)

/-- What `loadList` does with an item. -/
def loadItem : MatrixItem κ φ → GRouterMatrix κ φ
  | .clues destinationKey clues =>
      { matrix with
        routingClues := matrix.routingClues.insert destinationKey clues
        probaNeedUpdating := true }
  | .friendList reverseFriendIndices =>
      { matrix with
        reverseFriendIndices := reverseFriendIndices
        friendIndices := indexFriends 0 reverseFriendIndices .empty
        probaNeedUpdating := true }

/-- `loadList`. -/
def loadList (items : List (MatrixItem κ φ)) : GRouterMatrix κ φ := items.foldl loadItem matrix

end GRouterMatrix

/-- A matrix, the matrices that have been saved so far, and the clock. -/
structure SavedMatrix (κ : Type u) (φ : Type v) [LinearOrder κ] [LinearOrder φ] where
  matrix : GRouterMatrix κ φ
  saves : List (GRouterMatrix κ φ)
  now : Int

namespace SavedMatrix

variable {κ : Type u} {φ : Type v} [LinearOrder κ] [LinearOrder φ]

/-- A new matrix. -/
def new (now : Int) : SavedMatrix κ φ where
  matrix := .new
  saves := []
  now := now

/-- The list of the `n`-th last save is loaded, if there is one. -/
def load (s : SavedMatrix κ φ) (n : Nat) : SavedMatrix κ φ :=
  match s.saves[n]? with
  | none => s
  | some saved => { s with matrix := s.matrix.loadList saved.saveList }

/-- A call, a restart of the program, or a time that passes. -/
inductive Input (κ : Type u) (φ : Type v) where
  | addRoutingClue (key_id : κ) (source_friend : φ) (weight : { weight : ℚ // 0 < weight })
  | updateRoutingProbabilities
  | save
  | load (n : Nat)
  | restart
  | tick (seconds : Nat)

/-- The matrix as a machine. -/
def machine : Machine (SavedMatrix κ φ) (Input κ φ) Empty where
  step
    | s, .addRoutingClue key_id source_friend weight =>
        ({ s with
            matrix := (s.matrix.addRoutingClue key_id source_friend weight s.now).1 }, [])
    | s, .updateRoutingProbabilities =>
        ({ s with matrix := (s.matrix.updateRoutingProbabilities s.now).1 }, [])
    | s, .save => ({ s with saves := s.matrix :: s.saves }, [])
    | s, .load n => (s.load n, [])
    | s, .restart => ({ s with matrix := .new }, [])
    | s, .tick seconds => ({ s with now := s.now + seconds }, [])

end SavedMatrix

end GRouter
