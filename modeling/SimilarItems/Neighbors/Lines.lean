import SimilarItems.Json.Writer
import SimilarItems.Neighbors.Script
import SimilarItems.Score.Json

/-!
# Neighbor lists as lines

A run whose lists are written down, each as a JSON object on a line of its own. What was written
before the run was stopped stays written.
-/

namespace SimilarItems.Neighbors

/-- An item with its neighbors as a JSON value. -/
def listJson (item : String) (scores : List Score) : Json :=
  .fields [("item_id", .text item), ("neighbors", .array (scores.map Score.toJson))]

/-- An item with its neighbors as one line. -/
def line (item : String) (scores : List Score) : String := (listJson item scores).compact ++ "\n"

/-- What has been written. -/
structure Written where
  /-- The text. -/
  text : String
  /-- The number of lines in it. -/
  lines : Nat
deriving DecidableEq

/-- Before the first line. -/
def Written.nothing : Written := ⟨"", 0⟩

/-- A text with one more line. -/
def Written.add (w : Written) (item : String) (scores : List Score) : Written :=
  ⟨w.text ++ line item scores, w.lines + 1⟩

/-- The receiver that writes every list down. The run is cancelled after those numbers of lines at
which it is interrupted. -/
def writer (interrupted : Nat → Bool) : Receiver Written := fun w item scores =>
  let w := w.add item scores
  ⟨w, if interrupted w.lines then [.cancel] else [], none⟩

/-- Runs through a store and writes the lists down. The store does not change, so the number of
pages that suffices is known. -/
def Plan.write (plan : Plan) (interrupted : Nat → Bool) (s : Store) : Progress Written × Ending :=
  plan.run (writer interrupted) (plan.pageBound (storedItems s).length)
    (.start s (interrupted 0) .nothing)

end SimilarItems.Neighbors
