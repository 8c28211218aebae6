import SimilarItems.Store.Error

/-!
# What stops a neighbor run
-/

namespace SimilarItems.Neighbors

/-- Why a run over all items ended early. -/
inductive RunError where
  /-- The store failed. -/
  | store (error : StoreError)
  /-- The receiver of the lists refused the list of an item. -/
  | sink (item : String) (text : String)
  /-- The run was cancelled after some items were visited. -/
  | cancelled (visited : Nat)
deriving DecidableEq

/-- The wording of an early end. -/
def RunError.message : RunError → String
  | store error => error.message
  | sink item text => "neighbor sink failed for item '" ++ item ++ "': " ++ text
  | cancelled visited => "neighbor indexing cancelled after " ++ Digits.text visited ++ " items"

end SimilarItems.Neighbors
