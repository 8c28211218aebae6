import SimilarItems.Binary64.Basic

/-!
# Scores

A score says how well an item answers a query. Scores are ranked from the best down: by falling
value in the total order of binary64 numbers, then by rising item.
-/

namespace SimilarItems

/-- An item with the value it scored. -/
structure Score where
  /-- The scored item. -/
  item : String
  /-- Its value. -/
  value : Binary64
deriving DecidableEq, Inhabited

namespace Score

/-- The ranking order: `lt` when `a` ranks above `b`. -/
def order (a b : Score) : Ordering :=
  (Binary64.totalOrder b.value a.value).then (compare a.item b.item)

/-- Scores from the best down. -/
def sort (scores : List Score) : List Score :=
  scores.mergeSort fun a b => (order a b).isLE

end Score

end SimilarItems
