import SimilarItems.Ranker
import SimilarItems.Store.Table

/-!
# Nearest rows

The rows of a table that are most similar to an embedding, found by comparing it with every row.
-/

namespace SimilarItems

/-- The answer to a search for the nearest rows. -/
structure Nearest where
  /-- The item whose neighbors were searched. -/
  source : String
  /-- The neighbors, from the best down. -/
  scores : List Score
  /-- The number of rows passed over because their vectors have another dimension. -/
  skipped : Nat
deriving DecidableEq

namespace Nearest

/-- An answer that nothing had to be searched for. -/
def ofScores (source : String) (scores : List Score) : Nearest := ⟨source, scores, 0⟩

/-- Rows that were passed over are worth a warning. -/
def warning? (a : Nearest) : Option Log.Record :=
  if a.skipped = 0 then none
  else some {
    level := .warn
    message := "similarity scan skipped embeddings with a different dimension"
    fields := [("item_id", .text a.source), ("skipped", .count a.skipped)] }

end Nearest

namespace Ranker

/-- Offers a row. Of the source's own row nothing is read, and of any other only the vector. -/
def offerRow (r : Ranker) (row : Row) : Except EncodingFault Ranker :=
  if row.item = r.source.item then .ok r
  else (Row.decodeVector row.item row.vector).map fun vector => r.offer row.item vector

/-- Offers rows in their order, up to the first that cannot be read. -/
def offerRows (r : Ranker) (rows : List Row) : Except EncodingFault Ranker :=
  rows.foldlM offerRow r

/-- The answer that a ranker has come to. -/
def nearest (r : Ranker) : Nearest := ⟨r.source.item, r.scores, r.skipped⟩

end Ranker

/-- The `n` rows of a table that are most similar to an embedding. -/
def Table.nearest (source : Embedding) (n : Nat) (t : Table) : Except EncodingFault Nearest :=
  ((Ranker.start source n).offerRows t).map Ranker.nearest

end SimilarItems
