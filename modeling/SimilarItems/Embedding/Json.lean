import SimilarItems.Embedding
import SimilarItems.Instant.Json

/-!
# Embeddings in JSON
-/

namespace SimilarItems.Embedding

/-- A vector as a JSON value. Components that are not finite become `null`. -/
def vectorJson (vector : List Binary64) : Json := .array (vector.map .ofReal)

/-- Reads a vector from a JSON value. -/
def vectorOfJson? (j : Json) : Option (List Binary64) := j.list? Json.real?

/-- An embedding as a JSON value. -/
def toJson (e : Embedding) : Json :=
  .fields [("item_id", .text e.item), ("vector", vectorJson e.vector),
    ("timestamp", e.updated.toJson)]

/-- Reads an embedding from a JSON value. -/
def ofJson? (j : Json) : Option Embedding := do
  let r ← j.record? ["item_id", "vector", "timestamp"]
  let item ← r.required? "item_id" Json.text?
  let vector ← r.required? "vector" vectorOfJson?
  let updated ← r.required? "timestamp" Instant.ofJson?
  some ⟨item, vector, updated⟩

end SimilarItems.Embedding
