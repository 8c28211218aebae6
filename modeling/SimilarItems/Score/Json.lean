import SimilarItems.Json.Record
import SimilarItems.Score

/-!
# Scores in JSON
-/

namespace SimilarItems.Score

/-- A score as a JSON value. A value that is not finite becomes `null`. -/
def toJson (s : Score) : Json := .fields [("id", .text s.item), ("score", .ofReal s.value)]

/-- Reads a score from a JSON value. -/
def ofJson? (j : Json) : Option Score := do
  let r ← j.record? ["id", "score"]
  let item ← r.required? "id" Json.text?
  let value ← r.required? "score" Json.real?
  some ⟨item, value⟩

end SimilarItems.Score
