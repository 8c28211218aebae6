import SimilarItems.Instant.Json

/-!
# Feedback

What a user said about an item: one event of some type, such as a like or a purchase.
-/

namespace SimilarItems

/-- One feedback event. -/
structure Feedback where
  /-- Who gave it. -/
  user : String
  /-- What it is about. -/
  item : String
  /-- Its type. -/
  type : String
  /-- When it was given. -/
  given : Instant
deriving DecidableEq, Inhabited

namespace Feedback

/-- An event as a JSON value. -/
def toJson (f : Feedback) : Json :=
  .fields [("user_id", .text f.user), ("item_id", .text f.item),
    ("feedback_type", .text f.type), ("timestamp", f.given.toJson)]

/-- Reads an event from a JSON value. -/
def ofJson? (j : Json) : Option Feedback := do
  let r ← j.record? ["user_id", "item_id", "feedback_type", "timestamp"]
  let user ← r.required? "user_id" Json.text?
  let item ← r.required? "item_id" Json.text?
  let type ← r.required? "feedback_type" Json.text?
  let given ← r.required? "timestamp" Instant.ofJson?
  some ⟨user, item, type, given⟩

end Feedback

end SimilarItems
