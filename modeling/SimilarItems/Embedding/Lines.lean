import SimilarItems.Embedding.Json
import SimilarItems.Json.Reader
import SimilarItems.Text.Blank
import SimilarItems.Text.Split

/-!
# Embeddings as lines

Embeddings are loaded from texts that hold one JSON record on a line. Lines of blanks are passed
over, and an embedding without an instant gets the present one. The clock stands still while a text
is read: a single present instant serves all of its records, although time passes from one record to
the next when a text is loaded.
-/

namespace SimilarItems.Embedding

/-- Reads an embedding. Its instant may be missing or `null` and is then `now`, which is the same for
all records of a text. -/
def ofRecord? (now : Instant) (j : Json) : Option Embedding := do
  let r ← j.record? ["item_id", "vector", "timestamp"]
  let item ← r.required? "item_id" Json.text?
  let vector ← r.required? "vector" vectorOfJson?
  let updated ← r.orElse? "timestamp" (Json.nullable? Instant.ofJson?) none
  some ⟨item, vector, updated.getD now⟩

/-- Reads lines of which the first has the given number. The error is the number of the first line
that is no record. -/
def ofLinesFrom (now : Instant) (number : Nat) : List (List Char) → Except Nat (List Embedding)
  | [] => .ok []
  | l :: ls =>
    if (Text.trim l).isEmpty then ofLinesFrom now (number + 1) ls
    else
      match (Json.parse? (String.ofList l)).bind (ofRecord? now) with
      | none => .error number
      | some e => (ofLinesFrom now (number + 1) ls).map (e :: ·)

/-- Reads the lines of a text, which are counted from one. -/
def ofLines (now : Instant) (text : String) : Except Nat (List Embedding) :=
  ofLinesFrom now 1 (Text.lines text.toList)

end SimilarItems.Embedding
