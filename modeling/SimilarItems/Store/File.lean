import SimilarItems.Json.Reader
import SimilarItems.Json.Record
import SimilarItems.Json.Writer
import SimilarItems.Store.Basic
import SimilarItems.Text.Split

/-!
# The table as text

A table is kept in a file with one row on a line, in the order of the table.
-/

namespace SimilarItems

namespace Row

/-- A row as a JSON value. -/
def toJson (r : Row) : Json := .texts [r.item, r.vector, r.updated]

/-- Reads a row from a JSON value. -/
def ofJson? : Json → Option Row
  | .array [item, vector, updated] => do
    some ⟨← item.text?, ← vector.text?, ← updated.text?⟩
  | _ => none

end Row

namespace Table

/-- The text of a table. -/
def toText (t : Table) : String := String.join (t.map fun r => r.toJson.compact ++ "\n")

/-- Reads a table from its text. -/
def ofText? (s : String) : Option Table :=
  (Text.lines s.toList).mapM fun l => (Json.parse? (String.ofList l)).bind Row.ofJson?

end Table

end SimilarItems
