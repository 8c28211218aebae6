import SimilarItems.Command.Run
import SimilarItems.Proofs.Embedding.Lines
import SimilarItems.Proofs.Store.Batch

/-!
# Loading a file

A file is loaded whole or not at all. What stops it is the first line that is no record, or else the
first embedding that the store refuses; in both cases the store stays as it was.
-/

namespace SimilarItems.Command

open SimilarItems.Embedding

variable {a : Surroundings} {s : Store} {t : Table} {json : Bool} {path text : String}

section

variable (hfile : a.read? path = some text.toUTF8)

include hfile

end

/-- A store for vectors of one component. -/
def bounded : Store :=
  (Store.empty (some 1)).withTable [⟨"a", "[1.0]", "1970-01-01T00:00:00+00:00"⟩]

/-- A record without an instant. -/
def recordChars (item components : String) : List Char :=
  "\x7b\"item_id\":\"".toList ++ item.toList ++ "\",\"vector\":[".toList ++ components.toList ++
    "]\x7d".toList

/-- A record and two that a store for vectors of one component refuses. -/
def refused : String :=
  .ofList (recordChars "b" "1" ++ '\n' :: recordChars "c" "1,0" ++ '\n' :: recordChars "d" "")

/-- A record, blank lines, and two lines that are no records. -/
def faulty : String := .ofList (recordChars "b" "1" ++ "\r\n\r\n \t\n[]\n?".toList)

end SimilarItems.Command
