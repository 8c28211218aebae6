import SimilarItems.Decimal.Fixed
import SimilarItems.Embedding.Json
import SimilarItems.Neighbors.Run
import SimilarItems.Score.Json
import SimilarItems.Text.Grid

/-!
# Reports

What commands print for people to read, and the same as JSON. For people, lines are indented, and
there is an empty line before and after.
-/

namespace SimilarItems.Command.Report

/-- Indented lines, each with its line feed. -/
def indented (lines : List String) : String := String.join (lines.map fun l => "  " ++ l ++ "\n")

/-- Indented lines between empty ones. -/
def block (lines : List String) : String := "\n" ++ indented lines ++ "\n"

/-- A line that tells of success. -/
def success (text : String) : String := "ok " ++ text

/-- A text in single quotes. -/
def quoted (text : String) : String := "'" ++ text ++ "'"

/-- JSON laid out over lines, with a line feed. -/
def json (j : Json) : String := j.pretty ++ "\n"

/-! ## Embeddings -/

/-- The most components that are shown. -/
def shownComponents : Nat := 6

/-- The places with which a component is shown. -/
def componentPlaces : Nat := 4

/-- The first components of a vector, and their number if there are more. -/
def preview (vector : List Binary64) : String :=
  let shown := ", ".intercalate ((vector.take shownComponents).map (Binary64.fixed componentPlaces))
  if shownComponents < vector.length then
    "[" ++ shown ++ ", ... (" ++ Digits.text vector.length ++ " total)]"
  else "[" ++ shown ++ "]"

/-- Date, hour and minute of an instant. -/
def minuteText (t : Instant) : String :=
  let w := t.wallClock
  String.ofList (Instant.dateChars w.date ++ ' ' :: Instant.hourMinuteChars w)

/-- Date and time of an instant, with its zone. -/
def secondText (t : Instant) : String :=
  let w := t.wallClock
  String.ofList (Instant.dateChars w.date ++ ' ' :: Instant.timeChars w) ++ " UTC"

/-- The columns that labels take. -/
def labelColumns : Nat := 12

/-- A value after its label. -/
def labelled (label value : String) : String :=
  String.ofList (Text.padTo labelColumns label.toList) ++ " " ++ value

/-- An embedding. -/
def embedding (e : Embedding) : String :=
  block [e.item, labelled "Dimensions" (Digits.text e.dimension),
    labelled "Updated" (secondText e.updated), labelled "Vector" (preview e.vector)]

/-- An embedding that was stored. -/
def stored (e : Embedding) : String :=
  block [success ("Stored " ++ quoted e.item ++ " (" ++ Digits.text e.dimension ++ " dimensions)")]

/-- That embeddings were loaded from a file. -/
def loaded (count : Nat) (path : String) : String :=
  block [success ("Imported " ++ Digits.text count ++ " embeddings from " ++ path)]

/-- That embeddings were loaded from a file, as a JSON value. -/
def loadedJson (count : Nat) (path : String) : Json :=
  .fields [("imported", .nat count), ("path", .text path)]

/-- That the embedding of an item was deleted. -/
def deleted (item : String) : String := block [success ("Deleted " ++ quoted item)]

/-- That the embedding of an item was deleted, as a JSON value. -/
def deletedJson (item : String) : Json := .fields [("deleted", .text item)]

/-- A table of embeddings. -/
def embeddingGrid (es : List Embedding) : Text.Grid :=
  { headings := ["Item", "Dim", "Updated", "Vector"]
    rows := es.map fun e =>
      [e.item, Digits.text e.dimension, minuteText e.updated, preview e.vector] }

/-- The embeddings from an offset on. -/
def page (offset : Nat) (es : List Embedding) : String :=
  if es.isEmpty then block ["No embeddings stored."]
  else
    "\n" ++ (embeddingGrid es).text ++ "\n"
      ++ indented [Digits.text es.length ++ " rows from offset " ++ Digits.text offset] ++ "\n"

/-! ## Neighbors -/

/-- The places with which a score is shown. -/
def scorePlaces : Nat := 6

/-- A table of scores, numbered from one. -/
def scoreGrid (scores : List Score) : Text.Grid :=
  { headings := ["#", "Item", "Score"]
    rows := scores.zipIdx.map fun p =>
      [Digits.text (p.2 + 1), p.1.item, p.1.value.fixed scorePlaces] }

/-- The items most similar to an item. -/
def similar (item : String) (scores : List Score) : String :=
  if scores.isEmpty then block ["No similar items for " ++ quoted item ++ "."]
  else "\n" ++ (scoreGrid scores).text ++ "\n\n"

/-- How many neighbor lists were written, in one line. -/
def listNotice (s : Neighbors.Summary) : String :=
  success (Digits.text s.emitted ++ " neighbor lists\n")

/-- How many neighbor lists were written. -/
def lists (s : Neighbors.Summary) : String :=
  block [success ("Wrote " ++ Digits.text s.emitted ++ " neighbor lists ("
    ++ Digits.text s.vanished ++ " vanished during the run)")]

/-- How many neighbor lists, of how many neighbors at most, were written, as a JSON value. -/
def listsJson (neighbors : Nat) (s : Neighbors.Summary) : Json :=
  .fields [("emitted", .nat s.emitted), ("neighbors", .nat neighbors),
    ("vanished", .nat s.vanished), ("visited", .nat s.visited)]

end SimilarItems.Command.Report
