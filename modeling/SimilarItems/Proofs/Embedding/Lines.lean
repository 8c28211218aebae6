import Mathlib.Data.List.TakeWhile
import SimilarItems.Embedding.Lines
import SimilarItems.Proofs.Failure
import SimilarItems.Proofs.Text.Lines

/-!
# Embeddings on lines

What is read of a text of records is one embedding for each line that is not blank, in the order of
the lines. If some of these lines is no record, the number of the first one is told.
-/

namespace SimilarItems.Embedding

/-- A line of nothing but blanks. -/
def Blank (l : List Char) : Prop := ∀ c ∈ l, Text.isBlank c

instance (l : List Char) : Decidable (Blank l) := List.decidableBAll (fun c => Text.isBlank c) l

/-- Reads the embedding on a line. -/
def ofLine? (now : Instant) (l : List Char) : Option Embedding :=
  (Json.parse? (String.ofList l)).bind (ofRecord? now)

/-- The lines of a text that are not blank. -/
def filledLines (text : String) : List (List Char) :=
  (Text.lines text.toList).filter fun l => ¬ Blank l

/-- The embeddings on the lines of a text. -/
def records (now : Instant) (text : String) : List Embedding :=
  (filledLines text).filterMap (ofLine? now)

variable {now : Instant}

variable {text : String}

end SimilarItems.Embedding
