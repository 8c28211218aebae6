import SimilarItems.Cosine
import SimilarItems.Embedding
import SimilarItems.Log.Record
import SimilarItems.Score
import SimilarItems.TopK

/-!
# Ranking candidates against one embedding

A ranker is offered candidates one after another and keeps the best `n` by cosine similarity to
its source. The source's own item is passed over, and so are vectors of another dimension, which
are counted.
-/

namespace SimilarItems

/-- A ranking under way. -/
structure Ranker where
  /-- The embedding that candidates are compared with. -/
  source : Embedding
  /-- The best candidates so far. -/
  best : TopK String
  /-- The number of candidates of another dimension so far. -/
  skipped : Nat

namespace Ranker

/-- A ranker that keeps the best `n` candidates. -/
def start (source : Embedding) (n : Nat) : Ranker := ⟨source, TopK.empty n, 0⟩

/-- What becomes of a candidate. -/
inductive Verdict where
  /-- It is the source's own item. -/
  | own
  /-- Its vector has another length. -/
  | mismatched
  /-- It scores. -/
  | scored (value : Binary64)
deriving DecidableEq

/-- Judges one candidate for a source. -/
def judge (source : Embedding) (item : String) (vector : List Binary64) : Verdict :=
  if item = source.item then .own
  else if vector.length ≠ source.dimension then .mismatched
  else .scored (cosine source.vector vector)

/-- Offers one candidate. -/
def offer (r : Ranker) (item : String) (vector : List Binary64) : Ranker :=
  match judge r.source item vector with
  | .own => r
  | .mismatched => { r with skipped := r.skipped + 1 }
  | .scored value => { r with best := r.best.push ⟨item, value⟩ }

/-- The best candidates, from the best down. -/
def scores (r : Ranker) : List Score :=
  r.best.entries.map fun e => ⟨e.item, e.weight⟩

/-- What is reported about a candidate when it is offered: one of another dimension is noted. -/
def report? (source : Embedding) (item : String) (vector : List Binary64) : Option Log.Record :=
  match judge source item vector with
  | .mismatched => some {
      level := .debug
      message := "skipping embedding with mismatched dimension"
      fields := [
        ("source_id", .text source.item),
        ("item_id", .text item),
        ("expected", .count source.dimension),
        ("actual", .count vector.length)] }
  | _ => none

end Ranker

end SimilarItems
