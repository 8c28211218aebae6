import SimilarItems.Record
import SimilarItems.Settings
import SimilarItems.Settings.Json
import SimilarItems.Toml.Reader

/-!
# Settings in TOML

A group of settings is a table, or an array of the settings in their order, of which more than there
are settings are passed over. A date in the place of a group counts as a group in which nothing is
set. Settings that are numbers with a fraction may be written as integers.
-/

namespace SimilarItems

namespace Toml.Value

/-- The settings that a value gives. -/
def record? (names : List String) : Value → Option (Record Value)
  | .table entries => some ⟨entries⟩
  | .array elements => some (.ofPlaces names elements)
  | .moment _ => some ⟨[]⟩
  | _ => none

/-- A natural number. -/
def nat? : Value → Option Nat
  | .integer n => if 0 ≤ n then some n.toNat else none
  | _ => none

/-- A binary64 number; an integer is rounded. -/
def real? : Value → Option Binary64
  | .real x => some x
  | .integer n => some (.round (n < 0) (n.natAbs * Binary64.unitsPerOne) 1)
  | _ => none

/-- A text. -/
def text? : Value → Option String
  | .string s => some s
  | _ => none

/-- A list of texts. -/
def texts? : Value → Option (List String)
  | .array es => es.mapM text?
  | _ => none

end Toml.Value

open Toml (Value)

/-- Reads settings of recommendations from a TOML value. -/
def RecommendSettings.ofToml? (v : Value) : Option RecommendSettings := do
  let d := RecommendSettings.default
  let r ← v.record? names
  let numSimilar ← r.orElse? "num_similar" Value.nat? d.numSimilar
  let imageWeight ← r.orElse? "image_weight" Value.real? d.imageWeight
  let cacheSize ← r.orElse? "cache_size" Value.nat? d.cacheSize
  let types ← r.orElse? "positive_feedback_types" Value.texts? d.positiveFeedbackTypes
  let lookups ← r.orElse? "max_concurrent_lookups" Value.nat? d.maxConcurrentLookups
  some ⟨numSimilar, imageWeight, cacheSize, types, lookups⟩

/-- Reads settings of the embedding store from a TOML value. -/
def EmbeddingSettings.ofToml? (v : Value) : Option EmbeddingSettings := do
  let d := EmbeddingSettings.default
  let r ← v.record? names
  let dimension ← r.orElse? "dimension" (fun v => v.nat?.map some) d.dimension
  let pageSize ← r.orElse? "scan_page_size" Value.nat? d.scanPageSize
  some ⟨dimension, pageSize⟩

/-- Reads all settings from a TOML value. -/
def Settings.ofToml? (v : Value) : Option Settings := do
  let d := Settings.default
  let r ← v.record? names
  let recommend ← r.orElse? "recommend" RecommendSettings.ofToml? d.recommend
  let embeddings ← r.orElse? "embeddings" EmbeddingSettings.ofToml? d.embeddings
  some ⟨recommend, embeddings⟩

end SimilarItems
