import SimilarItems.Json.Record
import SimilarItems.Settings

/-!
# Settings in JSON

A setting that is not given has its default.
-/

namespace SimilarItems

/-- The names of the settings of recommendations. -/
def RecommendSettings.names : List String :=
  ["num_similar", "image_weight", "cache_size", "positive_feedback_types",
    "max_concurrent_lookups"]

/-- Settings of recommendations as a JSON value. -/
def RecommendSettings.toJson (s : RecommendSettings) : Json :=
  .fields [("num_similar", .nat s.numSimilar), ("image_weight", .ofReal s.imageWeight),
    ("cache_size", .nat s.cacheSize),
    ("positive_feedback_types", .texts s.positiveFeedbackTypes),
    ("max_concurrent_lookups", .nat s.maxConcurrentLookups)]

/-- Reads settings of recommendations from a JSON value. -/
def RecommendSettings.ofJson? (j : Json) : Option RecommendSettings := do
  let d := RecommendSettings.default
  let r ← j.record? names
  let numSimilar ← r.orElse? "num_similar" Json.nat? d.numSimilar
  let imageWeight ← r.orElse? "image_weight" Json.real? d.imageWeight
  let cacheSize ← r.orElse? "cache_size" Json.nat? d.cacheSize
  let types ← r.orElse? "positive_feedback_types" (Json.list? Json.text?) d.positiveFeedbackTypes
  let lookups ← r.orElse? "max_concurrent_lookups" Json.nat? d.maxConcurrentLookups
  some ⟨numSimilar, imageWeight, cacheSize, types, lookups⟩

/-- The names of the settings of the embedding store. -/
def EmbeddingSettings.names : List String := ["dimension", "scan_page_size"]

/-- Settings of the embedding store as a JSON value. -/
def EmbeddingSettings.toJson (s : EmbeddingSettings) : Json :=
  .fields [("dimension", match s.dimension with
      | none => .null
      | some d => .nat d),
    ("scan_page_size", .nat s.scanPageSize)]

/-- Reads settings of the embedding store from a JSON value. -/
def EmbeddingSettings.ofJson? (j : Json) : Option EmbeddingSettings := do
  let d := EmbeddingSettings.default
  let r ← j.record? names
  let dimension ← r.orElse? "dimension" (Json.nullable? Json.nat?) d.dimension
  let pageSize ← r.orElse? "scan_page_size" Json.nat? d.scanPageSize
  some ⟨dimension, pageSize⟩

/-- The names of the groups of settings. -/
def Settings.names : List String := ["recommend", "embeddings"]

/-- All settings as a JSON value. -/
def Settings.toJson (s : Settings) : Json :=
  .fields [("recommend", s.recommend.toJson), ("embeddings", s.embeddings.toJson)]

/-- Reads settings from a JSON value. -/
def Settings.ofJson? (j : Json) : Option Settings := do
  let d := Settings.default
  let r ← j.record? names
  let recommend ← r.orElse? "recommend" RecommendSettings.ofJson? d.recommend
  let embeddings ← r.orElse? "embeddings" EmbeddingSettings.ofJson? d.embeddings
  some ⟨recommend, embeddings⟩

end SimilarItems
