import SimilarItems.Binary64.Basic

/-!
# Settings

What can be configured: how candidates are recommended, and how embeddings are stored and walked.
Every setting has a default.
-/

namespace SimilarItems

/-- Settings of recommendations. -/
structure RecommendSettings where
  /-- The most neighbors that are fetched for one seed. -/
  numSimilar : Nat
  /-- What every neighbor's score is multiplied by. -/
  imageWeight : Binary64
  /-- The most candidates in a category. -/
  cacheSize : Nat
  /-- The types of feedback that count; all if none is named. -/
  positiveFeedbackTypes : List String
  /-- The most lookups under way at once; zero counts as one. -/
  maxConcurrentLookups : Nat
deriving DecidableEq

/-- Settings of the embedding store and of walks through it. -/
structure EmbeddingSettings where
  /-- The number of components that every stored vector must have, if any is demanded. -/
  dimension : Option Nat
  /-- The number of embeddings that are read at once; zero stands for all of them. -/
  scanPageSize : Nat
deriving DecidableEq

/-- All settings. -/
structure Settings where
  /-- How candidates are recommended. -/
  recommend : RecommendSettings
  /-- How embeddings are stored and walked. -/
  embeddings : EmbeddingSettings
deriving DecidableEq

/-- The defaults for recommendations. -/
def RecommendSettings.default : RecommendSettings :=
  { numSimilar := 100
    imageWeight := .one
    cacheSize := 100
    positiveFeedbackTypes := []
    maxConcurrentLookups := 32 }

/-- The defaults for the embedding store. -/
def EmbeddingSettings.default : EmbeddingSettings := { dimension := none, scanPageSize := 1000 }

/-- All defaults. -/
def Settings.default : Settings :=
  { recommend := RecommendSettings.default, embeddings := EmbeddingSettings.default }

end SimilarItems
