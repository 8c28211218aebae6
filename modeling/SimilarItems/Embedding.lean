import SimilarItems.Binary64.Basic
import SimilarItems.Instant.Basic

/-!
# Embeddings

An item's embedding is a vector of binary64 numbers together with the instant at which it was
computed.
-/

namespace SimilarItems

/-- The embedding of one item. -/
structure Embedding where
  /-- The item that the vector describes. -/
  item : String
  /-- The components, in order. -/
  vector : List Binary64
  /-- When the vector was last changed. -/
  updated : Instant
deriving DecidableEq, Inhabited

namespace Embedding

/-- The number of components. -/
def dimension (e : Embedding) : Nat := e.vector.length

end Embedding

end SimilarItems
