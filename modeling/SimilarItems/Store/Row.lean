import SimilarItems.Embedding.Json
import SimilarItems.Json.Reader
import SimilarItems.Json.Writer
import SimilarItems.Store.Error

/-!
# Rows

A row keeps an embedding as text: the vector as a JSON array and the instant after RFC 3339. Only
finite vectors can be written. A row may hold any text, and reading it says what is wrong with it.
-/

namespace SimilarItems

/-- A row of the table of embeddings. -/
structure Row where
  /-- The item, which is the row's key. -/
  item : String
  /-- The vector as text. -/
  vector : String
  /-- The instant of the last change as text. -/
  updated : String
deriving DecidableEq, Inhabited

namespace Row

/-- The text of an item's vector; the first component that is not finite is a fault. -/
def encodeVector (item : String) (vector : List Binary64) : Except EncodingFault String :=
  match vector.findIdx? fun x => !x.isFinite with
  | some position => .error (.notFinite item position)
  | none => .ok (Embedding.vectorJson vector).compact

/-- The vector that an item's text stands for. -/
def decodeVector (item : String) (text : String) : Except EncodingFault (List Binary64) :=
  match (Json.parse? text).bind Embedding.vectorOfJson? with
  | some vector => .ok vector
  | none => .error (.invalidVector item)

/-- The text of an instant. -/
def encodeInstant (t : Instant) : String := t.rfc3339

/-- The instant that an item's text stands for. -/
def decodeInstant (item : String) (text : String) : Except EncodingFault Instant :=
  match Instant.ofRfc3339? text with
  | some t => .ok t
  | none => .error (.invalidInstant item)

/-- The row of an embedding. -/
def ofEmbedding (e : Embedding) : Except EncodingFault Row :=
  (encodeVector e.item e.vector).map fun vector => ⟨e.item, vector, encodeInstant e.updated⟩

/-- The embedding of a row. Of two faults the vector's counts. -/
def toEmbedding (r : Row) : Except EncodingFault Embedding := do
  let vector ← decodeVector r.item r.vector
  let updated ← decodeInstant r.item r.updated
  .ok ⟨r.item, vector, updated⟩

end Row

end SimilarItems
