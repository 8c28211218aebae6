import SimilarItems.Keyed
import SimilarItems.Store.Nearest

/-!
# The embedding store

A store of embeddings, one for each item, with the operations on it. An operation that fails leaves
the store as it is, because it gives no new one.

What an operation needs the table for comes after what it can tell without it: a vector of a wrong
dimension is refused by a closed store too, and an empty list of items asks nothing of it.
-/

namespace SimilarItems

/-- Where the nearest items to an embedding come from. -/
inductive Index where
  /-- From comparing it with every row. -/
  | scan
  /-- From a list that was drawn up beforehand. -/
  | listed (scores : List Score)
deriving DecidableEq

/-- An embedding store. -/
structure Store where
  /-- The number of components that a written vector must have, if any is demanded. -/
  dimension : Option Nat
  /-- Where nearest items come from. -/
  index : Index
  /-- The table, if there is one. -/
  table : Option Table
  /-- Whether the table can no longer be reached. -/
  closed : Bool
deriving DecidableEq

namespace Store

/-- An empty store that demands a dimension, or none. -/
def empty (dimension : Option Nat) : Store :=
  { dimension := dimension, index := .scan, table := some [], closed := false }

/-- The table, if it can be reached. -/
def reach (s : Store) : Except StoreError Table :=
  if s.closed then .error (.storage .closed)
  else
    match s.table with
    | none => .error (.storage .noTable)
    | some t => .ok t

/-- The store with another table. -/
def withTable (s : Store) (t : Table) : Store := { s with table := some t }

/-- The store without its table. -/
def dropTable (s : Store) : Store := { s with table := none }

/-- The store, closed. -/
def close (s : Store) : Store := { s with closed := true }

/-- Reading a row as the store reads it. -/
def read (r : Row) : Except StoreError Embedding := r.toEmbedding.mapError .encoding

/-! ## Writing -/

/-- Refuses an embedding that has not the dimension that is demanded. -/
def checkDimension (s : Store) (e : Embedding) : Except StoreError Unit :=
  match s.dimension with
  | none => .ok ()
  | some d => if e.dimension = d then .ok () else .error (.invalidDimension d e.dimension)

/-- The row under which an embedding is written: its dimension is checked first, then that it is
finite. -/
def rowFor (s : Store) (e : Embedding) : Except StoreError Row := do
  s.checkDimension e
  (Row.ofEmbedding e).mapError .encoding

/-- Writes an embedding, instead of one that the item has. -/
def put (s : Store) (e : Embedding) : Except StoreError Store := do
  let row ← s.rowFor e
  let t ← s.reach
  .ok (s.withTable (Table.upsert row t))

/-- Writes embeddings one after another into the table, if there is one, as a transaction sees it.
Each of them is checked and encoded when its turn comes, and an error gives up what was written
before. -/
def putEach (s : Store) : Option Table → List Embedding → Except StoreError (Option Table)
  | seen, [] => .ok seen
  | seen, e :: es => do
    s.checkDimension e
    let row ← (Row.ofEmbedding e).mapError .encoding
    match seen with
    | none => .error (.storage .noTable)
    | some t => s.putEach (some (Table.upsert row t)) es

/-- Writes embeddings in their order, all of them or none: in one transaction, which a closed store
does not begin, and whose table becomes that of the store when all are written. -/
def putMany (s : Store) (es : List Embedding) : Except StoreError Store :=
  if es.isEmpty then .ok s
  else if s.closed then .error (.storage .closed)
  else do
    let seen ← s.putEach s.table es
    .ok { s with table := seen }

/-- Deletes the embedding of an item, if it has one. -/
def delete (s : Store) (item : String) : Except StoreError Store := do
  let t ← s.reach
  .ok (s.withTable (Table.delete item t))

/-! ## Reading -/

/-- The embedding of an item. -/
def get (s : Store) (item : String) : Except StoreError Embedding := do
  let t ← s.reach
  match Table.row? item t with
  | none => .error (.notFound item)
  | some row => read row

/-- The most items that are asked for at once. -/
def chunkSize : Nat := 500

/-- A list cut into parts of `chunkSize`, the last of which may be shorter. -/
def chunks (items : List String) : List (List String) :=
  if items.isEmpty then [] else items.take chunkSize :: chunks (items.drop chunkSize)
termination_by items.length
decreasing_by
  have : 0 < items.length := by cases items <;> simp_all
  simp only [List.length_drop, chunkSize]
  omega

/-- Adds the embeddings of a chunk of items, read by rising item. -/
def getChunk (s : Store) (found : Keyed Embedding) (chunk : List String) :
    Except StoreError (Keyed Embedding) := do
  let t ← s.reach
  let es ← (Table.rowsOf chunk t).mapM read
  .ok (es.foldl (fun found e => found.insert e.item e) found)

/-- The embeddings of those of some items that have one. -/
def getMany (s : Store) (items : List String) : Except StoreError (Keyed Embedding) :=
  (chunks items).foldlM s.getChunk .empty

/-- The embeddings by rising item without the first `offset`, and then at most `limit` of them. -/
def scan (s : Store) (offset : Nat) (limit : Option Nat) : Except StoreError (List Embedding) := do
  let t ← s.reach
  (Table.page offset limit t).mapM read

/-- The `n` items of the table that are most similar to an embedding. None are found without the
table. -/
def nearest (s : Store) (source : Embedding) (n : Nat) : Except StoreError Nearest :=
  if n = 0 then .ok (.ofScores source.item [])
  else do
    let t ← s.reach
    (Table.nearest source n t).mapError .encoding

/-- The `n` items that are most similar to an item. The item itself is never one of them. -/
def similar (s : Store) (item : String) (n : Nat) : Except StoreError Nearest := do
  let source ← s.get item
  match s.index with
  | .scan => s.nearest source n
  | .listed scores =>
    .ok (.ofScores item ((scores.filter fun x => x.item ≠ item).take n))

end Store

end SimilarItems
