import SimilarItems.Decimal.Digits

/-!
# What goes wrong in the store

The failures of the embedding store by their causes, and their wording.
-/

namespace SimilarItems

/-- Why an embedding cannot be written as a row, or a row cannot be read. -/
inductive EncodingFault where
  /-- A component, counted from zero, is infinite or not a number. -/
  | notFinite (item : String) (position : Nat)
  /-- The vector's text is not a list of numbers. -/
  | invalidVector (item : String)
  /-- The instant's text is not an instant. -/
  | invalidInstant (item : String)
  /-- Another reason, in its own words. -/
  | other (text : String)
deriving DecidableEq

/-- Why the table cannot be reached. -/
inductive StorageFault where
  /-- There is no table. -/
  | noTable
  /-- The store was closed. -/
  | closed
  /-- Another reason, in its own words. -/
  | other (text : String)
deriving DecidableEq

/-- A failure of the embedding store. -/
inductive StoreError where
  /-- The item has no embedding. -/
  | notFound (item : String)
  /-- A row cannot be written or read. -/
  | encoding (fault : EncodingFault)
  /-- A vector has another number of components than demanded. -/
  | invalidDimension (expected actual : Nat)
  /-- The table cannot be reached. -/
  | storage (fault : StorageFault)
deriving DecidableEq

/-- The wording of an encoding fault. -/
def EncodingFault.message : EncodingFault → String
  | notFinite item position =>
    "item '" ++ item ++ "': component " ++ Digits.text position ++ " is not finite"
  | invalidVector item => "item '" ++ item ++ "': invalid vector"
  | invalidInstant item => "item '" ++ item ++ "': invalid timestamp"
  | other text => text

/-- The wording of a storage fault. -/
def StorageFault.message : StorageFault → String
  | noTable => "error returned from database: (code: 1) no such table: item_embeddings"
  | closed => "attempted to acquire a connection on a closed pool"
  | other text => text

namespace StoreError

/-- The wording of a failure. -/
def message : StoreError → String
  | notFound item => "embedding not found for item '" ++ item ++ "'"
  | encoding fault => "vector encoding error: " ++ fault.message
  | invalidDimension expected actual =>
    "invalid embedding dimension: expected " ++ Digits.text expected ++ ", got "
      ++ Digits.text actual
  | storage fault => "storage error: " ++ fault.message

/-- Whether the failure says that an item has no embedding. -/
def isNotFound : StoreError → Bool
  | notFound _ => true
  | _ => false

end StoreError

end SimilarItems
