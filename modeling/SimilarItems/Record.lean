/-!
# Records

The fields of a record as they were given, before their values are read. Settings and JSON records
are read from them.
-/

namespace SimilarItems

/-- The fields that a record gives, each once. -/
structure Record (α : Type) where
  /-- The names of the fields that are given, with their values. -/
  given : List (String × α)

namespace Record

variable {α β : Type}

/-- The fields given by their places: the names are those of the fields, in order. -/
def ofPlaces (names : List String) (values : List α) : Record α := ⟨names.zip values⟩

/-- The value of a field. -/
def get? (r : Record α) (name : String) : Option α := r.given.lookup name

/-- The value of a field that must be given. -/
def required? (r : Record α) (name : String) (f : α → Option β) : Option β := (r.get? name).bind f

/-- The value of a field, or what it is when it is not given. -/
def orElse? (r : Record α) (name : String) (f : α → Option β) (default : β) : Option β :=
  match r.get? name with
  | none => some default
  | some a => f a

end Record

end SimilarItems
