import SimilarItems.Json.Basic
import SimilarItems.Json.Real
import SimilarItems.Record

/-!
# Values out of JSON

Reading domain values out of JSON. A record is written as an object or as an array of its fields in
their order. In an object, members that are no field are passed over, and a field may not be given
twice; every key must have a text. In an array there may not be more elements than fields.
-/

namespace SimilarItems.Json

attribute [local instance (high)] instPowNat

/-- The text of a string. -/
def text? : Json → Option String
  | .string s => s
  | _ => none

/-- A natural number of at most 64 bits. -/
def nat? : Json → Option Nat
  | .number n => n.natural? (2 ^ (64 : Nat) - 1)
  | _ => none

/-- A binary64 number. -/
def real? : Json → Option Binary64
  | .number n => n.toBinary64?
  | _ => none

/-- A list whose elements `f` reads. -/
def list? {α : Type} (f : Json → Option α) : Json → Option (List α)
  | .array es => es.mapM f
  | _ => none

/-- A value that `f` reads, or nothing for `null`. -/
def nullable? {α : Type} (f : Json → Option α) : Json → Option (Option α)
  | .null => some none
  | j => (f j).map some

/-- The members of an object, if all their keys have a text. -/
def members? : Json → Option (List (String × Json))
  | .object ms => ms.mapM fun m => m.1.map fun k => (k, m.2)
  | _ => none

/-- A finite number, and `null` for the others. -/
def ofReal (x : Binary64) : Json :=
  if x.isFinite then .number (.ofBinary64 x) else .null

/-- Reads a record with the given field names. -/
def record? (names : List String) : Json → Option (Record Json)
  | .array es => if es.length ≤ names.length then some (.ofPlaces names es) else none
  | j => do
    let ms ← j.members?
    let given := ms.filter fun m => names.contains m.1
    if (given.map (·.1)).Nodup then some ⟨given⟩ else none

end SimilarItems.Json
