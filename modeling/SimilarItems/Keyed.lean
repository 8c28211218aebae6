/-!
# Keyed values

Values under text keys: one value for each key, by rising key. Since the order is fixed, two
collections that hold the same values under the same keys are equal.
-/

namespace SimilarItems

/-- Values under keys, by rising key. -/
structure Keyed (α : Type) where
  /-- The keys with their values. -/
  entries : List (String × α)
deriving DecidableEq, Inhabited

namespace Keyed

variable {α : Type}

/-- No values. -/
def empty : Keyed α := ⟨[]⟩

/-- Puts what `f` makes of the present value of a key in its place. -/
def alterEntries (key : String) (f : Option α → α) : List (String × α) → List (String × α)
  | [] => [(key, f none)]
  | e :: es =>
    match compare key e.1 with
    | .lt => (key, f none) :: e :: es
    | .eq => (key, f (some e.2)) :: es
    | .gt => e :: alterEntries key f es

/-- Replaces the value of a key by what `f` makes of it; `f` is asked about `none` if there is
none. -/
def alter (m : Keyed α) (key : String) (f : Option α → α) : Keyed α :=
  ⟨alterEntries key f m.entries⟩

/-- Puts a value under a key, instead of one that is there. -/
def insert (m : Keyed α) (key : String) (value : α) : Keyed α := m.alter key fun _ => value

/-- The value under a key. -/
def get? (m : Keyed α) (key : String) : Option α := m.entries.lookup key

/-- The keys, rising. -/
def keys (m : Keyed α) : List String := m.entries.map (·.1)

/-- The values, by rising key. -/
def values (m : Keyed α) : List α := m.entries.map (·.2)

/-- The number of keys. -/
def size (m : Keyed α) : Nat := m.entries.length

/-- The collection of given values; of several values under one key the last counts. -/
def ofList (es : List (String × α)) : Keyed α := es.foldl (fun m e => m.insert e.1 e.2) empty

end Keyed

end SimilarItems
