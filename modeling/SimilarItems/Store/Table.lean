import SimilarItems.Store.Row

/-!
# Tables

A table is a list of rows, one for each item, in the order in which the items came. A row that is
replaced keeps its place; a row that is deleted and written again comes last.
-/

namespace SimilarItems

/-- The rows of a table, in the order in which their items came. -/
abbrev Table := List Row

namespace Table

/-- Puts a row in the place of the one of its item, or at the end. -/
def upsert (row : Row) : Table → Table
  | [] => [row]
  | r :: rs => if r.item = row.item then row :: rs else r :: upsert row rs

/-- The rows but that of an item. -/
def delete (item : String) (t : Table) : Table := t.filter fun r => r.item ≠ item

/-- The row of an item. -/
def row? (item : String) (t : Table) : Option Row := t.find? fun r => r.item = item

/-- The rows by rising item. -/
def sorted (t : Table) : Table := t.mergeSort fun a b => (compare a.item b.item).isLE

/-- The rows by rising item without the first `offset`, and then at most `limit` of them. -/
def page (offset : Nat) (limit : Option Nat) (t : Table) : List Row :=
  let rest := t.sorted.drop offset
  match limit with
  | none => rest
  | some n => rest.take n

/-- The rows of some items, by rising item. -/
def rowsOf (items : List String) (t : Table) : List Row :=
  t.sorted.filter fun r => items.contains r.item

end Table

end SimilarItems
