import SimilarItems.Toml.Value

/-!
# TOML documents

A document is put together from its statements, and may define nothing twice. A table can come about
in three ways: by a header of its own, as a part of the path of another header, or as a part of a
dotted key. Which way decides what may still be added to it.
-/

namespace SimilarItems.Toml

/-- How a table came about. -/
inductive Origin where
  /-- It has a header of its own, or is the document itself. -/
  | header
  /-- It lies on the path of a header. -/
  | implied
  /-- It lies on the path of a dotted key. -/
  | dotted
deriving DecidableEq

/-- What stands under a key while a document is put together. -/
inductive Node where
  /-- A value, which nothing can be added to. -/
  | value (v : Value)
  /-- A table. -/
  | table (origin : Origin) (entries : List (String × Node))
  /-- An array of tables, the last of which is the one that grows. -/
  | tables (before : List (List (String × Node))) (last : List (String × Node))

/-- A table while a document is put together. -/
structure Draft where
  /-- How it came about. -/
  origin : Origin
  /-- What stands under its keys. -/
  entries : List (String × Node)

/-- A statement of a document. -/
inductive Statement where
  /-- A value for the last key of a dotted key. -/
  | assign (path : List String) (key : String) (value : Value)
  /-- The header of a table. -/
  | table (path : List String) (key : String)
  /-- The header of one more table of an array. -/
  | tables (path : List String) (key : String)

namespace Draft

/-- The document before its first statement. -/
def empty : Draft := ⟨.header, []⟩

/-- Puts a node under a key, instead of one that is there. -/
def put (d : Draft) (key : String) (n : Node) : Draft :=
  { d with entries := d.entries.filter (fun e => e.1 ≠ key) ++ [(key, n)] }

/-- Changes the table at the end of a path. Tables that are missing on the way come about; of an
array of tables the last is meant. A dotted key must not pass through a table with a header. -/
def change? (dotted : Bool) (f : Draft → Option Draft) : List String → Draft → Option Draft
  | [], d => f d
  | key :: path, d =>
    match d.entries.lookup key with
    | none =>
      (change? dotted f path ⟨if dotted then .dotted else .implied, []⟩).map fun t =>
        d.put key (.table t.origin t.entries)
    | some (.value _) => none
    | some (.tables before last) =>
      (change? dotted f path ⟨.header, last⟩).map fun t => d.put key (.tables before t.entries)
    | some (.table origin entries) =>
      if dotted && origin = .header then none
      else (change? dotted f path ⟨origin, entries⟩).map fun t =>
        d.put key (.table t.origin t.entries)

/-- Gives a key of this table a value. A table at the end of a dotted key must have come about by
dotted keys. -/
def setKey? (dotted : Bool) (key : String) (v : Value) (d : Draft) : Option Draft :=
  if dotted && d.origin ≠ .dotted then none
  else
    match d.entries.lookup key with
    | some _ => none
    | none => some (d.put key (.value v))

/-- Gives the last key of a dotted key a value. -/
def assign? (path : List String) (key : String) (v : Value) (d : Draft) : Option Draft :=
  change? true (setKey? (!path.isEmpty) key v) path d

/-- Opens the table of a header. It must be new, or only implied so far. -/
def openTable? (key : String) (d : Draft) : Option Draft :=
  match d.entries.lookup key with
  | none => some (d.put key (.table .header []))
  | some (.table .implied entries) => some (d.put key (.table .header entries))
  | _ => none

/-- Opens one more table of an array. -/
def openTables? (key : String) (d : Draft) : Option Draft :=
  match d.entries.lookup key with
  | none => some (d.put key (.tables [] []))
  | some (.tables before last) => some (d.put key (.tables (before ++ [last]) []))
  | _ => none

end Draft

mutual

/-- The value that a node has come to. -/
def Node.toValue : Node → Value
  | .value v => v
  | .table _ entries => .table (entryValues entries)
  | .tables before last => .array (tableValues before ++ [.table (entryValues last)])

/-- The values of the entries of a table. -/
def entryValues : List (String × Node) → List (String × Value)
  | [] => []
  | (k, n) :: es => (k, n.toValue) :: entryValues es

/-- The values of tables. -/
def tableValues : List (List (String × Node)) → List Value
  | [] => []
  | es :: ess => .table (entryValues es) :: tableValues ess

end

/-- A document that is being put together, and the path of the table that keys are added to. -/
structure Progress where
  /-- The document so far. -/
  root : Draft
  /-- The path of the last header. -/
  current : List String

namespace Progress

/-- Adds a statement. -/
def add? (p : Progress) : Statement → Option Progress
  | .assign path key v =>
    (Draft.change? false (Draft.assign? path key v) p.current p.root).map fun root =>
      { p with root := root }
  | .table path key =>
    (Draft.change? false (Draft.openTable? key) path p.root).map fun root =>
      ⟨root, path ++ [key]⟩
  | .tables path key =>
    (Draft.change? false (Draft.openTables? key) path p.root).map fun root =>
      ⟨root, path ++ [key]⟩

end Progress

/-- The table that statements make, unless they define something twice. -/
def tableOf? (statements : List Statement) : Option Value :=
  (statements.foldlM Progress.add? ⟨.empty, []⟩).map fun p => .table (entryValues p.root.entries)

/-- The table that the entries of an inline table make. -/
def inlineTable? (entries : List (List String × String × Value)) : Option Value :=
  tableOf? (entries.map fun e => .assign e.1 e.2.1 e.2.2)

end SimilarItems.Toml
