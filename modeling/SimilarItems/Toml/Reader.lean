import SimilarItems.Toml.Document
import SimilarItems.Toml.Scalar

/-!
# Reading TOML

A text is read into statements, and the statements are put together to a table. Arrays may go over
several lines, inline tables may not; both can be nested to a limited depth only.
-/

namespace SimilarItems.Toml

/-- The number of levels from which on nesting is refused. -/
def depthLimit : Nat := 80

/-! ## Keys -/

/-- Whether a character may stand in a key without quotes. -/
def inBareKey (c : Char) : Bool :=
  c.isAlphanum || c = '-' || c = '_'

/-- Reads one part of a key. -/
def simpleKey? (cs : List Char) : Option (String × List Char) :=
  match cs with
  | '"' :: _ => lineString? cs
  | '\'' :: _ => lineString? cs
  | _ =>
    let bare := cs.takeWhile inBareKey
    if bare.isEmpty then none else some (String.ofList bare, cs.dropWhile inBareKey)

/-- Reads the parts of a key with points between them. -/
def keyParts? : Nat → List Char → Option (List String × List Char)
  | 0, _ => none
  | fuel + 1, cs => do
    let (part, rest) ← simpleKey? (skipBlanks cs)
    match skipBlanks rest with
    | '.' :: rest => do
      let (parts, rest) ← keyParts? fuel rest
      some (part :: parts, rest)
    | rest => some ([part], rest)

/-- Reads a key: the path to its table and its last part. Blanks around it are passed over. -/
def key? (cs : List Char) : Option ((List String × String) × List Char) := do
  let (parts, rest) ← keyParts? (cs.length + 1) cs
  if depthLimit ≤ parts.length then none
  else
    let last ← parts.getLast?
    some ((parts.dropLast, last), rest)

/-! ## Values -/

/-- A reader of values. -/
abbrev ValueReader := List Char → Option (Value × List Char)

/-- Reads the rest of an array: at most `fuel` elements, a comma between them and perhaps after the
last, and the closing bracket. -/
def arrayRest? (value? : ValueReader) : Nat → List Char → Option (List Value × List Char)
  | 0, _ => none
  | fuel + 1, cs =>
    match skipLines cs with
    | ']' :: rest => some ([], rest)
    | cs => do
      let (v, rest) ← value? cs
      match skipLines rest with
      | ',' :: rest => do
        let (vs, rest) ← arrayRest? value? fuel rest
        some (v :: vs, rest)
      | ']' :: rest => some ([v], rest)
      | _ => none

/-- Reads a key, an equals sign and a value. -/
def keyValue? (value? : ValueReader) (cs : List Char) :
    Option ((List String × String × Value) × List Char) := do
  let ((path, key), rest) ← key? cs
  match rest with
  | '=' :: rest => do
    let (v, rest) ← value? (skipBlanks rest)
    some ((path, key, v), rest)
  | _ => none

/-- Reads the rest of an inline table after an entry: at most `fuel` further entries, a comma before
each, and the closing brace. -/
def entriesRest? (value? : ValueReader) :
    Nat → List Char → Option (List (List String × String × Value) × List Char)
  | 0, _ => none
  | fuel + 1, cs =>
    match skipBlanks cs with
    | '\x7d' :: rest => some ([], rest)
    | ',' :: rest => do
      let (e, rest) ← keyValue? value? rest
      let (es, rest) ← entriesRest? value? fuel rest
      some (e :: es, rest)
    | _ => none

/-- Reads the entries of an inline table after the opening brace. -/
def entries? (value? : ValueReader) (cs : List Char) :
    Option (List (List String × String × Value) × List Char) :=
  match skipBlanks cs with
  | '\x7d' :: rest => some ([], rest)
  | cs => do
    let (e, rest) ← keyValue? value? cs
    let (es, rest) ← entriesRest? value? (rest.length + 1) rest
    some (e :: es, rest)

/-- Reads a value in which arrays and inline tables are nested to at most the given depth. -/
def value? : Nat → ValueReader
  | 0, cs => scalar? cs
  | depth + 1, cs =>
    match cs with
    | '[' :: rest =>
      (arrayRest? (value? depth) (rest.length + 1) rest).map fun p => (.array p.1, p.2)
    | '\x7b' :: rest => do
      let (es, rest) ← entries? (value? depth) rest
      let t ← inlineTable? es
      some (t, rest)
    | _ => scalar? cs

/-! ## Statements -/

/-- Reads a statement up to the end of its line. -/
def statement? (cs : List Char) : Option (Statement × List Char) :=
  match cs with
  | '[' :: '[' :: rest => do
    let ((path, key), rest) ← key? rest
    match rest with
    | ']' :: ']' :: rest => (endOfLine? rest).map fun rest => (.tables path key, rest)
    | _ => none
  | '[' :: rest => do
    let ((path, key), rest) ← key? rest
    match rest with
    | ']' :: rest => (endOfLine? rest).map fun rest => (.table path key, rest)
    | _ => none
  | _ => do
    let ((path, key, v), rest) ← keyValue? (value? (depthLimit - 1)) cs
    (endOfLine? rest).map fun rest => (.assign path key v, rest)

/-- Reads at most `fuel` statements. -/
def statements? : Nat → List Char → Option (List Statement)
  | 0, _ => none
  | fuel + 1, cs =>
    match skipLines cs with
    | [] => some []
    | cs => do
      let (s, rest) ← statement? cs
      let ss ← statements? fuel rest
      some (s :: ss)

/-- A text without the byte order mark at its start. -/
def dropMark : List Char → List Char
  | '\ufeff' :: cs => cs
  | cs => cs

/-- Reads a document as a table. -/
def parse? (s : String) : Option Value :=
  let cs := dropMark s.toList
  (statements? (cs.length + 1) cs).bind tableOf?

end SimilarItems.Toml
