import SimilarItems.Json.Basic
import SimilarItems.Json.Quoted

/-!
# Reading JSON

A text is cut into tokens, with blanks between them passed over, and the tokens are put together
to a value by a machine that keeps the unfinished arrays and objects on a stack. The grammar is
the strict one: no comments, no commas at an end, nothing after the value but blanks.
-/

namespace SimilarItems.Json

/-- The blanks that may stand between tokens. -/
def isBlank (c : Char) : Bool := c = ' ' || c = '\t' || c = '\n' || c = '\r'

/-! ## Tokens -/

/-- Reads the token at the front of a text that does not start with a blank. -/
def Token.read? : List Char → Option (Token × List Char)
  | '[' :: cs => some (.openArray, cs)
  | ']' :: cs => some (.closeArray, cs)
  | '\x7b' :: cs => some (.openObject, cs)
  | '\x7d' :: cs => some (.closeObject, cs)
  | ',' :: cs => some (.comma, cs)
  | ':' :: cs => some (.colon, cs)
  | 'n' :: 'u' :: 'l' :: 'l' :: cs => some (.null, cs)
  | 't' :: 'r' :: 'u' :: 'e' :: cs => some (.bool true, cs)
  | 'f' :: 'a' :: 'l' :: 's' :: 'e' :: cs => some (.bool false, cs)
  | '"' :: cs => (Quoted.read? cs).map fun p => (.string p.1, p.2)
  | cs => (Number.read? cs).map fun p => (.number p.1, p.2)

/-- Cuts a text into at most `fuel` tokens. -/
def Token.readMany? : Nat → List Char → Option (List Token)
  | 0, cs => if (cs.dropWhile isBlank).isEmpty then some [] else none
  | fuel + 1, cs =>
    match cs.dropWhile isBlank with
    | [] => some []
    | c :: cs => do
      let (t, rest) ← Token.read? (c :: cs)
      let ts ← readMany? fuel rest
      some (t :: ts)

/-- Cuts a text into tokens. Each takes at least one character, so that there are no more of them
than characters. -/
def Token.readAll? (cs : List Char) : Option (List Token) := readMany? cs.length cs

/-! ## Values -/

/-- An array or object that is not finished: what it holds so far, the last first, and for an
object the key whose value is being read. -/
inductive Frame where
  | array (before : List Json)
  | object (before : List (Option String × Json)) (key : Option String)

/-- What may come next. -/
inductive Expected where
  /-- A value. -/
  | value
  /-- The first element of an array, or its end. -/
  | firstElement
  /-- The first key of an object, or its end. -/
  | firstKey
  /-- A further key of an object that holds the given members, the last first. -/
  | key (before : List (Option String × Json))
  /-- The colon after the given key. -/
  | colon (before : List (Option String × Json)) (key : Option String)
  /-- What follows the finished value `v`: a comma, or the end of what holds it. -/
  | after (v : Json)

/-- A value that is being read. -/
structure Reading where
  /-- The unfinished arrays and objects, the innermost first. -/
  stack : List Frame
  /-- What may come next. -/
  expected : Expected

namespace Reading

/-- Before the first token. -/
def start : Reading := ⟨[], .value⟩

/-- The token starts a value. -/
def begin? (stack : List Frame) : Token → Option Reading
  | .null => some ⟨stack, .after .null⟩
  | .bool b => some ⟨stack, .after (.bool b)⟩
  | .number n => some ⟨stack, .after (.number n)⟩
  | .string s => some ⟨stack, .after (.string s)⟩
  | .openArray => some ⟨stack, .firstElement⟩
  | .openObject => some ⟨stack, .firstKey⟩
  | _ => none

/-- The token follows a finished value inside an array or object. -/
def continue? (v : Json) : Frame → List Frame → Token → Option Reading
  | .array before, stack, .comma => some ⟨.array (v :: before) :: stack, .value⟩
  | .array before, stack, .closeArray => some ⟨stack, .after (.array (v :: before).reverse)⟩
  | .object before key, stack, .comma => some ⟨stack, .key ((key, v) :: before)⟩
  | .object before key, stack, .closeObject =>
    some ⟨stack, .after (.object ((key, v) :: before).reverse)⟩
  | _, _, _ => none

/-- Takes one token. -/
def step? (p : Reading) (t : Token) : Option Reading :=
  match p.expected, t with
  | .value, t => begin? p.stack t
  | .firstElement, .closeArray => some ⟨p.stack, .after (.array [])⟩
  | .firstElement, t => begin? (.array [] :: p.stack) t
  | .firstKey, .closeObject => some ⟨p.stack, .after (.object [])⟩
  | .firstKey, .string k => some ⟨p.stack, .colon [] k⟩
  | .key before, .string k => some ⟨p.stack, .colon before k⟩
  | .colon before k, .colon => some ⟨.object before k :: p.stack, .value⟩
  | .after v, t =>
    match p.stack with
    | [] => none
    | frame :: stack => continue? v frame stack t
  | _, _ => none

/-- Takes tokens one after another. -/
def run? (p : Reading) (ts : List Token) : Option Reading := ts.foldlM step? p

/-- The value, if it is complete. -/
def finish? (p : Reading) : Option Json :=
  match p.stack, p.expected with
  | [], .after v => some v
  | _, _ => none

end Reading

/-- The value that tokens make. -/
def ofTokens? (ts : List Token) : Option Json := (Reading.start.run? ts).bind Reading.finish?

/-- Reads a text as one JSON value. -/
def parse? (s : String) : Option Json := (Token.readAll? s.toList).bind ofTokens?

end SimilarItems.Json
