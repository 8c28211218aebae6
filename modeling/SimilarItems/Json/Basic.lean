import SimilarItems.Json.Number

/-!
# JSON values

JSON values and their tokens. A value determines its tokens, `Json.tokens`; texts are read and
written by way of them.

A string whose escapes leave a surrogate without its partner has no text. It is kept as a string
without text, so that values that are passed over may contain one.
-/

namespace SimilarItems

/-- A JSON value. The members of an object keep their order and their repetitions. -/
inductive Json where
  | null
  | bool (b : Bool)
  | number (n : Json.Number)
  | string (s : Option String)
  | array (elements : List Json)
  | object (members : List (Option String × Json))
deriving Inhabited

namespace Json

/-- A token of a JSON text. -/
inductive Token where
  | null
  | bool (b : Bool)
  | number (n : Number)
  | string (s : Option String)
  | openArray
  | closeArray
  | openObject
  | closeObject
  | comma
  | colon
deriving DecidableEq

/-- A text as a value. -/
def text (s : String) : Json := .string (some s)

/-- A natural number as a value. -/
def nat (n : Nat) : Json := .number (.ofNat n)

/-- An integer as a value. -/
def int (n : Int) : Json := .number (.ofInt n)

/-- An array of texts. -/
def texts (ss : List String) : Json := .array (ss.map text)

/-- An object with the given members. -/
def fields (ms : List (String × Json)) : Json := .object (ms.map fun m => (some m.1, m.2))

mutual

/-- The tokens of a value. -/
def tokens : Json → List Token
  | null => [.null]
  | bool b => [.bool b]
  | number n => [.number n]
  | string s => [.string s]
  | array es => .openArray :: elementTokens es ++ [.closeArray]
  | object ms => .openObject :: memberTokens ms ++ [.closeObject]

/-- The tokens of the elements of an array, with commas between them. -/
def elementTokens : List Json → List Token
  | [] => []
  | [e] => e.tokens
  | e :: es => e.tokens ++ .comma :: elementTokens es

/-- The tokens of the members of an object, with commas between them. -/
def memberTokens : List (Option String × Json) → List Token
  | [] => []
  | [(k, v)] => .string k :: .colon :: v.tokens
  | (k, v) :: ms => .string k :: .colon :: v.tokens ++ .comma :: memberTokens ms

end

end Json

end SimilarItems
