import SimilarItems.Json.Basic
import SimilarItems.Json.Quoted

/-!
# Writing JSON

A value is written token by token: compactly, without any blanks, or laid out over lines with two
blanks of indentation for each level.
-/

namespace SimilarItems.Json

/-- The text of a token. A string without text is written as a single surrogate. -/
def Token.chars : Token → List Char
  | null => ['n', 'u', 'l', 'l']
  | bool true => ['t', 'r', 'u', 'e']
  | bool false => ['f', 'a', 'l', 's', 'e']
  | number n => n.chars
  | string (some s) => Quoted.write s.toList
  | string none => ['"', '\\', 'u', 'd', '8', '0', '0', '"']
  | openArray => ['[']
  | closeArray => [']']
  | openObject => ['\x7b']
  | closeObject => ['\x7d']
  | comma => [',']
  | colon => [':']

/-- The compact text of tokens. -/
def compactChars (ts : List Token) : List Char := ts.flatMap Token.chars

/-- The compact text of a value. -/
def compact (v : Json) : String := String.ofList (compactChars v.tokens)

/-- A line break followed by the indentation of a level. -/
def newline (level : Nat) : List Char := '\n' :: List.replicate (2 * level) ' '

/-- The laid out text of tokens that start at the given level. -/
def layoutChars (level : Nat) : List Token → List Char
  | [] => []
  | .openArray :: .closeArray :: ts => '[' :: ']' :: layoutChars level ts
  | .openObject :: .closeObject :: ts => '\x7b' :: '\x7d' :: layoutChars level ts
  | .openArray :: ts => '[' :: newline (level + 1) ++ layoutChars (level + 1) ts
  | .openObject :: ts => '\x7b' :: newline (level + 1) ++ layoutChars (level + 1) ts
  | .closeArray :: ts => newline (level - 1) ++ ']' :: layoutChars (level - 1) ts
  | .closeObject :: ts => newline (level - 1) ++ '\x7d' :: layoutChars (level - 1) ts
  | .comma :: ts => ',' :: newline level ++ layoutChars level ts
  | .colon :: ts => ':' :: ' ' :: layoutChars level ts
  | t :: ts => t.chars ++ layoutChars level ts

/-- The text of a value laid out over lines. -/
def pretty (v : Json) : String := String.ofList (layoutChars 0 v.tokens)

end SimilarItems.Json
