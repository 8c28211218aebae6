/-!
# Blanks, comments and line ends in TOML
-/

namespace SimilarItems.Toml

/-- The blanks that may stand within a line. -/
def isBlank (c : Char) : Bool := c = ' ' || c = '\t'

/-- Passes over blanks. -/
def skipBlanks (cs : List Char) : List Char := cs.dropWhile isBlank

/-- Whether a character may stand in a comment: any but the control characters, of which only the
tab may. -/
def inComment (c : Char) : Bool := c = '\t' || (0x20 ≤ c.toNat && c.toNat ≠ 0x7f)

/-- Reads a line end. -/
def newline? : List Char → Option (List Char)
  | '\n' :: cs => some cs
  | '\r' :: '\n' :: cs => some cs
  | _ => none

/-- Passes over a comment, if one starts here. -/
def skipComment : List Char → List Char
  | '#' :: cs => cs.dropWhile inComment
  | cs => cs

/-- Reads what may follow a statement on its line: blanks, a comment, and the line's end or that of
the text. -/
def endOfLine? (cs : List Char) : Option (List Char) :=
  match skipComment (skipBlanks cs) with
  | [] => some []
  | cs => newline? cs

/-- Passes over blanks, comments and line ends, at most `fuel` of them. -/
def skipLinesFuel : Nat → List Char → List Char
  | 0, cs => cs
  | fuel + 1, cs =>
    let rest := skipComment (skipBlanks cs)
    match newline? rest with
    | some rest => skipLinesFuel fuel rest
    | none => rest

/-- Passes over blanks, comments and line ends. -/
def skipLines (cs : List Char) : List Char := skipLinesFuel cs.length cs

end SimilarItems.Toml
