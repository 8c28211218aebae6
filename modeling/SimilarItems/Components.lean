import SimilarItems.Binary64.Literal
import SimilarItems.Text.Blank
import SimilarItems.Text.Split

/-!
# Vectors as text

A vector is given as its components with commas between them and blanks around them. A text of
nothing but blanks gives the vector without components.
-/

namespace SimilarItems.Components

/-- A component that is not a number: where it stands, from zero, and its text without blanks. -/
structure Fault where
  /-- The number of components before it. -/
  position : Nat
  /-- What was given. -/
  part : String
deriving DecidableEq

/-- The wording of a fault. -/
def Fault.message (f : Fault) : String :=
  "component " ++ Digits.text f.position ++ " ('" ++ f.part ++ "') is not a number"

/-- Reads components, of which the first stands at the given position. -/
def ofParts (position : Nat) : List (List Char) → Except Fault (List Binary64)
  | [] => .ok []
  | p :: ps =>
    match Binary64.ofLiteral? (Text.trim p) with
    | none => .error ⟨position, String.ofList (Text.trim p)⟩
    | some x => (ofParts (position + 1) ps).map (x :: ·)

/-- Reads a vector. -/
def parseChars (cs : List Char) : Except Fault (List Binary64) :=
  let body := Text.trim cs
  if body.isEmpty then .ok [] else ofParts 0 (Text.splitAt ',' body)

/-- Reads a vector. -/
def parse (s : String) : Except Fault (List Binary64) := parseChars s.toList

end SimilarItems.Components
