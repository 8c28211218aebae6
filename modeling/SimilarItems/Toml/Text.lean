import SimilarItems.Json.Quoted
import SimilarItems.Toml.Blank

/-!
# TOML strings

The four forms of strings: in double quotes with escapes or in single quotes without, on one line or
on several. A string on several lines starts after a line end that follows its quotes at once, may
hold one or two quotes in a row, and may end in one or two quotes before the three that close it.
-/

namespace SimilarItems.Toml

/-- Whether a character may stand in a string as it is, quotes and backslashes apart: any but the
control characters, of which only the tab may. -/
def inString (c : Char) : Bool := inComment c

/-- The value of some hexadecimal digits. -/
def hexValue? (ds : List Char) : Option Nat :=
  ds.foldlM (fun n d => (Json.Quoted.hexValue? d).map (16 * n + ·)) 0

/-- The character with a code, if there is one. -/
def charOfCode? (n : Nat) : Option Char :=
  if n < 0xd800 ∨ (0xdfff < n ∧ n < 0x110000) then some (Char.ofNat n) else none

/-- The character of a code written with the given number of hexadecimal digits, and the text after
it. -/
def codeEscape? (digits : Nat) (cs : List Char) : Option (Char × List Char) := do
  let ds := cs.take digits
  if ds.length < digits then none
  else
    let n ← hexValue? ds
    let c ← charOfCode? n
    some (c, cs.drop digits)

/-- Reads the rest of an escape after its backslash. -/
def escape? : List Char → Option (Char × List Char)
  | 'b' :: cs => some ('\x08', cs)
  | 't' :: cs => some ('\t', cs)
  | 'n' :: cs => some ('\n', cs)
  | 'f' :: cs => some ('\x0c', cs)
  | 'r' :: cs => some ('\r', cs)
  | '"' :: cs => some ('"', cs)
  | '\\' :: cs => some ('\\', cs)
  | 'u' :: cs => codeEscape? 4 cs
  | 'U' :: cs => codeEscape? 8 cs
  | _ => none

/-- Reads the rest of a string on one line up to its closing quote; with escapes if `escaped`. -/
def lineBody? (quote : Char) (escaped : Bool) : Nat → List Char → Option (List Char × List Char)
  | 0, _ => none
  | _, [] => none
  | fuel + 1, c :: cs =>
    if c = quote then some ([], cs)
    else if escaped && c = '\\' then do
      let (x, rest) ← escape? cs
      let (xs, rest) ← lineBody? quote escaped fuel rest
      some (x :: xs, rest)
    else if inString c then do
      let (xs, rest) ← lineBody? quote escaped fuel cs
      some (c :: xs, rest)
    else none

/-- Passes over blanks and line ends, at most `fuel` of them. -/
def skipBlankLines : Nat → List Char → List Char
  | 0, cs => cs
  | fuel + 1, cs =>
    match newline? (skipBlanks cs) with
    | some rest => skipBlankLines fuel rest
    | none => skipBlanks cs

/-- A backslash at the end of a line joins it with the next line that is not blank. -/
def joinedLines? (cs : List Char) : Option (List Char) :=
  (newline? (skipBlanks cs)).map fun rest => skipBlankLines rest.length rest

/-- Reads the rest of a string on several lines up to its closing quotes. -/
def linesBody? (quote : Char) (escaped : Bool) : Nat → List Char → Option (List Char × List Char)
  | 0, _ => none
  | _, [] => none
  | fuel + 1, c :: cs =>
    if c = quote then
      let quotes := (c :: cs).takeWhile (· = quote)
      if quotes.length < 3 then do
        let (xs, rest) ← linesBody? quote escaped fuel cs
        some (c :: xs, rest)
      else if quotes.length ≤ 5 then some (quotes.drop 3, cs.drop (quotes.length - 1))
      else none
    else
      match newline? (c :: cs) with
      | some rest => do
        let (xs, rest) ← linesBody? quote escaped fuel rest
        some ('\n' :: xs, rest)
      | none =>
        if escaped && c = '\\' then
          match joinedLines? cs with
          | some rest => linesBody? quote escaped fuel rest
          | none => do
            let (x, rest) ← escape? cs
            let (xs, rest) ← linesBody? quote escaped fuel rest
            some (x :: xs, rest)
        else if inString c then do
          let (xs, rest) ← linesBody? quote escaped fuel cs
          some (c :: xs, rest)
        else none

/-- Reads a string on one line. -/
def lineString? : List Char → Option (String × List Char)
  | '"' :: cs => (lineBody? '"' true (cs.length + 1) cs).map fun p => (String.ofList p.1, p.2)
  | '\'' :: cs => (lineBody? '\'' false (cs.length + 1) cs).map fun p => (String.ofList p.1, p.2)
  | _ => none

/-- Reads the rest of a string on several lines after its opening quotes. -/
def linesString? (quote : Char) (escaped : Bool) (cs : List Char) : Option (String × List Char) :=
  let cs := (newline? cs).getD cs
  (linesBody? quote escaped (cs.length + 1) cs).map fun p => (String.ofList p.1, p.2)

/-- Reads a string of any form. -/
def string? : List Char → Option (String × List Char)
  | '"' :: '"' :: '"' :: cs => linesString? '"' true cs
  | '\'' :: '\'' :: '\'' :: cs => linesString? '\'' false cs
  | cs => lineString? cs

end SimilarItems.Toml
