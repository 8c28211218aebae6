/-!
# Cutting texts

Texts cut at every occurrence of a character, texts cut into lines, and parts of texts between
places that are counted in bytes.
-/

namespace SimilarItems.Text

/-- The parts of a text between the occurrences of a character; always one more than there are
occurrences. -/
def splitAt (sep : Char) : List Char → List (List Char)
  | [] => [[]]
  | c :: cs =>
    if c = sep then [] :: splitAt sep cs
    else
      match splitAt sep cs with
      | [] => [[c]]
      | p :: ps => (c :: p) :: ps

/-- A line without the carriage return at its end. -/
def dropReturn (cs : List Char) : List Char :=
  if cs.getLast? = some '\r' then cs.dropLast else cs

/-- The lines of a text. Each but the last ends in a line feed, with or without a carriage return in
front of it; what follows the last line feed is a line only if it is not empty. -/
def lines (cs : List Char) : List (List Char) :=
  let parts := splitAt '\n' cs
  parts.dropLast.map dropReturn ++ (parts.getLast?.filter fun p => !p.isEmpty).toList

/-- The number of bytes of a text. -/
def byteSize (cs : List Char) : Nat := cs.foldl (fun n c => n + c.utf8Size) 0

/-- A text without the characters that begin in its first so many bytes. -/
def dropBytes : Nat → List Char → List Char
  | _, [] => []
  | 0, cs => cs
  | n + 1, c :: cs => dropBytes (n + 1 - c.utf8Size) cs

/-- The characters of a text that end in its first so many bytes. -/
def takeBytes : Nat → List Char → List Char
  | _, [] => []
  | n, c :: cs => if c.utf8Size ≤ n then c :: takeBytes (n - c.utf8Size) cs else []

end SimilarItems.Text
