import SimilarItems.Keyed
import SimilarItems.Text.Split

/-!
# The working directory

Files under their names in one directory that holds no others. A path leads to a file if it is a
name, or a name after some steps that stay in the directory. The only other place that a path can
lead to is the null device, which is empty whatever is written to it.
-/

namespace SimilarItems

/-- The files of a directory. -/
structure Folder where
  /-- Their contents by their names. -/
  files : Keyed ByteArray

namespace Folder

/-- No files. -/
def empty : Folder := ⟨.empty⟩

/-- Where a path leads. -/
inductive Place where
  /-- To the place of the file with a name. -/
  | file (name : String)
  /-- To the null device. -/
  | nullDevice
deriving DecidableEq

/-- The longest name that a file may have, in bytes. -/
def longestName : Nat := 255

/-- The longest path that is followed, in bytes. -/
def longestPath : Nat := 4095

/-- Whether a file may have a name. -/
def isName (name : List Char) : Bool :=
  name ≠ [] && name ≠ ['.'] && name ≠ ['.', '.'] && !name.contains '\x00'
    && Text.byteSize name ≤ longestName

/-- Whether a part of a path before the last leads nowhere. -/
def staysPut (part : List Char) : Bool := part = [] || part = ['.']

/-- Where the parts of a path lead that begins at the root of all directories. -/
def placeFromRoot? (parts : List (List Char)) : Option Place :=
  match parts.dropWhile staysPut with
  | dev :: rest =>
    if dev = "dev".toList && rest.dropWhile staysPut = ["null".toList] then some .nullDevice
    else none
  | [] => none

/-- Where the parts of a path lead that begins in the directory. -/
def placeFromHere? (parts : List (List Char)) : Option Place :=
  match parts.dropWhile staysPut with
  | [name] => if isName name then some (.file (String.ofList name)) else none
  | _ => none

/-- Where a path leads, if it leads to a place for a file. -/
def place? (path : String) : Option Place :=
  if longestPath < path.utf8ByteSize then none
  else
    match Text.splitAt '/' path.toList with
    | [] :: part :: parts => placeFromRoot? (part :: parts)
    | parts => placeFromHere? parts

/-- The content of the file that a path leads to. -/
def read? (f : Folder) (path : String) : Option ByteArray :=
  match place? path with
  | some (.file name) => f.files.get? name
  | some .nullDevice => some .empty
  | none => none

/-- Whether a path leads to a place for a file. -/
def canCreate (path : String) : Bool := (place? path).isSome

/-- Writes a file, instead of one that is there. -/
def write (f : Folder) (path : String) (content : String) : Folder :=
  match place? path with
  | some (.file name) => ⟨f.files.insert name content.toUTF8⟩
  | _ => f

end Folder

end SimilarItems
