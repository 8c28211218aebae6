/-!
# Commands

What the program can be told to do.
-/

namespace SimilarItems

/-- A shell for which completions can be written. -/
inductive Shell where
  | bash
  | elvish
  | fish
  | powershell
  | zsh
deriving DecidableEq

/-- The shells. -/
def Shell.all : List Shell := [.bash, .elvish, .fish, .powershell, .zsh]

/-- The name of a shell. -/
def Shell.name : Shell → String
  | bash => "bash"
  | elvish => "elvish"
  | fish => "fish"
  | powershell => "powershell"
  | zsh => "zsh"

/-- The shell of a name. -/
def Shell.ofName? (name : String) : Option Shell := Shell.all.find? fun s => s.name = name

/-- A command. -/
inductive Command where
  /-- Stores the embedding of an item, the vector given as text. -/
  | put (item vector : String)
  /-- Stores the embeddings of a file. -/
  | load (path : String)
  /-- Shows the embedding of an item. -/
  | get (item : String)
  /-- Deletes the embedding of an item. -/
  | delete (item : String)
  /-- Lists the items most similar to an item. -/
  | similar (item : String) (count : Nat)
  /-- Shows embeddings by rising item. -/
  | scan (offset : Nat) (limit : Option Nat)
  /-- Writes the neighbor lists of all items, to a file if one is given. -/
  | neighbors (count : Option Nat) (output : Option String)
  /-- Writes completions for a shell. -/
  | completions (shell : Shell)
deriving DecidableEq

/-- A command and how it is to be carried out. -/
structure Invocation where
  /-- The command. -/
  command : Command
  /-- Whether its output is JSON. -/
  json : Bool
  /-- Whether only errors are logged. -/
  quiet : Bool
  /-- How often more detail was asked for in the log. -/
  verbose : Nat
  /-- Whether the log is JSON. -/
  jsonLog : Bool
deriving DecidableEq

end SimilarItems
