import SimilarItems.Components
import SimilarItems.Log.Record
import SimilarItems.Neighbors.Error

/-!
# What becomes of commands

A command prints something, may write a file, and may fail.
-/

namespace SimilarItems.Command

/-- Why a command failed. -/
inductive Failure where
  /-- A component of a vector is not a number. -/
  | component (fault : Components.Fault)
  /-- A line of a file is no record. -/
  | record (number : Nat)
  /-- A file cannot be read, or is no text. -/
  | unreadable (path : String)
  /-- A file cannot be created. -/
  | notCreated (path : String)
  /-- The item has no embedding. -/
  | noEmbedding (item : String)
  /-- The store failed. -/
  | store (error : StoreError)
  /-- A run through the store was stopped. -/
  | run (error : Neighbors.RunError)
deriving DecidableEq

/-- The wording of a failure. -/
def Failure.message : Failure → String
  | component fault => fault.message
  | record number => "invalid record on line " ++ Digits.text number
  | unreadable path => "Failed to read " ++ path
  | notCreated path => "Failed to create " ++ path
  | noEmbedding item => "No embedding stored for '" ++ item ++ "'"
  | store error => error.message
  | run error => error.message

/-- The failure to find or read the embedding of an item. -/
def Failure.ofLookup (item : String) (e : StoreError) : Failure :=
  if e.isNotFound then .noEmbedding item else .store e

/-- A file that a command has written. -/
structure WrittenFile where
  /-- The path at which it was created. -/
  path : String
  /-- What is in it. -/
  content : String
deriving DecidableEq

/-- What becomes of a command, the store aside. -/
structure Outcome where
  /-- What it prints. -/
  output : String
  /-- What it prints beside its output. -/
  notice : String
  /-- The file that it writes. -/
  file : Option WrittenFile
  /-- Why it failed, if it did. -/
  failure : Option Failure
  /-- What it has to say about its work, in order. -/
  warnings : List Log.Record
deriving DecidableEq

namespace Outcome

/-- A command that prints something and does no more. -/
def printed (output : String) : Outcome := ⟨output, "", none, none, []⟩

/-- A command that fails before it prints anything. -/
def failed (f : Failure) : Outcome := ⟨"", "", none, some f, []⟩

/-- What an attempt becomes. -/
def ofExcept (r : Except Failure String) : Outcome :=
  match r with
  | .ok output => printed output
  | .error f => failed f

end Outcome

end SimilarItems.Command
