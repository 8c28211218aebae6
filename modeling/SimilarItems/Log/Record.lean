/-!
# Log records

What the library has to say about its own work is a value: a level, a message, and named fields.
-/

namespace SimilarItems.Log

/-- How grave a record is, the gravest first. -/
inductive Level where
  | error
  | warn
  | info
  | debug
  | trace
deriving DecidableEq, Inhabited

/-- The verbosity from which on records of a level are shown: 1 for errors up to 5 for traces. -/
def Level.verbosity : Level → Nat
  | error => 1
  | warn => 2
  | info => 3
  | debug => 4
  | trace => 5

/-- The name of a level. -/
def Level.name : Level → String
  | error => "ERROR"
  | warn => "WARN"
  | info => "INFO"
  | debug => "DEBUG"
  | trace => "TRACE"

/-- The value of a field. -/
inductive Value where
  | text (s : String)
  | count (n : Nat)
deriving DecidableEq

/-- One record. -/
structure Record where
  /-- How grave it is. -/
  level : Level
  /-- What happened. -/
  message : String
  /-- The particulars, in order. -/
  fields : List (String × Value)
deriving DecidableEq

/-- The name of the message among the fields. -/
def messageField : String := "message"

/-- The names of all fields of a record, the message among them. -/
def Record.fieldNames (r : Record) : List String := messageField :: r.fields.map (·.1)

end SimilarItems.Log
