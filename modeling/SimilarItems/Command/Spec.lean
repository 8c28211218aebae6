/-!
# What commands are made of

A command has options, which may stand anywhere among its arguments, and operands, which are told
apart by their places. An option has a long name and may have a letter; it is a flag, or takes a
value. All this is data, by which arguments are read.
-/

namespace SimilarItems.Command

/-- What a value has to be. -/
inductive ValueKind where
  /-- Any text. -/
  | text
  /-- A text that is not empty. -/
  | path
  /-- A natural number of at most 64 bits. -/
  | number
  /-- One of some words. -/
  | choice (words : List String)
deriving DecidableEq

/-- What an option without a value is for. -/
inductive FlagRole where
  /-- It may be given once, and says yes. -/
  | once
  /-- It may be given more than once, and is counted. -/
  | counted
  /-- It asks for help. -/
  | help
  /-- It asks for the version. -/
  | version
deriving DecidableEq

/-- What an option is for. -/
inductive OptionRole where
  /-- It has no value. -/
  | flag (role : FlagRole)
  /-- It may be given once, with a value. -/
  | value (kind : ValueKind)
deriving DecidableEq

/-- An option. -/
structure OptionSpec where
  /-- The name that follows two hyphens. -/
  name : String
  /-- The letter that follows one hyphen, if there is one. -/
  letter : Option Char
  /-- What it is for. -/
  role : OptionRole
deriving DecidableEq

/-- An operand. Every operand must be given. -/
structure OperandSpec where
  /-- Its name. -/
  name : String
  /-- What it has to be. -/
  kind : ValueKind
  /-- Whether it may begin with a hyphen although it is no option. -/
  allowsHyphen : Bool
deriving DecidableEq

/-- The options and operands of a command. -/
structure Spec where
  /-- The options. -/
  options : List OptionSpec
  /-- The operands, in order. -/
  operands : List OperandSpec
deriving DecidableEq

namespace Spec

/-- The option with a long name. -/
def named? (s : Spec) (name : String) : Option OptionSpec := s.options.find? fun o => o.name = name

/-- The option with a letter. -/
def lettered? (s : Spec) (c : Char) : Option OptionSpec :=
  s.options.find? fun o => o.letter = some c

end Spec

end SimilarItems.Command
