/-!
# Arguments that give no command

What is wrong with arguments, by its cause, and what else they may ask for instead of a command.
-/

namespace SimilarItems.Command

/-- What is wrong with arguments. -/
inductive ArgumentError where
  /-- There are none. -/
  | nothingGiven
  /-- No command is named. -/
  | missingCommand
  /-- There is no command of the name. -/
  | unknownCommand
  /-- An operand is missing. -/
  | missingOperand
  /-- There is no such option, or no place for another operand. -/
  | unexpected
  /-- What may be given once is given twice. -/
  | repeated
  /-- A flag is given a value. -/
  | surplusValue
  /-- The value of an option is missing, empty, or none of the words it may be. -/
  | invalidValue
  /-- A value is not a number. -/
  | notANumber
deriving DecidableEq

/-- The wording of what is wrong. -/
def ArgumentError.message : ArgumentError → String
  | nothingGiven => "no arguments given"
  | missingCommand => "a command is required but none was given"
  | unknownCommand => "unrecognized command"
  | missingOperand => "a required argument was not given"
  | unexpected => "unexpected argument found"
  | repeated => "an option was given more than once"
  | surplusValue => "a flag was given a value"
  | invalidValue => "invalid or missing value"
  | notANumber => "a value is not a number"

/-- What arguments lead to that do not give a command. -/
inductive NoCommand where
  /-- Help is asked for. -/
  | help
  /-- The version of the program is asked for, by the name given to it. -/
  | version (program : String)
  /-- Something is wrong with them. -/
  | rejected (error : ArgumentError)
deriving DecidableEq

/-- The version of the program. -/
def versionNumber : String := "0.1.0"

/-- What is printed. Help is not part of it. -/
def NoCommand.output : NoCommand → String
  | version program => program ++ " " ++ versionNumber ++ "\n"
  | _ => ""

/-- The exit code: zero if something was asked for. -/
def NoCommand.exitCode : NoCommand → Nat
  | rejected _ => 2
  | _ => 0

end SimilarItems.Command
