import SimilarItems.Command.Basic
import SimilarItems.Command.Reading

/-!
# The commands and their arguments

The names, options and operands of the commands, and how arguments give a command. Some options
belong to every command and may stand before the command's name or after it; where the last of two
counts, the one after it does.
-/

namespace SimilarItems.Command

/-- The name of the program. -/
def programName : String := "srank"

/-- The options of every command. -/
def sharedOptions : List OptionSpec :=
  [⟨"json", none, .flag .once⟩, ⟨"quiet", none, .flag .once⟩,
    ⟨"verbose", some 'v', .flag .counted⟩,
    ⟨"log-format", none, .value (.choice ["text", "json"])⟩, ⟨"otel", none, .flag .once⟩,
    ⟨"help", some 'h', .flag .help⟩, ⟨"version", some 'V', .flag .version⟩]

/-- What commands are called by. -/
inductive Verb where
  | put
  | load
  | get
  | delete
  | similar
  | scan
  | neighbors
  | completions
deriving DecidableEq

namespace Verb

/-- All verbs. -/
def all : List Verb := [put, load, get, delete, similar, scan, neighbors, completions]

/-- The name of a verb. -/
def name : Verb → String
  | put => "put"
  | load => "import"
  | get => "get"
  | delete => "delete"
  | similar => "similar"
  | scan => "scan"
  | neighbors => "neighbors"
  | completions => "completions"

/-- A second, shorter name of a verb. -/
def shortName? : Verb → Option String
  | delete => some "rm"
  | scan => some "ls"
  | _ => none

/-- The verb that goes by a name. -/
def ofName? (s : String) : Option Verb := all.find? fun v => v.name = s || v.shortName? = some s

/-- The name that the program goes by in a verb's version. -/
def program (v : Verb) : String := programName ++ "-" ++ v.name

/-- The operand that names an item. -/
def itemOperand : OperandSpec := ⟨"item", .text, false⟩

/-- The option that gives a number of neighbors. -/
def countOption : OptionSpec := ⟨"count", some 'n', .value .number⟩

/-- The options that a verb has of its own. -/
def options : Verb → List OptionSpec
  | similar => [countOption]
  | scan => [⟨"offset", none, .value .number⟩, ⟨"limit", none, .value .number⟩]
  | neighbors => [countOption, ⟨"output", some 'o', .value .path⟩]
  | _ => []

/-- The operands of a verb. -/
def operands : Verb → List OperandSpec
  | put => [itemOperand, ⟨"vector", .text, true⟩]
  | load => [⟨"path", .path, false⟩]
  | get | delete | similar => [itemOperand]
  | scan | neighbors => []
  | completions => [⟨"shell", .choice (Shell.all.map Shell.name), false⟩]

/-- The options and operands of a verb. -/
def spec (v : Verb) : Spec := ⟨v.options ++ sharedOptions, v.operands⟩

/-- The number of similar items that are listed when none is given. -/
def defaultCount : Nat := 10

/-- The command that a verb gives with values, unless an operand is missing. -/
def command? (v : Verb) (vs : Values) : Option Command :=
  match v with
  | put => do some (.put (← vs.text? "item") (← vs.text? "vector"))
  | load => (vs.text? "path").map .load
  | get => (vs.text? "item").map .get
  | delete => (vs.text? "item").map .delete
  | similar => (vs.text? "item").map fun item =>
    .similar item ((vs.number? "count").getD defaultCount)
  | scan => some (.scan ((vs.number? "offset").getD 0) (vs.number? "limit"))
  | neighbors => some (.neighbors (vs.number? "count") (vs.text? "output"))
  | completions => ((vs.text? "shell").bind Shell.ofName?).map .completions

end Verb

/-- The name under which help on a command is asked for. -/
def helpName : String := "help"

/-- Whether a name stands for a command, help included. -/
def isCommand (s : String) : Bool := s = helpName || (Verb.ofName? s).isSome

/-- What the arguments after the name for help lead to: help, unless they name no command. -/
def helpOn (args : List String) : NoCommand :=
  match args with
  | [] => .help
  | [s] => if isCommand s then .help else .rejected .unknownCommand
  | _ => .rejected .unknownCommand

/-- The options that may stand before the name of a command. -/
def programSpec : Spec := ⟨sharedOptions, []⟩

/-- The invocation of a command with the values before its name and those after it. -/
def invocation (command : Command) (before after : Values) : Invocation :=
  { command := command
    json := before.has "json" || after.has "json"
    quiet := before.has "quiet" || after.has "quiet"
    verbose := if after.has "verbose" then after.count "verbose" else before.count "verbose"
    jsonLog := (after.text? "log-format").or (before.text? "log-format") = some "json" }

/-- Reads the arguments after a verb's name. What is unsettled before the name is settled last. -/
def readVerb (before : Reading) (v : Verb) (args : List String) :
    Except NoCommand Invocation := do
  let after ← v.spec.read v.program args
  match v.command? after with
  | none => .error (.rejected .missingOperand)
  | some command =>
    let before ← before.finish
    .ok (invocation command before after)

/-- What is wrong when the arguments end without the name of a command. -/
def endError (values : Values) : ArgumentError :=
  if values.isEmpty then .nothingGiven else .missingCommand

/-- What is wrong with an argument that stands where the name of a command should. -/
def surplusError (r : Reading) (arg : String) : ArgumentError :=
  if r.operandsOnly && isCommand arg then .unexpected else .unknownCommand

/-- Reads arguments up to the name of a command, and those after it as the command's. -/
def readFrom (r : Reading) : List String → Except NoCommand Invocation
  | [] => do
    let values ← r.finish
    .error (.rejected (endError values))
  | arg :: args =>
    if !r.operandsOnly && !r.awaitsValue && isCommand arg then
      match Verb.ofName? arg with
      | some v => readVerb r v args
      | none => .error (helpOn args)
    else do
      let r ← r.take programName (surplusError r arg) arg
      readFrom r args

end SimilarItems.Command

namespace SimilarItems.Invocation

/-- The invocation that arguments give. The name of the program is not among them. -/
def parse (args : List String) : Except Command.NoCommand Invocation :=
  Command.readFrom (.start Command.programSpec) args

end SimilarItems.Invocation
