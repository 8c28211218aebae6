import SimilarItems.Command.Error
import SimilarItems.Command.Spec
import SimilarItems.Decimal.Digits

/-!
# Reading arguments

The arguments of one command are read one after the other. An option with a value, and an operand,
is settled only when the next option or operand begins or the arguments end, so that of two faults
the one found while an argument is told apart comes before the one in the value of the argument
before it.

After an argument of two hyphens all arguments are operands. A hyphen alone is an operand, and so is
an argument with a hyphen in front at the place of an operand that allows it, unless it is made of
known options.
-/

namespace SimilarItems.Command

attribute [local instance (high)] instPowNat

/-- What was read. -/
inductive Value where
  /-- A flag, or one occurrence of what is counted. -/
  | present
  /-- A text. -/
  | text (s : String)
  /-- A number. -/
  | number (n : Nat)
deriving DecidableEq

/-- The largest number that a value may be. -/
def largestNumber : Nat := 2 ^ (64 : Nat) - 1

/-- Reads a value. -/
def ValueKind.read (k : ValueKind) (s : String) : Except ArgumentError Value :=
  match k with
  | text => .ok (.text s)
  | path => if s.isEmpty then .error .invalidValue else .ok (.text s)
  | number =>
    match Digits.natural? largestNumber s.toList with
    | some n => .ok (.number n)
    | none => .error .notANumber
  | choice words => if words.contains s then .ok (.text s) else .error .invalidValue

/-- An option or operand whose value is not settled. -/
structure Pending where
  /-- The name under which the value will be found. -/
  name : String
  /-- What it has to be. -/
  kind : ValueKind
  /-- What was given, if anything was. -/
  given : Option String
deriving DecidableEq

/-- Arguments being read. -/
structure Reading where
  /-- The command that they are for. -/
  spec : Spec
  /-- What was read, by name, in order. -/
  found : List (String × Value)
  /-- What is not settled. -/
  pending : Option Pending
  /-- The operands that are still to come. -/
  operands : List OperandSpec
  /-- Whether all that follows is operands. -/
  operandsOnly : Bool

namespace Reading

/-- Before the first argument. -/
def start (spec : Spec) : Reading := ⟨spec, [], none, spec.operands, false⟩

/-- Whether the next argument may be the value of an option. -/
def awaitsValue (r : Reading) : Bool :=
  match r.pending with
  | some ⟨_, _, none⟩ => true
  | _ => false

/-- Whether anything was read under a name. -/
def has (r : Reading) (name : String) : Bool := r.found.any fun f => f.1 = name

/-- Settles what is not settled. -/
def settle (r : Reading) : Except ArgumentError Reading :=
  match r.pending with
  | none => .ok r
  | some p =>
    match p.given with
    | none => .error .invalidValue
    | some s =>
      if r.has p.name then .error .repeated
      else (p.kind.read s).map fun v =>
        { r with found := r.found ++ [(p.name, v)], pending := none }

/-- Settles what is not settled, and leaves something else to be. -/
def await (r : Reading) (p : Pending) : Except ArgumentError Reading :=
  r.settle.map fun r => { r with pending := some p }

/-- Adds a flag. -/
def addFlag (r : Reading) (name : String) : Except ArgumentError Reading :=
  if r.has name then .error .repeated else .ok { r with found := r.found ++ [(name, .present)] }

/-- Adds one occurrence of what is counted. -/
def addOccurrence (r : Reading) (name : String) : Reading :=
  { r with found := r.found ++ [(name, .present)] }

/-- Takes an option without a value. -/
def takeFlag (program : String) (r : Reading) (name : String) (role : FlagRole) :
    Except NoCommand Reading := do
  let r ← r.settle.mapError .rejected
  match role with
  | .once => (r.addFlag name).mapError .rejected
  | .counted => .ok (r.addOccurrence name)
  | .help => .error .help
  | .version => .error (.version program)

/-- Takes an option with a value, which may be attached to it or be the next argument. -/
def takeOption (r : Reading) (name : String) (kind : ValueKind) (attached : Option String) :
    Except NoCommand Reading :=
  (do
    let r ← r.await ⟨name, kind, attached⟩
    if attached.isSome then r.settle else .ok r).mapError .rejected

/-- Takes an argument as an operand. -/
def takeOperand (surplus : ArgumentError) (r : Reading) (arg : String) : Except NoCommand Reading :=
  match r.operands with
  | [] => .error (.rejected surplus)
  | o :: os =>
    ((r.await ⟨o.name, o.kind, some arg⟩).map fun r => { r with operands := os }).mapError .rejected

/-- Takes an argument that is no option: the value of an option, or an operand. -/
def takeValue (surplus : ArgumentError) (r : Reading) (arg : String) : Except NoCommand Reading :=
  match r.pending with
  | some ⟨name, kind, none⟩ => .ok { r with pending := some ⟨name, kind, some arg⟩ }
  | _ => r.takeOperand surplus arg

/-- Whether the next operand may begin with a hyphen. -/
def allowsHyphen (r : Reading) : Bool :=
  match r.operands with
  | [] => false
  | o :: _ => o.allowsHyphen

/-- The name of a long option, and the value attached to it after an equals sign. -/
def splitLong (cs : List Char) : String × Option String :=
  let name := String.ofList (cs.takeWhile (· ≠ '='))
  match cs.dropWhile (· ≠ '=') with
  | [] => (name, none)
  | _ :: value => (name, some (String.ofList value))

/-- Takes an argument that begins with two hyphens, given without them. -/
def takeLong (program : String) (surplus : ArgumentError) (r : Reading) (cs : List Char) :
    Except NoCommand Reading :=
  let (name, attached) := splitLong cs
  match r.spec.named? name with
  | some o =>
    match o.role with
    | .value kind => r.takeOption o.name kind attached
    | .flag role =>
      if attached.isSome then .error (.rejected .surplusValue)
      else r.takeFlag program o.name role
  | none =>
    if r.allowsHyphen then r.takeValue surplus (String.ofList ('-' :: '-' :: cs))
    else .error (.rejected .unexpected)

/-- The value attached to a letter: what follows it, without an equals sign in front. -/
def attachedValue : List Char → Option String
  | [] => none
  | '=' :: cs => some (String.ofList cs)
  | cs => some (String.ofList cs)

/-- Takes letters one after the other, up to one that takes a value. -/
def takeLetters (program : String) (r : Reading) : List Char → Except NoCommand Reading
  | [] => .ok r
  | c :: cs =>
    match r.spec.lettered? c with
    | none => .error (.rejected .unexpected)
    | some o =>
      match o.role with
      | .value kind => r.takeOption o.name kind (attachedValue cs)
      | .flag role => do
        let r ← r.takeFlag program o.name role
        takeLetters program r cs

/-- Takes an argument that begins with one hyphen, given without it. -/
def takeShort (program : String) (surplus : ArgumentError) (r : Reading) (cs : List Char) :
    Except NoCommand Reading :=
  if r.allowsHyphen && cs.any fun c => (r.spec.lettered? c).isNone then
    r.takeValue surplus (String.ofList ('-' :: cs))
  else r.takeLetters program cs

/-- Takes the next argument. `surplus` is what is wrong with an operand for which there is no
place. -/
def take (program : String) (surplus : ArgumentError) (r : Reading) (arg : String) :
    Except NoCommand Reading :=
  if r.operandsOnly then r.takeOperand surplus arg
  else
    match arg.toList with
    | ['-', '-'] => .ok { r with operandsOnly := true }
    | '-' :: '-' :: cs => r.takeLong program surplus cs
    | ['-'] => r.takeValue surplus arg
    | '-' :: cs => r.takeShort program surplus cs
    | _ => r.takeValue surplus arg

end Reading

/-- The values that were read, by name, in order. -/
abbrev Values := List (String × Value)

namespace Values

/-- Whether a name was given. -/
def has (vs : Values) (name : String) : Bool := vs.any fun v => v.1 = name

/-- How often a name was given. -/
def count (vs : Values) (name : String) : Nat := vs.countP fun v => v.1 = name

/-- The text given under a name. -/
def text? (vs : Values) (name : String) : Option String :=
  match vs.lookup name with
  | some (.text s) => some s
  | _ => none

/-- The number given under a name. -/
def number? (vs : Values) (name : String) : Option Nat :=
  match vs.lookup name with
  | some (.number n) => some n
  | _ => none

end Values

/-- The values when the arguments have ended. -/
def Reading.finish (r : Reading) : Except NoCommand Values :=
  (r.settle.map Reading.found).mapError .rejected

/-- Reads all arguments of a command that has no commands of its own. -/
def Spec.read (program : String) (s : Spec) (args : List String) : Except NoCommand Values := do
  let r ← args.foldlM (Reading.take program .unexpected) (.start s)
  r.finish

end SimilarItems.Command
