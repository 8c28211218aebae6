import SimilarItems.Binary64.Literal
import SimilarItems.Decimal.Digits
import SimilarItems.Log.Record
import SimilarItems.Pattern.Reader
import SimilarItems.Text.Alphanumeric
import SimilarItems.Text.Blank
import SimilarItems.Text.Split

/-!
# Directives of log filters

A directive says up to which level records are shown. It is a level for all of them, or a target
with a level after an equals sign; without the level all records of the target are shown. In
brackets behind the target a directive can name a span of work in which records must be made, and
after it, in braces, a field that they must have, perhaps with a value: a number or a pattern.

Blanks around a directive do not count when its parts are told apart. The parts are then taken from
the text with the blanks, at the places that they have in the text without them.
-/

namespace SimilarItems.Log

/-- A field that a directive asks for. -/
structure FieldCondition where
  /-- The name of the field. -/
  name : String
  /-- The value that it must have, if any is given. -/
  value : Option String
deriving DecidableEq

/-- A directive of a filter. -/
structure Directive where
  /-- What targets must begin with, if the directive is for some targets only. -/
  target : Option String
  /-- The span of work in which records must be made, if there is one. -/
  span : Option String
  /-- The field that records must have, if there is one. -/
  field : Option FieldCondition
  /-- The verbosity up to which records are shown; zero shows none. -/
  verbosity : Nat
deriving DecidableEq

/-- The verbosity that shows everything. -/
def fullVerbosity : Nat := Level.trace.verbosity

/-- The verbosity of a level by its name, in any case; `off` shows nothing. -/
def namedVerbosity? (name : String) : Option Nat :=
  match name.toLower with
  | "off" => some 0
  | "error" => some Level.error.verbosity
  | "warn" => some Level.warn.verbosity
  | "info" => some Level.info.verbosity
  | "debug" => some Level.debug.verbosity
  | "trace" => some Level.trace.verbosity
  | _ => none

/-- The verbosity that a text names, by a level's name or its number. -/
def verbosity? (text : List Char) : Option Nat :=
  match Digits.natural? fullVerbosity text with
  | some n => some n
  | none => namedVerbosity? (String.ofList text)

/-- The verbosity that is written behind an equals sign; nothing stands for all. -/
def writtenVerbosity? (text : List Char) : Option Nat :=
  if text.isEmpty then some fullVerbosity else verbosity? text

/-- Whether a text can be the value of a field: a number or a pattern. -/
def isFieldValue (text : List Char) : Bool :=
  (Binary64.ofLiteral? text).isSome || (Pattern.parse? text).any Pattern.isSupported

/-- Reads a field, with its value after an equals sign. -/
def FieldCondition.parse? (text : List Char) : Option FieldCondition :=
  match Text.splitAt '=' text with
  | name :: value :: _ =>
    if isFieldValue value then some ⟨String.ofList name, some (String.ofList value)⟩ else none
  | _ => some ⟨String.ofList text, none⟩

namespace Directive

/-- Whether a directive may begin with a character. -/
def begins (c : Char) : Bool :=
  Text.isAlphanumeric c || c = '-' || c = ':' || c = '_' || c = '['

/-- The part of a text between two places, given by the bytes before them. -/
def part (text : List Char) (first last : Nat) : List Char :=
  Text.takeBytes (last - first) (Text.dropBytes first text)

/-- Reads what stands behind the brackets: nothing, or a level after an equals sign. -/
def ending? (text : List Char) (place : Nat) (rest : List Char) : Option Nat :=
  match rest with
  | [] => some fullVerbosity
  | '=' :: _ => writtenVerbosity? (Text.dropBytes (place + 1) text)
  | _ => none

/-- Reads what stands from an opening bracket on, given the place behind it and what is left there
of the text without blanks. -/
def bracketed? (text : List Char) (target : Option String) (place : Nat) (rest : List Char) :
    Option Directive :=
  let name := rest.takeWhile fun c => c ≠ ']' && c ≠ '\x7b'
  let nameEnd := place + Text.byteSize name
  let span := String.ofList (part text place nameEnd)
  match rest.drop name.length with
  | ']' :: rest =>
    (ending? text (nameEnd + 1) rest).map fun v => ⟨target, some span, none, v⟩
  | '\x7b' :: rest =>
    let inner := rest.takeWhile (· ≠ '\x7d')
    let innerEnd := nameEnd + 1 + Text.byteSize inner
    match inner, rest.drop inner.length with
    | _ :: _, '\x7d' :: ']' :: rest => do
      let field ← FieldCondition.parse? (part text (nameEnd + 1) innerEnd)
      let v ← ending? text (innerEnd + 2) rest
      some ⟨target, if name.isEmpty then none else some span, some field, v⟩
    | _, _ => none
  | _ => none

/-- Reads a directive. -/
def parse? (text : List Char) : Option Directive :=
  let body := Text.trim text
  if !body.head?.any begins then none
  else
    let name := body.takeWhile fun c => c ≠ '=' && c ≠ '['
    let nameEnd := Text.byteSize name
    let target := String.ofList (part text 0 nameEnd)
    match body.drop name.length with
    | [] =>
      match verbosity? text with
      | some v => some ⟨none, none, none, v⟩
      | none => some ⟨some (String.ofList text), none, none, fullVerbosity⟩
    | '[' :: rest =>
      bracketed? text (if name.isEmpty then none else some target) (nameEnd + 1) rest
    | _ =>
      (writtenVerbosity? (Text.dropBytes (nameEnd + 1) text)).map fun v =>
        ⟨some target, none, none, v⟩

/-- Whether a directive can be for a record that is made outside every span: it names no span, and
no value of a field. -/
def isSpanless (d : Directive) : Bool :=
  d.span.isNone && !d.field.any fun f => f.value.isSome

/-- Whether a directive is for the records of a target with fields of the given names. -/
def covers (d : Directive) (target : String) (fields : List String) : Bool :=
  d.isSpanless && d.target.all (fun t => t.toList.isPrefixOf target.toList)
    && d.field.all fun f => fields.contains f.name

/-- The bytes of the target that a directive names. -/
def targetSize (d : Directive) : Nat :=
  match d.target with
  | none => 0
  | some t => t.utf8ByteSize

/-- Whether the field that a directive names, if any, is before another one's or the same. Naming
none is before naming one. -/
def fieldAtMost (d e : Directive) : Bool :=
  match d.field, e.field with
  | none, _ => true
  | some _, none => false
  | some f, some g => !decide (g.name < f.name)

/-- Whether a directive describes records no more closely than another one. -/
def atMostAsClose (d e : Directive) : Bool :=
  d.targetSize < e.targetSize || (d.targetSize = e.targetSize && d.fieldAtMost e)

end Directive

end SimilarItems.Log
