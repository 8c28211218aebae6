import SimilarItems.Json.Writer
import SimilarItems.Log.Filter

/-!
# Log lines

A record is written as a JSON object on one line, or as text for a terminal, in which colors mark
the level and the names of the fields. Characters that could steer a terminal are spelled out, but
for line feeds, so that a text can have several lines.
-/

namespace SimilarItems.Log

/-- A record with the target that it is about. -/
structure Event where
  /-- The part of the program that reports. -/
  target : String
  /-- What it reports. -/
  record : Record
deriving DecidableEq

/-- A field's value as a JSON value. -/
def Value.toJson : Value → Json
  | text s => .text s
  | count n => .nat n

/-- A field's value as text. -/
def Value.toText : Value → String
  | text s => s
  | count n => Digits.text n

/-- An event as a JSON value. -/
def Event.toJson (e : Event) : Json :=
  .fields [("level", .text e.record.level.name),
    ("fields", .fields ((messageField, .text e.record.message)
      :: e.record.fields.map fun f => (f.1, f.2.toJson))),
    ("target", .text e.target)]

/-- A character that steers a terminal, spelled out; any other as it is. -/
def spelled (c : Char) : List Char :=
  let n := c.toNat
  if n = 0x07 ∨ n = 0x08 ∨ n = 0x0c ∨ n = 0x1b ∨ n = 0x7f then
    ['\\', 'x', Json.Quoted.hexDigit (n / 16), Json.Quoted.hexDigit (n % 16)]
  else if 0x80 ≤ n ∧ n ≤ 0x9f then
    ['\\', 'u', '\x7b', Json.Quoted.hexDigit (n / 16), Json.Quoted.hexDigit (n % 16), '\x7d']
  else [c]

/-- A text between the codes that switch a style on and off. -/
def styled (code : String) (text : String) : String :=
  "\x1b[" ++ code ++ "m" ++ text ++ "\x1b[0m"

/-- The code of a level's color. -/
def Level.color : Level → String
  | error => "31"
  | warn => "33"
  | info => "32"
  | debug => "34"
  | trace => "35"

/-- The code of what stands back. -/
def dim : String := "2"

/-- The code of the names of fields. -/
def italic : String := "3"

/-- The name of a level with blanks before it to the width of the longest. -/
def Level.alignedName (l : Level) : String :=
  String.ofList (List.replicate (5 - l.name.length) ' ') ++ l.name

/-- A field as text. -/
def fieldText (f : String × Value) : String :=
  " " ++ styled italic f.1 ++ styled dim "=" ++ f.2.toText

/-- An event as text for a terminal. -/
def Event.toText (e : Event) : String :=
  styled e.record.level.color e.record.level.alignedName ++ " " ++ styled dim e.target
    ++ styled dim ":" ++ " " ++ String.ofList (e.record.message.toList.flatMap spelled)
    ++ String.join (e.record.fields.map fieldText)

/-- The lines that an event takes as text; there are several if there are line feeds in it. -/
def Event.textLines (e : Event) : List String :=
  (Text.lines e.toText.toList).map String.ofList

/-- The events that a filter shows. -/
def Filter.select (f : Filter) (events : List Event) : List Event :=
  events.filter fun e => f.shows e.target e.record

end SimilarItems.Log
