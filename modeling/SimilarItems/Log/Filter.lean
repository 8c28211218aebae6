import SimilarItems.Log.Directive

/-!
# Log filters

A filter is written as directives with commas between them. Of the directives that are for a record
the closest one decides: the one with the longest target, and of these one that names a field.
-/

namespace SimilarItems.Log

/-- A filter. -/
structure Filter where
  /-- Its directives, in the order in which they are written. -/
  directives : List Directive
deriving DecidableEq

namespace Filter

/-- The filter that shows errors. -/
def errors : Filter := ⟨[⟨none, none, none, Level.error.verbosity⟩]⟩

/-- Reads a filter. What is no directive is passed over; if nothing is left, only errors are
shown. -/
def parse (text : String) : Filter :=
  let directives := (Text.splitAt ',' text.toList).filterMap Directive.parse?
  if directives.isEmpty then errors else ⟨directives⟩

/-- The closer of two directives, and of two that are equally close the later one. -/
def closer (chosen : Option Directive) (d : Directive) : Option Directive :=
  match chosen with
  | none => some d
  | some c => if c.atMostAsClose d then some d else some c

/-- The verbosity up to which records of a target with fields of the given names are shown. -/
def verbosityOf (f : Filter) (target : String) (fields : List String) : Nat :=
  match (f.directives.filter fun d => d.covers target fields).foldl closer none with
  | some d => d.verbosity
  | none => 0

/-- Whether a record of a target is shown. -/
def shows (f : Filter) (target : String) (record : Record) : Bool :=
  record.level.verbosity ≤ f.verbosityOf target record.fieldNames

end Filter

/-- The filter for a number of requests for more detail, or for less. -/
def directiveFor (verbose : Nat) (quiet : Bool) : String :=
  match verbose with
  | 0 => if quiet then "error" else "warn"
  | 1 => "info,seedrank=debug"
  | _ => "trace"

end SimilarItems.Log
