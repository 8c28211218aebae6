/-!
# Patterns

Patterns are regular expressions. A pattern is read into a tree, which shows how deep it is and
whether it is supported in the modes that it switches on and off.

A literal without regard to case, the shorthands for digits, blanks and letters, and the edges of
words depend on tables of all characters while the pattern is about characters, and there are no
such tables. While it is about bytes they are about ASCII, but then nothing may stand for a byte
that is only a part of a character.
-/

namespace SimilarItems

/-- A character that stands for itself in a pattern. -/
structure PatternChar where
  /-- The character. -/
  char : Char
  /-- Whether it is written as a byte, by two digits. -/
  isByte : Bool
deriving DecidableEq

/-- The modes that bear on whether a pattern is supported. -/
structure PatternModes where
  /-- Letters stand for themselves in either case. -/
  caseless : Bool
  /-- The pattern is about characters and not about bytes. -/
  unicode : Bool
deriving DecidableEq

/-- Modes that are switched on or off, by their letters. -/
structure ModeChange where
  /-- The letters, each with whether its mode is switched on. -/
  settings : List (Char × Bool)
deriving DecidableEq

namespace ModeChange

/-- No change. -/
def nothing : ModeChange := ⟨[]⟩

/-- What a mode is switched to, if it is. -/
def setting? (change : ModeChange) (letter : Char) : Option Bool :=
  (change.settings.find? fun s => s.1 = letter).map (·.2)

end ModeChange

namespace PatternModes

/-- The modes at the start of a pattern. -/
def initial : PatternModes := ⟨false, true⟩

/-- The modes after a change. -/
def after (m : PatternModes) (change : ModeChange) : PatternModes :=
  ⟨(change.setting? 'i').getD m.caseless, (change.setting? 'u').getD m.unicode⟩

end PatternModes

/-- A set of characters. -/
inductive PatternSet where
  /-- No characters. -/
  | empty
  /-- One character. -/
  | char (c : PatternChar)
  /-- The characters from one to another. -/
  | range (first last : PatternChar)
  /-- The ASCII characters of a named kind, or all others. -/
  | named (negated : Bool)
  /-- What a shorthand stands for, or all other characters. -/
  | shorthand (negated : Bool)
  /-- What is in some of the parts. -/
  | union (parts : List PatternSet)
  /-- What stands between brackets, or all other characters. -/
  | bracketed (negated : Bool) (content : PatternSet)
  /-- What two sets have in common, or what one or just one of them has. -/
  | operation (left right : PatternSet)

/-- A pattern. -/
inductive Pattern where
  /-- Nothing. -/
  | empty
  /-- A change of modes for the rest of a group. -/
  | modes (change : ModeChange)
  /-- One character. -/
  | char (c : PatternChar)
  /-- Any character. -/
  | any
  /-- The start or the end of a line or a text. -/
  | edge
  /-- The start or the end of a word, or neither. -/
  | wordEdge
  /-- What a shorthand stands for, or any other character. -/
  | shorthand (negated : Bool)
  /-- A character of a set in brackets. -/
  | set (negated : Bool) (content : PatternSet)
  /-- A pattern that may be left out or repeated. -/
  | repeated (content : Pattern)
  /-- A group, with the modes in it. -/
  | group (change : ModeChange) (content : Pattern)
  /-- One of several patterns. -/
  | alternation (branches : List Pattern)
  /-- Several patterns one after another. -/
  | sequence (parts : List Pattern)

namespace PatternSet

/-- The union of sets, which is more than its parts only if there are several of them. -/
def ofParts : List PatternSet → PatternSet
  | [] => .empty
  | [s] => s
  | ss => .union ss

mutual

/-- How deep sets are nested in a set. -/
def depth : PatternSet → Nat
  | .empty | .char _ | .range _ _ | .named _ | .shorthand _ => 0
  | .union parts => depthOfAll parts + 1
  | .bracketed _ content => content.depth + 1
  | .operation left right => max left.depth right.depth + 1

/-- The largest depth of some sets. -/
def depthOfAll : List PatternSet → Nat
  | [] => 0
  | s :: ss => max s.depth (depthOfAll ss)

end

/-- Whether a character is supported in a set. -/
def supportsChar (m : PatternModes) (c : PatternChar) : Bool :=
  if m.unicode then !m.caseless else c.char.toNat < 0x80

mutual

/-- Whether a set is supported. In a set of bytes that are ASCII nothing can be negated. -/
def isSupported (m : PatternModes) : PatternSet → Bool
  | .empty => true
  | .char c => supportsChar m c
  | .range first last => supportsChar m first && supportsChar m last
  | .named negated => if m.unicode then !m.caseless else !negated
  | .shorthand negated => !m.unicode && !negated
  | .union parts => areSupported m parts
  | .bracketed negated content => (m.unicode || !negated) && content.isSupported m
  | .operation left right => left.isSupported m && right.isSupported m

/-- Whether some sets are supported. -/
def areSupported (m : PatternModes) : List PatternSet → Bool
  | [] => true
  | s :: ss => s.isSupported m && areSupported m ss

end

end PatternSet

namespace Pattern

/-- A sequence of patterns, which is more than its parts only if there are several of them. -/
def ofParts : List Pattern → Pattern
  | [] => .empty
  | [p] => p
  | ps => .sequence ps

/-- A choice between patterns, if there are several. -/
def ofBranches : List Pattern → Pattern
  | [p] => p
  | ps => .alternation ps

mutual

/-- How deep patterns are nested in a pattern. -/
def depth : Pattern → Nat
  | .empty | .modes _ | .char _ | .any | .edge | .wordEdge | .shorthand _ => 0
  | .set _ content => content.depth + 1
  | .repeated content => content.depth + 1
  | .group _ content => content.depth + 1
  | .alternation branches => depthOfAll branches + 1
  | .sequence parts => depthOfAll parts + 1

/-- The largest depth of some patterns. -/
def depthOfAll : List Pattern → Nat
  | [] => 0
  | p :: ps => max p.depth (depthOfAll ps)

end

/-- Whether a character is supported outside of sets. -/
def supportsChar (m : PatternModes) (c : PatternChar) : Bool :=
  if m.unicode then !m.caseless else !c.isByte || c.char.toNat < 0x80

mutual

/-- The modes behind a pattern, if it is supported. A group keeps its modes to itself. -/
def modesAfter? (m : PatternModes) : Pattern → Option PatternModes
  | .empty | .edge => some m
  | .modes change => some (m.after change)
  | .char c => if supportsChar m c then some m else none
  | .any => if m.unicode then some m else none
  | .wordEdge => if m.unicode then none else some m
  | .shorthand negated => if m.unicode || negated then none else some m
  | .set negated content =>
    if (PatternSet.bracketed negated content).isSupported m then some m else none
  | .repeated content => content.modesAfter? m
  | .group change content => (content.modesAfter? (m.after change)).map fun _ => m
  | .alternation branches => modesAfterAll? m branches
  | .sequence parts => modesAfterAll? m parts

/-- The modes behind patterns that are written one after another, if all are supported. -/
def modesAfterAll? (m : PatternModes) : List Pattern → Option PatternModes
  | [] => some m
  | p :: ps =>
    match p.modesAfter? m with
    | some m => modesAfterAll? m ps
    | none => none

end

/-- How deep a pattern may be. -/
def deepest : Nat := 250

/-- Whether a pattern is supported. -/
def isSupported (p : Pattern) : Bool :=
  p.depth ≤ deepest && (p.modesAfter? .initial).isSome

end Pattern

end SimilarItems
