import SimilarItems.Pattern.Basic
import SimilarItems.Text.Alphanumeric
import SimilarItems.Text.Blank

/-!
# Reading patterns

A pattern is read from its start. In the extended mode blanks and comments between its signs are
skipped; a comment begins with a number sign and ends with the line. A brace that opens a count, a
code or a name has no meaning here: such a brace is never closed.
-/

namespace SimilarItems.Pattern

/-- A text without the blanks and comments at its start. -/
def skipBlanks (inComment : Bool) : List Char → List Char
  | [] => []
  | c :: cs =>
    if inComment then skipBlanks (c ≠ '\n') cs
    else if Text.isBlank c then skipBlanks false cs
    else if c = '#' then skipBlanks true cs
    else c :: cs

/-- What comes next in a text: in the extended mode after blanks and comments. -/
def next (extended : Bool) (cs : List Char) : List Char :=
  if extended then skipBlanks false cs else cs

/-- The character after a hyphen that tells whether the hyphen makes a range. In the extended mode
it is looked for behind blanks, and behind the sign of one comment, but not behind the comment. -/
def afterHyphen? (extended : Bool) (cs : List Char) : Option Char :=
  if !extended then cs.head?
  else
    match cs.dropWhile Text.isBlank with
    | '#' :: cs => (cs.dropWhile Text.isBlank).head?
    | cs => cs.head?

/-- A sign that begins with a backslash, or any other character in a set. -/
inductive Sign where
  /-- A character. -/
  | char (c : PatternChar)
  /-- The start or the end of a text. -/
  | edge
  /-- The start or the end of a word, or neither. -/
  | wordEdge
  /-- A shorthand, or what it does not stand for. -/
  | shorthand (negated : Bool)

/-- The sign that stands for one character. -/
def Sign.plain (c : Char) : Sign := .char ⟨c, false⟩

/-- The value of a hexadecimal digit. -/
def hexValue? (c : Char) : Option Nat :=
  if c.isDigit then some (c.toNat - '0'.toNat)
  else if 'a' ≤ c ∧ c ≤ 'f' then some (c.toNat - 'a'.toNat + 10)
  else if 'A' ≤ c ∧ c ≤ 'F' then some (c.toNat - 'A'.toNat + 10)
  else none

/-- Reads the digits of a code point, given how many are left and what the ones before make. -/
def readCode (extended : Bool) : Nat → Nat → List Char → Option (Nat × List Char)
  | 0, value, cs => some (value, next extended cs)
  | digits + 1, value, cs =>
    match next extended cs with
    | [] => none
    | c :: cs =>
      match hexValue? c with
      | some d => readCode extended digits (16 * value + d) cs
      | none => none

/-- Reads a character that is given by its code point. -/
def readCoded (extended : Bool) (digits : Nat) (cs : List Char) : Option (Sign × List Char) :=
  match readCode extended digits 0 cs with
  | some (value, cs) =>
    if Nat.isValidChar value then some (.char ⟨Char.ofNat value, digits = 2⟩, cs) else none
  | none => none

/-- Whether a character stands for itself behind a backslash. -/
def isMark (c : Char) : Bool := c.toNat < 0x80 && !c.isAlphanum && c ≠ '<' && c ≠ '>'

/-- Reads what stands behind a backslash. -/
def readEscape (extended : Bool) : List Char → Option (Sign × List Char)
  | [] => none
  | c :: cs =>
    match c with
    | 'x' => readCoded extended 2 cs
    | 'u' => readCoded extended 4 cs
    | 'U' => readCoded extended 8 cs
    | 'd' | 's' | 'w' => some (.shorthand false, cs)
    | 'D' | 'S' | 'W' => some (.shorthand true, cs)
    | 'a' => some (.plain '\x07', cs)
    | 'f' => some (.plain '\x0c', cs)
    | 't' => some (.plain '\t', cs)
    | 'n' => some (.plain '\n', cs)
    | 'r' => some (.plain '\r', cs)
    | 'v' => some (.plain '\x0b', cs)
    | 'A' | 'z' => some (.edge, cs)
    | 'b' | 'B' | '<' | '>' => some (.wordEdge, cs)
    | _ => if isMark c then some (.plain c, cs) else none

/-- Reads a member of a set. -/
def readMember (extended : Bool) : List Char → Option (Sign × List Char)
  | [] => none
  | '\\' :: cs => readEscape extended cs
  | c :: cs => some (.plain c, cs)

/-- Reads a member of a set, or a range if a hyphen and another member follow. -/
def readMembers (extended : Bool) (cs : List Char) : Option (PatternSet × List Char) := do
  let (first, cs) ← readMember extended cs
  let single : Option (PatternSet × List Char) :=
    match first with
    | .char c => some (.char c, next extended cs)
    | .shorthand negated => some (.shorthand negated, next extended cs)
    | _ => none
  match next extended cs with
  | '-' :: rest =>
    if [some ']', some '-'].contains (afterHyphen? extended rest) then single
    else
      let (last, rest) ← readMember extended (next extended rest)
      match first, last with
      | .char a, .char b => if a.char ≤ b.char then some (.range a b, rest) else none
      | _, _ => none
  | _ => single

/-- The names of the kinds of ASCII characters. -/
def kindNames : List String :=
  ["alnum", "alpha", "ascii", "blank", "cntrl", "digit", "graph", "lower", "print", "punct",
    "space", "upper", "word", "xdigit"]

/-- Reads what stands behind the bracket of a named kind of characters: whether all others are
meant, and what is left. -/
def readKind : List Char → Option (Bool × List Char)
  | ':' :: cs =>
    let negated := cs.head? = some '^'
    let cs := if negated then cs.tail else cs
    let name := cs.takeWhile (· ≠ ':')
    match cs.drop name.length with
    | ':' :: ']' :: rest =>
      if kindNames.contains (String.ofList name) then some (negated, rest) else none
    | _ => none
  | _ => none

/-- What can still come at the start of a set. -/
inductive SetStart where
  /-- A sign that negates the set, a hyphen, or a bracket that stands for itself. -/
  | opened
  /-- A hyphen, or a bracket that stands for itself. -/
  | negated
  /-- A hyphen. -/
  | hyphens
  /-- Nothing of this. -/
  | past
deriving DecidableEq

/-- The set in front of an operator or a bracket: the members since the last operator, which are
given in reverse, and what stands in front of that operator. -/
def joinSets (left : Option PatternSet) (members : List PatternSet) : PatternSet :=
  let right := PatternSet.ofParts members.reverse
  match left with
  | some left => .operation left right
  | none => right

/-- Whether two characters are an operator of sets. -/
def isSetOperator (c : Char) (cs : List Char) : Bool :=
  ['&', '-', '~'].contains c && cs.head? = some c

/-- Reads a set behind its opening bracket: whether it is negated, its content, and what is left.
The number bounds the members that are read. -/
def readSet (extended : Bool) : Nat → SetStart → Bool → Option PatternSet → List PatternSet →
    List Char → Option (Bool × PatternSet × List Char)
  | 0, _, _, _, _, _ => none
  | fuel + 1, start, negated, left, members, cs =>
    match next extended cs with
    | [] => none
    | c :: cs =>
      if c = '^' && start = .opened then readSet extended fuel .negated true left members cs
      else if c = '-' && start ≠ .past then
        readSet extended fuel .hyphens negated left (.char ⟨c, false⟩ :: members) cs
      else if c = ']' && (start = .opened || start = .negated) then
        readSet extended fuel .past negated left (.char ⟨c, false⟩ :: members) cs
      else if c = ']' then some (negated, joinSets left members, cs)
      else if c = '[' then
        match readKind cs with
        | some (others, cs) =>
          readSet extended fuel .past negated left (.named others :: members) cs
        | none =>
          match readSet extended fuel .opened false none [] cs with
          | some (innerNegated, inner, cs) =>
            readSet extended fuel .past negated left (.bracketed innerNegated inner :: members) cs
          | none => none
      else if isSetOperator c cs then
        readSet extended fuel .past negated (some (joinSets left members)) [] cs.tail
      else
        match readMembers extended (c :: cs) with
        | some (member, cs) => readSet extended fuel .past negated left (member :: members) cs
        | none => none

/-- The letters of modes. -/
def modeLetters : List Char := ['i', 'm', 's', 'U', 'u', 'R', 'x']

/-- Reads modes up to the sign that ends them: the change, whether a group follows, and what is
left. -/
def readModes (on : Bool) (settings : List (Char × Bool)) : List Char →
    Option (ModeChange × Bool × List Char)
  | [] => none
  | c :: cs =>
    match c with
    | ':' => some (⟨settings⟩, true, cs)
    | ')' => if settings.isEmpty then none else some (⟨settings⟩, false, cs)
    | '-' =>
      if !on || cs.head? = some ':' || cs.head? = some ')' then none
      else readModes false settings cs
    | _ =>
      if modeLetters.contains c && !settings.any fun s => s.1 = c then
        readModes on (settings ++ [(c, on)]) cs
      else none

/-- Whether a text can name a group. -/
def isGroupName : List Char → Bool
  | [] => false
  | c :: cs =>
    (c = '_' || Text.isAlphabetic c)
      && cs.all fun c => ['_', '.', '[', ']'].contains c || Text.isAlphanumeric c

/-- What a bracket can open. -/
inductive Opening where
  /-- No group: the modes change for the rest of the one around it. -/
  | modes (change : ModeChange)
  /-- A group, perhaps with a name. -/
  | group (change : ModeChange) (name : Option (List Char))

/-- Reads the name of a group up to the bracket that ends it. -/
def readGroupName (cs : List Char) : Option (Opening × List Char) :=
  let name := cs.takeWhile (· ≠ '>')
  match cs.drop name.length with
  | _ :: rest => if isGroupName name then some (.group .nothing (some name), rest) else none
  | [] => none

/-- Reads what stands behind an opening bracket up to the content of the group. -/
def readOpening (extended : Bool) (cs : List Char) : Option (Opening × List Char) :=
  match next extended cs with
  | '?' :: 'P' :: '<' :: cs => readGroupName cs
  | '?' :: '<' :: cs => readGroupName cs
  | '?' :: cs =>
    match readModes true [] cs with
    | some (change, true, cs) => some (.group change none, cs)
    | some (change, false, cs) => some (.modes change, cs)
    | none => none
  | cs => some (.group .nothing none, cs)

/-- How far a pattern has been read. -/
structure Progress where
  /-- What is left of the text. -/
  rest : List Char
  /-- Whether the extended mode is on. -/
  extended : Bool
  /-- The names of the groups that have been read. -/
  names : List (List Char)

/-- The pattern for a sign outside of sets. -/
def ofSign : Sign → Pattern
  | .char c => .char c
  | .edge => .edge
  | .wordEdge => .wordEdge
  | .shorthand negated => .shorthand negated

/-- Whether something can be repeated. -/
def isRepeatable : Pattern → Bool
  | .empty | .modes _ => false
  | _ => true

/-- The pattern of some branches and of the parts since the last of them, both in reverse. -/
def joinBranches (branches parts : List Pattern) : Pattern :=
  ofBranches (ofParts parts.reverse :: branches).reverse

/-- Reads a pattern up to its end, or to the bracket that closes the group around it, given the
branches and the parts of the last branch that have been read, both in reverse. The number bounds
the signs that are read. -/
def read : Nat → Progress → List Pattern → List Pattern → Option (Pattern × Progress)
  | 0, _, _, _ => none
  | fuel + 1, p, branches, parts =>
    let go (part : Pattern) (cs : List Char) : Option (Pattern × Progress) :=
      read fuel { p with rest := cs } branches (part :: parts)
    match next p.extended p.rest with
    | [] => some (joinBranches branches parts, { p with rest := [] })
    | c :: cs =>
      match c with
      | ')' => some (joinBranches branches parts, { p with rest := c :: cs })
      | '|' => read fuel { p with rest := cs } (ofParts parts.reverse :: branches) []
      | '(' => do
        let (opening, cs) ← readOpening p.extended cs
        match opening with
        | .modes change =>
          let extended := (change.setting? 'x').getD p.extended
          read fuel { p with rest := cs, extended := extended } branches (.modes change :: parts)
        | .group change name =>
          if name.any p.names.contains then none
          else
            let extended := (change.setting? 'x').getD p.extended
            let (content, inner) ← read fuel ⟨cs, extended, name.toList ++ p.names⟩ [] []
            match inner.rest with
            | _ :: cs =>
              read fuel { inner with rest := cs, extended := p.extended } branches
                (.group change content :: parts)
            | [] => none
      | '[' => do
        let (negated, content, cs) ← readSet p.extended cs.length .opened false none [] cs
        go (.set negated content) cs
      | '*' | '+' | '?' =>
        match parts with
        | part :: parts =>
          if isRepeatable part then
            let cs := if cs.head? = some '?' then cs.tail else cs
            read fuel { p with rest := cs } branches (.repeated part :: parts)
          else none
        | [] => none
      | '\x7b' => none
      | '\\' => do
        let (sign, cs) ← readEscape p.extended cs
        go (ofSign sign) cs
      | '.' => go .any cs
      | '^' | '$' => go .edge cs
      | _ => go (.char ⟨c, false⟩) cs

/-- Reads a pattern. -/
def parse? (text : List Char) : Option Pattern :=
  match read (text.length + 1) ⟨text, false, []⟩ [] [] with
  | some (p, progress) => if progress.rest.isEmpty then some p else none
  | none => none

end SimilarItems.Pattern
