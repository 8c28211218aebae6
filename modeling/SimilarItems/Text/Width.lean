import SimilarItems.Text.CharWidth
import SimilarItems.Text.Emoji

/-!
# Columns of texts

How many columns of a terminal a line of text takes. Each character takes those that it takes by
itself, but some characters are shown together as one sign: the parts of an emoji, and letters of
some scripts. What a character adds then depends on what follows it, so that a text is read from its
end.
-/

namespace SimilarItems.Text

/-- What a variation selector asks of the character before it. -/
inductive Selector where
  /-- To be shown as an emoji. -/
  | emoji
  /-- To be shown as text. -/
  | text
  /-- To take two columns, if it is a quotation mark. -/
  | double
deriving DecidableEq

/-- The characters that are variation selectors. -/
def Selector.ofChar? (c : Char) : Option Selector :=
  match c with
  | '\ufe0f' => some .emoji
  | '\ufe0e' => some .text
  | '\ufe01' => some .double
  | _ => none

/-- What can end a sign that is made of several letters. -/
inductive Ending where
  /-- The Hebrew letter that is joined to an alef. -/
  | lamed
  /-- The Buginese letter that is joined to a vowel sign. -/
  | ya
  /-- That letter with the vowel sign. -/
  | voweledYa
  /-- A Tifinagh consonant. -/
  | consonant
  /-- A Tifinagh consonant with the sign that joins it to another one. -/
  | joinedConsonant
  /-- The second part of a Lisu tone. -/
  | tone
  /-- The Old Turkic letter that is joined to another one. -/
  | orkhon
  /-- A Khmer letter that can be written below another one. -/
  | subscript
deriving DecidableEq

/-- What follows a character, as far as it bears on the columns that the character adds. -/
inductive Sequel where
  /-- Nothing that does. -/
  | plain
  /-- An Arabic alef, perhaps with marks before it. -/
  | alef
  /-- The end of a sign, with a joiner in it or not. -/
  | ending (letter : Ending) (joined : Bool)
  /-- A skin tone. -/
  | skinTone
  /-- A letter of a region. -/
  | indicator
  /-- Several letters of regions. -/
  | indicators
  /-- An emoji. -/
  | emoji
  /-- A joiner with an emoji. -/
  | joinedEmoji
  /-- A keycap with a joiner and an emoji. -/
  | joinedKeycap
  /-- An odd number of letters of regions with a joiner and an emoji. -/
  | joinedOdd
  /-- An even number of letters of regions with a joiner and an emoji. -/
  | joinedEven
  /-- The end of a region's tags with so many letters before it, a joiner and an emoji. -/
  | tagLetters (count : Nat)
  /-- The end of a region's tags with so many digits before it, a joiner and an emoji. -/
  | tagDigits (count : Nat)
  /-- The Kirat Rai vowel sign e. -/
  | signE
  /-- The Kirat Rai vowel sign ai. -/
  | signAi
deriving DecidableEq

/-- A character that takes no column in a sign made of several letters, wherever it stands. -/
def isIgnoredInSign (c : Char) : Bool :=
  CodeRanges.contains [(0x034f, 0x034f), (0x17b4, 0x17b5), (0x180b, 0x180d), (0x180f, 0x180f),
    (0x200d, 0x200d), (0xfe00, 0xfe0f), (0xe0100, 0xe01ef)] c

/-- The quotation marks that can take two columns. -/
def isQuotationMark (c : Char) : Bool := ['‘', '’', '“', '”'].contains c

/-- The Arabic letters of the group of alef. -/
def isAlef (c : Char) : Bool :=
  CodeRanges.contains [(0x0622, 0x0623), (0x0625, 0x0625), (0x0627, 0x0627), (0x0671, 0x0673),
    (0x0675, 0x0675), (0x0773, 0x0774), (0x0870, 0x0882)] c

/-- The Arabic letters of the group of lam, which are written with an alef as one sign. -/
def isLam (c : Char) : Bool :=
  CodeRanges.contains [(0x0644, 0x0644), (0x06b5, 0x06b8), (0x076a, 0x076a), (0x08a6, 0x08a6),
    (0x08c7, 0x08c7)] c

/-- The Khmer letters that can be written below another one. -/
def isSubscript (c : Char) : Bool :=
  CodeRanges.contains [(0x1780, 0x1782), (0x1784, 0x1787), (0x1789, 0x178c), (0x178e, 0x1793),
    (0x1795, 0x1798), (0x179b, 0x179d), (0x17a0, 0x17a0), (0x17a2, 0x17a2), (0x17a7, 0x17a7),
    (0x17ab, 0x17ac), (0x17af, 0x17af)] c

/-- The Tifinagh consonants. -/
def isTifinagh (c : Char) : Bool := CodeRanges.contains [(0x2d31, 0x2d65), (0x2d6f, 0x2d6f)] c

/-- The first parts of Lisu tones. -/
def isToneStart (c : Char) : Bool := CodeRanges.contains [(0xa4f8, 0xa4fb)] c

/-- The second parts of Lisu tones. -/
def isToneEnd (c : Char) : Bool := CodeRanges.contains [(0xa4fc, 0xa4fd)] c

/-- What a character that stands alone, or first, is to the one before it. -/
def Sequel.ofChar (c : Char) : Sequel :=
  if c = '\u05dc' then .ending .lamed false
  else if c = '\u1a10' then .ending .ya false
  else if isTifinagh c then .ending .consonant false
  else if isToneEnd c then .ending .tone false
  else if c = Char.ofNat 0x10c03 then .ending .orkhon false
  else if isSubscript c then .ending .subscript false
  else if isAlef c then .alef
  else if isIndicator c then .indicator
  else if isSkinTone c then .skinTone
  else if isEmoji c then .emoji
  else if c = Char.ofNat 0x16d67 then .signE
  else if c = Char.ofNat 0x16d68 then .signAi
  else .plain

/-- A character before the end of a sign: what it adds and what the two make, if it belongs to the
sign. -/
def Ending.precededBy? (letter : Ending) (joined : Bool) (c : Char) : Option (Int × Sequel) :=
  match letter with
  | .lamed => if joined && c = '\u05d0' then some (0, .plain) else none
  | .ya => if joined && c = '\u1a17' then some (0, .ending .voweledYa joined) else none
  | .voweledYa => if c = '\u1a15' then some (0, .plain) else none
  | .consonant =>
    if c = '\u2d7f' then some (1, .ending .joinedConsonant joined)
    else if joined && isTifinagh c then some (0, .plain)
    else none
  | .joinedConsonant => if isTifinagh c then some (-1, .plain) else none
  | .tone => if isToneStart c then some (0, .plain) else none
  | .orkhon => if joined && c = Char.ofNat 0x10c32 then some (0, .plain) else none
  | .subscript => if c = '\u17d2' then some (-1, .plain) else none

/-- A character before a joiner with an emoji: the end of another part of that emoji. -/
def beforeJoiner (c : Char) : Option (Int × Sequel) :=
  if c = keycap then some (0, .joinedKeycap)
  else if isIndicator c then some (1, .joinedOdd)
  else if isSkinTone c then some (0, .skinTone)
  else if c = tagEnd then some (0, .tagLetters 0)
  else if isEmoji c then some (0, .emoji)
  else none

/-- The character before the tags of a region, or another tag. The tags are three letters or more,
or three digits, and some letters may stand behind the digits. -/
def beforeTags (letters digits : Nat) (c : Char) : Option (Int × Sequel) :=
  if digits = 0 && letters < 6 && isTagLetter c then some (0, .tagLetters (letters + 1))
  else if digits = 0 && letters < 5 && isTagDigit c then some (0, .tagDigits 1)
  else if 0 < digits && digits < 3 && isTagDigit c then some (0, .tagDigits (digits + 1))
  else if (3 ≤ letters || digits = 3) && c = blackFlag then some (0, .emoji)
  else none

/-- A character before others: what it adds and what they make together, if they are shown
together. -/
def Sequel.precededBy? (s : Sequel) (c : Char) : Option (Int × Sequel) :=
  match s with
  | .plain | .joinedKeycap => none
  | .alef =>
    if isLam c then some (0, .plain) else if isTransparent c then some (0, .alef) else none
  | .ending letter joined =>
    if c = joiner then some (0, .ending letter true)
    else if isIgnoredInSign c then some (0, .ending letter joined)
    else letter.precededBy? joined c
  | .skinTone =>
    if takesSkinTone c then some (0, .emoji)
    else if c = joiner then some (0, .joinedEmoji)
    else none
  | .indicator => if isIndicator c then some (1, .indicators) else none
  | .indicators =>
    if isIndicator c then some (1, .indicators)
    else if c = joiner then some (0, .joinedEmoji)
    else none
  | .emoji => if c = joiner then some (0, .joinedEmoji) else none
  | .joinedEmoji => beforeJoiner c
  | .joinedOdd => if isIndicator c then some (-1, .joinedEven) else none
  | .joinedEven =>
    if isIndicator c then some (3, .joinedOdd)
    else if c = joiner then some (0, .joinedEmoji)
    else none
  | .tagLetters n => beforeTags n 0 c
  | .tagDigits n => beforeTags 0 n c
  | .signE =>
    if c = Char.ofNat 0x16d63 ∨ c = Char.ofNat 0x16d69 then some (0, .plain)
    else if c = Char.ofNat 0x16d67 then some (0, .signAi)
    else if c = Char.ofNat 0x16d68 then some (1, .signE)
    else none
  | .signAi => if c = Char.ofNat 0x16d63 then some (0, .plain) else none

/-- Whether a sign of several letters can be ended by what follows, across variation selectors. -/
def Sequel.isEnding : Sequel → Bool
  | .alef | .ending _ _ => true
  | _ => false

/-- Whether an emoji with a joiner follows, across the selector of an emoji. -/
def Sequel.isJoined : Sequel → Bool
  | .joinedEmoji | .joinedKeycap => true
  | _ => false

/-- What follows a character, and the variation selectors between the two. -/
structure Following where
  /-- What follows. -/
  sequel : Sequel
  /-- What the selectors ask for. Only the character right before a selector for an emoji takes
  notice of it. -/
  selectors : List Selector
deriving DecidableEq

namespace Following

/-- Nothing follows. -/
def nothing : Following := ⟨.plain, []⟩

/-- A character with a variation selector behind it that chooses a form of the character: what it
adds and what the two make together. -/
def chosen? (f : Following) (c : Char) : Option (Int × Sequel) :=
  if f.selectors.contains .emoji && hasEmojiForm c then
    some (if f.sequel.isJoined then 0 else 2, .emoji)
  else if f.selectors.contains .text && hasNarrowForm c then some (1, .plain)
  else if f.selectors.contains .double && isQuotationMark c then some (2, .plain)
  else none

/-- What follows a character behind selectors that do not bear on it. -/
def passed (f : Following) : Sequel :=
  if f.selectors.isEmpty || f.sequel.isEnding then f.sequel else .plain

/-- What follows the character before a selector. -/
def select (f : Following) (selector : Selector) : Following :=
  let s := f.passed
  if s.isEnding then
    ⟨s, selector :: f.selectors.filter fun other => other ≠ .emoji && other ≠ selector⟩
  else ⟨if selector = .emoji && s.isJoined then s else .plain, [selector]⟩

/-- The columns that a character adds before what follows it, and what follows the character before
it. -/
def step (f : Following) (c : Char) : Int × Following :=
  match f.chosen? c with
  | some (n, s) => (n, ⟨s, []⟩)
  | none =>
    match Selector.ofChar? c with
    | some selector => (0, f.select selector)
    | none =>
      match f.passed.precededBy? c with
      | some (n, s) => (n, ⟨s, []⟩)
      | none => (columnsOf c, ⟨.ofChar c, []⟩)

/-- Puts a character before a text of which the columns have been counted. -/
def count (c : Char) (counted : Int × Following) : Int × Following :=
  let (n, f) := counted.2.step c
  (counted.1 + n, f)

end Following

/-- The columns that a line of text takes. -/
def columns (cs : List Char) : Nat := (cs.foldr Following.count (0, .nothing)).1.toNat

/-- A line of text with blanks at its end up to the given number of columns. -/
def padTo (width : Nat) (cs : List Char) : List Char :=
  cs ++ List.replicate (width - columns cs) ' '

end SimilarItems.Text
