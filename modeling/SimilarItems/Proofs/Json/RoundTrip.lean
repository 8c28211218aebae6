import SimilarItems.Json.Reader
import SimilarItems.Json.Writer
import SimilarItems.Proofs.Decimal.Digits

/-!
# Compact JSON reads back

The compact text of a JSON value is read as that value, if its numbers are written as the grammar
demands. The text is cut into the tokens it was written from, because no number is followed by
another, and the machine that puts tokens together gives back the value.
-/

namespace SimilarItems.Json

/-! ## Strings -/

namespace Quoted

theorem hexValue?_hexDigit : ∀ n < 16, hexValue? (hexDigit n) = some n := by
  decide

theorem pieces?_short {e c : Char} (h : shortEscape? e = some c) (rest : List Char) :
    pieces? ('\\' :: e :: rest) = (pieces? rest).map fun q => (.char c :: q.1, q.2) := by
  have hu : e ≠ 'u' := by
    rintro rfl
    cases h
  rw [pieces?.eq_def]
  split
  · cases ‹_ = []›
  · cases ‹_›
  · simp_all
  · cases ‹_›
    rw [h]
    cases pieces? rest <;> rfl
  · rename_i hno heq
    obtain ⟨rfl, rfl⟩ := List.cons.inj heq
    exact absurd rfl (hno e rest rfl)

theorem pieces?_plain {c : Char} (hq : c ≠ '"') (hb : c ≠ '\\') (hc : 0x20 ≤ c.toNat)
    (rest : List Char) :
    pieces? (c :: rest) = (pieces? rest).map fun q => (.char c :: q.1, q.2) := by
  rw [pieces?.eq_def]
  split
  · cases ‹_ = []›
  · cases ‹_›
    exact absurd rfl hq
  · cases ‹_›
    exact absurd rfl hb
  · cases ‹_›
    exact absurd rfl hb
  · cases ‹_›
    rw [if_neg (by omega)]
    cases pieces? rest <;> rfl

theorem pieces?_unit {n : Nat} (h : n < 32) (rest : List Char) :
    pieces? ('\\' :: 'u' :: '0' :: '0' :: hexDigit (n / 16) :: hexDigit (n % 16) :: rest) =
      (pieces? rest).map fun q => (.unit n :: q.1, q.2) := by
  have hunit : hexUnit? '0' '0' (hexDigit (n / 16)) (hexDigit (n % 16)) = some n := by
    have hzero : hexValue? '0' = some 0 := by decide
    rw [hexUnit?, hzero, hexValue?_hexDigit _ (by omega), hexValue?_hexDigit _ (by omega)]
    have : ((0 * 16 + 0) * 16 + n / 16) * 16 + n % 16 = n := by omega
    exact congrArg some this
  rw [pieces?, hunit]
  cases pieces? rest <;> rfl

/-- A character is read from its escape, as itself or as a unit. -/
theorem exists_piece_escape (c : Char) :
    ∃ p, (p = .char c ∨ p = .unit c.toNat ∧ c.toNat < 32) ∧
      ∀ rest, pieces? (escape c ++ rest) = (pieces? rest).map fun q => (p :: q.1, q.2) := by
  rw [escape]
  split_ifs with hq hb hc h₁ h₂ h₃ h₄ h₅
  · exact ⟨.char c, .inl rfl, pieces?_short (by rw [hq]; rfl)⟩
  · exact ⟨.char c, .inl rfl, pieces?_short (by rw [hb]; rfl)⟩
  · exact ⟨.char c, .inl rfl, pieces?_plain hq hb hc⟩
  · exact ⟨.char c, .inl rfl, pieces?_short (by rw [h₁]; rfl)⟩
  · exact ⟨.char c, .inl rfl, pieces?_short (by rw [h₂]; rfl)⟩
  · exact ⟨.char c, .inl rfl, pieces?_short (by rw [h₃]; rfl)⟩
  · exact ⟨.char c, .inl rfl, pieces?_short (by rw [h₄]; rfl)⟩
  · exact ⟨.char c, .inl rfl, pieces?_short (by rw [h₅]; rfl)⟩
  · exact ⟨.unit c.toNat, .inr ⟨rfl, by omega⟩, pieces?_unit (by omega)⟩

/-- A unit that is no surrogate stands for a character, whatever follows. -/
theorem join?_unit {n : Nat} (h : n < 0xd800) (ps : List Piece) :
    join? (.unit n :: ps) = (join? ps).map (Char.ofNat n :: ·) := by
  have hhigh : isHighSurrogate n = false := by
    simp only [isHighSurrogate, Bool.and_eq_false_iff, decide_eq_false_iff_not]
    omega
  have hlow : isLowSurrogate n = false := by
    simp only [isLowSurrogate, Bool.and_eq_false_iff, decide_eq_false_iff_not]
    omega
  cases ps with
  | nil => simp [join?, hhigh, hlow]
  | cons p ps => cases p <;> simp [join?, hhigh, hlow]

/-- A text between quotes is read up to the closing quote. -/
theorem exists_pieces_flatMap_escape (cs rest : List Char) :
    ∃ ps, pieces? (cs.flatMap escape ++ '"' :: rest) = some (ps, rest) ∧ join? ps = some cs := by
  induction cs with
  | nil => exact ⟨[], by rw [List.flatMap_nil, List.nil_append, pieces?], rfl⟩
  | cons c cs ih =>
    obtain ⟨ps, hps, hjoin⟩ := ih
    obtain ⟨p, hp, hescape⟩ := exists_piece_escape c
    refine ⟨p :: ps, ?_, ?_⟩
    · rw [List.flatMap_cons, List.append_assoc, hescape, hps]
      rfl
    · rcases hp with rfl | ⟨rfl, hlt⟩
      · rw [join?, hjoin]
        rfl
      · rw [join?_unit (by omega), hjoin, Option.map_some, Char.ofNat_toNat]

theorem read?_write (s : String) (rest : List Char) :
    read? (s.toList.flatMap escape ++ '"' :: rest) = some (some s, rest) := by
  obtain ⟨ps, hps, hjoin⟩ := exists_pieces_flatMap_escape s.toList rest
  rw [read?, hps, Option.map_some, hjoin, Option.map_some, String.ofList_toList]

end Quoted

/-! ## Numbers -/

/-- What follows a number that is read does not go on with it. -/
def EndsNumber (rest : List Char) : Prop :=
  ∀ c ∈ rest.head?, Digit.ofChar? c = none ∧ c ≠ '.' ∧ c ≠ 'e' ∧ c ≠ 'E'

namespace Number

/-- A number is written as the grammar demands: with digits before the point, a zero first only if
it is alone, and with digits in the exponent. -/
structure WellFormed (n : Number) : Prop where
  whole : n.whole ≠ []
  leading : n.whole.head? = some 0 → n.whole = [0]
  exponent : ∀ e ∈ n.exponent, e.digits ≠ []

/-- The text of the fraction, if there is one. -/
def fractionPart (ds : List Digit) : List Char :=
  if ds.isEmpty then [] else '.' :: Digits.chars ds

/-- The text of the exponent, if there is one. -/
def exponentPart : Option Exponent → List Char
  | none => []
  | some e => exponentChars e

theorem chars_eq (n : Number) :
    n.chars = (if n.negative then ['-'] else []) ++
      (Digits.chars n.whole ++ (fractionPart n.fraction ++ exponentPart n.exponent)) := by
  rw [chars, List.append_assoc, List.append_assoc]
  cases n.exponent <;> rfl

theorem readWhole?_chars {ds : List Digit} (hne : ds ≠ []) (hz : ds.head? = some 0 → ds = [0])
    {rest : List Char} (h : ∀ c ∈ rest.head?, Digit.ofChar? c = none) :
    readWhole? (Digits.chars ds ++ rest) = some (ds, rest) := by
  rw [readWhole?, Digits.span_chars_append ds h]
  split
  · rename_i heq
    exact absurd (Prod.mk.inj heq).1 hne
  · rename_i heq
    obtain ⟨rfl, -⟩ := Prod.mk.inj heq
    cases hz rfl
  · rename_i heq
    obtain ⟨rfl, rfl⟩ := Prod.mk.inj heq
    rfl

theorem readExponent?_chars {e : Option Exponent} (he : ∀ x ∈ e, x.digits ≠ [])
    {rest : List Char} (h : EndsNumber rest) :
    readExponent? (exponentPart e ++ rest) = some (e, rest) := by
  cases e with
  | none =>
    cases rest with
    | nil => rfl
    | cons c rest =>
      obtain ⟨-, -, hlower, hupper⟩ := h c rfl
      simp only [exponentPart, List.nil_append, readExponent?, hlower, hupper, or_self, if_false]
  | some x =>
    have hspan := Digits.span_chars_append x.digits fun c hc => (h c hc).1
    obtain ⟨negative, ds⟩ := x
    cases ds with
    | nil => exact absurd rfl (he _ rfl)
    | cons d ds =>
      cases negative <;>
        simp only [exponentPart, exponentChars, List.cons_append, readExponent?, true_or, if_true,
          if_false, Bool.false_eq_true, hspan]

theorem readFraction?_chars (ds : List Digit) {rest : List Char}
    (h : ∀ c ∈ rest.head?, Digit.ofChar? c = none ∧ c ≠ '.') :
    readFraction? (fractionPart ds ++ rest) = some (ds, rest) := by
  cases ds with
  | nil =>
    rw [fractionPart, List.isEmpty_nil, if_pos rfl, List.nil_append, readFraction?]
    rintro rest' rfl
    exact (h '.' rfl).2 rfl
  | cons d ds =>
    have hspan := Digits.span_chars_append (d :: ds) fun c hc => (h c hc).1
    rw [fractionPart, List.isEmpty_cons, if_neg Bool.false_ne_true, List.cons_append,
      readFraction?, hspan]

theorem read?_of_parts (negative : Bool) {cs cs₁ cs₂ rest : List Char} {whole fraction : List Digit}
    {exponent : Option Exponent} (hcs : cs.head? ≠ some '-')
    (hwhole : readWhole? cs = some (whole, cs₁))
    (hfraction : readFraction? cs₁ = some (fraction, cs₂))
    (hexponent : readExponent? cs₂ = some (exponent, rest)) :
    read? ((if negative then ['-'] else []) ++ cs) =
      some (⟨negative, whole, fraction, exponent⟩, rest) := by
  cases negative with
  | true => simp [read?, hwhole, hfraction, hexponent]
  | false =>
    simp only [Bool.false_eq_true, if_false, List.nil_append, read?]
    split
    · exact absurd rfl hcs
    · simp [hwhole, hfraction, hexponent]

theorem head?_exponentPart {e : Option Exponent} {rest : List Char} (h : EndsNumber rest) :
    ∀ c ∈ (exponentPart e ++ rest).head?, Digit.ofChar? c = none ∧ c ≠ '.' := by
  intro c hc
  cases e with
  | none => exact ⟨(h c hc).1, (h c hc).2.1⟩
  | some x =>
    obtain rfl : 'e' = c := Option.some.inj hc
    decide

theorem head?_fractionPart {ds : List Digit} {rest : List Char}
    (h : ∀ c ∈ rest.head?, Digit.ofChar? c = none) :
    ∀ c ∈ (fractionPart ds ++ rest).head?, Digit.ofChar? c = none := by
  intro c hc
  cases ds with
  | nil => exact h c hc
  | cons d ds =>
    obtain rfl : '.' = c := Option.some.inj hc
    decide

/-- A number is read up to what ends it. -/
theorem read?_chars {n : Number} (hn : n.WellFormed) {rest : List Char} (h : EndsNumber rest) :
    read? (n.chars ++ rest) = some (n, rest) := by
  have hexponent := head?_exponentPart (e := n.exponent) h
  have hfraction : ∀ c ∈ (fractionPart n.fraction ++ (exponentPart n.exponent ++ rest)).head?,
      Digit.ofChar? c = none := head?_fractionPart fun c hc => (hexponent c hc).1
  have hminus : (Digits.chars n.whole ++ (fractionPart n.fraction ++
      (exponentPart n.exponent ++ rest))).head? ≠ some '-' := by
    cases hw : n.whole with
    | nil => exact absurd hw hn.whole
    | cons d ds => exact fun heq => d.toChar_ne_minus (Option.some.inj heq)
  rw [chars_eq, List.append_assoc, List.append_assoc, List.append_assoc]
  exact read?_of_parts n.negative hminus (readWhole?_chars hn.whole hn.leading hfraction)
    (readFraction?_chars n.fraction hexponent) (readExponent?_chars hn.exponent h)

end Number

/-! ## Tokens -/

/-- Whether a token is a number. -/
def Token.isNumber : Token → Bool
  | .number _ => true
  | _ => false

/-- Tokens that can be told apart when they are written without blanks: numbers are written as the
grammar demands, and no number is followed by another. -/
def Readable : List Token → Prop
  | [] => True
  | t :: ts =>
    (∀ n, t = .number n → n.WellFormed ∧ ∀ u ∈ ts.head?, u.isNumber = false) ∧ Readable ts

theorem readable_cons {t : Token} {ts : List Token} (ht : t.isNumber = false) (h : Readable ts) :
    Readable (t :: ts) := by
  refine ⟨fun n hn => ?_, h⟩
  rw [hn] at ht
  cases ht

/-- The token of a number is read from the sign or the digit in front. -/
theorem Token.read?_of_number {cs : List Char} (h : cs.head? = some '-' ∨
    ∃ d : Digit, cs.head? = some d.toChar) :
    Token.read? cs = (Number.read? cs).map fun p => (.number p.1, p.2) := by
  cases cs with
  | nil => simp at h
  | cons c cs =>
    rcases h with h | ⟨d, h⟩
    · obtain rfl : c = '-' := Option.some.inj h
      rfl
    · obtain rfl : c = d.toChar := Option.some.inj h
      match d with
      | 0 => rfl
      | 1 => rfl
      | 2 => rfl
      | 3 => rfl
      | 4 => rfl
      | 5 => rfl
      | 6 => rfl
      | 7 => rfl
      | 8 => rfl
      | 9 => rfl

theorem Number.head?_chars {n : Number} (hn : n.WellFormed) (rest : List Char) :
    (n.chars ++ rest).head? = some '-' ∨
      ∃ d : Digit, (n.chars ++ rest).head? = some d.toChar := by
  rw [chars_eq]
  cases n.negative with
  | true => exact .inl rfl
  | false =>
    cases hw : n.whole with
    | nil => exact absurd hw hn.whole
    | cons d ds => exact .inr ⟨d, rfl⟩

theorem isBlank_toChar (d : Digit) : isBlank d.toChar = false := by
  revert d
  decide

/-- A token is written with at least one character, the first of which is no blank. -/
theorem Token.exists_chars_eq {t : Token} (h : ∀ n, t = .number n → n.WellFormed) :
    ∃ c cs, t.chars = c :: cs ∧ isBlank c = false := by
  cases t with
  | number n =>
    have hn := h n rfl
    have hhead := Number.head?_chars hn []
    rw [List.append_nil] at hhead
    cases hcs : n.chars with
    | nil =>
      rw [hcs] at hhead
      simp at hhead
    | cons c cs =>
      refine ⟨c, cs, hcs, ?_⟩
      rw [hcs] at hhead
      rcases hhead with hc | ⟨d, hc⟩
      · obtain rfl : c = '-' := Option.some.inj hc
        decide
      · obtain rfl : c = d.toChar := Option.some.inj hc
        exact isBlank_toChar d
  | string s => cases s <;> exact ⟨_, _, rfl, by decide⟩
  | bool b => cases b <;> exact ⟨_, _, rfl, by decide⟩
  | _ => exact ⟨_, _, rfl, by decide⟩

/-- What is written after a number ends it, unless it is a number. -/
theorem endsNumber_compactChars {ts : List Token} (h : ∀ u ∈ ts.head?, u.isNumber = false) :
    EndsNumber (compactChars ts) := by
  cases ts with
  | nil => exact fun c hc => by cases hc
  | cons t ts =>
    have ht := h t rfl
    intro c hc
    cases t with
    | number n => cases ht
    | string s =>
      cases s <;>
      · obtain rfl := Option.some.inj hc
        decide
    | bool b =>
      cases b <;>
      · obtain rfl := Option.some.inj hc
        decide
    | _ =>
      obtain rfl := Option.some.inj hc
      decide

/-- A token is read from the text of readable tokens. -/
theorem Token.read?_compactChars {t : Token} {ts : List Token} (h : Readable (t :: ts)) :
    Token.read? (compactChars (t :: ts)) = some (t, compactChars ts) := by
  have hcons : compactChars (t :: ts) = t.chars ++ compactChars ts := List.flatMap_cons
  rw [hcons]
  cases t with
  | number n =>
    obtain ⟨hn, hts⟩ := h.1 n rfl
    have hchars : (Token.number n).chars = n.chars := rfl
    rw [hchars, read?_of_number (Number.head?_chars hn _),
      Number.read?_chars hn (endsNumber_compactChars hts)]
    rfl
  | string s =>
    cases s with
    | none => rfl
    | some s =>
      have hwrite : (Token.string (some s)).chars ++ compactChars ts =
          '"' :: (s.toList.flatMap Quoted.escape ++ '"' :: compactChars ts) := by
        simp [Token.chars, Quoted.write]
      rw [hwrite, Token.read?, Quoted.read?_write]
      rfl
  | bool b => cases b <;> rfl
  | _ => rfl

theorem Token.readMany?_compactChars {ts : List Token} (h : Readable ts) {fuel : Nat}
    (hfuel : ts.length ≤ fuel) : readMany? fuel (compactChars ts) = some ts := by
  induction ts generalizing fuel with
  | nil => cases fuel <;> rfl
  | cons t ts ih =>
    cases fuel with
    | zero => cases hfuel
    | succ fuel =>
      obtain ⟨c, cs, hchars, hblank⟩ := exists_chars_eq fun n hn => (h.1 n hn).1
      have hcons : compactChars (t :: ts) = c :: (cs ++ compactChars ts) := by
        rw [compactChars, List.flatMap_cons, hchars]
        rfl
      have hread := read?_compactChars h
      rw [readMany?, hcons, List.dropWhile_cons_of_neg (by rw [hblank]; exact Bool.false_ne_true)]
      rw [hcons] at hread
      simp only [hread, ih h.2 (Nat.le_of_succ_le_succ hfuel), Option.bind_eq_bind,
        Option.bind_some]

theorem length_le_compactChars {ts : List Token} (h : Readable ts) :
    ts.length ≤ (compactChars ts).length := by
  induction ts with
  | nil => exact Nat.zero_le _
  | cons t ts ih =>
    obtain ⟨c, cs, hchars, -⟩ := Token.exists_chars_eq fun n hn => (h.1 n hn).1
    have := ih h.2
    rw [compactChars, List.flatMap_cons, hchars, List.length_append, List.length_cons,
      List.length_cons]
    rw [compactChars] at this
    omega

theorem Token.readAll?_compactChars {ts : List Token} (h : Readable ts) :
    readAll? (compactChars ts) = some ts :=
  readMany?_compactChars h (length_le_compactChars h)

/-! ## Values -/

theorem elementTokens_cons_cons (e f : Json) (es : List Json) :
    elementTokens (e :: f :: es) = e.tokens ++ .comma :: elementTokens (f :: es) := by
  rw [elementTokens]
  exact fun h => by cases h

/-- The tokens of elements are those of one of them, and the commas between them. -/
theorem mem_elementTokens {t : Token} {es : List Json} (h : t ∈ elementTokens es) :
    t = .comma ∨ ∃ e ∈ es, t ∈ e.tokens := by
  induction es with
  | nil => cases h
  | cons e es ih =>
    cases es with
    | nil => exact .inr ⟨e, List.mem_cons_self, h⟩
    | cons f es =>
      rw [elementTokens_cons_cons, List.mem_append, List.mem_cons] at h
      rcases h with h | h | h
      · exact .inr ⟨e, List.mem_cons_self, h⟩
      · exact .inl h
      · rcases ih h with h | ⟨g, hg, h⟩
        · exact .inl h
        · exact .inr ⟨g, List.mem_cons_of_mem e hg, h⟩

theorem memberTokens_cons_cons (m l : Option String × Json) (ms : List (Option String × Json)) :
    memberTokens (m :: l :: ms) =
      .string m.1 :: .colon :: m.2.tokens ++ .comma :: memberTokens (l :: ms) := by
  rw [memberTokens]
  exact fun h => by cases h

/-- A number among the tokens of members is one of a value. -/
theorem exists_of_number_mem_memberTokens {n : Number} {ms : List (Option String × Json)}
    (h : .number n ∈ memberTokens ms) : ∃ m ∈ ms, .number n ∈ m.2.tokens := by
  induction ms with
  | nil => cases h
  | cons m ms ih =>
    cases ms with
    | nil =>
      simp only [memberTokens, List.mem_cons, reduceCtorEq, false_or] at h
      exact ⟨m, List.mem_cons_self, h⟩
    | cons l ms =>
      simp only [memberTokens_cons_cons, List.cons_append, List.mem_cons, List.mem_append,
        reduceCtorEq, false_or] at h
      rcases h with h | h
      · exact ⟨m, List.mem_cons_self, h⟩
      · obtain ⟨k, hk, h⟩ := ih h
        exact ⟨k, List.mem_cons_of_mem m hk, h⟩

mutual

/-- The tokens of a value are readable in front of readable tokens that do not start with a
number. -/
theorem readable_tokens (j : Json) (hj : ∀ n, .number n ∈ j.tokens → n.WellFormed)
    {ts : List Token} (hts : Readable ts) (hhead : ∀ u ∈ ts.head?, u.isNumber = false) :
    Readable (j.tokens ++ ts) := by
  cases j with
  | null => exact readable_cons rfl hts
  | bool b => exact readable_cons rfl hts
  | string s => exact readable_cons rfl hts
  | number n =>
    refine ⟨fun m hm => ?_, hts⟩
    cases hm
    exact ⟨hj n (by simp [tokens]), hhead⟩
  | array es =>
    have hclose : Readable (.closeArray :: ts) := readable_cons rfl hts
    rw [tokens, List.cons_append, List.cons_append, List.append_assoc]
    refine readable_cons rfl (readable_elementTokens es ?_ hclose ?_)
    · exact fun n hn => hj n (by simp [tokens, hn])
    · rintro u ⟨⟩
      rfl
  | object ms =>
    have hclose : Readable (.closeObject :: ts) := readable_cons rfl hts
    rw [tokens, List.cons_append, List.cons_append, List.append_assoc]
    refine readable_cons rfl (readable_memberTokens ms ?_ hclose ?_)
    · exact fun n hn => hj n (by simp [tokens, hn])
    · rintro u ⟨⟩
      rfl

theorem readable_elementTokens (es : List Json)
    (hes : ∀ n, .number n ∈ elementTokens es → n.WellFormed) {ts : List Token}
    (hts : Readable ts) (hhead : ∀ u ∈ ts.head?, u.isNumber = false) :
    Readable (elementTokens es ++ ts) := by
  match es with
  | [] => exact hts
  | [e] => exact readable_tokens e (fun n hn => hes n (by simp [elementTokens, hn])) hts hhead
  | e :: f :: es =>
    rw [elementTokens_cons_cons] at hes ⊢
    rw [List.append_assoc]
    have hrest : Readable (.comma :: elementTokens (f :: es) ++ ts) :=
      readable_cons rfl
        (readable_elementTokens (f :: es) (fun n hn => hes n (by simp [hn])) hts hhead)
    refine readable_tokens e (fun n hn => hes n (by simp [hn])) hrest ?_
    rintro u ⟨⟩
    rfl

theorem readable_memberTokens (ms : List (Option String × Json))
    (hms : ∀ n, .number n ∈ memberTokens ms → n.WellFormed) {ts : List Token}
    (hts : Readable ts) (hhead : ∀ u ∈ ts.head?, u.isNumber = false) :
    Readable (memberTokens ms ++ ts) := by
  match ms with
  | [] => exact hts
  | [(k, v)] =>
    have hv := readable_tokens v (fun n hn => hms n (by simp [memberTokens, hn])) hts hhead
    exact readable_cons rfl (readable_cons rfl hv)
  | (k, v) :: l :: ms =>
    rw [memberTokens_cons_cons] at hms ⊢
    rw [List.append_assoc]
    have hrest : Readable (.comma :: memberTokens (l :: ms) ++ ts) :=
      readable_cons rfl
        (readable_memberTokens (l :: ms) (fun n hn => hms n (by simp [hn])) hts hhead)
    have hcomma : ∀ u ∈ (.comma :: memberTokens (l :: ms) ++ ts).head?, u.isNumber = false := by
      rintro u ⟨⟩
      rfl
    have hv := readable_tokens v (fun n hn => hms n (by simp [hn])) hrest hcomma
    exact readable_cons rfl (readable_cons rfl hv)

end

namespace Reading

/-- What an array starts with is read like any value, if it is not the end. -/
theorem run?_firstElement (stack : List Frame) (j : Json) (ts : List Token) :
    run? ⟨stack, .firstElement⟩ (j.tokens ++ ts) =
      run? ⟨.array [] :: stack, .value⟩ (j.tokens ++ ts) := by
  cases j <;> rfl

mutual

/-- The tokens of a value are put together to the value. -/
theorem run?_tokens (j : Json) (stack : List Frame) (ts : List Token) :
    run? ⟨stack, .value⟩ (j.tokens ++ ts) = run? ⟨stack, .after j⟩ ts := by
  cases j with
  | null => rfl
  | bool b => rfl
  | number n => rfl
  | string s => rfl
  | array es =>
    rw [tokens, List.cons_append, List.cons_append, List.append_assoc, List.singleton_append]
    cases es with
    | nil => rfl
    | cons e es =>
      have hopen :
          run? ⟨stack, .value⟩ (.openArray :: (elementTokens (e :: es) ++ .closeArray :: ts)) =
            run? ⟨stack, .firstElement⟩ (elementTokens (e :: es) ++ .closeArray :: ts) := rfl
      have hfirst : run? ⟨stack, .firstElement⟩ (elementTokens (e :: es) ++ .closeArray :: ts) =
          run? ⟨.array [] :: stack, .value⟩ (elementTokens (e :: es) ++ .closeArray :: ts) := by
        cases es with
        | nil => exact run?_firstElement stack e _
        | cons f es =>
          rw [elementTokens_cons_cons, List.append_assoc]
          exact run?_firstElement stack e _
      rw [hopen, hfirst, run?_elementTokens (e :: es) (List.cons_ne_nil e es) [] stack ts]
      rfl
  | object ms =>
    rw [tokens, List.cons_append, List.cons_append, List.append_assoc, List.singleton_append]
    cases ms with
    | nil => rfl
    | cons m ms =>
      have hopen :
          run? ⟨stack, .value⟩ (.openObject :: (memberTokens (m :: ms) ++ .closeObject :: ts)) =
            run? ⟨stack, .firstKey⟩ (memberTokens (m :: ms) ++ .closeObject :: ts) := rfl
      have hfirst : run? ⟨stack, .firstKey⟩ (memberTokens (m :: ms) ++ .closeObject :: ts) =
          run? ⟨stack, .key []⟩ (memberTokens (m :: ms) ++ .closeObject :: ts) := by
        cases ms <;> rfl
      rw [hopen, hfirst, run?_memberTokens (m :: ms) (List.cons_ne_nil m ms) [] stack ts]
      rfl

theorem run?_elementTokens (es : List Json) (hes : es ≠ []) (before : List Json)
    (stack : List Frame) (ts : List Token) :
    run? ⟨.array before :: stack, .value⟩ (elementTokens es ++ .closeArray :: ts) =
      run? ⟨stack, .after (.array (before.reverse ++ es))⟩ ts := by
  match es with
  | [] => exact absurd rfl hes
  | [e] =>
    have he := run?_tokens e (.array before :: stack) (.closeArray :: ts)
    have hclose : run? ⟨.array before :: stack, .after e⟩ (.closeArray :: ts) =
        run? ⟨stack, .after (.array (e :: before).reverse)⟩ ts := rfl
    rw [elementTokens, he, hclose, List.reverse_cons]
  | e :: f :: es =>
    have he := run?_tokens e (.array before :: stack)
      (.comma :: (elementTokens (f :: es) ++ .closeArray :: ts))
    have hcomma : run? ⟨.array before :: stack, .after e⟩
        (.comma :: (elementTokens (f :: es) ++ .closeArray :: ts)) =
        run? ⟨.array (e :: before) :: stack, .value⟩
          (elementTokens (f :: es) ++ .closeArray :: ts) := rfl
    rw [elementTokens_cons_cons, List.append_assoc, List.cons_append, he, hcomma,
      run?_elementTokens (f :: es) (List.cons_ne_nil f es) (e :: before) stack ts,
      List.reverse_cons, List.append_assoc, List.singleton_append]

theorem run?_memberTokens (ms : List (Option String × Json)) (hms : ms ≠ [])
    (before : List (Option String × Json)) (stack : List Frame) (ts : List Token) :
    run? ⟨stack, .key before⟩ (memberTokens ms ++ .closeObject :: ts) =
      run? ⟨stack, .after (.object (before.reverse ++ ms))⟩ ts := by
  match ms with
  | [] => exact absurd rfl hms
  | [(k, v)] =>
    have hv := run?_tokens v (.object before k :: stack) (.closeObject :: ts)
    have hkey :
        run? ⟨stack, .key before⟩ (.string k :: .colon :: (v.tokens ++ .closeObject :: ts)) =
          run? ⟨.object before k :: stack, .value⟩ (v.tokens ++ .closeObject :: ts) := rfl
    have hclose : run? ⟨.object before k :: stack, .after v⟩ (.closeObject :: ts) =
        run? ⟨stack, .after (.object ((k, v) :: before).reverse)⟩ ts := rfl
    rw [memberTokens, List.cons_append, List.cons_append, hkey, hv, hclose, List.reverse_cons]
  | (k, v) :: l :: ms =>
    have hv := run?_tokens v (.object before k :: stack)
      (.comma :: (memberTokens (l :: ms) ++ .closeObject :: ts))
    have hkey : run? ⟨stack, .key before⟩ (.string k :: .colon :: (v.tokens ++
        .comma :: (memberTokens (l :: ms) ++ .closeObject :: ts))) =
        run? ⟨.object before k :: stack, .value⟩ (v.tokens ++
          .comma :: (memberTokens (l :: ms) ++ .closeObject :: ts)) := rfl
    have hcomma : run? ⟨.object before k :: stack, .after v⟩
        (.comma :: (memberTokens (l :: ms) ++ .closeObject :: ts)) =
        run? ⟨stack, .key ((k, v) :: before)⟩
          (memberTokens (l :: ms) ++ .closeObject :: ts) := rfl
    rw [memberTokens_cons_cons, List.append_assoc, List.cons_append, List.cons_append,
      List.cons_append, hkey, hv, hcomma,
      run?_memberTokens (l :: ms) (List.cons_ne_nil l ms) ((k, v) :: before) stack ts,
      List.reverse_cons, List.append_assoc, List.singleton_append]

end

end Reading

theorem ofTokens?_tokens (j : Json) : ofTokens? j.tokens = some j := by
  have := Reading.run?_tokens j [] []
  rw [List.append_nil] at this
  rw [ofTokens?, Reading.start, this]
  rfl

/-- A value whose numbers are written as the grammar demands is read from its compact text. -/
theorem parse?_compact {j : Json} (hj : ∀ n, .number n ∈ j.tokens → n.WellFormed) :
    parse? j.compact = some j := by
  have hreadable : Readable j.tokens := by
    have hnil : Readable [] := trivial
    have := readable_tokens j hj hnil (fun u hu => by cases hu)
    rwa [List.append_nil] at this
  rw [parse?, compact, String.toList_ofList, Token.readAll?_compactChars hreadable,
    Option.bind_some, ofTokens?_tokens]

end SimilarItems.Json
