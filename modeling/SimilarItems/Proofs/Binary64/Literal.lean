import Mathlib.Data.Nat.Dist
import SimilarItems.Binary64.Literal
import SimilarItems.Proofs.Binary64.Nearest
import SimilarItems.Proofs.Decimal.Digits

/-!
# What literals stand for

The texts that are read as binary64 numbers are those of a grammar: an optional sign, and then a name
or a decimal number with an optional point and an optional exponent. What is read is the number that
is nearest to what is written, however many digits and whatever exponent it is written with.
-/

namespace SimilarItems.Binary64

/-! ## Nearest magnitudes -/

/-- No magnitude is nearer to `num / den` units than `m`, and `m` is even if another is as near. Here
the infinite magnitude counts as the power of two that follows the finite ones. -/
structure IsNearest (num den m : Nat) : Prop where
  le : m ≤ infiniteMagnitude
  nearer : ∀ k ≤ infiniteMagnitude,
    Nat.dist num (den * unitsOf m) ≤ Nat.dist num (den * unitsOf k)
  even_of_tie : ∀ k ≤ infiniteMagnitude, k ≠ m →
    Nat.dist num (den * unitsOf m) = Nat.dist num (den * unitsOf k) → m % 2 = 0

section IsNearest

variable {num den m k : Nat}

theorem mul_unitsOf_lt (hden : 0 < den) (h : m < k) : den * unitsOf m < den * unitsOf k :=
  Nat.mul_lt_mul_of_pos_left (unitsOf_lt_unitsOf.2 h) hden

/-- What is not rounded above a magnitude does not exceed the midpoint after it. -/
theorem le_midpoint_of_nearest (hden : 0 < den) (hm : nearest num den < infiniteMagnitude) :
    2 * num ≤ den * unitsOf (nearest num den) + den * unitsOf (nearest num den + 1) ∧
      (2 * num = den * unitsOf (nearest num den) + den * unitsOf (nearest num den + 1) →
        nearest num den % 2 = 0) := by
  by_contra h
  refine lt_irrefl _ (lt_nearest_of_midpoint hden hm ?_ ?_)
  · rw [Nat.mul_add]
    omega
  · rw [Nat.mul_add]
    omega

/-- What is rounded above a magnitude reaches the midpoint after it. -/
theorem midpoint_le_of_nearest (hden : 0 < den) (hm : nearest num den = m + 1) :
    den * unitsOf m + den * unitsOf (m + 1) ≤ 2 * num ∧
      (2 * num = den * unitsOf m + den * unitsOf (m + 1) → (m + 1) % 2 = 0) := by
  by_contra h
  have hle : nearest num den ≤ m := by
    refine nearest_le_of_midpoint hden ?_ ?_
    · rw [Nat.mul_add]
      omega
    · rw [Nat.mul_add]
      omega
  omega

/-- Rounding comes to the nearest magnitude. -/
theorem isNearest_nearest (hden : 0 < den) : IsNearest num den (nearest num den) := by
  have hle := nearest_le num den
  -- On either side the next magnitude is no nearer, and those behind it are farther away.
  have hfar : ∀ k ≤ infiniteMagnitude, k ≠ nearest num den →
      Nat.dist num (den * unitsOf (nearest num den)) < Nat.dist num (den * unitsOf k) ∨
        Nat.dist num (den * unitsOf (nearest num den)) = Nat.dist num (den * unitsOf k) ∧
          nearest num den % 2 = 0 := by
    intro k hk hne
    unfold Nat.dist
    rcases Nat.lt_or_gt_of_ne hne with hlt | hgt
    · obtain ⟨m, hm⟩ : ∃ m, nearest num den = m + 1 := Nat.exists_eq_succ_of_ne_zero (by omega)
      obtain ⟨hmid, htie⟩ := midpoint_le_of_nearest hden hm
      rw [hm] at hlt ⊢
      have hnext := mul_unitsOf_lt hden (Nat.lt_succ_self m)
      have hbelow := Nat.mul_le_mul_left den (unitsOf_mono (Nat.le_of_lt_succ hlt))
      rw [Nat.succ_eq_add_one] at hnext
      omega
    · obtain ⟨hmid, htie⟩ := le_midpoint_of_nearest hden (hgt.trans_le hk)
      have hnext := mul_unitsOf_lt hden (Nat.lt_succ_self (nearest num den))
      have habove := Nat.mul_le_mul_left den (unitsOf_mono (Nat.succ_le_of_lt hgt))
      rw [Nat.succ_eq_add_one] at hnext habove
      omega
  refine ⟨hle, fun k hk => ?_, fun k hk hne heq => ?_⟩
  · by_cases hne : k = nearest num den
    · rw [hne]
    · rcases hfar k hk hne with hlt | ⟨heq, -⟩
      · exact hlt.le
      · exact heq.le
  · rcases hfar k hk hne with hlt | ⟨-, heven⟩
    · omega
    · exact heven

/-- There is only one nearest magnitude. -/
theorem IsNearest.unique (hden : 0 < den) (hm : IsNearest num den m) (hk : IsNearest num den k) :
    m = k := by
  -- Two that are as near are even, so there is one between them, and that is nearer.
  have hlt : ∀ {m k : Nat}, IsNearest num den m → IsNearest num den k → ¬ m < k := by
    intro m k hm hk hlt
    have heq := (hm.nearer k hk.le).antisymm (hk.nearer m hm.le)
    have hmeven := hm.even_of_tie k hk.le hlt.ne' heq
    have hkeven := hk.even_of_tie m hm.le hlt.ne heq.symm
    have hnearer := hm.nearer (m + 1) (by have := hk.le; omega)
    have hnext := mul_unitsOf_lt hden (Nat.lt_succ_self m)
    have hlast := mul_unitsOf_lt hden (show m + 1 < k by omega)
    unfold Nat.dist at heq hnearer
    rw [Nat.succ_eq_add_one] at hnext
    omega
  exact (Nat.not_lt.1 (hlt hk hm)).antisymm (Nat.not_lt.1 (hlt hm hk))

end IsNearest

/-! ## Decimal numbers -/

/-- `x` has the given sign, and of all magnitudes its own is nearest to `n · 10 ^ exponent`. -/
structure Rounds (negative : Bool) (n : Nat) (exponent : Int) (x : Binary64) : Prop where
  sign : x.negative = negative
  nearest : IsNearest (n * 10 ^ exponent.toNat * unitsPerOne) (10 ^ (-exponent).toNat)
    x.magnitude.val

theorem round_zero (negative : Bool) {den : Nat} (hden : 0 < den) :
    round negative 0 den = zero negative := by
  have hle : Binary64.nearest 0 den ≤ 0 := nearest_le_of_le hden (Nat.zero_le _)
  rw [round, Nat.le_zero.1 hle]
  rfl

/-- A decimal number that has its first digit more than 400 places behind the point is rounded to
zero. -/
theorem nearest_of_small {n k e : Nat} (hn : n < 10 ^ k) (he : k + 400 ≤ e) :
    Binary64.nearest (n * unitsPerOne) (10 ^ e) = 0 := by
  refine Nat.le_zero.1 (nearest_le_of_midpoint (Nat.pow_pos (by decide)) ?_ fun _ => rfl)
  have hunits : 2 * unitsPerOne ≤ 10 ^ 400 := by decide +kernel
  calc 2 * (n * unitsPerOne) = n * (2 * unitsPerOne) := by ring
    _ ≤ 10 ^ k * 10 ^ 400 := Nat.mul_le_mul hn.le hunits
    _ = 10 ^ (k + 400) := (pow_add 10 k 400).symm
    _ ≤ 10 ^ e := Nat.pow_le_pow_right (by decide) he
    _ = 10 ^ e * (unitsOf 0 + unitsOf (0 + 1)) := (Nat.mul_one _).symm

/-- A decimal number of more than 400 places in front of the point is rounded to infinity. -/
theorem nearest_of_large {num e : Nat} (h : 10 ^ e * 10 ^ 400 ≤ num) :
    Binary64.nearest (num * unitsPerOne) (10 ^ e) = infiniteMagnitude := by
  have hden : 0 < 10 ^ e := Nat.pow_pos (by decide)
  have hunits : unitsOf infiniteMagnitude ≤ 10 ^ 400 * unitsPerOne := by
    rw [unitsOf_infiniteMagnitude]
    decide +kernel
  have hle : 10 ^ e * unitsOf infiniteMagnitude ≤ num * unitsPerOne := by
    calc 10 ^ e * unitsOf infiniteMagnitude ≤ 10 ^ e * (10 ^ 400 * unitsPerOne) :=
          Nat.mul_le_mul_left _ hunits
      _ = 10 ^ e * 10 ^ 400 * unitsPerOne := (Nat.mul_assoc _ _ _).symm
      _ ≤ num * unitsPerOne := Nat.mul_le_mul_right _ h
  have hreach := le_nearest_of_le hden hle
  rw [Nat.min_self] at hreach
  exact (nearest_le _ _).antisymm hreach

/-- Digits with an exponent are rounded as what they stand for, also where their size alone decides. -/
theorem ofDigits_eq_round (negative : Bool) (ds : List Digit) (exponent : Int) :
    ofDigits negative ds exponent =
      round negative (Digits.value ds * 10 ^ exponent.toNat * unitsPerOne)
        (10 ^ (-exponent).toNat) := by
  have hden : 0 < 10 ^ (-exponent).toNat := Nat.pow_pos (by decide)
  simp only [ofDigits]
  generalize Digits.value ds = n
  split_ifs with hsmall hlarge
  · rcases hsmall with rfl | hsmall
    · rw [Nat.zero_mul, Nat.zero_mul, round_zero negative hden]
    · have hn : n < 10 ^ (Digits.ofNat n).length := by
        have hvalue := Digits.value_lt_pow (Digits.ofNat n)
        rwa [Digits.value_ofNat] at hvalue
      have hexponent : exponent.toNat = 0 := by omega
      rw [hexponent, Nat.pow_zero, Nat.mul_one, round, nearest_of_small hn (by omega)]
      rfl
  · have hn : 10 ^ ((Digits.ofNat n).length - 1) ≤ n := Digits.pow_le_of_ofNat (by omega)
    have hle : 10 ^ (-exponent).toNat * 10 ^ 400 ≤ n * 10 ^ exponent.toNat := by
      calc 10 ^ (-exponent).toNat * 10 ^ 400 = 10 ^ ((-exponent).toNat + 400) := (pow_add _ _ _).symm
        _ ≤ 10 ^ ((Digits.ofNat n).length - 1 + exponent.toNat) :=
          Nat.pow_le_pow_right (by decide) (by omega)
        _ = 10 ^ ((Digits.ofNat n).length - 1) * 10 ^ exponent.toNat := pow_add _ _ _
        _ ≤ n * 10 ^ exponent.toNat := Nat.mul_le_mul_right _ hn
    rw [round, nearest_of_large hle]
    rfl
  · rfl

theorem rounds_iff {negative : Bool} {ds : List Digit} {exponent : Int} {x : Binary64} :
    Rounds negative (Digits.value ds) exponent x ↔ ofDigits negative ds exponent = x := by
  have hden : 0 < 10 ^ (-exponent).toNat := Nat.pow_pos (by decide)
  rw [ofDigits_eq_round]
  constructor
  · rintro ⟨rfl, hx⟩
    obtain ⟨negative, m⟩ := x
    have hm := hx.unique hden (isNearest_nearest hden)
    rw [← magnitude_round negative] at hm
    exact congrArg (Binary64.mk negative) (Fin.ext hm.symm)
  · rintro rfl
    refine ⟨rfl, ?_⟩
    rw [magnitude_round]
    exact isNearest_nearest hden

/-! ## The grammar -/

namespace Literal

/-- A sign or none, and whether it is a minus. -/
inductive Sign : List Char → Bool → Prop where
  | absent : Sign [] false
  | plus : Sign ['+'] false
  | minus : Sign ['-'] true

/-- Digits, or digits around a point, where one side may be without: those in front of the point and
those behind it. -/
inductive Mantissa : List Char → List Digit → List Digit → Prop where
  | whole {ds : List Digit} (h : ds ≠ []) : Mantissa (Digits.chars ds) ds []
  | pointed {ds fs : List Digit} (h : ds ≠ [] ∨ fs ≠ []) :
      Mantissa (Digits.chars ds ++ '.' :: Digits.chars fs) ds fs

/-- An exponent of at least one digit, with or without a sign; zero if there is none. -/
inductive Scale : List Char → Int → Prop where
  | absent : Scale [] 0
  | written {mark : Char} {sign : List Char} {negative : Bool} {ds : List Digit}
      (hmark : mark = 'e' ∨ mark = 'E') (hsign : Sign sign negative) (hds : ds ≠ []) :
      Scale (mark :: (sign ++ Digits.chars ds))
        (if negative then -(Digits.value ds : Int) else Digits.value ds)

end Literal

open Literal in
/-- A text stands for a binary64 number: behind an optional sign it is a name in any case, or a decimal
number that is rounded to `x`. -/
inductive Literal : List Char → Binary64 → Prop where
  | infinity {sign word : List Char} {negative : Bool} (hsign : Sign sign negative)
      (hword : word.map Char.toLower = "inf".toList ∨
        word.map Char.toLower = "infinity".toList) :
      Literal (sign ++ word) (infinity negative)
  | nan {sign word : List Char} {negative : Bool} (hsign : Sign sign negative)
      (hword : word.map Char.toLower = "nan".toList) : Literal (sign ++ word) (nan negative)
  | number {sign mantissa scale : List Char} {negative : Bool} {whole fraction : List Digit}
      {exponent : Int} {x : Binary64} (hsign : Sign sign negative)
      (hmantissa : Mantissa mantissa whole fraction) (hscale : Scale scale exponent)
      (hx : Rounds negative (Digits.value (whole ++ fraction)) (exponent - fraction.length) x) :
      Literal (sign ++ (mantissa ++ scale)) x

namespace Literal

variable {cs sign mantissa scale : List Char} {negative : Bool} {whole fraction : List Digit}
  {exponent : Int}

/-! ## Reading signs -/

theorem Sign.signed_append (h : Sign sign negative)
    (hcs : ∀ c ∈ cs.head?, c ≠ '-' ∧ c ≠ '+') : signed (sign ++ cs) = (negative, cs) := by
  cases h with
  | plus => rfl
  | minus => rfl
  | absent =>
    rw [List.nil_append, signed]
    · rintro rest rfl
      exact (hcs '-' rfl).1 rfl
    · rintro rest rfl
      exact (hcs '+' rfl).2 rfl

theorem exists_sign (cs : List Char) :
    ∃ sign, Sign sign (signed cs).1 ∧ sign ++ (signed cs).2 = cs := by
  fun_cases signed cs with
  | case1 rest => exact ⟨['-'], .minus, rfl⟩
  | case2 rest => exact ⟨['+'], .plus, rfl⟩
  | case3 => exact ⟨[], .absent, rfl⟩

/-! ## Reading exponents -/

theorem Scale.head (h : Scale scale exponent) :
    ∀ c ∈ scale.head?, Digit.ofChar? c = none ∧ c ≠ '.' := by
  cases h with
  | absent => simp
  | written hmark hsign hds =>
    rw [List.head?_cons]
    rintro c ⟨⟩
    rcases hmark with rfl | rfl
    · decide
    · decide

theorem literalExponent?_of_scale (h : Scale scale exponent) :
    literalExponent? scale = some exponent := by
  cases h with
  | absent => rfl
  | @written mark sign negative ds hmark hsign hds =>
    obtain ⟨d, ds, rfl⟩ := List.exists_cons_of_ne_nil hds
    have hsigned : signed (sign ++ Digits.chars (d :: ds)) = (negative, Digits.chars (d :: ds)) := by
      refine hsign.signed_append ?_
      rintro c ⟨⟩
      exact ⟨d.toChar_ne_minus, d.toChar_ne_plus⟩
    have hspan : Digits.span (Digits.chars (d :: ds)) = (d :: ds, []) := by
      have happend : Digits.span (Digits.chars (d :: ds) ++ []) = (d :: ds, []) :=
        Digits.span_chars_append (d :: ds) (by simp)
      rwa [List.append_nil] at happend
    simp only [literalExponent?, if_pos hmark, hsigned, hspan]

theorem scale_of_literalExponent? (h : literalExponent? cs = some exponent) : Scale cs exponent := by
  cases cs with
  | nil =>
    cases h
    exact .absent
  | cons mark rest =>
    obtain ⟨sign, hsign, hrest⟩ := exists_sign rest
    have hdigits := Digits.chars_span_append (signed rest).2
    rw [literalExponent?] at h
    split at h
    · next hmark =>
      dsimp only at h
      split at h
      · next d ds hspan =>
        cases h
        rw [hspan, List.append_nil] at hdigits
        have hwritten := Scale.written hmark hsign (List.cons_ne_nil d ds)
        rwa [hdigits, hrest] at hwritten
      · cases h
    · cases h

/-! ## Reading decimal numbers -/

theorem Mantissa.exists_cons (h : Mantissa mantissa whole fraction) :
    ∃ c rest, mantissa = c :: rest ∧ c ≠ '-' ∧ c ≠ '+' ∧ c.toLower ≠ 'i' ∧ c.toLower ≠ 'n' := by
  have hdigit : ∀ d : Digit, d.toChar ≠ '-' ∧ d.toChar ≠ '+' ∧ d.toChar.toLower ≠ 'i' ∧
      d.toChar.toLower ≠ 'n' := by decide
  cases h with
  | whole h =>
    obtain ⟨d, ds, rfl⟩ := List.exists_cons_of_ne_nil h
    exact ⟨d.toChar, Digits.chars ds, rfl, hdigit d⟩
  | pointed h =>
    cases whole with
    | nil => exact ⟨'.', Digits.chars fraction, rfl, by decide⟩
    | cons d ds => exact ⟨d.toChar, Digits.chars ds ++ '.' :: Digits.chars fraction, rfl, hdigit d⟩

theorem ofDecimalChars?_of_mantissa (hmantissa : Mantissa mantissa whole fraction)
    (hscale : Scale scale exponent) :
    ofDecimalChars? negative (mantissa ++ scale) =
      some (ofDigits negative (whole ++ fraction) (exponent - fraction.length)) := by
  have hend : ∀ c ∈ scale.head?, Digit.ofChar? c = none := fun c hc => (hscale.head c hc).1
  have hexponent := literalExponent?_of_scale hscale
  cases hmantissa with
  | whole h =>
    simp only [ofDecimalChars?, Digits.span_chars_append whole hend]
    split
    · next rest => exact absurd rfl (hscale.head '.' rfl).2
    · simp [h, hexponent]
  | pointed h =>
    have hspan : Digits.span (Digits.chars whole ++ '.' :: (Digits.chars fraction ++ scale)) =
        (whole, '.' :: (Digits.chars fraction ++ scale)) :=
      Digits.span_chars_append whole (by rintro c ⟨⟩; decide)
    rw [List.append_assoc, List.cons_append]
    simp only [ofDecimalChars?, hspan, Digits.span_chars_append fraction hend]
    rcases h with h | h <;> simp [h, hexponent]

theorem exists_of_ofDecimalChars? {x : Binary64} (h : ofDecimalChars? negative cs = some x) :
    ∃ mantissa scale whole fraction exponent, mantissa ++ scale = cs ∧
      Mantissa mantissa whole fraction ∧ Scale scale exponent ∧
      ofDigits negative (whole ++ fraction) (exponent - fraction.length) = x := by
  have hwhole := Digits.chars_span_append cs
  rw [ofDecimalChars?] at h
  generalize Digits.span cs = cut at h hwhole
  obtain ⟨whole, rest⟩ := cut
  dsimp only at h hwhole
  split at h
  · next rest =>
    have hfraction := Digits.chars_span_append rest
    obtain ⟨hdigits, hvalue⟩ := Option.ite_none_left_eq_some.1 h
    obtain ⟨exponent, hexponent, hx⟩ := Option.map_eq_some_iff.1 hvalue
    refine ⟨_, _, whole, (Digits.span rest).1, exponent, ?_, .pointed ?_,
      scale_of_literalExponent? hexponent, hx⟩
    · rw [List.append_assoc, List.cons_append, hfraction, hwhole]
    · simpa [Classical.or_iff_not_imp_left] using hdigits
  · obtain ⟨hdigits, hvalue⟩ := Option.ite_none_left_eq_some.1 h
    obtain ⟨exponent, hexponent, hx⟩ := Option.map_eq_some_iff.1 hvalue
    refine ⟨_, _, whole, [], exponent, hwhole, .whole ?_, scale_of_literalExponent? hexponent, hx⟩
    simpa using hdigits

/-! ## Reading literals -/

theorem signed_of_lower {word : List Char} {c : Char} {lower : List Char}
    (hsign : Sign sign negative) (hword : word.map Char.toLower = c :: lower)
    (hc : c = 'i' ∨ c = 'n') : signed (sign ++ word) = (negative, word) := by
  refine hsign.signed_append fun d hd => ?_
  obtain ⟨d', rest, rfl, rfl, -⟩ := List.map_eq_cons_iff.1 hword
  obtain rfl : d' = d := Option.some.inj hd
  constructor
  · rintro rfl
    revert hc
    decide
  · rintro rfl
    revert hc
    decide

end Literal

theorem ofLiteral?_of_literal {cs : List Char} {x : Binary64} (h : Literal cs x) :
    ofLiteral? cs = some x := by
  cases h with
  | @infinity sign word negative hsign hword =>
    have hsigned : signed (sign ++ word) = (negative, word) := by
      rcases hword with hword | hword
      · exact Literal.signed_of_lower hsign hword (Or.inl rfl)
      · exact Literal.signed_of_lower hsign hword (Or.inl rfl)
    rw [ofLiteral?, hsigned]
    exact if_pos hword
  | nan hsign hword =>
    rw [ofLiteral?, Literal.signed_of_lower hsign hword (Or.inr rfl)]
    dsimp only
    rw [hword]
    rfl
  | @number sign mantissa scale negative _ _ _ _ hsign hmantissa hscale hx =>
    -- The first character of a decimal number is no sign and begins no name.
    obtain ⟨c, rest, rfl, hminus, hplus, hi, hn⟩ := hmantissa.exists_cons
    have hsigned : signed (sign ++ (c :: rest ++ scale)) = (negative, c :: rest ++ scale) := by
      refine hsign.signed_append ?_
      rintro c ⟨⟩
      exact ⟨hminus, hplus⟩
    rw [ofLiteral?, hsigned]
    dsimp only
    rw [List.cons_append, List.map_cons, if_neg (by simp [hi]), if_neg (by simp [hn]),
      ← List.cons_append, Literal.ofDecimalChars?_of_mantissa hmantissa hscale, rounds_iff.1 hx]

theorem literal_of_ofLiteral? {cs : List Char} {x : Binary64} (h : ofLiteral? cs = some x) :
    Literal cs x := by
  obtain ⟨sign, hsign, hcs⟩ := Literal.exists_sign cs
  rw [ofLiteral?] at h
  dsimp only at h
  rw [← hcs]
  split_ifs at h with hinfinity hnan
  · cases h
    exact .infinity hsign hinfinity
  · cases h
    exact .nan hsign hnan
  · obtain ⟨mantissa, scale, whole, fraction, exponent, hbody, hmantissa, hscale, hx⟩ :=
      Literal.exists_of_ofDecimalChars? h
    rw [← hbody]
    exact .number hsign hmantissa hscale (rounds_iff.2 hx)

/-- A text is read as the number that it stands for. -/
theorem literal_iff {cs : List Char} {x : Binary64} : Literal cs x ↔ ofLiteral? cs = some x :=
  ⟨ofLiteral?_of_literal, literal_of_ofLiteral?⟩

end SimilarItems.Binary64
