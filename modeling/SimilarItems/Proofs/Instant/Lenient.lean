import SimilarItems.Instant.Lenient
import SimilarItems.Proofs.Instant.Rfc3339

/-!
# What is read back of an instant leniently

The lenient reader takes back what is written of every year, with or without a sign, whatever its
number of digits. So exactly the instants that a clock shows are read back as themselves.
-/

namespace SimilarItems.Instant

open Text (isBlank trimStart)

/-! ## Fields -/

theorem isBlank_toChar (d : Digit) : isBlank d.toChar = false := by
  revert d
  decide

theorem trimStart_cons {c : Char} (hc : isBlank c = false) (cs : List Char) :
    trimStart (c :: cs) = c :: cs := by
  rw [trimStart, List.dropWhile_cons_of_neg (Bool.eq_false_iff.1 hc)]

theorem exists_paddedChars_eq (width n : Nat) :
    ∃ d ds, paddedChars width n = Digit.toChar d :: Digits.chars ds := by
  have hne : Digits.padded width n ≠ [] := by
    intro hnil
    exact Digits.ofNat_ne_nil n (List.append_eq_nil_iff.1 hnil).2
  obtain ⟨d, ds, hds⟩ := List.exists_cons_of_ne_nil hne
  exact ⟨d, ds, by rw [paddedChars, hds]; rfl⟩

theorem trimStart_paddedChars (width n : Nat) (rest : List Char) :
    trimStart (paddedChars width n ++ rest) = paddedChars width n ++ rest := by
  obtain ⟨d, ds, hds⟩ := exists_paddedChars_eq width n
  rw [hds]
  exact trimStart_cons (isBlank_toChar d) _

theorem field?_padded {n : Nat} (hn : n < 100) {rest : List Char} (hrest : EndsDigits rest) :
    field? (paddedChars 2 n ++ rest) = some (n, rest) := by
  rw [field?, trimStart_paddedChars]
  exact number?_padded (by decide) hn (by decide) hrest

theorem mark?_self {c : Char} (hc : isBlank c = false) (cs : List Char) :
    mark? c (c :: cs) = some cs := by
  rw [mark?, trimStart_cons hc, literal?_self]

/-- A year without a sign has four digits at most. -/
theorem year?_paddedChars {n : Nat} (hn : n ≤ 9999) {rest : List Char} (hrest : EndsDigits rest) :
    year? (paddedChars 4 n ++ rest) = some ((n : Int), rest) := by
  have hnumber : number? 1 4 (paddedChars 4 n ++ rest) = some (n, rest) :=
    number?_padded (by decide) (by omega) (by decide) hrest
  rw [year?, trimStart_paddedChars]
  obtain ⟨d, ds, hds⟩ := exists_paddedChars_eq 4 n
  split
  · rename_i heq
    rw [hds] at heq
    exact absurd (List.head_eq_of_cons_eq heq) d.toChar_ne_minus
  · rename_i heq
    rw [hds] at heq
    exact absurd (List.head_eq_of_cons_eq heq) d.toChar_ne_plus
  · rw [hnumber]
    rfl

/-- Behind a sign, a year has as many digits as there are. -/
theorem number?_paddedChars (n : Nat) {rest : List Char} (hrest : EndsDigits rest) :
    number? 1 (paddedChars 4 n ++ rest).length (paddedChars 4 n ++ rest) = some (n, rest) := by
  obtain ⟨d, ds, hds⟩ := exists_paddedChars_eq 4 n
  have hlength : (Digits.padded 4 n).length = (paddedChars 4 n).length := (List.length_map _).symm
  have hpos : 1 ≤ (Digits.padded 4 n).length := by
    rw [hlength, hds]
    exact Nat.le_add_left 1 _
  have hle : (Digits.padded 4 n).length ≤ (paddedChars 4 n ++ rest).length := by
    rw [hlength, List.length_append]
    exact Nat.le_add_right _ _
  have hnumber := number?_chars hpos hle hrest
  rwa [Digits.value_padded] at hnumber

theorem year?_yearChars (year : Int) {rest : List Char} (hrest : EndsDigits rest) :
    year? (yearChars year ++ rest) = some (year, rest) := by
  rw [yearChars]
  split_ifs with hplain hneg
  · obtain ⟨n, rfl⟩ := Int.eq_ofNat_of_zero_le hplain.1
    exact year?_paddedChars (by omega) hrest
  · rw [List.cons_append, year?, trimStart_cons (by decide)]
    simp only [number?_paddedChars year.natAbs hrest, Option.map_some]
    rw [Int.ofNat_natAbs_of_nonpos hneg.le, Int.neg_neg]
  · rw [List.cons_append, year?, trimStart_cons (by decide)]
    simp only [number?_paddedChars year.natAbs hrest, Option.map_some]
    rw [Int.natAbs_of_nonneg (Int.not_lt.1 hneg)]

/-! ## Instants -/

/-- Every instant is read back as what the clock shows of it. -/
theorem ofLenient?_zulu {t : Instant} (h : t.inRange) (hnanos : t.nanos < 2 * nanosPerSecond) :
    ofLenient? t.zulu = t.wallClock.toInstant? 0 := by
  obtain ⟨hmonth, hday, hhour, hminute, hsecond⟩ := fields_wallClock_lt h
  have hwallNanos := nanos_wallClock_lt hnanos
  have hzone : EndsDigits ['Z'] := endsDigits_cons (by decide) _
  have htext : t.zuluChars = t.dateTimeChars ++ ['Z'] := rfl
  have hfield {n : Nat} (hn : n < 100) {c : Char} (hc : Digit.ofChar? c = none) (cs : List Char) :
      field? (paddedChars 2 n ++ c :: cs) = some (n, c :: cs) :=
    field?_padded hn (endsDigits_cons hc cs)
  rw [ofLenient?, zulu, String.toList_ofList, htext, dateTimeChars_append]
  refine bind_eq_of_eq_some (year?_yearChars _ (endsDigits_cons (by decide) _)) ?_
  refine bind_eq_of_eq_some (mark?_self (by decide) _) ?_
  refine bind_eq_of_eq_some (hfield hmonth (by decide) _) ?_
  refine bind_eq_of_eq_some (mark?_self (by decide) _) ?_
  refine bind_eq_of_eq_some (hfield hday (by decide) _) ?_
  refine bind_eq_of_eq_some rfl ?_
  refine bind_eq_of_eq_some (hfield hhour (by decide) _) ?_
  refine bind_eq_of_eq_some (mark?_self (by decide) _) ?_
  refine bind_eq_of_eq_some (hfield hminute (by decide) _) ?_
  refine bind_eq_of_eq_some (mark?_self (by decide) _) ?_
  refine bind_eq_of_eq_some (field?_padded hsecond (endsDigits_fractionChars _ hzone)) ?_
  refine bind_eq_of_eq_some (fraction?_chars hwallNanos hzone (by decide)) ?_
  exact bind_eq_of_eq_some (a := (0, [])) (by decide) rfl

/-- Whatever the lenient reader reads, a clock shows. -/
theorem onClock_of_ofLenient? {s : String} {t : Instant} (h : ofLenient? s = some t) :
    t.OnClock := by
  rw [ofLenient?, ofLenientChars?] at h
  obtain ⟨⟨year, _⟩, -, h⟩ := Option.bind_eq_some_iff.1 h
  obtain ⟨_, -, h⟩ := Option.bind_eq_some_iff.1 h
  obtain ⟨⟨month, _⟩, -, h⟩ := Option.bind_eq_some_iff.1 h
  obtain ⟨_, -, h⟩ := Option.bind_eq_some_iff.1 h
  obtain ⟨⟨day, _⟩, -, h⟩ := Option.bind_eq_some_iff.1 h
  obtain ⟨_, -, h⟩ := Option.bind_eq_some_iff.1 h
  obtain ⟨⟨hour, _⟩, -, h⟩ := Option.bind_eq_some_iff.1 h
  obtain ⟨_, -, h⟩ := Option.bind_eq_some_iff.1 h
  obtain ⟨⟨minute, _⟩, -, h⟩ := Option.bind_eq_some_iff.1 h
  obtain ⟨_, -, h⟩ := Option.bind_eq_some_iff.1 h
  obtain ⟨⟨second, _⟩, -, h⟩ := Option.bind_eq_some_iff.1 h
  obtain ⟨⟨nanos, _⟩, hfraction, h⟩ := Option.bind_eq_some_iff.1 h
  obtain ⟨⟨offset, _⟩, -, h⟩ := Option.bind_eq_some_iff.1 h
  dsimp only at h
  split at h
  · exact onClock_iff.2 ⟨_, offset, fraction?_lt hfraction, h⟩
  · cases h

/-- Exactly the instants that a clock shows are read back as themselves. -/
theorem ofLenient?_zulu_iff {t : Instant} : ofLenient? t.zulu = some t ↔ t.OnClock := by
  constructor
  · exact onClock_of_ofLenient?
  · intro h
    rw [ofLenient?_zulu h.1 h.nanos_lt, h.toInstant?_wallClock]

end SimilarItems.Instant
