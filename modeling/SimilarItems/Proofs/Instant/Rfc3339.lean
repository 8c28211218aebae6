import SimilarItems.Instant.Rfc3339
import SimilarItems.Proofs.Decimal.Digits
import SimilarItems.Proofs.Instant.Calendar

/-!
# What is read back of an instant as text

The strict reader takes back what is written of the years 0 to 9999, and rejects all other years. It
changes exactly those instants of these years that lie in a leap second before the end of a minute.
-/

namespace SimilarItems.Instant

/-! ## Fields -/

/-- Text that does not begin with a digit. -/
def EndsDigits (rest : List Char) : Prop := ∀ c ∈ rest.head?, Digit.ofChar? c = none

/-- As many digits as wanted are read, if no more follow. -/
theorem number?_chars {least most : Nat} {ds : List Digit} (hleast : least ≤ ds.length)
    (hmost : ds.length ≤ most) {rest : List Char} (hrest : EndsDigits rest) :
    number? least most (Digits.chars ds ++ rest) = some (Digits.value ds, rest) := by
  have hspan := Digits.span_chars_append ds hrest
  have htake : ds.take most = ds := List.take_of_length_le hmost
  have hdrop : (Digits.chars ds ++ rest).drop ds.length = rest :=
    List.drop_left' (List.length_map _)
  simp only [number?]
  rw [hspan, htake, if_neg (Nat.not_lt.2 hleast), hdrop]

theorem number?_padded {least width n : Nat} (hwidth : width ≠ 0) (hn : n < 10 ^ width)
    (hleast : least ≤ width) {rest : List Char} (hrest : EndsDigits rest) :
    number? least width (paddedChars width n ++ rest) = some (n, rest) := by
  have hlength := Digits.length_padded hwidth hn
  rw [paddedChars, number?_chars (hleast.trans_eq hlength.symm) hlength.le hrest,
    Digits.value_padded]

theorem literal?_self (c : Char) (cs : List Char) : literal? c (c :: cs) = some cs := by
  rw [literal?, if_pos rfl]

theorem fraction?_chars {n : Nat} (hn : n < nanosPerSecond) {rest : List Char}
    (hrest : EndsDigits rest) (hpoint : rest.head? ≠ some '.') :
    fraction? (fractionChars n ++ rest) = some (n, rest) := by
  -- Of `width` digits that count `scale` nanoseconds each, all are kept.
  have hpadded (width scale : Nat) (hwidth : width ≠ 0) (hlt : n / scale < 10 ^ width)
      (hscale : scale = 10 ^ (9 - width)) (hnine : width ≤ 9) (hexact : n / scale * scale = n) :
      fraction? ('.' :: paddedChars width (n / scale) ++ rest) = some (n, rest) := by
    have hlength := Digits.length_padded hwidth hlt
    have hspan := Digits.span_chars_append (Digits.padded width (n / scale)) hrest
    have hne : (Digits.padded width (n / scale)).isEmpty = false := by
      rw [List.isEmpty_eq_false_iff]
      exact List.ne_nil_of_length_pos (by omega)
    have htake : (Digits.padded width (n / scale)).take 9 = Digits.padded width (n / scale) :=
      List.take_of_length_le (by omega)
    rw [List.cons_append, paddedChars]
    simp only [fraction?, hspan, hne, htake, Digits.value_padded, hlength]
    rw [← hscale, hexact]
    rfl
  rw [nanosPerSecond] at hn
  rw [fractionChars]
  split_ifs with hzero hmillis hmicros
  · rw [hzero, List.nil_append]
    unfold fraction?
    split
    · exact absurd rfl hpoint
    · rfl
  · exact hpadded 3 1000000 (by decide) (by omega) rfl (by decide) (by omega)
  · exact hpadded 6 1000 (by decide) (by omega) rfl (by decide) (by omega)
  · have := hpadded 9 1 (by decide) (by omega) rfl (by decide) (by omega)
    rwa [Nat.div_one] at this

theorem fraction?_lt {cs rest : List Char} {nanos : Nat} (h : fraction? cs = some (nanos, rest)) :
    nanos < nanosPerSecond := by
  unfold fraction? at h
  split at h
  · rename_i cs
    generalize Digits.span cs = cut at h
    obtain ⟨ds, after⟩ := cut
    dsimp only at h
    split at h
    · cases h
    · cases h
      have hlength : (ds.take 9).length ≤ 9 := List.length_take_le 9 ds
      calc Digits.value (ds.take 9) * 10 ^ (9 - (ds.take 9).length)
          < 10 ^ (ds.take 9).length * 10 ^ (9 - (ds.take 9).length) :=
            Nat.mul_lt_mul_of_pos_right (Digits.value_lt_pow _) (Nat.pow_pos (by decide))
        _ = nanosPerSecond := by rw [← pow_add, Nat.add_sub_cancel' hlength]; rfl
  · cases h
    decide

/-! ## Instants -/

/-- The zone that every instant is written with. -/
def zoneChars : List Char := ['+', '0', '0', ':', '0', '0']

theorem offset?_zoneChars : offset? (literal? ':') zoneChars = some (0, []) := by decide

theorem endsDigits_cons {c : Char} (hc : Digit.ofChar? c = none) (cs : List Char) :
    EndsDigits (c :: cs) := by
  intro x hx
  cases hx
  exact hc

theorem endsDigits_zoneChars : EndsDigits zoneChars := endsDigits_cons (by decide) _

/-- The fields of an instant, one after the other, in front of its zone. -/
theorem dateTimeChars_append (t : Instant) (zone : List Char) :
    t.dateTimeChars ++ zone = yearChars t.wallClock.date.year ++ '-' ::
      (paddedChars 2 t.wallClock.date.month ++ '-' ::
        (paddedChars 2 t.wallClock.date.day ++ 'T' ::
          (paddedChars 2 t.wallClock.hour ++ ':' ::
            (paddedChars 2 t.wallClock.minute ++ ':' ::
              (paddedChars 2 t.wallClock.second ++
                (fractionChars t.wallClock.nanos ++ zone)))))) := by
  simp only [dateTimeChars, dateChars, timeChars, hourMinuteChars, List.append_assoc,
    List.cons_append]

theorem endsDigits_fractionChars (n : Nat) {zone : List Char} (hzone : EndsDigits zone) :
    EndsDigits (fractionChars n ++ zone) := by
  rw [fractionChars]
  split_ifs
  · exact hzone
  all_goals exact endsDigits_cons (by decide) _

theorem bind_eq_of_eq_some {α β : Type} {x : Option α} {f : α → Option β} {a : α} {r : Option β}
    (hx : x = some a) (hf : f a = r) : (x >>= f) = r := by
  rw [hx]
  exact hf

/-- Two digits are enough for month, day, hour, minute and second. -/
theorem fields_wallClock_lt {t : Instant} (h : t.inRange) :
    t.wallClock.date.month < 100 ∧ t.wallClock.date.day < 100 ∧ t.wallClock.hour < 100 ∧
      t.wallClock.minute < 100 ∧ t.wallClock.second < 100 := by
  have hvalid := isValid_wallClock h
  simp only [WallClock.isValid, Date.isValid, Bool.and_eq_true, decide_eq_true_iff] at hvalid
  obtain ⟨⟨⟨⟨⟨⟨⟨⟨-, hmonth⟩, -⟩, hday⟩, -⟩, -⟩, hhour⟩, hminute⟩, hsecond⟩ := hvalid
  have hday31 := hday.trans (Date.daysInMonth_le _ _)
  omega

/-- Instants of the years 0 to 9999 are read back as what the clock shows of them. -/
theorem ofRfc3339?_rfc3339 {t : Instant} (h : t.inRange) (hnanos : t.nanos < 2 * nanosPerSecond)
    (hyear : 0 ≤ t.wallClock.date.year ∧ t.wallClock.date.year ≤ 9999) :
    ofRfc3339? t.rfc3339 = t.wallClock.toInstant? 0 := by
  obtain ⟨hmonth, hday, hhour, hminute, hsecond⟩ := fields_wallClock_lt h
  have hwallNanos := nanos_wallClock_lt hnanos
  have htext : t.rfc3339Chars = t.dateTimeChars ++ zoneChars := rfl
  rw [ofRfc3339?, rfc3339, String.toList_ofList, htext, dateTimeChars_append, yearChars,
    if_pos hyear]
  have hfield {n : Nat} (hn : n < 100) {c : Char} (hc : Digit.ofChar? c = none) (cs : List Char) :
      number? 2 2 (paddedChars 2 n ++ c :: cs) = some (n, c :: cs) :=
    number?_padded (by decide) hn le_rfl (endsDigits_cons hc cs)
  refine bind_eq_of_eq_some
    (number?_padded (by decide) (by omega) le_rfl (endsDigits_cons (by decide) _)) ?_
  refine bind_eq_of_eq_some (literal?_self _ _) ?_
  refine bind_eq_of_eq_some (hfield hmonth (by decide) _) ?_
  refine bind_eq_of_eq_some (literal?_self _ _) ?_
  refine bind_eq_of_eq_some (hfield hday (by decide) _) ?_
  refine bind_eq_of_eq_some rfl ?_
  refine bind_eq_of_eq_some (hfield hhour (by decide) _) ?_
  refine bind_eq_of_eq_some (literal?_self _ _) ?_
  refine bind_eq_of_eq_some (hfield hminute (by decide) _) ?_
  refine bind_eq_of_eq_some (literal?_self _ _) ?_
  refine bind_eq_of_eq_some
    (number?_padded (by decide) hsecond le_rfl
      (endsDigits_fractionChars _ endsDigits_zoneChars)) ?_
  refine bind_eq_of_eq_some (fraction?_chars hwallNanos endsDigits_zoneChars (by decide)) ?_
  refine bind_eq_of_eq_some offset?_zoneChars ?_
  rw [Int.toNat_of_nonneg hyear.1]
  rfl

/-- A year with a sign is not read. -/
theorem ofRfc3339?_rfc3339_of_signed {t : Instant}
    (hyear : ¬(0 ≤ t.wallClock.date.year ∧ t.wallClock.date.year ≤ 9999)) :
    ofRfc3339? t.rfc3339 = none := by
  have hsign {c : Char} (hc : Digit.ofChar? c = none) (cs : List Char) :
      number? 4 4 (c :: cs) = none := by
    simp only [number?, Digits.span, hc]
    rfl
  have htext : t.rfc3339Chars = t.dateTimeChars ++ zoneChars := rfl
  rw [ofRfc3339?, rfc3339, String.toList_ofList, htext, dateTimeChars_append, yearChars,
    if_neg hyear, ofRfc3339Chars?, List.cons_append, hsign]
  · rfl
  · split <;> decide

/-- An instant that can be told, in a second that is at most two seconds long. -/
def Possible (t : Instant) : Prop := t.inRange ∧ t.nanos < 2 * nanosPerSecond

instance (t : Instant) : Decidable t.Possible :=
  inferInstanceAs (Decidable (t.inRange = true ∧ t.nanos < 2 * nanosPerSecond))

/-- A year from 0 to 9999, and a leap second only at the end of a minute. -/
def Restorable (t : Instant) : Prop :=
  (0 ≤ t.wallClock.date.year ∧ t.wallClock.date.year ≤ 9999) ∧
    (t.nanos < nanosPerSecond ∨ t.seconds % 60 = 59)

instance (t : Instant) : Decidable t.Restorable :=
  inferInstanceAs (Decidable ((0 ≤ t.wallClock.date.year ∧ t.wallClock.date.year ≤ 9999) ∧
    (t.nanos < nanosPerSecond ∨ t.seconds % 60 = 59)))

/-- Exactly the restorable instants are read back as themselves. -/
theorem ofRfc3339?_rfc3339_iff {t : Instant} (h : t.Possible) :
    ofRfc3339? t.rfc3339 = some t ↔ t.Restorable := by
  by_cases hyear : 0 ≤ t.wallClock.date.year ∧ t.wallClock.date.year ≤ 9999
  · rw [ofRfc3339?_rfc3339 h.1 h.2 hyear, toInstant?_wallClock_iff h.1]
    exact (and_iff_right hyear).symm
  · rw [ofRfc3339?_rfc3339_of_signed hyear]
    exact iff_of_false (fun heq => by cases heq) fun hboth => hyear hboth.1

end SimilarItems.Instant
