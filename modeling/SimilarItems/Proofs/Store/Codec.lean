import SimilarItems.Proofs.Store.Row

/-!
# The texts of a row

What a row keeps of a vector is a list of shortest decimals, and what it keeps of an instant is the
date and the time of day. Reading takes back the instant of every year from 0 to 9999, and of a
vector each component as far as scaled digits restore it.
-/

namespace SimilarItems

namespace Embedding

theorem compactChars_elementTokens (es : List Json) :
    Json.compactChars (Json.elementTokens es) =
      List.intercalate [','] (es.map fun e => Json.compactChars e.tokens) := by
  induction es with
  | nil => rfl
  | cons e es ih =>
    cases es with
    | nil => simp [Json.elementTokens, List.intercalate]
    | cons e' es =>
      have hcomma : Json.compactChars (Json.elementTokens (e :: e' :: es)) =
          Json.compactChars e.tokens ++ ',' :: Json.compactChars (Json.elementTokens (e' :: es)) := by
        simp [Json.elementTokens, Json.compactChars, Json.Token.chars]
      rw [hcomma, ih]
      simp [List.intercalate]

/-- The components of a finite vector, with commas between them, in brackets. -/
theorem toList_vectorJson {vector : List Binary64} (hfinite : ∀ x ∈ vector, x.isFinite) :
    (vectorJson vector).compact.toList = '[' ::
      (List.intercalate [','] (vector.map fun x => (Json.Number.ofBinary64 x).chars) ++ [']']) := by
  have helements : (vector.map Json.ofReal).map (fun e => Json.compactChars e.tokens) =
      vector.map fun x => (Json.Number.ofBinary64 x).chars := by
    rw [List.map_map]
    refine List.map_congr_left fun x hx => ?_
    rw [Function.comp_apply, ofReal_of_isFinite (hfinite x hx)]
    simp [Json.compactChars, Json.tokens, Json.Token.chars]
  rw [← helements, ← compactChars_elementTokens, Json.compact, String.toList_ofList, vectorJson]
  simp [Json.compactChars, Json.tokens, Json.Token.chars]

end Embedding

namespace Row

/-- A vector, cut at its first component that is not finite. -/
theorem findIdx?_eq_some {vector : List Binary64} {position : Nat} :
    (vector.findIdx? fun x => !x.isFinite) = some position ↔
      ∃ before x after, vector = before ++ x :: after ∧ (∀ y ∈ before, y.isFinite) ∧
        x.isFinite = false ∧ before.length = position := by
  constructor
  · intro h
    induction vector generalizing position with
    | nil => cases h
    | cons x vector ih =>
      rw [List.findIdx?_cons] at h
      cases hx : x.isFinite with
      | false =>
        rw [hx] at h
        cases h
        exact ⟨[], x, vector, rfl, fun y hy => (List.not_mem_nil hy).elim, hx, rfl⟩
      | true =>
        rw [hx] at h
        obtain ⟨rest, hrest, rfl⟩ := Option.map_eq_some_iff.1 h
        obtain ⟨before, y, after, rfl, hbefore, hy, rfl⟩ := ih hrest
        exact ⟨x :: before, y, after, rfl, List.forall_mem_cons.2 ⟨hx, hbefore⟩, hy, rfl⟩
  · rintro ⟨before, x, after, rfl, hbefore, hx, rfl⟩
    have hnone : (before.findIdx? fun x => !x.isFinite) = none := by
      rw [List.findIdx?_eq_none_iff]
      intro y hy
      rw [hbefore y hy]
      rfl
    rw [List.findIdx?_append, hnone, List.findIdx?_cons, hx]
    simp

theorem encodeVector_eq_error {item : String} {vector : List Binary64} {fault : EncodingFault} :
    encodeVector item vector = .error fault ↔ ∃ before x after, vector = before ++ x :: after ∧
      (∀ y ∈ before, y.isFinite) ∧ x.isFinite = false ∧ fault = .notFinite item before.length := by
  have hposition : encodeVector item vector = .error fault ↔ ∃ position,
      (vector.findIdx? fun x => !x.isFinite) = some position ∧ fault = .notFinite item position := by
    rw [encodeVector]
    cases vector.findIdx? fun x => !x.isFinite <;> simp [eq_comm]
  rw [hposition]
  constructor
  · rintro ⟨position, h, rfl⟩
    obtain ⟨before, x, after, rfl, hbefore, hx, rfl⟩ := findIdx?_eq_some.1 h
    exact ⟨before, x, after, rfl, hbefore, hx, rfl⟩
  · rintro ⟨before, x, after, rfl, hbefore, hx, rfl⟩
    exact ⟨before.length, findIdx?_eq_some.2 ⟨before, x, after, rfl, hbefore, hx, rfl⟩, rfl⟩

/-- A vector is written exactly if it is finite, and else its first component that is not finite is
named. What is written are the shortest decimals of the components, and each of them is restored:
finite, with its sign, zero only as zero, and exactly if digits and power of ten are exact. -/
theorem decodeVector_encodeVector (item : String) (vector : List Binary64) :
    ((∃ text, encodeVector item vector = .ok text) ↔ ∀ x ∈ vector, x.isFinite) ∧
    (∀ fault, encodeVector item vector = .error fault ↔
      ∃ before x after, vector = before ++ x :: after ∧ (∀ y ∈ before, y.isFinite) ∧
        x.isFinite = false ∧ fault = .notFinite item before.length) ∧
    ∀ text, encodeVector item vector = .ok text →
      text.toList = '[' ::
        (List.intercalate [','] (vector.map fun x => (Json.Number.ofBinary64 x).chars) ++ [']']) ∧
      ∃ w, decodeVector item text = .ok w ∧ List.Forall₂ Json.Number.Restores vector w := by
  refine ⟨?_, fun fault => encodeVector_eq_error, fun text h => ?_⟩
  · constructor
    · rintro ⟨text, h⟩
      exact (encodeVector_eq_ok.1 h).1
    · intro hfinite
      exact ⟨_, encodeVector_eq_ok.2 ⟨hfinite, rfl⟩⟩
  · obtain ⟨hfinite, htext⟩ := encodeVector_eq_ok.1 h
    refine ⟨?_, exists_decodeVector h⟩
    rw [htext]
    exact Embedding.toList_vectorJson hfinite

/-- Minus zero, a tenth, the smallest and the largest magnitude, and a number whose digits are not
exact. -/
def mixedVector : List Binary64 :=
  [.zero true, .ofBits 0x3fb999999999999a, .ofBits 1, .ofBits 0xffefffffffffffff,
    .ofBits 0x3ff0000000000027]

/-- What is read of these: the last is missed by one. -/
def mixedVectorRead : List Binary64 :=
  [.zero true, .ofBits 0x3fb999999999999a, .ofBits 1, .ofBits 0xffefffffffffffff,
    .ofBits 0x3ff0000000000028]

theorem decodeVector_encodeVector_mixed :
    encodeVector "a" mixedVector =
      .ok "[-0.0,0.1,5e-324,-1.7976931348623157e+308,1.0000000000000087]" ∧
    decodeVector "a" "[-0.0,0.1,5e-324,-1.7976931348623157e+308,1.0000000000000087]" =
      .ok mixedVectorRead ∧
    List.Forall₂ Json.Number.Restores mixedVector mixedVectorRead := by
  have hencode : encodeVector "a" mixedVector =
      .ok "[-0.0,0.1,5e-324,-1.7976931348623157e+308,1.0000000000000087]" := by decide +kernel
  have hdecode : decodeVector "a"
      "[-0.0,0.1,5e-324,-1.7976931348623157e+308,1.0000000000000087]" = .ok mixedVectorRead := by
    decide +kernel
  obtain ⟨-, w, hw, hrestores⟩ := (decodeVector_encodeVector "a" mixedVector).2.2 _ hencode
  rw [hdecode] at hw
  cases hw
  exact ⟨hencode, hdecode, hrestores⟩

/-- An instant that a clock shows, as is each that was read from a text, is read back as itself if its
year is one from 0 to 9999, and else it cannot be read. -/
theorem decodeInstant_encodeInstant {t : Instant} (h : t.OnClock) (item : String) :
    decodeInstant item (encodeInstant t) =
      if 0 ≤ t.wallClock.date.year ∧ t.wallClock.date.year ≤ 9999 then .ok t
      else .error (.invalidInstant item) := by
  rw [decodeInstant, encodeInstant]
  split_ifs with hyear
  · rw [Instant.ofRfc3339?_rfc3339 h.1 h.nanos_lt hyear, h.toInstant?_wallClock]
  · rw [Instant.ofRfc3339?_rfc3339_of_signed hyear]

/-- The last nanosecond of a leap second before 1970, and the first instant that is not read. -/
theorem decodeInstant_encodeInstant_leapSecond :
    encodeInstant ⟨-1, 1999999999⟩ = "1969-12-31T23:59:60.999999999+00:00" ∧
      decodeInstant "a" "1969-12-31T23:59:60.999999999+00:00" = .ok ⟨-1, 1999999999⟩ ∧
      decodeInstant "a" (encodeInstant ⟨253402300800, 0⟩) = .error (.invalidInstant "a") := by
  have htext : encodeInstant ⟨-1, 1999999999⟩ = "1969-12-31T23:59:60.999999999+00:00" := by
    decide +kernel
  refine ⟨htext, ?_, ?_⟩
  · rw [← htext, decodeInstant_encodeInstant (by decide +kernel) "a", if_pos (by decide +kernel)]
  · rw [decodeInstant_encodeInstant (by decide +kernel) "a", if_neg (by decide +kernel)]

/-- A leap second may follow any second, but only one at the end of a minute is written as second 60.
Any other is written, and so read, as part of the second after it. -/
theorem not_forall_decodeInstant_encodeInstant :
    Instant.Possible ⟨0, 1500000000⟩ ∧
      encodeInstant ⟨0, 1500000000⟩ = "1970-01-01T00:00:01.500+00:00" ∧
      decodeInstant "a" "1970-01-01T00:00:01.500+00:00" = .ok ⟨1, 500000000⟩ ∧
      ¬ ∀ (t : Instant) (item : String), t.Possible →
        0 ≤ t.wallClock.date.year ∧ t.wallClock.date.year ≤ 9999 →
          decodeInstant item (encodeInstant t) = .ok t := by
  have hpossible : Instant.Possible ⟨0, 1500000000⟩ := by decide +kernel
  have htext : encodeInstant ⟨0, 1500000000⟩ = "1970-01-01T00:00:01.500+00:00" := by
    decide +kernel
  have hread : decodeInstant "a" "1970-01-01T00:00:01.500+00:00" = .ok ⟨1, 500000000⟩ := by
    decide +kernel
  refine ⟨hpossible, htext, hread, fun h => ?_⟩
  have hsame := h ⟨0, 1500000000⟩ "a" hpossible (by decide +kernel)
  rw [htext, hread] at hsame
  cases hsame

end Row

end SimilarItems
