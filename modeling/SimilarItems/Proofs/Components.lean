import SimilarItems.Components
import SimilarItems.Proofs.Binary64.Literal
import SimilarItems.Proofs.Failure
import SimilarItems.Proofs.Text.Parts

/-!
# The grammar of vectors

A text is a vector if all its parts between commas stand for numbers, blanks around them aside; then
it has one component for each part. Else the first part that stands for no number is told, whatever
follows it. Blanks around the text or around its parts make no difference.
-/

namespace SimilarItems.Components

/-- A part stands for a number: without the blanks around it, it is a literal of this number. -/
def Stands (p : List Char) (x : Binary64) : Prop :=
  ∃ core, Text.Trimmed p core ∧ Binary64.Literal core x

/-- A fault tells the first part that stands for no number: its position, and its text without the
blanks around it. -/
structure FirstFault (parts : List (List Char)) (f : Fault) : Prop where
  faulty : ∃ p core, parts[f.position]? = some p ∧ Text.Trimmed p core ∧
    f.part = String.ofList core ∧ ∀ x, ¬ Binary64.Literal core x
  first : ∀ p ∈ parts.take f.position, ∃ x, Stands p x

variable {p : List Char} {ps : List (List Char)} {x : Binary64} {v : List Binary64}

theorem stands_iff : Stands p x ↔ Binary64.ofLiteral? (Text.trim p) = some x := by
  constructor
  · rintro ⟨core, htrimmed, hliteral⟩
    rw [Text.trimmed_iff.1 htrimmed]
    exact Binary64.literal_iff.1 hliteral
  · intro h
    exact ⟨Text.trim p, Text.trimmed_trim p, Binary64.literal_iff.2 h⟩

/-! ## Faults -/

theorem firstFault_zero {part : String} : FirstFault (p :: ps) ⟨0, part⟩ ↔
    Binary64.ofLiteral? (Text.trim p) = none ∧ part = String.ofList (Text.trim p) := by
  constructor
  · rintro ⟨⟨p', core, hp, htrimmed, hpart, hnone⟩, -⟩
    obtain rfl : p = p' := Option.some.inj hp
    rw [Text.trimmed_iff.1 htrimmed, Option.eq_none_iff_forall_ne_some]
    exact ⟨fun x hx => hnone x (Binary64.literal_iff.2 hx), hpart⟩
  · rintro ⟨hnone, hpart⟩
    refine ⟨⟨p, Text.trim p, rfl, Text.trimmed_trim p, hpart, fun x hx => ?_⟩, by simp⟩
    rw [Binary64.literal_iff.1 hx] at hnone
    cases hnone

theorem firstFault_succ {k : Nat} {part : String} : FirstFault (p :: ps) ⟨k + 1, part⟩ ↔
    (∃ x, Stands p x) ∧ FirstFault ps ⟨k, part⟩ := by
  constructor
  · rintro ⟨hfaulty, hfirst⟩
    rw [List.take_succ_cons, List.forall_mem_cons] at hfirst
    exact ⟨hfirst.1, hfaulty, hfirst.2⟩
  · rintro ⟨hp, hfaulty, hfirst⟩
    refine ⟨hfaulty, ?_⟩
    rw [List.take_succ_cons, List.forall_mem_cons]
    exact ⟨hp, hfirst⟩

/-! ## Reading parts -/

theorem ofParts_cons_of_none (h : Binary64.ofLiteral? (Text.trim p) = none) (i : Nat) :
    ofParts i (p :: ps) = .error ⟨i, String.ofList (Text.trim p)⟩ := by
  rw [ofParts, h]

theorem ofParts_cons_of_some (h : Binary64.ofLiteral? (Text.trim p) = some x) (i : Nat) :
    ofParts i (p :: ps) = (ofParts (i + 1) ps).map (x :: ·) := by
  rw [ofParts, h]

/-- Parts are read if all of them stand for numbers, which are then the components. -/
theorem ofParts_eq_ok_iff {i : Nat} : ofParts i ps = .ok v ↔ List.Forall₂ Stands ps v := by
  induction ps generalizing i v with
  | nil =>
    rw [ofParts, List.forall₂_nil_left_iff, Except.ok.injEq, eq_comm]
  | cons p ps ih =>
    rw [List.forall₂_cons_left_iff]
    cases hp : Binary64.ofLiteral? (Text.trim p) with
    | none => simp [ofParts_cons_of_none hp, stands_iff, hp]
    | some x =>
      rw [ofParts_cons_of_some hp, map_eq_ok]
      simp only [ih, stands_iff, hp, Option.some.injEq]
      constructor
      · rintro ⟨w, hw, rfl⟩
        exact ⟨x, w, rfl, hw, rfl⟩
      · rintro ⟨_, w, rfl, hw, rfl⟩
        exact ⟨w, hw, rfl⟩

theorem ofParts_of_firstFault {i k : Nat} {part : String} (h : FirstFault ps ⟨k, part⟩) :
    ofParts i ps = .error ⟨i + k, part⟩ := by
  induction ps generalizing i k with
  | nil =>
    obtain ⟨⟨_, _, hp, -⟩, -⟩ := h
    cases hp
  | cons p ps ih =>
    cases k with
    | zero =>
      obtain ⟨hnone, rfl⟩ := firstFault_zero.1 h
      exact ofParts_cons_of_none hnone i
    | succ k =>
      obtain ⟨⟨x, hx⟩, hrest⟩ := firstFault_succ.1 h
      rw [ofParts_cons_of_some (stands_iff.1 hx), ih hrest, Nat.add_right_comm, Nat.add_assoc]
      rfl

theorem exists_firstFault_of_ofParts {i : Nat} {f : Fault} (h : ofParts i ps = .error f) :
    ∃ k, f.position = i + k ∧ FirstFault ps ⟨k, f.part⟩ := by
  induction ps generalizing i with
  | nil => cases h
  | cons p ps ih =>
    cases hp : Binary64.ofLiteral? (Text.trim p) with
    | none =>
      rw [ofParts_cons_of_none hp, Except.error.injEq] at h
      subst h
      exact ⟨0, rfl, firstFault_zero.2 ⟨hp, rfl⟩⟩
    | some x =>
      rw [ofParts_cons_of_some hp, map_eq_error] at h
      obtain ⟨k, hk, hrest⟩ := ih h
      exact ⟨k + 1, by omega, firstFault_succ.2 ⟨⟨x, stands_iff.2 hp⟩, hrest⟩⟩

/-- Reading parts fails with the first fault. -/
theorem ofParts_eq_error_iff {f : Fault} : ofParts 0 ps = .error f ↔ FirstFault ps f := by
  constructor
  · intro h
    obtain ⟨k, hk, hfault⟩ := exists_firstFault_of_ofParts h
    rw [Nat.zero_add] at hk
    subst hk
    exact hfault
  · intro h
    rw [ofParts_of_firstFault h, Nat.zero_add]

/-! ## Blanks -/

/-- Of parts only what is left of them without the blanks around them is read. -/
theorem ofParts_congr {i : Nat} {ps' : List (List Char)} (h : ps'.map Text.trim = ps.map Text.trim) :
    ofParts i ps' = ofParts i ps := by
  induction ps generalizing i ps' with
  | nil => rw [List.map_eq_nil_iff.1 h]
  | cons p ps ih =>
    obtain ⟨p', ps', rfl, hp, hps⟩ := List.map_eq_cons_iff.1 h
    rw [ofParts, ofParts, hp, ih hps]

theorem trim_eq_nil_iff {cs : List Char} :
    Text.trim cs = [] ↔ (Text.splitAt ',' cs).map Text.trim = [[]] := by
  constructor
  · intro h
    rw [Text.map_trim_splitAt (by decide) (Text.padded_trim cs), h]
    rfl
  · intro h
    obtain ⟨p, hparts, hp⟩ := List.map_eq_singleton_iff.1 h
    have hjoined := (Text.splits_iff.2 hparts).joined
    rw [List.intercalate_singleton] at hjoined
    rwa [← hjoined]

theorem parseChars_congr {cs cs' : List Char}
    (h : (Text.splitAt ',' cs').map Text.trim = (Text.splitAt ',' cs).map Text.trim) :
    parseChars cs' = parseChars cs := by
  -- Trimming comes before cutting, but what it takes off would be taken off the parts as well.
  have hparts : (Text.splitAt ',' (Text.trim cs')).map Text.trim =
      (Text.splitAt ',' (Text.trim cs)).map Text.trim := by
    rw [← Text.map_trim_splitAt (by decide) (Text.padded_trim cs'), h,
      Text.map_trim_splitAt (by decide) (Text.padded_trim cs)]
  have hempty : (Text.trim cs').isEmpty = (Text.trim cs).isEmpty := by
    rw [Bool.eq_iff_iff, List.isEmpty_iff, List.isEmpty_iff, trim_eq_nil_iff, trim_eq_nil_iff, h]
  simp only [parseChars, hempty, ofParts_congr hparts]

theorem parseChars_of_padded {cs cs' : List Char} (h : Text.Padded cs cs') :
    parseChars cs' = parseChars cs :=
  parseChars_congr (Text.map_trim_splitAt (by decide) h)

theorem parseChars_of_padded_parts {cs : List Char} {ps ps' : List (List Char)}
    (hsplits : Text.Splits ',' cs ps) (h : List.Forall₂ Text.Padded ps ps') :
    parseChars ([','].intercalate ps') = parseChars cs := by
  refine parseChars_congr ?_
  rw [Text.splits_iff.1 (Text.splits_of_padded (by decide) hsplits h), Text.splits_iff.1 hsplits]
  exact Text.map_trim_of_padded h

/-! ## Vectors -/

/-- Let a text be trimmed and cut at its commas, which gives one part more than there are commas. If
nothing is left of it, it is the vector without components. Else it is a vector exactly if each part
stands for a number, and these numbers are the components; and it is refused exactly with its first
part that stands for no number, which the message quotes under its number. Blanks around the text or
around its parts change nothing. -/
theorem parse_grammar (s : String) :
    ∃ body parts, Text.Trimmed s.toList body ∧ Text.Splits ',' body parts ∧
      (body = [] → parse s = .ok []) ∧
      (body ≠ [] →
        (∀ v, parse s = .ok v ↔ List.Forall₂ Stands parts v) ∧
        (∀ v, parse s = .ok v → v.length = body.count ',' + 1) ∧
        ∀ f, parse s = .error f ↔ FirstFault parts f) ∧
      (∀ f : Fault, f.message =
        "component " ++ Nat.repr f.position ++ " ('" ++ f.part ++ "') is not a number") ∧
      (∀ t : String, Text.Padded s.toList t.toList → parse t = parse s) ∧
      ∀ inner outer, Text.Splits ',' s.toList inner → List.Forall₂ Text.Padded inner outer →
        parse (String.ofList ([','].intercalate outer)) = parse s := by
  have hsplits : Text.Splits ',' (Text.trim s.toList) _ := Text.splits_iff.2 rfl
  refine ⟨Text.trim s.toList, Text.splitAt ',' (Text.trim s.toList), Text.trimmed_trim s.toList,
    hsplits, fun hempty => ?_, fun hne => ?_, fun f => ?_, fun t ht => ?_,
    fun inner outer hinner houter => ?_⟩
  · rw [parse, parseChars, hempty]
    rfl
  · have hparse : parse s = ofParts 0 (Text.splitAt ',' (Text.trim s.toList)) := by
      rw [parse, parseChars]
      exact if_neg (mt List.isEmpty_iff.1 hne)
    rw [hparse]
    refine ⟨fun v => ofParts_eq_ok_iff, fun v hv => ?_, fun f => ofParts_eq_error_iff⟩
    rw [← (ofParts_eq_ok_iff.1 hv).length_eq, Text.length_splitAt]
  · rw [Fault.message, Digits.text_eq_repr]
  · exact parseChars_of_padded ht
  · rw [parse, String.toList_ofList]
    exact parseChars_of_padded_parts hinner houter

example : parse " -inF,\u2003.5E+1\n" =
    .ok [Binary64.infinity true, Binary64.ofBits 0x4014000000000000] := by decide +kernel

example : parse "1,\u2003,2e" = .error ⟨1, ""⟩ := by decide +kernel

end SimilarItems.Components
