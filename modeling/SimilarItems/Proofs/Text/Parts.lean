import Mathlib.Data.List.DropRight
import Mathlib.Data.List.Forall2
import SimilarItems.Proofs.Text.Lines
import SimilarItems.Text.Blank

/-!
# Parts of texts and the blanks around them

A text without the blanks around it is determined, and so are its parts between separators. Blanks
that are put around a text or around its parts are all taken off again when the parts are trimmed.
-/

namespace SimilarItems.Text

/-- A text with blanks around it. -/
def Padded (l cs : List Char) : Prop :=
  ∃ before after, cs = before ++ l ++ after ∧ (∀ c ∈ before, isBlank c) ∧ ∀ c ∈ after, isBlank c

/-- What is left of a text without the blanks around it. -/
structure Trimmed (cs l : List Char) : Prop where
  padded : Padded l cs
  first : ∀ c ∈ l.head?, isBlank c = false
  last : ∀ c ∈ l.getLast?, isBlank c = false

/-- The parts of a text that stand between the occurrences of a separator. -/
structure Splits (sep : Char) (cs : List Char) (parts : List (List Char)) : Prop where
  joined : [sep].intercalate parts = cs
  ne_nil : parts ≠ []
  notMem : ∀ p ∈ parts, sep ∉ p

variable {cs l : List Char} {sep : Char} {parts : List (List Char)}

/-! ## Blanks around a text -/

theorem trimEnd_eq_rdropWhile (cs : List Char) : trimEnd cs = cs.rdropWhile isBlank := rfl

theorem trimEnd_append {after : List Char} (h : ∀ c ∈ after, isBlank c) (l : List Char) :
    trimEnd (l ++ after) = trimEnd l := by
  rw [trimEnd, trimEnd, List.reverse_append, List.dropWhile_append_of_pos]
  simpa using h

/-- Blanks around a text are trimmed away. -/
theorem trim_of_padded (h : Padded l cs) : trim cs = trim l := by
  obtain ⟨before, after, rfl, hbefore, hafter⟩ := h
  have hstart : trimStart (before ++ l ++ after) = trimStart (l ++ after) := by
    rw [trimStart, List.append_assoc, List.dropWhile_append_of_pos hbefore]
    rfl
  rw [trim, hstart, trim, trimStart, trimStart, List.dropWhile_append]
  split
  · next hempty =>
    rw [List.isEmpty_iff.1 hempty, List.dropWhile_eq_nil_iff.2 hafter]
  · exact trimEnd_append hafter _

theorem padded_trim (cs : List Char) : Padded (trim cs) cs := by
  refine ⟨cs.takeWhile isBlank, (trimStart cs).rtakeWhile isBlank, ?_, ?_, ?_⟩
  · rw [List.append_assoc, trim, trimEnd_eq_rdropWhile, List.rdropWhile_append_rtakeWhile,
      trimStart, List.takeWhile_append_dropWhile]
  · exact fun c hc => List.mem_takeWhile_imp hc
  · exact fun c hc => List.mem_rtakeWhile_imp hc

theorem isBlank_of_head?_trimStart {c : Char} (h : c ∈ (trimStart cs).head?) : isBlank c = false := by
  have hnot := List.head?_dropWhile_not isBlank cs
  rw [trimStart, Option.mem_def] at h
  rwa [h] at hnot

theorem isBlank_of_getLast?_trimEnd {c : Char} (h : c ∈ (trimEnd cs).getLast?) :
    isBlank c = false := by
  rw [trimEnd, List.getLast?_reverse] at h
  exact isBlank_of_head?_trimStart h

theorem trimmed_trim (cs : List Char) : Trimmed cs (trim cs) := by
  refine ⟨padded_trim cs, fun c hc => ?_, fun c hc => isBlank_of_getLast?_trimEnd hc⟩
  have hrest : trim cs ++ (trimStart cs).rtakeWhile isBlank = trimStart cs :=
    List.rdropWhile_append_rtakeWhile
  have hstart : c ∈ (trimStart cs).head? := by
    rw [← hrest, List.head?_append, hc]
    rfl
  exact isBlank_of_head?_trimStart hstart

theorem trim_of_trimmed (h : Trimmed cs l) : trim cs = l := by
  rw [trim_of_padded h.padded, trim]
  have hstart : trimStart l = l := by
    cases l with
    | nil => rfl
    | cons c l => exact List.dropWhile_cons_of_neg (by simpa using h.first c rfl)
  rw [hstart, trimEnd_eq_rdropWhile, List.rdropWhile_eq_self_iff]
  intro hne
  simpa using h.last _ (List.getLast?_eq_some_getLast hne)

/-- Trimming a text leaves what is left of it without the blanks around it. -/
theorem trimmed_iff : Trimmed cs l ↔ trim cs = l := by
  constructor
  · exact trim_of_trimmed
  · rintro rfl
    exact trimmed_trim cs

/-! ## Parts -/

theorem splitAt_eq_splitOn (sep : Char) (cs : List Char) : splitAt sep cs = cs.splitOn sep := by
  induction cs with
  | nil => rfl
  | cons c cs ih =>
    rw [List.splitOn_cons_eq_if_modifyHead, splitAt, ih]
    by_cases hc : c = sep
    · rw [if_pos hc, if_pos (beq_iff_eq.2 hc)]
    · rw [if_neg hc, if_neg (by simpa using hc)]
      obtain ⟨p, ps, hparts⟩ := List.exists_cons_of_ne_nil (List.splitOn_ne_nil sep cs)
      rw [hparts]
      rfl

theorem notMem_of_mem_splitAt : ∀ p ∈ splitAt sep cs, sep ∉ p := by
  induction cs with
  | nil => simp [splitAt]
  | cons c cs ih =>
    obtain ⟨p, ps, hparts⟩ := List.exists_cons_of_ne_nil (splitAt_ne_nil sep cs)
    rw [hparts, List.forall_mem_cons] at ih
    rw [splitAt, hparts]
    split
    · simpa using ih
    · next hc => simpa [Ne.symm hc] using ih

/-- There is one part more than there are separators. -/
theorem length_splitAt (sep : Char) (cs : List Char) :
    (splitAt sep cs).length = cs.count sep + 1 := by
  induction cs with
  | nil => rfl
  | cons c cs ih =>
    obtain ⟨p, ps, hparts⟩ := List.exists_cons_of_ne_nil (splitAt_ne_nil sep cs)
    rw [hparts, List.length_cons] at ih
    rw [splitAt, hparts]
    split
    · next hc => simp [hc, ih]
    · next hc => simp [hc, ih]

theorem splits_iff : Splits sep cs parts ↔ splitAt sep cs = parts := by
  rw [splitAt_eq_splitOn]
  constructor
  · rintro ⟨rfl, hne, hparts⟩
    exact List.splitOn_intercalate sep hparts hne
  · rintro rfl
    refine ⟨List.intercalate_splitOn sep, List.splitOn_ne_nil sep cs, fun p hp => ?_⟩
    rw [← splitAt_eq_splitOn] at hp
    exact notMem_of_mem_splitAt p hp

/-! ## Blanks around parts -/

theorem splitAt_append_left {before : List Char} (h : sep ∉ before) (l : List Char) :
    ∃ p ps, splitAt sep l = p :: ps ∧ splitAt sep (before ++ l) = (before ++ p) :: ps := by
  obtain ⟨p, ps, hparts⟩ := List.exists_cons_of_ne_nil (splitAt_ne_nil sep l)
  refine ⟨p, ps, hparts, ?_⟩
  induction before with
  | nil => exact hparts
  | cons c before ih =>
    rw [List.mem_cons, not_or] at h
    rw [List.cons_append, splitAt, if_neg (Ne.symm h.1), ih h.2]
    rfl

theorem splitAt_append_right {after : List Char} (h : sep ∉ after) (l : List Char) :
    ∃ ps p, splitAt sep l = ps ++ [p] ∧ splitAt sep (l ++ after) = ps ++ [p ++ after] := by
  induction l with
  | nil => exact ⟨[], [], rfl, splitAt_of_notMem h⟩
  | cons c l ih =>
    obtain ⟨ps, p, hparts, happend⟩ := ih
    rw [List.cons_append, splitAt, splitAt, hparts, happend]
    by_cases hc : c = sep
    · exact ⟨[] :: ps, p, if_pos hc, if_pos hc⟩
    · rw [if_neg hc, if_neg hc]
      cases ps with
      | nil => exact ⟨[], c :: p, rfl, rfl⟩
      | cons q qs => exact ⟨(c :: q) :: qs, p, rfl, rfl⟩

theorem notMem_of_blank (hsep : isBlank sep = false) {blanks : List Char}
    (h : ∀ c ∈ blanks, isBlank c) : sep ∉ blanks := by
  intro hmem
  rw [h sep hmem] at hsep
  cases hsep

/-- Blanks around a text do not show in its trimmed parts. -/
theorem map_trim_splitAt (hsep : isBlank sep = false) (h : Padded l cs) :
    (splitAt sep cs).map trim = (splitAt sep l).map trim := by
  obtain ⟨before, after, rfl, hbefore, hafter⟩ := h
  -- The separator is no blank, so the blanks go to the first part and to the last.
  obtain ⟨p, ps, hl, hleft⟩ := splitAt_append_left (notMem_of_blank hsep hbefore) l
  obtain ⟨qs, q, hfront, hright⟩ :=
    splitAt_append_right (notMem_of_blank hsep hafter) (before ++ l)
  have hp : trim (before ++ p) = trim p :=
    trim_of_padded ⟨before, [], by simp, hbefore, by simp⟩
  have hq : trim (q ++ after) = trim q := trim_of_padded ⟨[], after, by simp, by simp, hafter⟩
  calc (splitAt sep (before ++ l ++ after)).map trim
      = (qs ++ [q]).map trim := by simp only [hright, List.map_append, List.map_singleton, hq]
    _ = ((before ++ p) :: ps).map trim := by rw [← hfront, hleft]
    _ = (splitAt sep l).map trim := by rw [hl, List.map_cons, List.map_cons, hp]

variable {parts' : List (List Char)}

theorem map_trim_of_padded (h : List.Forall₂ Padded parts parts') :
    parts'.map trim = parts.map trim := by
  induction h with
  | nil => rfl
  | cons hp _ ih => rw [List.map_cons, List.map_cons, trim_of_padded hp, ih]

theorem Padded.notMem (hsep : isBlank sep = false) (h : Padded l cs) (hl : sep ∉ l) : sep ∉ cs := by
  obtain ⟨before, after, rfl, hbefore, hafter⟩ := h
  simp [hl, notMem_of_blank hsep hbefore, notMem_of_blank hsep hafter]

/-- Parts with blanks put around them are the parts of what they make. -/
theorem splits_of_padded (hsep : isBlank sep = false) (h : Splits sep cs parts)
    (hparts : List.Forall₂ Padded parts parts') :
    Splits sep ([sep].intercalate parts') parts' := by
  refine ⟨rfl, ?_, ?_⟩
  · rintro rfl
    cases hparts
    exact h.ne_nil rfl
  · have hnotMem := h.notMem
    clear h
    induction hparts with
    | nil => exact hnotMem
    | cons hp _ ih =>
      rw [List.forall_mem_cons] at hnotMem ⊢
      exact ⟨hp.notMem hsep hnotMem.1, ih hnotMem.2⟩

end SimilarItems.Text
