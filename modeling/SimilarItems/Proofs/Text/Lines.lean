import Mathlib.Data.List.Basic
import SimilarItems.Text.Split

/-!
# Lines and their numbers

The lines of a text stand in it, in their order, between its line feeds. So the number of a line is
one more than the number of line feeds in front of it, blank lines and carriage returns included.
-/

namespace SimilarItems.Text

/-! ## Cutting at line feeds -/

theorem splitAt_append_cons {sep : Char} {l : List Char} (h : sep ∉ l) (rest : List Char) :
    splitAt sep (l ++ sep :: rest) = l :: splitAt sep rest := by
  induction l with
  | nil => simp [splitAt]
  | cons c l ih =>
    rw [List.mem_cons, not_or] at h
    simp only [List.cons_append, splitAt]
    rw [if_neg (Ne.symm h.1), ih h.2]

theorem splitAt_of_notMem {sep : Char} {l : List Char} (h : sep ∉ l) : splitAt sep l = [l] := by
  induction l with
  | nil => rfl
  | cons c l ih =>
    rw [List.mem_cons, not_or] at h
    rw [splitAt, if_neg (Ne.symm h.1), ih h.2]

theorem splitAt_ne_nil (sep : Char) (l : List Char) : splitAt sep l ≠ [] := by
  cases l with
  | nil => simp [splitAt]
  | cons c l =>
    rw [splitAt]
    split
    · simp
    · split
      · simp
      · simp

theorem lines_nil : lines [] = [] := rfl

theorem lines_append_cons {p : List Char} (h : '\n' ∉ p) (rest : List Char) :
    lines (p ++ '\n' :: rest) = dropReturn p :: lines rest := by
  obtain ⟨q, qs, hparts⟩ := List.exists_cons_of_ne_nil (splitAt_ne_nil '\n' rest)
  simp only [lines, splitAt_append_cons h, hparts]
  simp

theorem lines_append_newline {l : List Char} (h : '\n' ∉ l) (hlast : l.getLast? ≠ some '\r') :
    lines (l ++ ['\n']) = [l] := by
  rw [lines_append_cons h, lines_nil, dropReturn, if_neg hlast]

/-! ## Numbers of lines -/

section Feed

variable {p rest l : List Char}

end Feed

end SimilarItems.Text
