import SimilarItems.Neighbors.Lines
import SimilarItems.Proofs.Json.Real
import SimilarItems.Proofs.Json.Record
import SimilarItems.Proofs.Store.Row
import SimilarItems.Proofs.Text.Lines

/-!
# Lines of neighbor lists

What is written for a list is one line that holds one JSON object, whatever the scores are. But a
score that is not finite is written as `null`, which is no number, so that a list is loaded again
exactly if all its scores are finite.
-/

namespace SimilarItems

namespace Json

theorem newline_notMem_chars (ds : List Digit) : '\n' ∉ Digits.chars ds := by
  intro h
  obtain ⟨d, -, hd⟩ := List.mem_map.1 h
  revert hd
  revert d
  decide

theorem newline_notMem_escape (c : Char) : '\n' ∉ Quoted.escape c := by
  rcases Nat.lt_or_ge c.toNat 32 with hcontrol | hplain
  · have hall : ∀ n < 32, '\n' ∉ Quoted.escape (Char.ofNat n) := by decide
    have := hall c.toNat hcontrol
    rwa [Char.ofNat_toNat] at this
  · unfold Quoted.escape
    split_ifs
    · decide
    · decide
    · intro h
      rw [List.mem_singleton] at h
      rw [← h] at hplain
      exact absurd hplain (by decide)

theorem newline_notMem_number (n : Number) : '\n' ∉ n.chars := by
  have hwhole := newline_notMem_chars n.whole
  have hfraction := newline_notMem_chars n.fraction
  unfold Number.chars
  cases n.exponent with
  | none =>
    cases n.negative <;> cases n.fraction.isEmpty <;> simp [hwhole, hfraction]
  | some e =>
    have hexponent := newline_notMem_chars e.digits
    cases n.negative <;> cases n.fraction.isEmpty <;> cases hneg : e.negative <;>
      simp [hwhole, hfraction, hexponent, Number.exponentChars, hneg]

theorem newline_notMem_token (t : Token) : '\n' ∉ t.chars := by
  cases t with
  | number n => exact newline_notMem_number n
  | string s =>
    cases s with
    | none => decide
    | some s =>
      have hescape : '\n' ∉ s.toList.flatMap Quoted.escape := by
        rw [List.mem_flatMap]
        rintro ⟨c, -, hc⟩
        exact newline_notMem_escape c hc
      simp [Token.chars, Quoted.write, hescape]
  | bool b => cases b <;> decide
  | _ => decide

/-- A compact text has no line breaks. -/
theorem newline_notMem_compact (j : Json) : '\n' ∉ j.compact.toList := by
  rw [compact, String.toList_ofList, compactChars, List.mem_flatMap]
  rintro ⟨t, -, ht⟩
  exact newline_notMem_token t ht

theorem getLast?_compact_fields (ms : List (String × Json)) :
    (fields ms).compact.toList.getLast? = some '\x7d' := by
  rw [compact, String.toList_ofList, fields, tokens, compactChars, List.cons_append,
    List.flatMap_cons, List.flatMap_append, ← List.append_assoc]
  exact List.getLast?_concat

theorem wellFormed_of_mem_ofReal {x : Binary64} {n : Number} (h : .number n ∈ (ofReal x).tokens) :
    n.WellFormed := by
  rw [ofReal] at h
  split at h
  · rw [tokens, List.mem_singleton] at h
    cases h
    exact Number.wellFormed_ofBinary64 x
  · rw [tokens, List.mem_singleton] at h
    cases h

end Json

/-! ## Scores -/

namespace Score

theorem wellFormed_of_mem_toJson {s : Score} {n : Json.Number} (h : .number n ∈ s.toJson.tokens) :
    n.WellFormed := by
  refine Json.wellFormed_of_mem_ofReal (x := s.value) ?_
  simpa [toJson, Json.fields, Json.text, Json.tokens, Json.memberTokens] using h

theorem ofJson?_toJson (s : Score) :
    ofJson? s.toJson = (Json.real? (.ofReal s.value)).map fun y => ⟨s.item, y⟩ := by
  have hrecord : s.toJson.record? ["id", "score"] =
      some ⟨[("id", .text s.item), ("score", .ofReal s.value)]⟩ :=
    Json.record?_fields rfl (by decide)
  rw [ofJson?, hrecord]
  simp only [Option.bind_eq_bind, Option.bind_some, Record.required?_cons, String.reduceEq, if_true,
    if_false, Json.text, Json.text?]
  cases Json.real? (.ofReal s.value) <;> rfl

end Score

namespace Neighbors

/-- Reads a neighbor list from a JSON value. -/
def listOfJson? (j : Json) : Option (String × List Score) := do
  let r ← j.record? ["item_id", "neighbors"]
  let item ← r.required? "item_id" Json.text?
  let scores ← r.required? "neighbors" fun j => j.list? Score.ofJson?
  some (item, scores)

/-- Reads the neighbor lists of a text, one on a line. -/
def load? (text : String) : Option (List (String × List Score)) :=
  (Text.lines text.toList).mapM fun l => (Json.parse? (String.ofList l)).bind listOfJson?

theorem listOfJson?_listJson (item : String) (scores : List Score) :
    listOfJson? (listJson item scores) =
      (scores.mapM fun s => Score.ofJson? s.toJson).map fun loaded => (item, loaded) := by
  have hrecord : (listJson item scores).record? ["item_id", "neighbors"] =
      some ⟨[("item_id", .text item), ("neighbors", .array (scores.map Score.toJson))]⟩ :=
    Json.record?_fields rfl (by decide)
  have hlist : Json.list? Score.ofJson? (.array (scores.map Score.toJson)) =
      scores.mapM fun s => Score.ofJson? s.toJson := List.mapM_map ..
  rw [listOfJson?, hrecord]
  simp only [Option.bind_eq_bind, Option.bind_some, Record.required?_cons, String.reduceEq, if_true,
    if_false, Json.text, Json.text?, hlist]
  cases scores.mapM fun s => Score.ofJson? s.toJson <;> rfl

/-! ## Lines -/

variable {item : String} {scores : List Score}

/-- The JSON text of a list is read as it was written. -/
theorem parse?_listJson (item : String) (scores : List Score) :
    Json.parse? (listJson item scores).compact = some (listJson item scores) := by
  refine Json.parse?_compact fun n hn => ?_
  have hmem : .number n ∈ Json.elementTokens (scores.map Score.toJson) := by
    simpa [listJson, Json.fields, Json.text, Json.tokens, Json.memberTokens] using hn
  rcases Json.mem_elementTokens hmem with hcomma | ⟨j, hj, hn⟩
  · cases hcomma
  · obtain ⟨s, -, rfl⟩ := List.mem_map.1 hj
    exact Score.wellFormed_of_mem_toJson hn

/-- What is written for a list is one line, which holds its JSON text. -/
theorem lines_line (item : String) (scores : List Score) :
    Text.lines (line item scores).toList = [(listJson item scores).compact.toList] := by
  rw [line, String.toList_append]
  refine Text.lines_append_newline (Json.newline_notMem_compact _) ?_
  rw [listJson, Json.getLast?_compact_fields]
  decide

theorem load?_line (item : String) (scores : List Score) : load? (line item scores) =
    (scores.mapM fun s => Score.ofJson? s.toJson).map fun loaded => [(item, loaded)] := by
  rw [load?, lines_line, List.mapM_cons, List.mapM_nil, String.ofList_toList, parse?_listJson,
    Option.bind_some, listOfJson?_listJson]
  cases scores.mapM fun s => Score.ofJson? s.toJson <;> rfl

/-- The line of a list is loaded again, with the same items in the same order. -/
def Loads (item : String) (scores : List Score) : Prop :=
  ∃ loaded, load? (line item scores) = some [(item, loaded)] ∧
    loaded.map (·.item) = scores.map (·.item)

theorem real?_ofReal_of_not_isFinite {x : Binary64} (h : ¬ x.isFinite) :
    Json.real? (.ofReal x) = none := by
  rw [Json.ofReal, if_neg h]
  rfl

theorem exists_real?_ofReal {x : Binary64} (h : x.isFinite) :
    ∃ y, Json.real? (.ofReal x) = some y := by
  rw [Json.ofReal, if_pos h]
  exact Json.Number.exists_toBinary64?_ofBinary64 h

theorem exists_mapM_toJson (h : ∀ s ∈ scores, s.value.isFinite) :
    ∃ loaded, (scores.mapM fun s => Score.ofJson? s.toJson) = some loaded ∧
      loaded.map (·.item) = scores.map (·.item) := by
  induction scores with
  | nil => exact ⟨[], rfl, rfl⟩
  | cons s scores ih =>
    rw [List.forall_mem_cons] at h
    obtain ⟨y, hy⟩ := exists_real?_ofReal h.1
    obtain ⟨loaded, hloaded, hitems⟩ := ih h.2
    refine ⟨⟨s.item, y⟩ :: loaded, ?_, by rw [List.map_cons, hitems, List.map_cons]⟩
    rw [List.mapM_cons, Score.ofJson?_toJson, hy, hloaded]
    rfl

theorem mapM_toJson_eq_none {s : Score} (hs : s ∈ scores) (h : ¬ s.value.isFinite) :
    (scores.mapM fun s => Score.ofJson? s.toJson) = none := by
  induction scores with
  | nil => cases hs
  | cons r scores ih =>
    rw [List.mapM_cons]
    rcases List.mem_cons.1 hs with rfl | hs
    · rw [Score.ofJson?_toJson, real?_ofReal_of_not_isFinite h]
      rfl
    · rw [ih hs]
      cases Score.ofJson? r.toJson <;> rfl

/-- A list is loaded again exactly if all its scores are finite. -/
theorem loads_iff : Loads item scores ↔ ∀ s ∈ scores, s.value.isFinite := by
  rw [Loads, load?_line]
  constructor
  · rintro ⟨loaded, hload, -⟩ s hs
    by_contra hinfinite
    rw [mapM_toJson_eq_none hs hinfinite] at hload
    cases hload
  · intro hfinite
    obtain ⟨loaded, hloaded, hitems⟩ := exists_mapM_toJson hfinite
    exact ⟨loaded, by rw [hloaded]; rfl, hitems⟩

end Neighbors

end SimilarItems
