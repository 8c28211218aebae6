import SimilarItems.Proofs.Selection
import SimilarItems.Ranker

/-!
# What a ranker makes of its offers

Whatever candidates a ranker is offered and in whatever order, it comes to the first `n` of their
sorted scores, and so does a bag that gives up its weakest entry. The source's own item and vectors of
another dimension have none, and the latter are counted.
-/

namespace SimilarItems.Ranker

/-- What a candidate scores for a source, if it is comparable. -/
def score? (source : Embedding) (item : String) (vector : List Binary64) : Option Score :=
  if item ≠ source.item ∧ vector.length = source.dimension then
    some ⟨item, cosine source.vector vector⟩
  else none

/-- Another item than the source's, of another dimension. -/
def mismatched (source : Embedding) (item : String) (vector : List Binary64) : Bool :=
  item ≠ source.item && vector.length ≠ source.dimension

/-- A score as an entry of a ranking. -/
def entry (x : Score) : Weighted String := ⟨x.item, x.value⟩

/-- The ranker after candidates were offered one after another. -/
def offerAll (r : Ranker) (candidates : List (String × List Binary64)) : Ranker :=
  candidates.foldl (fun r c => r.offer c.1 c.2) r

/-- What one offer does. -/
theorem offer_eq (r : Ranker) (item : String) (vector : List Binary64) :
    r.offer item vector =
      { source := r.source
        best := r.best.pushAll ((score? r.source item vector).toList.map entry)
        skipped := r.skipped + (mismatched r.source item vector).toNat } := by
  unfold offer judge score? mismatched
  by_cases hitem : item = r.source.item
  · simp [hitem, TopK.pushAll]
  · by_cases hlength : vector.length = r.source.dimension
    · simp [hitem, hlength, TopK.pushAll, entry]
    · simp [hitem, hlength, TopK.pushAll]

theorem offerAll_eq (r : Ranker) (candidates : List (String × List Binary64)) :
    r.offerAll candidates =
      { source := r.source
        best := r.best.pushAll
          ((candidates.filterMap fun c => score? r.source c.1 c.2).map entry)
        skipped := r.skipped + candidates.countP fun c => mismatched r.source c.1 c.2 } := by
  induction candidates generalizing r with
  | nil => simp [offerAll, TopK.pushAll]
  | cons c candidates ih =>
    have hstep : r.offerAll (c :: candidates) = (r.offer c.1 c.2).offerAll candidates := rfl
    rw [hstep, ih, offer_eq]
    simp only [TopK.pushAll, ← List.foldl_append, ← List.map_append, List.countP_cons,
      List.filterMap_cons]
    cases score? r.source c.1 c.2 <;> cases mismatched r.source c.1 c.2 <;>
      simp [Nat.add_comm, Nat.add_assoc]

/-- A ranker that was offered candidates has the first of their sorted scores. -/
theorem scores_offerAll_start (source : Embedding) (n : Nat)
    (candidates : List (String × List Binary64)) :
    ((start source n).offerAll candidates).scores =
      (Score.sort (candidates.filterMap fun c => score? source c.1 c.2)).take n := by
  rw [offerAll_eq, scores, start, TopK.entries_pushAll_empty, List.map_take, Score.sort]
  congr 1
  rw [List.map_mergeSort (s := fun a b : Score => (a.order b).isLE), List.map_map]
  · congr 1
    exact List.map_id' _
  · intro a _ b _
    rfl

/-- A ranker does not tell in which order it was offered its candidates. -/
theorem offerAll_start_of_perm (source : Embedding) (n : Nat)
    {candidates candidates' : List (String × List Binary64)} (hp : candidates.Perm candidates') :
    (start source n).offerAll candidates = (start source n).offerAll candidates' := by
  rw [offerAll_eq, offerAll_eq, start, TopK.pushAll_empty_eq_of_perm n ((hp.filterMap _).map entry),
    hp.countP_eq]

theorem map_entry_scores (r : Ranker) : r.scores.map entry = r.best.entries := by
  rw [scores, List.map_map]
  exact List.map_id' _

/-- Candidates of the source's own item might as well not have been offered. -/
theorem offerAll_own (r : Ranker) (before after : List (String × List Binary64))
    (vector : List Binary64) :
    r.offerAll (before ++ (r.source.item, vector) :: after) = r.offerAll (before ++ after) := by
  have hscore : score? r.source r.source.item vector = none := by simp [score?]
  have hmismatched : mismatched r.source r.source.item vector = false := by simp [mismatched]
  rw [offerAll_eq, offerAll_eq]
  simp only [List.filterMap_append, List.filterMap_cons, hscore, List.countP_append,
    List.countP_cons, hmismatched, Bool.false_eq_true, if_false, Nat.add_zero]

/-- A ranker agrees with the sorted list, with the order of the offers and with a bag of bounded room:
it has the first of the sorted scores, however the candidates come, and the number of those that have
another dimension. -/
theorem scores_and_skipped_of_perm (source : Embedding) (n : Nat)
    (candidates : List (String × List Binary64)) :
    (∀ offers, offers.Perm candidates →
      ((start source n).offerAll offers).scores =
        (Score.sort (candidates.filterMap fun c => score? source c.1 c.2)).take n ∧
      ((start source n).offerAll offers).skipped =
        candidates.countP fun c => mismatched source c.1 c.2) ∧
    (∀ bag, TopK.Exchanges n 0 ((candidates.filterMap fun c => score? source c.1 c.2).map entry) bag ↔
      bag = ((start source n).offerAll candidates).scores.map entry) ∧
    ∀ before vector after, candidates = before ++ (source.item, vector) :: after →
      (start source n).offerAll candidates = (start source n).offerAll (before ++ after) := by
  refine ⟨fun offers hperm => ?_, fun bag => ?_, ?_⟩
  · rw [offerAll_start_of_perm source n hperm]
    refine ⟨scores_offerAll_start source n candidates, ?_⟩
    rw [offerAll_eq, start, Nat.zero_add]
  · rw [map_entry_scores, offerAll_eq]
    exact TopK.exchanges_iff (t := TopK.empty n) List.Pairwise.nil (Nat.zero_le n) _ bag
  · rintro before vector after rfl
    exact offerAll_own (start source n) before after vector

/-- The axis that candidates are compared with. -/
def axis : Embedding := ⟨"s", [.one, .zero false], ⟨0, 0⟩⟩

/-- Two equal scores under one item and another, a NaN of each sign, zeros of both signs, the source's
own item, and two vectors of another dimension, one of them under the source's item. -/
def mixedCandidates : List (String × List Binary64) :=
  [("c", [.one, .zero false]), ("s", [.one, .zero false]), ("a", [.one, .zero false]),
    ("m", [.nan true, .one]), ("c", [.one, .zero false]), ("z", [.zero false, .one]),
    ("y", [.zero true, .one]), ("p", [.nan false, .one]), ("l", [.one]), ("s", [])]

theorem scores_and_skipped_of_perm_mixed :
    (Score.sort (mixedCandidates.filterMap fun c => score? axis c.1 c.2)).take 4 =
        [⟨"p", .nan false⟩, ⟨"a", .one⟩, ⟨"c", .one⟩, ⟨"c", .one⟩] ∧
      ((start axis 4).offerAll mixedCandidates.reverse).skipped = 1 ∧
      (start axis 4).offerAll mixedCandidates = (start axis 4).offerAll
        (mixedCandidates.head (by decide) :: mixedCandidates.drop 2) := by
  have hfound : ((start axis 4).offerAll mixedCandidates.reverse).scores =
      [⟨"p", .nan false⟩, ⟨"a", .one⟩, ⟨"c", .one⟩, ⟨"c", .one⟩] := by decide +kernel
  obtain ⟨hperm, -, hown⟩ := scores_and_skipped_of_perm axis 4 mixedCandidates
  obtain ⟨hscores, hskipped⟩ := hperm _ (List.reverse_perm _)
  refine ⟨hscores.symm.trans hfound, hskipped.trans ?_, ?_⟩
  · decide
  · exact hown [mixedCandidates.head (by decide)] [.one, .zero false] (mixedCandidates.drop 2) rfl

end SimilarItems.Ranker
