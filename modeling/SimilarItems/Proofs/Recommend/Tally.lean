import Mathlib.Data.List.Dedup
import Mathlib.Data.List.Induction
import SimilarItems.Proofs.Keyed
import SimilarItems.Proofs.TopK
import SimilarItems.Recommend.Tally

/-!
# What a tally ranks

A tally that took in scores holds, for each admitted item among them, the sum of its weighted scores
in the order in which they came. Its best items are the first of the ranking by these sums, in
whatever order the tally's entries are looked at.
-/

namespace SimilarItems.Recommend

theorem nodup_eraseDups {α : Type} [BEq α] [LawfulBEq α] (l : List α) : l.eraseDups.Nodup := by
  induction hn : l.length using Nat.strong_induction_on generalizing l with
  | _ n ih =>
    cases l with
    | nil => simp
    | cons a l =>
      have hlen : (l.filter fun b => !b == a).length < n := by
        have := List.length_filter_le (fun b => !b == a) l
        rw [List.length_cons] at hn
        omega
      rw [List.eraseDups_cons, List.nodup_cons, List.mem_eraseDups]
      exact ⟨by simp, ih _ hlen _ rfl⟩

theorem mem_labels {categories : List String} {label : String} :
    label ∈ labels categories ↔ label = CandidateSet.allCategories ∨ label ∈ categories := by
  rw [labels, List.mem_eraseDups, List.mem_cons]

namespace Tally

variable (admits : String → Bool) (weight : Binary64)

/-- The weighted scores of an item, added in their order to zero. -/
def sum (scores : List Score) (item : String) : Binary64 :=
  (scores.filter fun s => s.item = item).foldl (fun sum s => sum + s.value * weight) (.zero false)

/-- The items of scores that are admitted, each once. -/
def items (scores : List Score) : List String :=
  ((scores.map (·.item)).filter admits).eraseDups

/-- The admitted items of scores, ranked by the sums of their weighted scores. -/
def ranking (scores : List Score) : List String :=
  (Score.sort ((items admits scores).map fun item => ⟨item, sum weight scores item⟩)).map (·.item)

theorem mem_items {scores : List Score} {item : String} :
    item ∈ items admits scores ↔ (∃ s ∈ scores, s.item = item) ∧ admits item := by
  rw [items, List.mem_eraseDups, List.mem_filter, List.mem_map]

theorem nodup_items (scores : List Score) : (items admits scores).Nodup :=
  nodup_eraseDups _

theorem sum_append_singleton (scores : List Score) (s : Score) (item : String) :
    sum weight (scores ++ [s]) item =
      if s.item = item then sum weight scores item + s.value * weight
      else sum weight scores item := by
  rw [sum, sum, List.filter_append]
  by_cases h : s.item = item <;> simp [h]

theorem sum_eq_zero {scores : List Score} {item : String} (h : ¬ ∃ s ∈ scores, s.item = item) :
    sum weight scores item = .zero false := by
  have hnil : (scores.filter fun s => s.item = item) = [] := by
    rw [List.filter_eq_nil_iff]
    intro s hs
    simpa using fun heq => h ⟨s, hs, heq⟩
  rw [sum, hnil, List.foldl_nil]

theorem rising_addList {t : Tally} (h : Keyed.Rising t.entries) (scores : List Score) :
    Keyed.Rising (addList admits weight t scores).entries := by
  induction scores generalizing t with
  | nil => exact h
  | cons s scores ih =>
    rw [addList, List.foldl_cons]
    refine ih ?_
    rw [add]
    split
    · exact Keyed.rising_alter h _ _
    · exact h

/-- A tally holds the sums of the admitted items that occurred. -/
theorem get?_addList (scores : List Score) (item : String) :
    (addList admits weight .empty scores).get? item =
      if item ∈ items admits scores then some (sum weight scores item) else none := by
  induction scores using List.reverseRecOn with
  | nil => rfl
  | append_singleton scores s ih =>
    have hrising : Keyed.Rising (addList admits weight .empty scores).entries :=
      rising_addList admits weight Keyed.rising_empty scores
    have hstep : addList admits weight .empty (scores ++ [s]) =
        add admits weight (addList admits weight .empty scores) s := by
      rw [addList, List.foldl_append]
      rfl
    have hmem : item ∈ items admits (scores ++ [s]) ↔
        item ∈ items admits scores ∨ s.item = item ∧ admits item := by
      rw [mem_items, mem_items]
      simp only [List.mem_append, List.mem_singleton, or_and_right, exists_or, exists_eq_left]
    rw [hstep, add, sum_append_singleton]
    by_cases hs : s.item = item
    · subst hs
      by_cases ha : admits s.item
      · rw [if_pos ha, Keyed.get?_alter hrising, if_pos rfl, if_pos (hmem.2 (.inr ⟨rfl, ha⟩)),
          if_pos rfl, ih]
        by_cases hi : s.item ∈ items admits scores
        · rw [if_pos hi]
          rfl
        · have hno : ¬ ∃ x ∈ scores, x.item = s.item := fun h =>
            hi ((mem_items admits).2 ⟨h, ha⟩)
          rw [if_neg hi, sum_eq_zero weight hno]
          rfl
      · have hni : s.item ∉ items admits scores := fun h => ha ((mem_items admits).1 h).2
        have hni' : s.item ∉ items admits (scores ++ [s]) := fun h =>
          ha ((mem_items admits).1 h).2
        rw [if_neg ha, ih, if_neg hni, if_neg hni']
    · have hiff : item ∈ items admits (scores ++ [s]) ↔ item ∈ items admits scores :=
        hmem.trans (or_iff_left fun h => hs h.1)
      have hget : (if admits s.item then (addList admits weight .empty scores).alter s.item
            fun sum => sum.getD (.zero false) + s.value * weight
          else addList admits weight .empty scores).get? item =
          (addList admits weight .empty scores).get? item := by
        split
        · rw [Keyed.get?_alter hrising, if_neg (Ne.symm hs)]
        · rfl
      rw [hget, ih, if_neg hs]
      simp only [hiff]

/-- The entries of a tally are the admitted items with their sums. -/
theorem entries_addList_perm (scores : List Score) :
    (addList admits weight .empty scores).entries.Perm
      ((items admits scores).map fun item => (item, sum weight scores item)) := by
  have hrising : Keyed.Rising (addList admits weight .empty scores).entries :=
    rising_addList admits weight Keyed.rising_empty scores
  have hnodup : (addList admits weight .empty scores).entries.Nodup :=
    List.Nodup.of_map _ hrising.nodup_keys
  have hnodup' : ((items admits scores).map fun item => (item, sum weight scores item)).Nodup :=
    List.Nodup.of_map Prod.fst (by
      rw [List.map_map]
      exact (List.map_id' (items admits scores)).symm ▸ nodup_items admits scores)
  rw [List.perm_ext_iff_of_nodup hnodup hnodup']
  rintro ⟨item, value⟩
  rw [Keyed.mem_entries hrising, get?_addList, List.mem_map]
  split <;> aesop

theorem ofLists_eq_addList (lists : List (List Score)) :
    ofLists admits weight lists = addList admits weight .empty lists.flatten :=
  List.foldl_flatten.symm

/-- The items of the first entries of a sorted list of weighted items, ranked as scores. -/
theorem items_pushAll_empty (k : Nat) (es : List (String × Binary64)) :
    ((TopK.empty k).pushAll (es.map fun e => ⟨e.1, e.2⟩)).items =
      ((Score.sort (es.map fun e => ⟨e.1, e.2⟩)).map (·.item)).take k := by
  have hmap : es.map (fun e => (⟨e.1, e.2⟩ : Score)) =
      (es.map fun e => (⟨e.1, e.2⟩ : Weighted String)).map fun e => ⟨e.item, e.weight⟩ := by
    rw [List.map_map]
    rfl
  have hsort := List.map_mergeSort (l := es.map fun e => (⟨e.1, e.2⟩ : Weighted String))
    (r := fun a b => (a.order b).isLE) (s := fun a b => (Score.order a b).isLE)
    (f := fun e => (⟨e.item, e.weight⟩ : Score)) (fun _ _ _ _ => rfl)
  rw [TopK.items, TopK.entries_pushAll_empty, Score.sort, hmap, ← hsort, List.map_map,
    List.map_take]
  rfl

/-- The best items of a tally, its entries pushed in any order, are the first of the ranking. -/
theorem items_pushAll_of_perm (k : Nat) (lists : List (List Score)) {es : List (String × Binary64)}
    (hp : es.Perm (ofLists admits weight lists).entries) :
    ((TopK.empty k).pushAll (es.map fun e => ⟨e.1, e.2⟩)).items =
      (ranking admits weight lists.flatten).take k := by
  have hes : (es.map fun e => (⟨e.1, e.2⟩ : Score)).Perm
      ((items admits lists.flatten).map fun item => ⟨item, sum weight lists.flatten item⟩) := by
    rw [ofLists_eq_addList] at hp
    have := (hp.trans (entries_addList_perm admits weight lists.flatten)).map
      fun e => (⟨e.1, e.2⟩ : Score)
    rwa [List.map_map] at this
  rw [items_pushAll_empty, ranking, Score.sort_eq_of_perm hes]

theorem best_ofLists (k : Nat) (lists : List (List Score)) :
    best k (ofLists admits weight lists) = (ranking admits weight lists.flatten).take k :=
  items_pushAll_of_perm admits weight k lists (List.Perm.refl _)

end Tally

end SimilarItems.Recommend
