import Mathlib.Data.String.Basic
import SimilarItems.Keyed

/-!
# Keyed values as finite maps

A collection is built by rising keys, and its entries are then those of a finite map: the value of a
key is what was last made of it, and nothing else changes.
-/

namespace SimilarItems.Keyed

variable {α : Type}

/-- The keys of the entries rise strictly. -/
def Rising (es : List (String × α)) : Prop := es.Pairwise fun a b => a.1 < b.1

theorem rising_empty : Rising (empty : Keyed α).entries := List.Pairwise.nil

theorem Rising.nodup_keys {m : Keyed α} (h : Rising m.entries) : m.keys.Nodup :=
  (List.pairwise_map.2 h).imp fun hab => ne_of_lt hab

theorem Rising.nodup {es : List (String × α)} (h : Rising es) : es.Nodup :=
  h.imp fun hab heq => hab.ne (congrArg Prod.fst heq)

theorem lookup_eq_none {key : String} {es : List (String × α)} (h : ∀ e ∈ es, key < e.1) :
    es.lookup key = none := by
  rw [List.lookup_eq_none_iff]
  intro e he
  simpa using ne_of_lt (h e he)

theorem lookup_cons_eq (k : String) (e : String × α) (es : List (String × α)) :
    (e :: es).lookup k = if k = e.1 then some e.2 else es.lookup k := by
  rw [List.lookup_cons]
  by_cases hk : k = e.1
  · rw [if_pos hk, beq_iff_eq.2 hk]
  · rw [if_neg hk, beq_eq_false_iff_ne.2 hk]

theorem lookup_alterEntries {key k : String} {f : Option α → α} {es : List (String × α)}
    (h : Rising es) :
    (alterEntries key f es).lookup k =
      if k = key then some (f (es.lookup key)) else es.lookup k := by
  induction es with
  | nil => rw [alterEntries, lookup_cons_eq]; rfl
  | cons e es ih =>
    obtain ⟨he, hes⟩ := List.pairwise_cons.1 h
    rw [alterEntries]
    cases hc : compare key e.1 with
    | lt =>
      have hlt : key < e.1 := compare_lt_iff_lt.1 hc
      have hnone : (e :: es).lookup key = none :=
        lookup_eq_none (List.forall_mem_cons.2 ⟨hlt, fun x hx => hlt.trans (he x hx)⟩)
      rw [hnone, lookup_cons_eq]
    | eq =>
      have heq : key = e.1 := compare_eq_iff_eq.1 hc
      subst heq
      rw [lookup_cons_eq, lookup_cons_eq, lookup_cons_eq, if_pos rfl]
      split <;> rfl
    | gt =>
      have hgt : e.1 < key := compare_gt_iff_gt.1 hc
      have hne : key ≠ e.1 := ne_of_gt hgt
      rw [lookup_cons_eq, lookup_cons_eq, lookup_cons_eq, ih hes, if_neg hne]
      by_cases hk : k = e.1
      · have hkk : k ≠ key := hk ▸ hne.symm
        rw [if_pos hk, if_neg hkk, if_pos hk]
      · rw [if_neg hk, if_neg hk]

theorem key_of_mem_alterEntries {key : String} {f : Option α → α} {es : List (String × α)}
    {e : String × α} (h : e ∈ alterEntries key f es) : e.1 = key ∨ ∃ e' ∈ es, e'.1 = e.1 := by
  induction es with
  | nil =>
    rw [alterEntries, List.mem_singleton] at h
    exact Or.inl (by rw [h])
  | cons x xs ih =>
    rw [alterEntries] at h
    cases hc : compare key x.1 with
    | lt =>
      rw [hc] at h
      rcases List.mem_cons.1 h with rfl | h
      · exact Or.inl rfl
      · exact Or.inr ⟨e, h, rfl⟩
    | eq =>
      rw [hc] at h
      rcases List.mem_cons.1 h with rfl | h
      · exact Or.inl rfl
      · exact Or.inr ⟨e, List.mem_cons_of_mem _ h, rfl⟩
    | gt =>
      rw [hc] at h
      rcases List.mem_cons.1 h with rfl | h
      · exact Or.inr ⟨e, List.mem_cons_self, rfl⟩
      · rcases ih h with h | ⟨e', he', h'⟩
        · exact Or.inl h
        · exact Or.inr ⟨e', List.mem_cons_of_mem _ he', h'⟩

theorem rising_alterEntries {key : String} {f : Option α → α} {es : List (String × α)}
    (h : Rising es) : Rising (alterEntries key f es) := by
  induction es with
  | nil => exact List.pairwise_singleton _ _
  | cons e es ih =>
    obtain ⟨he, hes⟩ := List.pairwise_cons.1 h
    rw [alterEntries]
    cases hc : compare key e.1 with
    | lt =>
      have hlt : key < e.1 := compare_lt_iff_lt.1 hc
      refine List.pairwise_cons.2 ⟨?_, h⟩
      exact List.forall_mem_cons.2 ⟨hlt, fun x hx => hlt.trans (he x hx)⟩
    | eq =>
      have heq : key = e.1 := compare_eq_iff_eq.1 hc
      exact List.pairwise_cons.2 ⟨heq ▸ he, hes⟩
    | gt =>
      have hgt : e.1 < key := compare_gt_iff_gt.1 hc
      refine List.pairwise_cons.2 ⟨fun x hx => ?_, ih hes⟩
      rcases key_of_mem_alterEntries hx with hx | ⟨x', hx', heq⟩
      · rw [hx]
        exact hgt
      · rw [← heq]
        exact he x' hx'

theorem get?_alter {m : Keyed α} (h : Rising m.entries) (key k : String) (f : Option α → α) :
    (m.alter key f).get? k = if k = key then some (f (m.get? key)) else m.get? k :=
  lookup_alterEntries h

theorem rising_alter {m : Keyed α} (h : Rising m.entries) (key : String) (f : Option α → α) :
    Rising (m.alter key f).entries :=
  rising_alterEntries h

theorem get?_insert {m : Keyed α} (h : Rising m.entries) (key k : String) (value : α) :
    (m.insert key value).get? k = if k = key then some value else m.get? k :=
  get?_alter h key k _

theorem mem_keys {m : Keyed α} {key : String} : key ∈ m.keys ↔ (m.get? key).isSome := by
  obtain ⟨es⟩ := m
  change key ∈ es.map (·.1) ↔ (es.lookup key).isSome
  induction es with
  | nil => simp
  | cons e es ih =>
    rw [List.map_cons, List.mem_cons, lookup_cons_eq, ih]
    split <;> simp_all

/-- In a list with one entry for each key, looking up finds each entry. -/
theorem lookup_eq_some_iff_mem {es : List (String × α)} (h : (es.map (·.1)).Nodup)
    {e : String × α} : es.lookup e.1 = some e.2 ↔ e ∈ es := by
  induction es with
  | nil => simp
  | cons x es ih =>
    rw [List.map_cons, List.nodup_cons] at h
    rw [lookup_cons_eq, List.mem_cons]
    by_cases hk : e.1 = x.1
    · have hnone : e ∉ es := fun he => h.1 (hk ▸ List.mem_map_of_mem he)
      rw [if_pos hk, or_iff_left hnone, Option.some_inj]
      exact ⟨fun hvalue => Prod.ext hk hvalue.symm, fun he => by rw [he]⟩
    · have hne : e ≠ x := fun he => hk (by rw [he])
      rw [if_neg hk, ih h.2, or_iff_right hne]

theorem mem_entries {m : Keyed α} (h : Rising m.entries) {e : String × α} :
    e ∈ m.entries ↔ m.get? e.1 = some e.2 :=
  (lookup_eq_some_iff_mem h.nodup_keys).symm

/-- Collections with the same entries are equal. -/
theorem eq_of_mem_iff {m m' : Keyed α} (h : Rising m.entries) (h' : Rising m'.entries)
    (hmem : ∀ e, e ∈ m.entries ↔ e ∈ m'.entries) : m = m' := by
  obtain ⟨es⟩ := m
  obtain ⟨es'⟩ := m'
  have hperm : es.Perm es' :=
    (List.perm_ext_iff_of_nodup (Rising.nodup h) (Rising.nodup h')).2 hmem
  have heq : es = es' := hperm.eq_of_pairwise (fun a b _ _ hab hba => absurd hba hab.not_gt) h h'
  rw [heq]

section OfList

/-- Values put in one after another. -/
def insertAll (m : Keyed α) (es : List (String × α)) : Keyed α :=
  es.foldl (fun m e => m.insert e.1 e.2) m

theorem rising_insertAll {m : Keyed α} (h : Rising m.entries) (es : List (String × α)) :
    Rising (m.insertAll es).entries := by
  induction es generalizing m with
  | nil => exact h
  | cons e es ih => exact ih (rising_alter h _ _)

theorem get?_insertAll {m : Keyed α} (h : Rising m.entries) (es : List (String × α))
    (key : String) :
    (m.insertAll es).get? key = (es.reverse.lookup key).or (m.get? key) := by
  induction es generalizing m with
  | nil => simp [insertAll]
  | cons e es ih =>
    have hstep := ih (rising_alter h e.1 fun _ => e.2)
    rw [insertAll, List.foldl_cons]
    refine hstep.trans ?_
    rw [get?_alter h, List.reverse_cons, List.lookup_append, lookup_cons_eq, Option.or_assoc]
    by_cases hk : key = e.1
    · rw [if_pos hk, if_pos hk, Option.some_or]
    · rw [if_neg hk, if_neg hk, List.lookup_nil, Option.none_or]

theorem rising_ofList (es : List (String × α)) : Rising (ofList es).entries :=
  rising_insertAll rising_empty es

/-- The last of several values under one key counts. -/
theorem get?_ofList (es : List (String × α)) (key : String) :
    (ofList es).get? key = es.reverse.lookup key := by
  refine (get?_insertAll rising_empty es key).trans ?_
  simp [get?, empty]

/-- The collection of its own entries, in any order. -/
theorem ofList_of_perm {m : Keyed α} (h : Rising m.entries) {es : List (String × α)}
    (hes : es.Perm m.entries) : ofList es = m := by
  refine eq_of_mem_iff (rising_ofList es) h fun e => ?_
  have hnodup : (es.reverse.map (·.1)).Nodup :=
    (((List.reverse_perm es).trans hes).map _).nodup_iff.2 h.nodup_keys
  rw [mem_entries (rising_ofList es), get?_ofList, lookup_eq_some_iff_mem hnodup, List.mem_reverse,
    hes.mem_iff]

end OfList

end SimilarItems.Keyed
