import SimilarItems.Json.Record
import SimilarItems.Proofs.Keyed

/-!
# Records out of JSON

What is read of an object that gives all fields of a record, each once.
-/

namespace SimilarItems

/-- If each element is read back from what is made of it, so is the list. -/
theorem mapM_map_of_forall {α β : Type} {f : α → β} {g : β → Option α}
    (h : ∀ a, g (f a) = some a) (l : List α) : (l.map f).mapM g = some l := by
  have hcomp : g ∘ f = fun a => pure (id a) := funext h
  rw [List.mapM_map, hcomp, List.mapM_pure, List.map_id]
  rfl

namespace Record

variable {α β : Type}

/-- A field is looked for from the first one on. -/
theorem required?_cons (name other : String) (a : α) (given : List (String × α))
    (f : α → Option β) :
    (⟨(other, a) :: given⟩ : Record α).required? name f =
      if name = other then f a else (⟨given⟩ : Record α).required? name f := by
  rw [required?, required?, get?, get?, Keyed.lookup_cons_eq]
  split
  · rfl
  · rfl

end Record

namespace Json

theorem members?_fields (ms : List (String × Json)) : (fields ms).members? = some ms :=
  mapM_map_of_forall (f := fun m : String × Json => (some m.1, m.2))
    (g := fun m => m.1.map fun k => (k, m.2)) (fun _ => rfl) ms

theorem record?_fields {names : List String} {ms : List (String × Json)}
    (hnames : ms.map (·.1) = names) (hnodup : names.Nodup) :
    (fields ms).record? names = some ⟨ms⟩ := by
  have hgiven : (ms.filter fun m => names.contains m.1) = ms := by
    refine List.filter_eq_self.2 fun m hm => ?_
    rw [List.contains_iff_mem, ← hnames]
    exact List.mem_map_of_mem hm
  have hmembers := members?_fields ms
  unfold fields at hmembers ⊢
  simp only [record?, hmembers, Option.bind_eq_bind, Option.bind_some, hgiven, hnames, if_pos hnodup]

theorem list?_texts (ss : List String) : (texts ss).list? text? = some ss :=
  mapM_map_of_forall (f := text) (g := text?) (fun _ => rfl) ss

end Json

end SimilarItems
