import SimilarItems.Proofs.Failure
import SimilarItems.Proofs.Instant.Rfc3339
import SimilarItems.Proofs.Json.Restored
import SimilarItems.Store.Row

/-!
# What is read back of a row

The vector of a row that was written is always read back, component by component. So a row is read
back exactly if its instant is.
-/

namespace SimilarItems

namespace Embedding

theorem ofReal_of_isFinite {x : Binary64} (hx : x.isFinite) :
    Json.ofReal x = .number (.ofBinary64 x) := by
  rw [Json.ofReal, if_pos hx]

theorem wellFormed_of_mem_tokens {vector : List Binary64} (hfinite : ∀ x ∈ vector, x.isFinite)
    {n : Json.Number} (h : .number n ∈ (vectorJson vector).tokens) : n.WellFormed := by
  have helements : .number n ∈ Json.elementTokens (vector.map .ofReal) := by
    simpa [vectorJson, Json.tokens] using h
  rcases Json.mem_elementTokens helements with hcomma | ⟨e, he, hn⟩
  · cases hcomma
  · obtain ⟨x, hx, rfl⟩ := List.mem_map.1 he
    rw [ofReal_of_isFinite (hfinite x hx), Json.tokens, List.mem_singleton] at hn
    cases hn
    exact Json.Number.wellFormed_ofBinary64 x

/-- A finite vector is read back, and each of its components is restored. -/
theorem exists_vectorOfJson? {vector : List Binary64} (hfinite : ∀ x ∈ vector, x.isFinite) :
    ∃ w, vectorOfJson? (vectorJson vector) = some w ∧
      List.Forall₂ Json.Number.Restores vector w := by
  change ∃ w, (vector.map Json.ofReal).mapM Json.real? = some w ∧ _
  induction vector with
  | nil => exact ⟨[], rfl, .nil⟩
  | cons x vector ih =>
    have hx := hfinite x List.mem_cons_self
    obtain ⟨y, hy⟩ := Json.Number.exists_toBinary64?_ofBinary64 hx
    obtain ⟨w, hw, hrestores⟩ := ih fun z hz => hfinite z (List.mem_cons_of_mem x hz)
    refine ⟨y :: w, ?_, .cons (Json.Number.restores_of_toBinary64? hx hy) hrestores⟩
    rw [List.map_cons, List.mapM_cons, ofReal_of_isFinite hx, Json.real?, hy, hw]
    rfl

end Embedding

namespace Row

theorem encodeVector_eq_ok {item text : String} {vector : List Binary64} :
    encodeVector item vector = .ok text ↔
      (∀ x ∈ vector, x.isFinite) ∧ text = (Embedding.vectorJson vector).compact := by
  have hnone : (vector.findIdx? fun x => !x.isFinite) = none ↔ ∀ x ∈ vector, x.isFinite := by
    rw [List.findIdx?_eq_none_iff]
    simp
  rw [encodeVector, ← hnone]
  cases vector.findIdx? fun x => !x.isFinite with
  | none => simp [eq_comm]
  | some position => simp

/-- The text of a vector is read back, and each of its components is restored. -/
theorem exists_decodeVector {item text : String} {vector : List Binary64}
    (h : encodeVector item vector = .ok text) :
    ∃ w, decodeVector item text = .ok w ∧ List.Forall₂ Json.Number.Restores vector w := by
  obtain ⟨hfinite, rfl⟩ := encodeVector_eq_ok.1 h
  have hparse : Json.parse? (Embedding.vectorJson vector).compact =
      some (Embedding.vectorJson vector) :=
    Json.parse?_compact fun n hn => Embedding.wellFormed_of_mem_tokens hfinite hn
  obtain ⟨w, hw, hrestores⟩ := Embedding.exists_vectorOfJson? hfinite
  refine ⟨w, ?_, hrestores⟩
  rw [decodeVector, hparse, Option.bind_some, hw]

/-- Whatever text a row has for its vector, what is read of it is finite. -/
theorem isFinite_of_decodeVector {item text : String} {vector : List Binary64}
    (h : decodeVector item text = .ok vector) : ∀ x ∈ vector, x.isFinite := by
  rw [decodeVector] at h
  split at h
  · rename_i hread
    cases h
    obtain ⟨j, -, hj⟩ := Option.bind_eq_some_iff.1 hread
    cases j with
    | array elements =>
      intro x hx
      obtain ⟨e, -, he⟩ := exists_of_mem_mapM (f := Json.real?) hj hx
      cases e with
      | number n => exact Json.Number.isFinite_of_toBinary64? he
      | _ => cases he
    | _ => cases hj
  · cases h

variable {e : Embedding} {r : Row}

/-- A written row is read back if its instant is, with what is read of the instant. -/
theorem exists_toEmbedding (h : ofEmbedding e = .ok r) {t : Instant}
    (ht : Instant.ofRfc3339? e.updated.rfc3339 = some t) :
    ∃ w, r.toEmbedding = .ok ⟨e.item, w, t⟩ ∧ w.length = e.vector.length := by
  obtain ⟨text, htext, rfl⟩ := map_eq_ok.1 h
  obtain ⟨w, hw, hrestores⟩ := exists_decodeVector htext
  refine ⟨w, bind_eq_ok.2 ⟨w, hw, bind_eq_ok.2 ⟨t, ?_, rfl⟩⟩, hrestores.length_eq.symm⟩
  rw [decodeInstant, encodeInstant, ht]

/-- A written row cannot be read if its instant cannot. -/
theorem toEmbedding_eq_error (h : ofEmbedding e = .ok r)
    (ht : Instant.ofRfc3339? e.updated.rfc3339 = none) :
    r.toEmbedding = .error (.invalidInstant e.item) := by
  obtain ⟨text, htext, rfl⟩ := map_eq_ok.1 h
  obtain ⟨w, hw, -⟩ := exists_decodeVector htext
  refine bind_eq_error.2 (.inr ⟨w, hw, bind_eq_error.2 (.inl ?_)⟩)
  rw [decodeInstant, encodeInstant, ht]

end Row

end SimilarItems
