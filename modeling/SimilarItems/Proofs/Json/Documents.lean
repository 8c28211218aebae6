import SimilarItems.CandidateSet
import SimilarItems.Feedback
import SimilarItems.Proofs.Instant.Lenient
import SimilarItems.Proofs.Json.Record
import SimilarItems.Proofs.Json.RoundTrip

/-!
# Documents that are read back

The compact text of a feedback event or of a candidate set is read as what it was written from. Texts
may have any characters, an event any instant that a clock shows, but none in a leap second before the
end of a minute, and the categories of a set may be written in any order.
-/

namespace SimilarItems

/-! ## Feedback -/

namespace Feedback

theorem number_notMem_tokens (f : Feedback) (n : Json.Number) : .number n ∉ f.toJson.tokens := by
  simp [toJson, Instant.toJson, Json.fields, Json.text, Json.tokens, Json.memberTokens]

theorem ofJson?_toJson (f : Feedback) :
    ofJson? f.toJson = (Instant.ofLenient? f.given.zulu).map fun t => { f with given := t } := by
  have hrecord : f.toJson.record? ["user_id", "item_id", "feedback_type", "timestamp"] =
      some ⟨[("user_id", .text f.user), ("item_id", .text f.item),
        ("feedback_type", .text f.type), ("timestamp", f.given.toJson)]⟩ :=
    Json.record?_fields rfl (by decide)
  rw [ofJson?, hrecord]
  simp only [Option.bind_eq_bind, Option.bind_some, Record.required?_cons, String.reduceEq, if_true,
    if_false, Json.text, Json.text?, Instant.ofJson?, Instant.toJson]
  cases Instant.ofLenient? f.given.zulu <;> rfl

theorem parse?_compact (f : Feedback) : Json.parse? f.toJson.compact = some f.toJson :=
  Json.parse?_compact fun n hn => absurd hn (f.number_notMem_tokens n)

/-- An event is read back exactly if a clock shows its instant. -/
theorem restored_iff (f : Feedback) :
    (Json.parse? f.toJson.compact).bind ofJson? = some f ↔ f.given.OnClock := by
  rw [parse?_compact, Option.bind_some, ofJson?_toJson, ← Instant.ofLenient?_zulu_iff,
    Option.map_eq_some_iff]
  constructor
  · rintro ⟨t, ht, heq⟩
    rw [ht, ← heq]
  · intro h
    exact ⟨f.given, h, rfl⟩

end Feedback

/-! ## Candidate sets -/

namespace CandidateSet

/-- The lists of categories as a JSON value, in the order in which they are given. -/
def listsJson (ls : List (String × List String)) : Json := .fields (ls.map fun l => (l.1, .texts l.2))

theorem number_notMem_texts (ss : List String) (n : Json.Number) :
    .number n ∉ (Json.texts ss).tokens := by
  intro h
  have hmem : .number n ∈ Json.elementTokens (ss.map Json.text) := by
    simpa [Json.texts, Json.tokens] using h
  rcases Json.mem_elementTokens hmem with hcomma | ⟨j, hj, hn⟩
  · cases hcomma
  · obtain ⟨s, -, rfl⟩ := List.mem_map.1 hj
    simp [Json.text, Json.tokens] at hn

theorem number_notMem_tokens (ls : List (String × List String)) (n : Json.Number) :
    .number n ∉ (listsJson ls).tokens := by
  intro h
  have hmem : .number n ∈ Json.memberTokens
      ((ls.map fun l => (l.1, Json.texts l.2)).map fun m => (some m.1, m.2)) := by
    simpa [listsJson, Json.fields, Json.tokens] using h
  obtain ⟨m, hm, hn⟩ := Json.exists_of_number_mem_memberTokens hmem
  rw [List.map_map] at hm
  obtain ⟨l, -, rfl⟩ := List.mem_map.1 hm
  exact number_notMem_texts l.2 n hn

theorem ofJson?_listsJson (ls : List (String × List String)) :
    ofJson? (listsJson ls) = some (ofLists ls) := by
  have hlists : ((ls.map fun l => (l.1, Json.texts l.2)).mapM fun m =>
      (m.2.list? Json.text?).map fun items => (m.1, items)) = some ls := by
    refine mapM_map_of_forall (fun l => ?_) ls
    rw [Json.list?_texts, Option.map_some]
  rw [ofJson?, listsJson, Json.members?_fields]
  simp only [Option.bind_eq_bind, Option.bind_some, hlists]

theorem parse?_compact (ls : List (String × List String)) :
    Json.parse? (listsJson ls).compact = some (listsJson ls) :=
  Json.parse?_compact fun n hn => absurd hn (number_notMem_tokens ls n)

/-- A set that lists were put into, one after the other. -/
def Built (s : CandidateSet) : Prop := ∃ ls, s = ofLists ls

/-- A set is read back from its categories in any order. -/
theorem restored_iff (s : CandidateSet) {ls : List (String × List String)}
    (hls : ls.Perm s.lists.entries) :
    (Json.parse? (listsJson ls).compact).bind ofJson? = some s ↔ s.Built := by
  rw [parse?_compact, Option.bind_some, ofJson?_listsJson, Option.some_inj]
  constructor
  · intro heq
    exact ⟨ls, heq.symm⟩
  · rintro ⟨built, rfl⟩
    have hrising : Keyed.Rising (ofLists built).lists.entries := Keyed.rising_ofList built
    rw [ofLists, Keyed.ofList_of_perm hrising hls]

end CandidateSet

/-! ## Documents -/

/-- Events and sets are read back from their compact texts: an event exactly if its instant is one that
a clock shows, in whatever year, and a set exactly if it can be built at all, in whatever order its
categories are written. -/
theorem documents_restored :
    (∀ f : Feedback,
      (Json.parse? f.toJson.compact).bind Feedback.ofJson? = some f ↔ f.given.OnClock) ∧
    ∀ s : CandidateSet, s.toJson = CandidateSet.listsJson s.lists.entries ∧
      ∀ ls, ls.Perm s.lists.entries →
        ((Json.parse? (CandidateSet.listsJson ls).compact).bind CandidateSet.ofJson? = some s ↔
          s.Built) := by
  refine ⟨Feedback.restored_iff, fun s => ⟨rfl, ?_⟩⟩
  intro ls hls
  exact s.restored_iff hls

/-- An event at the end of all years, inside a leap second. -/
def lastEvent : Feedback := ⟨"\x00\"\\", "\n", "", ⟨8210266876799, 1999999999⟩⟩

/-- An event at their beginning. -/
def firstEvent : Feedback := ⟨"", "ü", "like", ⟨-8334601228800, 1⟩⟩

/-- Lists of three categories, one of them without a name and one without items. -/
def threeLists : CandidateSet :=
  .ofLists [("shoes", []), ("", ["c"]), ("\"", ["\x00"]), ("", ["b", "a", "b"])]

/-- The ends of the years are written with their signs, and a set is read back from its categories in
another order. -/
theorem documents_restored_extremes :
    lastEvent.toJson.compact = "\x7b\"user_id\":\"\\u0000\\\"\\\\\",\"item_id\":\"\\n\"," ++
      "\"feedback_type\":\"\",\"timestamp\":\"+262142-12-31T23:59:60.999999999Z\"\x7d" ∧
    firstEvent.given.zulu = "-262143-01-01T00:00:00.000000001Z" ∧
    (Json.parse? lastEvent.toJson.compact).bind Feedback.ofJson? = some lastEvent ∧
    (Json.parse? firstEvent.toJson.compact).bind Feedback.ofJson? = some firstEvent ∧
    [("shoes", []), ("\"", ["\x00"]), ("", ["b", "a", "b"])].Perm threeLists.lists.entries ∧
    (Json.parse? (CandidateSet.listsJson
      [("shoes", []), ("\"", ["\x00"]), ("", ["b", "a", "b"])]).compact).bind
        CandidateSet.ofJson? = some threeLists := by
  obtain ⟨hevents, hsets⟩ := documents_restored
  obtain ⟨-, hread⟩ := hsets threeLists
  have hperm : [("shoes", []), ("\"", ["\x00"]), ("", ["b", "a", "b"])].Perm
      threeLists.lists.entries := by decide +kernel
  refine ⟨by decide +kernel, by decide +kernel, ?_, ?_, hperm, ?_⟩
  · exact (hevents lastEvent).2 (by decide +kernel)
  · exact (hevents firstEvent).2 (by decide +kernel)
  · exact (hread _ hperm).2 ⟨_, rfl⟩

/-- An event in a leap second that does not end a minute. -/
def earlyLeapEvent : Feedback := ⟨"u", "i", "like", ⟨0, 1500000000⟩⟩

/-- An event may be given in a leap second after any second. Unless that ends a minute, the event is
read back as one of the second after it. -/
theorem not_forall_feedback_restored :
    earlyLeapEvent.given.Possible ∧
      earlyLeapEvent.toJson.compact = "\x7b\"user_id\":\"u\",\"item_id\":\"i\"," ++
        "\"feedback_type\":\"like\",\"timestamp\":\"1970-01-01T00:00:01.500Z\"\x7d" ∧
      (Json.parse? earlyLeapEvent.toJson.compact).bind Feedback.ofJson? =
        some { earlyLeapEvent with given := ⟨1, 500000000⟩ } ∧
      ¬ ∀ f : Feedback, f.given.Possible →
        (Json.parse? f.toJson.compact).bind Feedback.ofJson? = some f := by
  have hpossible : earlyLeapEvent.given.Possible := by decide +kernel
  have hread : (Json.parse? earlyLeapEvent.toJson.compact).bind Feedback.ofJson? =
      some { earlyLeapEvent with given := ⟨1, 500000000⟩ } := by decide +kernel
  refine ⟨hpossible, by decide +kernel, hread, fun h => ?_⟩
  have hsame := h earlyLeapEvent hpossible
  rw [hread] at hsame
  revert hsame
  decide

end SimilarItems
