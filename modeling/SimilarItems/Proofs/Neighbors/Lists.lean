import SimilarItems.Proofs.Neighbors.Bookkeeping
import SimilarItems.Proofs.Neighbors.Lines
import SimilarItems.Proofs.Store.Nearest

/-!
# Which lists a run hands over

Every list that a run hands to its receiver is what the store answers as the receiver has left it by
then. So in a run over a store of accepted writes, a list is loaded again from its line exactly if no
dot product in it has overflowed.
-/

namespace SimilarItems.Neighbors

variable {σ : Type} {receiver : Receiver σ} {n : Nat} {s : Store} {memory : σ}

/-- The lists are what the store answers, each as the receiver has left the store by then. -/
def Drawn (receiver : Receiver σ) (n : Nat) (s : Store) (memory : σ)
    (lists : List (String × List Score)) : Prop :=
  ∀ before item scores after, lists = before ++ (item, scores) :: after →
    ∃ found, (History.after s (receiver.changes memory before)).store.similar item n = .ok found ∧
      found.scores = scores

theorem Drawn.append {lists : List (String × List Score)} (h : Drawn receiver n s memory lists)
    {item : String} {found : Nearest}
    (hfound : (History.after s (receiver.changes memory lists)).store.similar item n = .ok found) :
    Drawn receiver n s memory (lists ++ [(item, found.scores)]) := by
  intro before x scores after heq
  rcases append_singleton_eq_append_cons.1 heq with ⟨rfl, hlast, rfl⟩ | ⟨after, rfl, rfl⟩
  · cases hlast
    exact ⟨found, hfound, rfl⟩
  · exact h before x scores after rfl

/-- The lists that a run handed to its receiver: those that it took, and one that it refused, if that
stopped the run. -/
inductive Progress.Handed (receiver : Receiver σ) (memory : σ) (p : Progress σ) :
    Ending → List (String × List Score) → Prop where
  | taken {ending : Ending} (h : ∀ item text, ending ≠ .stopped (.sink item text)) :
      Handed receiver memory p ending p.delivered
  | refused (item : String) (scores : List Score) (text : String)
      (h : (receiver (receiver.memoryAfter memory p.delivered) item scores).refusal = some text) :
      Handed receiver memory p (.stopped (.sink item text)) (p.delivered ++ [(item, scores)])

namespace Ran

variable {cancelled : Bool} {visits : List (Visit σ)} {p : Progress σ} {stop : Option RunError}

theorem drawn (h : Ran receiver n (.start s cancelled memory) visits p stop) :
    Drawn receiver n s memory (listsHanded receiver n visits) := by
  induction h with
  | start =>
    intro before item scores after heq
    cases before <;> cases heq
  | turn v h hturn ih =>
    rw [listsHanded_append]
    cases hlist : (v.outcome receiver n).list? with
    | none =>
      rw [Option.map_none, Option.toList_none, List.append_nil]
      exact ih
    | some scores =>
      obtain ⟨-, hsimilar⟩ := Visit.of_list?_eq_some hlist
      obtain ⟨found, hfound, rfl⟩ := map_eq_ok.1 hsimilar
      rw [h.account.store_eq] at hfound
      exact ih.append hfound

theorem handed (h : Ran receiver n (.start s cancelled memory) visits p stop) {ending : Ending}
    (hcloses : Closes stop ending) :
    Progress.Handed receiver memory p ending (listsHanded receiver n visits) := by
  by_cases hsink : ∃ item text, stop = some (.sink item text)
  · obtain ⟨item, text, rfl⟩ := hsink
    cases hcloses
    have hdelivered := h.account.delivered_eq
    obtain ⟨before, v, rfl, hbefore, hturn⟩ := h.exists_last
    cases hturn with
    | refused found text hgoing hsimilar hrefusal =>
      have houtcome := Visit.outcome_of_refused hgoing hsimilar hrefusal
      have htaken : listsTaken receiver n (before ++ [v]) = listsHanded receiver n before := by
        rw [listsTaken_append, houtcome, hbefore.lists_eq fun item text heq => by cases heq]
        exact List.append_nil _
      rw [listsHanded_append, houtcome, ← htaken, ← hdelivered]
      refine .refused v.item found.scores text ?_
      rw [hdelivered, htaken, ← hbefore.account.memory_eq]
      exact hrefusal
  · have hne : ∀ item text, stop ≠ some (.sink item text) := fun item text heq =>
      hsink ⟨item, text, heq⟩
    rw [h.lists_eq hne, ← h.account.delivered_eq]
    refine .taken fun item text hending => ?_
    subst hending
    cases hcloses
    exact hne item text rfl

end Ran

/-! ## Lines of a run -/

/-- What holds of the line of a list that a store answers for an item. -/
structure Recorded (s : Store) (item : String) (scores : List Score) : Prop where
  /-- It is one JSON text, which has the item and the list. -/
  parses : ∃ text, Text.lines (line item scores).toList = [text] ∧
    Json.parse? (String.ofList text) = some (listJson item scores)
  /-- The scores are cosines of what the store has. -/
  compares : ∀ score ∈ scores, s.Compares item score
  /-- It is loaded again exactly if no dot product has overflowed. -/
  loads_iff : Loads item scores ↔ ∀ score ∈ scores, s.Bounded item score.item

theorem recorded_of_similar {t : Table} {item : String} {found : Nearest} (ht : s.reach = .ok t)
    (hn : t.Distinct) (hindex : s.index = .scan) (h : s.similar item n = .ok found) :
    Recorded s item found.scores := by
  have hcompares := Store.compares_of_similar ht hn hindex h
  refine ⟨⟨_, lines_line _ _, ?_⟩, hcompares, ?_⟩
  · rw [String.ofList_toList]
    exact parse?_listJson _ _
  · rw [loads_iff]
    constructor
    · intro hfinite score hscore
      exact (hcompares score hscore).isFinite_iff.1 (hfinite score hscore)
    · intro hbounded score hscore
      exact (hcompares score hscore).isFinite_iff.2 (hbounded score hscore)

namespace Plan

open Progress

/-- The lists that a run hands over are what the store answers. -/
theorem exists_handed {plan : Plan} {pages : Nat} {cancelled : Bool} {p' : Progress σ}
    {ending : Ending} (h : plan.run receiver pages (.start s cancelled memory) = (p', ending)) :
    ∃ lists, Handed receiver memory p' ending lists ∧
      Drawn receiver plan.neighbors s memory lists := by
  obtain ⟨stop, hcloses, hran, -⟩ := ran_pagesFrom .start rfl h
  exact ⟨_, hran.handed hcloses, hran.drawn⟩

/-- A run over a store of accepted writes hands over lists whose lines hold them, and each of them is
loaded again exactly if no dot product in it has overflowed. -/
theorem recorded_of_run {plan : Plan} {pages : Nat} {dimension : Option Nat}
    {changes : List Change} {cancelled : Bool} {p' : Progress σ} {ending : Ending}
    (h : plan.run receiver pages
      (.start (History.after (.empty dimension) changes).store cancelled memory) = (p', ending)) :
    ∃ lists, Handed receiver memory p' ending lists ∧
      ∀ before item scores after, lists = before ++ (item, scores) :: after →
        Recorded (History.after (.empty dimension)
          (changes ++ receiver.changes memory before)).store item scores := by
  obtain ⟨lists, hhanded, hdrawn⟩ := exists_handed h
  refine ⟨lists, hhanded, fun before item scores after hlists => ?_⟩
  obtain ⟨found, hfound, rfl⟩ := hdrawn before item scores after hlists
  rw [← History.store_after_append] at hfound
  have hempty : (Store.empty dimension).reach = .ok [] := rfl
  obtain ⟨t, hholds⟩ := History.holds_after hempty (changes ++ receiver.changes memory before)
  exact recorded_of_similar hholds.reach hholds.distinct (History.index_after _ _) hfound

/-- The number 1e200, whose square overflows. -/
def huge : Binary64 := .ofBits 0x6974e718d7d7625a

/-- An embedding, and two equal ones that are huge. -/
def hugePage : List Embedding :=
  [⟨"a", [.one], ⟨0, 0⟩⟩, ⟨"b", [huge], ⟨0, 0⟩⟩, ⟨"c", [huge], ⟨0, 0⟩⟩]

/-- Their writes. -/
def hugeChanges : List Change := hugePage.map .put

/-- The store after these writes. -/
def hugeStore : Store := (Store.empty none).withTable
  [⟨"a", "[1.0]", "1970-01-01T00:00:00+00:00"⟩, ⟨"b", "[1e+200]", "1970-01-01T00:00:00+00:00"⟩,
    ⟨"c", "[1e+200]", "1970-01-01T00:00:00+00:00"⟩]

/-- The lists of a run over it. -/
def hugeLists : List (String × List Score) :=
  [("a", [⟨"b", .zero false⟩, ⟨"c", .zero false⟩]), ("b", [⟨"a", .zero false⟩, ⟨"c", .nan true⟩]),
    ("c", [⟨"a", .zero false⟩, ⟨"b", .nan true⟩])]

/-- What the run knows at its end. -/
def hugeProgress : Progress Unit := ⟨hugeStore, false, (), ⟨3, 3, 0⟩, hugeLists, []⟩

theorem run_huge :
    run ⟨2, 0⟩ .accept 1 (.start (History.after (.empty none) hugeChanges).store false ()) =
      (hugeProgress, .completed) := by
  have hstore : (History.after (.empty none) hugeChanges).store = hugeStore := by decide +kernel
  have hscan : hugeStore.scan 0 none = .ok hugePage := by
    rw [Store.scan_of_rising rfl (by decide)]
    decide +kernel
  have hsteps : steps .accept 2 (.start hugeStore false ()) (hugePage.map (·.item)) =
      (hugeProgress, none) := by
    decide +kernel
  rw [hstore]
  exact pagesFrom_of_last hsteps hscan (by decide)

/-- The overflow of a norm does no harm, that of a dot product does. -/
theorem recorded_of_run_huge :
    run ⟨2, 0⟩ .accept 1 (.start (History.after (.empty none) hugeChanges).store false ()) =
        (hugeProgress, .completed) ∧
      Loads "a" [⟨"b", .zero false⟩, ⟨"c", .zero false⟩] ∧
      ¬ Loads "b" [⟨"a", .zero false⟩, ⟨"c", .nan true⟩] := by
  refine ⟨run_huge, ?_⟩
  obtain ⟨lists, hhanded, hrecorded⟩ := recorded_of_run run_huge
  cases hhanded with
  | taken =>
    constructor
    · rw [(hrecorded [] "a" _ _ rfl).loads_iff]
      decide +kernel
    · rw [(hrecorded [hugeLists.head (by decide)] "b" _ _ rfl).loads_iff]
      decide +kernel

/-- Two equal embeddings of one huge component have a cosine that is no number. -/
theorem not_loads_of_run :
    ¬ ∀ (plan : Plan) (pages : Nat) (changes : List Change) (p' : Progress Unit),
      plan.run .accept pages (.start (History.after (.empty none) changes).store false ()) =
        (p', .completed) → ∀ l ∈ p'.delivered, Loads l.1 l.2 := by
  intro h
  have hloads := h _ _ _ _ run_huge ("b", [⟨"a", .zero false⟩, ⟨"c", .nan true⟩]) (by decide)
  rw [loads_iff] at hloads
  revert hloads
  decide

end Plan

end SimilarItems.Neighbors
