import SimilarItems.Proofs.Neighbors.Lists
import SimilarItems.Proofs.Neighbors.Paging

/-!
# The text of a run

The text that a run writes has one line for each list that it hands over, in their order, and
nothing else. Each line holds one JSON object, and the item and the neighbors are read from it as
they are, whatever characters they have. So it is when a run is completed, when it is cancelled and
when the store fails: what was written before are whole lines.
-/

namespace SimilarItems.Neighbors

/-! ## Framed texts -/

/-- A text without line breaks that holds a list: it is an object with the item and with the listed
items and their scores, in order. -/
structure Holds (l : String × List Score) (content : String) : Prop where
  unbroken : '\n' ∉ content.toList
  parses : Json.parse? content = some (.fields [
    ("item_id", .text l.1),
    ("neighbors", .array (l.2.map fun x =>
      .fields [("id", .text x.item), ("score", .ofReal x.value)]))])

/-- A text is made of one line for each list, in order, that ends in a line feed. -/
def Framed (lists : List (String × List Score)) (text : String) : Prop :=
  ∃ contents : List String, List.Forall₂ Holds lists contents ∧
    text = String.join (contents.map (· ++ "\n")) ∧
    Text.lines text.toList = contents.map String.toList

theorem holds_compact (item : String) (scores : List Score) :
    Holds (item, scores) (listJson item scores).compact where
  unbroken := Json.newline_notMem_compact _
  parses := parse?_listJson item scores

theorem framed_nil : Framed [] "" := ⟨[], .nil, rfl, rfl⟩

theorem Framed.cons {lists : List (String × List Score)} {text : String} (h : Framed lists text)
    (item : String) (scores : List Score) :
    Framed ((item, scores) :: lists) (line item scores ++ text) := by
  obtain ⟨contents, hcontents, htext, hlines⟩ := h
  refine ⟨(listJson item scores).compact :: contents,
    .cons (holds_compact item scores) hcontents, ?_, ?_⟩
  · rw [List.map_cons, String.join_cons, ← htext]
    rfl
  · have hchars : (line item scores ++ text).toList =
        (listJson item scores).compact.toList ++ '\n' :: text.toList := by
      rw [line, String.toList_append, String.toList_append, List.append_assoc]
      rfl
    have hlast : (listJson item scores).compact.toList.getLast? ≠ some '\r' := by
      rw [listJson, Json.getLast?_compact_fields]
      decide
    rw [hchars, Text.lines_append_cons (Json.newline_notMem_compact _), Text.dropReturn,
      if_neg hlast, hlines, List.map_cons]

/-- The lines of lists, one after the other. -/
def linesOf (lists : List (String × List Score)) : String :=
  String.join (lists.map fun l => line l.1 l.2)

theorem framed_linesOf (lists : List (String × List Score)) : Framed lists (linesOf lists) := by
  induction lists with
  | nil => exact framed_nil
  | cons l lists ih =>
    rw [linesOf, List.map_cons, String.join_cons]
    exact ih.cons l.1 l.2

example : linesOf [("a\n\"", [⟨"\\", .one⟩]), ("", [])] =
    "\x7b\"item_id\":\"a\\n\\\"\",\"neighbors\":[\x7b\"id\":\"\\\\\",\"score\":1.0\x7d]\x7d\n" ++
      "\x7b\"item_id\":\"\",\"neighbors\":[]\x7d\n" := by
  decide +kernel

/-! ## Receivers that write -/

/-- The receiver writes every list down and takes it, whatever else it does to the store and to the
run. -/
structure Receiver.Records (receiver : Receiver Written) : Prop where
  adds : ∀ w item scores, (receiver w item scores).memory = w.add item scores
  takes : ∀ w item scores, (receiver w item scores).refusal = none

theorem records_writer (interrupted : Nat → Bool) : (writer interrupted).Records where
  adds _ _ _ := rfl
  takes _ _ _ := rfl

section Records

variable {receiver : Receiver Written} {n : Nat} {s : Store} {cancelled : Bool}

theorem Receiver.Records.memoryAfter_eq (h : receiver.Records) (w : Written)
    (lists : List (String × List Score)) :
    receiver.memoryAfter w lists = ⟨w.text ++ linesOf lists, w.lines + lists.length⟩ := by
  induction lists generalizing w with
  | nil =>
    rw [linesOf, List.map_nil, String.join_nil, String.append_empty]
    rfl
  | cons l lists ih =>
    have hstep : receiver.memoryAfter w (l :: lists) =
        receiver.memoryAfter (w.add l.1 l.2) lists := by
      rw [← h.adds]
      rfl
    rw [hstep, ih, Written.add, linesOf, linesOf, List.map_cons, String.join_cons,
      String.append_assoc, List.length_cons, Nat.add_assoc, Nat.add_comm 1]

variable {visits : List (Visit Written)} {p : Progress Written} {stop : Option RunError}

theorem Receiver.Records.not_sink (h : receiver.Records) {p₀ : Progress Written}
    (hran : Ran receiver n p₀ visits p stop) (item text : String) :
    stop ≠ some (.sink item text) := by
  rintro rfl
  obtain ⟨before, v, -, -, hturn⟩ := hran.exists_last
  cases hturn with
  | refused found text hgoing hsimilar hrefusal =>
    rw [h.takes] at hrefusal
    cases hrefusal

/-- The lists that were handed over are those that were taken, and their lines have been written. -/
theorem Receiver.Records.written_eq (h : receiver.Records)
    (hran : Ran receiver n (.start s cancelled .nothing) visits p stop) :
    p.delivered = listsHanded receiver n visits ∧
      p.memory = ⟨linesOf p.delivered, p.delivered.length⟩ := by
  have hlists : p.delivered = listsHanded receiver n visits := by
    rw [hran.lists_eq (h.not_sink hran), hran.account.delivered_eq]
  refine ⟨hlists, ?_⟩
  rw [hran.account.memory_eq, ← hlists, h.memoryAfter_eq]
  simp [Written.nothing]

end Records

namespace Plan

/-- However a run ends whose receiver writes the lists down, and whatever that does to the store and to
the run meanwhile, what is written is framed. -/
theorem framed_of_run {receiver : Receiver Written} (hrecords : receiver.Records) {plan : Plan}
    {pages : Nat} {s : Store} {cancelled : Bool} {p' : Progress Written} {ending : Ending}
    (h : plan.run receiver pages (.start s cancelled .nothing) = (p', ending)) :
    p'.delivered = listsHanded receiver plan.neighbors
        (plan.visits receiver pages (.start s cancelled .nothing)) ∧
      Drawn receiver plan.neighbors s .nothing p'.delivered ∧
      p'.memory.lines = p'.delivered.length ∧
      Framed p'.delivered p'.memory.text ∧
      ∀ item text, ending ≠ .stopped (.sink item text) := by
  obtain ⟨stop, hcloses, hran, -⟩ := Progress.ran_pagesFrom .start rfl h
  obtain ⟨hdelivered, hmemory⟩ := hrecords.written_eq hran
  refine ⟨hdelivered, ?_, ?_, ?_, ?_⟩
  · rw [hdelivered]
    exact hran.drawn
  · rw [hmemory]
  · rw [hmemory]
    exact framed_linesOf _
  · rintro item text rfl
    cases hcloses
    exact hrecords.not_sink hran item text rfl

theorem eq_cancel_of_mem_writer {interrupted : Nat → Bool} {w : Written} {item : String}
    {scores : List Score} {a : Action} (ha : a ∈ (writer interrupted w item scores).actions) :
    a = .cancel := by
  simp only [writer] at ha
  split at ha
  · exact List.mem_singleton.1 ha
  · cases ha

theorem writesOnly_writer (interrupted : Nat → Bool) (items : List String) :
    (writer interrupted).WritesOnly items := by
  intro w item scores a ha
  rw [eq_cancel_of_mem_writer ha]
  exact List.nil_subset items

theorem changes_writer (interrupted : Nat → Bool) (w : Written)
    (lists : List (String × List Score)) : (writer interrupted).changes w lists = [] := by
  refine List.flatMap_eq_nil_iff.2 (Receiver.forall_responses (fun w item scores => ?_) w lists)
  refine List.flatMap_eq_nil_iff.2 fun a ha => ?_
  rw [eq_cancel_of_mem_writer ha]
  rfl

/-- What the lists of an unchanged store are written down as is framed, whether all of them are written
or the run is cancelled or the store fails first, and the run always ends. -/
theorem write_framed (plan : Plan) (interrupted : Nat → Bool) (s : Store) :
    ∃ p' ending, plan.write interrupted s = (p', ending) ∧
      (ending = .completed ∨ (∃ visited, ending = .stopped (.cancelled visited)) ∨
        ∃ error, ending = .stopped (.store error)) ∧
      p'.delivered = listsHanded (writer interrupted) plan.neighbors
        (plan.visits (writer interrupted) (plan.pageBound (storedItems s).length)
          (.start s (interrupted 0) .nothing)) ∧
      Answers s plan.neighbors p'.delivered ∧
      p'.memory.lines = p'.delivered.length ∧
      Framed p'.delivered p'.memory.text := by
  obtain ⟨p', ending, hrun⟩ : ∃ p' ending, plan.write interrupted s = (p', ending) := ⟨_, _, rfl⟩
  obtain ⟨hdelivered, hdrawn, hlines, hframed, hsink⟩ :=
    framed_of_run (records_writer interrupted) hrun
  have hends : ending ≠ .unfinished :=
    plan.run_ne_unfinished (writesOnly_writer interrupted _) (List.Subperm.refl _) le_rfl hrun
  refine ⟨p', ending, hrun, ?_, hdelivered, ?_, hlines, hframed⟩
  · cases ending with
    | completed => exact .inl rfl
    | unfinished => exact absurd rfl hends
    | stopped error =>
      cases error with
      | store error => exact .inr (.inr ⟨error, rfl⟩)
      | sink item text => exact absurd rfl (hsink item text)
      | cancelled visited => exact .inr (.inl ⟨visited, rfl⟩)
  · intro l hl
    obtain ⟨before, after, hsplit⟩ := List.append_of_mem hl
    obtain ⟨found, hfound, hscores⟩ := hdrawn before l.1 l.2 after hsplit
    rw [changes_writer] at hfound
    exact map_eq_ok.2 ⟨found, hfound, hscores⟩

/-- What a run knows that is cancelled after the first of two lists, whose items need escapes. -/
def interruptedRun : Progress Written :=
  ⟨equalStore ["\"", "a\n"], true, ⟨line "\"" [⟨"a\n", .one⟩], 1⟩, ⟨1, 1, 0⟩,
    [("\"", [⟨"a\n", .one⟩])], []⟩

theorem run_interrupted :
    write ⟨1, 0⟩ (· == 1) (equalStore ["\"", "a\n"]) =
      (interruptedRun, .stopped (.cancelled 1)) := by
  have hscan : (equalStore ["\"", "a\n"]).scan 0 none = .ok (equalPage ["\"", "a\n"]) := by
    rw [scan_equalStore (by decide)]
    decide +kernel
  have hsteps : Progress.steps (writer (· == 1)) 1
      (.start (equalStore ["\"", "a\n"]) false .nothing)
      ((equalPage ["\"", "a\n"]).map (·.item)) = (interruptedRun, some (.cancelled 1)) := by
    decide +kernel
  exact Progress.pagesFrom_of_stop hsteps hscan

/-- A run that is cancelled between two items leaves a whole line. -/
theorem write_framed_interrupted :
    write ⟨1, 0⟩ (· == 1) (equalStore ["\"", "a\n"]) =
        (interruptedRun, .stopped (.cancelled 1)) ∧
      Framed [("\"", [⟨"a\n", .one⟩])] (line "\"" [⟨"a\n", .one⟩]) := by
  obtain ⟨p', ending, hrun, -, -, -, -, hframed⟩ :=
    write_framed ⟨1, 0⟩ (· == 1) (equalStore ["\"", "a\n"])
  rw [run_interrupted] at hrun
  cases hrun
  exact ⟨run_interrupted, hframed⟩

end Plan

end SimilarItems.Neighbors
