import Mathlib.Data.Finset.Card
import SimilarItems.Proofs.Neighbors.Paging

/-!
# Runs that are interfered with

A receiver may bring a run back to items that it has handed over, by writing smaller ones, and make it
pass over others, by deleting smaller ones. But each scan starts a page further on than the one before,
and none behind the number of items that there ever are. So the run ends after a number of scans that
is known beforehand.
-/

namespace SimilarItems.Neighbors

variable {σ : Type} {receiver : Receiver σ} {n : Nat} {items : List String}

/-- What a scripted receiver writes is written in the script. -/
theorem Script.putsOnly_receiver (script : Script) :
    script.receiver.PutsOnly () (· ∈ script.written) := by
  refine fun lists => Receiver.forall_responses (fun memory item scores a ha x hx => ?_) () lists
  simp only [receiver] at ha
  split at ha
  · cases ha
  · rename_i cue hcue
    exact List.mem_flatMap.2 ⟨cue, List.mem_of_find?_eq_some hcue, List.mem_flatMap.2 ⟨a, ha, hx⟩⟩

/-- A page of limited length has the length that the plan gives it. -/
theorem Plan.pageSize_of_limit {plan : Plan} {size : Nat} (h : plan.limit = some size) :
    plan.pageSize = size := by
  rw [limit] at h
  split at h
  · cases h
  · exact Option.some.inj h

namespace Progress

variable {p p' : Progress σ} {offset : Nat}

/-- A run that may read a page has a scan, whatever comes of it. -/
theorem exists_scans (receiver : Receiver σ) (n : Nat) (limit : Option Nat) (pages offset : Nat)
    (p : Progress σ) : ∃ p' ending scans,
      scansFrom receiver n limit (pages + 1) offset p = ⟨offset, p⟩ :: scans ∧
        Onward receiver n limit pages ⟨offset, p⟩ p' ending scans := by
  obtain ⟨p', ending, h⟩ : ∃ p' ending,
    pagesFrom receiver n limit (pages + 1) offset p = (p', ending) := ⟨_, _, rfl⟩
  obtain ⟨scans, hscans, honward⟩ := exists_onward h
  exact ⟨p', ending, scans, hscans, honward⟩

/-- The scans of a run stand a page apart. -/
theorem offset_of_getElem? (plan : Plan) {pages k : Nat} {scan : Scan σ}
    (h : (scansFrom receiver plan.neighbors plan.limit pages offset p)[k]? = some scan) :
    scan.offset = offset + k * plan.pageSize := by
  induction pages generalizing offset p k with
  | zero => cases h
  | succ pages ih =>
    obtain ⟨p', ending, scans, hscans, honward⟩ :=
      exists_scans receiver plan.neighbors plan.limit pages offset p
    rw [hscans] at h
    cases k with
    | zero =>
      cases h
      rw [Nat.zero_mul, Nat.add_zero]
    | succ k =>
      rw [List.getElem?_cons_succ] at h
      cases honward with
      | unread | stopped | last => cases h
      | full hscan hsteps hfull hrest =>
        rw [ih h, Plan.pageSize_of_limit hfull, Nat.succ_mul, Nat.add_assoc, Nat.add_comm (k * _)]

/-- No scan of a run starts behind the number of the items. -/
theorem offset_le_of_mem (plan : Plan) (hp : p.Confined receiver items)
    (hoffset : offset ≤ items.length) {pages : Nat} :
    ∀ scan ∈ scansFrom receiver plan.neighbors plan.limit pages offset p,
      scan.offset ≤ items.length := by
  induction pages generalizing offset p with
  | zero =>
    intro scan hscan
    cases hscan
  | succ pages ih =>
    obtain ⟨p', ending, scans, hscans, honward⟩ :=
      exists_scans receiver plan.neighbors plan.limit pages offset p
    rw [hscans, List.forall_mem_cons]
    refine ⟨hoffset, ?_⟩
    cases honward with
    | unread | stopped | last => exact List.forall_mem_nil _
    | @full page _ _ _ hscan hsteps hfull hrest =>
      exact ih (confined_steps hp hsteps)
        (length_page_le hp.within hscan (plan.ne_nil_of_limit hfull))

/-- A run that came to its end needs as many pages as it has scans, and more change nothing. -/
theorem pagesFrom_of_ended {limit : Option Nat} {pages : Nat} {ending : Ending}
    (h : pagesFrom receiver n limit pages offset p = (p', ending)) (hends : ending ≠ .unfinished)
    (other : Nat) :
    ((scansFrom receiver n limit pages offset p).length ≤ other →
      pagesFrom receiver n limit other offset p = (p', ending) ∧
        scansFrom receiver n limit other offset p = scansFrom receiver n limit pages offset p) ∧
    (other < (scansFrom receiver n limit pages offset p).length →
      (pagesFrom receiver n limit other offset p).2 = .unfinished) := by
  induction pages generalizing offset p other with
  | zero =>
    cases h
    exact absurd rfl hends
  | succ pages ih =>
    rw [pagesFrom] at h
    rw [scansFrom]
    cases other with
    | zero => exact ⟨fun hle => absurd hle (Nat.not_succ_le_zero _), fun _ => rfl⟩
    | succ other =>
      rw [pagesFrom, scansFrom]
      have hone : ¬ other + 1 < 1 := by omega
      cases hscan : p.store.scan offset limit with
      | error e =>
        rw [hscan] at h
        exact ⟨fun _ => ⟨h, rfl⟩, fun hlt => absurd hlt hone⟩
      | ok page =>
        simp only [hscan] at h ⊢
        cases hsteps : steps receiver n p (page.map (·.item)) with
        | mk p₁ stop =>
          simp only [hsteps] at h ⊢
          cases stop with
          | some e =>
            exact ⟨fun _ => ⟨h, rfl⟩, fun hlt => absurd hlt hone⟩
          | none =>
            by_cases hfull : limit = some page.length
            · simp only [if_pos hfull] at h ⊢
              obtain ⟨henough, hshort⟩ := ih h other
              refine ⟨fun hle => ?_, fun hlt => hshort (Nat.lt_of_succ_lt_succ hlt)⟩
              obtain ⟨hrun, hscans⟩ := henough (Nat.le_of_succ_le_succ hle)
              exact ⟨hrun, by rw [hscans]⟩
            · simp only [if_neg hfull] at h ⊢
              exact ⟨fun _ => ⟨h, trivial⟩, fun hlt => absurd hlt hone⟩

end Progress

namespace Plan

variable {plan : Plan} {p' : Progress σ} {ending : Ending}

/-- A run comes to its end after the given scans: it needs as many pages as these, and being allowed
more changes nothing. -/
structure EndsAfter (plan : Plan) (receiver : Receiver σ) (start : Progress σ) (scans : List (Scan σ))
    (p' : Progress σ) (ending : Ending) : Prop where
  ended : ending ≠ .unfinished
  run_eq : ∀ pages, scans.length ≤ pages → plan.run receiver pages start = (p', ending)
  scans_eq : ∀ pages, scans.length ≤ pages → plan.scans receiver pages start = scans
  unfinished : ∀ pages < scans.length, (plan.run receiver pages start).2 = .unfinished

theorem endsAfter_of_run {pages : Nat} {start : Progress σ} (hends : ending ≠ .unfinished)
    (h : plan.run receiver pages start = (p', ending)) :
    plan.EndsAfter receiver start (plan.scans receiver pages start) p' ending where
  ended := hends
  run_eq other hle := ((Progress.pagesFrom_of_ended h hends other).1 hle).1
  scans_eq other hle := ((Progress.pagesFrom_of_ended h hends other).1 hle).2
  unfinished other hlt := (Progress.pagesFrom_of_ended h hends other).2 hlt

/-- There are no more scans than pages that the items fill, and one. -/
theorem length_scans_le (hsize : 0 < plan.pageSize) {start : Progress σ}
    (hstart : start.Confined receiver items) (pages : Nat) :
    (plan.scans receiver pages start).length ≤ plan.pageBound items.length := by
  cases hlength : (plan.scans receiver pages start).length with
  | zero => exact Nat.zero_le _
  | succ k =>
    obtain ⟨scan, hscan⟩ : ∃ scan, (plan.scans receiver pages start)[k]? = some scan :=
      ⟨_, List.getElem?_eq_getElem (by omega)⟩
    have hoffset : scan.offset = 0 + k * plan.pageSize := Progress.offset_of_getElem? plan hscan
    have hle : scan.offset ≤ items.length :=
      Progress.offset_le_of_mem plan hstart (Nat.zero_le _) scan (List.mem_of_getElem? hscan)
    rw [hoffset, Nat.zero_add] at hle
    exact Nat.succ_le_succ ((Nat.le_div_iff_mul_le hsize).2 hle)

/-- A run whose receiver writes embeddings of certain items only, to a store that holds no others,
ends after as many scans as these items fill pages, and one at most, and no scan starts behind their
number. A run without pages ends after one scan, whatever its receiver does. -/
theorem ends_and_scans_bounded (plan : Plan) (receiver : Receiver σ) (s : Store) (cancelled : Bool)
    (memory : σ) :
    (∀ U : Finset String, 0 < plan.pageSize → (storedItems s).Nodup →
      (∀ x ∈ storedItems s, x ∈ U) → receiver.PutsOnly memory (· ∈ U) →
      ∃ scans p' ending,
        plan.EndsAfter receiver (.start s cancelled memory) scans p' ending ∧
        scans.length ≤ U.card / plan.pageSize + 1 ∧ ∀ scan ∈ scans, scan.offset ≤ U.card) ∧
    (plan.pageSize = 0 → ∃ p' ending,
      plan.EndsAfter receiver (.start s cancelled memory) [⟨0, .start s cancelled memory⟩] p'
        ending) := by
  constructor
  · intro U hsize hn hstored hputs
    have hsub : (storedItems s).Subperm U.toList :=
      List.subperm_of_subset hn fun x hx => Finset.mem_toList.2 (hstored x hx)
    have hstart : (Progress.start s cancelled memory).Confined receiver U.toList := by
      refine Progress.confined_start hsub ?_ cancelled
      simpa only [Finset.mem_toList] using hputs
    obtain ⟨p', ending, hrun⟩ : ∃ p' ending, plan.run receiver (U.card / plan.pageSize + 1)
      (.start s cancelled memory) = (p', ending) := ⟨_, _, rfl⟩
    have hends : ending ≠ .unfinished := by
      refine Progress.pagesFrom_ne_unfinished plan hstart ?_ hrun
      rw [Finset.length_toList]
      rfl
    refine ⟨_, p', ending, endsAfter_of_run hends hrun, ?_, ?_⟩
    · rw [← Finset.length_toList]
      exact length_scans_le hsize hstart _
    · rw [← Finset.length_toList]
      exact Progress.offset_le_of_mem plan hstart (Nat.zero_le _)
  · intro hsize
    obtain ⟨p', ending, hrun⟩ : ∃ p' ending,
      plan.run receiver 1 (.start s cancelled memory) = (p', ending) := ⟨_, _, rfl⟩
    have hlimit : plan.limit = none := by rw [limit, if_pos hsize]
    have hscans : plan.scans receiver 1 (.start s cancelled memory) =
        [⟨0, .start s cancelled memory⟩] := by
      rw [scans, hlimit, Progress.scansFrom_none]
    have hends : ending ≠ .unfinished := by
      obtain ⟨scans, -, honward⟩ := Progress.exists_onward hrun
      cases honward with
      | unread | stopped | last =>
        intro hending
        cases hending
      | full hscan hsteps hfull hrest =>
        rw [hlimit] at hfull
        cases hfull
    exact ⟨p', ending, hscans ▸ endsAfter_of_run hends hrun⟩

/-- A scripted run comes to its end within the pages that it is given. -/
theorem runScript_ne_unfinished (plan : Plan) (script : Script) {s : Store}
    (hn : (storedItems s).Nodup) (cancelled : Bool) :
    (plan.runScript script s cancelled).2 ≠ .unfinished := by
  have hstored : (storedItems s).Subperm (storedItems s ++ script.written).eraseDups :=
    List.subperm_of_subset hn fun x hx => List.mem_eraseDups.2 (List.mem_append_left _ hx)
  have hputs : script.receiver.PutsOnly ()
      (· ∈ (storedItems s ++ script.written).eraseDups) :=
    script.putsOnly_receiver.mono fun x hx => List.mem_eraseDups.2 (List.mem_append_right _ hx)
  exact Progress.pagesFrom_ne_unfinished plan (Progress.confined_start hstored hputs cancelled)
    le_rfl rfl

/-- A script that puts an item in front of the one that it is handed, so that this one is met again on
the next page. -/
def returning : Script :=
  [⟨"b", [.delete "b", .put ⟨"a", [.one], ⟨0, 0⟩⟩, .put ⟨"b", [.one], ⟨0, 0⟩⟩], none⟩]

/-- What a run knows that has met an item twice. -/
def metAgain : Progress Unit :=
  ⟨equalStore ["a", "b"], false, (), ⟨2, 2, 0⟩, [("b", []), ("b", [⟨"a", .one⟩])], []⟩

theorem putsOnly_returning :
    returning.receiver.PutsOnly () (· ∈ ({"a", "b"} : Finset String)) := by
  have hwritten : ∀ x ∈ returning.written, x ∈ ({"a", "b"} : Finset String) := by decide
  exact returning.putsOnly_receiver.mono hwritten

theorem run_returning : run ⟨1, 1⟩ returning.receiver 3 (.start (equalStore ["b"]) false ()) =
    (metAgain, .completed) := by
  have hscan₁ : (equalStore ["b"]).scan 0 (some 1) = .ok (equalPage ["b"]) := by
    rw [scan_equalStore (by decide)]
    decide +kernel
  have hsteps₁ : Progress.steps returning.receiver 1 (.start (equalStore ["b"]) false ())
      ((equalPage ["b"]).map (·.item)) =
        (⟨equalStore ["a", "b"], false, (), ⟨1, 1, 0⟩, [("b", [])], []⟩, none) := by
    decide +kernel
  have hscan₂ : (equalStore ["a", "b"]).scan 1 (some 1) = .ok (equalPage ["b"]) := by
    rw [scan_equalStore (by decide)]
    decide +kernel
  have hsteps₂ : Progress.steps returning.receiver 1
      ⟨equalStore ["a", "b"], false, (), ⟨1, 1, 0⟩, [("b", [])], []⟩
      ((equalPage ["b"]).map (·.item)) = (metAgain, none) := by
    decide +kernel
  have hscan₃ : (equalStore ["a", "b"]).scan 2 (some 1) = .ok (equalPage []) := by
    rw [scan_equalStore (by decide)]
    rfl
  calc Progress.pagesFrom returning.receiver 1 (some 1) 3 0 (.start (equalStore ["b"]) false ())
      = Progress.pagesFrom returning.receiver 1 (some 1) 2 1
          ⟨equalStore ["a", "b"], false, (), ⟨1, 1, 0⟩, [("b", [])], []⟩ :=
        Progress.pagesFrom_of_full hsteps₁ hscan₁ rfl
    _ = Progress.pagesFrom returning.receiver 1 (some 1) 1 2 metAgain :=
        Progress.pagesFrom_of_full hsteps₂ hscan₂ rfl
    _ = (metAgain, .completed) := Progress.pagesFrom_of_last rfl hscan₃ (by decide)

/-- A run that is brought back to an item that it has handed over ends nevertheless. -/
theorem ends_and_scans_bounded_returning :
    (storedItems (equalStore ["b"])).Nodup ∧
    (∀ x ∈ storedItems (equalStore ["b"]), x ∈ ({"a", "b"} : Finset String)) ∧
    returning.receiver.PutsOnly () (· ∈ ({"a", "b"} : Finset String)) ∧
    (∃ scans, EndsAfter ⟨1, 1⟩ returning.receiver (.start (equalStore ["b"]) false ()) scans metAgain
      .completed ∧ scans.length ≤ 3 ∧ ∀ scan ∈ scans, scan.offset ≤ 2) ∧
    ∃ p' ending, EndsAfter ⟨1, 0⟩ returning.receiver (.start (equalStore ["b"]) false ())
      [⟨0, .start (equalStore ["b"]) false ()⟩] p' ending := by
  have hn : (storedItems (equalStore ["b"])).Nodup := by decide
  have hstored : ∀ x ∈ storedItems (equalStore ["b"]), x ∈ ({"a", "b"} : Finset String) := by
    decide
  obtain ⟨scans, p', ending, hends, hlength, hoffset⟩ :=
    (ends_and_scans_bounded ⟨1, 1⟩ returning.receiver (equalStore ["b"]) false ()).1
      {"a", "b"} (by decide) hn hstored putsOnly_returning
  have hrun := hends.run_eq 3 hlength
  rw [run_returning] at hrun
  cases hrun
  exact ⟨hn, hstored, putsOnly_returning, ⟨scans, hends, hlength, hoffset⟩,
    (ends_and_scans_bounded ⟨1, 0⟩ returning.receiver _ false ()).2 rfl⟩

end Plan

end SimilarItems.Neighbors
