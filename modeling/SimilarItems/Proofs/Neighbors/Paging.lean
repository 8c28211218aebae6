import Mathlib.Data.List.Perm.Subperm
import SimilarItems.Proofs.Neighbors.Unchanged
import SimilarItems.Proofs.Store.Batch

/-!
# The ends of runs

Behind every full page lies a part of the table that is as long as the place of the next page says.
So a run comes to an end if its receiver writes embeddings of no items but certain ones, however it
deletes them and writes them again.
-/

namespace SimilarItems

theorem length_slice_le {α : Type} {offset : Nat} {limit : Option Nat} {l : List α}
    (h : slice offset limit l ≠ []) : offset + (slice offset limit l).length ≤ l.length := by
  have hdrop : (slice offset limit l).length ≤ (l.drop offset).length := by
    cases limit with
    | none => exact le_rfl
    | some n => exact List.length_take_le' n _
  have hpos : 0 < (slice offset limit l).length := List.length_pos_of_ne_nil h
  rw [List.length_drop] at hdrop
  omega

namespace Table

open List

variable {t : Table} {items : List String}

theorem subperm_items_delete (item : String) (h : t.items <+~ items) :
    (delete item t).items <+~ items :=
  (List.filter_sublist.map _).subperm.trans h

theorem subperm_items_upsert {row : Row} (hrow : row.item ∈ items) (h : t.items <+~ items) :
    (upsert row t).items <+~ items := by
  rw [items_upsert]
  by_cases hold : row.item ∈ t.items
  · rwa [if_pos hold]
  · rw [if_neg hold, subperm_iff_count]
    intro x
    rw [count_append, count_singleton]
    by_cases hx : row.item = x
    · -- The item was not there before, so it counts once.
      have hnew : count x t.items = 0 := count_eq_zero_of_not_mem (hx ▸ hold)
      have hcount : 0 < count x items := count_pos_iff.2 (hx ▸ hrow)
      rw [hnew, if_pos (by simpa using hx)]
      omega
    · rw [if_neg (by simpa using hx), Nat.add_zero]
      exact subperm_iff_count.1 h x

end Table

namespace Neighbors

variable {σ : Type} {receiver : Receiver σ} {n : Nat} {items : List String}

namespace Receiver

/-- Whatever lists it is handed, the receiver writes embeddings of no items but these. -/
def WritesOnly (receiver : Receiver σ) (items : List String) : Prop :=
  ∀ memory item scores, ∀ a ∈ (receiver memory item scores).actions, a.written ⊆ items

/-- Whatever lists it is handed one after another from a memory on, the receiver writes embeddings of
no items but those that are allowed. -/
def PutsOnly (receiver : Receiver σ) (memory : σ) (allowed : String → Prop) : Prop :=
  ∀ lists, ∀ response ∈ receiver.responses memory lists, ∀ a ∈ response.actions,
    ∀ x ∈ a.written, allowed x

variable {memory : σ} {allowed : String → Prop}

theorem WritesOnly.putsOnly (h : receiver.WritesOnly items) (memory : σ) :
    receiver.PutsOnly memory (· ∈ items) :=
  fun lists => forall_responses (fun memory item scores a ha _ hx => h memory item scores a ha hx)
    memory lists

theorem PutsOnly.first (h : receiver.PutsOnly memory allowed) (item : String)
    (scores : List Score) :
    ∀ a ∈ (receiver memory item scores).actions, ∀ x ∈ a.written, allowed x :=
  h [(item, scores)] _ List.mem_cons_self

theorem PutsOnly.next (h : receiver.PutsOnly memory allowed) (item : String)
    (scores : List Score) : receiver.PutsOnly (receiver memory item scores).memory allowed :=
  fun lists response hresponse =>
    h ((item, scores) :: lists) response (List.mem_cons_of_mem _ hresponse)

theorem PutsOnly.mono (h : receiver.PutsOnly memory allowed) {allowed' : String → Prop}
    (himp : ∀ x, allowed x → allowed' x) : receiver.PutsOnly memory allowed' :=
  fun lists response hresponse a ha x hx => himp x (h lists response hresponse a ha x hx)

end Receiver

/-- A page that is as long as the plan allows is not empty. -/
theorem Plan.ne_nil_of_limit (plan : Plan) {α : Type} {page : List α}
    (hfull : plan.limit = some page.length) : page ≠ [] := by
  rintro rfl
  exact plan.limit_ne_zero hfull

namespace Progress

/-- What is stored are some of the items. -/
def Within (items : List String) (p : Progress σ) : Prop := (storedItems p.store).Subperm items

variable {p p' : Progress σ} {offset : Nat}

theorem within_act (hp : p.Within items) {a : Action} (ha : a.written ⊆ items) :
    (p.act a).Within items := by
  unfold Within at hp ⊢
  rcases storedItems_act p a with hs | ⟨t, ht, ⟨item, -, hs⟩ | ⟨e, row, rfl, hrow, hs⟩⟩
  · rwa [hs]
  · rw [hs]
    exact Table.subperm_items_delete item (ht ▸ hp)
  · rw [hs]
    exact Table.subperm_items_upsert (hrow ▸ ha List.mem_cons_self) (ht ▸ hp)

theorem within_acts (hp : p.Within items) {actions : List Action}
    (hactions : ∀ a ∈ actions, a.written ⊆ items) : (actions.foldl act p).Within items :=
  acts_induction (P := Within items) (Q := fun a => a.written ⊆ items)
    (fun _ _ ha hp => within_act hp ha) hp hactions

/-- What is stored are some of the items, and the receiver writes embeddings of no others from now
on. -/
structure Confined (receiver : Receiver σ) (items : List String) (p : Progress σ) : Prop where
  within : p.Within items
  puts : receiver.PutsOnly p.memory (· ∈ items)

theorem memory_respond (receiver : Receiver σ) (p : Progress σ) (item : String) (found : Nearest) :
    (p.respond receiver item found).memory = (receiver p.memory item found.scores).memory := by
  rw [respond, acts_eq]

theorem confined_respond (hp : p.Confined receiver items) (item : String) (found : Nearest) :
    (p.respond receiver item found).Confined receiver items where
  within := by
    refine within_acts ?_ (fun a ha x hx => hp.puts.first item found.scores a ha x hx)
    exact hp.within
  puts := by
    rw [memory_respond]
    exact hp.puts.next item found.scores

theorem confined_turn (hp : p.Confined receiver items) {item : String} {stop : Option RunError}
    (h : Turn receiver n p item p' stop) : p'.Confined receiver items := by
  cases h with
  | cancelled | vanished | failed => exact ⟨hp.within, hp.puts⟩
  | taken found | refused found =>
    have hp' := confined_respond hp item found
    exact ⟨hp'.within, hp'.puts⟩

theorem confined_steps (hp : p.Confined receiver items) {page : List String}
    {stop : Option RunError} (h : steps receiver n p page = (p', stop)) :
    p'.Confined receiver items := by
  induction page generalizing p with
  | nil =>
    cases h
    exact hp
  | cons item page ih =>
    rw [steps] at h
    split at h
    · rename_i hstep
      cases h
      exact confined_turn hp (turn_of_step hstep)
    · rename_i hstep
      exact ih (confined_turn hp (turn_of_step hstep)) h

/-- All of a page is stored, and so is what is in front of it. -/
theorem length_page_le (hp : p.Within items) {limit : Option Nat} {page : List Embedding}
    (hscan : p.store.scan offset limit = .ok page) (hne : page ≠ []) :
    offset + page.length ≤ items.length := by
  obtain ⟨t, ht, -⟩ := Store.scan_eq_ok.1 hscan
  have hitems : page.map (·.item) = slice offset limit t.sorted.items := Store.items_of_scan ht hscan
  have hlength := congrArg List.length hitems
  rw [List.length_map] at hlength
  have hslice : slice offset limit t.sorted.items ≠ [] := by
    rw [← hitems]
    simpa using hne
  have hstored : (storedItems p.store).length ≤ items.length := hp.length_le
  rw [storedItems_of_reach ht] at hstored
  calc offset + page.length
      = offset + (slice offset limit t.sorted.items).length := by rw [hlength]
    _ ≤ t.sorted.items.length := length_slice_le hslice
    _ = t.items.length := t.perm_items_sorted.length_eq
    _ ≤ items.length := hstored

/-- A run that may read as many pages as the items still fill comes to its end. -/
theorem pagesFrom_ne_unfinished (plan : Plan) (hp : p.Confined receiver items) {pages : Nat}
    {ending : Ending} (hpages : plan.pageBound (items.length - offset) ≤ pages)
    (h : pagesFrom receiver plan.neighbors plan.limit pages offset p = (p', ending)) :
    ending ≠ .unfinished := by
  induction pages generalizing offset p with
  | zero => exact absurd hpages (Nat.not_succ_le_zero _)
  | succ pages ih =>
    obtain ⟨scans, -, honward⟩ := exists_onward h
    cases honward with
    | unread | stopped | last =>
      intro hending
      cases hending
    | @full page _ _ _ hscan hsteps hfull hrest =>
      have hle : offset + page.length ≤ items.length :=
        length_page_le hp.within hscan (plan.ne_nil_of_limit hfull)
      refine ih (confined_steps hp hsteps) ?_ hrest
      have hleft : items.length - offset =
          page.length + (items.length - (offset + page.length)) := by omega
      rw [hleft, Plan.pageBound_of_full hfull] at hpages
      exact Nat.le_of_succ_le_succ hpages

theorem confined_start {s : Store} {memory : σ} (hstored : (storedItems s).Subperm items)
    (hputs : receiver.PutsOnly memory (· ∈ items)) (cancelled : Bool) :
    (start s cancelled memory).Confined receiver items := ⟨hstored, hputs⟩

end Progress

/-- A run ends, if its receiver writes embeddings of certain items only and it may read as many pages
as these fill. -/
theorem Plan.run_ne_unfinished (plan : Plan) (hwrites : receiver.WritesOnly items) {s : Store}
    (hstored : (storedItems s).Subperm items) {pages : Nat}
    (hpages : plan.pageBound items.length ≤ pages) {cancelled : Bool} {memory : σ}
    {p' : Progress σ} {ending : Ending}
    (h : plan.run receiver pages (.start s cancelled memory) = (p', ending)) :
    ending ≠ .unfinished :=
  Progress.pagesFrom_ne_unfinished plan
    (Progress.confined_start hstored (hwrites.putsOnly memory) cancelled) hpages h

end Neighbors

end SimilarItems
