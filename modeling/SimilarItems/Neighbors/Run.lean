import SimilarItems.Neighbors.Error
import SimilarItems.Store.Basic

/-!
# Neighbor runs

A run goes through all items of a store, page by page and by rising item, and hands the nearest
neighbors of each to a receiver. The receiver may write to the same store, cancel the run, or refuse
a list. What it does to the store shows in all that is looked up afterwards, but not in a page that
has been read.

The next page starts where the last one ended, counted in rows, and a page that is not full is the
last. A receiver that goes on adding items can therefore keep a run going for ever, so a run is
given the most pages that it may read.
-/

namespace SimilarItems.Neighbors

/-- What a receiver does to the run it takes part in. -/
inductive Action where
  /-- It cancels the run. -/
  | cancel
  /-- It deletes an item's embedding from the store. -/
  | delete (item : String)
  /-- It writes an embedding to the store. -/
  | put (embedding : Embedding)
deriving DecidableEq

/-- How a receiver answers a list. -/
structure Response (σ : Type) where
  /-- What it remembers. -/
  memory : σ
  /-- What it does, in order, before it takes or refuses the list. -/
  actions : List Action
  /-- The reason why it refuses the list, if it does. -/
  refusal : Option String

/-- A receiver of neighbor lists with a memory of type `σ`. -/
abbrev Receiver (σ : Type) := σ → String → List Score → Response σ

/-- The receiver that takes every list and does nothing else. -/
def Receiver.accept : Receiver Unit := fun _ _ _ => ⟨(), [], none⟩

/-- The counts of a run. -/
structure Summary where
  /-- The items whose turn came. -/
  visited : Nat
  /-- The lists that the receiver took. -/
  emitted : Nat
  /-- The items that were deleted before their turn came. -/
  vanished : Nat
deriving DecidableEq

/-- A run under way. -/
structure Progress (σ : Type) where
  /-- The store. -/
  store : Store
  /-- Whether the run has been cancelled. -/
  cancelled : Bool
  /-- What the receiver remembers. -/
  memory : σ
  /-- The counts so far. -/
  summary : Summary
  /-- The lists that the receiver took so far, in order. -/
  delivered : List (String × List Score)
  /-- The warnings so far, in order. -/
  warnings : List Log.Record
deriving DecidableEq

/-- How a run ended. -/
inductive Ending where
  /-- Every page was gone through. -/
  | completed
  /-- Something stopped it. -/
  | stopped (error : RunError)
  /-- It has read as many pages as it may. -/
  | unfinished
deriving DecidableEq

namespace Progress

variable {σ : Type}

/-- Before the first page. -/
def start (store : Store) (cancelled : Bool) (memory : σ) : Progress σ :=
  ⟨store, cancelled, memory, ⟨0, 0, 0⟩, [], []⟩

/-- Carries out one action. A write that the store refuses changes nothing. -/
def act (p : Progress σ) : Action → Progress σ
  | .cancel => { p with cancelled := true }
  | .delete item => { p with store := (p.store.delete item).toOption.getD p.store }
  | .put e => { p with store := (p.store.put e).toOption.getD p.store }

/-- One more item had its turn. -/
def visit (p : Progress σ) : Progress σ :=
  { p with summary := { p.summary with visited := p.summary.visited + 1 } }

/-- One more item had been deleted. -/
def vanish (p : Progress σ) : Progress σ :=
  { p with summary := { p.summary with vanished := p.summary.vanished + 1 } }

/-- The receiver took one more list. -/
def deliver (p : Progress σ) (item : String) (scores : List Score) : Progress σ :=
  { p with
    summary := { p.summary with emitted := p.summary.emitted + 1 }
    delivered := p.delivered ++ [(item, scores)] }

/-- Hands an item's list to the receiver. -/
def hand (receiver : Receiver σ) (p : Progress σ) (item : String) (found : Nearest) :
    Progress σ × Option RunError :=
  let response := receiver p.memory item found.scores
  let p := { p with
    memory := response.memory
    warnings := p.warnings ++ found.warning?.toList }
  let p := response.actions.foldl act p
  match response.refusal with
  | some text => (p, some (.sink item text))
  | none => (p.deliver item found.scores, none)

/-- Gives an item its turn. -/
def step (receiver : Receiver σ) (n : Nat) (p : Progress σ) (item : String) :
    Progress σ × Option RunError :=
  if p.cancelled then (p, some (.cancelled p.summary.visited))
  else
    match p.visit.store.similar item n with
    | .error (.notFound _) => (p.visit.vanish, none)
    | .error e => (p.visit, some (.store e))
    | .ok found => hand receiver p.visit item found

/-- Gives the items of a page their turns, until something stops the run. -/
def steps (receiver : Receiver σ) (n : Nat) (p : Progress σ) :
    List String → Progress σ × Option RunError
  | [] => (p, none)
  | item :: items =>
    match step receiver n p item with
    | (p, some e) => (p, some e)
    | (p, none) => steps receiver n p items

/-- Goes through at most `pages` pages of at most `limit` items from an offset on. -/
def pagesFrom (receiver : Receiver σ) (n : Nat) (limit : Option Nat) :
    Nat → Nat → Progress σ → Progress σ × Ending
  | 0, _, p => (p, .unfinished)
  | pages + 1, offset, p =>
    match p.store.scan offset limit with
    | .error e => (p, .stopped (.store e))
    | .ok page =>
      match steps receiver n p (page.map (·.item)) with
      | (p, some e) => (p, .stopped e)
      | (p, none) =>
        if limit = some page.length then
          pagesFrom receiver n limit pages (offset + page.length) p
        else (p, .completed)

end Progress

/-- What a run is asked to do. -/
structure Plan where
  /-- The most neighbors in a list. -/
  neighbors : Nat
  /-- The number of items in a page; zero stands for all of them. -/
  pageSize : Nat
deriving DecidableEq

namespace Plan

/-- The most items that one page may have, if there is a limit. -/
def limit (plan : Plan) : Option Nat := if plan.pageSize = 0 then none else some plan.pageSize

/-- The number of pages that suffice for a run in which no more than the given number of items are
ever stored: every page but the last is full. -/
def pageBound (plan : Plan) (items : Nat) : Nat := items / plan.pageSize + 1

/-- Runs through a store. -/
def run {σ : Type} (plan : Plan) (receiver : Receiver σ) (pages : Nat) (start : Progress σ) :
    Progress σ × Ending :=
  Progress.pagesFrom receiver plan.neighbors plan.limit pages 0 start

end Plan

end SimilarItems.Neighbors
