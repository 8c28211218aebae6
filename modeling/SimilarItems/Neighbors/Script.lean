import SimilarItems.Neighbors.Run

/-!
# Scripted receivers

A receiver that does, for certain items, what it was told beforehand.
-/

namespace SimilarItems.Neighbors

/-- The items that an action may add to a store. -/
def Action.written : Action → List String
  | .put e => [e.item]
  | _ => []

/-- What a scripted receiver does when it is handed the list of an item. -/
structure Cue where
  /-- The item. -/
  item : String
  /-- What it does, in order. -/
  actions : List Action
  /-- The reason for which it then refuses the list, if it does. -/
  refusal : Option String
deriving DecidableEq

/-- What a receiver was told, at most one cue for an item. -/
abbrev Script := List Cue

namespace Script

/-- The receiver that follows a script. -/
def receiver (script : Script) : Receiver Unit := fun _ item _ =>
  match script.find? fun c => c.item = item with
  | none => ⟨(), [], none⟩
  | some c => ⟨(), c.actions, c.refusal⟩

/-- The items that a script may add to a store. -/
def written (script : Script) : List String :=
  script.flatMap fun c => c.actions.flatMap Action.written

end Script

/-- The items of a store that can be reached. -/
def storedItems (s : Store) : List String :=
  match s.reach with
  | .ok t => t.map (·.item)
  | .error _ => []

/-- Runs through a store with a scripted receiver. All items that are ever stored are known
beforehand, and so is the number of pages that suffices. -/
def Plan.runScript (plan : Plan) (script : Script) (s : Store) (cancelled : Bool) :
    Progress Unit × Ending :=
  let items := (storedItems s ++ script.written).eraseDups.length
  plan.run script.receiver (plan.pageBound items) (.start s cancelled ())

end SimilarItems.Neighbors
