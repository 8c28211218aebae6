import SimilarItems.Recommend.Run

/-!
# Runs by turns

One of the ways in which a run can go: the run advances as far as it can, then every lookup under
way finishes, in the order of their starts, and so on. The caller may cancel the request at a moment
that is fixed beforehand.
-/

namespace SimilarItems.Recommend

/-- When the caller cancels. -/
inductive Cancellation where
  /-- Never. -/
  | never
  /-- Before anything is asked. -/
  | before
  /-- While the feedback service is asked, which then answers: the run has looked for a cancellation
  before, and hears the answer. -/
  | duringFeedback
  /-- While the feedback service is asked, which then never answers. -/
  | insteadOfFeedback
  /-- In the lookup with this number, counted from one, which then never gets an answer. -/
  | atLookup (number : Nat)
  /-- When it is asked whether this item can be had. -/
  | onAvailability (item : String)
deriving DecidableEq

namespace Turns

/-- The items about whose availability the next step of a run asks. -/
def inquiries (q : Request) (r : Run) : List String :=
  match r.stage, r.finished with
  | .joining, (_, .answered (.scores scores)) :: _ =>
    (scores.map (·.item)).filter fun item => !q.excluded.contains item
  | _, _ => []

/-- Takes one step. -/
def advance (q : Request) (c : Cancellation) (r : Run) : Run :=
  let next := r.step q .advance
  match c with
  | .onAvailability item =>
    if (inquiries q r).contains item then next.step q .cancel else next
  | _ => next

/-- The most steps that a run can take before it has to wait: it starts each pending lookup, takes
in each finished one, and turns from one to the other in between. -/
def stepBound (r : Run) : Nat := 2 * (r.pending.length + r.finished.length) + 2

/-- Takes steps until none is left to take. -/
def settle (q : Request) (c : Cancellation) (r : Run) : Run :=
  (List.range (stepBound r)).foldl (fun r _ => advance q c r) r

/-- Lets the lookup that was started first finish. Its number is what counts for a cancellation that
happens in a lookup, which then comes before anything else that would happen to the lookup. -/
def finishFirst (q : Request) (c : Cancellation) (r : Run) : Run :=
  let number := r.spawned.length - r.running.length + 1
  let r := if c = .atLookup number then r.step q .cancel else r
  r.step q (.finish 0 true)

/-- Lets every lookup under way finish. -/
def finishAll (q : Request) (c : Cancellation) (r : Run) : Run :=
  r.running.foldl (fun r _ => finishFirst q c r) r

/-- One turn: the run settles, and then all lookups finish. -/
def turn (q : Request) (c : Cancellation) (r : Run) : Run := finishAll q c (settle q c r)

/-- The state after the user's feedback has been asked for, and whether it was. -/
def load (q : Request) (c : Cancellation) : Run × Bool :=
  match c with
  | .before => ((Run.start.step q .cancel).step q .advance, false)
  | .duringFeedback => ((Run.start.step q .answer).step q .cancel, true)
  | .insteadOfFeedback => ((Run.start.step q .cancel).step q .advance, true)
  | _ => (Run.start.step q .answer, true)

/-- Goes through a request by turns. In each turn but the last at least one lookup finishes. -/
def run (q : Request) (c : Cancellation) : Run :=
  let r := (load q c).1
  (List.range (r.pending.length + 2)).foldl (fun r _ => turn q c r) r

/-- Whether the feedback service is asked at all. -/
def asksFeedback (q : Request) (c : Cancellation) : Bool := (load q c).2

end Turns

end SimilarItems.Recommend
