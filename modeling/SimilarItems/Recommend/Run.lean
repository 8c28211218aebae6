import SimilarItems.Log.Record
import SimilarItems.Recommend.Service
import SimilarItems.Recommend.Tally
import SimilarItems.Settings

/-!
# Recommendation runs

A recommendation loads the user's positive feedback, looks up the neighbors of every item in it for
every label, and ranks what it finds. Lookups overlap, but no more of them are under way than the
settings allow: a new one is started whenever one has been taken in.

A run is a state that events change. The lookups finish in any order, the request may be cancelled
at any moment, and the run itself advances when it can. So a list of events is one of the ways in
which a run can go, and what holds for all lists of events holds for all of them. An event that
cannot happen in a state leaves it as it is.
-/

namespace SimilarItems.Recommend

/-- What is asked for, and what the services answer. -/
structure Request where
  /-- The settings. -/
  settings : RecommendSettings
  /-- The user. -/
  user : String
  /-- The present. -/
  now : Instant
  /-- The categories for which candidates are wanted. -/
  categories : List String
  /-- The items that are not wanted. -/
  excluded : List String
  /-- Whether an item can be had. -/
  available : String → Bool
  /-- The feedback service. -/
  feedback : FeedbackQuery → Except ServiceError (List Feedback)
  /-- The service of neighbor lists. -/
  neighbors : ListQuery → Reply

/-- A label and a seed whose neighbors are looked up for it. -/
structure Pair where
  label : String
  seed : String
deriving DecidableEq, Inhabited

/-- What became of a lookup. -/
inductive Result where
  /-- It was answered. -/
  | answered (reply : Reply)
  /-- It noticed the cancellation first. -/
  | cancelled
deriving DecidableEq

namespace Request

/-- The question for the user's feedback. -/
def feedbackQuery (q : Request) : FeedbackQuery :=
  ⟨q.user, q.now, q.settings.positiveFeedbackTypes⟩

/-- The family of the lists that are looked up. -/
def listFamily : String := "image-similar"

/-- The question that a lookup asks. -/
def listQuery (q : Request) (p : Pair) : ListQuery :=
  ⟨listFamily, p.seed, [p.label], 0, q.settings.numSimilar⟩

/-- The most lookups that may be under way. -/
def window (q : Request) : Nat := max q.settings.maxConcurrentLookups 1

/-- The labels of the request. -/
def labels (q : Request) : List String := Recommend.labels q.categories

/-- All lookups, label by label: one for each feedback event. -/
def pairs (q : Request) (seeds : List String) : List Pair :=
  q.labels.flatMap fun label => seeds.map fun seed => ⟨label, seed⟩

/-- Whether an item may be recommended. -/
def admits (q : Request) (item : String) : Bool :=
  !q.excluded.contains item && q.available item

/-- The lists that lookups brought for a label, in the order of the lookups given. -/
def listsFor (label : String) (joined : List (Pair × Result)) : List (List Score) :=
  joined.filterMap fun j =>
    match j.2 with
    | .answered (.scores scores) => if j.1.label = label then some scores else none
    | _ => none

/-- The tally of a label after lookups were taken in, in the order given. -/
def tally (q : Request) (label : String) (joined : List (Pair × Result)) : Tally :=
  Tally.ofLists q.admits q.settings.imageWeight (listsFor label joined)

/-- The candidates after lookups were taken in, in the order given. -/
def candidates (q : Request) (joined : List (Pair × Result)) : CandidateSet :=
  .ofLists (q.labels.map fun label => (label, (q.tally label joined).best q.settings.cacheSize))

/-- What is reported about a lookup when it is taken in. -/
def report? (q : Request) (p : Pair) : Result → Option Log.Record
  | .answered (.failed error) => some {
      level := .warn
      message := "failed to load similar items"
      fields := [("user_id", .text q.user), ("item_id", .text p.seed),
        ("category", .text p.label), ("error", .text error.message)] }
  | .answered .died => some {
      level := .error
      message := "neighbor lookup task failed"
      fields := [("user_id", .text q.user)] }
  | _ => none

end Request

/-- Where a run stands. -/
inductive Stage where
  /-- It waits for the user's feedback. -/
  | loading
  /-- It starts lookups. -/
  | filling
  /-- It waits for a lookup to finish. -/
  | joining
  /-- It has ended. -/
  | ended (outcome : Except Failure CandidateSet)

/-- A run of a request. -/
structure Run where
  /-- Where it stands. -/
  stage : Stage
  /-- The lookups that are still to be started. -/
  pending : List Pair
  /-- The lookups that have been started and have not finished, in the order of their starts. -/
  running : List Pair
  /-- The lookups that have finished and have not been taken in, in the order of their ends. -/
  finished : List (Pair × Result)
  /-- The lookups that have been taken in, in order. -/
  joined : List (Pair × Result)
  /-- All lookups that were ever started, in order. -/
  spawned : List Pair
  /-- The most lookups that ever ran at once. -/
  peak : Nat
  /-- Whether the request has been cancelled. -/
  cancelled : Bool

/-- What can happen to a run. -/
inductive Event where
  /-- The feedback service answers. -/
  | answer
  /-- The run takes its next step. -/
  | advance
  /-- The running lookup at a place finishes; if the request has been cancelled, it may have noticed
  that first. -/
  | finish (place : Nat) (noticed : Bool)
  /-- The request is cancelled. -/
  | cancel
deriving DecidableEq

namespace Run

/-- Before anything has happened. -/
def start : Run :=
  { stage := .loading, pending := [], running := [], finished := [], joined := [], spawned := []
    peak := 0, cancelled := false }

/-- The number of lookups that have been started and not been taken in. -/
def inFlight (r : Run) : Nat := r.running.length + r.finished.length

/-- Ends the run. -/
def finishWith (r : Run) (outcome : Except Failure CandidateSet) : Run :=
  { r with stage := .ended outcome }

/-- Starts a lookup. -/
def spawn (r : Run) (p : Pair) (rest : List Pair) : Run :=
  { r with
    pending := rest
    running := r.running ++ [p]
    spawned := r.spawned ++ [p]
    peak := max r.peak (r.running.length + 1) }

/-- The feedback service has answered: its failure ends the run, and each event it tells of is a
seed. -/
def load (q : Request) (r : Run) : Run :=
  match q.feedback q.feedbackQuery with
  | .error e => r.finishWith (.error (.feedback e))
  | .ok events => { r with stage := .filling, pending := q.pairs (events.map (·.item)) }

/-- Looks at what a run without feedback waits for: at the cancellation first, and only then at the
answer of the feedback service, if there is one. What an answer does is the same when the
cancellation comes in between, so such a cancellation counts as one right after the answer. -/
def poll (q : Request) (r : Run) (answered : Bool) : Run :=
  if r.cancelled then r.finishWith (.error .cancelled)
  else if answered then load q r
  else r

/-- Starts the next lookup, or goes on to wait if none is left, the window is full or the request has
been cancelled. -/
def fill (q : Request) (r : Run) : Run :=
  match r.pending with
  | p :: rest =>
    if r.inFlight < q.window && !r.cancelled then r.spawn p rest else { r with stage := .joining }
  | [] => { r with stage := .joining }

/-- Takes in the lookup that finished first. When none is under way any more the run ends: with the
candidates, or for the cancellation. -/
def join (q : Request) (r : Run) : Run :=
  match r.finished with
  | j :: rest => { r with stage := .filling, finished := rest, joined := r.joined ++ [j] }
  | [] =>
    if !r.running.isEmpty then r
    else if r.cancelled then r.finishWith (.error .cancelled)
    else r.finishWith (.ok (q.candidates r.joined))

/-- The running lookup at a place finishes. -/
def finishAt (q : Request) (r : Run) (place : Nat) (noticed : Bool) : Run :=
  match r.running[place]? with
  | none => r
  | some p =>
    let result := if r.cancelled && noticed then .cancelled
      else .answered (q.neighbors (q.listQuery p))
    { r with running := r.running.eraseIdx place, finished := r.finished ++ [(p, result)] }

/-- Lets an event happen. -/
def step (q : Request) (r : Run) (e : Event) : Run :=
  match e with
  | .cancel => { r with cancelled := true }
  | .finish place noticed => finishAt q r place noticed
  | .answer =>
    match r.stage with
    | .loading => poll q r true
    | _ => r
  | .advance =>
    match r.stage with
    | .loading => poll q r false
    | .filling => fill q r
    | .joining => join q r
    | .ended _ => r

/-- Lets events happen one after another. -/
def steps (q : Request) (r : Run) (es : List Event) : Run := es.foldl (step q) r

/-- How the run ended, if it has. -/
def outcome? (r : Run) : Option (Except Failure CandidateSet) :=
  match r.stage with
  | .ended outcome => some outcome
  | _ => none

/-- What has been reported so far. -/
def reports (q : Request) (r : Run) : List Log.Record :=
  r.joined.filterMap fun j => q.report? j.1 j.2

end Run

end SimilarItems.Recommend
