import SimilarItems.Command.Completions
import SimilarItems.Command.Outcome
import SimilarItems.Command.Report
import SimilarItems.Embedding.Lines
import SimilarItems.Neighbors.Lines
import SimilarItems.Settings
import SimilarItems.Store.Page

/-!
# Carrying out commands

A command takes a store to a store, and has an outcome. What it finds around it is given: the
present instant, the settings, and what can be done with paths.
-/

namespace SimilarItems.Command

/-- What a command finds around it. -/
structure Surroundings where
  /-- The present instant. -/
  now : Instant
  /-- The settings that hold. -/
  settings : Settings
  /-- The content of the file that a path leads to, if it can be read. -/
  read? : String → Option ByteArray
  /-- Whether a file can be created at a path. -/
  canCreate : String → Bool

/-- Stores an embedding. -/
def runPut (a : Surroundings) (s : Store) (json : Bool) (item vector : String) : Store × Outcome :=
  match Components.parse vector with
  | .error fault => (s, .failed (.component fault))
  | .ok components =>
    let e : Embedding := ⟨item, components, a.now⟩
    match s.put e with
    | .error error => (s, .failed (.store error))
    | .ok s => (s, .printed (if json then Report.json e.toJson else Report.stored e))

/-- The embeddings in a file. -/
def loadFile (a : Surroundings) (path : String) : Except Failure (List Embedding) :=
  match (a.read? path).bind String.fromUTF8? with
  | none => .error (.unreadable path)
  | some text => (Embedding.ofLines a.now text).mapError .record

/-- Stores the embeddings of a file. -/
def runLoad (a : Surroundings) (s : Store) (json : Bool) (path : String) : Store × Outcome :=
  match loadFile a path with
  | .error f => (s, .failed f)
  | .ok es =>
    match s.putMany es with
    | .error error => (s, .failed (.store error))
    | .ok s =>
      (s, .printed (if json then Report.json (Report.loadedJson es.length path)
        else Report.loaded es.length path))

/-- Shows an embedding. -/
def runGet (s : Store) (json : Bool) (item : String) : Outcome :=
  .ofExcept (((s.get item).map fun e =>
    if json then Report.json e.toJson else Report.embedding e).mapError (.ofLookup item))

/-- Deletes an embedding. -/
def runDelete (s : Store) (json : Bool) (item : String) : Store × Outcome :=
  match s.delete item with
  | .error error => (s, .failed (.store error))
  | .ok s =>
    (s, .printed (if json then Report.json (Report.deletedJson item) else Report.deleted item))

/-- Lists the items most similar to an item. -/
def runSimilar (s : Store) (json : Bool) (item : String) (count : Nat) : Outcome :=
  match s.similar item count with
  | .error error => .failed (.ofLookup item error)
  | .ok found =>
    let output := if json then Report.json (.array (found.scores.map Score.toJson))
      else Report.similar item found.scores
    { Outcome.printed output with warnings := found.warning?.toList }

/-- Shows embeddings by rising item. -/
def runScan (s : Store) (json : Bool) (offset : Nat) (limit : Option Nat) : Outcome :=
  .ofExcept (((s.scanPage (.ofNat offset) (limit.map .ofNat)).map fun es =>
    if json then Report.json (.array (es.map Embedding.toJson))
    else Report.page offset es).mapError .store)

/-- What stopped a run, if anything did. -/
def stopOf : Neighbors.Ending → Option Failure
  | .stopped e => some (.run e)
  | _ => none

/-- What becomes of a run whose lists are printed. -/
def printedLists (p : Neighbors.Progress Neighbors.Written) (stop : Option Failure) : Outcome :=
  { output := p.memory.text
    notice := if stop.isSome then "" else Report.listNotice p.summary
    file := none
    failure := stop
    warnings := p.warnings }

/-- What becomes of a run whose lists are written to a file. -/
def filedLists (json : Bool) (neighbors : Nat) (path : String)
    (p : Neighbors.Progress Neighbors.Written) (stop : Option Failure) : Outcome :=
  { output := if stop.isSome then ""
      else if json then Report.json (Report.listsJson neighbors p.summary)
      else Report.lists p.summary
    notice := ""
    file := some ⟨path, p.memory.text⟩
    failure := stop
    warnings := p.warnings }

/-- Writes the neighbor lists of all items. A file is created before the first list is found. -/
def runNeighbors (a : Surroundings) (s : Store) (json : Bool) (count : Option Nat)
    (output : Option String) : Outcome :=
  let neighbors := count.getD a.settings.recommend.numSimilar
  let plan : Neighbors.Plan := ⟨neighbors, a.settings.embeddings.scanPageSize⟩
  let (p, ending) := plan.write (fun _ => false) s
  match output with
  | none => printedLists p (stopOf ending)
  | some path =>
    if a.canCreate path then filedLists json neighbors path p (stopOf ending)
    else .failed (.notCreated path)

/-- Carries out a command, with output as JSON or for people. -/
def run (a : Surroundings) (s : Store) (json : Bool) : Command → Store × Outcome
  | .put item vector => runPut a s json item vector
  | .load path => runLoad a s json path
  | .get item => (s, runGet s json item)
  | .delete item => runDelete s json item
  | .similar item count => (s, runSimilar s json item count)
  | .scan offset limit => (s, runScan s json offset limit)
  | .neighbors count output => (s, runNeighbors a s json count output)
  | .completions shell => (s, .printed (completionScript shell))

end SimilarItems.Command
