import SimilarItems.Command.Arguments
import SimilarItems.Command.Folder
import SimilarItems.Command.Run

/-!
# Sessions

Commands one after another, on one store and in one directory.
-/

namespace SimilarItems.Command

/-- What commands leave to those after them. -/
structure Session where
  /-- The store. -/
  store : Store
  /-- The working directory. -/
  folder : Folder

/-- The answer to arguments. -/
inductive Reply where
  /-- They gave no command. -/
  | noCommand (reason : NoCommand)
  /-- They gave a command, with an outcome. -/
  | done (command : Command) (outcome : Outcome)

namespace Session

/-- A session with an empty store. -/
def start (settings : Settings) (folder : Folder) : Session :=
  ⟨.empty settings.embeddings.dimension, folder⟩

/-- What a command finds around it. -/
def surroundings (now : Instant) (settings : Settings) (s : Session) : Surroundings :=
  ⟨now, settings, s.folder.read?, Folder.canCreate⟩

/-- The directory after a command. -/
def folderAfter (f : Folder) (o : Outcome) : Folder :=
  match o.file with
  | some file => f.write file.path file.content
  | none => f

/-- Carries out an invocation. -/
def invoke (now : Instant) (settings : Settings) (s : Session) (i : Invocation) :
    Session × Outcome :=
  let (store, outcome) := run (s.surroundings now settings) s.store i.json i.command
  (⟨store, folderAfter s.folder outcome⟩, outcome)

/-- Answers arguments. -/
def answer (now : Instant) (settings : Settings) (s : Session) (args : List String) :
    Session × Reply :=
  match Invocation.parse args with
  | .error reason => (s, .noCommand reason)
  | .ok i =>
    let (s, outcome) := s.invoke now settings i
    (s, .done i.command outcome)

end Session

end SimilarItems.Command
