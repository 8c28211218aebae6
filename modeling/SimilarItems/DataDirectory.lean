/-!
# The data directory

Where settings and embeddings are kept: a directory named in the environment, or one in the user's
home.
-/

namespace SimilarItems.DataDirectory

/-- A path with a name appended. A path that is empty or ends in a slash needs none in between. -/
def join (path name : String) : String :=
  if path.isEmpty || path.endsWith "/" then path ++ name else path ++ "/" ++ name

/-- The data directory: the one that is named, else one in the home directory, else one in the
working directory. -/
def resolve (named : Option String) (home : Option String) : String :=
  match named, home with
  | some dir, _ => dir
  | none, some home => join home ".seedrank"
  | none, none => ".seedrank"

/-- The settings file in a data directory. -/
def settingsPath (dir : String) : String := join dir "config.toml"

/-- The address of the table in a data directory. -/
def tableAddress (dir : String) : String := "sqlite://" ++ join dir "seedrank.db" ++ "?mode=rwc"

end SimilarItems.DataDirectory
