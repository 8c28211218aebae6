import SimilarItems.Command.Arguments

/-!
# Completions

Scripts by which shells complete the names of commands.
-/

namespace SimilarItems.Command

/-- The names that complete the first argument. -/
def completedNames : List String := Verb.all.map Verb.name ++ [helpName]

/-- A text in single quotes. -/
def shellQuoted (text : String) : String := "'" ++ text ++ "'"

/-- The script of a shell. -/
def completionScript (shell : Shell) : String :=
  let words := " ".intercalate completedNames
  let quoted := completedNames.map shellQuoted
  match shell with
  | .bash => "complete -W " ++ shellQuoted words ++ " " ++ programName ++ "\n"
  | .elvish =>
    "set edit:completion:arg-completer[" ++ programName ++ "] = \x7b|@words| put "
      ++ words ++ " \x7d\n"
  | .fish => "complete -c " ++ programName ++ " -f -n __fish_use_subcommand -a "
      ++ shellQuoted words ++ "\n"
  | .powershell =>
    "Register-ArgumentCompleter -Native -CommandName " ++ shellQuoted programName
      ++ " -ScriptBlock \x7b param($word) @(" ++ ", ".intercalate quoted
      ++ ") | Where-Object \x7b $_ -like \"$word*\" \x7d \x7d\n"
  | .zsh => "#compdef " ++ programName ++ "\n_arguments '1: :(" ++ words ++ ")'\n"

end SimilarItems.Command
