import RaidProvision.CommandLine.Arguments

/-!
# Completing arguments

What a shell has to read so that it completes the names of subcommands.

* `mem_words`: every subcommand is completed.
-/
namespace RaidProvision.CommandLine

/-- The name of the program. -/
def programName : String := "raidmgr"

/-- The words that are completed. -/
def completionWords : List String := Subcommand.all.map Subcommand.name ++ [helpName]

theorem mem_words (s : Subcommand) : s.name ∈ completionWords := by
  simp only [completionWords, List.mem_append, List.mem_map]
  exact .inl ⟨s, by cases s <;> simp [Subcommand.all], rfl⟩

/-- The words with a space between them. -/
def spacedWords : String := " ".intercalate completionWords

/-- The words in quotes with something between them. -/
def quotedWords (separator : String) : String :=
  separator.intercalate (completionWords.map fun word => "'" ++ word ++ "'")

/-- What a shell has to read. -/
def Shell.completion : Shell → String
  | bash => s!"complete -W '{spacedWords}' {programName}\n"
  | elvish => s!"set edit:completion:arg-completer[{programName}] = " ++
      "\x7b|@words| put " ++ spacedWords ++ " \x7d\n"
  | fish => s!"complete -c {programName} -f -n __fish_use_subcommand -a '{spacedWords}'\n"
  | powershell => s!"Register-ArgumentCompleter -Native -CommandName {programName} -ScriptBlock " ++
      "\x7b " ++ quotedWords ", " ++ " \x7d\n"
  | zsh => s!"compctl -k '({spacedWords})' {programName}\n"

end RaidProvision.CommandLine
