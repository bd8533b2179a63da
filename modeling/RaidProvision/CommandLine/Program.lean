import RaidProvision.CommandLine.Perform

/-!
# The program (raidmgr specification §10)

The program reads its arguments, does what they ask for, and ends with a code and what it has to say
about an error: code 0 if nothing failed, 1 if the action did, 2 if the arguments name none.

* `program_of_ofArguments_eq_error`: arguments that name no action ask nothing of the machine.
-/
namespace RaidProvision.CommandLine

/-- How the program ends. -/
structure Ending where
  code : Nat
  /-- What is told of the error, if there is one. -/
  error : Option String
  deriving DecidableEq, Repr

/-- What is printed when help is asked for. -/
def helpText : String :=
  "RAID controller inventory and provisioning\n\n" ++
    s!"Usage: {programName} [OPTIONS] <COMMAND>\n\nCommands:\n" ++
    String.join (completionWords.map fun word => "  " ++ word ++ "\n") ++
    "\nOptions:\n  -c, --config <CONFIG>\n      --vendor <VENDOR>\n" ++
    "      --log-level <LOG_LEVEL>\n  -h, --help\n  -V, --version\n"

namespace UsageError

/-- What is wrong with the arguments. -/
def message : UsageError → String
  | help | version | nothingGiven => ""
  | missingSubcommand => "a subcommand is required but none was given"
  | unknownSubcommand => "unrecognized subcommand"
  | unknownArgument => "unexpected argument"
  | missingOperand => "a required argument was not given"
  | invalidValue => "invalid value"
  | givenTwice => "an argument cannot be used multiple times"
  | needlessValue => "unexpected value for an argument"

/-- How the program ends with arguments that name no action. -/
def ending : UsageError → Script Ending
  | help => (Script.print helpText).bind fun _ => .done ⟨0, none⟩
  | version => (Script.print s!"{programName} {programVersion}\n").bind fun _ => .done ⟨0, none⟩
  | nothingGiven => .done ⟨2, some helpText⟩
  | other => .done ⟨2, some s!"error: {other.message}"⟩

end UsageError

/-- How the program ends with the result of an action. -/
def endingOf : Except Failure Unit → Ending
  | .ok () => ⟨0, none⟩
  | .error failure => ⟨1, some s!"Error: {failure.report}"⟩

/-- The whole program (§10). -/
def program (directory : Option String) (arguments : List String) : Script Ending :=
  match Invocation.ofArguments arguments with
  | .error e => e.ending
  | .ok invocation =>
    (invocation.perform directory).script.bind fun result => .done (endingOf result)

theorem program_of_ofArguments_eq_error (directory : Option String) {arguments : List String}
    {e : UsageError} (h : Invocation.ofArguments arguments = .error e) (host : Host) :
    ((program directory arguments).run host).commands = [] := by
  cases e <;> simp [program, h, UsageError.ending, Script.print, Script.bind, Script.run,
    Outcome.commands]

end RaidProvision.CommandLine
