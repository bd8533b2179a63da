import RaidProvision.Bmc.Failures
import RaidProvision.Layout.Json
import RaidProvision.Session.ToolTask
import RaidProvision.Text.Column

/-!
# Why the program failed (raidmgr specification §7)

A failure is told as a chain: what the program was doing, from the outside inwards, and then the
cause. The first link is the `headline`, all links together are the `message`. At the end of a run
the links stand below one another (`report`). What a reader of TOML or JSON says of a malformed text
is left out, as its own wording is.

* `chain_ne_nil`: every failure has a headline.
-/
namespace RaidProvision

open RaidProvision.Text

/-- An error of a tool as a chain. A command that failed is told twice, as an error of execution and
as itself. -/
def ToolError.chain : ToolError → List String
  | .execution cause => [(ToolError.execution cause).message, cause.message]
  | .report cause => [cause.message]

namespace CommandLine

/-- Why the program failed (§7). -/
inductive Failure where
  | settingsNotRead (path : String) (cause : OsError)
  | settingsRefused (path : String)
  | unknownLevel (name : String)
  | logNotOpened (path : String) (cause : OsError)
  | recordNotRead (path : String) (cause : OsError)
  | recordRefused (path : String) (cause : Json.Fault Layout.Defect)
  /-- No manager supports the machine. -/
  | noController
  | inventory (manager : String) (cause : ToolError)
  | creation (cause : ToolError)
  | deletion (cause : ToolError)
  | passthrough (cause : ToolError)
  /-- There is no inspection service to ask. -/
  | noService
  /-- The management controller was not set up. -/
  | inspection (verdict : String)

namespace Failure

/-- What is told of a text that could not be read. -/
def faultMessage : Json.Fault Layout.Defect → String
  | .malformed => "malformed JSON"
  | .refused cause => cause.message

def chain : Failure → List String
  | settingsNotRead path cause => [s!"reading config {path}", cause.message]
  | settingsRefused path => [s!"parsing config {path}"]
  | unknownLevel name => [s!"unknown log level '{name}'"]
  | logNotOpened path cause => [s!"error opening log file {path}", cause.message]
  | recordNotRead path cause => [s!"reading node record {path}", cause.message]
  | recordRefused path cause => [s!"parsing node record {path}", faultMessage cause]
  | noController => ["no supported RAID controller found"]
  | inventory manager cause => s!"{manager} inventory" :: cause.chain
  | creation cause => "creating raid configuration" :: cause.chain
  | deletion cause => "deleting raid configuration" :: cause.chain
  | passthrough cause => "setting JBOD mode" :: cause.chain
  | noService => ["[inspection] callback_url is not set"]
  | inspection verdict => [verdict]

theorem chain_ne_nil (failure : Failure) : failure.chain ≠ [] := by
  cases failure <;> simp [chain]

/-- The first link. -/
def headline (failure : Failure) : String := failure.chain.head failure.chain_ne_nil

/-- All links. -/
def message (failure : Failure) : String := ": ".intercalate failure.chain

/-- A text behind a mark, with its other lines set in. -/
def setIn (mark inset text : String) : String :=
  mark ++ ("\n" ++ inset).intercalate (pieces '\n' text)

/-- Causes, one below the other. If there are several, they are numbered. -/
def causesText : List String → String
  | [] => ""
  | [cause] => "\n\nCaused by:\n" ++ setIn "    " "    " cause
  | causes => "\n\nCaused by:" ++ String.join (causes.mapIdx fun i cause =>
      "\n" ++ setIn (padLeft 5 (Nat.repr i) ++ ": ") "       " cause)

/-- The first link, with the others below it as its causes. -/
def report (failure : Failure) : String := failure.headline ++ causesText failure.chain.tail

end Failure
end CommandLine
end RaidProvision
