import RaidProvision.Manager.Basic

/-!
# Invocations (raidmgr specification §10)

An `Invocation` is what the program is asked to do: one action, and options that hold for every
action.
-/
namespace RaidProvision.CommandLine

/-- Which manager to use (§10). -/
inductive Vendor where
  /-- The one that supports the machine best. -/
  | auto
  | only (family : Family)
  deriving DecidableEq, Repr

def Vendor.ofText? : String → Option Vendor
  | "auto" => some .auto
  | "arcconf" => some (.only .arcconf)
  | "megacli" => some (.only .megacli)
  | _ => none

/-- A shell that completes arguments. -/
inductive Shell where
  | bash
  | elvish
  | fish
  | powershell
  | zsh
  deriving DecidableEq, Repr

def Shell.ofText? : String → Option Shell
  | "bash" => some .bash
  | "elvish" => some .elvish
  | "fish" => some .fish
  | "powershell" => some .powershell
  | "zsh" => some .zsh
  | _ => none

/-- What to do (§10). -/
inductive Action where
  /-- Say how well each manager supports the machine. -/
  | detect
  /-- Print the inventory, as a table or as JSON. -/
  | inventory (json : Bool)
  /-- Build the layout of the record in a file. -/
  | create (record : String)
  /-- Delete all logical drives. -/
  | delete
  /-- Print the steps that clean a machine. -/
  | cleanSteps
  /-- Switch whether drives outside of any logical drive are passed through. -/
  | jbod (on : Bool)
  /-- Set up the management controller. -/
  | setBmc
  /-- Print the settings. -/
  | config
  /-- Print what makes a shell complete arguments. -/
  | completions (shell : Shell)
  deriving DecidableEq, Repr

/-- An action with the options (§10). -/
structure Invocation where
  /-- The file of the settings, if one is named. -/
  config : Option String
  vendor : Vendor
  /-- The level of the log, if it is not that of the settings. -/
  logLevel : Option String
  action : Action
  deriving DecidableEq, Repr

end RaidProvision.CommandLine
