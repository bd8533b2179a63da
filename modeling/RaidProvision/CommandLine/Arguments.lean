import RaidProvision.CommandLine.Invocation

/-!
# Reading arguments (raidmgr specification §10)

Arguments are options, then the name of a subcommand, then options of the subcommand and its
operand. The options with a value may stand on both levels; those behind the subcommand count. A
value follows its option, or is attached to it; after `--` nothing is an option.

A value is looked at only when the next argument has been, so that an argument that is not known is
reported before the value in front of it. `Level` holds what one level was given so far.

* `Level.settle_eq_self`: a level that waits for nothing is settled.
* `ofArguments_nil`: without arguments there is nothing to do.
-/
namespace RaidProvision.CommandLine

/-- Why arguments name no action. -/
inductive UsageError where
  /-- Help was asked for. -/
  | help
  /-- The version was asked for. -/
  | version
  /-- No arguments were given. -/
  | nothingGiven
  | missingSubcommand
  | unknownSubcommand
  | unknownArgument
  /-- The operand of a subcommand was not given. -/
  | missingOperand
  /-- A value is not one of those allowed, or not given. -/
  | invalidValue
  /-- An option was given twice on one level. -/
  | givenTwice
  /-- A value was given for an option that has none. -/
  | needlessValue
  deriving DecidableEq, Repr

/-- The subcommands (§10). -/
inductive Subcommand where
  | detect
  | inventory
  | create
  | delete
  | cleanSteps
  | jbod
  | setBmc
  | config
  | completions
  deriving DecidableEq, Repr

/-- What stands for the operand of a subcommand. -/
inductive Operand where
  | record (path : String)
  | switch (on : Bool)
  | shell (shell : Shell)
  deriving DecidableEq, Repr

namespace Subcommand

def all : List Subcommand :=
  [detect, inventory, create, delete, cleanSteps, jbod, setBmc, config, completions]

def name : Subcommand → String
  | detect => "detect"
  | inventory => "inventory"
  | create => "create"
  | delete => "delete"
  | cleanSteps => "clean-steps"
  | jbod => "jbod"
  | setBmc => "set-bmc"
  | config => "config"
  | completions => "completions"

def ofText? (text : String) : Option Subcommand := all.find? fun s => s.name = text

theorem ofText?_name (s : Subcommand) : ofText? s.name = some s := by cases s <;> rfl

def hasOperand : Subcommand → Bool
  | create | jbod | completions => true
  | _ => false

/-- The operand that a text stands for. -/
def operand? : Subcommand → String → Option Operand
  | create, path => if path.isEmpty then none else some (.record path)
  | jbod, "on" => some (.switch true)
  | jbod, "off" => some (.switch false)
  | completions, text => (Shell.ofText? text).map .shell
  | _, _ => none

/-- The action of a subcommand with its own options and its operand. -/
def action? : Subcommand → Bool → Option Operand → Option Action
  | detect, _, _ => some .detect
  | inventory, json, _ => some (.inventory json)
  | create, _, some (.record path) => some (.create path)
  | delete, _, _ => some .delete
  | cleanSteps, _, _ => some .cleanSteps
  | jbod, _, some (.switch on) => some (.jbod on)
  | setBmc, _, _ => some .setBmc
  | config, _, _ => some .config
  | completions, _, some (.shell shell) => some (.completions shell)
  | _, _, _ => none

end Subcommand

/-- The name under which help on subcommands is asked for. -/
def helpName : String := "help"

/-- Whether a text names a subcommand or asks for help on one. -/
def isSubcommandName (text : String) : Bool :=
  text = helpName || (Subcommand.ofText? text).isSome

/-- What takes a value. -/
inductive Slot where
  | config
  | vendor
  | logLevel
  | operand
  deriving DecidableEq, Repr

/-- What an option does. -/
inductive Flag where
  | value (slot : Slot)
  | json
  | help
  | version
  deriving DecidableEq, Repr

/-- What one level of arguments was given so far. The level in front of the subcommand has none. -/
structure Level where
  subcommand : Option Subcommand
  config : Option String := none
  vendor : Option Vendor := none
  logLevel : Option String := none
  json : Bool := false
  operand : Option Operand := none
  /-- A value that is not looked at yet, or the option that waits for one. -/
  pending : Option (Slot × Option String) := none
  /-- Whether nothing is an option any more. -/
  trailing : Bool := false
  deriving DecidableEq, Repr

namespace Level

/-- Whether a value was given. -/
def has (level : Level) : Slot → Bool
  | .config => level.config.isSome
  | .vendor => level.vendor.isSome
  | .logLevel => level.logLevel.isSome
  | .operand => level.operand.isSome

/-- Puts a value into its slot, if it is one that is allowed there. -/
def put (level : Level) (slot : Slot) (value : String) : Option Level :=
  match slot with
  | .config => if value.isEmpty then none else some { level with config := some value }
  | .vendor => (Vendor.ofText? value).map fun vendor => { level with vendor := some vendor }
  | .logLevel => some { level with logLevel := some value }
  | .operand => do
    let operand ← (← level.subcommand).operand? value
    return { level with operand := some operand }

/-- Gives a value to a slot. -/
def give (level : Level) (slot : Slot) (value : String) : Except UsageError Level :=
  if level.has slot then .error .givenTwice
  else
    match level.put slot value with
    | some level => .ok level
    | none => .error .invalidValue

/-- Looks at the value that is not looked at yet. -/
def settle (level : Level) : Except UsageError Level :=
  match level.pending with
  | none => .ok level
  | some (_, none) => .error .invalidValue
  | some (slot, some value) => { level with pending := none }.give slot value

theorem settle_eq_self {level : Level} (h : level.pending = none) : level.settle = .ok level := by
  simp [settle, h]

/-- The slot that waits for its value. -/
def awaiting? (level : Level) : Option Slot :=
  match level.pending with
  | some (slot, none) => some slot
  | _ => none

/-- Whether the next word can be the operand. -/
def wantsOperand (level : Level) : Bool :=
  level.subcommand.any Subcommand.hasOperand && level.operand.isNone &&
    !level.pending.any fun (slot, _) => slot = .operand

/-- The option of a long name. -/
def longFlag? (level : Level) : String → Option Flag
  | "config" => some (.value .config)
  | "vendor" => some (.value .vendor)
  | "log-level" => some (.value .logLevel)
  | "json" => if level.subcommand = some .inventory then some .json else none
  | "help" => some .help
  | "version" => if level.subcommand.isNone then some .version else none
  | _ => none

/-- The option of a letter. -/
def shortFlag? (level : Level) : Char → Option Flag
  | 'c' => some (.value .config)
  | 'h' => some .help
  | 'V' => if level.subcommand.isNone then some .version else none
  | _ => none

/-- Takes an option, with a value if one is attached. -/
def takeFlag (level : Level) (flag : Flag) (attached : Option String) : Except UsageError Level :=
  match flag, attached with
  | .value slot, some value => level.settle.bind fun level => level.give slot value
  | .value slot, none => level.settle.map fun level => { level with pending := some (slot, none) }
  | _, some _ => .error .needlessValue
  | .json, none =>
    level.settle.bind fun level =>
      if level.json then .error .givenTwice else .ok { level with json := true }
  | .help, none => level.settle.bind fun _ => .error .help
  | .version, none => level.settle.bind fun _ => .error .version

/-- Takes a long option without its dashes. -/
def takeLong (level : Level) (text : List Char) : Except UsageError Level :=
  match level.longFlag? (String.ofList (text.takeWhile (· != '='))) with
  | none => .error .unknownArgument
  | some flag =>
    level.takeFlag flag <|
      match text.dropWhile (· != '=') with
      | [] => none
      | _ :: value => some (String.ofList value)

/-- Takes a letter with what is attached to it. Of the letters without a value none goes on. -/
def takeShort (level : Level) (letter : Char) (rest : List Char) : Except UsageError Level :=
  match level.shortFlag? letter with
  | none => .error .unknownArgument
  | some (.value slot) =>
    level.takeFlag (.value slot) <|
      match rest with
      | [] => none
      | '=' :: value => some (String.ofList value)
      | value => some (String.ofList value)
  | some flag => level.takeFlag flag none

/-- Takes a word that is neither an option nor the value of one. -/
def takeWord (level : Level) (word : String) : Except UsageError Level :=
  if level.wantsOperand then
    level.settle.map fun level => { level with pending := some (.operand, some word) }
  else
    .error <|
      match level.subcommand with
      | some _ => .unknownArgument
      | none =>
        if level.trailing && isSubcommandName word then .unknownArgument else .unknownSubcommand

/-- Takes one argument. -/
def take (level : Level) (argument : String) : Except UsageError Level :=
  if level.trailing then level.takeWord argument
  else
    match argument.toList with
    | ['-', '-'] => .ok { level with trailing := true }
    | '-' :: '-' :: text => level.takeLong text
    | '-' :: letter :: rest => level.takeShort letter rest
    | _ =>
      match level.awaiting? with
      | some slot => .ok { level with pending := some (slot, some argument) }
      | none => level.takeWord argument

/-- Whether an argument can name a subcommand here. -/
def opensSubcommand (level : Level) : Bool := !level.trailing && level.awaiting?.isNone

/-- Whether any option was given. -/
def isBlank (level : Level) : Bool :=
  level.config.isNone && level.vendor.isNone && level.logLevel.isNone

end Level

/-- What asking for help on some subcommands comes to. No subcommand has any of its own. -/
def helpOn : List String → UsageError
  | [] => .help
  | [name] => if isSubcommandName name then .help else .unknownSubcommand
  | _ => .unknownSubcommand

/-- Reads the arguments behind a subcommand. -/
def readSubcommand (s : Subcommand) (arguments : List String) :
    Except UsageError (Level × Action) := do
  let level ← arguments.foldlM Level.take { subcommand := some s }
  let level ← level.settle
  match s.action? level.json level.operand with
  | some action => return (level, action)
  | none => throw .missingOperand

/-- Reads arguments from the front level on. The subcommand with everything behind it comes before
what is still to be looked at in front of it. -/
def readArguments (front : Level) : List String → Except UsageError Invocation
  | [] => do
    let front ← front.settle
    throw (if front.isBlank then .nothingGiven else .missingSubcommand)
  | argument :: rest =>
    if front.opensSubcommand && argument = helpName then .error (helpOn rest)
    else
      match if front.opensSubcommand then Subcommand.ofText? argument else none with
      | some s => do
        let (inner, action) ← readSubcommand s rest
        let front ← front.settle
        return {
          config := inner.config <|> front.config
          vendor := (inner.vendor <|> front.vendor).getD .auto
          logLevel := inner.logLevel <|> front.logLevel
          action := action }
      | none => do
        let front ← front.take argument
        readArguments front rest

/-- What some arguments ask for (§10). -/
def Invocation.ofArguments (arguments : List String) : Except UsageError Invocation :=
  readArguments { subcommand := none } arguments

theorem Invocation.ofArguments_nil : Invocation.ofArguments [] = .error .nothingGiven := rfl

end RaidProvision.CommandLine
