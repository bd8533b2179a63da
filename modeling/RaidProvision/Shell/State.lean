import RaidProvision.Shell.Statement
import RaidProvision.System.Work

/-!
# The state of a shell

A shell has variables, functions, parameters and descriptors. Its statements change them, and a
statement may also leave loops, functions or the shell. A subshell works on a copy of the state;
only the system is one and the same.

* `held?_assign`: a variable holds what was assigned to it.
-/
namespace RaidProvision.Shell

/-- A variable. It may be marked before it has a value. -/
structure Variable where
  value? : Option String
  exported : Bool
  readOnly : Bool
  deriving DecidableEq, Repr, Inhabited

/-- The state of a shell. -/
structure State where
  system : System
  directory : Way
  bindings : List (String × Variable)
  functions : List (String × Statement)
  parameters : List String
  /-- What the shell calls itself. -/
  name : String
  line : Nat
  /-- The status of the last command. -/
  status : Nat
  /-- The status of the last command whose output was taken. -/
  outputStatus : Nat
  /-- Letters of the options that are set. -/
  options : List Char
  descriptors : List (Nat × Nat)
  /-- How many loops are being run. -/
  loops : Nat
  /-- What variables were before they became local, for each function that is being run. -/
  locals : List (List (String × Option Variable))
  /-- Whether a failure is looked at. -/
  tested : Bool
  /-- What is run at a signal, or at the end. -/
  traps : List (String × String)
  /-- The statuses of the commands that were put into the background. -/
  jobs : List Nat
  /-- How many letters of the argument at hand `getopts` has seen. -/
  optionOffset : Nat
  /-- Names and the texts that they stand for where a command begins. -/
  aliases : List (String × String)
  /-- Whether `echo` prints its arguments as they are. -/
  plainEcho : Bool

/-- How statements are left before their end. -/
inductive Leave where
  | breaks (loops : Nat)
  | continues (loops : Nat)
  | returns (status : Nat)
  | exits (status : Nat)
  /-- Something cannot be done, and was complained about. -/
  | faults
  | killed (signal : Nat)
  deriving DecidableEq, Repr

/-- What a statement does. -/
abbrev Action (α : Type) := ExceptT Leave (StateM State) α

namespace State

def held? (state : State) (name : String) : Option Variable := state.bindings.lookup name

/-- Changes a variable. -/
def putVariable (state : State) (name : String) (held : Variable) : State :=
  { state with bindings := (name, held) :: state.bindings.filter (·.1 != name) }

def dropVariable (state : State) (name : String) : State :=
  { state with bindings := state.bindings.filter (·.1 != name) }

/-- Gives a value to a variable. -/
def assign (state : State) (name value : String) : State :=
  let held := (state.held? name).getD ⟨none, false, false⟩
  let exported := held.exported || state.options.contains 'a'
  state.putVariable name { held with value? := some value, exported := exported }

theorem held?_assign (state : State) (name value : String) :
    ((state.assign name value).held? name).bind Variable.value? = some value := by
  simp [assign, putVariable, held?]

/-- The value of a variable. -/
def value? (state : State) (name : String) : Option String :=
  (state.held? name).bind Variable.value?

/-- The characters that separate words in a value. -/
def separators (state : State) : List Char :=
  ((state.value? "IFS").map String.toList).getD [' ', '\t', '\n']

/-- The variables that programs are given. -/
def environment (state : State) : List (String × String) :=
  state.bindings.reverse.filterMap fun (name, held) =>
    if held.exported then held.value?.map fun value => (name, value) else none

/-- Where programs are looked for. -/
def places (state : State) : List String :=
  ((state.value? "PATH").map (Text.pieces ':')).getD []

/-- The number that a shell knows itself by. -/
def processNumber : Nat := 1000

/-- The value of a parameter that is one text. -/
def parameter? (state : State) (name : String) : Option String :=
  match name with
  | "#" => some (Nat.repr state.parameters.length)
  | "?" => some (Nat.repr state.status)
  | "-" => some (String.ofList state.options)
  | "$" => some (Nat.repr processNumber)
  | "!" =>
    if state.jobs.isEmpty then none else some (Nat.repr (processNumber + state.jobs.length))
  | "0" => some state.name
  | name =>
    match name.toNat? with
    | some n => if n = 0 then some state.name else state.parameters[n - 1]?
    | none => state.value? name

/-- What a program has from the shell. -/
def process (state : State) (name : String) : Process :=
  ⟨name, state.directory, state.descriptors, state.environment⟩

/-- The state of a subshell. -/
def subshell (state : State) : State := { state with traps := [] }

end State

namespace Action

/-- Has a program work. -/
def work {α : Type} (name : String) (work : Work α) : Action α := do
  let state ← get
  let (a, system) := (work (state.process name)).run state.system
  set { state with system := system }
  return a

/-- What the shell puts in front of a complaint. -/
def place : Action String := return s!"{(← get).name}: {(← get).line}"

/-- Has a builtin work. -/
def builtin {α : Type} (name : String) (task : Work α) : Action α := do
  work s!"{← place}: {name}" task

/-- Complains. -/
def complain (text : String) : Action Unit := do work (← place) (Work.complain text)

/-- Complains and leaves what cannot be done. -/
def abort {α : Type} (text : String) : Action α := do
  complain text
  throw .faults

def setStatus (status : Nat) : Action Unit := modify fun state => { state with status := status }

/-- Gives a value to a variable, unless it is marked. -/
def assign (name value : String) : Action Unit := do
  let state ← get
  if (state.held? name).any Variable.readOnly then abort s!"{name}: is read only"
  else set (state.assign name value)

/-- The status that is left behind by what leaves a shell. A signal that ends the shell is let
through. -/
def statusOfLeave (last : Nat) : Except Leave Unit → Except Leave Nat
  | .ok () => .ok last
  | .error (.exits status) => .ok status
  | .error (.returns status) => .ok status
  | .error .faults => .ok 2
  | .error (.killed signal) => .error (.killed signal)
  | .error _ => .ok last

/-- Runs an action in a subshell. Returns the status that it ends with. -/
def inSubshell (action : Action Unit) : Action Nat := do
  let state ← get
  let (result, after) := action.run state.subshell
  set { state with system := after.system }
  MonadExcept.ofExcept (statusOfLeave after.status result)

/-- Runs an action with other descriptors. -/
def withDescriptors {α : Type} (descriptors : List (Nat × Nat)) (action : Action α) :
    Action α := do
  let saved := (← get).descriptors
  modify fun state => { state with descriptors := descriptors }
  let (result, after) := action.run (← get)
  set { after with descriptors := saved }
  MonadExcept.ofExcept result

/-- Runs an action with a failure looked at or not. -/
def withTested {α : Type} (tested : Bool) (action : Action α) : Action α := do
  let saved := (← get).tested
  modify fun state => { state with tested := tested }
  let (result, after) := action.run (← get)
  set { after with tested := saved }
  MonadExcept.ofExcept result

end Action
end RaidProvision.Shell
