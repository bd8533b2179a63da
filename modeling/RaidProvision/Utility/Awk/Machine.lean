import RaidProvision.Regex.Reader
import RaidProvision.Utility.Awk.Lexer
import RaidProvision.Utility.Launch
import RaidProvision.Utility.Passing

/-!
# The state of a script for records

A script has a record with its fields, variables and arrays, and functions have their own ones.
Records come from files, from the standard input, or from what commands print; what is printed may
go to files or commands.

* `getScalar_setScalar`: a variable holds what was assigned to it.
-/
namespace RaidProvision.Awk

open RaidProvision.Utility

/-- What a parameter of a function stands for. -/
inductive Slot where
  | scalar (cell : Cell)
  /-- An array, or a variable of which nothing is known yet. -/
  | array (name : String)

/-- The elements of an array, the latest one first. -/
abbrev Elements := List (String × Cell)

structure Machine where
  bindings : List (String × Cell)
  arrays : List (String × Elements)
  /-- The parameters of the functions that are being run, the innermost first. -/
  frames : List (List (String × Slot))
  /-- How many arrays of functions there were. -/
  locals : Nat
  record : Cell
  fields : List Cell
  /-- What is left of the input that is being read. -/
  input : Option (List Char)
  /-- The operands that are left. -/
  operands : List String
  /-- Whether some operand named an input. -/
  hasInput : Bool
  /-- What is left of files and outputs that are read apart from the input. -/
  sources : List (String × List Char)
  /-- The files that were written. -/
  written : List String
  /-- What is given to commands when they are run. -/
  outlets : List (String × String)
  /-- The ranges that have begun. -/
  active : List Nat
  status : Nat

/-- How a statement is left before its end. -/
inductive Jump where
  | breaks
  | continues
  | nextRecord
  | nextFile
  | exits
  | gives (cell : Cell)
  | fault (text : String)

abbrev Processing (α : Type) := ExceptT Jump (StateT Machine Work) α

/-- Runs a task for its result, which may be a jump. -/
def observe {α : Type} (task : Processing α) : Processing (Except Jump α) := ExceptT.lift task.run

/-! ## Variables -/

namespace Machine

/-- The number of fields is kept with the fields. -/
def fieldCount : String := "NF"

/-- A variable outside of functions. -/
def getScalar (machine : Machine) (name : String) : Cell :=
  if name = fieldCount then .ofNat machine.fields.length
  else (machine.bindings.lookup name).getD .unset

/-- The text of a variable. -/
def text (machine : Machine) (name : String) : String :=
  (machine.getScalar name).toText "%.6g"

/-- The format for numbers that become texts. -/
def format (machine : Machine) : String := machine.text "CONVFMT"

/-- A cell as a text. -/
def textOf (machine : Machine) (cell : Cell) : String := cell.toText machine.format

/-- Puts the fields together to a record. -/
def joinFields (machine : Machine) : Machine :=
  let parts := machine.fields.map machine.textOf
  { machine with record := .text ((machine.text "OFS").intercalate parts) }

/-- Changes the number of fields. -/
def setCount (machine : Machine) (count : Nat) : Machine :=
  let fields := machine.fields.take count
  let missing := List.replicate (count - fields.length) Cell.unset
  { machine with fields := fields ++ missing }.joinFields

/-- Assigns to a variable outside of functions. -/
def setScalar (machine : Machine) (name : String) (cell : Cell) : Machine :=
  if name = fieldCount then machine.setCount cell.toNumber.toInt.toNat
  else
    { machine with
      bindings := (name, cell) :: machine.bindings.filter (·.1 != name) }

theorem getScalar_setScalar (machine : Machine) (name : String) (cell : Cell)
    (h : name ≠ fieldCount) : (machine.setScalar name cell).getScalar name = cell := by
  simp [setScalar, getScalar, h]

def slot? (machine : Machine) (name : String) : Option Slot :=
  (machine.frames.head?).bind (List.lookup name)

def setSlot (machine : Machine) (name : String) (slot : Slot) : Machine :=
  match machine.frames with
  | frame :: rest =>
    { machine with frames := ((name, slot) :: frame.filter (·.1 != name)) :: rest }
  | [] => machine

def elements (machine : Machine) (array : String) : Elements :=
  (machine.arrays.lookup array).getD []

def setElements (machine : Machine) (array : String) (elements : Elements) : Machine :=
  { machine with arrays := (array, elements) :: machine.arrays.filter (·.1 != array) }

/-! ## Records -/

/-- The parts of a text between matches of an expression. `fuel` bounds their number. -/
def splitAt (r : Regex) : (fuel : Nat) → Position → List (List Char)
  | 0, place => [place.rest]
  | fuel + 1, place =>
    match r.find? false (fun start finish => finish.rest.length < start.rest.length) place with
    | some found =>
      place.upTo found.start :: splitAt r fuel { found.finish with groups := [] }
    | none => [place.rest]

/-- The expression that a text stands for, or one that is nowhere found. -/
def regexOf (s : String) : Regex :=
  match Regex.ofText .extended (String.ofList (plainPattern s.toList)) with
  | .ok r => r
  | .error _ => .member ⟨false, [], []⟩

/-- The parts of a text with a separator, where a blank stands for all white space. -/
def splitText (separator s : String) : List String :=
  match separator.toList with
  | [] => s.toList.map Char.toString
  | [' '] => ((s.toList.splitOnP isBlank).filter (!·.isEmpty)).map String.ofList
  | [c] => if s.isEmpty then [] else Text.pieces c s
  | _ =>
    if s.isEmpty then []
    else (splitAt (regexOf separator) s.length (.ofText s.toList)).map String.ofList

/-- Puts another record in the place of the one at hand. -/
def setRecord (machine : Machine) (s : String) : Machine :=
  { machine with
    record := .ofInput s, fields := (splitText (machine.text "FS") s).map .ofInput }

def getField (machine : Machine) (n : Nat) : Cell :=
  if n = 0 then machine.record else (machine.fields[n - 1]?).getD .unset

def setField (machine : Machine) (n : Nat) (cell : Cell) : Machine :=
  if n = 0 then machine.setRecord (machine.textOf cell)
  else
    let missing := List.replicate (n - machine.fields.length) Cell.unset
    { machine with fields := (machine.fields ++ missing).set (n - 1) cell }.joinFields

/-- Takes a record from a text. A separator of no characters stands for empty lines. -/
def takeRecord (separator : String) (cs : List Char) : Option (String × List Char) :=
  let upTo (c : Char) (cs : List Char) : Option (String × List Char) :=
    if cs.isEmpty then none
    else
      let record := cs.takeWhile (· != c)
      some (String.ofList record, cs.drop (record.length + 1))
  match separator.toList with
  | [c] => upTo c cs
  | [] =>
    let cs := cs.dropWhile (· == '\n')
    let lines := (cs.splitOnP (· == '\n')).takeWhile (!·.isEmpty)
    if lines.isEmpty then none
    else
      let record := ['\n'].intercalate lines
      some (String.ofList record, (cs.drop record.length).dropWhile (· == '\n'))
  | _ =>
    if cs.isEmpty then none
    else
      let place := Position.ofText cs
      match (regexOf separator).find? false
          (fun start finish => finish.rest.length < start.rest.length) place with
      | some found => some (String.ofList (place.upTo found.start), found.finish.rest)
      | none => some (String.ofList cs, [])

end Machine

/-! ## Names -/

def fail {α : Type} (text : String) : Processing α := throw (.fault text)

/-- The value of a variable or a parameter. -/
def getVariable (name : String) : Processing Cell := do
  let machine ← get
  match machine.slot? name with
  | some (.scalar cell) => return cell
  | some (.array _) => return .unset
  | none => return machine.getScalar name

def setVariable (name : String) (cell : Cell) : Processing Unit := do
  modify fun machine =>
    if (machine.slot? name).isSome then machine.setSlot name (.scalar cell)
    else machine.setScalar name cell

/-- The array that a name stands for. A parameter without a value becomes a new one. -/
def arrayOf (name : String) : Processing String := do
  let machine ← get
  match machine.slot? name with
  | none => return name
  | some (.array array) => return array
  | some (.scalar .unset) =>
    let array := name ++ " " ++ Nat.repr machine.locals
    set ({ machine with locals := machine.locals + 1 }.setSlot name (.array array))
    return array
  | some (.scalar _) => fail s!"type error in \x7b{name}\x7d"

/-- The value of an element, which exists from then on. -/
def getElement (array key : String) : Processing Cell := do
  let machine ← get
  let elements := machine.elements array
  match elements.lookup key with
  | some cell => return cell
  | none =>
    set (machine.setElements array ((key, .unset) :: elements))
    return .unset

def setElement (array key : String) (cell : Cell) : Processing Unit := do
  modify fun machine =>
    machine.setElements array
      ((key, cell) :: (machine.elements array).filter (·.1 != key))

/-- The text of a cell. -/
def textOf (cell : Cell) : Processing String := return (← get).textOf cell

/-! ## Input -/

/-- Assigns what an argument says to a variable. -/
def assignArgument (name value : String) : Processing Unit := do
  modify fun machine => machine.setScalar name (.ofInput (unquoted value.toList))

/-- The variable and the value of an argument that assigns. -/
def assignment? (arg : String) : Option (String × String) :=
  match Text.splitFirst "=" arg with
  | some (name, value) =>
    if name.toList.all goesOnName && (name.toList.head?).any startsName then some (name, value)
    else none
  | none => none

/-- Begins to read an input. -/
def openInput (path : String) : Processing Unit := do
  match ← Work.readOperand path with
  | .ok text =>
    modify fun machine =>
      { machine with input := some text.toList, hasInput := true }.setScalar "FNR" (.ofNat 0)
    setVariable "FILENAME" (.text (if path = "-" then "" else path))
  | .error cause => fail s!"cannot open \"{path}\" ({cause.plainMessage})"

/-- Takes the next record of the input. `fuel` bounds the number of operands. -/
def takeInput : (fuel : Nat) → Processing (Option String)
  | 0 => return none
  | fuel + 1 => do
    let machine ← get
    match (machine.input.getD []) |> Machine.takeRecord (machine.text "RS") with
    | some (record, rest) =>
      let counted (name : String) := Cell.number ((machine.getScalar name).toNumber.add (.ofNat 1))
      set (({ machine with input := some rest }.setScalar "NR" (counted "NR")).setScalar
        "FNR" (counted "FNR"))
      return some record
    | none =>
      match machine.operands with
      | [] =>
        if machine.hasInput then return none
        openInput "-"
        takeInput fuel
      | operand :: operands =>
        set { machine with operands := operands, input := none }
        match assignment? operand with
        | some (name, value) => assignArgument name value
        | none => if !operand.isEmpty then openInput operand
        takeInput fuel

/-- The next record of the input, if there is one. -/
def nextInput : Processing (Option String) := do
  takeInput ((← get).operands.length + 2)

/-- Takes the next record of a file or an output that is read apart from the input. `text` gives
all of it. -/
def takeSource (name : String) (text : Processing (Option String)) :
    Processing (Option (Option String)) := do
  let opened ←
    match (← get).sources.lookup name with
    | some rest => pure (some rest)
    | none => do pure ((← text).map String.toList)
  match opened with
  | none => return none
  | some cs =>
    let machine ← get
    let taken := Machine.takeRecord (machine.text "RS") cs
    let rest := (taken.map Prod.snd).getD []
    set { machine with
      sources := (name, rest) :: machine.sources.filter (·.1 != name) }
    return some (taken.map Prod.fst)

/-! ## Commands and output -/

section

variable (launch : Launch)

/-- Runs a line of the shell with an input. -/
def runLine (line : String) (input : Option String) : Work Nat := do
  let redirected (process : Process) (number : Nat) : Process :=
    { process with descriptors := (0, number) :: process.descriptors.filter (·.1 != 0) }
  let command := launchOrFail launch ["sh", "-c", line]
  match input with
  | none => command
  | some text =>
    let (number, system) := (← getThe System).openStream (.pipe text)
    set system
    withReader (fun process => redirected process number) command

/-- What a line of the shell prints. -/
def outputOf (line : String) : Work String := do
  let (number, system) := (← getThe System).openStream (.pipe "")
  set system
  discard (withReader (fun process =>
    { process with descriptors := (1, number) :: process.descriptors.filter (·.1 != 1) })
    (runLine launch line none))
  let (text, system) := (← getThe System).readAll number
  set system
  return text

/-- Closes what has a name. Returns a status. -/
def close (name : String) : Processing Int := do
  let machine ← get
  let drop {α : Type} (items : List (String × α)) := items.filter (·.1 != name)
  set { machine with
    sources := drop machine.sources, outlets := drop machine.outlets,
    written := machine.written.filter (· != name) }
  match machine.outlets.lookup name with
  | some text => return (← runLine launch name (some text))
  | none =>
    let known := (machine.sources.lookup name).isSome || machine.written.contains name
    return if known then 0 else -1

/-- Closes all that is given to commands. -/
def closeAll : Processing Unit := do
  for (name, _) in (← get).outlets do
    discard (close launch name)

/-- Writes a text where it goes. -/
def emit (outlet : Option (Outlet × String)) (text : String) : Processing Unit := do
  match outlet with
  | none => Work.print text
  | some (.command, line) =>
    modify fun machine =>
      if (machine.outlets.lookup line).isSome then
        { machine with
          outlets := machine.outlets.map fun (name, held) =>
            (name, if name = line then held ++ text else held) }
      else { machine with outlets := machine.outlets ++ [(line, text)] }
  | some (outlet, path) =>
    if path = "-" || path = "/dev/stdout" then Work.print text
    else if path = "/dev/stderr" then Work.write 2 text
    else
      let machine ← get
      let append := outlet == .append || machine.written.contains path
      match ← Work.writeFile path text append with
      | .ok () => set { machine with written := path :: machine.written }
      | .error cause => fail s!"cannot open \"{path}\" for output ({cause.plainMessage})"

end

end RaidProvision.Awk
