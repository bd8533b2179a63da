import RaidProvision.Utility.Awk.Machine
import RaidProvision.Utility.Awk.Reader

/-!
# Running scripts for records

Rules are gone through once for each record, and some before the first or after the last one.
Expressions and statements contain others; a step does one of them when it is told how the others
are done, and a bound on their depth ties this together.

* `execStep_nothing`: the empty statement does nothing.
-/
namespace RaidProvision.Awk

open RaidProvision.Utility

/-- A place that can be assigned to, with its names and numbers found out. -/
inductive Spot where
  | named (name : String)
  | element (array key : String)
  | field (n : Nat)

def Spot.get : Spot → Processing Cell
  | named name => getVariable name
  | element array key => getElement array key
  | field n => return (← getThe Machine).getField n

def Spot.put (cell : Cell) : Spot → Processing Unit
  | named name => setVariable name cell
  | element array key => setElement array key cell
  | field n => modify fun machine => machine.setField n cell

/-! ## Substitution -/

/-- What is put in for a match, which nothing stands for. -/
def replacementParts : List Char → List (Option Char)
  | '\\' :: '&' :: rest => some '&' :: replacementParts rest
  | '\\' :: '\\' :: rest => some '\\' :: replacementParts rest
  | '&' :: rest => none :: replacementParts rest
  | c :: rest => some c :: replacementParts rest
  | [] => []

/-- Replaces the first match from a place on, or all of them. Returns the text and how often that
was done. `afterMatch` says whether a match ended here, `fuel` bounds the length. -/
def replaceFrom (r : Regex) (parts : List (Option Char)) (all : Bool) :
    (fuel : Nat) → (afterMatch : Bool) → Position → List Char × Nat
  | 0, _, place => (place.rest, 0)
  | fuel + 1, afterMatch, place =>
    match r.find? false (fun start finish =>
        !(afterMatch && start == place && finish.rest.length = place.rest.length)) place with
    | none => (place.rest, 0)
    | some found =>
      let put := parts.flatMap fun part => (part.map fun c => [c]).getD found.text
      let lead := place.upTo found.start ++ put
      let finish := { found.finish with groups := [] }
      if all then
        let (after, count) := replaceFrom r parts all fuel true finish
        (lead ++ after, count + 1)
      else (lead ++ finish.rest, 1)

def replace (r : Regex) (replacement s : String) (all : Bool) : String × Nat :=
  let (cs, count) :=
    replaceFrom r (replacementParts replacement.toList) all (2 * s.length + 2) false
      (.ofText s.toList)
  (String.ofList cs, count)

/-- The characters of a text from a place on, where the first one has the number one. -/
def substring (s : String) (start : Int) (count : Option Int) : String :=
  let first := max 1 start
  let taken :=
    match count with
    | some count => (start + count - first).toNat
    | none => s.length
  String.ofList ((s.toList.drop (first - 1).toNat).take taken)

/-- The place where a text is found in another one, or zero. -/
def indexOf (s part : String) : Nat :=
  match Text.splitFirst part s with
  | some (before, _) => before.length + 1
  | none => 0

/-- The nearest integer, for numbers of characters. -/
def nearest (x : Binary64) : Int := x.round.toInt

section

variable (script : Script) (launch : Launch)
variable (eval : Expression → Processing Cell) (exec : Statement → Processing Unit)

/-! ## Expressions -/

def evalText (e : Expression) : Processing String := do textOf (← eval e)

/-- The name of an element. -/
def evalKey (subscripts : List Expression) : Processing String := do
  let keys ← subscripts.mapM (evalText eval)
  return ((← get).text "SUBSEP").intercalate keys

/-- Finds out the names and numbers of a place. -/
def locate (place : Place) : Processing Spot := do
  match place with
  | .named name => return .named name
  | .element array subscripts =>
    let key ← evalKey eval subscripts
    return .element (← arrayOf array) key
  | .field number =>
    let n := (← eval number).toNumber.toInt
    if n < 0 then fail s!"negative field index ${n}" else return .field n.toNat

/-- The expression that a pattern stands for. -/
def evalPattern (e : Expression) : Processing Regex := do
  match e with
  | .pattern r => return r
  | e => return Machine.regexOf (← evalText eval e)

def isFound (r : Regex) (s : String) : Bool :=
  (r.find? false (fun _ _ => true) (.ofText s.toList)).isSome

/-- The record as a text. -/
def recordText : Processing String := do
  let machine ← get
  return machine.textOf machine.record

/-- Puts the parts of a text into an array. Returns their number. -/
def splitInto (array s : String) (separator : Option Expression) : Processing Nat := do
  let parts ←
    match separator with
    | some (.pattern r) =>
      pure (if s.isEmpty then []
        else (Machine.splitAt r s.length (.ofText s.toList)).map String.ofList)
    | some e => do pure (Machine.splitText (← evalText eval e) s)
    | none => do pure (Machine.splitText ((← get).text "FS") s)
  let elements := parts.zipIdx.map fun (part, i) => (Nat.repr (i + 1), Cell.ofInput part)
  modify fun machine => machine.setElements array elements
  return parts.length

/-- Replaces matches in a place. Returns their number. -/
def substituteIn (all : Bool) (pattern replacement : Expression) (place : Place) :
    Processing Nat := do
  let r ← evalPattern eval pattern
  let replacement ← evalText eval replacement
  let spot ← locate eval place
  let (s, count) := replace r replacement (← textOf (← spot.get)) all
  if count != 0 then spot.put (.text s)
  return count

/-- Looks for a match, and keeps where it is. -/
def locateMatch (s : String) (r : Regex) : Processing Nat := do
  let found := r.find? false (fun _ _ => true) (.ofText s.toList)
  let start := (found.map fun found => s.length - found.start.rest.length + 1).getD 0
  let length : Int := (found.map fun found => (found.text.length : Int)).getD (-1)
  setVariable "RSTART" (.ofNat start)
  setVariable "RLENGTH" (.number (.ofInt length))
  return start

/-- The texts of arguments in a format, up to a fault if there is one. -/
def formatCells (cells : List Cell) : Processing (String × Option FormatFault) := do
  let machine ← get
  match cells with
  | [] => return ("", none)
  | format :: cells =>
    let cs := (machine.textOf format).toList
    let (cs, fault) := formatted machine.textOf cs.length cs cells
    return (String.ofList cs, fault)

/-- Fails if there is a fault. -/
def checkFormat (fault : Option FormatFault) : Processing Unit := do
  if let some fault := fault then fail fault.message

/-- Runs a function that every script has. -/
def runPrimitive (primitive : Primitive) (args : List Expression) : Processing Cell := do
  match primitive, args with
  | .length, [] => return .ofNat (← recordText).length
  | .length, [.place (.named name)] =>
    let machine ← get
    match machine.slot? name, machine.arrays.lookup name with
    | some (.array array), _ => return .ofNat (machine.elements array).length
    | none, some elements => return .ofNat elements.length
    | _, _ => return .ofNat (← textOf (← getVariable name)).length
  | .length, [e] => return .ofNat (← evalText eval e).length
  | .substring, [s, start] =>
    let s ← evalText eval s
    return .text (substring s (nearest (← eval start).toNumber) none)
  | .substring, [s, start, count] =>
    let s ← evalText eval s
    let start := nearest (← eval start).toNumber
    return .text (substring s start (some (nearest (← eval count).toNumber)))
  | .index, [s, part] =>
    let s ← evalText eval s
    return .ofNat (indexOf s (← evalText eval part))
  | .split, s :: .place (.named array) :: rest =>
    let s ← evalText eval s
    return .ofNat (← splitInto eval (← arrayOf array) s rest.head?)
  | .substituteFirst, [pattern, replacement] =>
    return .ofNat (← substituteIn eval false pattern replacement (.field (.literal (.ofNat 0))))
  | .substituteFirst, [pattern, replacement, .place place] =>
    return .ofNat (← substituteIn eval false pattern replacement place)
  | .substituteAll, [pattern, replacement] =>
    return .ofNat (← substituteIn eval true pattern replacement (.field (.literal (.ofNat 0))))
  | .substituteAll, [pattern, replacement, .place place] =>
    return .ofNat (← substituteIn eval true pattern replacement place)
  | .locate, [s, pattern] =>
    let s ← evalText eval s
    return .ofNat (← locateMatch s (← evalPattern eval pattern))
  | .format, args =>
    let (s, fault) ← formatCells (← args.mapM eval)
    checkFormat fault
    return .text s
  | .lower, [s] => return .text ((← evalText eval s).map Char.toLower)
  | .upper, [s] => return .text ((← evalText eval s).map Char.toUpper)
  | .integer, [e] => return .number (← eval e).toNumber.truncate
  | .system, [line] => return .ofNat (← runLine launch (← evalText eval line) none)
  | .close, [name] => return .number (.ofInt (← close launch (← evalText eval name)))
  | .flush, _ => return .ofNat 0
  | _, _ => fail "wrong number of arguments"

/-- What an argument of a function stands for. A variable without a value may become an array. -/
def argumentSlot (e : Expression) : Processing Slot := do
  let machine ← get
  match e with
  | .place (.named name) =>
    match machine.slot? name with
    | some (.scalar .unset) => return .array (← arrayOf name)
    | some slot => return slot
    | none =>
      if machine.getScalar name == .unset then return .array name
      else return .scalar (machine.getScalar name)
  | e => return .scalar (← eval e)

/-- Calls a function of the script. -/
def callFunction (name : String) (args : List Expression) : Processing Cell := do
  match script.functions.lookup name with
  | none => fail s!"function {name} never defined"
  | some function =>
    let slots ← args.mapM (argumentSlot eval)
    let missing := List.replicate (function.parameters.length - slots.length) (Slot.scalar .unset)
    modify fun machine =>
      { machine with frames := function.parameters.zip (slots ++ missing) :: machine.frames }
    let result ← observe (exec function.body)
    modify fun machine => { machine with frames := machine.frames.drop 1 }
    match result with
    | .ok () => return .unset
    | .error (.gives cell) => return cell
    | .error jump => throw jump

/-- Puts a line that was read where it goes. Returns what tells how that went. -/
def storeLine (place : Option Place) (line : Option (Option String)) : Processing Cell := do
  match line with
  | none => return .number (.ofInt (-1))
  | some none => return .ofNat 0
  | some (some s) =>
    match place with
    | some place => (← locate eval place).put (.ofInput s)
    | none => modify fun machine => machine.setRecord s
    return .ofNat 1

/-- Reads a line. -/
def readLine (place : Option Place) (source : Source) : Processing Cell := do
  match source with
  | .input => storeLine eval place (some (← nextInput))
  | .file path =>
    let path ← evalText eval path
    storeLine eval place
      (← takeSource path (do return (← Work.readOperand path).toOption))
  | .command line =>
    let line ← evalText eval line
    storeLine eval place (← takeSource line (do return some (← outputOf launch line)))

/-- Evaluates an expression. -/
def evalStep (e : Expression) : Processing Cell := do
  match e with
  | .literal cell => return cell
  | .pattern r => return .ofBool (isFound r (← recordText))
  | .place place => (← locate eval place).get
  | .assign place none value =>
    let spot ← locate eval place
    let cell ← eval value
    spot.put cell
    return cell
  | .assign place (some operator) value =>
    let spot ← locate eval place
    let x := (← eval value).toNumber
    let cell := Cell.number (operator.apply (← spot.get).toNumber x)
    spot.put cell
    return cell
  | .count place operator before =>
    let spot ← locate eval place
    let x := (← spot.get).toNumber
    let cell := Cell.number (operator.apply x (.ofNat 1))
    spot.put cell
    return if before then .number x else cell
  | .conditional test success failure =>
    if (← eval test).isTrue then eval success else eval failure
  | .both a b => return .ofBool ((← eval a).isTrue && (← eval b).isTrue)
  | .either a b => return .ofBool ((← eval a).isTrue || (← eval b).isTrue)
  | .not a => return .ofBool !(← eval a).isTrue
  | .negate a => return .number (← eval a).toNumber.neg
  | .positive a => return .number (← eval a).toNumber
  | .isIn subscripts array =>
    let key ← evalKey eval subscripts
    let array ← arrayOf array
    return .ofBool (((← get).elements array).lookup key).isSome
  | .matched negated text pattern =>
    let s ← evalText eval text
    return .ofBool (isFound (← evalPattern eval pattern) s != negated)
  | .compare comparison a b =>
    let a ← eval a
    let b ← eval b
    return .ofBool (comparison.holds (a.compare? (← get).format b))
  | .join a b =>
    let s ← evalText eval a
    return .text (s ++ (← evalText eval b))
  | .operate operator a b =>
    let x := (← eval a).toNumber
    return .number (operator.apply x (← eval b).toNumber)
  | .call name args => callFunction script eval exec name args
  | .primitive primitive args => runPrimitive launch eval primitive args
  | .readLine place source => readLine launch eval place source

/-! ## Statements -/

/-- A cell as it is printed. -/
def printedText (cell : Cell) : Processing String := return cell.toText ((← get).text "OFMT")

def evalOutlet (outlet : Option (Outlet × Expression)) : Processing (Option (Outlet × String)) := do
  match outlet with
  | none => return none
  | some (outlet, name) => return some (outlet, ← evalText eval name)

/-- Runs the body of a loop. Returns whether the loop goes on. -/
def inLoop (body : Processing Unit) : Processing Bool := do
  match ← observe body with
  | .ok () | .error .continues => return true
  | .error .breaks => return false
  | .error jump => throw jump

/-- Runs a round of a loop. Returns whether the loop goes on. -/
def runRound (test : Option Expression) (next body : Statement) : Processing Bool := do
  let holds ← test.elim (pure true) fun test => return (← eval test).isTrue
  if !holds then return false
  if ← inLoop (exec body) then inLoop (exec next) else return false

/-- How often a loop is run at most. -/
def maxRounds : Nat := 1000000

/-- Runs the rounds of a loop. -/
def repeatRound (round : Processing Bool) : (fuel : Nat) → Processing Unit
  | 0 => return ()
  | fuel + 1 => do if ← round then repeatRound round fuel

/-- Runs the body of a loop for each of some names. -/
def runEach (name : String) (body : Statement) : List String → Processing Unit
  | [] => return ()
  | key :: rest => do
    setVariable name (.text key)
    if ← inLoop (exec body) then runEach name body rest

/-- Runs a statement. -/
def execStep (statement : Statement) : Processing Unit := do
  match statement with
  | .nothing => return ()
  | .sequence a b =>
    exec a
    exec b
  | .evaluate e => discard (eval e)
  | .print [] outlet =>
    let record ← recordText
    emit (← evalOutlet eval outlet) (record ++ (← get).text "ORS")
  | .print items outlet =>
    let texts ← items.mapM fun item => do printedText (← eval item)
    let machine ← get
    emit (← evalOutlet eval outlet) ((machine.text "OFS").intercalate texts ++ machine.text "ORS")
  | .printFormat items outlet =>
    let (s, fault) ← formatCells (← items.mapM eval)
    emit (← evalOutlet eval outlet) s
    checkFormat fault
  | .conditional test success failure =>
    if (← eval test).isTrue then exec success else exec failure
  | .loop test next body => repeatRound (runRound eval exec test next body) maxRounds
  | .each name array body =>
    let array ← arrayOf array
    runEach exec name body (((← get).elements array).map Prod.fst)
  | .breakLoop => throw .breaks
  | .continueLoop => throw .continues
  | .nextRecord => throw .nextRecord
  | .nextFile => throw .nextFile
  | .exit none => throw .exits
  | .exit (some status) =>
    let n := (← eval status).toNumber.toInt
    modify fun machine => { machine with status := (n % 256).toNat }
    throw .exits
  | .giveBack none => throw (.gives .unset)
  | .giveBack (some value) => throw (.gives (← eval value))
  | .delete array none =>
    let array ← arrayOf array
    modify fun machine => machine.setElements array []
  | .delete array (some subscripts) =>
    let key ← evalKey eval subscripts
    let array ← arrayOf array
    modify fun machine =>
      machine.setElements array ((machine.elements array).filter (·.1 != key))

theorem execStep_nothing : execStep eval exec .nothing = pure () := rfl

end

mutual

/-- Evaluates an expression down to a depth. -/
def evalTo (script : Script) (launch : Launch) : (depth : Nat) → Expression → Processing Cell
  | 0, _ => fail "function calls nested too deeply"
  | depth + 1, e =>
    evalStep script launch (evalTo script launch depth) (execTo script launch depth) e

/-- Runs a statement down to a depth. -/
def execTo (script : Script) (launch : Launch) : (depth : Nat) → Statement → Processing Unit
  | 0, _ => fail "function calls nested too deeply"
  | depth + 1, statement =>
    execStep (evalTo script launch depth) (execTo script launch depth) statement

end

/-- How deep expressions and statements may be inside one another. -/
def maxDepth : Nat := 5000

section

variable (script : Script) (launch : Launch)

def eval (e : Expression) : Processing Cell := evalTo script launch maxDepth e

def exec (statement : Statement) : Processing Unit := execTo script launch maxDepth statement

/-! ## Rules -/

/-- Whether a rule with a number is for the record at hand. -/
def isFor (i : Nat) (selection : Selection) : Processing Bool := do
  let holds (e : Expression) : Processing Bool := return (← eval script launch e).isTrue
  match selection with
  | .every => return true
  | .test e => holds e
  | .range first last =>
    let active := (← get).active.contains i
    if !active && !(← holds first) then return false
    let ends ← holds last
    modify fun machine =>
      let others := machine.active.filter (· != i)
      { machine with active := if ends then others else i :: others }
    return true
  | .start | .finish => return false

/-- Goes through the rules with the record at hand. -/
def runRules : Processing Unit := do
  for (rule, i) in script.rules.zipIdx do
    if ← isFor script launch i rule.selection then exec script launch rule.action

/-- Goes through the rules with each record. `fuel` bounds the number of records. -/
def runRecords : (fuel : Nat) → Processing Unit
  | 0 => return ()
  | fuel + 1 => do
    match ← nextInput with
    | none => return ()
    | some record =>
      modify fun machine => machine.setRecord record
      match ← observe (runRules script launch) with
      | .ok () | .error .nextRecord => pure ()
      | .error .nextFile => modify fun machine => { machine with input := none }
      | .error jump => throw jump
      runRecords fuel

def isStart (rule : Rule) : Bool := rule.selection matches .start

def isFinish (rule : Rule) : Bool := rule.selection matches .finish

/-- Runs a task up to its end or to where it exits. -/
def untilExit (task : Processing Unit) : Processing Unit := do
  match ← observe task with
  | .ok () | .error .exits => return ()
  | .error jump => throw jump

/-- Runs a script: what comes before the records, the records, and what comes after them. -/
def runScript : Processing Unit := do
  let runAll (rules : List Rule) : Processing Unit :=
    rules.forM fun rule => exec script launch rule.action
  let starts := script.rules.filter isStart
  let finishes := script.rules.filter isFinish
  untilExit do
    runAll starts
    if starts.length < script.rules.length then runRecords script launch maxRounds
  untilExit (runAll finishes)
  closeAll launch

end

/-! ## The program -/

/-- What the arguments ask for: variables, the script or files with it, and operands. -/
structure Request where
  given : List (String × String)
  files : List String
  operands : List String

/-- Reads the arguments. `fuel` bounds their number. -/
def readArguments : (fuel : Nat) → List String → Except String Request
  | 0, args => .ok ⟨[], [], args⟩
  | _, [] => .ok ⟨[], [], []⟩
  | fuel + 1, arg :: rest =>
    if arg = "--" then .ok ⟨[], [], rest⟩
    else
      match arg.toList with
      | '-' :: letter :: attached => do
        let (value, rest) ←
          match attached, rest with
          | [], value :: rest => pure (value, rest)
          | [], [] => throw s!"option requires an argument -- {letter}"
          | cs, rest => pure (String.ofList cs, rest)
        let request ← readArguments fuel rest
        match letter, assignment? value with
        | 'F', _ => return { request with given := ("FS", value) :: request.given }
        | 'v', some named => return { request with given := named :: request.given }
        | 'f', _ => return { request with files := value :: request.files }
        | _, _ => throw s!"not an option: {arg}"
      | _ => .ok ⟨[], [], arg :: rest⟩

/-- The texts of files one after the other. -/
def readScripts (paths : List String) : Work (Except String String) := do
  let mut texts := #[]
  for path in paths do
    match ← Work.readOperand path with
    | .ok text => texts := texts.push (text ++ "\n")
    | .error cause => return .error s!"couldn't open file {path}: {cause.plainMessage}"
  return .ok (String.join texts.toList)

/-- The state before a script is run. -/
def Machine.start (environment : List (String × String)) (operands : List String) : Machine :=
  let bindings := [("FS", " "), ("OFS", " "), ("ORS", "\n"), ("RS", "\n"), ("SUBSEP", "\x1C"),
    ("CONVFMT", "%.6g"), ("OFMT", "%.6g"), ("FILENAME", "")].map fun (name, s) =>
      (name, Cell.text s)
  let counts := [("NR", 0), ("FNR", 0), ("RSTART", 0), ("ARGC", operands.length + 1)].map
    fun (name, n) => (name, Cell.ofNat n)
  let arguments := ("awk" :: operands).zipIdx.map fun (s, i) => (Nat.repr i, Cell.ofInput s)
  { bindings := bindings ++ counts ++ [("RLENGTH", .number (.ofInt (-1)))],
    arrays := [("ENVIRON", environment.map fun (name, s) => (name, Cell.ofInput s)),
      ("ARGV", arguments)],
    frames := [], locals := 0, record := .unset, fields := [], input := none,
    operands := operands, hasInput := false, sources := [], written := [], outlets := [],
    active := [], status := 0 }

end RaidProvision.Awk

namespace RaidProvision.Utility

open RaidProvision.Awk in
/-- Runs a script for each record of the input. -/
def awk (launch : Launch) : Utility := fun args => do
  match readArguments args.length args with
  | .error fault => Work.fail 2 fault
  | .ok request =>
    let (text, operands) ←
      match request.files, request.operands with
      | [], [] => return ← Work.fail 2 "no program"
      | [], text :: operands => pure (Except.ok text, operands)
      | files, operands => do pure (← readScripts files, operands)
    match text with
    | .error fault => Work.fail 2 fault
    | .ok text =>
      match Awk.ofText? text with
      | none => Work.fail 2 "syntax error"
      | some script =>
        let task : Processing Unit := do
          request.given.forM fun (name, value) => assignArgument name value
          runScript script launch
        let (result, machine) ←
          task.run.run (Machine.start (← read).environment operands)
        match result with
        | .ok () => return machine.status
        | .error (.fault fault) => Work.fail 2 fault
        | .error _ => return 2

end RaidProvision.Utility
