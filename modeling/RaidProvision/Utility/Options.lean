/-!
# Options of programs

A program takes options and operands. An option is a letter after a dash, several of them may stand
together, and some have a value, which is the rest of the argument or the next one. Some letters
have a long name after two dashes. Two dashes alone end the options.

* `parse_nil`: without arguments there is nothing.
-/
namespace RaidProvision

/-- The options that a program knows. -/
structure OptionTable where
  /-- Letters without a value. -/
  flags : String
  /-- Letters with a value. -/
  valued : String
  long : List (String × Char)
  /-- Whether options may follow operands. -/
  mixed : Bool

/-- Arguments told apart. -/
structure Options where
  given : List (Char × String)
  operands : List String

namespace Options

def has (options : Options) (letter : Char) : Bool :=
  options.given.any (·.1 == letter)

/-- The values of an option, in order. -/
def values (options : Options) (letter : Char) : List String :=
  (options.given.filter (·.1 == letter)).map Prod.snd

/-- The last value of an option. -/
def value? (options : Options) (letter : Char) : Option String :=
  (options.values letter).getLast?

def addGiven (letter : Char) (value : String) (options : Options) : Options :=
  { options with given := (letter, value) :: options.given }

def addOperand (operand : String) (options : Options) : Options :=
  { options with operands := operand :: options.operands }

end Options

namespace OptionTable

/-- What some letters after a dash are: options, and the last of them may lack its value. -/
def cluster (table : OptionTable) : List Char → Except Char (List (Char × String) × Option Char)
  | [] => .ok ([], none)
  | c :: rest =>
    if table.valued.toList.contains c then
      if rest.isEmpty then .ok ([], some c) else .ok ([(c, String.ofList rest)], none)
    else if table.flags.toList.contains c then
      (table.cluster rest).map fun (given, open?) => ((c, "") :: given, open?)
    else .error c

/-- What a long name stands for: an option, which may lack its value. -/
def longOption (table : OptionTable) (name : String) :
    Except String (List (Char × String) × Option Char) :=
  let word := String.ofList (name.toList.takeWhile (· != '='))
  let found := (table.long.find? fun (long, _) => long == word) <|>
    (table.long.find? fun (long, _) => long.startsWith word)
  match found with
  | none => .error s!"unrecognized option '--{name}'"
  | some (_, letter) =>
    if word.length < name.length then
      .ok ([(letter, (name.drop (word.length + 1)).toString)], none)
    else if table.valued.toList.contains letter then .ok ([], some letter)
    else .ok ([(letter, "")], none)

/-- What an argument in front of operands is. -/
def argument (table : OptionTable) (arg : String) :
    Except String (List (Char × String) × Option Char) :=
  if arg.startsWith "--" then table.longOption (arg.drop 2).toString
  else
    match table.cluster (arg.toList.drop 1) with
    | .ok result => .ok result
    | .error c => .error s!"invalid option -- '{c}'"

/-- Tells arguments apart. `fuel` bounds their number. -/
def parseFrom (table : OptionTable) : (fuel : Nat) → List String → Except String Options
  | 0, _ => .ok ⟨[], []⟩
  | _, [] => .ok ⟨[], []⟩
  | fuel + 1, arg :: rest => do
    if arg = "--" then return ⟨[], rest⟩
    else if arg.startsWith "-" && arg != "-" then
      let (given, open?) ← table.argument arg
      let addAll (options : Options) : Options := { options with given := given ++ options.given }
      match open?, rest with
      | none, _ => return addAll (← table.parseFrom fuel rest)
      | some letter, value :: rest =>
        return addAll ((← table.parseFrom fuel rest).addGiven letter value)
      | some letter, [] => .error s!"option requires an argument -- '{letter}'"
    else if table.mixed then return (← table.parseFrom fuel rest).addOperand arg
    else return ⟨[], arg :: rest⟩

/-- Tells arguments apart. -/
def parse (table : OptionTable) (args : List String) : Except String Options :=
  table.parseFrom args.length args

theorem parse_nil (table : OptionTable) : table.parse [] = .ok ⟨[], []⟩ := rfl

end OptionTable
end RaidProvision
