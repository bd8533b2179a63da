import RaidProvision.CommandLine.Arguments

/-!
# Every invocation can be spelled

Arguments are read from options and words in many orders. For each invocation that some arguments
ask for there is one plain way to say it: its options first, each with its value attached, then the
name of the subcommand, and an operand behind `--`. The only values that cannot be said are an empty
path of the settings and an empty path of a record.

* `Level.take_option`: an option with its value attached.
* `ofArguments_spelled`: the plain arguments of an invocation ask for it.
* `Level.Sayable.take`, `sayable_of_ofArguments`: each argument leaves something that can be said,
  and so do all of them.
* `exists_ofArguments_iff`: exactly the invocations without an empty path can be asked for.
-/
namespace RaidProvision.CommandLine

/-! ## The plain arguments -/

def Vendor.name : Vendor → String
  | .auto => "auto"
  | .only .arcconf => "arcconf"
  | .only .megacli => "megacli"

def Shell.name : Shell → String
  | .bash => "bash"
  | .elvish => "elvish"
  | .fish => "fish"
  | .powershell => "powershell"
  | .zsh => "zsh"

/-- The subcommand of an action. -/
def Action.subcommand : Action → Subcommand
  | .detect => .detect
  | .inventory _ => .inventory
  | .create _ => .create
  | .delete => .delete
  | .cleanSteps => .cleanSteps
  | .jbod _ => .jbod
  | .setBmc => .setBmc
  | .config => .config
  | .completions _ => .completions

/-- The arguments behind the subcommand. -/
def Action.operands : Action → List String
  | .inventory true => ["--json"]
  | .create record => ["--", record]
  | .jbod on => [if on then "on" else "off"]
  | .completions shell => [shell.name]
  | _ => []

/-- A long option with its value attached. -/
def attached (name value : String) : String := "--" ++ name ++ "=" ++ value

/-- The plain arguments of an invocation. -/
def Invocation.spelled (invocation : Invocation) : List String :=
  (invocation.config.map (attached "config")).toList ++
    attached "vendor" invocation.vendor.name ::
      ((invocation.logLevel.map (attached "log-level")).toList ++
        invocation.action.subcommand.name :: invocation.action.operands)

/-- No path is empty. -/
structure Invocation.Sayable (invocation : Invocation) : Prop where
  config : invocation.config ≠ some ""
  record : invocation.action ≠ .create ""

/-! ## Reading them -/

theorem Vendor.ofText?_name (vendor : Vendor) : ofText? vendor.name = some vendor := by
  cases vendor with
  | auto => rfl
  | only family => cases family <;> rfl

/-- No subcommand starts with a dash. -/
theorem Subcommand.ofText?_of_dash {text : String} {cs : List Char} (h : text.toList = '-' :: cs) :
    ofText? text = none := by
  unfold ofText?
  rw [List.find?_eq_none]
  intro s _ hname
  have hsame : s.name = text := by simpa using hname
  have hhead : s.name.toList.head? = some '-' := by rw [hsame, h, List.head?_cons]
  cases s <;> simp [name] at hhead

namespace Level

/-- The level waits for nothing, and options are still options. -/
structure Open (level : Level) : Prop where
  pending : level.pending = none
  trailing : level.trailing = false

variable {level : Level}

theorem toList_attached (name value : String) :
    (attached name value).toList = '-' :: '-' :: (name.toList ++ '=' :: value.toList) := by
  simp [attached, String.toList_append]

theorem take_option (h : level.Open) {name : String} {slot : Slot}
    (hflag : level.longFlag? name = some (.value slot)) (hname : '=' ∉ name.toList)
    (value : String) : level.take (attached name value) = level.give slot value := by
  have hplain : ∀ c ∈ name.toList, (c != '=') = true := by
    intro c hc
    rw [bne_iff_ne]
    rintro rfl
    exact hname hc
  have hkey : (name.toList ++ '=' :: value.toList).takeWhile (· != '=') = name.toList := by
    rw [List.takeWhile_append_of_pos hplain]
    simp
  have hvalue : (name.toList ++ '=' :: value.toList).dropWhile (· != '=') =
      '=' :: value.toList := by
    rw [List.dropWhile_append_of_pos hplain]
    simp
  have hlong : level.take (attached name value) =
      level.takeLong (name.toList ++ '=' :: value.toList) := by
    unfold take
    simp only [h.trailing, toList_attached, Bool.false_eq_true, if_false]
    cases name.toList <;> rfl
  rw [hlong, takeLong, hkey, hvalue, String.ofList_toList, hflag]
  simp only [takeFlag, String.ofList_toList, settle_eq_self h.pending]
  rfl

end Level

/-- An option in front of the subcommand. -/
theorem readArguments_option {front after : Level} (h : front.Open) {name value : String}
    {slot : Slot} (hflag : front.longFlag? name = some (.value slot)) (hname : '=' ∉ name.toList)
    (hgive : front.give slot value = .ok after) (rest : List String) :
    readArguments front (attached name value :: rest) = readArguments after rest := by
  have hdash := Level.toList_attached name value
  have hhelp : attached name value ≠ helpName := by
    intro hsame
    rw [hsame] at hdash
    simp [helpName] at hdash
  rw [readArguments, Subcommand.ofText?_of_dash hdash]
  simp only [hhelp, decide_false, Bool.and_false, Bool.false_eq_true, if_false, ite_self,
    Level.take_option h hflag hname, hgive]
  rfl

/-- A subcommand with its operands gives nothing but its action. -/
theorem readSubcommand_operands {action : Action} (hrecord : action ≠ .create "") :
    ∃ level : Level, level.config = none ∧ level.vendor = none ∧ level.logLevel = none ∧
      readSubcommand action.subcommand action.operands = .ok (level, action) := by
  cases action with
  | inventory json => cases json <;> exact ⟨_, rfl, rfl, rfl, rfl⟩
  | create record =>
    have hsome : record.isEmpty = false := by
      rw [String.isEmpty_eq_false_iff]
      rintro rfl
      exact hrecord rfl
    let given : Level := { subcommand := some .create, trailing := true }
    have htake : [("--" : String), record].foldlM Level.take { subcommand := some .create } =
        .ok { given with pending := some (.operand, some record) } := rfl
    have hoperand : Subcommand.create.operand? record = some (.record record) := by
      simp [Subcommand.operand?, hsome]
    have hsettle : ({ given with pending := some (.operand, some record) } : Level).settle =
        .ok { given with operand := some (.record record) } := by
      simp [Level.settle, Level.give, Level.has, Level.put, given, hoperand]
    refine ⟨{ given with operand := some (.record record) }, rfl, rfl, rfl, ?_⟩
    simp only [readSubcommand, Action.subcommand, Action.operands, htake]
    show Except.bind (Level.settle _) _ = _
    rw [hsettle]
    rfl
  | jbod on => cases on <;> exact ⟨_, rfl, rfl, rfl, rfl⟩
  | completions shell => cases shell <;> exact ⟨_, rfl, rfl, rfl, rfl⟩
  | _ => exact ⟨_, rfl, rfl, rfl, rfl⟩

/-- The subcommand with what is behind it. -/
theorem readArguments_subcommand {front : Level} (h : front.Open) {action : Action}
    (hrecord : action ≠ .create "") :
    readArguments front (action.subcommand.name :: action.operands) =
      .ok ⟨front.config, front.vendor.getD .auto, front.logLevel, action⟩ := by
  have hopens : front.opensSubcommand = true := by
    simp [Level.opensSubcommand, Level.awaiting?, h.pending, h.trailing]
  have hhelp : action.subcommand.name ≠ helpName := by
    cases action.subcommand <;> simp [Subcommand.name, helpName]
  obtain ⟨level, hconfig, hvendor, hlog, hread⟩ := readSubcommand_operands hrecord
  rw [readArguments, Subcommand.ofText?_name]
  simp only [hopens, hhelp, Bool.true_and, decide_false, Bool.false_eq_true, if_false, if_true,
    hread, Level.settle_eq_self h.pending]
  simp [Bind.bind, Except.bind, Pure.pure, Except.pure, hconfig, hvendor, hlog]

section
variable {front : Level} (h : front.Open) (rest : List String)
include h

theorem readArguments_config (hnone : front.config = none) {config : Option String}
    (hpath : config ≠ some "") :
    readArguments front ((config.map (attached "config")).toList ++ rest) =
      readArguments { front with config := config } rest := by
  cases config with
  | none =>
    cases front
    cases hnone
    rfl
  | some path =>
    have hsome : path.isEmpty = false := by
      rw [String.isEmpty_eq_false_iff]
      rintro rfl
      exact hpath rfl
    exact readArguments_option h rfl (by decide)
      (by simp [Level.give, Level.has, Level.put, hnone, hsome]) rest

theorem readArguments_vendor (hnone : front.vendor = none) (vendor : Vendor) :
    readArguments front (attached "vendor" vendor.name :: rest) =
      readArguments { front with vendor := some vendor } rest :=
  readArguments_option h rfl (by decide)
    (by simp [Level.give, Level.has, Level.put, hnone, Vendor.ofText?_name]) rest

theorem readArguments_logLevel (hnone : front.logLevel = none) (logLevel : Option String) :
    readArguments front ((logLevel.map (attached "log-level")).toList ++ rest) =
      readArguments { front with logLevel := logLevel } rest := by
  cases logLevel with
  | none =>
    cases front
    cases hnone
    rfl
  | some level =>
    exact readArguments_option h rfl (by decide)
      (by simp [Level.give, Level.has, Level.put, hnone]) rest

end

/-- The plain arguments of an invocation ask for it. -/
theorem ofArguments_spelled {invocation : Invocation} (h : invocation.Sayable) :
    Invocation.ofArguments invocation.spelled = .ok invocation := by
  unfold Invocation.ofArguments Invocation.spelled
  rw [readArguments_config ⟨rfl, rfl⟩ _ rfl h.config, readArguments_vendor ⟨rfl, rfl⟩ _ rfl,
    readArguments_logLevel ⟨rfl, rfl⟩ _ rfl, readArguments_subcommand ⟨rfl, rfl⟩ h.record]
  rfl

/-! ## What is read can be said -/

theorem Subcommand.operand?_ne_empty (s : Subcommand) (value : String) :
    s.operand? value ≠ some (.record "") := by
  unfold operand?
  split
  case h_1 =>
    split
    case isTrue => simp
    case isFalse hsome =>
      rintro ⟨⟩
      exact hsome rfl
  case h_4 => simp
  all_goals rintro ⟨⟩

namespace Level

/-- No path is empty so far. -/
structure Sayable (level : Level) : Prop where
  config : level.config ≠ some ""
  record : level.operand ≠ some (.record "")

/-- What a step leaves, if it leaves anything, can be said. -/
def Leaves (result : Except UsageError Level) : Prop := ∀ after, result = .ok after → after.Sayable

variable {level : Level} {result : Except UsageError Level}

theorem leaves_ok (h : level.Sayable) : Leaves (.ok level) := by
  rintro _ ⟨⟩
  exact h

theorem leaves_error (cause : UsageError) : Leaves (.error cause) := by rintro _ ⟨⟩

theorem Leaves.bind (h : Leaves result) {next : Level → Except UsageError Level}
    (hnext : ∀ after, after.Sayable → Leaves (next after)) : Leaves (result.bind next) := by
  cases result with
  | error cause => exact leaves_error cause
  | ok after => exact hnext after (h after rfl)

theorem Leaves.map (h : Leaves result) {f : Level → Level}
    (hf : ∀ after, after.Sayable → (f after).Sayable) : Leaves (result.map f) := by
  cases result with
  | error cause => exact leaves_error cause
  | ok after => exact leaves_ok (hf after (h after rfl))

variable (h : level.Sayable)
include h

theorem Sayable.put {slot : Slot} {value : String} {after : Level}
    (hput : level.put slot value = some after) : after.Sayable := by
  cases slot with
  | config =>
    simp only [Level.put] at hput
    split at hput
    case isTrue => cases hput
    case isFalse hsome =>
      obtain rfl := Option.some.inj hput
      refine ⟨?_, h.record⟩
      rintro ⟨⟩
      exact hsome rfl
  | vendor =>
    obtain ⟨vendor, -, rfl⟩ := Option.map_eq_some_iff.1 hput
    exact ⟨h.config, h.record⟩
  | logLevel =>
    obtain rfl := Option.some.inj hput
    exact ⟨h.config, h.record⟩
  | operand =>
    obtain ⟨subcommand, -, hput⟩ := Option.bind_eq_some_iff.1 hput
    obtain ⟨operand, hoperand, hafter⟩ := Option.bind_eq_some_iff.1 hput
    obtain rfl := Option.some.inj hafter
    refine ⟨h.config, ?_⟩
    rintro ⟨⟩
    exact subcommand.operand?_ne_empty _ hoperand

theorem Sayable.give (slot : Slot) (value : String) : Leaves (level.give slot value) := by
  unfold Level.give
  split
  case isTrue => exact leaves_error _
  case isFalse =>
    split
    case h_1 after hput => exact leaves_ok (h.put hput)
    case h_2 => exact leaves_error _

theorem Sayable.settle : Leaves level.settle := by
  unfold Level.settle
  split
  case h_1 => exact leaves_ok h
  case h_2 => exact leaves_error _
  case h_3 slot value _ =>
    have hlevel : ({ level with pending := none } : Level).Sayable := ⟨h.config, h.record⟩
    exact hlevel.give slot value

theorem Sayable.takeFlag (flag : Flag) (given : Option String) :
    Leaves (level.takeFlag flag given) := by
  unfold Level.takeFlag
  split
  case h_1 slot value => exact h.settle.bind fun after hafter => hafter.give slot value
  case h_2 slot => exact h.settle.map fun after hafter => ⟨hafter.config, hafter.record⟩
  case h_3 => exact leaves_error _
  case h_4 =>
    refine h.settle.bind fun after hafter => ?_
    split
    case isTrue => exact leaves_error _
    case isFalse => exact leaves_ok ⟨hafter.config, hafter.record⟩
  case h_5 => exact h.settle.bind fun _ _ => leaves_error _
  case h_6 => exact h.settle.bind fun _ _ => leaves_error _

theorem Sayable.takeLong (text : List Char) : Leaves (level.takeLong text) := by
  unfold Level.takeLong
  split
  case h_1 => exact leaves_error _
  case h_2 flag _ => exact h.takeFlag flag _

theorem Sayable.takeShort (letter : Char) (rest : List Char) :
    Leaves (level.takeShort letter rest) := by
  unfold Level.takeShort
  split
  case h_1 => exact leaves_error _
  case h_2 slot _ => exact h.takeFlag (.value slot) _
  case h_3 flag _ _ => exact h.takeFlag flag none

theorem Sayable.takeWord (word : String) : Leaves (level.takeWord word) := by
  unfold Level.takeWord
  split
  case isTrue => exact h.settle.map fun after hafter => ⟨hafter.config, hafter.record⟩
  case isFalse => exact leaves_error _

theorem Sayable.take (argument : String) : Leaves (level.take argument) := by
  unfold Level.take
  split
  case isTrue => exact h.takeWord argument
  case isFalse =>
    split
    case h_1 => exact leaves_ok ⟨h.config, h.record⟩
    case h_2 => exact h.takeLong _
    case h_3 => exact h.takeShort _ _
    case h_4 =>
      split
      case h_1 slot _ => exact leaves_ok ⟨h.config, h.record⟩
      case h_2 => exact h.takeWord argument

end Level

theorem leaves_foldlM_take (arguments : List String) : ∀ level : Level, level.Sayable →
    Level.Leaves (arguments.foldlM Level.take level) := by
  induction arguments with
  | nil => exact fun level h => Level.leaves_ok h
  | cons argument rest ih =>
    intro level h
    rw [List.foldlM_cons]
    exact (h.take argument).bind ih

theorem Subcommand.action?_ne_empty {s : Subcommand} {json : Bool} {operand : Option Operand}
    (h : operand ≠ some (.record "")) : s.action? json operand ≠ some (.create "") := by
  unfold action?
  split
  case h_3 path =>
    rintro ⟨⟩
    exact h rfl
  all_goals rintro ⟨⟩

/-- Steps that give something were all taken. -/
theorem exists_of_bind_eq_ok {ε α β : Type} {x : Except ε α} {f : α → Except ε β} {b : β}
    (h : x >>= f = .ok b) : ∃ a, x = .ok a ∧ f a = .ok b := by
  cases x with
  | error cause => cases h
  | ok a => exact ⟨a, rfl, h⟩

theorem sayable_of_readSubcommand {s : Subcommand} {arguments : List String} {level : Level}
    {action : Action} (h : readSubcommand s arguments = .ok (level, action)) :
    level.Sayable ∧ action ≠ .create "" := by
  obtain ⟨taken, htaken, h⟩ := exists_of_bind_eq_ok h
  obtain ⟨settled, hsettled, h⟩ := exists_of_bind_eq_ok h
  have hsayable : settled.Sayable :=
    (leaves_foldlM_take arguments _ ⟨by simp, by simp⟩ taken htaken).settle settled hsettled
  split at h
  case h_1 found hfound =>
    cases h
    refine ⟨hsayable, ?_⟩
    rintro rfl
    exact Subcommand.action?_ne_empty hsayable.record hfound
  case h_2 => cases h

theorem sayable_of_readArguments {invocation : Invocation} (arguments : List String) :
    ∀ front : Level, front.Sayable → readArguments front arguments = .ok invocation →
      invocation.Sayable := by
  induction arguments with
  | nil =>
    intro front _ h
    obtain ⟨_, _, h⟩ := exists_of_bind_eq_ok h
    cases h
  | cons argument rest ih =>
    intro front hfront h
    rw [readArguments] at h
    split at h
    case isTrue => cases h
    case isFalse =>
      split at h
      case h_1 s _ =>
        obtain ⟨⟨inner, action⟩, hinner, h⟩ := exists_of_bind_eq_ok h
        obtain ⟨settled, hsettled, h⟩ := exists_of_bind_eq_ok h
        obtain ⟨hlevel, haction⟩ := sayable_of_readSubcommand hinner
        have hsettled := hfront.settle settled hsettled
        cases h
        refine ⟨fun hconfig => ?_, haction⟩
        cases hnamed : inner.config with
        | none => exact hsettled.config (by simpa [hnamed] using hconfig)
        | some path => exact hlevel.config (by simpa [hnamed] using hconfig)
      case h_2 =>
        obtain ⟨after, hafter, h⟩ := exists_of_bind_eq_ok h
        exact ih after (hfront.take argument after hafter) h

theorem sayable_of_ofArguments {arguments : List String} {invocation : Invocation}
    (h : Invocation.ofArguments arguments = .ok invocation) : invocation.Sayable :=
  sayable_of_readArguments arguments _ ⟨by simp, by simp⟩ h

/-- Exactly the invocations without an empty path can be asked for. -/
theorem exists_ofArguments_iff {invocation : Invocation} :
    (∃ arguments, Invocation.ofArguments arguments = .ok invocation) ↔ invocation.Sayable := by
  constructor
  · rintro ⟨arguments, h⟩
    exact sayable_of_ofArguments h
  · intro h
    exact ⟨invocation.spelled, ofArguments_spelled h⟩

end RaidProvision.CommandLine
