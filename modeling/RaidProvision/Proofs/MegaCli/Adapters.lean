import Mathlib.Data.List.Forall2
import Mathlib.Logic.Function.Basic
import RaidProvision.Proofs.Manager.Creation
import RaidProvision.Proofs.Text.Cut
import RaidProvision.Proofs.Text.Unsigned

/-!
# Sizes of virtual drives on several adapters

Each adapter numbers its virtual drives for itself, so one number may stand for a drive on each of
them. A drive is created on one adapter, but its size is asked for on all adapters at once, and the
line that is read is the one of the first adapter that has a drive of this number. `Served` says
what the tool does to the drives of a machine and what it prints.

* `driveSize_sizeReport`: the size that is read is that of the first drive of a number.
* `served_step`, `served_steps`: what a step reads, and all steps of a run, by induction on them.
* `create_ownSizes_iff`: each entry has the size of its own drive iff no adapter before the one of
  the drive has a drive of the same number and another size.
* `create_not_ownSizes`: a drive that gets the size of one on another adapter.
-/
namespace RaidProvision.MegaCli

open RaidProvision.Text RaidProvision.Report

/-! ## The drives of a machine -/

/-- A virtual drive as the query for its size shows it: a line with the size, and the lines behind
it that the filter keeps. -/
structure VirtualDrive where
  sizeLine : String
  otherLines : List String
  size : Size
  newline_not_mem : ∀ line ∈ sizeLine :: otherLines, '\n' ∉ line.toList
  reads : (valueAfterColon sizeLine).bind Size.ofText = .ok size

def VirtualDrive.lines (drive : VirtualDrive) : List String := drive.sizeLine :: drive.otherLines

/-- The virtual drives of each adapter by their numbers, from adapter 0 on. -/
abbrev Adapters := List (Nat → Option VirtualDrive)

namespace Adapters

/-- The drives with a number, in the order of their adapters. -/
def numbered (adapters : Adapters) (number : Nat) : List VirtualDrive :=
  adapters.filterMap fun drives => drives number

/-- The drive with a number on an adapter. -/
def drive? (adapters : Adapters) (adapter number : Nat) : Option VirtualDrive :=
  adapters[adapter]?.bind fun drives => drives number

/-- Adds a drive to an adapter. -/
def add (adapters : Adapters) (adapter number : Nat) (drive : VirtualDrive) : Adapters :=
  adapters.modify adapter (Function.update · number (some drive))

/-- What the query for the sizes of all drives with a number prints. -/
def sizeReport (adapters : Adapters) (number : Nat) : String :=
  "\n".intercalate ((adapters.numbered number).flatMap VirtualDrive.lines ++ [""])

/-- The size that is read is that of the first drive of a number. -/
theorem driveSize_sizeReport {adapters : Adapters} {number : Nat} {drive : VirtualDrive}
    (h : (adapters.numbered number).head? = some drive) :
    driveSize (adapters.sizeReport number) = .ok drive.size := by
  obtain ⟨rest, hdrives⟩ := List.head?_eq_some_iff.1 h
  have hlines : ∀ line ∈ (adapters.numbered number).flatMap VirtualDrive.lines ++ [""],
      '\n' ∉ line.toList := by
    intro line hline
    rcases List.mem_append.1 hline with hline | hline
    · obtain ⟨other, -, hline⟩ := List.mem_flatMap.1 hline
      exact other.newline_not_mem line hline
    · rw [List.mem_singleton.1 hline]
      decide
  have hpieces := pieces_intercalate (by simp) hlines
  have hread := drive.reads
  rw [driveSize, lineAt, sizeReport, hpieces, hdrives]
  exact hread

theorem numbered_add_ne_nil {adapters : Adapters} {adapter : Nat} (h : adapter < adapters.length)
    (number : Nat) (drive : VirtualDrive) :
    (adapters.add adapter number drive).numbered number ≠ [] := by
  refine List.ne_nil_of_mem (a := drive) (List.mem_filterMap.2 ⟨Function.update
    adapters[adapter] number (some drive), ?_, Function.update_self _ _ _⟩)
  refine List.mem_of_getElem? (i := adapter) ?_
  rw [add, List.getElem?_modify_eq, List.getElem?_eq_getElem h]
  rfl

/-- A drive on the first adapter with its number comes first. -/
theorem head?_numbered_add {adapters : Adapters} {adapter number : Nat} {drive : VirtualDrive}
    (hadapter : adapter < adapters.length)
    (h : ∀ i < adapter, adapters.drive? i number = none) :
    ((adapters.add adapter number drive).numbered number).head? = some drive := by
  induction adapters generalizing adapter with
  | nil => simp at hadapter
  | cons drives rest ih =>
    cases adapter with
    | zero =>
      have hfirst : Function.update drives number (some drive) number = some drive :=
        Function.update_self _ _ _
      rw [add, List.modify_zero_cons, numbered, List.filterMap_cons]
      simp only [hfirst, List.head?_cons]
    | succ adapter =>
      have hfirst : drives number = none := h 0 (Nat.succ_pos _)
      rw [add, List.modify_succ_cons, numbered, List.filterMap_cons]
      simp only [hfirst]
      exact ih (Nat.lt_of_succ_lt_succ hadapter) fun i hi => h (i + 1) (Nat.succ_lt_succ hi)

end Adapters

/-- A drive that was created on an adapter, and the drives there were before. -/
structure Creation where
  before : Adapters
  adapter : Nat
  number : Nat
  drive : VirtualDrive

namespace Creation

variable (c : Creation)

/-- The drives there are afterwards. -/
def after : Adapters := c.before.add c.adapter c.number c.drive

/-- The drive whose size is printed first when all adapters are asked for the number. -/
def shown? : Option VirtualDrive := (c.after.numbered c.number).head?

/-- The drive whose size is printed first is of the same size. -/
def Clear : Prop := ∀ shown, c.shown? = some shown → shown.size.wholeGb = c.drive.size.wholeGb

/-- If no adapter before that of the new drive has a drive of its number, the new one is shown. -/
theorem clear_of_lowest (hadapter : c.adapter < c.before.length)
    (h : ∀ i < c.adapter, c.before.drive? i c.number = none) : c.Clear := by
  intro shown hshown
  rw [shown?, after, Adapters.head?_numbered_add hadapter h] at hshown
  rw [Option.some.inj hshown]

/-- The drive was created on the adapter that an entry names. -/
def On (b : Blueprint) : Prop := ∀ n : Nat, b.controller = Nat.repr n → c.adapter = n

end Creation

/-! ## What the tool does -/

/-- The arguments that ask for the size of the drives with a number. -/
def sizeArguments (number : String) : String := s!"-LDInfo -L{number} -aAll | grep -i size"

variable (tool : MegaCli)

/-- What comes of a command: the drive it creates, if any, and the drives there are afterwards. -/
inductive Serves : Adapters → Exchange → Option Creation → Adapters → Prop where
  /-- A drive gets a number that is free on its adapter, and the report says so. -/
  | created (c : Creation) {e : Exchange} {level report : String} {members : List String}
    (hc : e.command = tool.command (createArguments (Nat.repr c.adapter) level members))
    (hr : e.reply.read e.command = .ok report) (hadapter : c.adapter < c.before.length)
    (hfree : c.before.drive? c.adapter c.number = none)
    (hline : (pieces '\n' report)[1]? =
      some s!"Adapter {c.adapter}: Created VD {c.number}") :
    Serves c.before e (some c) c.after
  /-- The size is printed for each adapter that has a drive with the number, in order. -/
  | sized {adapters : Adapters} {e : Exchange} (number : Nat)
    (hc : e.command = tool.command (sizeArguments (Nat.repr number)))
    (hr : e.reply.read e.command = .ok (adapters.sizeReport number)) :
    Serves adapters e none adapters
  /-- Nothing is said about a command that fails. -/
  | failed {adapters after : Adapters} {e : Exchange} (he : e.succeeded = false) :
    Serves adapters e none after

/-- What comes of some commands, one after the other. -/
inductive Served : Adapters → List Exchange → List Creation → Adapters → Prop where
  | nil (adapters : Adapters) : Served adapters [] [] adapters
  | cons {before between after : Adapters} {e : Exchange} {es : List Exchange}
    {c : Option Creation} {cs : List Creation} (h : Serves tool before e c between)
    (hs : Served between es cs after) : Served before (e :: es) (c.toList ++ cs) after

/-! ## How the commands are told apart -/

theorem getLast?_words {s word : String} (hword : word ≠ "")
    (h : ∀ c ∈ word.toList, isBlank c = false) :
    (words (s ++ " " ++ word)).getLast? = some word := by
  have hchars : s ++ " " ++ word = String.ofList (s.toList ++ ' ' :: word.toList) := by
    apply String.toList_injective
    simp
  rw [hchars, words_append_cons _ _ rfl, String.ofList_toList, String.ofList_toList,
    words_eq_singleton hword h, List.getLast?_concat]

/-- The last word of the line on a new drive is its number. -/
theorem getLast?_words_createdLine (adapter number : Nat) :
    (words s!"Adapter {adapter}: Created VD {number}").getLast? = some (Nat.repr number) := by
  have hline : s!"Adapter {adapter}: Created VD {number}" =
      ("Adapter " ++ Nat.repr adapter ++ ": Created VD") ++ " " ++ Nat.repr number := by
    apply String.toList_injective
    simp [toString, String.toList_append]
  rw [hline]
  exact getLast?_words (repr_ne_empty number) fun _ => isBlank_of_mem_repr

theorem command_injective {s t : String} (h : tool.command s = tool.command t) : s = t := by
  have hlist := congrArg String.toList (line_injective h)
  rw [← String.toList_inj]
  simpa [String.toList_append] using hlist

theorem sizeArguments_injective {m n : Nat}
    (h : sizeArguments (Nat.repr m) = sizeArguments (Nat.repr n)) : m = n := by
  have hlist := congrArg String.toList h
  refine repr_injective (String.toList_inj.1 ?_)
  simpa [sizeArguments, toString, String.toList_append] using hlist

theorem createArguments_ne_sizeArguments (controller level number : String)
    (members : List String) : createArguments controller level members ≠ sizeArguments number := by
  intro h
  have hlist := congrArg String.toList h
  simp [createArguments, sizeArguments, toString, String.toList_append] at hlist

/-- The digits at the end of a text. -/
def trailingDigits (cs : List Char) : List Char := (cs.reverse.takeWhile Char.isDigit).reverse

theorem trailingDigits_append {cs ds : List Char} {c : Char} (hc : c.isDigit = false)
    (hds : ∀ d ∈ ds, d.isDigit = true) : trailingDigits (cs ++ c :: ds) = ds := by
  have hreverse : (cs ++ c :: ds).reverse = ds.reverse ++ c :: cs.reverse := by simp
  have hdigits : ∀ d ∈ ds.reverse, d.isDigit = true := fun d hd => hds d (List.mem_reverse.1 hd)
  rw [trailingDigits, hreverse, List.takeWhile_append_of_pos hdigits,
    List.takeWhile_cons_of_neg (by simp [hc]), List.append_nil, List.reverse_reverse]

/-- A drive is created on the adapter that the command names. -/
theorem createArguments_controller {m n : Nat} {level level' : String}
    {members members' : List String}
    (h : createArguments (Nat.repr m) level members =
      createArguments (Nat.repr n) level' members') : m = n := by
  have htail : ∀ (k : Nat) (level : String) (members : List String),
      trailingDigits (createArguments (Nat.repr k) level members).toList = (Nat.repr k).toList := by
    intro k level members
    have hlist : (createArguments (Nat.repr k) level members).toList =
        ("-CfgLdAdd -r" ++ level ++ "[" ++ ",".intercalate members ++ "] -").toList ++
          'a' :: (Nat.repr k).toList := by
      simp [createArguments, toString, String.toList_append]
    rw [hlist]
    exact trailingDigits_append rfl (digits_repr k).isDigit
  refine repr_injective (String.toList_inj.1 ?_)
  rw [← htail m level members, h, htail]

/-! ## The steps of a run -/

variable {tool}

/-- A command that creates a drive and succeeds has created one on the adapter it names. -/
theorem Serves.creation {before between : Adapters} {e : Exchange} {c : Option Creation}
    {controller level report : String} {members : List String} (h : Serves tool before e c between)
    (hc : e.command = tool.command (createArguments controller level members))
    (hr : e.reply.read e.command = .ok report) :
    ∃ made : Creation, c = some made ∧ between = made.after ∧
      (∀ n : Nat, controller = Nat.repr n → made.adapter = n) ∧
      made.adapter < made.before.length ∧
      (pieces '\n' report)[1]? = some s!"Adapter {made.adapter}: Created VD {made.number}" := by
  cases h with
  | created made hc' hr' hadapter hfree hline =>
    rw [hr] at hr'
    cases hr'
    refine ⟨made, rfl, rfl, ?_, hadapter, hline⟩
    rintro n rfl
    exact createArguments_controller (command_injective tool (hc'.symm.trans hc))
  | sized number hc' hr' =>
    exact absurd (command_injective tool (hc.symm.trans hc'))
      (createArguments_ne_sizeArguments _ _ _ _)
  | failed he =>
    rw [e.succeeded_iff.2 ⟨report, hr⟩] at he
    cases he

/-- The query for the size of a number changes nothing. -/
theorem Serves.query {before between : Adapters} {e : Exchange} {c : Option Creation}
    {number : Nat} {report : String} (h : Serves tool before e c between)
    (hc : e.command = tool.command (sizeArguments (Nat.repr number)))
    (hr : e.reply.read e.command = .ok report) :
    c = none ∧ between = before ∧ report = before.sizeReport number := by
  cases h with
  | created made hc' hr' hadapter hfree hline =>
    exact absurd (command_injective tool (hc'.symm.trans hc))
      (createArguments_ne_sizeArguments _ _ _ _)
  | sized other hc' hr' =>
    obtain rfl := sizeArguments_injective (command_injective tool (hc.symm.trans hc'))
    rw [hr] at hr'
    cases hr'
    exact ⟨rfl, rfl, rfl⟩
  | failed he =>
    rw [e.succeeded_iff.2 ⟨report, hr⟩] at he
    cases he

/-- A step that succeeds has created a drive on the adapter that its entry names, and returns the
size of the drive that is shown first. -/
def ReturnsShownSize (step : BuildStep) (c : Creation) : Prop :=
  c.On step.call.blueprint ∧
    ∃ shown, c.shown? = some shown ∧ step.call.result = .ok shown.size.wholeGb

variable {tools : ToolPaths}

theorem served_step {step : BuildStep} {gb : UInt64} {before after : Adapters}
    {es : List Exchange} {cs : List Creation}
    (hmakes : Manager.Makes ⟨.megacli, tools⟩ step) (hok : step.call.result = .ok gb)
    (h : Served ⟨tools.megacli⟩ before (step.exchanges ++ es) cs after) :
    ∃ c rest, cs = c :: rest ∧ ReturnsShownSize step c ∧
      Served ⟨tools.megacli⟩ c.after es rest after := by
  obtain ⟨⟨b, result⟩, exchanges⟩ := step
  obtain rfl : result = .ok gb := hok
  cases hmakes with
  | @built creation query report id sizes size hfits hc hr hid hq hs he =>
    cases h with
    | cons hcreation hrest =>
      cases hrest with
      | cons hquery hrest =>
        obtain ⟨c, rfl, rfl, hon, hadapter, hline⟩ := hcreation.creation hc hr
        -- The number that is read is the one that was given.
        obtain ⟨line, n, hindex, hlast, -⟩ := hid
        obtain rfl := Option.some.inj (hline.symm.trans hindex)
        obtain rfl := Option.some.inj ((getLast?_words_createdLine _ _).symm.trans hlast)
        obtain ⟨rfl, rfl, rfl⟩ := hquery.query hq hs
        obtain ⟨shown, rest, hshown⟩ := List.exists_cons_of_ne_nil
          (Adapters.numbered_add_ne_nil hadapter c.number c.drive)
        have hhead : c.shown? = some shown := by rw [Creation.shown?, Creation.after, hshown]; rfl
        have hsize := Adapters.driveSize_sizeReport hhead
        obtain rfl := Except.ok.inj (hsize.symm.trans he)
        exact ⟨c, _, rfl, ⟨hon, shown, hhead, rfl⟩, hrest⟩

/-- The steps of a run and the drives that were created go together one by one. -/
theorem served_steps {steps : List BuildStep} {before after : Adapters} {cs : List Creation}
    (hmakes : ∀ step ∈ steps, Manager.Makes ⟨.megacli, tools⟩ step)
    (hok : ∀ step ∈ steps, ∃ gb, step.call.result = .ok gb)
    (h : Served ⟨tools.megacli⟩ before (steps.flatMap BuildStep.exchanges) cs after) :
    List.Forall₂ ReturnsShownSize steps cs := by
  induction steps generalizing before cs with
  | nil =>
    cases h
    exact .nil
  | cons step steps ih =>
    rw [List.forall_mem_cons] at hmakes hok
    rw [List.flatMap_cons] at h
    obtain ⟨gb, hgb⟩ := hok.1
    obtain ⟨c, rest, rfl, hshows, hrest⟩ := served_step hmakes.1 hgb h
    exact .cons hshows (ih hmakes.2 hok.2 hrest)

/-! ## The sizes of the entries -/

/-- How many complete entries come before an entry. -/
def rank (layout : Layout) (i : Nat) : Nat :=
  ((layout.disks.take i).filterMap LogicalDisk.order?).length

/-- A drive was created for each complete entry, in order and on the adapter that the entry names,
and the entry has the size of a drive that is given by this creation. -/
def SizesOf (drive? : Creation → Option VirtualDrive) (target realized : Layout)
    (creations : List Creation) : Prop :=
  ∀ (i : Nat) (disk : LogicalDisk) (b : Blueprint), target.disks[i]? = some disk →
    disk.order? = some b →
    ∃ c drive, creations[rank target i]? = some c ∧ c.On b ∧ drive? c = some drive ∧
      realized.disks[i]? = some (disk.withSize drive.size.wholeGb)

/-- Each complete entry has the size of the drive that was created for it. -/
def OwnSizes : Layout → Layout → List Creation → Prop := SizesOf fun c => some c.drive

/-- Each complete entry has the size of the first drive with the number of the one that was created
for it. -/
def ShownSizes : Layout → Layout → List Creation → Prop := SizesOf Creation.shown?

theorem exists_of_getElem?_forall₂ {α β : Type} {R : α → β → Prop} {as : List α} {bs : List β}
    (h : List.Forall₂ R as bs) {i : Nat} {a : α} (ha : as[i]? = some a) :
    ∃ b, bs[i]? = some b ∧ R a b := by
  induction h generalizing i with
  | nil => simp at ha
  | cons hr _ ih =>
    cases i with
    | zero =>
      obtain rfl := Option.some.inj ha
      exact ⟨_, rfl, hr⟩
    | succ i => exact ih ha

/-- Whatever a layout asks for, some entry asks for it. -/
theorem exists_entry {layout : Layout} {j : Nat} {b : Blueprint}
    (h : layout.orders[j]? = some b) :
    ∃ i disk, layout.disks[i]? = some disk ∧ disk.order? = some b ∧ rank layout i = j := by
  obtain ⟨disks, extra⟩ := layout
  simp only [Layout.orders, rank] at h ⊢
  induction disks generalizing j with
  | nil => simp at h
  | cons disk rest ih =>
    cases hd : disk.order? with
    | none =>
      rw [List.filterMap_cons_none hd] at h
      obtain ⟨i, other, hi, ho, hrank⟩ := ih h
      exact ⟨i + 1, other, hi, ho, by rw [List.take_succ_cons, List.filterMap_cons_none hd, hrank]⟩
    | some first =>
      rw [List.filterMap_cons_some hd] at h
      cases j with
      | zero =>
        obtain rfl := Option.some.inj h
        exact ⟨0, disk, rfl, hd, rfl⟩
      | succ j =>
        obtain ⟨i, other, hi, ho, hrank⟩ := ih h
        exact ⟨i + 1, other, hi, ho, by
          rw [List.take_succ_cons, List.filterMap_cons_some hd, List.length_cons, hrank]⟩

theorem shownSizes_of_forall₂ {target realized : Layout} {steps : List BuildStep}
    {creations : List Creation}
    (hrealizes : Builder.Realizes (steps.map BuildStep.call) target realized)
    (h : List.Forall₂ ReturnsShownSize steps creations) : ShownSizes target realized creations := by
  intro i disk b hi hb
  obtain ⟨gb, hcall, hrealized⟩ := hrealizes.complete i disk b hi hb
  rw [List.getElem?_map] at hcall
  obtain ⟨step, hstep, hcall⟩ := Option.map_eq_some_iff.1 hcall
  obtain ⟨c, hc, hon, shown, hshown, hresult⟩ := exists_of_getElem?_forall₂ h hstep
  rw [hcall] at hon hresult
  obtain rfl := Except.ok.inj hresult
  exact ⟨c, shown, hc, hon, hshown, hrealized⟩

theorem withSize_injective {disk : LogicalDisk} {m n : UInt64}
    (h : disk.withSize m = disk.withSize n) : m = n := by
  simpa [LogicalDisk.withSize] using congrArg LogicalDisk.size h

theorem ownSizes_iff {target realized : Layout} {creations : List Creation}
    (hlength : creations.length = target.orders.length)
    (hshown : ShownSizes target realized creations) :
    OwnSizes target realized creations ↔ ∀ c ∈ creations, c.Clear := by
  constructor
  · intro hown c hc first hfirst
    obtain ⟨j, hj, rfl⟩ := List.mem_iff_getElem.1 hc
    obtain ⟨i, disk, hi, hb, hrank⟩ :=
      exists_entry (List.getElem?_eq_getElem (hlength ▸ hj : j < target.orders.length))
    obtain ⟨c, drive, hc, -, hdrive, hownSize⟩ := hown i disk _ hi hb
    obtain ⟨same, shown, hsame, -, hshown, hshownSize⟩ := hshown i disk _ hi hb
    rw [hrank, List.getElem?_eq_getElem hj] at hc hsame
    obtain rfl := Option.some.inj hc
    obtain rfl := Option.some.inj hsame
    obtain rfl := Option.some.inj hdrive
    obtain rfl := Option.some.inj (hshown.symm.trans hfirst)
    rw [hownSize] at hshownSize
    exact (withSize_injective (Option.some.inj hshownSize)).symm
  · intro hclear i disk b hi hb
    obtain ⟨c, shown, hc, hon, hfirst, hsize⟩ := hshown i disk b hi hb
    rw [hclear c (List.mem_of_getElem? hc) shown hfirst] at hsize
    exact ⟨c, c.drive, hc, hon, rfl, hsize⟩

/-- Each entry has the size of its own drive iff, whenever a drive was created, the first drive of
its number on any adapter had the same size. -/
theorem create_ownSizes_iff (tools : ToolPaths) (node : Node) (host : Host)
    {before after : Adapters} {creations : List Creation} {realized : Layout}
    (hserved : Served ⟨tools.megacli⟩ before
      ((Manager.create ⟨.megacli, tools⟩ node).exchanges host) creations after)
    (hrun : ((Manager.create ⟨.megacli, tools⟩ node).run host).value = .ok realized) :
    creations.length = node.target.orders.length ∧
      ShownSizes node.target realized creations ∧
      (OwnSizes node.target realized creations ↔ ∀ c ∈ creations, c.Clear) := by
  obtain ⟨steps, hx, hmakes, hcomes⟩ :=
    Manager.realizeEach_steps ⟨.megacli, tools⟩ node.target.disks host
  rw [Manager.create, Layout.realize, Procedure.exchanges_bind_pure, hx] at hserved
  rw [Manager.create, Layout.realize, Procedure.value_bind_pure] at hrun
  generalize (Procedure.run (Layout.realizeEach (Manager.build ⟨.megacli, tools⟩)
    node.target.disks) host).value = result at hcomes hrun
  cases result with
  | error cause => cases hrun
  | ok out =>
    cases hrun
    have hfilled : Builder.Filled node.target.disks (steps.map BuildStep.call) out := hcomes
    have hok : ∀ step ∈ steps, ∃ gb, step.call.result = .ok gb := fun step hstep =>
      hfilled.succeeded _ (List.mem_map_of_mem hstep)
    have hshows := served_steps hmakes hok hserved
    have hlength : creations.length = node.target.orders.length := by
      rw [← hshows.length_eq, Layout.orders, ← hfilled.blueprints_eq, List.length_map,
        List.length_map]
    have hshown := shownSizes_of_forall₂ hfilled.realizes hshows
    exact ⟨hlength, hshown, ownSizes_iff hlength hshown⟩

/-! ## Two drives of one number -/

def hundredGb : VirtualDrive :=
  ⟨"Size : 100 GB", [], ⟨.ofNat 100, .gb⟩, by decide, by decide +kernel⟩

def twoHundredGb : VirtualDrive :=
  ⟨"Size : 200 GB", [], ⟨.ofNat 200, .gb⟩, by decide, by decide +kernel⟩

/-- A drive of 200 GB is created on adapter 1, while adapter 0 has one of 100 GB. -/
def secondAdapter : Creation :=
  ⟨[fun n => if n = 0 then some hundredGb else none, fun _ => none], 1, 0, twoHundredGb⟩

/-- Two drives on adapter 1 are to become one. -/
def secondNode : Node :=
  ⟨none, some ⟨[⟨none, some "1", some ["8:0", "8:1"], some "1", []⟩], []⟩, []⟩

def secondHost : Host :=
  .ofReplies [.printed "\nAdapter 1: Created VD 0\n", .printed "Size : 100 GB\nSize : 200 GB\n"]

/-- The run for the second adapter. -/
def secondRun : ToolTask Layout := Manager.create ⟨.megacli, .standard⟩ secondNode

theorem served_secondAdapter :
    Served ⟨ToolPaths.standard.megacli⟩ secondAdapter.before (secondRun.exchanges secondHost)
      [secondAdapter] secondAdapter.after := by
  have hexchanges : secondRun.exchanges secondHost =
      [⟨MegaCli.command ⟨ToolPaths.standard.megacli⟩
          (createArguments (Nat.repr 1) "1" ["8:0", "8:1"]),
        .printed "\nAdapter 1: Created VD 0\n"⟩,
      ⟨MegaCli.command ⟨ToolPaths.standard.megacli⟩ (sizeArguments (Nat.repr 0)),
        .printed "Size : 100 GB\nSize : 200 GB\n"⟩] := by
    decide +kernel
  have hreport : (Reply.printed "\nAdapter 1: Created VD 0\n").read
      (MegaCli.command ⟨ToolPaths.standard.megacli⟩
        (createArguments (Nat.repr 1) "1" ["8:0", "8:1"])) =
      .ok "\nAdapter 1: Created VD 0\n" := by
    decide +kernel
  rw [hexchanges]
  refine .cons (c := some secondAdapter) (.created secondAdapter rfl hreport ?_ rfl ?_)
    (.cons (c := none) (.sized 0 rfl ?_) (.nil _))
  all_goals decide +kernel

theorem size_secondRun : (secondRun.run secondHost).value.toOption.map
    (fun layout => layout.disks.map LogicalDisk.size) = some [some (.gb 100)] := by
  decide +kernel

/-- The run for the second adapter, whose drive is not shown first. -/
theorem create_ownSizes_iff_secondAdapter :
    ∃ realized, (secondRun.run secondHost).value = .ok realized ∧
      [secondAdapter].length = secondNode.target.orders.length ∧
      ShownSizes secondNode.target realized [secondAdapter] ∧
      (OwnSizes secondNode.target realized [secondAdapter] ↔
        ∀ c ∈ [secondAdapter], c.Clear) := by
  obtain ⟨realized, hrun, -⟩ := Procedure.exists_of_map_toOption size_secondRun
  exact ⟨realized, hrun,
    create_ownSizes_iff .standard secondNode secondHost served_secondAdapter hrun⟩

/-- A drive need not have its own size: here the one of 200 GB has that of the drive of the same
number on the adapter before. -/
theorem create_not_ownSizes :
    ¬ ∀ (tools : ToolPaths) (node : Node) (host : Host) (before after : Adapters)
      (creations : List Creation) (realized : Layout),
      Served ⟨tools.megacli⟩ before
        ((Manager.create ⟨.megacli, tools⟩ node).exchanges host) creations after →
      ((Manager.create ⟨.megacli, tools⟩ node).run host).value = .ok realized →
      OwnSizes node.target realized creations := by
  intro h
  obtain ⟨realized, hrun, hsizes⟩ := Procedure.exists_of_map_toOption size_secondRun
  obtain ⟨c, drive, hc, -, hdrive, hown⟩ := h .standard secondNode secondHost _ _ _ realized
    served_secondAdapter hrun 0 _ _ rfl rfl
  obtain rfl : secondAdapter = c := Option.some.inj hc
  obtain rfl : twoHundredGb = drive := Option.some.inj hdrive
  have hsize := congrArg (Option.map LogicalDisk.size) hown
  rw [← List.getElem?_map, hsizes] at hsize
  exact absurd hsize (by decide +kernel)

end RaidProvision.MegaCli
