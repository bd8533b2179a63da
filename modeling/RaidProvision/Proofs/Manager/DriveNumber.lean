import RaidProvision.Proofs.Manager.Creation
import RaidProvision.Proofs.Text.Cut
import RaidProvision.Proofs.Text.Unsigned
import RaidProvision.Shell.Words

/-!
# The number of a drive in a line for the shell

The number of a new drive is taken from the report of a tool and put into the line that asks for the
size of the drive. The shell reads this line, so nothing else may get into it from the report. What
is taken is the last word of one line, if it is a numeral of 32 bits: an optional plus and digits
from 0 to 9. Any other report ends the creation before the size is asked for.

* `createdDrive_eq_ok_iff_number`: which number is taken from a report.
* `sizeCommand_eq_line`: what stands around the number does not depend on the report.
* `Manager.size_asked_by_number`: all of this, for one drive and for a whole layout.
* `Shell.inert_of_endsInNumber`: the shell of a rehearsal takes the number for characters as they
  are.
-/
namespace RaidProvision

open RaidProvision.Text RaidProvision.Report

/-! ## The number in a report -/

namespace Family

/-- The line of a report that is for it ends in a numeral of 32 bits. -/
def EndsInNumber (family : Family) (report id : String) : Prop :=
  ∃ line n, (pieces '\n' report)[family.numberLine]? = some line ∧ EndsIn line id ∧
    Numeral n id ∧ n < UInt32.size

theorem namesDrive_iff_endsInNumber {family : Family} {report id : String} :
    family.NamesDrive report id ↔ family.EndsInNumber report id := by
  constructor
  · rintro ⟨line, n, hline, hlast, hn⟩
    exact ⟨line, n.toNat, hline, getLast?_words_eq_some_iff.1 hlast, readUInt32_eq_ok_iff.1 hn,
      n.toNat_lt⟩
  · rintro ⟨line, n, hline, hend, hnumeral, hn⟩
    refine ⟨line, UInt32.ofNat n, hline, getLast?_words_eq_some_iff.2 hend,
      readUInt32_eq_ok_iff.2 ?_⟩
    rwa [UInt32.toNat_ofNat_of_lt' hn]

theorem createdDrive_eq_ok_iff_number {family : Family} {report id : String} :
    family.createdDrive report = .ok id ↔ family.EndsInNumber report id :=
  createdDrive_eq_ok_iff.trans namesDrive_iff_endsInNumber

end Family

/-! ## The line that asks for the size -/

namespace Manager

/-- What stands before the number in the line that asks for the size of a drive. -/
def queryFront (manager : Manager) (b : Blueprint) : String :=
  match manager.family with
  | .arcconf => manager.tools.arcconf ++ " getconfig " ++ b.controller ++ " ld "
  | .megacli => manager.tools.megacli ++ " -LDInfo -L"

/-- What stands behind it. -/
def queryBack (manager : Manager) : String :=
  match manager.family with
  | .arcconf => "|grep -i size"
  | .megacli => " -aAll | grep -i size"

/-- The line that asks for the size of a drive with a number. -/
def queryLine (manager : Manager) (b : Blueprint) (id : String) : String :=
  manager.queryFront b ++ id ++ manager.queryBack

theorem sizeCommand_eq_line (manager : Manager) (b : Blueprint) (id : String) :
    manager.sizeCommand b id = .line (manager.queryLine b id) := by
  obtain ⟨family, tools⟩ := manager
  cases family with
  | arcconf =>
    refine congrArg Command.line (String.toList_injective ?_)
    simp [Family.sizeLine, queryLine, queryFront, queryBack, toString]
  | megacli =>
    refine congrArg Command.line (String.toList_injective ?_)
    simp [Family.sizeLine, queryLine, queryFront, queryBack, toString]

/-- How the size of one drive is asked for. -/
structure AsksByNumber (manager : Manager) (b : Blueprint) (es : List Exchange)
    (value : Except ToolError UInt64) : Prop where
  /-- The drive is created first, by a command that knows no report yet. -/
  creates : ∀ creation, es.head? = some creation → creation.command = manager.createCommand b
  /-- If a second command is run it is the last one, the report on the drive ended in a number, and
  of this report the number alone stands in the line. -/
  asks : ∀ query, es[1]? = some query → ∃ creation report id, es = [creation, query] ∧
    creation.reply.read creation.command = .ok report ∧ manager.family.EndsInNumber report id ∧
    query.command = .line (manager.queryLine b id)
  /-- The size is asked for if the report ends in a number. -/
  named : ∀ creation report id, es.head? = some creation →
    creation.reply.read creation.command = .ok report → manager.family.EndsInNumber report id →
    ∃ query, es = [creation, query] ∧ query.command = .line (manager.queryLine b id)
  /-- If it does not, the creation fails there. -/
  unnamed : ∀ creation report, es.head? = some creation →
    creation.reply.read creation.command = .ok report →
    (∀ id, ¬ manager.family.EndsInNumber report id) →
    es = [creation] ∧ ∃ cause, value = .error (.report cause)

section
variable {manager : Manager} {b : Blueprint} {value : Except ToolError UInt64}
  {creation query : Exchange}

/-- Nothing follows a creation without a number. -/
theorem AsksByNumber.of_creation (hc : creation.command = manager.createCommand b)
    (hnone : ∀ report id, creation.reply.read creation.command = .ok report →
      ¬ manager.family.EndsInNumber report id)
    (hcause : ∀ report, creation.reply.read creation.command = .ok report →
      ∃ cause, value = .error (.report cause)) : manager.AsksByNumber b [creation] value where
  creates _ h := by
    obtain rfl : creation = _ := by simpa using h
    exact hc
  asks _ h := by simp at h
  named _ report id h hr hid := by
    obtain rfl : creation = _ := by simpa using h
    exact absurd hid (hnone report id hr)
  unnamed _ report h hr _ := by
    obtain rfl : creation = _ := by simpa using h
    exact ⟨rfl, hcause report hr⟩

/-- One query follows a creation with a number. -/
theorem AsksByNumber.of_query {report id : String} (hc : creation.command = manager.createCommand b)
    (hr : creation.reply.read creation.command = .ok report)
    (hid : manager.family.EndsInNumber report id)
    (hq : query.command = manager.sizeCommand b id) :
    manager.AsksByNumber b [creation, query] value where
  creates _ h := by
    obtain rfl : creation = _ := by simpa using h
    exact hc
  asks _ h := by
    obtain rfl : query = _ := by simpa using h
    exact ⟨creation, report, id, rfl, hr, hid, hq.trans (sizeCommand_eq_line manager b id)⟩
  named _ report' id' h hr' hid' := by
    obtain rfl : creation = _ := by simpa using h
    obtain rfl : report = report' := by
      rw [hr] at hr'
      exact Except.ok.inj hr'
    have hsame := Family.createdDrive_eq_ok_iff_number.2 hid
    rw [Family.createdDrive_eq_ok_iff_number.2 hid', Except.ok.injEq] at hsame
    subst hsame
    exact ⟨query, rfl, hq.trans (sizeCommand_eq_line manager b id')⟩
  unnamed _ report' h hr' hnone := by
    obtain rfl : creation = _ := by simpa using h
    obtain rfl : report = report' := by
      rw [hr] at hr'
      exact Except.ok.inj hr'
    exact absurd hid (hnone id)

theorem Builds.asksByNumber {es : List Exchange} (h : manager.Builds b es value) :
    manager.AsksByNumber b es value := by
  cases h with
  | outOfRange hf hb hn => exact ⟨by simp, by simp, by simp, by simp⟩
  | refused creation hfits hc hr =>
    refine .of_creation hc (fun report id hok => ?_) fun report hok => ?_
    · rw [hr] at hok
      cases hok
    · rw [hr] at hok
      cases hok
  | @unnamed creation report cause hfits hc hr hid he =>
    refine .of_creation hc (fun report' id hok hnumber => ?_) fun _ _ => ⟨cause, rfl⟩
    rw [hr, Except.ok.injEq] at hok
    subst hok
    exact hid id (Family.namesDrive_iff_endsInNumber.2 hnumber)
  | unanswered creation query hfits hc hr hid hq hs =>
    exact .of_query hc hr (Family.namesDrive_iff_endsInNumber.1 hid) hq
  | unsized creation query hfits hc hr hid hq hs he =>
    exact .of_query hc hr (Family.namesDrive_iff_endsInNumber.1 hid) hq
  | built creation query hfits hc hr hid hq hs he =>
    exact .of_query hc hr (Family.namesDrive_iff_endsInNumber.1 hid) hq

end

/-- **Of the report on a new drive its number alone gets into the next line.** The number that is
taken is the last word of the line that is for it and a numeral of 32 bits, without any change. It
holds digits and a plus only. The size of a drive is asked for by this number, between texts that do
not depend on the report, and not at all if the line ends in anything else; the creation then fails.
So it is for each drive of a layout. -/
theorem size_asked_by_number (manager : Manager) :
    (∀ report id, manager.family.createdDrive report = .ok id ↔
      manager.family.EndsInNumber report id) ∧
    (∀ report id, manager.family.EndsInNumber report id →
      ∀ c ∈ id.toList, c.isDigit ∨ c = '+') ∧
    (∀ b host, manager.AsksByNumber b ((manager.build b).exchanges host)
      ((manager.build b).run host).value) ∧
    ∀ node host, ∃ steps : List BuildStep,
      (manager.create node).exchanges host = steps.flatMap BuildStep.exchanges ∧
      ∀ step ∈ steps,
        manager.AsksByNumber step.call.blueprint step.exchanges step.call.result := by
  refine ⟨fun report id => Family.createdDrive_eq_ok_iff_number, ?_, fun b host =>
    (manager.build_builds b host).asksByNumber, fun node host => ?_⟩
  · rintro report id ⟨line, n, -, -, hnumeral, -⟩
    exact hnumeral.isDigit_or_plus
  · obtain ⟨steps, hx, hmakes, -⟩ := manager.realizeEach_steps node.target.disks host
    refine ⟨steps, ?_, fun step hstep => (hmakes step hstep).asksByNumber⟩
    rw [create, Layout.realize, Procedure.exchanges_bind_pure, hx]

end Manager

/-! ## In a rehearsal -/

namespace Shell

/-- Characters in front of a word, each as it is. -/
def prepend (cs : List Char) (word : Word) : Word :=
  cs.foldr (fun c => Piece.cons (.plain c.toString)) word

/-- The shell reads a text in a word as its characters and goes on behind it: whatever it knows, the
rest is read as it would be if the text was not there. -/
def Inert (s : String) : Prop :=
  ∀ (pieces : Context → Reading Word) (statements : Reading Statement) (fuel depth lines : Nat)
    (aliases : List (String × String)) (rest : List Char),
    (readPieces pieces statements .bare (s.toList.length + fuel) depth).run
        ⟨s.toList ++ rest, lines, aliases⟩ =
      ((readPieces pieces statements .bare fuel depth).run ⟨rest, lines, aliases⟩).map
        fun (word, cursor) => (prepend s.toList word, cursor)

section
variable {c : Char} (h : c.isDigit ∨ c = '+') (pieces : Context → Reading Word)
  (statements : Reading Statement) (lines : Nat) (aliases : List (String × String))
  (rest : List Char)
include h

theorem ne_of_isDigit_or_plus {d : Char} (hd : d.isDigit = false) (hplus : d ≠ '+') : c ≠ d := by
  rintro rfl
  rcases h with h | h
  · rw [hd] at h
    cases h
  · exact hplus h

theorem isMeta_of_isDigit_or_plus : isMeta c = false := by
  have hmeta : (" \t\n;&|<>()".toList.all fun d => !d.isDigit && d != '+') = true := rfl
  rw [isMeta, List.contains_eq_mem, decide_eq_false_iff_not]
  intro hmem
  have hc := List.all_eq_true.1 hmeta c hmem
  rw [Bool.and_eq_true, Bool.not_eq_true', bne_iff_ne] at hc
  exact ne_of_isDigit_or_plus h hc.1 hc.2 rfl

theorem readPiece_of_isDigit_or_plus :
    (readPiece pieces statements .bare).run ⟨c :: rest, lines, aliases⟩ =
      .ok (some (.plain c.toString), ⟨rest, lines, aliases⟩) := by
  have hne {d : Char} (hd : d.isDigit = false) (hplus : d ≠ '+') {tail : List Char} :
      c :: rest ≠ d :: tail := fun heq =>
    ne_of_isDigit_or_plus h hd hplus (List.cons.inj heq).1
  have hsingle : (c == '\'') = false :=
    beq_eq_false_iff_ne.2 (ne_of_isDigit_or_plus h (by decide) (by decide))
  have hdouble : (c == '"') = false :=
    beq_eq_false_iff_ne.2 (ne_of_isDigit_or_plus h (by decide) (by decide))
  unfold readPiece
  simp only [Reading.rest, StateT.run_bind, StateT.run_get, StateT.run_pure, pure_bind]
  split
  case h_1 heq => cases heq
  case h_2 heq => exact absurd heq (hne (by decide) (by decide))
  case h_3 heq => exact absurd heq (hne (by decide) (by decide))
  case h_4 heq => exact absurd heq (hne (by decide) (by decide))
  case h_5 heq => exact absurd heq (hne (by decide) (by decide))
  case h_6 heq =>
    obtain ⟨rfl, rfl⟩ := List.cons.inj heq
    rw [hsingle, hdouble]
    rfl

/-- A digit or a plus is one more character of the word. -/
theorem readPieces_cons (fuel depth : Nat) :
    (readPieces pieces statements .bare (fuel + 1) depth).run ⟨c :: rest, lines, aliases⟩ =
      ((readPieces pieces statements .bare fuel depth).run ⟨rest, lines, aliases⟩).map
        fun (word, cursor) => ((Piece.plain c.toString).cons word, cursor) := by
  have hends : endsPieces .bare depth (c :: rest) = false := isMeta_of_isDigit_or_plus h
  have hpiece := readPiece_of_isDigit_or_plus h pieces statements lines aliases rest
  rw [readPieces]
  simp only [Reading.rest, StateT.run_bind, StateT.run_get, StateT.run_pure, pure_bind, hends,
    Bool.false_eq_true, if_false, hpiece]
  split
  case h_1 heq =>
    exact absurd (List.cons.inj heq).1 (ne_of_isDigit_or_plus h (by decide) (by decide))
  case h_2 heq =>
    exact absurd (List.cons.inj heq).1 (ne_of_isDigit_or_plus h (by decide) (by decide))
  case h_3 => rfl

end

theorem inert_of_numeral {n : Nat} {s : String} (h : Numeral n s) : Inert s := by
  intro pieces statements fuel depth lines aliases rest
  have hcs := h.isDigit_or_plus
  generalize s.toList = cs at hcs
  induction cs with
  | nil =>
    rw [List.length_nil, Nat.zero_add, List.nil_append]
    cases (readPieces pieces statements .bare fuel depth).run ⟨rest, lines, aliases⟩ <;> rfl
  | cons c cs ih =>
    rw [List.forall_mem_cons] at hcs
    rw [List.length_cons, Nat.add_right_comm, List.cons_append,
      readPieces_cons hcs.1 pieces statements lines aliases (cs ++ rest), ih hcs.2]
    cases (readPieces pieces statements .bare fuel depth).run ⟨rest, lines, aliases⟩ <;> rfl

/-- The line around the number of a new drive is read as it would be without it. -/
theorem inert_of_endsInNumber {family : Family} {report id : String}
    (h : family.EndsInNumber report id) : Inert id := by
  obtain ⟨line, n, -, -, hnumeral, -⟩ := h
  exact inert_of_numeral hnumeral

end Shell
end RaidProvision
