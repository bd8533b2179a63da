import RaidProvision.Proofs.Report.KeyValue
import RaidProvision.Report.Record

/-!
# Filling a record

Lines are pushed to a record one after the other, whatever they are. A record takes a line only if
it carries the label that is due, so the values are always those of the lines that were taken, in
order and each under its own label. There are three reasons to refuse a line: the record has all its
values, the line has no colon, or it carries another label. Each of them leaves the record as it
was, so a run with refused lines in it comes to the same as the run without them.

* `Holds.treats`: which lines a record takes, and why it refuses the others.
* `Holds.push`: the invariant, over one line.
* `holds_fill`: the invariant, over a run.
* `foldlM_taken`: refused lines leave no trace.
* `get_eq_ok_iff`, `get_eq_error_iff`: the value under a label.
* `record_filled`: all of this, for every run.
-/
namespace RaidProvision.Report

open RaidProvision.Text

/-- A line carries a label, in any letter case, before its first colon, and a value behind it. -/
def Carries (line label value : String) : Prop :=
  ∃ front back, ':' ∉ front.toList ∧ line = front ++ ":" ++ back ∧ sameFold (trim front) label ∧
    value = trim back

theorem splitFirst_colon_eq_some_iff {line front back : String} :
    splitFirst ":" line = some (front, back) ↔
      ':' ∉ front.toList ∧ line = front ++ ":" ++ back := by
  have hcolon : ":".toList = [':'] := rfl
  rw [splitFirst_eq_some_iff_of_ne_empty (by decide), hcolon, List.dropLast_singleton,
    List.append_nil, List.singleton_infix_iff, and_comm]

namespace Record

/-! ## Runs -/

/-- The record after some lines were pushed to it. One that refuses a line stays as it is. -/
def fill : Record → List String → Record
  | record, [] => record
  | record, line :: rest =>
    match record.push line with
    | .ok next => next.fill rest
    | .error _ => record.fill rest

/-- The lines that the record takes among those that are pushed to it. -/
def taken : Record → List String → List String
  | _, [] => []
  | record, line :: rest =>
    match record.push line with
    | .ok next => line :: next.taken rest
    | .error _ => record.taken rest

section
variable {record next : Record} {line : String}

theorem fill_cons_of_ok (h : record.push line = .ok next) (rest : List String) :
    record.fill (line :: rest) = next.fill rest := by
  rw [fill, h]

theorem fill_cons_of_error {cause : ReportError} (h : record.push line = .error cause)
    (rest : List String) : record.fill (line :: rest) = record.fill rest := by
  rw [fill, h]

theorem taken_cons_of_ok (h : record.push line = .ok next) (rest : List String) :
    record.taken (line :: rest) = line :: next.taken rest := by
  rw [taken, h]

theorem taken_cons_of_error {cause : ReportError} (h : record.push line = .error cause)
    (rest : List String) : record.taken (line :: rest) = record.taken rest := by
  rw [taken, h]

end

theorem fill_append (record : Record) (lines more : List String) :
    record.fill (lines ++ more) = (record.fill lines).fill more := by
  induction lines generalizing record with
  | nil => rfl
  | cons line rest ih =>
    rw [List.cons_append]
    cases h : record.push line with
    | ok next => rw [fill_cons_of_ok h, fill_cons_of_ok h, ih]
    | error cause => rw [fill_cons_of_error h, fill_cons_of_error h, ih]

theorem taken_append (record : Record) (lines more : List String) :
    record.taken (lines ++ more) = record.taken lines ++ (record.fill lines).taken more := by
  induction lines generalizing record with
  | nil => rfl
  | cons line rest ih =>
    rw [List.cons_append]
    cases h : record.push line with
    | ok next =>
      rw [fill_cons_of_ok h, taken_cons_of_ok h, taken_cons_of_ok h, ih, List.cons_append]
    | error cause =>
      rw [fill_cons_of_error h, taken_cons_of_error h, taken_cons_of_error h, ih]

theorem taken_sublist (record : Record) (lines : List String) :
    (record.taken lines).Sublist lines := by
  induction lines generalizing record with
  | nil => exact .slnil
  | cons line rest ih =>
    cases h : record.push line with
    | ok next => rw [taken_cons_of_ok h]; exact (ih next).cons_cons line
    | error cause => rw [taken_cons_of_error h]; exact (ih record).cons line

/-- Without the lines that were refused, a run comes to the same record and nothing is refused. -/
theorem foldlM_taken (record : Record) (lines : List String) :
    (record.taken lines).foldlM push record = .ok (record.fill lines) := by
  induction lines generalizing record with
  | nil => rfl
  | cons line rest ih =>
    cases h : record.push line with
    | ok next =>
      rw [taken_cons_of_ok h, fill_cons_of_ok h, List.foldlM_cons, h]
      exact ih next
    | error cause => rw [taken_cons_of_error h, fill_cons_of_error h, ih]

/-! ## What a record holds -/

/-- A record for some labels holds the values of the lines that it took: the value of each line
stands where the line came, and the line carried the label of this place. -/
structure Holds (labels took : List String) (record : Record) : Prop where
  labels_eq : record.labels = labels
  length_eq : record.values.length = took.length
  carries : ∀ (i : Nat) (line : String), took[i]? = some line → ∃ label value,
    labels[i]? = some label ∧ record.values[i]? = some value ∧ Carries line label value

variable {labels took : List String} {record next : Record} {line : String}

theorem holds_new (labels : List String) : Holds labels [] (new labels) where
  labels_eq := rfl
  length_eq := rfl
  carries i line h := by simp at h

/-- There is a label for each line that was taken. -/
theorem Holds.length_le (h : Holds labels took record) : took.length ≤ labels.length := by
  by_contra hlong
  obtain ⟨line, hline⟩ : ∃ line, took[labels.length]? = some line :=
    ⟨_, List.getElem?_eq_getElem (by omega)⟩
  obtain ⟨label, -, hlabel, -⟩ := h.carries _ _ hline
  simp at hlabel

/-- What a record that took some lines does with the next one. -/
inductive Treats (labels took : List String) (record : Record) (line : String) :
    Except ReportError Record → Prop where
  /-- All labels have their values. -/
  | full (hfull : took.length = labels.length) :
    Treats labels took record line (.error (.extraLine (trim line)))
  /-- There is no colon. -/
  | unlabelled {label : String} (hdue : labels[took.length]? = some label)
    (hcolon : ':' ∉ line.toList) :
    Treats labels took record line (.error (.notLabelled label (trim line)))
  /-- Another label stands before the first colon. -/
  | mislabelled {label front back : String} (hdue : labels[took.length]? = some label)
    (hfront : ':' ∉ front.toList) (hline : line = front ++ ":" ++ back)
    (hother : sameFold (trim front) label = false) :
    Treats labels took record line (.error (.wrongLabel label took.length (trim front)))
  /-- The label that is due stands there. -/
  | taken {label value : String} (hdue : labels[took.length]? = some label)
    (hcarries : Carries line label value) :
    Treats labels took record line (.ok ⟨labels, record.values ++ [value]⟩)

theorem Holds.treats (h : Holds labels took record) (line : String) :
    Treats labels took record line (record.push line) := by
  rw [push, h.labels_eq, h.length_eq]
  split
  case h_1 hnone =>
    have hle := List.getElem?_eq_none_iff.1 hnone
    exact .full (Nat.le_antisymm h.length_le hle)
  case h_2 label hdue =>
    split
    case h_1 hnone =>
      refine .unlabelled hdue fun hcolon => ?_
      have hsep : ":".toList = [':'] := rfl
      obtain ⟨front, back, hfront, hline⟩ := exists_before hsep hcolon
      rw [splitFirst_colon_eq_some_iff.2 ⟨hfront, hline⟩] at hnone
      cases hnone
    case h_2 front back hsplit =>
      obtain ⟨hfront, hline⟩ := splitFirst_colon_eq_some_iff.1 hsplit
      split
      case isTrue hsame => exact .taken hdue ⟨front, back, hfront, hline, hsame, rfl⟩
      case isFalse hother => exact .mislabelled hdue hfront hline (Bool.eq_false_iff.2 hother)

namespace Holds

/-- A line that is taken adds its value under the label that was due. -/
theorem push (h : Holds labels took record) (hpush : record.push line = .ok next) :
    Holds labels (took ++ [line]) next := by
  have htreats := h.treats line
  rw [hpush] at htreats
  cases htreats with | @taken label value hdue hcarries
  refine ⟨rfl, by simp [h.length_eq], fun i other hother => ?_⟩
  rw [List.getElem?_append] at hother
  split at hother
  case isTrue hi =>
    obtain ⟨label, value, hlabel, hvalue, hother⟩ := h.carries i other hother
    refine ⟨label, value, hlabel, ?_, hother⟩
    rw [List.getElem?_append_left (h.length_eq ▸ hi), hvalue]
  case isFalse hi =>
    obtain ⟨hlast, rfl⟩ : i - took.length = 0 ∧ line = other := by
      simpa [List.getElem?_singleton] using hother
    obtain rfl : i = took.length := by omega
    refine ⟨label, value, hdue, ?_, hcarries⟩
    rw [← h.length_eq, List.getElem?_concat_length]

/-- After a run, a record holds the values of all lines that it took. -/
theorem fill {before : List String} (h : Holds labels before record) (lines : List String) :
    Holds labels (before ++ record.taken lines) (record.fill lines) := by
  induction lines generalizing before record with
  | nil => simpa [Record.fill, taken] using h
  | cons line rest ih =>
    cases hpush : record.push line with
    | ok next =>
      rw [fill_cons_of_ok hpush, taken_cons_of_ok hpush, List.append_cons]
      exact ih (h.push hpush)
    | error cause =>
      rw [fill_cons_of_error hpush, taken_cons_of_error hpush]
      exact ih h

theorem isEmpty_iff (h : Holds labels took record) : record.isEmpty ↔ took = [] := by
  rw [isEmpty, List.isEmpty_iff, ← List.length_eq_zero_iff, h.length_eq, List.length_eq_zero_iff]

theorem isComplete_iff (h : Holds labels took record) :
    record.isComplete ↔ took.length = labels.length := by
  rw [isComplete, beq_iff_eq, h.length_eq, h.labels_eq]

end Holds

theorem holds_fill (labels lines : List String) :
    Holds labels ((new labels).taken lines) ((new labels).fill lines) :=
  (holds_new labels).fill lines

/-! ## The value under a label -/

/-- A label stands at a position and nowhere before it. -/
structure FirstAt (labels : List String) (label : String) (i : Nat) : Prop where
  here : labels[i]? = some label
  not_before : ∀ j < i, labels[j]? ≠ some label

theorem idxOf?_eq_some_iff_firstAt {labels : List String} {label : String} {i : Nat} :
    labels.idxOf? label = some i ↔ FirstAt labels label i := by
  rw [List.idxOf?_eq_some_iff]
  constructor
  · rintro ⟨hi, rfl, hbefore⟩
    refine ⟨List.getElem?_eq_getElem hi, fun j hj heq => hbefore j hj ?_⟩
    rwa [List.getElem?_eq_getElem (by omega), Option.some.injEq] at heq
  · rintro ⟨hhere, hbefore⟩
    obtain ⟨hi, rfl⟩ := List.getElem?_eq_some_iff.1 hhere
    refine ⟨hi, rfl, fun j hj heq => hbefore j hj ?_⟩
    rw [List.getElem?_eq_getElem (by omega), heq]

/-- A value is found under a label if the first place of this label is filled. -/
theorem get_eq_ok_iff {label value : String} :
    record.get label = .ok value ↔
      ∃ i, FirstAt record.labels label i ∧ record.values[i]? = some value := by
  have hget : record.get label = .ok value ↔ record.get? label = some value := by
    rw [get]
    cases record.get? label <;> simp
  rw [hget, get?, Option.bind_eq_some_iff]
  exact exists_congr fun i => and_congr_left' idxOf?_eq_some_iff_firstAt

theorem get_eq_error_iff {label : String} {cause : ReportError} :
    record.get label = .error cause ↔
      cause = .missingField label ∧
        ∀ i, FirstAt record.labels label i → record.values[i]? = none := by
  have hnone : record.get? label = none ↔
      ∀ i, FirstAt record.labels label i → record.values[i]? = none := by
    rw [get?, Option.bind_eq_none_iff]
    exact forall_congr' fun i => imp_congr_left idxOf?_eq_some_iff_firstAt
  rw [← hnone, get]
  cases record.get? label with
  | none => simp [eq_comm]
  | some value => simp

/-! ## Every run -/

/-- What is true of a record after some lines were pushed to a new one. -/
structure Filled (labels lines : List String) (record : Record) (took : List String) : Prop where
  /-- The values are those of the lines that were taken, each under its own label. -/
  holds : Holds labels took record
  /-- There are at most as many values as labels. -/
  bounded : record.values.length ≤ labels.length
  /-- The lines that were taken are some of those that were pushed, in their order, and come to the
  same record if nothing else is pushed. -/
  sublist : took.Sublist lines
  replay : took.foldlM push (new labels) = .ok record
  /-- What comes of the next line. -/
  treats : ∀ line, Treats labels took record line (record.push line)
  /-- A line that is refused, for whatever reason, changes nothing. -/
  refused : ∀ line cause, record.push line = .error cause →
    (new labels).fill (lines ++ [line]) = record ∧ (new labels).taken (lines ++ [line]) = took
  accepted : ∀ line next, record.push line = .ok next →
    (new labels).fill (lines ++ [line]) = next ∧
      (new labels).taken (lines ++ [line]) = took ++ [line]
  empty : record.isEmpty ↔ took = []
  complete : record.isComplete ↔ took.length = labels.length
  /-- The value under a label is that of its first place, none if this is not filled. -/
  found : ∀ label value, record.get label = .ok value ↔
    ∃ i, FirstAt labels label i ∧ record.values[i]? = some value
  missing : ∀ label cause, record.get label = .error cause ↔
    cause = .missingField label ∧ ∀ i, FirstAt labels label i → took.length ≤ i

/-- **A record is the lines that it took.** Whatever lines are pushed to a new record for some
labels, and wherever the run stops. -/
theorem record_filled (labels lines : List String) :
    Filled labels lines ((new labels).fill lines) ((new labels).taken lines) := by
  have h := holds_fill labels lines
  exact {
    holds := h
    bounded := h.length_eq ▸ h.length_le
    sublist := taken_sublist _ lines
    replay := foldlM_taken _ lines
    treats := h.treats
    refused := fun line cause hpush => by
      rw [fill_append, taken_append, fill_cons_of_error hpush, taken_cons_of_error hpush]
      exact ⟨rfl, List.append_nil _⟩
    accepted := fun line next hpush => by
      rw [fill_append, taken_append, fill_cons_of_ok hpush, taken_cons_of_ok hpush]
      exact ⟨rfl, rfl⟩
    empty := h.isEmpty_iff
    complete := h.isComplete_iff
    found := fun label value => by rw [get_eq_ok_iff, h.labels_eq]
    missing := fun label cause => by
      rw [get_eq_error_iff, h.labels_eq]
      simp only [List.getElem?_eq_none_iff, h.length_eq] }

end Record
end RaidProvision.Report
