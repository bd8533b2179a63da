import Mathlib.Data.List.Basic
import RaidProvision.Json.Reader

/-!
# Values as they are written

A value that is read has its members sorted by name, and the last of several of one name. A written
value keeps all members in the order in which they stand in the text. Readers of something
particular read the written value and make something of it, or do not: `Reader.Interprets` says so,
and it goes through arrays and objects with `mapM` and `foldlM`. So what is read off a text is a
function of its written value, whatever the text looks like otherwise.

* `Value.readWritten`, `Value.written?`: the written value at the front of a text, and of a text.
* `readArray_interprets`, `readObject_interprets`: arrays element by element, objects member by
  member.
* `read_interprets`: any value is its written value, settled.
* `wholeText_of_interprets`: a whole text.
-/
namespace RaidProvision.Json

variable {ε δ α β σ : Type}

/-- What a reader takes off a text is what `make` makes of what the other one takes off it; where
the other one fails or nothing is made, the reader fails. -/
def Reader.Interprets (reader : Reader ε α) (other : Reader δ β) (make : β → Option α) : Prop :=
  ∀ cs, (reader cs).toOption = (other cs).toOption.bind fun (y, rest) => (make y).map (·, rest)

namespace Reader

variable {reader : Reader ε α} {other : Reader δ β} {make : β → Option α}

theorem map_toOption (f : α → σ) (cs : List Char) :
    (Reader.map f reader cs).toOption = (reader cs).toOption.map fun (x, rest) => (f x, rest) := by
  unfold Reader.map
  cases reader cs <;> rfl

theorem Interprets.map (h : reader.Interprets other make) (f : α → σ) :
    (Reader.map f reader).Interprets other fun y => (make y).map f := by
  intro cs
  rw [map_toOption, h cs]
  cases hother : (other cs).toOption with
  | none => rfl
  | some result =>
    obtain ⟨y, rest⟩ := result
    simp only [Option.bind_some]
    cases make y <;> rfl

end Reader

/-! ## Words, texts and numbers -/

theorem keyword_toOption (word : String) (x : α) (cs : List Char) :
    (keyword (ε := ε) word x cs).toOption =
      if word.toList.isPrefixOf cs then some (x, cs.drop word.length) else none := by
  unfold keyword
  split <;> rfl

theorem readText_toOption (cs : List Char) :
    (readText (ε := ε) cs).toOption = (readText (ε := δ) cs).toOption := by
  unfold readText
  cases readCharacters cs <;> rfl

theorem readNumeral_toOption (cs : List Char) :
    (readNumeral (ε := ε) cs).toOption = (readNumeral (ε := δ) cs).toOption := by
  unfold readNumeral
  cases readNumber cs <;> rfl

/-! ## Arrays and objects -/

/-- What is behind white space and a mark, if this is the mark that stands there. -/
def behind? (mark : Char) (cs : List Char) : Option (List Char) :=
  match skipSpace cs with
  | [] => none
  | c :: cs => if c = mark then some cs else none

/-- What is behind an element or a member, and whether another one has to follow there. -/
def next? (close : Char) (cs : List Char) : Option (Bool × List Char) :=
  match behind? ',' cs with
  | some rest => some (true, rest)
  | none => (behind? close cs).map fun rest => (false, rest)

theorem readElements_toOption (element : Reader ε α) (fuel : Nat) (cs : List Char) :
    (readElements element (fuel + 1) cs).toOption =
      (element cs).toOption.bind fun (x, cs) =>
        (next? ']' cs).bind fun (more, cs) =>
          if more then (readElements element fuel cs).toOption.map fun (xs, cs) => (x :: xs, cs)
          else some ([x], cs) := by
  rw [readElements]
  cases element cs with
  | error fault => rfl
  | ok result =>
    obtain ⟨x, ds⟩ := result
    simp only [bind, Except.bind, Except.toOption, Option.bind_some, next?, behind?]
    cases skipSpace ds with
    | nil => rfl
    | cons c es =>
      by_cases hcomma : c = ','
      · subst hcomma
        cases hrest : readElements element fuel es <;> simp [pure, Except.pure, hrest]
      · by_cases hclose : c = ']'
        · subst hclose
          rfl
        · simp [hcomma, hclose]

theorem readElements_interprets {element : Reader ε α} {other : Reader δ β}
    {make : β → Option α} (h : element.Interprets other make) : ∀ fuel,
    Reader.Interprets (readElements element fuel) (readElements other fuel) (List.mapM make)
  | 0 => fun cs => rfl
  | fuel + 1 => fun cs => by
    rw [readElements_toOption, readElements_toOption, h cs]
    cases (other cs).toOption with
    | none => rfl
    | some result =>
      obtain ⟨y, ds⟩ := result
      simp only [Option.bind_some]
      cases hnext : next? ']' ds with
      | none => cases make y <;> simp [hnext]
      | some found =>
        obtain ⟨more, es⟩ := found
        cases more with
        | false => cases hy : make y <;> simp [hnext, List.mapM_cons, hy]
        | true =>
          have hrest := readElements_interprets h fuel es
          cases hys : (readElements other fuel es).toOption with
          | none =>
            rw [hys] at hrest
            cases make y <;> simp [hnext, hrest, hys]
          | some result =>
            obtain ⟨ys, fs⟩ := result
            rw [hys] at hrest
            cases hy : make y <;> cases hmake : ys.mapM make <;>
              simp [hnext, hrest, hys, List.mapM_cons, hy, hmake]

theorem readArray_interprets {element : Reader ε α} {other : Reader δ β} {make : β → Option α}
    (h : element.Interprets other make) :
    (readArray element).Interprets (readArray other) (List.mapM make) := by
  intro cs
  unfold readArray
  split
  case h_1 => rfl
  case h_2 => exact readElements_interprets h _ cs

/-- Reads members one behind the other, whatever their names are. -/
def writtenMember (value : Reader ε β) (name : String) (held : List (String × β)) :
    Except ε (Reader ε (List (String × β))) :=
  .ok (Reader.map (fun y => held ++ [(name, y)]) value)

theorem readMembers_toOption (member : String → σ → Except ε (Reader ε σ)) (fuel : Nat)
    (state : σ) (cs : List Char) :
    (readMembers member (fuel + 1) state cs).toOption =
      (behind? '"' cs).bind fun cs => (readText (ε := Empty) cs).toOption.bind fun (name, cs) =>
        (member name state).toOption.bind fun value =>
          (colon value cs).toOption.bind fun (state, cs) =>
            (next? '}' cs).bind fun (more, cs) =>
              if more then (readMembers member fuel state cs).toOption else some (state, cs) := by
  rw [readMembers, behind?]
  cases skipSpace cs with
  | nil => rfl
  | cons c ds =>
    by_cases hquote : c = '"'
    · subst hquote
      simp only [if_true, Option.bind_some]
      rw [readText_toOption (δ := ε)]
      cases readText (ε := ε) ds with
      | error fault => rfl
      | ok result =>
        obtain ⟨name, es⟩ := result
        simp only [bind, Except.bind, Except.toOption, Option.bind_some]
        cases member name state with
        | error cause => rfl
        | ok value =>
          simp only [Option.bind_some]
          cases colon value es with
          | error fault => rfl
          | ok result =>
            obtain ⟨state', fs⟩ := result
            simp only [Option.bind_some, next?, behind?]
            cases skipSpace fs with
            | nil => rfl
            | cons d gs =>
              by_cases hcomma : d = ','
              · subst hcomma
                cases readMembers member fuel state' gs <;> simp
              · by_cases hclose : d = '}'
                · subst hclose
                  rfl
                · simp [hcomma, hclose]
    · simp [hquote, Except.toOption]

theorem colon_interprets {reader : Reader ε α} {other : Reader δ β} {make : β → Option α}
    (h : reader.Interprets other make) : (colon reader).Interprets (colon other) make := by
  intro cs
  unfold colon
  split
  case h_1 ds _ => exact h ds
  case h_2 => rfl

theorem colon_writtenMember (value : Reader δ β) (name : String) (held : List (String × β))
    (cs : List Char) :
    (colon (Reader.map (fun y => held ++ [(name, y)]) value) cs).toOption =
      (colon value cs).toOption.map fun (y, rest) => (held ++ [(name, y)], rest) := by
  unfold colon
  split
  case h_1 ds _ => exact Reader.map_toOption _ ds
  case h_2 => rfl

/-- Members are read one by one: a name, a value, and then the end or all other members. -/
theorem readMembers_written (value : Reader δ β) (fuel : Nat) (held : List (String × β))
    (cs : List Char) :
    (readMembers (writtenMember value) (fuel + 1) held cs).toOption =
      (behind? '"' cs).bind fun cs => (readText (ε := Empty) cs).toOption.bind fun (name, cs) =>
        (colon value cs).toOption.bind fun (y, cs) =>
          (next? '}' cs).bind fun (more, cs) =>
            if more then (readMembers (writtenMember value) fuel (held ++ [(name, y)]) cs).toOption
            else some (held ++ [(name, y)], cs) := by
  rw [readMembers_toOption]
  cases behind? '"' cs with
  | none => rfl
  | some ds =>
    simp only [Option.bind_some]
    cases (readText (ε := Empty) ds).toOption with
    | none => rfl
    | some result =>
      obtain ⟨name, es⟩ := result
      have hmember : (writtenMember value name held).toOption =
          some (Reader.map (fun y => held ++ [(name, y)]) value) := rfl
      simp only [Option.bind_some, hmember, colon_writtenMember]
      cases (colon value es).toOption <;> rfl

/-- Reading members one by one does what folding over the written members does. -/
theorem readMembers_interprets {member : String → σ → Except ε (Reader ε σ)}
    {value : Reader δ β} {take : σ → String × β → Option σ}
    (hrefused : ∀ name state cause, member name state = .error cause →
      ∀ y, take state (name, y) = none)
    (hread : ∀ name state reader, member name state = .ok reader →
      reader.Interprets value fun y => take state (name, y)) (start : σ) : ∀ fuel held cs,
    ((held.foldlM take start).bind fun state => (readMembers member fuel state cs).toOption) =
      (readMembers (writtenMember value) fuel held cs).toOption.bind fun (ms, rest) =>
        (ms.foldlM take start).map (·, rest)
  | 0, held, _ => by cases held.foldlM take start <;> rfl
  | fuel + 1, held, cs => by
    simp only [readMembers_toOption member, readMembers_written]
    cases behind? '"' cs with
    | none => cases held.foldlM take start <;> rfl
    | some ds =>
      simp only [Option.bind_some]
      cases (readText (ε := Empty) ds).toOption with
      | none => cases held.foldlM take start <;> rfl
      | some result =>
        obtain ⟨name, es⟩ := result
        simp only [Option.bind_some]
        -- the value is the same for all states, so it is told before them
        have hmember : ∀ state, ((member name state).toOption.bind fun reader =>
            (colon reader es).toOption) =
            (colon value es).toOption.bind fun (y, rest) =>
              (take state (name, y)).map (·, rest) := by
          intro state
          cases hm : member name state with
          | error cause =>
            have hnone := hrefused name state cause hm
            cases (colon value es).toOption <;> simp [Except.toOption, hnone]
          | ok reader => exact colon_interprets (hread name state reader hm) es
        simp only [← Option.bind_assoc, hmember]
        cases (colon value es).toOption with
        | none => cases held.foldlM take start <;> rfl
        | some result =>
          obtain ⟨y, fs⟩ := result
          simp only [Option.bind_some]
          have hheld : (held ++ [(name, y)]).foldlM take start =
              (held.foldlM take start).bind fun state => take state (name, y) := by
            rw [List.foldlM_append]
            simp
          cases hnext : next? '}' fs with
          | none =>
            cases held.foldlM take start with
            | none => rfl
            | some state => cases take state (name, y) <;> simp [hnext]
          | some found =>
            obtain ⟨more, gs⟩ := found
            have hrest := readMembers_interprets hrefused hread start fuel (held ++ [(name, y)]) gs
            rw [hheld] at hrest
            cases more with
            | false =>
              simp only [Option.bind_some, hheld, Bool.false_eq_true, if_false]
              cases held.foldlM take start with
              | none => rfl
              | some state => cases htake : take state (name, y) <;> simp [hnext, htake]
            | true =>
              simp only [Option.bind_some, if_true, ← hrest]
              cases held.foldlM take start with
              | none => rfl
              | some state => cases htake : take state (name, y) <;> simp [hnext, htake]

theorem readObject_interprets {member : String → σ → Except ε (Reader ε σ)}
    {value : Reader δ β} {take : σ → String × β → Option σ}
    (hrefused : ∀ name state cause, member name state = .error cause →
      ∀ y, take state (name, y) = none)
    (hread : ∀ name state reader, member name state = .ok reader →
      reader.Interprets value fun y => take state (name, y)) (start : σ) :
    (readObject member start).Interprets (readObject (writtenMember value) [])
      (List.foldlM take start) := by
  intro cs
  unfold readObject
  split
  case h_1 => rfl
  case h_2 => exact readMembers_interprets hrefused hread start cs.length [] cs

/-! ## Values and whole texts -/

/-- Reads a value of any kind, given how what is between brackets and between braces is read. -/
def Value.readBy (elements : Reader ε (List Value)) (members : Reader ε Members) : Reader ε Value :=
  fun cs =>
    match skipSpace cs with
    | 'n' :: _ => keyword "null" .null (skipSpace cs)
    | 't' :: _ => keyword "true" (.boolean true) (skipSpace cs)
    | 'f' :: _ => keyword "false" (.boolean false) (skipSpace cs)
    | '"' :: rest => Reader.map .text readText rest
    | '[' :: rest => Reader.map .array elements rest
    | '{' :: rest => Reader.map .object members rest
    | c :: _ => if c = '-' || c.isDigit then Reader.map .number readNumeral (skipSpace cs)
      else .error .malformed
    | [] => .error .malformed

/-- Nothing may be opened any more. -/
def tooDeep : Reader ε α := fun _ => .error .malformed

/-- Reads a value of any kind as it is written. -/
def Value.readWritten : (depth : Nat) → Reader ε Value
  | 0 => Value.readBy tooDeep tooDeep
  | depth + 1 => Value.readBy (readArray (Value.readWritten depth))
      (readObject (writtenMember (Value.readWritten depth)) [])

theorem Value.read_zero : Value.read (ε := ε) 0 = Value.readBy tooDeep tooDeep := by
  funext cs
  unfold Value.read Value.readBy
  rfl

/-- Puts a member to the others. -/
def settledMember (value : Reader ε Value) (name : String) (held : Members) :
    Except ε (Reader ε Members) :=
  .ok (Reader.map (Members.insert name · held) value)

theorem Value.read_succ (depth : Nat) : Value.read (ε := ε) (depth + 1) =
    Value.readBy (readArray (Value.read depth))
      (readObject (settledMember (Value.read depth)) []) := by
  funext cs
  unfold Value.read Value.readBy
  rfl

/-- The written value that a text holds. -/
def Value.written? (s : String) : Option Value :=
  (wholeText (ε := Empty) (Value.readWritten maxDepth) s).toOption

mutual

/-- The value that is read where a value is written: its members are sorted by name, and the last
one of each name is left. -/
def Value.settled : Value → Value
  | .array elements => .array (settledAll elements)
  | .object members => .object (settledMembers [] members)
  | value => value

def Value.settledAll : List Value → List Value
  | [] => []
  | value :: rest => settled value :: settledAll rest

def Value.settledMembers : Members → Members → Members
  | held, [] => held
  | held, (name, value) :: rest => settledMembers (Members.insert name (settled value) held) rest

end

/-- What is read where a value is written. -/
def Value.settle (value : Value) : Option Value := some value.settled

/-- Puts a member to those that are settled. -/
def Members.settle (held : Members) (member : String × Value) : Option Members :=
  some (held.insert member.1 member.2.settled)

theorem Value.mapM_settle (elements : List Value) :
    elements.mapM Value.settle = some (Value.settledAll elements) := by
  induction elements with
  | nil => rfl
  | cons value rest ih => simp [List.mapM_cons, ih, Value.settle, Value.settledAll]

theorem Value.foldlM_settle (members held : Members) :
    members.foldlM Members.settle held = some (Value.settledMembers held members) := by
  induction members generalizing held with
  | nil => rfl
  | cons m rest ih =>
    obtain ⟨name, value⟩ := m
    rw [List.foldlM_cons, Value.settledMembers]
    exact ih _

theorem keyword_interprets (word : String) (make : β → Option α) {x : α} {y : β}
    (h : make y = some x) :
    (keyword (ε := ε) word x).Interprets (keyword (ε := δ) word y) make := by
  intro cs
  rw [keyword_toOption, keyword_toOption]
  split
  · simp [h]
  · rfl

/-- What is made of a value is made of the parts it holds; a value without parts stays as it is. -/
structure Value.MadeOf (make : Value → Option Value) (elements : List Value → Option (List Value))
    (members : Members → Option Members) : Prop where
  array : ∀ values, make (.array values) = (elements values).map .array
  object : ∀ held, make (.object held) = (members held).map .object
  plain : ∀ value, (∀ values, value ≠ .array values) → (∀ held, value ≠ .object held) →
    make value = some value

/-- A value is read as something if what is between its brackets and braces is. -/
theorem readBy_interprets {elements : Reader ε (List Value)} {members : Reader ε Members}
    {elements' : Reader δ (List Value)} {members' : Reader δ Members}
    {make : Value → Option Value} {makeElements : List Value → Option (List Value)}
    {makeMembers : Members → Option Members} (hmake : Value.MadeOf make makeElements makeMembers)
    (helements : elements.Interprets elements' makeElements)
    (hmembers : members.Interprets members' makeMembers) :
    (Value.readBy elements members).Interprets (Value.readBy elements' members') make := by
  have hnull : make .null = some .null := hmake.plain _ (by simp) (by simp)
  have hboolean (b : Bool) : make (.boolean b) = some (.boolean b) :=
    hmake.plain _ (by simp) (by simp)
  have hnumber (n : Number) : make (.number n) = some (.number n) :=
    hmake.plain _ (by simp) (by simp)
  have htext (s : String) : make (.text s) = some (.text s) := hmake.plain _ (by simp) (by simp)
  intro cs
  unfold Value.readBy
  cases skipSpace cs with
  | nil => rfl
  | cons c ds =>
    by_cases hn : c = 'n'
    · subst hn
      change (keyword "null" Value.null _).toOption = (keyword "null" Value.null _).toOption.bind _
      exact keyword_interprets "null" make hnull _
    by_cases ht : c = 't'
    · subst ht
      change (keyword "true" (Value.boolean true) _).toOption =
        (keyword "true" (Value.boolean true) _).toOption.bind _
      exact keyword_interprets "true" make (hboolean true) _
    by_cases hf : c = 'f'
    · subst hf
      change (keyword "false" (Value.boolean false) _).toOption =
        (keyword "false" (Value.boolean false) _).toOption.bind _
      exact keyword_interprets "false" make (hboolean false) _
    by_cases hquote : c = '"'
    · subst hquote
      simp only [Reader.map_toOption, readText_toOption (ε := ε) (δ := δ)]
      cases (readText (ε := δ) ds).toOption <;> simp [htext]
    by_cases hbracket : c = '['
    · subst hbracket
      simp only [Reader.map_toOption, helements ds]
      cases (elements' ds).toOption <;> simp [hmake.array, Function.comp_def]
    by_cases hbrace : c = '{'
    · subst hbrace
      simp only [Reader.map_toOption, hmembers ds]
      cases (members' ds).toOption <;> simp [hmake.object, Function.comp_def]
    by_cases hfirst : (c = '-' || c.isDigit) = true
    · simp only [hfirst, if_true, Reader.map_toOption, readNumeral_toOption (ε := ε) (δ := δ)]
      cases (readNumeral (ε := δ) (c :: ds)).toOption <;> simp [hnumber]
    · simp only [hfirst]
      rfl

/-- A value is settled if its parts are. -/
theorem Value.settle_madeOf : Value.MadeOf Value.settle (fun vs => some (Value.settledAll vs))
    fun ms => some (Value.settledMembers [] ms) where
  array _ := rfl
  object _ := rfl
  plain value harray hobject := by
    cases value with
    | array values => exact absurd rfl (harray values)
    | object held => exact absurd rfl (hobject held)
    | _ => rfl

/-- Any value is what is written, settled. -/
theorem read_interprets : ∀ depth,
    (Value.read (ε := ε) depth).Interprets (Value.readWritten (ε := δ) depth) Value.settle
  | 0 => by
    rw [Value.read_zero, Value.readWritten]
    exact readBy_interprets Value.settle_madeOf (fun _ => rfl) (fun _ => rfl)
  | depth + 1 => by
    have hvalue := @read_interprets depth
    rw [Value.read_succ, Value.readWritten]
    refine readBy_interprets Value.settle_madeOf ?_ ?_
    · have helements := readArray_interprets hvalue
      rwa [funext Value.mapM_settle] at helements
    · have hmembers := @readObject_interprets _ _ _ _ (settledMember (Value.read (ε := ε) depth))
        (Value.readWritten (ε := δ) depth) Members.settle ?_ ?_ []
      · rwa [funext fun ms => Value.foldlM_settle ms []] at hmembers
      · intro name held cause hcause
        cases hcause
      · intro name held reader hreader
        obtain rfl := Except.ok.inj hreader
        exact hvalue.map (Members.insert name · held)

theorem toOption_eq_some_iff {result : Except ε α} {x : α} :
    result.toOption = some x ↔ result = .ok x := by
  cases result <;> simp [Except.toOption]

theorem wholeText_toOption (reader : Reader ε α) (s : String) :
    (wholeText reader s).toOption =
      (reader s.toList).toOption.bind fun (x, rest) =>
        if (skipSpace rest).isEmpty then some x else none := by
  unfold wholeText
  cases reader s.toList with
  | error fault => rfl
  | ok result =>
    obtain ⟨x, rest⟩ := result
    by_cases hrest : skipSpace rest = []
    · simp [Except.toOption, hrest]
    · simp [Except.toOption, hrest]

/-- What is read off a whole text is made of what the other one reads off it. -/
theorem wholeText_interprets {reader : Reader ε α} {other : Reader δ β} {make : β → Option α}
    (h : reader.Interprets other make) (s : String) :
    (wholeText reader s).toOption = (wholeText other s).toOption.bind make := by
  rw [wholeText_toOption, wholeText_toOption, h s.toList]
  cases (other s.toList).toOption with
  | none => rfl
  | some result =>
    obtain ⟨y, rest⟩ := result
    by_cases hrest : skipSpace rest = []
    · cases hmake : make y <;> simp [hmake, hrest]
    · cases hmake : make y <;> simp [hmake, hrest]

/-- What is read off a whole text is made of its written value. -/
theorem wholeText_of_interprets {reader : Reader ε α} {make : Value → Option α}
    (h : reader.Interprets (Value.readWritten (ε := Empty) maxDepth) make) (s : String) :
    (wholeText reader s).toOption = (Value.written? s).bind make :=
  wholeText_interprets h s

theorem Value.parse?_eq_toOption (s : String) :
    Value.parse? s = (wholeText (ε := Empty) (Value.read maxDepth) s).toOption := by
  rw [Value.parse?]
  cases wholeText (ε := Empty) (Value.read maxDepth) s <;> rfl

/-- The value that is read is what is written, settled. -/
theorem Value.parse?_eq_settle (s : String) :
    Value.parse? s = (Value.written? s).bind Value.settle := by
  rw [Value.parse?_eq_toOption, wholeText_of_interprets (read_interprets maxDepth)]

/-! ## Kinds of values -/

/-- The character that a value of a kind starts with, if there is only one. -/
def Value.mark? : Value → Option Char
  | .null => some 'n'
  | .text _ => some '"'
  | .array _ => some '['
  | .object _ => some '{'
  | _ => none

theorem keyword_eq_ok {word : String} {x y : α} {cs rest : List Char}
    (h : keyword (ε := ε) word x cs = .ok (y, rest)) : x = y := by
  unfold keyword at h
  split at h
  · exact (Prod.ext_iff.1 (Except.ok.inj h)).1
  · cases h

theorem map_eq_ok {f : α → β} {reader : Reader ε α} {cs rest : List Char} {y : β}
    (h : Reader.map f reader cs = .ok (y, rest)) : ∃ x, f x = y := by
  unfold Reader.map at h
  cases hread : reader cs with
  | error fault => rw [hread] at h; cases h
  | ok result =>
    rw [hread] at h
    exact ⟨result.1, (Prod.ext_iff.1 (Except.ok.inj h)).1⟩

/-- A value of a kind starts with its mark. -/
theorem behind?_of_readBy {elements : Reader ε (List Value)} {members : Reader ε Members}
    {cs rest : List Char} {value : Value} {mark : Char}
    (h : Value.readBy elements members cs = .ok (value, rest)) (hmark : value.mark? = some mark) :
    ∃ ds, skipSpace cs = mark :: ds := by
  unfold Value.readBy at h
  split at h
  case h_1 ds heq =>
    obtain rfl := keyword_eq_ok h
    obtain rfl := Option.some.inj hmark
    exact ⟨ds, heq⟩
  case h_2 =>
    obtain rfl := keyword_eq_ok h
    cases hmark
  case h_3 =>
    obtain rfl := keyword_eq_ok h
    cases hmark
  case h_4 ds heq =>
    obtain ⟨x, rfl⟩ := map_eq_ok h
    obtain rfl := Option.some.inj hmark
    exact ⟨ds, heq⟩
  case h_5 ds heq =>
    obtain ⟨x, rfl⟩ := map_eq_ok h
    obtain rfl := Option.some.inj hmark
    exact ⟨ds, heq⟩
  case h_6 ds heq =>
    obtain ⟨x, rfl⟩ := map_eq_ok h
    obtain rfl := Option.some.inj hmark
    exact ⟨ds, heq⟩
  case h_7 =>
    split at h
    · obtain ⟨x, rfl⟩ := map_eq_ok h
      cases hmark
    · cases h
  case h_8 => cases h

theorem Value.readWritten_eq_readBy (depth : Nat) : ∃ elements members,
    Value.readWritten (ε := ε) depth = Value.readBy elements members := by
  cases depth with
  | zero => exact ⟨_, _, rfl⟩
  | succ depth => exact ⟨_, _, rfl⟩

/-- A reader of values of one kind has to be looked at where such a value starts only. -/
theorem Reader.interprets_of_mark (mark : Char) {reader : Reader ε α} {depth : Nat}
    {make : Value → Option α} (hmark : ∀ value, (make value).isSome → value.mark? = some mark)
    (hother : ∀ cs, (∀ ds, skipSpace cs ≠ mark :: ds) → (reader cs).toOption = none)
    (hthere : ∀ cs ds, skipSpace cs = mark :: ds → (reader cs).toOption =
      (Value.readWritten (ε := δ) depth cs).toOption.bind fun (value, rest) =>
        (make value).map (·, rest)) :
    reader.Interprets (Value.readWritten (ε := δ) depth) make := by
  intro cs
  by_cases hcs : ∃ ds, skipSpace cs = mark :: ds
  · obtain ⟨ds, hds⟩ := hcs
    exact hthere cs ds hds
  · rw [hother cs fun ds hds => hcs ⟨ds, hds⟩]
    cases hread : Value.readWritten (ε := δ) depth cs with
    | error fault => rfl
    | ok result =>
      obtain ⟨value, rest⟩ := result
      cases hmake : make value with
      | none => simp [Except.toOption, hmake]
      | some x =>
        obtain ⟨elements, members, hby⟩ := Value.readWritten_eq_readBy (ε := δ) depth
        rw [hby] at hread
        exact absurd (behind?_of_readBy hread (hmark value (by simp [hmake]))) hcs

end RaidProvision.Json
