import Mathlib.Data.List.Forall2
import RaidProvision.Proofs.Json.Scalar

/-!
# Texts of values

A value has many texts, which differ in the white space between their parts. `Spells` says which
they are, as long as the numbers of the value come back; both written forms are among them. A reader
takes something from a value (`Takes`) if it reads it off every text of the value, whatever stands
behind the text.

* `spells_characters`, `spells_lineCharacters`: what is written in one line or over several.
* `readArray_spells`, `readObject_spells`: arrays and objects, given readers of their parts.
-/
namespace RaidProvision.Json

/-! ## Which texts -/

mutual

/-- A text of a value. -/
inductive Spells : Value → List Char → Prop where
  | null : Spells .null (Value.characters .null)
  | boolean (b : Bool) : Spells (.boolean b) (Value.boolean b).characters
  | number {n : Number} (hn : n.Exact) : Spells (.number n) n.write.toList
  | text (s : String) : Spells (.text s) (quote s)
  | emptyArray {gap : List Char} (hg : Gap gap) : Spells (.array []) ('[' :: (gap ++ [']']))
  | array {elements : List Value} {cs : List Char} (h : SpellsElements elements cs) :
    Spells (.array elements) ('[' :: cs)
  | emptyObject {gap : List Char} (hg : Gap gap) : Spells (.object []) ('{' :: (gap ++ ['}']))
  | object {members : List (String × Value)} {cs : List Char} (h : SpellsMembers members cs) :
    Spells (.object members) ('{' :: cs)

/-- A text of one or more elements, with the closing bracket. -/
inductive SpellsElements : List Value → List Char → Prop where
  | last {value : Value} {before cs after : List Char} (hb : Gap before) (h : Spells value cs)
    (ha : Gap after) : SpellsElements [value] (before ++ (cs ++ (after ++ [']'])))
  | next {value : Value} {elements : List Value} {before cs after ds : List Char}
    (hb : Gap before) (h : Spells value cs) (ha : Gap after) (hs : SpellsElements elements ds) :
    SpellsElements (value :: elements) (before ++ (cs ++ (after ++ ',' :: ds)))

/-- A text of one or more members, with the closing brace. -/
inductive SpellsMembers : List (String × Value) → List Char → Prop where
  | last {name : String} {value : Value} {before middle gap cs after : List Char}
    (hb : Gap before) (hm : Gap middle) (hg : Gap gap) (h : Spells value cs) (ha : Gap after) :
    SpellsMembers [(name, value)]
      (before ++ (quote name ++ (middle ++ ':' :: (gap ++ (cs ++ (after ++ ['}']))))))
  | next {name : String} {value : Value} {members : List (String × Value)}
    {before middle gap cs after ds : List Char} (hb : Gap before) (hm : Gap middle) (hg : Gap gap)
    (h : Spells value cs) (ha : Gap after) (hs : SpellsMembers members ds) :
    SpellsMembers ((name, value) :: members)
      (before ++ (quote name ++ (middle ++ ':' :: (gap ++ (cs ++ (after ++ ',' :: ds))))))

end

/-- A text starts with a character that tells its kind. -/
theorem Spells.exists_cons {value : Value} {cs : List Char} (h : Spells value cs) :
    ∃ c ds, cs = c :: ds ∧ isSpace c = false ∧ c ≠ ']' ∧ (c = 'n' → value = .null) := by
  have hkind : ∀ {c}, c ≠ 'n' → c = 'n' → value = .null := fun hc h => absurd h hc
  cases h with
  | null => exact ⟨'n', _, rfl, rfl, by decide, fun _ => rfl⟩
  | boolean b =>
    cases b with
    | false => exact ⟨'f', _, rfl, rfl, by decide, hkind (by decide)⟩
    | true => exact ⟨'t', _, rfl, rfl, by decide, hkind (by decide)⟩
  | number hn =>
    obtain ⟨c, ds, hcs, hc⟩ := hn.exists_cons
    have hother : ∀ d, d ≠ '-' → d.isDigit = false → c ≠ d := by
      rintro d hsign hdigit rfl
      rcases hc with rfl | hc
      · exact hsign rfl
      · exact absurd hc (by simp [hdigit])
    refine ⟨c, ds, hcs, ?_, hother ']' (by decide) (by decide),
      hkind (hother 'n' (by decide) (by decide))⟩
    simp only [isSpace, Bool.or_eq_false_iff, beq_eq_false_iff_ne]
    exact ⟨⟨⟨hother _ (by decide) (by decide), hother _ (by decide) (by decide)⟩,
      hother _ (by decide) (by decide)⟩, hother _ (by decide) (by decide)⟩
  | text s => exact ⟨'"', _, rfl, rfl, by decide, hkind (by decide)⟩
  | emptyArray hg => exact ⟨'[', _, rfl, rfl, by decide, hkind (by decide)⟩
  | array h => exact ⟨'[', _, rfl, rfl, by decide, hkind (by decide)⟩
  | emptyObject hg => exact ⟨'{', _, rfl, rfl, by decide, hkind (by decide)⟩
  | object h => exact ⟨'{', _, rfl, rfl, by decide, hkind (by decide)⟩

theorem SpellsElements.length_le : ∀ {values : List Value} {cs : List Char},
    SpellsElements values cs → values.length ≤ cs.length
  | _, _, .last _ _ _ => by simp; omega
  | _, _, .next _ _ _ hs => by
    have hle := hs.length_le
    simp
    omega

theorem SpellsMembers.length_le : ∀ {members : List (String × Value)} {cs : List Char},
    SpellsMembers members cs → members.length ≤ cs.length
  | _, _, .last _ _ _ _ _ => by simp; omega
  | _, _, .next _ _ _ _ _ hs => by
    have hle := hs.length_le
    simp
    omega

/-! ## Taking a value off its texts -/

variable {ε α β σ : Type}

/-- A reader reads something off every text of a value, whatever white space stands before it. -/
def Takes (reader : Reader ε α) (value : Value) (x : α) : Prop :=
  ∀ gap cs rest, Gap gap → Spells value cs → BehindValue rest →
    reader (gap ++ (cs ++ rest)) = .ok (x, rest)

theorem Takes.map {reader : Reader ε α} {value : Value} {x : α} (h : Takes reader value x)
    (f : α → β) : Takes (Reader.map f reader) value (f x) := by
  intro gap cs rest hg hs hr
  rw [Reader.map, h gap cs rest hg hs hr]
  rfl

/-- White space before a text is skipped. -/
theorem skipSpace_spells {value : Value} {gap cs : List Char} (hg : Gap gap) (h : Spells value cs)
    (rest : List Char) : skipSpace (gap ++ (cs ++ rest)) = cs ++ rest := by
  obtain ⟨c, ds, rfl, hc, -⟩ := h.exists_cons
  rw [skipSpace_gap hg, List.cons_append, skipSpace_cons hc]

theorem readElements_spells {element : Reader ε α} {values : List Value} {xs : List α}
    (hxs : List.Forall₂ (Takes element) values xs) {cs : List Char}
    (h : SpellsElements values cs) {fuel : Nat} (hfuel : values.length ≤ fuel) (rest : List Char) :
    readElements element fuel (cs ++ rest) = .ok (xs, rest) := by
  induction hxs generalizing cs fuel with
  | nil => cases h
  | @cons value x values xs hx hxs ih =>
    obtain ⟨fuel, rfl⟩ := Nat.exists_eq_succ_of_ne_zero (Nat.ne_zero_of_lt hfuel)
    cases h with
    | last hb h ha =>
      cases hxs
      simp only [List.append_assoc, List.cons_append, List.nil_append]
      rw [readElements, hx _ _ _ hb h (.of_gap ha (.inr (.inl rfl)) rest)]
      simp only [bind, Except.bind, skipSpace_gap ha, skipSpace_cons (c := ']') rfl]
      rfl
    | next hb h ha hs =>
      simp only [List.append_assoc, List.cons_append]
      rw [readElements, hx _ _ _ hb h (.of_gap ha (.inl rfl) _)]
      simp only [bind, Except.bind, skipSpace_gap ha, skipSpace_cons (c := ',') rfl]
      rw [ih hs (Nat.le_of_succ_le_succ hfuel)]
      rfl

/-- An array is read if its elements are. -/
theorem readArray_spells {element : Reader ε α} {values : List Value} {xs : List α}
    (hxs : List.Forall₂ (Takes element) values xs) {cs : List Char}
    (h : Spells (.array values) cs) :
    ∃ ds, cs = '[' :: ds ∧ ∀ rest, readArray element (ds ++ rest) = .ok (xs, rest) := by
  cases h with
  | emptyArray hg =>
    cases hxs
    refine ⟨_, rfl, fun rest => ?_⟩
    simp only [readArray, List.append_assoc, skipSpace_gap hg, List.cons_append, List.nil_append,
      skipSpace_cons (c := ']') rfl]
  | @array _ ds h =>
    refine ⟨ds, rfl, fun rest => ?_⟩
    have hfirst : ∀ t, skipSpace (ds ++ rest) ≠ ']' :: t := by
      intro t
      cases h with
      | last hb h ha =>
        rw [List.append_assoc, List.append_assoc, skipSpace_spells hb h]
        obtain ⟨c, es, rfl, -, hc, -⟩ := h.exists_cons
        exact fun heq => hc (List.cons.inj heq).1
      | next hb h ha hs =>
        rw [List.append_assoc, List.append_assoc, skipSpace_spells hb h]
        obtain ⟨c, es, rfl, -, hc, -⟩ := h.exists_cons
        exact fun heq => hc (List.cons.inj heq).1
    unfold readArray
    split
    case h_1 heq => exact absurd heq (hfirst _)
    case h_2 =>
      exact readElements_spells hxs h (Nat.le_trans h.length_le (by simp)) rest

/-! ## Taking members -/

/-- The members that take an object from one state to another, each read by what `member` gives for
its name. -/
inductive Absorbs (member : String → σ → Except ε (Reader ε σ)) :
    σ → List (String × Value) → σ → Prop where
  | nil (s : σ) : Absorbs member s [] s
  | cons {s t u : σ} {name : String} {value : Value} {members : List (String × Value)}
    {reader : Reader ε σ} (hm : member name s = .ok reader) (ht : Takes reader value t)
    (h : Absorbs member t members u) : Absorbs member s ((name, value) :: members) u

theorem Absorbs.append {member : String → σ → Except ε (Reader ε σ)} {s t u : σ}
    {front back : List (String × Value)} (hf : Absorbs member s front t)
    (hb : Absorbs member t back u) : Absorbs member s (front ++ back) u := by
  induction hf with
  | nil => exact hb
  | cons hm ht h ih => exact .cons hm ht (ih hb)

theorem readMembers_spells {member : String → σ → Except ε (Reader ε σ)} {s t : σ}
    {members : List (String × Value)} (hms : Absorbs member s members t) {cs : List Char}
    (h : SpellsMembers members cs) {fuel : Nat} (hfuel : members.length ≤ fuel)
    (rest : List Char) : readMembers member fuel s (cs ++ rest) = .ok (t, rest) := by
  induction hms generalizing cs fuel with
  | nil => cases h
  | cons hm ht hms ih =>
    obtain ⟨fuel, rfl⟩ := Nat.exists_eq_succ_of_ne_zero (Nat.ne_zero_of_lt hfuel)
    cases h with
    | last hb hmid hg h ha =>
      cases hms
      simp only [List.append_assoc, List.cons_append, List.nil_append, quote]
      rw [readMembers]
      simp only [skipSpace_gap hb, skipSpace_cons (c := '"') rfl, readText_escaped, bind,
        Except.bind, hm, colon, skipSpace_gap hmid, skipSpace_cons (c := ':') rfl,
        ht _ _ _ hg h (.of_gap ha (.inr (.inr rfl)) rest), skipSpace_gap ha,
        skipSpace_cons (c := '}') rfl]
      rfl
    | next hb hmid hg h ha hs =>
      simp only [List.append_assoc, List.cons_append, List.nil_append, quote]
      rw [readMembers]
      simp only [skipSpace_gap hb, skipSpace_cons (c := '"') rfl, readText_escaped, bind,
        Except.bind, hm, colon, skipSpace_gap hmid, skipSpace_cons (c := ':') rfl,
        ht _ _ _ hg h (.of_gap ha (.inl rfl) _), skipSpace_gap ha, skipSpace_cons (c := ',') rfl]
      exact ih hs (Nat.le_of_succ_le_succ hfuel)

/-- An object is read if its members are. -/
theorem readObject_spells {member : String → σ → Except ε (Reader ε σ)} {s t : σ}
    {members : List (String × Value)} (hms : Absorbs member s members t) {cs : List Char}
    (h : Spells (.object members) cs) :
    ∃ ds, cs = '{' :: ds ∧ ∀ rest, readObject member s (ds ++ rest) = .ok (t, rest) := by
  cases h with
  | emptyObject hg =>
    cases hms
    refine ⟨_, rfl, fun rest => ?_⟩
    simp only [readObject, List.append_assoc, skipSpace_gap hg, List.cons_append, List.nil_append,
      skipSpace_cons (c := '}') rfl]
  | @object _ ds h =>
    refine ⟨ds, rfl, fun rest => ?_⟩
    have hfirst : ∃ es, skipSpace (ds ++ rest) = '"' :: es := by
      cases h with
      | last hb =>
        simp only [List.append_assoc, quote, List.cons_append, skipSpace_gap hb]
        exact ⟨_, skipSpace_cons rfl _⟩
      | next hb =>
        simp only [List.append_assoc, quote, List.cons_append, skipSpace_gap hb]
        exact ⟨_, skipSpace_cons rfl _⟩
    obtain ⟨es, hes⟩ := hfirst
    unfold readObject
    rw [hes]
    exact readMembers_spells hms h (Nat.le_trans h.length_le (by simp)) rest

/-! ## The written texts -/

mutual

/-- The numbers that stand in a value. -/
def Value.numbers : Value → List Number
  | .number n => [n]
  | .array elements => elementNumbers elements
  | .object members => memberNumbers members
  | _ => []

def elementNumbers : List Value → List Number
  | [] => []
  | value :: rest => value.numbers ++ elementNumbers rest

def memberNumbers : List (String × Value) → List Number
  | [] => []
  | (_, value) :: rest => value.numbers ++ memberNumbers rest

end

theorem elementNumbers_eq (elements : List Value) :
    elementNumbers elements = elements.flatMap Value.numbers := by
  induction elements with
  | nil => rfl
  | cons value rest ih => rw [elementNumbers, ih, List.flatMap_cons]

theorem memberNumbers_eq (members : List (String × Value)) :
    memberNumbers members = members.flatMap (·.2.numbers) := by
  induction members with
  | nil => rfl
  | cons m rest ih => rw [memberNumbers, ih, List.flatMap_cons]

theorem gap_nil : Gap [] := by simp [Gap]

theorem gap_space : Gap [' '] := by simp [Gap, isSpace]

theorem gap_newLine (level : Nat) : Gap (newLine level) := by
  intro c hc
  rcases List.mem_cons.1 hc with rfl | hc
  · rfl
  · rw [List.eq_of_mem_replicate hc]
    rfl

mutual

/-- What is written in one line is a text of the value. -/
theorem spells_characters : ∀ {value : Value}, (∀ n ∈ value.numbers, n.Exact) →
    Spells value value.characters
  | .null, _ => .null
  | .boolean b, _ => .boolean b
  | .number n, h => by
    rw [Value.characters]
    exact .number (h n (by simp [Value.numbers]))
  | .text s, _ => by
    rw [Value.characters]
    exact .text s
  | .array [], _ => by
    rw [Value.characters, elementCharacters]
    exact .emptyArray gap_nil
  | .array (value :: rest), h => by
    rw [Value.characters]
    exact .array (spellsElements_characters (List.cons_ne_nil _ _) h)
  | .object [], _ => by
    rw [Value.characters, memberCharacters]
    exact .emptyObject gap_nil
  | .object (member :: rest), h => by
    rw [Value.characters]
    exact .object (spellsMembers_characters (List.cons_ne_nil _ _) h)

theorem spellsElements_characters : ∀ {elements : List Value}, elements ≠ [] →
    (∀ n ∈ elementNumbers elements, n.Exact) →
    SpellsElements elements (elementCharacters elements)
  | [], hne, _ => absurd rfl hne
  | [value], _, h => by
    rw [elementNumbers, List.forall_mem_append] at h
    exact .last gap_nil (spells_characters h.1) gap_nil
  | value :: other :: rest, _, h => by
    rw [elementNumbers, List.forall_mem_append] at h
    exact .next gap_nil (spells_characters h.1) gap_nil
      (spellsElements_characters (List.cons_ne_nil _ _) h.2)

theorem spellsMembers_characters : ∀ {members : List (String × Value)}, members ≠ [] →
    (∀ n ∈ memberNumbers members, n.Exact) → SpellsMembers members (memberCharacters members)
  | [], hne, _ => absurd rfl hne
  | [(name, value)], _, h => by
    rw [memberNumbers, List.forall_mem_append] at h
    rw [memberCharacters, List.append_assoc]
    exact .last gap_nil gap_nil gap_nil (spells_characters h.1) gap_nil
  | (name, value) :: other :: rest, _, h => by
    rw [memberNumbers, List.forall_mem_append] at h
    rw [memberCharacters, List.append_assoc]
    case x_1 => exact List.cons_ne_nil _ _
    exact .next gap_nil gap_nil gap_nil (spells_characters h.1) gap_nil
      (spellsMembers_characters (List.cons_ne_nil _ _) h.2)

end

mutual

/-- What is written over several lines is a text of the value. -/
theorem spells_lineCharacters : ∀ {value : Value} (level : Nat),
    (∀ n ∈ value.numbers, n.Exact) → Spells value (value.lineCharacters level)
  | .null, _, h => spells_characters h
  | .boolean b, _, h => spells_characters h
  | .number n, _, h => spells_characters h
  | .text s, _, h => spells_characters h
  | .array [], _, _ => .emptyArray gap_nil
  | .array (value :: rest), level, h => by
    rw [Value.numbers, elementNumbers, List.forall_mem_append] at h
    rw [Value.lineCharacters, List.cons_append, List.cons_append, List.append_assoc]
    exact .array (spellsElements_lines level (gap_newLine _)
      (spells_lineCharacters (level + 1) h.1) h.2)
  | .object [], _, _ => .emptyObject gap_nil
  | .object ((name, value) :: rest), level, h => by
    rw [Value.numbers, memberNumbers, List.forall_mem_append] at h
    rw [Value.lineCharacters, List.cons_append, List.cons_append, List.cons_append,
      List.append_assoc, List.append_assoc]
    exact .object (spellsMembers_lines level (gap_newLine _)
      (spells_lineCharacters (level + 1) h.1) h.2)

theorem spellsElements_lines : ∀ {rest : List Value} (level : Nat) {before cs : List Char}
    {value : Value}, Gap before → Spells value cs → (∀ n ∈ elementNumbers rest, n.Exact) →
    SpellsElements (value :: rest) (before ++ (cs ++ elementLines level rest))
  | [], level, _, _, _, hb, hs, _ => .last hb hs (gap_newLine level)
  | value :: rest, level, before, cs, _, hb, hs, h => by
    rw [elementNumbers, List.forall_mem_append] at h
    rw [elementLines, List.cons_append, List.cons_append, List.append_assoc]
    exact .next hb hs gap_nil (spellsElements_lines level (gap_newLine _)
      (spells_lineCharacters (level + 1) h.1) h.2)

theorem spellsMembers_lines : ∀ {rest : List (String × Value)} (level : Nat)
    {before cs : List Char} {name : String} {value : Value}, Gap before → Spells value cs →
    (∀ n ∈ memberNumbers rest, n.Exact) →
    SpellsMembers ((name, value) :: rest)
      (before ++ (quote name ++ ':' :: ' ' :: (cs ++ memberLines level rest)))
  | [], level, _, _, _, _, hb, hs, _ => .last hb gap_nil gap_space hs (gap_newLine level)
  | (name, value) :: rest, level, before, cs, _, _, hb, hs, h => by
    rw [memberNumbers, List.forall_mem_append] at h
    rw [memberLines, List.append_assoc, List.cons_append, List.cons_append, List.append_assoc]
    exact .next hb gap_nil gap_space hs gap_nil (spellsMembers_lines level (gap_newLine _)
      (spells_lineCharacters (level + 1) h.1) h.2)

end

end RaidProvision.Json
