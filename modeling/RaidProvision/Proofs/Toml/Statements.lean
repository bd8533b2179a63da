import RaidProvision.Toml.Reader

/-!
# What a document says

Every statement of a document puts something somewhere: a table, one more table of an array, or a
value. Only where a key belongs depends on the statements before it, on the last header, and on
whether an array of tables was begun on the way: what is put into one of those tables has no place
of its own. What a document says of a place is thus read off its statements, without a tree, and the
tree that comes out of reading has the same at every place.

* `SaidBy`, `Stated`: what some placements say of a place.
* `Effect`: what one statement does to a tree; `Effect.under`, `effect_into`: and to the tree above
  it.
* `Reflects.follow`, `Reflects.statements`: the tree has what was said, after one statement and
  after all.
* `occupant?_eq_some_iff`: what stands at a place of a document is what its text says of it.
-/
namespace RaidProvision.Toml

/-! ## Places -/

/-- What stands at a place. -/
inductive Occupant where
  /-- A value that is no table. -/
  | value (v : Value)
  | table
  /-- An array of tables that were begun by headers. -/
  | tables

/-- What stands at the end of a way below a value. A table between braces is a table. -/
def Value.occupant? : Value → List String → Option Occupant
  | .table _ members, key :: way => (Keyed.get? members key).bind fun v => v.occupant? way
  | .table _ _, [] => some .table
  | v, [] => some (.value v)
  | _, _ :: _ => none

theorem Value.occupant?_ne_tables (v : Value) (way : List String) :
    v.occupant? way ≠ some .tables := by
  fun_induction Value.occupant? v way with
  | case1 dotted members key way ih =>
    intro h
    obtain ⟨inner, -, hinner⟩ := Option.bind_eq_some_iff.1 h
    exact ih inner hinner
  | case2 => simp
  | case3 => simp
  | case4 => simp

/-- What stands at the end of a way below an item. What is in the tables of an array has no
place. -/
def Item.occupant? : Item → List String → Option Occupant
  | .table _ entries, key :: way => (Keyed.get? entries key).bind fun item => item.occupant? way
  | .table _ _, [] => some .table
  | .tables _ _, [] => some .tables
  | .tables _ _, _ :: _ => none
  | .value v, way => v.occupant? way

/-- What is put at a place. -/
inductive Content where
  | value (v : Value)
  | table
  | tables

/-- What stands at the end of a way below something that was just put there. -/
def Content.occupant? : Content → List String → Option Occupant
  | .value v, way => v.occupant? way
  | .table, [] => some .table
  | .tables, [] => some .tables
  | _, _ :: _ => none

/-- A place and what is put there. -/
structure Placement where
  way : List String
  content : Content

/-- What a placement says of a place: that what was put stands there, or that a table does, on the
way to it. -/
inductive SaidBy (p : Placement) (place : List String) (found : Occupant) : Prop where
  | put (rest : List String) (hplace : place = p.way ++ rest)
    (hfound : p.content.occupant? rest = some found)
  | passed (hon : place <+: p.way) (hne : place ≠ p.way) (hfound : found = .table)

theorem saidBy_singleton_iff {key first : String} {rest : List String} {content : Content}
    {found : Occupant} : SaidBy ⟨[key], content⟩ (first :: rest) found ↔
      first = key ∧ content.occupant? rest = some found := by
  constructor
  · rintro (⟨_, hplace, hfound⟩ | ⟨hon, hne, -⟩)
    · obtain ⟨rfl, rfl⟩ := List.cons.inj hplace
      exact ⟨rfl, hfound⟩
    · obtain ⟨rfl, hrest⟩ := List.cons_prefix_cons.1 hon
      rw [List.prefix_nil.1 hrest] at hne
      exact absurd rfl hne
  · rintro ⟨rfl, hfound⟩
    exact .put rest rfl hfound

theorem saidBy_cons_iff {key first : String} {way rest : List String} {content : Content}
    {found : Occupant} :
    SaidBy ⟨key :: way, content⟩ (first :: rest) found ↔
      first = key ∧ SaidBy ⟨way, content⟩ rest found := by
  constructor
  · rintro (⟨_, hplace, hfound⟩ | ⟨hon, hne, rfl⟩)
    · obtain ⟨rfl, rfl⟩ := List.cons.inj hplace
      exact ⟨rfl, .put _ rfl hfound⟩
    · obtain ⟨rfl, hrest⟩ := List.cons_prefix_cons.1 hon
      exact ⟨rfl, .passed hrest (fun heq => hne (congrArg _ heq)) rfl⟩
  · rintro ⟨rfl, ⟨_, rfl, hfound⟩ | ⟨hon, hne, rfl⟩⟩
    · exact .put _ rfl hfound
    · exact .passed (List.cons_prefix_cons.2 ⟨rfl, hon⟩) (by simpa using hne) rfl

/-- On the way to where something was put stand tables alone. -/
theorem saidBy_nil_iff {way : List String} (hway : way ≠ []) {content : Content}
    {found : Occupant} : SaidBy ⟨way, content⟩ [] found ↔ found = .table := by
  constructor
  · rintro (⟨_, hplace, -⟩ | ⟨-, -, rfl⟩)
    · exact absurd (List.append_eq_nil_iff.1 hplace.symm).1 hway
    · rfl
  · rintro rfl
    exact .passed List.nil_prefix (Ne.symm hway) rfl

namespace Entries

/-- What stands at the end of a way into a table. -/
def occupant? (entries : Entries) : List String → Option Occupant
  | [] => some .table
  | key :: way => (entries.get? key).bind fun item => item.occupant? way

theorem occupant?_table (origin : Origin) (entries : Entries) (way : List String) :
    (Item.table origin entries).occupant? way = entries.occupant? way := by
  cases way <;> rfl

theorem occupant?_set (entries : Entries) (key other : String) (item : Item) (way : List String) :
    occupant? (entries.set key item) (other :: way) =
      if other = key then item.occupant? way else entries.occupant? (other :: way) := by
  rw [occupant?, Keyed.get?_set]
  split <;> rfl

theorem occupant?_nil_cons (key : String) (way : List String) :
    occupant? [] (key :: way) = none := rfl

/-- An array of tables stands on a way before its end. -/
def Enters (entries : Entries) (way : List String) : Prop :=
  ∃ place, place <+: way ∧ place ≠ way ∧ entries.occupant? place = some .tables

theorem not_enters_nil (way : List String) : ¬ Enters [] way := by
  rintro ⟨place, -, -, hfound⟩
  cases place <;> cases hfound

theorem not_enters_singleton (entries : Entries) (key : String) : ¬ entries.Enters [key] := by
  rintro ⟨place, hon, hne, hfound⟩
  rcases List.prefix_cons_iff.1 hon with rfl | ⟨rest, rfl, hrest⟩
  · cases hfound
  · rw [List.prefix_nil.1 hrest] at hne
    exact hne rfl

/-- A tree gets what a placement says, and keeps what it has. -/
def Adds (before after : Entries) (p : Placement) : Prop :=
  ∀ place, place ≠ [] → ∀ found,
    after.occupant? place = some found ↔ before.occupant? place = some found ∨ SaidBy p place found

/-- What a statement does to a tree. -/
inductive Effect (before after : Entries) (p : Placement) : Prop where
  | shown (h : ¬ before.Enters p.way) (hadds : Adds before after p)
  /-- What goes into an array of tables does not show. -/
  | hidden (h : before.Enters p.way)
    (hsame : ∀ place, after.occupant? place = before.occupant? place)

/-! ## One table -/

/-- Something is put under a key. -/
theorem adds_set {entries : Entries} {key : String} {item : Item} {content : Content}
    (h : ∀ rest found, item.occupant? rest = some found ↔
      entries.occupant? (key :: rest) = some found ∨ content.occupant? rest = some found) :
    Adds entries (entries.set key item) ⟨[key], content⟩ := by
  intro place hplace found
  obtain ⟨first, rest, rfl⟩ := List.exists_cons_of_ne_nil hplace
  rw [occupant?_set, saidBy_singleton_iff]
  by_cases hfirst : first = key
  · subst hfirst
    rw [if_pos rfl, h]
    simp
  · simp [hfirst]

theorem effect_set {entries : Entries} {key : String} {item : Item} {content : Content}
    (h : ∀ rest found, item.occupant? rest = some found ↔
      entries.occupant? (key :: rest) = some found ∨ content.occupant? rest = some found) :
    Effect entries (entries.set key item) ⟨[key], content⟩ :=
  .shown (not_enters_singleton entries key) (adds_set h)

/-- What stands below a key without an item. -/
theorem occupant?_of_get?_none {entries : Entries} {key : String} (h : entries.get? key = none)
    (rest : List String) : entries.occupant? (key :: rest) = none := by
  rw [occupant?, h, Option.bind_none]

theorem occupant?_of_get? {entries : Entries} {key : String} {item : Item}
    (h : entries.get? key = some item) (rest : List String) :
    entries.occupant? (key :: rest) = item.occupant? rest := by
  rw [occupant?, h, Option.bind_some]

/-- A value is put under a key that has none. -/
theorem effect_define {entries after : Entries} {key : String} {v : Value}
    (h : entries.define key (.value v) = some after) : Effect entries after ⟨[key], .value v⟩ := by
  unfold Keyed.define at h
  split at h
  case h_1 => cases h
  case h_2 hget =>
    cases h
    refine effect_set fun rest found => ?_
    rw [occupant?_of_get?_none hget, Item.occupant?, Content.occupant?]
    simp

/-- A table is opened that is not there yet, or that is only on the way to others. -/
theorem effect_openTable {entries after : Entries} {key : String}
    (h : entries.openTable key = some after) : Effect entries after ⟨[key], .table⟩ := by
  unfold openTable at h
  split at h
  case h_1 hget =>
    cases h
    refine effect_set fun rest found => ?_
    rw [occupant?_of_get?_none hget]
    cases rest <;> simp [Item.occupant?, Content.occupant?, Keyed.get?]
  case h_2 inner hget =>
    cases h
    refine effect_set fun rest found => ?_
    rw [occupant?_of_get? hget]
    cases rest <;> simp [Item.occupant?, Content.occupant?]
  case h_3 => cases h

/-- One more table of an array is begun. -/
theorem effect_extendTables {entries after : Entries} {key : String}
    (h : entries.extendTables key = some after) : Effect entries after ⟨[key], .tables⟩ := by
  unfold extendTables at h
  split at h
  case h_1 hget =>
    cases h
    refine effect_set fun rest found => ?_
    rw [occupant?_of_get?_none hget]
    cases rest <;> simp [Item.occupant?, Content.occupant?]
  case h_2 hget =>
    cases h
    refine effect_set fun rest found => ?_
    rw [occupant?_of_get? hget]
    cases rest <;> simp [Item.occupant?, Content.occupant?]
  case h_3 => cases h

/-! ## Tables below one another -/

/-- A table that is under a key, or a new one in its place. -/
def Below (entries : Entries) (key : String) (inner : Entries) : Prop :=
  (∃ origin, entries.get? key = some (.table origin inner)) ∨
    entries.get? key = none ∧ inner = []

theorem Below.occupant?_cons {entries inner : Entries} {key : String} {place : List String}
    (h : entries.Below key inner) (hplace : place ≠ []) :
    entries.occupant? (key :: place) = inner.occupant? place := by
  obtain ⟨first, place, rfl⟩ := List.exists_cons_of_ne_nil hplace
  rcases h with ⟨origin, hget⟩ | ⟨hget, rfl⟩
  · rw [occupant?_of_get? hget, occupant?_table]
  · rw [occupant?_of_get?_none hget, occupant?_nil_cons]

theorem Below.eq_table {entries inner : Entries} {key : String} (h : entries.Below key inner)
    {found : Occupant} (hfound : entries.occupant? [key] = some found) : found = .table := by
  rcases h with ⟨origin, hget⟩ | ⟨hget, -⟩
  · rw [occupant?_of_get? hget] at hfound
    exact (Option.some.inj hfound).symm
  · rw [occupant?_of_get?_none hget] at hfound
    cases hfound

theorem Below.enters_cons_iff {entries inner : Entries} {key : String} {way : List String}
    (h : entries.Below key inner) : entries.Enters (key :: way) ↔ inner.Enters way := by
  constructor
  · rintro ⟨place, hon, hne, hfound⟩
    rcases List.prefix_cons_iff.1 hon with rfl | ⟨rest, rfl, hrest⟩
    · cases hfound
    · by_cases hempty : rest = []
      · subst hempty
        cases h.eq_table hfound
      · rw [h.occupant?_cons hempty] at hfound
        exact ⟨rest, hrest, fun heq => hne (congrArg _ heq), hfound⟩
  · rintro ⟨place, hon, hne, hfound⟩
    have hplace : place ≠ [] := by
      rintro rfl
      cases hfound
    exact ⟨key :: place, List.cons_prefix_cons.2 ⟨rfl, hon⟩, by simpa using hne,
      by rwa [h.occupant?_cons hplace]⟩

/-- A change of a table is one of the tree above it, however the table comes to be. -/
theorem Effect.under {entries inner after : Entries} {key : String} {way : List String}
    {content : Content} (hinner : entries.Below key inner) (hway : way ≠ [])
    (h : Effect inner after ⟨way, content⟩) (origin : Origin) :
    Effect entries (entries.set key (.table origin after)) ⟨key :: way, content⟩ := by
  cases h with
  | shown hnot hadds =>
    refine .shown (mt hinner.enters_cons_iff.1 hnot) fun place hplace found => ?_
    obtain ⟨first, rest, rfl⟩ := List.exists_cons_of_ne_nil hplace
    rw [occupant?_set, occupant?_table, saidBy_cons_iff]
    by_cases hfirst : first = key
    · subst hfirst
      rw [if_pos rfl]
      by_cases hrest : rest = []
      · subst hrest
        rw [saidBy_nil_iff hway]
        constructor
        · rintro ⟨⟩
          exact .inr ⟨rfl, rfl⟩
        · rintro (hfound | ⟨-, rfl⟩)
          · rw [hinner.eq_table hfound]
            rfl
          · rfl
      · rw [hadds rest hrest, hinner.occupant?_cons hrest]
        simp
    · simp [hfirst]
  | hidden henters hsame =>
    refine .hidden (hinner.enters_cons_iff.2 henters) fun place => ?_
    cases place with
    | nil => rfl
    | cons first rest =>
      rw [occupant?_set, occupant?_table]
      by_cases hfirst : first = key
      · subst hfirst
        rw [if_pos rfl, hsame]
        rcases hinner with ⟨origin, hget⟩ | ⟨-, rfl⟩
        · rw [occupant?_of_get? hget, occupant?_table]
        · exact absurd henters (not_enters_nil way)
      · rw [if_neg hfirst]

/-- A change of the last table of an array does not show. -/
theorem effect_into {entries last after : Entries} {key : String} {way : List String}
    {earlier : List Entries} (hget : entries.get? key = some (.tables earlier last))
    (hway : way ≠ []) (content : Content) :
    Effect entries (entries.set key (.tables earlier after)) ⟨key :: way, content⟩ := by
  refine .hidden ⟨[key], ?_, by simpa using Ne.symm hway, ?_⟩ fun place => ?_
  · exact List.cons_prefix_cons.2 ⟨rfl, List.nil_prefix⟩
  · rw [occupant?_of_get? hget]
    rfl
  · cases place with
    | nil => rfl
    | cons first rest =>
      rw [occupant?_set]
      by_cases hfirst : first = key
      · subst hfirst
        rw [if_pos rfl, occupant?_of_get? hget]
        cases rest <;> rfl
      · rw [if_neg hfirst]

/-- A value is put at the end of a dotted key. -/
theorem effect_defineAt {way : List String} {key : String} {v : Value} :
    ∀ {entries after : Entries}, entries.defineAt way key v = some after →
      Effect entries after ⟨way ++ [key], .value v⟩ := by
  induction way with
  | nil =>
    intro entries after h
    exact effect_define h
  | cons step way ih =>
    intro entries after h
    have hway : way ++ [key] ≠ [] := by simp
    rw [defineAt] at h
    split at h
    case h_1 hget =>
      obtain ⟨inner, hinner, h⟩ := Option.bind_eq_some_iff.1 h
      cases h
      exact (ih hinner).under (.inr ⟨hget, rfl⟩) hway _
    case h_2 hget =>
      obtain ⟨inner, hinner, h⟩ := Option.bind_eq_some_iff.1 h
      cases h
      exact (ih hinner).under (.inl ⟨_, hget⟩) hway _
    case h_3 hget =>
      split at h
      · cases h
      · obtain ⟨inner, hinner, h⟩ := Option.bind_eq_some_iff.1 h
        cases h
        exact (ih hinner).under (.inl ⟨_, hget⟩) hway _
    case h_4 hget =>
      split at h
      · cases h
      · obtain ⟨inner, hinner, h⟩ := Option.bind_eq_some_iff.1 h
        cases h
        exact effect_into hget hway _
    case h_5 => cases h

/-- What is put somewhere in a table at the end of a way is put that much further on. -/
theorem effect_changeAt {change : Entries → Option Entries} {last : List String}
    {content : Content} (hlast : last ≠ [])
    (hchange : ∀ {inner after}, change inner = some after → Effect inner after ⟨last, content⟩)
    {way : List String} : ∀ {entries after : Entries},
      entries.changeAt change way = some after → Effect entries after ⟨way ++ last, content⟩ := by
  induction way with
  | nil =>
    intro entries after h
    exact hchange h
  | cons step way ih =>
    intro entries after h
    have hway : way ++ last ≠ [] := by simp [hlast]
    rw [changeAt] at h
    split at h
    case h_1 hget =>
      obtain ⟨inner, hinner, h⟩ := Option.bind_eq_some_iff.1 h
      cases h
      exact (ih hinner).under (.inr ⟨hget, rfl⟩) hway _
    case h_2 hget =>
      obtain ⟨inner, hinner, h⟩ := Option.bind_eq_some_iff.1 h
      cases h
      exact (ih hinner).under (.inl ⟨_, hget⟩) hway _
    case h_3 hget =>
      obtain ⟨inner, hinner, h⟩ := Option.bind_eq_some_iff.1 h
      cases h
      exact effect_into hget hway _
    case h_4 => cases h

end Entries

/-! ## What the statements say -/

namespace Statement

def keys : Statement → List String
  | header keys => keys
  | arrayHeader keys => keys
  | assignment keys _ => keys

/-- What a statement puts where, with the keys of the last header. -/
def placement (current : List String) : Statement → Placement
  | header keys => ⟨keys, .table⟩
  | arrayHeader keys => ⟨keys, .tables⟩
  | assignment keys v => ⟨current ++ keys, .value v⟩

/-- The keys of the last header behind a statement. -/
def current (current : List String) : Statement → List String
  | header keys => keys
  | arrayHeader keys => keys
  | assignment _ _ => current

end Statement

theorem dropLast_append_lastKey (keys : List String) (h : keys ≠ []) :
    keys.dropLast ++ [lastKey keys] = keys := by
  rw [lastKey, List.getLast?_eq_some_getLast h, Option.getD_some, List.dropLast_concat_getLast h]

/-- What one statement does to a draft. -/
theorem effect_follow {draft after : Draft} {statement : Statement} (hkeys : statement.keys ≠ [])
    (h : draft.follow statement = some after) :
    Entries.Effect draft.entries after.entries (statement.placement draft.current) ∧
      after.current = statement.current draft.current := by
  cases statement with
  | header keys =>
    obtain ⟨entries, hopen, h⟩ := Option.bind_eq_some_iff.1 h
    cases h
    have heffect := Entries.effect_changeAt (by simp) Entries.effect_openTable hopen
    rw [dropLast_append_lastKey keys hkeys] at heffect
    exact ⟨heffect, rfl⟩
  | arrayHeader keys =>
    obtain ⟨entries, hextend, h⟩ := Option.bind_eq_some_iff.1 h
    cases h
    have heffect := Entries.effect_changeAt (by simp) Entries.effect_extendTables hextend
    rw [dropLast_append_lastKey keys hkeys] at heffect
    exact ⟨heffect, rfl⟩
  | assignment keys v =>
    obtain ⟨entries, hdefine, h⟩ := Option.bind_eq_some_iff.1 h
    cases h
    have heffect := Entries.effect_changeAt (by simp) Entries.effect_defineAt hdefine
    rw [dropLast_append_lastKey keys hkeys] at heffect
    exact ⟨heffect, rfl⟩

/-- What some placements say of a place. -/
def Stated (placed : List Placement) (place : List String) (found : Occupant) : Prop :=
  ∃ p ∈ placed, SaidBy p place found

/-- Whether a placement begins an array of tables on a way before its end. -/
def Placement.beginsOn (p : Placement) (way : List String) : Bool :=
  match p.content with
  | .tables => p.way.isPrefixOf way && p.way != way
  | _ => false

/-- What statements put where. What goes into an array of tables has no place. -/
def placements (placed : List Placement) (current : List String) : List Statement → List Placement
  | [] => placed
  | statement :: rest =>
    let p := statement.placement current
    placements (if placed.any (·.beginsOn p.way) then placed else placed ++ [p])
      (statement.current current) rest

theorem saidBy_tables_iff {p : Placement} {place : List String} :
    SaidBy p place .tables ↔ p.way = place ∧ p.content = .tables := by
  obtain ⟨way, content⟩ := p
  constructor
  · rintro (⟨rest, rfl, hfound⟩ | ⟨-, -, hfound⟩)
    · cases content with
      | value v => exact absurd hfound (v.occupant?_ne_tables rest)
      | table => cases rest <;> cases hfound
      | tables =>
        cases rest with
        | nil => exact ⟨(List.append_nil way).symm, rfl⟩
        | cons key rest => cases hfound
    · cases hfound
  · rintro ⟨rfl, hcontent⟩
    cases hcontent
    exact .put [] (List.append_nil way).symm rfl

theorem beginsOn_iff {p : Placement} {way : List String} :
    p.beginsOn way = true ↔ p.content = .tables ∧ p.way <+: way ∧ p.way ≠ way := by
  obtain ⟨place, content⟩ := p
  cases content <;> simp [Placement.beginsOn]

/-- A tree has at every place what is stated. -/
structure Reflects (entries : Entries) (placed : List Placement) : Prop where
  /-- Nothing is put in the place of the whole tree. -/
  named : ∀ p ∈ placed, p.way ≠ []
  iff_stated : ∀ place, place ≠ [] → ∀ found,
    entries.occupant? place = some found ↔ Stated placed place found

variable {entries after : Entries} {placed : List Placement}

theorem reflects_nil : Reflects [] [] where
  named := nofun
  iff_stated place hplace found := by
    obtain ⟨key, way, rfl⟩ := List.exists_cons_of_ne_nil hplace
    rw [Entries.occupant?_nil_cons]
    simp [Stated]

theorem Reflects.enters_iff (h : Reflects entries placed) (way : List String) :
    entries.Enters way ↔ placed.any (·.beginsOn way) = true := by
  rw [List.any_eq_true]
  simp only [beginsOn_iff]
  constructor
  · rintro ⟨place, hon, hne, hfound⟩
    have hplace : place ≠ [] := by
      rintro rfl
      cases hfound
    obtain ⟨p, hp, hsaid⟩ := (h.iff_stated place hplace _).1 hfound
    obtain ⟨rfl, hcontent⟩ := saidBy_tables_iff.1 hsaid
    exact ⟨p, hp, hcontent, hon, hne⟩
  · rintro ⟨p, hp, hcontent, hon, hne⟩
    refine ⟨p.way, hon, hne, (h.iff_stated _ (h.named p hp) _).2 ?_⟩
    exact ⟨p, hp, saidBy_tables_iff.2 ⟨rfl, hcontent⟩⟩

/-- A tree keeps up with the statements when one is followed. -/
theorem Reflects.effect (h : Reflects entries placed) {p : Placement} (hway : p.way ≠ [])
    (heffect : Entries.Effect entries after p) :
    Reflects after (if placed.any (·.beginsOn p.way) then placed else placed ++ [p]) := by
  cases heffect with
  | shown hnot hadds =>
    rw [if_neg (mt (h.enters_iff p.way).2 hnot)]
    refine ⟨List.forall_mem_append.2 ⟨h.named, List.forall_mem_singleton.2 hway⟩,
      fun place hplace found => ?_⟩
    rw [hadds place hplace, h.iff_stated place hplace]
    simp [Stated, or_and_right, exists_or]
  | hidden henters hsame =>
    rw [if_pos ((h.enters_iff p.way).1 henters)]
    exact ⟨h.named, fun place hplace found => by rw [hsame, h.iff_stated place hplace]⟩

/-- What one statement does to a draft. -/
theorem Reflects.follow {draft next : Draft} {statement : Statement}
    (h : Reflects draft.entries placed) (hkeys : statement.keys ≠ [])
    (hfollow : draft.follow statement = some next) :
    let p := statement.placement draft.current
    Reflects next.entries (if placed.any (·.beginsOn p.way) then placed else placed ++ [p]) ∧
      next.current = statement.current draft.current := by
  obtain ⟨heffect, hcurrent⟩ := effect_follow hkeys hfollow
  refine ⟨h.effect ?_ heffect, hcurrent⟩
  cases statement with
  | header keys => exact hkeys
  | arrayHeader keys => exact hkeys
  | assignment keys v => exact List.append_ne_nil_of_right_ne_nil _ hkeys

/-- What some statements do to a draft. -/
theorem Reflects.statements {statements : List Statement} :
    ∀ {draft last : Draft} {placed : List Placement}, Reflects draft.entries placed →
      (∀ statement ∈ statements, statement.keys ≠ []) →
      statements.foldlM Draft.follow draft = some last →
      Reflects last.entries (placements placed draft.current statements) := by
  induction statements with
  | nil =>
    intro draft last placed h _ hlast
    cases hlast
    exact h
  | cons statement rest ih =>
    intro draft last placed h hkeys hlast
    rw [List.forall_mem_cons] at hkeys
    obtain ⟨next, hfollow, hlast⟩ := Option.bind_eq_some_iff.1 hlast
    obtain ⟨hnext, hcurrent⟩ := h.follow hkeys.1 hfollow
    rw [placements, ← hcurrent]
    exact ih hnext hkeys.2 hlast

/-! ## Texts -/

theorem readKeySequence_ne_nil {fuel : Nat} {cs rest : List Char} {keys : List String}
    (h : readKeySequence fuel cs = some (keys, rest)) : keys ≠ [] := by
  cases fuel with
  | zero => cases h
  | succ fuel =>
    rw [readKeySequence] at h
    obtain ⟨⟨key, left⟩, -, h⟩ := Option.bind_eq_some_iff.1 h
    dsimp only at h
    split at h
    · obtain ⟨⟨more, left⟩, -, h⟩ := Option.bind_eq_some_iff.1 h
      cases h
      exact List.cons_ne_nil _ _
    · cases h
      exact List.cons_ne_nil _ _

theorem readKeys_ne_nil {cs rest : List Char} {keys : List String}
    (h : readKeys cs = some (keys, rest)) : keys ≠ [] :=
  readKeySequence_ne_nil (Option.filter_eq_some_iff.1 h).1

theorem readHeader_keys {statement : List String → Statement}
    (hstatement : ∀ keys, (statement keys).keys = keys) {close cs rest : List Char} {s : Statement}
    (h : readHeader statement close cs = some (s, rest)) : s.keys ≠ [] := by
  obtain ⟨⟨keys, left⟩, hkeys, h⟩ := Option.bind_eq_some_iff.1 h
  dsimp only at h
  split at h
  · obtain ⟨left, -, h⟩ := Option.bind_eq_some_iff.1 h
    cases h
    rw [hstatement]
    exact readKeys_ne_nil hkeys
  · cases h

theorem readAssignment_keys {value : Reader Value} {cs rest : List Char} {keys : List String}
    {v : Value} (h : readAssignment value cs = some ((keys, v), rest)) : keys ≠ [] := by
  obtain ⟨⟨keys, left⟩, hkeys, h⟩ := Option.bind_eq_some_iff.1 h
  dsimp only at h
  split at h
  · obtain ⟨⟨x, left⟩, -, h⟩ := Option.bind_eq_some_iff.1 h
    cases h
    exact readKeys_ne_nil hkeys
  · cases h

/-- Every statement that is read has keys. -/
theorem readStatement_keys {cs rest : List Char} {statement : Statement}
    (h : readStatement cs = some (some statement, rest)) : statement.keys ≠ [] := by
  unfold readStatement at h
  split at h
  · obtain ⟨⟨s, left⟩, hread, h⟩ := Option.map_eq_some_iff.1 h
    cases h
    exact readHeader_keys (fun _ => rfl) hread
  · obtain ⟨⟨s, left⟩, hread, h⟩ := Option.map_eq_some_iff.1 h
    cases h
    exact readHeader_keys (fun _ => rfl) hread
  · split at h
    · cases h
    · obtain ⟨⟨⟨keys, v⟩, left⟩, hread, h⟩ := Option.bind_eq_some_iff.1 h
      dsimp only at h
      obtain ⟨left, -, h⟩ := Option.bind_eq_some_iff.1 h
      cases h
      exact readAssignment_keys hread

theorem readStatements_keys {fuel : Nat} {cs : List Char} {statements : List Statement}
    (h : readStatements fuel cs = some statements) :
    ∀ statement ∈ statements, statement.keys ≠ [] := by
  induction fuel generalizing cs statements with
  | zero =>
    cases cs with
    | nil =>
      cases h
      exact nofun
    | cons c cs => cases h
  | succ fuel ih =>
    cases cs with
    | nil =>
      cases h
      exact nofun
    | cons c cs =>
      rw [readStatements_cons] at h
      obtain ⟨⟨statement?, left⟩, hread, h⟩ := Option.bind_eq_some_iff.1 h
      obtain ⟨others, hothers, h⟩ := Option.bind_eq_some_iff.1 h
      cases h
      rw [List.forall_mem_append]
      refine ⟨?_, ih hothers⟩
      rintro statement hmem
      rw [Option.mem_toList.1 hmem] at hread
      exact readStatement_keys hread

/-- What the statements of a text put where. -/
def placements? (text : String) : Option (List Placement) :=
  (statements? text).map (placements [] [])

/-- What a text says of a place, statement by statement. -/
def Says (text : String) (place : List String) (found : Occupant) : Prop :=
  ∃ placed ∈ placements? text, Stated placed place found

/-- What stands at a place of a document is what its text says of it. -/
theorem occupant?_eq_some_iff {text : String} {document : Entries}
    (h : readDocument text = some document) {place : List String} (hplace : place ≠ [])
    (found : Occupant) : document.occupant? place = some found ↔ Says text place found := by
  obtain ⟨statements, hstatements, h⟩ := Option.bind_eq_some_iff.1 h
  obtain ⟨draft, hdraft, rfl⟩ := Option.map_eq_some_iff.1 h
  have hreflects := @Reflects.statements statements ⟨[], []⟩ draft [] reflects_nil
    (readStatements_keys hstatements) hdraft
  have hplaced : placements? text = some (placements [] [] statements) := by
    rw [placements?, hstatements, Option.map_some]
  rw [hreflects.iff_stated place hplace, Says, hplaced]
  simp

end RaidProvision.Toml
