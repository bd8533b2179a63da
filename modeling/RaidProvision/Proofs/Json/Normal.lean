import Mathlib.Data.String.Basic
import RaidProvision.Proofs.Json.Spelling

/-!
# Values in normal form

A value that was read has the members of each of its objects sorted by name and is no deeper than
what may be opened (`Value.Normal`).

* `Members.Sorted.insert`, `Absorbs.of_sorted`: one member put in, and sorted members in order.
* `Reader.Yields`: what holds of everything that a reader reads.
* `yields_read`: what is read is in normal form.
* `wholeText_of_takes`: what a text with nothing else holds.
-/
namespace RaidProvision.Json

/-! ## Sorted members -/

/-- Members with ascending names. -/
def Members.Sorted (members : Members) : Prop := members.Pairwise (·.1 < ·.1)

theorem Members.mem_insert {name : String} {value : Value} {members : Members}
    {m : String × Value} (h : m ∈ members.insert name value) : m = (name, value) ∨ m ∈ members := by
  induction members with
  | nil => exact .inl (List.mem_singleton.1 h)
  | cons other rest ih =>
    obtain ⟨key, held⟩ := other
    rw [Members.insert] at h
    grind

theorem Members.Sorted.insert {members : Members} (h : members.Sorted) (name : String)
    (value : Value) : (members.insert name value).Sorted := by
  induction members with
  | nil => exact List.pairwise_singleton _ _
  | cons other rest ih =>
    obtain ⟨key, held⟩ := other
    obtain ⟨hkey, hrest⟩ := List.pairwise_cons.1 h
    rw [Members.insert]
    split
    case isTrue hlt =>
      refine List.pairwise_cons.2 ⟨fun m hm => ?_, h⟩
      rcases List.mem_cons.1 hm with rfl | hm
      · exact hlt
      · exact hlt.trans (hkey m hm)
    case isFalse hge =>
      split
      case isTrue heq => exact List.pairwise_cons.2 ⟨heq ▸ hkey, hrest⟩
      case isFalse hne =>
        refine List.pairwise_cons.2 ⟨fun m hm => ?_, ih hrest⟩
        rcases Members.mem_insert hm with rfl | hm
        · exact lt_of_le_of_ne (not_lt.1 hge) (Ne.symm hne)
        · exact hkey m hm

theorem Members.insert_last {members : Members} {name : String}
    (h : ∀ m ∈ members, m.1 < name) (value : Value) :
    members.insert name value = members ++ [(name, value)] := by
  induction members with
  | nil => rfl
  | cons other rest ih =>
    obtain ⟨key, held⟩ := other
    have hkey : key < name := h _ List.mem_cons_self
    rw [Members.insert, if_neg hkey.not_gt, if_neg hkey.ne',
      ih fun m hm => h m (List.mem_cons_of_mem _ hm)]
    rfl

variable {ε α β σ : Type}

/-- Members in order that are each put into what is held come to stand behind it. -/
theorem Absorbs.of_sorted {member : String → σ → Except ε (Reader ε σ)} (set : Members → σ)
    (held : Members) {reader : Reader ε Value} {members : Members}
    (hmember : ∀ m ∈ members, ∀ held, member m.1 (set held) =
      .ok (Reader.map (fun value => set (held.insert m.1 value)) reader))
    (htakes : ∀ m ∈ members, Takes reader m.2 m.2) (hsorted : Members.Sorted (held ++ members)) :
    Absorbs member (set held) members (set (held ++ members)) := by
  induction members generalizing held with
  | nil =>
    rw [List.append_nil]
    exact .nil _
  | cons m rest ih =>
    obtain ⟨name, value⟩ := m
    have hlast : ∀ m ∈ held, m.1 < name := fun m hm =>
      (List.pairwise_append.1 hsorted).2.2 m hm _ List.mem_cons_self
    have htake := (htakes _ List.mem_cons_self).map fun value => set (held.insert name value)
    rw [List.append_cons] at hsorted ⊢
    rw [Members.insert_last hlast] at htake
    exact .cons (hmember _ List.mem_cons_self held) htake
      (ih _ (fun m hm => hmember m (List.mem_cons_of_mem _ hm))
        (fun m hm => htakes m (List.mem_cons_of_mem _ hm)) hsorted)

/-! ## What readers read -/

/-- Everything that a reader reads has a property. -/
def Reader.Yields (reader : Reader ε α) (P : α → Prop) : Prop :=
  ∀ cs x rest, reader cs = .ok (x, rest) → P x

theorem Reader.Yields.map {reader : Reader ε α} {f : α → β} {P : β → Prop}
    (h : reader.Yields fun x => P (f x)) : (Reader.map f reader).Yields P := by
  intro cs y rest hy
  cases hx : reader cs with
  | error fault => simp [Reader.map, hx, Except.map] at hy
  | ok result =>
    obtain ⟨x, rest'⟩ := result
    obtain ⟨rfl, rfl⟩ : f x = y ∧ rest' = rest := by
      simpa [Reader.map, hx, Except.map] using hy
    exact h cs x _ hx

theorem readElements_yields {element : Reader ε α} {P : α → Prop} (h : element.Yields P) :
    ∀ fuel, Reader.Yields (readElements element fuel) fun xs => ∀ x ∈ xs, P x
  | 0 => fun cs xs rest hxs => by simp [readElements] at hxs
  | fuel + 1 => fun cs xs rest hxs => by
    rw [readElements] at hxs
    cases hx : element cs with
    | error fault => simp [hx, bind, Except.bind] at hxs
    | ok result =>
      obtain ⟨x, ds⟩ := result
      have hP := h cs x ds hx
      simp only [hx, bind, Except.bind] at hxs
      split at hxs
      case h_1 es _ =>
        cases hys : readElements element fuel es with
        | error fault => simp [hys] at hxs
        | ok result =>
          obtain ⟨ys, fs⟩ := result
          obtain ⟨rfl, -⟩ : x :: ys = xs ∧ fs = rest := by
            simpa [hys, pure, Except.pure] using hxs
          exact List.forall_mem_cons.2 ⟨hP, readElements_yields h fuel es ys fs hys⟩
      case h_2 =>
        obtain ⟨rfl, -⟩ : [x] = xs ∧ _ = rest := by simpa [pure, Except.pure] using hxs
        exact List.forall_mem_singleton.2 hP
      case h_3 => simp at hxs

theorem readArray_yields {element : Reader ε α} {P : α → Prop} (h : element.Yields P) :
    (readArray element).Yields fun xs => ∀ x ∈ xs, P x := by
  intro cs xs rest hxs
  unfold readArray at hxs
  split at hxs
  case h_1 =>
    obtain ⟨rfl, -⟩ : [] = xs ∧ _ = rest := by simpa using hxs
    exact List.forall_mem_nil _
  case h_2 => exact readElements_yields h _ cs xs rest hxs

/-- What holds at the start and is kept by each member holds of the object. -/
theorem readMembers_yields {member : String → σ → Except ε (Reader ε σ)} {P : σ → Prop}
    (h : ∀ name s reader, P s → member name s = .ok reader → reader.Yields P) :
    ∀ fuel s, P s → Reader.Yields (readMembers member fuel s) P
  | 0, s, _ => fun cs t rest ht => by simp [readMembers] at ht
  | fuel + 1, s, hs => fun cs t rest ht => by
    rw [readMembers] at ht
    split at ht
    case h_2 => simp at ht
    case h_1 ds _ =>
      cases hname : readText (ε := ε) ds with
      | error fault => simp [hname, bind, Except.bind] at ht
      | ok result =>
        obtain ⟨name, es⟩ := result
        simp only [hname, bind, Except.bind] at ht
        split at ht
        case h_1 => simp at ht
        case h_2 reader hreader =>
          unfold colon at ht
          split at ht
          case h_1 fault _ => simp at ht
          case h_2 result hresult =>
            obtain ⟨u, fs⟩ := result
            split at hresult
            case h_2 => simp at hresult
            case h_1 gs _ =>
              have hu : P u := h name s reader hs hreader gs u fs hresult
              split at ht
              case h_1 is _ => exact readMembers_yields h fuel u hu is t rest ht
              case h_2 =>
                obtain ⟨rfl, -⟩ : u = t ∧ _ = rest := by simpa [pure, Except.pure] using ht
                exact hu
              case h_3 => simp at ht

theorem readObject_yields {member : String → σ → Except ε (Reader ε σ)} {P : σ → Prop}
    (h : ∀ name s reader, P s → member name s = .ok reader → reader.Yields P) {start : σ}
    (hstart : P start) : (readObject member start).Yields P := by
  intro cs t rest ht
  unfold readObject at ht
  split at ht
  case h_1 =>
    obtain ⟨rfl, -⟩ : start = t ∧ _ = rest := by simpa using ht
    exact hstart
  case h_2 => exact readMembers_yields h _ start hstart cs t rest ht

theorem wholeText_yields {reader : Reader ε α} {P : α → Prop} (h : reader.Yields P) {s : String}
    {x : α} (hx : wholeText reader s = .ok x) : P x := by
  unfold wholeText at hx
  split at hx
  case h_1 y rest hy =>
    split at hx
    case isTrue =>
      obtain rfl := Except.ok.inj hx
      exact h _ _ _ hy
    case isFalse => simp at hx
  case h_2 => simp at hx

theorem keyword_yields {word : String} {x : α} {P : α → Prop} (h : P x) :
    (keyword (ε := ε) word x).Yields P := by
  intro cs y rest hy
  unfold keyword at hy
  split at hy
  · obtain ⟨rfl, -⟩ : x = y ∧ _ = rest := by simpa using hy
    exact h
  · simp at hy

/-! ## Normal form -/

/-- A value that is no deeper than `depth` and has the members of its objects sorted. -/
def Value.Normal : (depth : Nat) → Value → Prop
  | 0, .array _ => False
  | 0, .object _ => False
  | depth + 1, .array elements => ∀ value ∈ elements, Value.Normal depth value
  | depth + 1, .object members =>
    Members.Sorted members ∧ ∀ m ∈ members, Value.Normal depth m.2
  | _, _ => True

/-- What fits a depth fits a greater one. -/
theorem Value.Normal.succ : ∀ {depth : Nat} {value : Value}, value.Normal depth →
    value.Normal (depth + 1)
  | _, .null, _ => by simp [Value.Normal]
  | _, .boolean _, _ => by simp [Value.Normal]
  | _, .number _, _ => by simp [Value.Normal]
  | _, .text _, _ => by simp [Value.Normal]
  | 0, .array _, h => absurd h (by simp [Value.Normal])
  | 0, .object _, h => absurd h (by simp [Value.Normal])
  | _ + 1, .array _, h => fun value hvalue => (h value hvalue).succ
  | _ + 1, .object _, h => ⟨h.1, fun m hm => (h.2 m hm).succ⟩

/-- What is read is in normal form. -/
theorem yields_read : ∀ depth, (Value.read (ε := ε) depth).Yields (Value.Normal depth)
  | depth, cs, value, rest, h => by
    unfold Value.read at h
    split at h
    case h_1 => exact keyword_yields (by simp [Value.Normal]) _ _ _ h
    case h_2 => exact keyword_yields (by simp [Value.Normal]) _ _ _ h
    case h_3 => exact keyword_yields (by simp [Value.Normal]) _ _ _ h
    case h_4 =>
      exact Reader.Yields.map (fun _ s _ _ => by simp [Value.Normal]) _ _ _ h
    case h_5 =>
      cases depth with
      | zero => simp at h
      | succ depth =>
        exact Reader.Yields.map (readArray_yields (yields_read depth)) _ _ _ h
    case h_6 =>
      cases depth with
      | zero => simp at h
      | succ depth =>
        refine Reader.Yields.map (P := Value.Normal (depth + 1)) (readObject_yields ?_ ?_) _ _ _ h
        · rintro name held reader ⟨hsorted, hheld⟩ hreader
          obtain rfl := Except.ok.inj hreader
          refine Reader.Yields.map fun cs value rest hvalue => ⟨hsorted.insert name value, ?_⟩
          intro m hm
          rcases Members.mem_insert hm with rfl | hm
          · exact yields_read depth cs value rest hvalue
          · exact hheld m hm
        · exact ⟨List.Pairwise.nil, List.forall_mem_nil _⟩
    case h_7 =>
      split at h
      case isTrue => exact Reader.Yields.map (fun _ n _ _ => by simp [Value.Normal]) _ _ _ h
      case isFalse => simp at h
    case h_8 => simp at h

/-- What is read off every text of a value is what a text with nothing else holds. -/
theorem wholeText_of_takes {reader : Reader ε α} {value : Value} {x : α}
    (h : Takes reader value x) {s : String} (hs : Spells value s.toList) :
    wholeText reader s = .ok x := by
  have hread := h [] s.toList [] gap_nil hs behindValue_nil
  rw [List.nil_append, List.append_nil] at hread
  rw [wholeText, hread]
  rfl

end RaidProvision.Json
