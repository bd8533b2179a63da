import Mathlib.Data.List.Forall2
import RaidProvision.Json.Reader

/-!
# Readers side by side

A reader of something particular goes through a text as the reader of any value does, only that it
refuses more. So what it takes is the text of a value, and what it made of it can be said of that
value. `Reader.Shadows` relates two readers in this way; arrays and objects are read side by side if
their parts are.

* `readArray_shadows`, `readObject_shadows`: element by element, and member by member with an
  invariant between what is held on both sides.
* `read_shadows`: any value, whatever the causes are that the readers could give.
* `parse?_of_shadows`: a whole text.
-/
namespace RaidProvision.Json

variable {ε δ α β σ τ : Type}

/-- What one reader takes off a text another one takes as well, and both results are related. -/
def Reader.Shadows (reader : Reader ε α) (other : Reader δ β) (R : α → β → Prop) : Prop :=
  ∀ cs x rest, reader cs = .ok (x, rest) → ∃ y, other cs = .ok (y, rest) ∧ R x y

namespace Reader.Shadows

variable {reader : Reader ε α} {other : Reader δ β}

theorem mono {R S : α → β → Prop} (h : reader.Shadows other R) (hRS : ∀ x y, R x y → S x y) :
    reader.Shadows other S := by
  intro cs x rest hx
  obtain ⟨y, hy, hR⟩ := h cs x rest hx
  exact ⟨y, hy, hRS x y hR⟩

theorem map {f : α → σ} {g : β → τ} {R : σ → τ → Prop}
    (h : reader.Shadows other fun x y => R (f x) (g y)) :
    (Reader.map f reader).Shadows (Reader.map g other) R := by
  intro cs z rest hz
  cases hx : reader cs with
  | error fault => simp [Reader.map, hx, Except.map] at hz
  | ok result =>
    obtain ⟨x, rest'⟩ := result
    obtain ⟨rfl, rfl⟩ : f x = z ∧ rest' = rest := by
      simpa [Reader.map, hx, Except.map] using hz
    obtain ⟨y, hy, hR⟩ := h cs x _ hx
    exact ⟨g y, by simp [Reader.map, hy, Except.map], hR⟩

theorem map_left {f : α → σ} {R : σ → β → Prop}
    (h : reader.Shadows other fun x y => R (f x) y) : (Reader.map f reader).Shadows other R := by
  have hmap : (Reader.map f reader).Shadows (Reader.map id other) R := map h
  have hid : Reader.map id other = other := by
    funext cs
    unfold Reader.map
    cases other cs <;> rfl
  rwa [hid] at hmap

end Reader.Shadows

/-! ## Words, texts and numbers -/

theorem keyword_shadows (word : String) {x : α} {y : β} {R : α → β → Prop} (h : R x y) :
    (keyword (ε := ε) word x).Shadows (keyword (ε := δ) word y) R := by
  intro cs z rest hz
  unfold keyword at hz
  split at hz
  case isTrue hword =>
    obtain ⟨rfl, rfl⟩ : x = z ∧ _ = rest := by simpa using hz
    exact ⟨y, by rw [keyword, if_pos hword], h⟩
  case isFalse => simp at hz

theorem readText_shadows : (readText (ε := ε)).Shadows (readText (ε := δ)) Eq := by
  intro cs s rest hs
  unfold readText at hs
  split at hs
  case h_1 text ds hread =>
    obtain ⟨rfl, rfl⟩ : String.ofList text = s ∧ ds = rest := by simpa using hs
    exact ⟨_, by rw [readText, hread], rfl⟩
  case h_2 => simp at hs

theorem readNumeral_shadows : (readNumeral (ε := ε)).Shadows (readNumeral (ε := δ)) Eq := by
  intro cs n rest hn
  unfold readNumeral at hn
  split at hn
  case h_1 result hread =>
    obtain rfl := Except.ok.inj hn
    exact ⟨n, by rw [readNumeral, hread], rfl⟩
  case h_2 => simp at hn

/-! ## Arrays and objects -/

theorem readElements_shadows {element : Reader ε α} {other : Reader δ β} {R : α → β → Prop}
    (h : element.Shadows other R) : ∀ fuel,
    Reader.Shadows (readElements element fuel) (readElements other fuel) (List.Forall₂ R)
  | 0 => fun cs xs rest hxs => by simp [readElements] at hxs
  | fuel + 1 => fun cs xs rest hxs => by
    rw [readElements] at hxs
    cases hx : element cs with
    | error fault => simp [hx, bind, Except.bind] at hxs
    | ok result =>
      obtain ⟨x, ds⟩ := result
      obtain ⟨y, hy, hR⟩ := h cs x ds hx
      simp only [hx, bind, Except.bind] at hxs
      rw [readElements]
      simp only [hy, bind, Except.bind]
      split at hxs
      case h_1 es hcomma =>
        cases hrest : readElements element fuel es with
        | error fault => simp [hrest] at hxs
        | ok result =>
          obtain ⟨xs', fs⟩ := result
          obtain ⟨rfl, rfl⟩ : x :: xs' = xs ∧ fs = rest := by
            simpa [hrest, pure, Except.pure] using hxs
          obtain ⟨ys, hys, hRs⟩ := readElements_shadows h fuel es xs' _ hrest
          exact ⟨y :: ys, by simp [hys, pure, Except.pure], .cons hR hRs⟩
      case h_2 es hbracket =>
        obtain ⟨rfl, rfl⟩ : [x] = xs ∧ es = rest := by simpa [pure, Except.pure] using hxs
        exact ⟨[y], by simp [pure, Except.pure], .cons hR .nil⟩
      case h_3 => simp at hxs

theorem readArray_shadows {element : Reader ε α} {other : Reader δ β} {R : α → β → Prop}
    (h : element.Shadows other R) :
    (readArray element).Shadows (readArray other) (List.Forall₂ R) := by
  intro cs xs rest hxs
  unfold readArray at hxs ⊢
  split at hxs
  case h_1 ds hbracket =>
    obtain ⟨rfl, rfl⟩ : [] = xs ∧ ds = rest := by simpa using hxs
    exact ⟨[], rfl, .nil⟩
  case h_2 hother =>
    obtain ⟨ys, hys, hRs⟩ := readElements_shadows h _ cs xs rest hxs
    exact ⟨ys, by simpa using hys, hRs⟩

/-- What is held on both sides stays related if it does so with each member. -/
theorem readMembers_shadows {member : String → σ → Except ε (Reader ε σ)}
    {take : String → τ → Reader δ τ} {R : σ → τ → Prop}
    (h : ∀ name s t reader, R s t → member name s = .ok reader →
      reader.Shadows (take name t) R) :
    ∀ fuel s t, R s t → Reader.Shadows (readMembers member fuel s)
      (readMembers (fun name t => .ok (take name t)) fuel t) R
  | 0, s, t, _ => fun cs u rest hu => by simp [readMembers] at hu
  | fuel + 1, s, t, hR => fun cs u rest hu => by
    rw [readMembers] at hu ⊢
    split at hu
    case h_2 => simp at hu
    case h_1 ds hquote =>
      cases hname : readText (ε := ε) ds with
      | error fault => simp [hname, bind, Except.bind] at hu
      | ok result =>
        obtain ⟨name, es⟩ := result
        obtain ⟨_, hname', rfl⟩ := readText_shadows (δ := δ) ds name es hname
        simp only [hname, bind, Except.bind] at hu
        split at hu
        case h_1 => simp at hu
        case h_2 reader hreader =>
          unfold colon at hu
          split at hu
          case h_1 => simp at hu
          case h_2 result hresult =>
            obtain ⟨s', fs⟩ := result
            split at hresult
            case h_2 => simp at hresult
            case h_1 gs hcolon =>
              obtain ⟨t', ht', hR'⟩ := h name s t reader hR hreader gs s' fs hresult
              have hcolon' : colon (take name t) es = .ok (t', fs) := by
                simp only [colon, hcolon, ht']
              split at hu
              case h_1 is hcomma =>
                obtain ⟨v, hv, hRv⟩ := readMembers_shadows h fuel s' t' hR' is u rest hu
                exact ⟨v, by simp [hname', hcolon', hcomma, hv, bind, Except.bind], hRv⟩
              case h_2 is hbrace =>
                obtain ⟨rfl, rfl⟩ : s' = u ∧ is = rest := by simpa [pure, Except.pure] using hu
                exact ⟨t', by simp [hname', hcolon', hbrace, bind, Except.bind, pure, Except.pure],
                  hR'⟩
              case h_3 => simp at hu

theorem readObject_shadows {member : String → σ → Except ε (Reader ε σ)}
    {take : String → τ → Reader δ τ} {R : σ → τ → Prop}
    (h : ∀ name s t reader, R s t → member name s = .ok reader →
      reader.Shadows (take name t) R)
    {s : σ} {t : τ} (hstart : R s t) :
    (readObject member s).Shadows (readObject (fun name t => .ok (take name t)) t) R := by
  intro cs u rest hu
  unfold readObject at hu ⊢
  split at hu
  case h_1 ds hbrace =>
    obtain ⟨rfl, rfl⟩ : s = u ∧ ds = rest := by simpa using hu
    exact ⟨t, rfl, hstart⟩
  case h_2 hother =>
    obtain ⟨v, hv, hR⟩ := readMembers_shadows h _ s t hstart cs u rest hu
    exact ⟨v, by simpa using hv, hR⟩

/-! ## Values and whole texts -/

/-- Any value is read in the same way, whatever causes could be given. -/
theorem read_shadows : ∀ depth,
    (Value.read (ε := ε) depth).Shadows (Value.read (ε := δ) depth) Eq
  | depth, cs, value, rest, h => by
    unfold Value.read at h ⊢
    split at h
    case h_1 => exact keyword_shadows _ rfl _ _ _ h
    case h_2 => exact keyword_shadows _ rfl _ _ _ h
    case h_3 => exact keyword_shadows _ rfl _ _ _ h
    case h_4 =>
      refine Reader.Shadows.map ?_ _ _ _ h
      exact readText_shadows.mono fun _ _ => congrArg Value.text
    case h_5 =>
      cases depth with
      | zero => simp at h
      | succ depth =>
        refine Reader.Shadows.map ?_ _ _ _ h
        refine (readArray_shadows (read_shadows depth)).mono fun xs ys hxs => ?_
        rw [List.forall₂_eq_eq_eq] at hxs
        rw [hxs]
    case h_6 =>
      cases depth with
      | zero => simp at h
      | succ depth =>
        refine Reader.Shadows.map (R := Eq) ?_ _ _ _ h
        refine (readObject_shadows (R := Eq) ?_ rfl).mono fun _ _ => congrArg Value.object
        rintro name held _ reader rfl hreader
        obtain rfl := Except.ok.inj hreader
        exact .map ((read_shadows depth).mono fun _ _ h => by rw [h])
    case h_7 =>
      split at h
      case isTrue hfirst =>
        rw [if_pos hfirst]
        refine Reader.Shadows.map ?_ _ _ _ h
        exact readNumeral_shadows.mono fun _ _ => congrArg Value.number
      case isFalse => simp at h
    case h_8 => simp at h

/-- A whole text that is read as something is that of a value. -/
theorem parse?_of_shadows {reader : Reader ε α} {R : α → Value → Prop}
    (h : reader.Shadows (Value.read (ε := Empty) maxDepth) R) {s : String} {x : α}
    (hx : wholeText reader s = .ok x) : ∃ value, Value.parse? s = some value ∧ R x value := by
  unfold wholeText at hx
  split at hx
  case h_2 => simp at hx
  case h_1 y rest hy =>
    split at hx
    case isFalse => simp at hx
    case isTrue hrest =>
      obtain rfl := Except.ok.inj hx
      obtain ⟨value, hvalue, hR⟩ := h _ _ _ hy
      exact ⟨value, by simp only [Value.parse?, wholeText, hvalue, if_pos hrest], hR⟩

end RaidProvision.Json
