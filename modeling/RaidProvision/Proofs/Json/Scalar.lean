import RaidProvision.Json.Printer
import RaidProvision.Proofs.Text.Unsigned

/-!
# Texts and numbers in JSON

A text that was written is read as it was: each character is read from its own written form. An
integer is read from its digits, as far as they fit a word, and a negative zero from `-0.0`. Other
double precision numbers need not come back, since a reader may miss the nearest one.

* `readCharacters_escapeChar`, `readText_escaped`: a text, one character at a time.
* `foldl_add`: the significand of digits that fit a word, by induction on them.
* `Number.exact_integerOf`: what an integer literal that fits a word is read as.
* `readNumber_write`: the numbers that come back.
* `Value.word?_eq_some_iff`: the values that are words.
-/
namespace RaidProvision.Json

open RaidProvision.Binary64

/-! ## What may follow a value -/

/-- White space, as much as there is. -/
def Gap (gap : List Char) : Prop := ∀ c ∈ gap, isSpace c = true

/-- What may stand behind a value: nothing, white space, a comma or a closing bracket. -/
def BehindValue (rest : List Char) : Prop :=
  ∀ c ∈ rest.head?, isSpace c = true ∨ c = ',' ∨ c = ']' ∨ c = '}'

theorem behindValue_nil : BehindValue [] := by simp [BehindValue]

theorem skipSpace_gap {gap : List Char} (h : Gap gap) (cs : List Char) :
    skipSpace (gap ++ cs) = skipSpace cs :=
  List.dropWhile_append_of_pos h

theorem skipSpace_cons {c : Char} (h : isSpace c = false) (cs : List Char) :
    skipSpace (c :: cs) = c :: cs := by
  simp [skipSpace, h]

theorem BehindValue.of_gap {gap : List Char} (h : Gap gap) {c : Char}
    (hc : c = ',' ∨ c = ']' ∨ c = '}') (rest : List Char) : BehindValue (gap ++ c :: rest) := by
  intro d hd
  cases gap with
  | nil =>
    obtain rfl : c = d := by simpa using hd
    exact .inr hc
  | cons e gap =>
    obtain rfl : e = d := by simpa using hd
    exact .inl (h e (by simp))

/-! ## Texts -/

theorem hexDigit?_hexDigit : ∀ n < 16, hexDigit? (hexDigit n) = some n := by decide

theorem readCharacters_short {e c : Char} (he : e ≠ 'u') (hc : shortEscape? e = some c)
    (rest : List Char) : readCharacters ('\\' :: e :: rest) = consRead c (readCharacters rest) := by
  rw [readCharacters]
  · simp only [hc]
  · exact fun _ _ _ _ _ hu => absurd hu he

theorem readCharacters_plain {c : Char} (hq : c ≠ '"') (hb : c ≠ '\\') (hc : 0x20 ≤ c.toNat)
    (rest : List Char) : readCharacters (c :: rest) = consRead c (readCharacters rest) := by
  rw [readCharacters]
  · exact if_neg (Nat.not_lt.2 hc)
  · exact hq
  · exact fun _ _ _ _ _ hu => absurd hu hb
  · exact fun _ _ hu => absurd hu hb

/-- A character below U+0020 is read from its number. -/
theorem readCharacters_control {c : Char} (hc : c.toNat < 0x20) (rest : List Char) :
    readCharacters ('\\' :: 'u' :: '0' :: '0' :: hexDigit (c.toNat / 16) ::
      hexDigit (c.toNat % 16) :: rest) = consRead c (readCharacters rest) := by
  have hhigh := hexDigit?_hexDigit (c.toNat / 16) (by omega)
  have hlow := hexDigit?_hexDigit (c.toNat % 16) (by omega)
  have hzero : hexDigit? '0' = some 0 := by decide
  have hnumber : hex4? '0' '0' (hexDigit (c.toNat / 16)) (hexDigit (c.toNat % 16)) =
      some c.toNat := by
    simp only [hex4?, hhigh, hlow, hzero, Option.bind_eq_bind, Option.bind_some, pure,
      Option.some.injEq]
    omega
  have hhalf : isHighHalf c.toNat = false ∧ isLowHalf c.toNat = false := by
    simp only [isHighHalf, isLowHalf, Bool.and_eq_false_iff, decide_eq_false_iff_not]
    omega
  rw [readCharacters]
  simp only [hnumber, hhalf, Bool.false_eq_true, if_false, Char.ofNat_toNat]

/-- A character is read from its own written form. -/
theorem readCharacters_escapeChar (c : Char) (rest : List Char) :
    readCharacters (escapeChar c ++ rest) = consRead c (readCharacters rest) := by
  unfold escapeChar
  by_cases hq : c = '"'
  · subst hq
    exact readCharacters_short (by decide) rfl rest
  by_cases hb : c = '\\'
  · subst hb
    exact readCharacters_short (by decide) rfl rest
  rw [if_neg hq, if_neg hb]
  by_cases hc : 0x20 ≤ c.toNat
  · rw [if_pos hc]
    exact readCharacters_plain hq hb hc rest
  rw [if_neg hc]
  -- The five control characters with a letter of their own, and all others by number.
  split
  case isTrue h => subst h; exact readCharacters_short (by decide) rfl rest
  split
  case isTrue h => subst h; exact readCharacters_short (by decide) rfl rest
  split
  case isTrue h => subst h; exact readCharacters_short (by decide) rfl rest
  split
  case isTrue h => subst h; exact readCharacters_short (by decide) rfl rest
  split
  case isTrue h => subst h; exact readCharacters_short (by decide) rfl rest
  exact readCharacters_control (Nat.lt_of_not_le hc) rest

theorem readCharacters_escaped (cs rest : List Char) :
    readCharacters (cs.flatMap escapeChar ++ '"' :: rest) = some (cs, rest) := by
  induction cs with
  | nil => rw [List.flatMap_nil, List.nil_append, readCharacters]
  | cons c cs ih =>
    rw [List.flatMap_cons, List.append_assoc, readCharacters_escapeChar, ih]
    rfl

variable {ε : Type}

/-- A text is read from behind its opening quote. -/
theorem readText_escaped (s : String) (rest : List Char) :
    readText (ε := ε) (s.toList.flatMap escapeChar ++ '"' :: rest) = .ok (s, rest) := by
  rw [readText, readCharacters_escaped]
  simp only [String.ofList_toList]

/-! ## Numbers -/

/-- What may follow a value does not go on with a number. -/
theorem BehindValue.not_number {rest : List Char} (h : BehindValue rest) {c : Char}
    (hc : c ∈ rest.head?) : c.isDigit = false ∧ c ≠ '.' ∧ c ≠ 'e' ∧ c ≠ 'E' := by
  rcases h c hc with hspace | rfl | rfl | rfl
  · simp only [isSpace, Bool.or_eq_true, beq_iff_eq] at hspace
    rcases hspace with ((rfl | rfl) | rfl) | rfl <;> decide
  all_goals decide

theorem takeWhile_digits {ds rest : List Char} (hds : ∀ c ∈ ds, c.isDigit = true)
    (hrest : BehindValue rest) :
    (ds ++ rest).takeWhile Char.isDigit = ds ∧ (ds ++ rest).dropWhile Char.isDigit = rest := by
  rw [List.takeWhile_append_of_pos hds, List.dropWhile_append_of_pos hds]
  cases rest with
  | nil => simp
  | cons c rest => simp [(hrest.not_number (c := c) rfl).1]

/-- Digits that fit a word are all taken. -/
theorem foldl_add {ds : List Char} {n : Nat} (h : Nat.ofDigitChars 10 ds n < UInt64.size) :
    ds.foldl (Significand.add 0 1) ⟨n, 0, false⟩ = ⟨Nat.ofDigitChars 10 ds n, 0, false⟩ := by
  induction ds generalizing n with
  | nil => rfl
  | cons d ds ih =>
    rw [Nat.ofDigitChars_cons] at h ⊢
    have hnext : 10 * n + (d.toNat - '0'.toNat) < UInt64.size :=
      Nat.lt_of_le_of_lt (Text.le_ofDigitChars ds _) h
    have hadd : Significand.add 0 1 ⟨n, 0, false⟩ d =
        ⟨10 * n + (d.toNat - '0'.toNat), 0, false⟩ := by
      simp only [Significand.add, Bool.false_or, decide_eq_true_eq, if_neg (Nat.not_le.2 hnext),
        Int.add_zero]
    rw [List.foldl_cons, hadd, ih h]

/-- A written number has no zero in front of others. -/
theorem eq_zero_of_head?_toDigits {n : Nat} (h : (Nat.toDigits 10 n).head? = some '0') : n = 0 := by
  induction n using Nat.strongRecOn with
  | ind n ih =>
    rw [Nat.toDigits_eq_if (by decide)] at h
    split at h
    case isTrue hlt =>
      rw [List.head?_cons, Option.some.injEq, Nat.digitChar_eq_zero] at h
      exact h
    case isFalse hge =>
      rw [List.head?_append, List.head?_eq_some_head Nat.toDigits_ne_nil, Option.some_or,
        ← List.head?_eq_some_head Nat.toDigits_ne_nil] at h
      have hzero := ih (n / 10) (by omega) h
      omega

theorem readMagnitude_toDigits (negative : Bool) {n : Nat} (hn : n < UInt64.size)
    {rest : List Char} (hrest : BehindValue rest) :
    readMagnitude negative (Nat.toDigits 10 n ++ rest) = some (integerOf negative n, rest) := by
  have hdigits : ∀ c ∈ Nat.toDigits 10 n, c.isDigit = true :=
    fun c hc => Nat.isDigit_of_mem_toDigits (by decide) (by decide) hc
  obtain ⟨htake, hdrop⟩ := takeWhile_digits hdigits hrest
  have hlead : ((Nat.toDigits 10 n).isEmpty || ((Nat.toDigits 10 n).head? = some '0' &&
      decide (1 < (Nat.toDigits 10 n).length))) = false := by
    rw [Bool.or_eq_false_iff, Bool.and_eq_false_iff, decide_eq_false_iff_not,
      decide_eq_false_iff_not, List.isEmpty_eq_false_iff]
    refine ⟨Nat.toDigits_ne_nil, ?_⟩
    by_cases hzero : n = 0
    · subst hzero
      exact .inr (by decide)
    · exact .inl fun hhead => hzero (eq_zero_of_head?_toDigits hhead)
  have hfold := @foldl_add (Nat.toDigits 10 n) 0
    (by rw [Nat.ofDigitChars_ten_toDigits]; exact hn)
  rw [Nat.ofDigitChars_ten_toDigits] at hfold
  simp only [readMagnitude, htake, hdrop, hlead, hfold, Bool.false_eq_true, if_false]
  split
  case h_1 => exact absurd rfl (hrest.not_number rfl).2.1
  case h_2 => exact absurd rfl (hrest.not_number rfl).2.2.1
  case h_3 => exact absurd rfl (hrest.not_number rfl).2.2.2
  case h_4 => rfl

/-- A number that is read as it was written: an integer that fits a word with or without sign, or a
negative zero. -/
def Number.Exact : Number → Prop
  | .integer n => -(UInt64.size / 2 : Nat) ≤ n ∧ n < UInt64.size
  | .real x => x = zero true

/-- An integer literal that fits a word is read as such a number. -/
theorem Number.exact_integerOf {negative : Bool} {digits : Nat} (h : digits < UInt64.size)
    (hneg : negative = true → digits ≤ UInt64.size / 2) : (integerOf negative digits).Exact := by
  cases negative with
  | false => exact ⟨by omega, Int.ofNat_lt.2 h⟩
  | true =>
    by_cases hzero : digits = 0
    · subst hzero
      rfl
    · have hfits : (decide (0 < digits) && decide (digits ≤ UInt64.size / 2)) = true := by
        rw [Bool.and_eq_true, decide_eq_true_eq, decide_eq_true_eq]
        exact ⟨Nat.pos_of_ne_zero hzero, hneg rfl⟩
      rw [integerOf, if_neg (by decide), if_pos hfits]
      have hle := hneg rfl
      refine ⟨by omega, ?_⟩
      have hpos : (0 : Int) < UInt64.size := by decide
      omega

theorem readNumber_negativeZero {rest : List Char} (hrest : BehindValue rest) :
    readNumber ('-' :: '0' :: '.' :: '0' :: rest) = some (.real (zero true), rest) := by
  have hzero : ∀ c ∈ ['0'], c.isDigit = true := List.forall_mem_singleton.2 rfl
  obtain ⟨htake, hdrop⟩ := takeWhile_digits hzero hrest
  rw [List.singleton_append] at htake hdrop
  have hwhole : ('0' :: '.' :: '0' :: rest).takeWhile Char.isDigit = ['0'] ∧
      ('0' :: '.' :: '0' :: rest).dropWhile Char.isDigit = '.' :: '0' :: rest := by
    constructor <;> rfl
  have hmagnitude : magnitude? 0 (-1) = some (zero false) := by decide +kernel
  simp only [readNumber, readMagnitude, hwhole, readFraction, htake, hdrop]
  -- All digits are known, so only what follows them is left to decide.
  change readTail true ⟨0, -1, false⟩ rest = _
  unfold readTail
  split
  case h_1 => exact absurd rfl (hrest.not_number rfl).2.2.1
  case h_2 => exact absurd rfl (hrest.not_number rfl).2.2.2
  case h_3 => rw [hmagnitude]; rfl

theorem readNumber_of_isDigit {cs : List Char} (h : ∀ c ∈ cs.head?, c.isDigit = true) :
    readNumber cs = readMagnitude false cs := by
  unfold readNumber
  split
  case h_1 => exact absurd (h _ rfl) (by decide)
  case h_2 => rfl

theorem Number.write_ofNat (m : Nat) :
    (Number.integer (.ofNat m)).write.toList = Nat.toDigits 10 m := by
  change (Nat.repr m).toList = _
  rw [Nat.repr_eq_ofList_toDigits, String.toList_ofList]

theorem Number.write_negSucc (m : Nat) :
    (Number.integer (.negSucc m)).write.toList = '-' :: Nat.toDigits 10 (m + 1) := by
  change ("-" ++ Nat.repr (m + 1)).toList = _
  simp [Nat.repr_eq_ofList_toDigits]

/-- A number starts with a digit or a sign. -/
theorem Number.Exact.exists_cons {n : Number} (hn : n.Exact) :
    ∃ c cs, n.write.toList = c :: cs ∧ (c = '-' ∨ c.isDigit = true) := by
  match n, hn with
  | .integer (.ofNat m), _ =>
    obtain ⟨c, cs, hcs⟩ := List.exists_cons_of_ne_nil (Nat.toDigits_ne_nil (b := 10) (n := m))
    have hc : c ∈ Nat.toDigits 10 m := hcs ▸ List.mem_cons_self
    exact ⟨c, cs, by rw [Number.write_ofNat, hcs],
      .inr (Nat.isDigit_of_mem_toDigits (by decide) (by decide) hc)⟩
  | .integer (.negSucc m), _ => exact ⟨_, _, Number.write_negSucc m, .inl rfl⟩
  | .real x, hn =>
    obtain rfl : x = zero true := hn
    exact ⟨'-', _, rfl, .inl rfl⟩

/-- A number is read as it was written. -/
theorem readNumber_write {n : Number} (hn : n.Exact) {rest : List Char} (hrest : BehindValue rest) :
    readNumber (n.write.toList ++ rest) = some (n, rest) := by
  match n, hn with
  | .integer (.ofNat m), hn =>
    have hm : m < UInt64.size := Int.ofNat_lt.1 hn.2
    have hfirst : ∀ c ∈ (Nat.toDigits 10 m ++ rest).head?, c.isDigit = true := by
      intro c hc
      rw [List.head?_append, List.head?_eq_some_head Nat.toDigits_ne_nil, Option.some_or,
        Option.mem_some_iff] at hc
      exact Nat.isDigit_of_mem_toDigits (by decide) (by decide) (hc ▸ List.head_mem _)
    rw [Number.write_ofNat, readNumber_of_isDigit hfirst, readMagnitude_toDigits false hm hrest]
    rfl
  | .integer (.negSucc m), hn =>
    have hm : m + 1 ≤ UInt64.size / 2 := by
      have hlow := hn.1
      omega
    rw [Number.write_negSucc, List.cons_append]
    change readMagnitude true (Nat.toDigits 10 (m + 1) ++ rest) = _
    rw [readMagnitude_toDigits true (by simp only [UInt64.size] at hm ⊢; omega) hrest]
    simp only [integerOf, Bool.not_true, Bool.false_eq_true, if_false, hm, Nat.succ_pos,
      decide_true, Bool.and_self, if_true]
    rfl
  | .real x, hn =>
    obtain rfl : x = zero true := hn
    exact readNumber_negativeZero hrest

/-! ## Numbers that are words -/

theorem Value.word?_nat (n : UInt64) : (Value.nat n.toNat).word? = some n := by
  have hlt : (0 ≤ (n.toNat : Int) && (n.toNat : Int) < UInt64.size) = true := by
    rw [Bool.and_eq_true, decide_eq_true_eq, decide_eq_true_eq]
    exact ⟨Int.natCast_nonneg _, Int.ofNat_lt.2 n.toNat_lt_size⟩
  rw [Value.nat, Value.word?, if_pos hlt, Int.toNat_natCast, UInt64.ofNat_toNat]

theorem Value.word?_eq_some_iff {value : Value} {n : UInt64} :
    value.word? = some n ↔ value = .nat n.toNat := by
  constructor
  · intro h
    unfold Value.word? at h
    split at h
    case h_1 m =>
      split at h
      case isTrue hm =>
        obtain rfl := Option.some.inj h
        rw [Bool.and_eq_true, decide_eq_true_eq, decide_eq_true_eq] at hm
        have hlt : m.toNat < UInt64.size := by omega
        rw [Value.nat, UInt64.toNat_ofNat_of_lt' hlt, Int.toNat_of_nonneg hm.1]
      case isFalse => simp at h
    case h_2 => simp at h
  · rintro rfl
    exact Value.word?_nat n

end RaidProvision.Json
