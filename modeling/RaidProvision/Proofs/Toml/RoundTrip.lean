import Mathlib.Tactic.NormNum
import RaidProvision.Proofs.Json.Scalar
import RaidProvision.Toml.Printer
import RaidProvision.Toml.Reader

/-!
# Reading back TOML

What is written to a document is read again statement by statement. A text stands between double
quotes with escapes, or between single quotes as it is; in both cases the value ends with its line.
A table is a header and an assignment for each of its keys, and following these statements puts the
table behind those that were there before.

* `readBasic_escapeChar`, `readBasic_escaped`: a text in double quotes, one character at a time.
* `readValue_quote`, `readValue_repr`: texts of one line, and numbers.
* `readStatement_header`, `readStatement_assignment`: one line of a document.
* `reads_documentText`: the statements of a document that is written.
* `Table.follow_statements`, `ofStatements_tables`: what the statements of tables come to.
* `readDocument_documentText`: a document that is written is read again.
-/
namespace RaidProvision.Toml

open RaidProvision.Binary64
open RaidProvision.Json (hexDigit?)

/-! ## Texts -/

/-- A text of one line: no character controls, except tabs, and there is no single quote together
with a double quote or a backslash. -/
structure OneLine (s : String) : Prop where
  plain : ∀ c ∈ s.toList, c ≠ '\t' → 0x20 ≤ c.toNat ∧ c.toNat ≠ 0x7F
  quotes : '\'' ∈ s.toList → '"' ∉ s.toList ∧ '\\' ∉ s.toList

/-- Whether a text is of one line, as a computation. -/
def isOneLine (cs : List Char) : Bool :=
  cs.all isPlain && (!cs.contains '\'' || (!cs.contains '"' && !cs.contains '\\'))

theorem oneLine_of_isOneLine {s : String} (h : isOneLine s.toList = true) : OneLine s := by
  rw [isOneLine, Bool.and_eq_true, List.all_eq_true] at h
  refine ⟨?_, ?_⟩
  · intro c hc htab
    have hplain := h.1 c hc
    simp only [isPlain, Bool.or_eq_true, beq_iff_eq, Bool.and_eq_true, decide_eq_true_eq,
      bne_iff_ne] at hplain
    exact hplain.resolve_left htab
  · intro hquote
    simpa [hquote] using h.2

theorem OneLine.isPlain {s : String} (h : OneLine s) : ∀ c ∈ s.toList, isPlain c = true := by
  intro c hc
  by_cases htab : c = '\t'
  · rw [htab]
    rfl
  · obtain ⟨hlow, hdel⟩ := h.plain c hc htab
    simp [Toml.isPlain, hlow, hdel]

theorem OneLine.newline_not_mem {s : String} (h : OneLine s) : '\n' ∉ s.toList := by
  intro hmem
  exact absurd (h.isPlain _ hmem) (by decide)

theorem hexDigit?_capitalDigit : ∀ n < 16, hexDigit? (capitalDigit n) = some n := by decide

theorem readBasic_short {e c : Char} (hu : e ≠ 'u') (hU : e ≠ 'U') (hc : shortEscape? e = some c)
    (rest : List Char) : readBasic ('\\' :: e :: rest) = consRead (some c) (readBasic rest) := by
  rw [readBasic, hc]
  · exact fun _ _ _ _ _ h => absurd h hu
  · exact fun _ _ _ _ _ _ _ _ _ h => absurd h hU

theorem readBasic_plain {c : Char} (hq : c ≠ '"') (hb : c ≠ '\\') (hc : isPlain c = true)
    (rest : List Char) : readBasic (c :: rest) = consRead (some c) (readBasic rest) := by
  rw [readBasic, if_pos hc]
  · exact hq
  · exact fun _ _ _ _ _ h => absurd h hb
  · exact fun _ _ _ _ _ _ _ _ _ h => absurd h hb
  · exact fun _ _ h => absurd h hb

/-- A character that controls is read from its number. -/
theorem readBasic_control {c : Char} (hc : c.toNat < 0x80) (rest : List Char) :
    readBasic ('\\' :: 'u' :: '0' :: '0' :: capitalDigit (c.toNat / 16) ::
      capitalDigit (c.toNat % 16) :: rest) = consRead (some c) (readBasic rest) := by
  have hhigh := hexDigit?_capitalDigit (c.toNat / 16) (by omega)
  have hlow := hexDigit?_capitalDigit (c.toNat % 16) (by omega)
  have hzero : hexDigit? '0' = some 0 := by decide
  have hnumber : hexNumber? ['0', '0', capitalDigit (c.toNat / 16), capitalDigit (c.toNat % 16)] =
      some c.toNat := by
    simp only [hexNumber?, List.foldl_cons, List.foldl_nil, hhigh, hlow, hzero,
      Option.bind_eq_bind, Option.bind_some, pure, Option.some.injEq]
    omega
  have hscalar : scalar? c.toNat = some c := by
    rw [scalar?, if_pos, Char.ofNat_toNat]
    simp only [Bool.or_eq_true, decide_eq_true_eq]
    omega
  rw [readBasic, hnumber, Option.bind_some, hscalar]

/-- A character is read from its own written form. -/
theorem readBasic_escapeChar (c : Char) (rest : List Char) :
    readBasic (escapeChar c ++ rest) = consRead (some c) (readBasic rest) := by
  unfold escapeChar
  split
  case isTrue h => subst h; exact readBasic_short (by decide) (by decide) rfl rest
  split
  case isTrue h => subst h; exact readBasic_short (by decide) (by decide) rfl rest
  split
  case isTrue h => subst h; exact readBasic_short (by decide) (by decide) rfl rest
  split
  case isTrue h => subst h; exact readBasic_short (by decide) (by decide) rfl rest
  split
  case isTrue h => subst h; exact readBasic_short (by decide) (by decide) rfl rest
  split
  case isTrue h => subst h; exact readBasic_short (by decide) (by decide) rfl rest
  split
  case isTrue h => subst h; exact readBasic_short (by decide) (by decide) rfl rest
  split
  case isTrue h =>
    simp only [Bool.or_eq_true, decide_eq_true_eq] at h
    exact readBasic_control (by omega) rest
  case isFalse hq hb _ _ _ _ _ h =>
    simp only [Bool.or_eq_true, decide_eq_true_eq, not_or, Nat.not_lt] at h
    exact readBasic_plain hq hb (by simp [isPlain, h]) rest

theorem readBasic_escaped (cs rest : List Char) :
    readBasic (cs.flatMap escapeChar ++ '"' :: rest) = some (cs, rest) := by
  induction cs with
  | nil => rw [List.flatMap_nil, List.nil_append, readBasic]
  | cons c cs ih =>
    rw [List.flatMap_cons, List.append_assoc, readBasic_escapeChar, ih]
    rfl

theorem readLiteral_plain {cs : List Char} (h : ∀ c ∈ cs, isPlain c = true)
    (hquote : '\'' ∉ cs) (rest : List Char) :
    readLiteral (cs ++ '\'' :: rest) = some (cs, rest) := by
  induction cs with
  | nil => rw [List.nil_append, readLiteral]
  | cons c cs ih =>
    rw [List.mem_cons, not_or] at hquote
    rw [List.cons_append, readLiteral, if_pos (h c List.mem_cons_self),
      ih (fun d hd => h d (List.mem_cons_of_mem _ hd)) hquote.2]
    · rfl
    · exact Ne.symm hquote.1

/-- The written form of a text of one line. -/
theorem OneLine.quote_eq {s : String} (h : OneLine s) :
    quote s.toList = '"' :: s.toList.flatMap escapeChar ++ ['"'] ∨
      quote s.toList = '\'' :: s.toList ++ ['\''] ∧ '\'' ∉ s.toList := by
  have hline : s.toList.contains '\n' = false := by simpa using h.newline_not_mem
  unfold quote
  rw [hline]
  by_cases hliteral : (s.toList.any prefersLiteral && s.toList.all allowsLiteral &&
      hasFewQuotes s.toList) = true
  · have hquote : '\'' ∉ s.toList := by
      intro hmem
      obtain ⟨hdouble, hback⟩ := h.quotes hmem
      simp only [Bool.and_eq_true, List.any_eq_true, prefersLiteral, Bool.or_eq_true,
        beq_iff_eq] at hliteral
      obtain ⟨⟨⟨c, hc, rfl | rfl⟩, -⟩, -⟩ := hliteral
      · exact hdouble hc
      · exact hback hc
    right
    simp [hliteral, hquote]
  · left
    simp [hliteral]

/-- No written character starts with a double quote. -/
theorem escapeChar_eq_cons (c : Char) : ∃ d ds, escapeChar c = d :: ds ∧ d ≠ '"' := by
  unfold escapeChar
  by_cases hquote : c = '"'
  · exact ⟨'\\', _, by rw [if_pos hquote], by decide⟩
  · rw [if_neg hquote]
    repeat' split
    all_goals first | exact ⟨'\\', _, rfl, by decide⟩ | exact ⟨c, _, rfl, hquote⟩

theorem readText_basic {cs : List Char} (h : ∀ rest, cs ≠ '"' :: '"' :: rest) :
    readText ('"' :: cs) = readBasic cs := by
  rw [readText]
  exact h

theorem readText_literal {cs : List Char} (h : ∀ rest, cs ≠ '\'' :: '\'' :: rest) :
    readText ('\'' :: cs) = readLiteral cs := by
  rw [readText]
  exact h

variable (depth : Nat) (rest : List Char)

/-- A text of one line is the value that is read from its written form. -/
theorem readValue_quote {s : String} (h : OneLine s) :
    readValue depth (quote s.toList ++ '\n' :: rest) = some (.text s, '\n' :: rest) := by
  rcases h.quote_eq with hq | ⟨hq, hquote⟩
  · have hopen : ∀ tail, s.toList.flatMap escapeChar ++ '"' :: '\n' :: rest ≠
        '"' :: '"' :: tail := by
      intro tail heq
      cases hs : s.toList with
      | nil => simp [hs] at heq
      | cons c cs =>
        obtain ⟨d, ds, hd, hne⟩ := escapeChar_eq_cons c
        rw [hs, List.flatMap_cons, hd, List.append_assoc, List.cons_append] at heq
        exact hne (List.cons.inj heq).1
    have hread : readText ('"' :: (s.toList.flatMap escapeChar ++ '"' :: '\n' :: rest)) =
        some (s.toList, '\n' :: rest) := by
      rw [readText_basic hopen, readBasic_escaped]
    rw [hq, List.cons_append, List.cons_append, List.append_assoc, List.singleton_append]
    simp only [readValue, hread, Option.map_some, String.ofList_toList]
  · have hopen : ∀ tail, s.toList ++ '\'' :: '\n' :: rest ≠ '\'' :: '\'' :: tail := by
      intro tail heq
      cases hs : s.toList with
      | nil => simp [hs] at heq
      | cons c cs =>
        rw [hs, List.cons_append] at heq
        rw [hs, (List.cons.inj heq).1] at hquote
        exact hquote List.mem_cons_self
    have hread : readText ('\'' :: (s.toList ++ '\'' :: '\n' :: rest)) =
        some (s.toList, '\n' :: rest) := by
      rw [readText_literal hopen, readLiteral_plain h.isPlain hquote]
    rw [hq, List.cons_append, List.cons_append, List.append_assoc, List.singleton_append]
    simp only [readValue, hread, Option.map_some, String.ofList_toList]

/-! ## Numbers -/

/-- Digits of a written number are those of a whole number. -/
theorem wholeDigits?_toDigits (n : Nat) :
    wholeDigits? (Nat.toDigits 10 n) = some (Nat.toDigits 10 n) := by
  have hdigits : ∀ c ∈ Nat.toDigits 10 n, c.isDigit = true :=
    fun c hc => Nat.isDigit_of_mem_toDigits (by decide) (by decide) hc
  have hunderscore : '_' ∉ Nat.toDigits 10 n := fun hmem => absurd (hdigits _ hmem) (by decide)
  have hsplit : (Nat.toDigits 10 n).splitOn '_' = [Nat.toDigits 10 n] :=
    List.splitOn_eq_singleton hunderscore
  have hgroups : groupedDigits? Char.isDigit (Nat.toDigits 10 n) = some (Nat.toDigits 10 n) := by
    have hall : (Nat.toDigits 10 n).all Char.isDigit = true := List.all_eq_true.2 hdigits
    simp [groupedDigits?, hsplit, hall, Nat.toDigits_ne_nil]
  have hlead : ¬ (1 < (Nat.toDigits 10 n).length ∧ (Nat.toDigits 10 n).head? = some '0') := by
    rintro ⟨hlength, hhead⟩
    rw [Json.eq_zero_of_head?_toDigits hhead] at hlength
    exact absurd hlength (by decide)
  simp [wholeDigits?, hgroups, hlead]

theorem integer?_natCast {n : Nat} (h : n < 2 ^ 63) : integer? n = some (.integer n) := by
  have hsize : integerLimit = 9223372036854775808 := by
    rw [integerLimit, UInt64.size]
    norm_num
  have hlimit : (-integerLimit ≤ (n : Int) && (n : Int) < integerLimit) = true := by
    rw [Bool.and_eq_true, decide_eq_true_eq, decide_eq_true_eq, hsize]
    omega
  rw [integer?, if_pos hlimit]

/-- What is not a digit is in no written number. -/
theorem ne_of_mem_toDigits {n : Nat} {c d : Char} (hc : c ∈ Nat.toDigits 10 n)
    (hd : d.isDigit = false) : c ≠ d := by
  rintro rfl
  rw [Nat.isDigit_of_mem_toDigits (by decide) (by decide) hc] at hd
  cases hd

theorem signed_toDigits (n : Nat) : signed (Nat.toDigits 10 n) = (false, Nat.toDigits 10 n) := by
  unfold signed
  split
  case h_1 rest heq =>
    have hmem : '+' ∈ Nat.toDigits 10 n := by rw [heq]; exact List.mem_cons_self
    exact absurd rfl (ne_of_mem_toDigits hmem rfl)
  case h_2 rest heq =>
    have hmem : '-' ∈ Nat.toDigits 10 n := by rw [heq]; exact List.mem_cons_self
    exact absurd rfl (ne_of_mem_toDigits hmem rfl)
  case h_3 => rfl

theorem decimalInteger?_toDigits (n : Nat) :
    decimalInteger? (Nat.toDigits 10 n) = integer? (n : Int) := by
  have hvalue : ofDigits (Nat.toDigits 10 n) = n := Nat.ofDigitChars_ten_toDigits
  unfold decimalInteger?
  rw [signed_toDigits]
  dsimp only
  rw [wholeDigits?_toDigits, Option.bind_eq_bind, Option.bind_some, if_neg Bool.false_ne_true,
    hvalue]

/-- A date has dashes and a time colons. -/
theorem isMoment_of_not_mem {cs : List Char} (hdash : '-' ∉ cs) (hcolon : ':' ∉ cs) :
    isMoment cs = false := by
  have hdate : afterDate? cs = none := by
    unfold afterDate?
    split
    · simp at hdash
    · rfl
  have htime : afterTime? cs = none := by
    have hminutes : afterMinutes? cs = none := by
      unfold afterMinutes?
      split
      · simp at hcolon
      · rfl
    rw [afterTime?, hminutes]
    rfl
  simp [isMoment, hdate, htime]

theorem word?_toDigits {n : Nat} (h : n < 2 ^ 63) :
    word? (Nat.toDigits 10 n) = some (.integer n) := by
  have hother : ∀ c, c.isDigit = false → c ∉ Nat.toDigits 10 n :=
    fun c hc hmem => ne_of_mem_toDigits hmem hc rfl
  have htrue : Nat.toDigits 10 n ≠ "true".toList := by
    intro heq
    exact hother 't' rfl (by rw [heq]; decide)
  have hfalse : Nat.toDigits 10 n ≠ "false".toList := by
    intro heq
    exact hother 'f' rfl (by rw [heq]; decide)
  rw [word?, if_neg htrue, if_neg hfalse, isMoment_of_not_mem (hother _ rfl) (hother _ rfl),
    if_neg Bool.false_ne_true, decimalInteger?_toDigits, integer?_natCast h]
  rfl

/-- A number that fits a word with sign is the value that is read from its digits. -/
theorem readValue_repr {n : Nat} (h : n < 2 ^ 63) :
    readValue depth ((Nat.repr n).toList ++ '\n' :: rest) = some (.integer n, '\n' :: rest) := by
  have hpart : ∀ c ∈ Nat.toDigits 10 n, isWordPart c = true := by
    intro c hc
    have hne := fun d => @ne_of_mem_toDigits n c d hc
    simp [isWordPart, isGap, hne ' ' rfl, hne '\t' rfl, hne '\n' rfl, hne '#' rfl, hne ',' rfl,
      hne ']' rfl, hne '\x7d' rfl]
  have htake : (Nat.toDigits 10 n ++ '\n' :: rest).takeWhile isWordPart = Nat.toDigits 10 n := by
    rw [List.takeWhile_append_of_pos hpart]
    exact List.append_nil _
  have hdrop : (Nat.toDigits 10 n ++ '\n' :: rest).dropWhile isWordPart = '\n' :: rest := by
    rw [List.dropWhile_append_of_pos hpart]
    rfl
  have hword : readWord (Nat.toDigits 10 n ++ '\n' :: rest) =
      some (.integer n, '\n' :: rest) := by
    simp only [readWord, htake, hdrop, word?_toDigits h, Option.map_some]
    rfl
  rw [Nat.repr_eq_ofList_toDigits, String.toList_ofList]
  -- None of the marks of another kind of value is a digit.
  obtain ⟨d, ds, hcons⟩ := List.exists_cons_of_ne_nil (@Nat.toDigits_ne_nil n 10)
  have hfirst : ∀ c, c.isDigit = false → d ≠ c := fun c hc =>
    @ne_of_mem_toDigits n d c (by rw [hcons]; exact List.mem_cons_self) hc
  rw [hcons, List.cons_append] at hword ⊢
  unfold readValue
  split
  case h_1 heq => exact absurd (List.cons.inj heq).1 (hfirst _ rfl)
  case h_2 heq => exact absurd (List.cons.inj heq).1 (hfirst _ rfl)
  case h_3 heq => exact absurd (List.cons.inj heq).1 (hfirst _ rfl)
  case h_4 heq => exact absurd (List.cons.inj heq).1 (hfirst _ rfl)
  case h_5 => exact hword

/-! ## What a value looks like -/

/-- Characters that are written as a value: this value is read from them up to the end of the line,
and they start with no gap and hold nothing that controls. -/
structure Written (cs : List Char) (value : Value) : Prop where
  read : ∀ depth rest, readValue depth (cs ++ '\n' :: rest) = some (value, '\n' :: rest)
  flush : ∀ rest, skipGap (cs ++ '\n' :: rest) = cs ++ '\n' :: rest
  plain : ∀ c ∈ cs, isPlain c = true

theorem isPlain_capitalDigit : ∀ n < 16, isPlain (capitalDigit n) = true := by decide

/-- The written form of a character holds nothing that controls. -/
theorem isPlain_escapeChar (c : Char) : (escapeChar c).all isPlain = true := by
  unfold escapeChar
  by_cases h : (c.toNat < 0x20 || c.toNat = 0x7F) = true
  · have hsmall : c.toNat < 0x80 := by
      simp only [Bool.or_eq_true, decide_eq_true_eq] at h
      omega
    have hhigh := isPlain_capitalDigit (c.toNat / 16) (by omega)
    have hlow := isPlain_capitalDigit (c.toNat % 16) (by omega)
    rw [if_pos h]
    repeat' split
    all_goals first | rfl | (simp only [List.all_cons, hhigh, hlow]; rfl)
  · rw [if_neg h]
    simp only [Bool.or_eq_true, decide_eq_true_eq, not_or, Nat.not_lt] at h
    repeat' split
    all_goals first | rfl | simp [isPlain, h]

theorem isPlain_of_isAlphanum {c : Char} (h : c.isAlphanum = true) : isPlain c = true := by
  have hsmall : ∀ n < 0x80, (Char.ofNat n).isAlphanum = true → isPlain (Char.ofNat n) = true := by
    decide
  by_cases hc : c.toNat < 0x80
  · have hplain := hsmall c.toNat hc
    rw [Char.ofNat_toNat] at hplain
    exact hplain h
  · have hrange : 0x20 ≤ c.toNat ∧ c.toNat ≠ 0x7F := by omega
    simp [isPlain, hrange]

theorem written_quote {s : String} (h : OneLine s) : Written (quote s.toList) (.text s) where
  read depth rest := readValue_quote depth rest h
  flush rest := by
    rcases h.quote_eq with hq | ⟨hq, -⟩
    · rw [hq]
      rfl
    · rw [hq]
      rfl
  plain := by
    intro c hc
    rcases h.quote_eq with hq | ⟨hq, -⟩
    · rw [hq, List.mem_append, List.mem_cons, List.mem_singleton] at hc
      rcases hc with (rfl | hc) | rfl
      · rfl
      · obtain ⟨d, -, hd⟩ := List.mem_flatMap.1 hc
        exact List.all_eq_true.1 (isPlain_escapeChar d) c hd
      · rfl
    · rw [hq, List.mem_append, List.mem_cons, List.mem_singleton] at hc
      rcases hc with (rfl | hc) | rfl
      · rfl
      · exact h.isPlain c hc
      · rfl

theorem written_repr {n : Nat} (h : n < 2 ^ 63) : Written (Nat.repr n).toList (.integer n) := by
  have hlist : (Nat.repr n).toList = Nat.toDigits 10 n := by
    rw [Nat.repr_eq_ofList_toDigits, String.toList_ofList]
  refine ⟨fun depth rest => readValue_repr depth rest h, fun rest => ?_, ?_⟩
  · obtain ⟨d, ds, hcons⟩ := List.exists_cons_of_ne_nil (@Nat.toDigits_ne_nil n 10)
    have hd : d ∈ Nat.toDigits 10 n := by
      rw [hcons]
      exact List.mem_cons_self
    have hgap : isGap d = false := by
      simp [isGap, ne_of_mem_toDigits hd (d := ' ') rfl, ne_of_mem_toDigits hd (d := '\t') rfl]
    rw [hlist, hcons, List.cons_append, skipGap, List.dropWhile_cons_of_neg (by simp [hgap])]
  · intro c hc
    rw [hlist] at hc
    have hdigit := Nat.isDigit_of_mem_toDigits (by decide) (by decide) hc
    exact isPlain_of_isAlphanum (by simp [Char.isAlphanum, hdigit])

/-! ## Keys -/

/-- Keys that need no quotes. -/
structure BareKey (key : String) : Prop where
  ne_nil : key.toList ≠ []
  bare : ∀ c ∈ key.toList, isBare c = true

theorem bareKey_of_all {key : String}
    (h : (!key.toList.isEmpty && key.toList.all isBare) = true) : BareKey key := by
  rw [Bool.and_eq_true, List.all_eq_true] at h
  refine ⟨?_, h.2⟩
  intro hnil
  rw [hnil] at h
  exact absurd h.1 (by decide)

theorem isGap_of_isBare {c : Char} (h : isBare c = true) : isGap c = false := by
  rw [isGap, Bool.or_eq_false_iff, beq_eq_false_iff_ne, beq_eq_false_iff_ne]
  refine ⟨?_, ?_⟩
  · rintro rfl
    exact absurd h (by decide)
  · rintro rfl
    exact absurd h (by decide)

namespace BareKey

variable {key : String} (h : BareKey key)
include h

/-- A bare key starts with a character that is none of the marks of a document. -/
theorem exists_cons : ∃ c cs, key.toList = c :: cs ∧ isGap c = false ∧ c ≠ '"' ∧ c ≠ '\'' ∧
    c ≠ '[' ∧ c ≠ '#' ∧ c ≠ '\n' := by
  obtain ⟨c, cs, hcons⟩ := List.exists_cons_of_ne_nil h.ne_nil
  have hc : isBare c = true := h.bare c (by rw [hcons]; exact List.mem_cons_self)
  have hne : ∀ d, isBare d = false → c ≠ d := by
    rintro d hd rfl
    rw [hc] at hd
    cases hd
  exact ⟨c, cs, hcons, isGap_of_isBare hc, hne _ (by decide), hne _ (by decide),
    hne _ (by decide), hne _ (by decide), hne _ (by decide)⟩

theorem skipGap_append (rest : List Char) :
    skipGap (key.toList ++ rest) = key.toList ++ rest := by
  obtain ⟨c, cs, hcons, hgap, -⟩ := h.exists_cons
  rw [hcons, List.cons_append, skipGap, List.dropWhile_cons_of_neg (by simp [hgap])]

/-- A line that starts with a bare key is neither empty nor a comment. -/
theorem endLine_append (rest : List Char) : endLine (key.toList ++ rest) = none := by
  obtain ⟨c, cs, hcons, -, -, -, -, hcomment, hbreak⟩ := h.exists_cons
  rw [endLine, h.skipGap_append, hcons, List.cons_append]
  split
  case h_1 heq => exact absurd (List.cons.inj heq).1 hcomment
  case h_2 =>
    unfold lineBreak
    split
    case h_1 heq => cases heq
    case h_2 heq => exact absurd (List.cons.inj heq).1 hbreak
    case h_3 => rfl

theorem readSimpleKey_append {c : Char} (hc : isBare c = false) (rest : List Char) :
    readSimpleKey (key.toList ++ c :: rest) = some (key, c :: rest) := by
  have htake : (key.toList ++ c :: rest).takeWhile isBare = key.toList := by
    rw [List.takeWhile_append_of_pos h.bare, List.takeWhile_cons_of_neg (by simp [hc]),
      List.append_nil]
  have hdrop : (key.toList ++ c :: rest).dropWhile isBare = c :: rest := by
    rw [List.dropWhile_append_of_pos h.bare, List.dropWhile_cons_of_neg (by simp [hc])]
  obtain ⟨d, ds, hcons, -, hquote, hsingle, -⟩ := h.exists_cons
  unfold readSimpleKey
  split
  case h_1 heq =>
    rw [hcons, List.cons_append] at heq
    exact absurd (List.cons.inj heq).1 hquote
  case h_2 heq =>
    rw [hcons, List.cons_append] at heq
    exact absurd (List.cons.inj heq).1 hsingle
  case h_3 =>
    have hempty : key.toList.isEmpty = false := by simp [hcons]
    simp only [htake, hdrop, hempty, Bool.false_eq_true, if_false, String.ofList_toList]

/-- A bare key is read up to what stands behind it, unless that is a point. -/
theorem readKeys_append {c : Char} {rest : List Char} (hc : isBare c = false)
    (hpoint : ∀ tail, skipGap (c :: rest) ≠ '.' :: tail) :
    readKeys (key.toList ++ c :: rest) = some ([key], skipGap (c :: rest)) := by
  obtain ⟨fuel, hfuel⟩ : ∃ fuel, (key.toList ++ c :: rest).length = fuel + 1 :=
    ⟨key.toList.length + rest.length, by simp; omega⟩
  have hsequence : readKeySequence (fuel + 1) (key.toList ++ c :: rest) =
      some ([key], skipGap (c :: rest)) := by
    rw [readKeySequence, h.skipGap_append, h.readSimpleKey_append hc, Option.bind_eq_bind,
      Option.bind_some]
    dsimp only
    split
    case h_1 tail heq => exact absurd heq (hpoint tail)
    case h_2 => rfl
  rw [readKeys, hfuel, hsequence]
  rfl

end BareKey

/-! ## One line -/

theorem readStatement_newline (rest : List Char) :
    readStatement ('\n' :: rest) = some (none, rest) := rfl

theorem readStatement_header {name : String} (h : BareKey name) (rest : List Char) :
    readStatement (header name ++ rest) = some (some (.header [name]), rest) := by
  have hkeys : readKeys (name.toList ++ ']' :: '\n' :: rest) = some ([name], ']' :: '\n' :: rest) :=
    h.readKeys_append (by decide) fun tail heq => by cases heq
  have hheader : readHeader .header [']'] (name.toList ++ ']' :: '\n' :: rest) =
      some (.header [name], rest) := by
    rw [readHeader, hkeys]
    rfl
  have hline : skipGap (header name ++ rest) = '[' :: (name.toList ++ ']' :: '\n' :: rest) := by
    simp [header, skipGap, isGap]
  obtain ⟨c, cs, hcons, -, -, -, hbracket, -⟩ := h.exists_cons
  unfold readStatement
  rw [hline]
  split
  case h_1 heq =>
    rw [hcons] at heq
    exact absurd (List.cons.inj (List.cons.inj heq).2).1 hbracket
  case h_2 tail heq =>
    cases heq
    rw [hheader, Option.map_some]
  case h_3 hother => exact absurd rfl (hother _)

theorem readStatement_assignment {key : String} {cs : List Char} {value : Value} (h : BareKey key)
    (hvalue : Written cs value) (rest : List Char) :
    readStatement (assignment key cs ++ rest) = some (some (.assignment [key] value), rest) := by
  have hkeys : readKeys (key.toList ++ ' ' :: '=' :: ' ' :: (cs ++ '\n' :: rest)) =
      some ([key], '=' :: ' ' :: (cs ++ '\n' :: rest)) :=
    h.readKeys_append (by decide) fun tail heq => by cases heq
  have hskip : skipGap (' ' :: (cs ++ '\n' :: rest)) = cs ++ '\n' :: rest := hvalue.flush rest
  have hread : readAssignment (readValue maxDepth)
      (key.toList ++ ' ' :: '=' :: ' ' :: (cs ++ '\n' :: rest)) =
        some (([key], value), '\n' :: rest) := by
    rw [readAssignment, hkeys]
    simp only [Option.bind_eq_bind, Option.bind_some, hskip, hvalue.read]
    rfl
  have hline : skipGap (assignment key cs ++ rest) =
      key.toList ++ ' ' :: '=' :: ' ' :: (cs ++ '\n' :: rest) := by
    rw [assignment, List.append_assoc, List.append_assoc, List.append_assoc, h.skipGap_append]
    rfl
  obtain ⟨c, ds, hcons, -, -, -, hbracket, -⟩ := h.exists_cons
  unfold readStatement
  rw [hline]
  split
  case h_1 heq =>
    rw [hcons, List.cons_append] at heq
    exact absurd (List.cons.inj heq).1 hbracket
  case h_2 heq =>
    rw [hcons, List.cons_append] at heq
    exact absurd (List.cons.inj heq).1 hbracket
  case h_3 =>
    simp only [h.endLine_append, hread, Option.bind_eq_bind, Option.bind_some]
    rfl

/-! ## Many lines -/

/-- Some statements are read from a text, with any bound that its length allows. -/
def Reads (cs : List Char) (statements : List Statement) : Prop :=
  ∀ fuel, cs.length ≤ fuel → readStatements fuel cs = some statements

theorem reads_nil : Reads [] [] := by
  intro fuel _
  cases fuel <;> rfl

/-- One more line in front. -/
theorem Reads.line {line rest : List Char} {statement : Option Statement}
    {others : List Statement} (hline : line ≠ [])
    (hread : readStatement (line ++ rest) = some (statement, rest)) (h : Reads rest others) :
    Reads (line ++ rest) (statement.toList ++ others) := by
  intro fuel hfuel
  obtain ⟨c, cs, rfl⟩ := List.exists_cons_of_ne_nil hline
  rw [List.cons_append] at hread hfuel ⊢
  cases fuel with
  | zero => simp at hfuel
  | succ fuel =>
    have hrest : rest.length ≤ fuel := by
      simp only [List.length_cons, List.length_append] at hfuel
      omega
    simp only [readStatements_cons, hread, h fuel hrest, Option.bind_eq_bind, Option.bind_some]
    rfl

/-! ## Tables -/

/-- A key with its value as they are written, and the value that is meant. -/
structure Field where
  key : String
  cs : List Char
  value : Value
  bareKey : BareKey key
  written : Written cs value

namespace Field

def text (f : Field) : List Char := assignment f.key f.cs

def statement (f : Field) : Statement := .assignment [f.key] f.value

def entry (f : Field) : String × Item := (f.key, .value f.value)

theorem text_ne_nil (f : Field) : f.text ≠ [] := by
  simp [text, assignment]

theorem return_not_mem_text (f : Field) : '\r' ∉ f.text := by
  have hkey : '\r' ∉ f.key.toList := fun hmem => absurd (f.bareKey.bare _ hmem) (by decide)
  have hvalue : '\r' ∉ f.cs := fun hmem => absurd (f.written.plain _ hmem) (by decide)
  simp [text, assignment, hkey, hvalue]

end Field

/-- A table as it is written. -/
structure Table where
  name : String
  fields : List Field
  bareName : BareKey name
  nodup : (fields.map Field.key).Nodup

namespace Table

/-- A table with all of its lines. -/
def text (t : Table) : List Char := header t.name ++ t.fields.flatMap Field.text

def statements (t : Table) : List Statement :=
  .header [t.name] :: t.fields.map Field.statement

def item (t : Table) : Item := .table .header (t.fields.map Field.entry)

def entry (t : Table) : String × Item := (t.name, t.item)

theorem return_not_mem_text (t : Table) : '\r' ∉ t.text := by
  have hname : '\r' ∉ t.name.toList := fun hmem => absurd (t.bareName.bare _ hmem) (by decide)
  simp only [text, header, List.mem_append, List.mem_flatMap, not_or, not_exists, not_and]
  exact ⟨by simp [hname], fun f _ => f.return_not_mem_text⟩

end Table

theorem reads_fields (fields : List Field) {rest : List Char} {others : List Statement}
    (h : Reads rest others) :
    Reads (fields.flatMap Field.text ++ rest) (fields.map Field.statement ++ others) := by
  induction fields with
  | nil => exact h
  | cons f fields ih =>
    rw [List.flatMap_cons, List.append_assoc, List.map_cons, List.cons_append]
    exact ih.line f.text_ne_nil (readStatement_assignment f.bareKey f.written _)

theorem Table.reads (t : Table) {rest : List Char} {others : List Statement}
    (h : Reads rest others) : Reads (t.text ++ rest) (t.statements ++ others) := by
  rw [Table.text, Table.statements, List.append_assoc, List.cons_append]
  exact (reads_fields t.fields h).line (List.cons_ne_nil _ _) (readStatement_header t.bareName _)

/-! ### What the statements come to -/

theorem Keyed.set_of_get?_eq_none {α : Type} {held : Keyed α} {key : String}
    (h : held.get? key = none) (x : α) : held.set key x = held ++ [(key, x)] := by
  induction held with
  | nil => rfl
  | cons entry rest ih =>
    obtain ⟨other, held⟩ := entry
    rw [Keyed.get?, List.lookup_cons] at h
    by_cases heq : other = key
    · simp [heq] at h
    · have hkey : (key == other) = false := by simp [Ne.symm heq]
      rw [hkey] at h
      rw [Keyed.set, if_neg heq, ih h, List.cons_append]

theorem Keyed.set_set {α : Type} (held : Keyed α) (key : String) (first second : α) :
    (held.set key first).set key second = held.set key second := by
  induction held with
  | nil => simp [Keyed.set]
  | cons entry rest ih =>
    obtain ⟨other, held⟩ := entry
    by_cases heq : other = key
    · simp [Keyed.set, heq]
    · simp [Keyed.set, heq, ih]

/-- Among different keys the next one has no value yet. -/
theorem get?_eq_none_of_nodup {α : Type} {held : Keyed α} {key : String} {keys : List String}
    (h : (held.map Prod.fst ++ key :: keys).Nodup) : held.get? key = none := by
  rw [Keyed.get?, List.lookup_eq_none_iff]
  intro entry hentry
  have hne := (List.nodup_append.1 h).2.2 entry.1 (List.mem_map_of_mem hentry) key
    List.mem_cons_self
  simpa using Ne.symm hne

/-- A header opens a table that is not there yet. -/
theorem follow_header {name : String} {draft : Draft} (hnew : draft.entries.get? name = none) :
    draft.follow (.header [name]) =
      some ⟨draft.entries.set name (.table .header []), [name]⟩ := by
  have hopen : draft.entries.openTable name =
      some (draft.entries.set name (.table .header [])) := by
    rw [Entries.openTable, hnew]
  simp only [Draft.follow, List.dropLast_singleton, lastKey, List.getLast?_singleton,
    Option.getD_some, Entries.changeAt, hopen, Option.bind_eq_bind, Option.bind_some]
  rfl

/-- A key without a value gets one behind the others of the open table. -/
theorem follow_field {name : String} (f : Field) (document held : Entries)
    (hnew : held.get? f.key = none) :
    Draft.follow ⟨document.set name (.table .header held), [name]⟩ f.statement =
      some ⟨document.set name (.table .header (held ++ [f.entry])), [name]⟩ := by
  have hget : (document.set name (.table .header held)).get? name =
      some (.table .header held) := by
    rw [Keyed.get?_set, if_pos rfl]
  have hdefine : held.defineAt [] f.key f.value = some (held ++ [f.entry]) := by
    rw [Entries.defineAt, Keyed.define, hnew, Keyed.set_of_get?_eq_none hnew]
    rfl
  simp only [Field.statement, Draft.follow, List.dropLast_singleton, lastKey,
    List.getLast?_singleton, Option.getD_some, Entries.changeAt, hget, hdefine,
    Option.bind_eq_bind, Option.bind_some, Option.pure_def, Keyed.set_set]

/-- The fields of a table put their values behind the others of the open table. -/
theorem foldlM_fields {name : String} (document : Entries) (fields : List Field) :
    ∀ held : Entries, (held.map Prod.fst ++ fields.map Field.key).Nodup →
    (fields.map Field.statement).foldlM Draft.follow
      ⟨document.set name (.table .header held), [name]⟩ =
      some ⟨document.set name (.table .header (held ++ fields.map Field.entry)), [name]⟩ := by
  induction fields with
  | nil =>
    intro held _
    rw [List.map_nil, List.map_nil, List.append_nil]
    rfl
  | cons f fields ih =>
    intro held hnodup
    have hnew : held.get? f.key = none := by
      rw [List.map_cons] at hnodup
      exact get?_eq_none_of_nodup hnodup
    have hrest : ((held ++ [f.entry]).map Prod.fst ++ fields.map Field.key).Nodup := by
      rw [List.map_append, List.append_assoc]
      exact hnodup
    rw [List.map_cons, List.foldlM_cons, follow_field f document held hnew, Option.bind_eq_bind,
      Option.bind_some, ih _ hrest, List.map_cons, List.append_assoc]
    rfl

/-- The statements of a table put it behind the tables that are there. -/
theorem Table.follow_statements (t : Table) {draft : Draft}
    (hnew : draft.entries.get? t.name = none) :
    t.statements.foldlM Draft.follow draft = some ⟨draft.entries ++ [t.entry], [t.name]⟩ := by
  have hfields := @foldlM_fields t.name draft.entries t.fields [] t.nodup
  rw [List.nil_append] at hfields
  rw [Table.statements, List.foldlM_cons, follow_header hnew, Option.bind_eq_bind,
    Option.bind_some, hfields, Keyed.set_of_get?_eq_none hnew]
  rfl

theorem foldlM_tables (tables : List Table) :
    ∀ draft : Draft, (draft.entries.map Prod.fst ++ tables.map Table.name).Nodup →
    ((tables.flatMap Table.statements).foldlM Draft.follow draft).map Draft.entries =
      some (draft.entries ++ tables.map Table.entry) := by
  induction tables with
  | nil =>
    intro draft _
    rw [List.map_nil, List.append_nil]
    rfl
  | cons t tables ih =>
    intro draft hnodup
    have hnew : draft.entries.get? t.name = none := by
      rw [List.map_cons] at hnodup
      exact get?_eq_none_of_nodup hnodup
    have hrest : ((draft.entries ++ [t.entry]).map Prod.fst ++ tables.map Table.name).Nodup := by
      rw [List.map_append, List.append_assoc]
      exact hnodup
    rw [List.flatMap_cons, List.foldlM_append, t.follow_statements hnew, Option.bind_eq_bind,
      Option.bind_some, ih _ hrest, List.map_cons, List.append_assoc]
    rfl

theorem ofStatements_tables {tables : List Table} (h : (tables.map Table.name).Nodup) :
    ofStatements (tables.flatMap Table.statements) = some (tables.map Table.entry) :=
  foldlM_tables tables ⟨[], []⟩ h

/-! ## Documents -/

/-- A document: its tables with a blank line between every two. -/
def documentText : List Table → List Char
  | [] => []
  | [t] => t.text
  | t :: rest => t.text ++ '\n' :: documentText rest

theorem reads_documentText (tables : List Table) :
    Reads (documentText tables) (tables.flatMap Table.statements) := by
  fun_induction documentText tables with
  | case1 => exact reads_nil
  | case2 t =>
    have hlast := t.reads reads_nil
    rwa [List.append_nil] at hlast
  | case3 t rest hrest ih =>
    exact t.reads (ih.line (List.cons_ne_nil '\n' []) (readStatement_newline _))

theorem return_not_mem_documentText (tables : List Table) : '\r' ∉ documentText tables := by
  fun_induction documentText tables with
  | case1 => exact List.not_mem_nil
  | case2 t => exact t.return_not_mem_text
  | case3 t rest hrest ih => simp [t.return_not_mem_text, ih]

theorem dropReturns_of_not_mem {cs : List Char} (h : '\r' ∉ cs) : dropReturns cs = cs := by
  fun_induction dropReturns cs with
  | case1 => rfl
  | case2 cs ih => simp at h
  | case3 c cs hne ih =>
    rw [ih fun hmem => h (List.mem_cons_of_mem _ hmem)]

theorem dropMark_documentText (tables : List Table) :
    dropMark (documentText tables) = documentText tables := by
  fun_cases documentText tables with
  | case1 => rfl
  | case2 t => rfl
  | case3 t rest hrest => rfl

/-- A document that is written with tables of different names is read again. -/
theorem readDocument_documentText {tables : List Table} (hnodup : (tables.map Table.name).Nodup) :
    readDocument (String.ofList (documentText tables)) = some (tables.map Table.entry) := by
  have hstatements : statements? (String.ofList (documentText tables)) =
      some (tables.flatMap Table.statements) := by
    simp only [statements?, String.toList_ofList, dropMark_documentText,
      dropReturns_of_not_mem (return_not_mem_documentText tables)]
    exact reads_documentText tables _ (Nat.le_refl _)
  rw [readDocument, hstatements, Option.bind_some, ofStatements_tables hnodup]

end RaidProvision.Toml
