import RaidProvision.Manager.Support
import RaidProvision.Session.Host

/-!
# Who is chosen among candidates

Candidates are asked in turn how well they support the machine, and the choice goes by what they
tell. While the answers are looked through, the best so far is the first of those with the highest
level, and there is none as long as nobody supports the machine at all (`Leads`). One more answer
keeps this, so it holds when all of them have been looked through.

* `Asked`, `run_evaluateAll_asked`: each candidate is asked once, in order.
* `Leads.better`, `leads_foldl_better`: one more answer, and all of them.
* `dispatch_first_highest`: the first candidate with the highest level is chosen.
-/
namespace RaidProvision.Manager

variable {α : Type}

/-! ## Asking -/

section
variable (evaluate : α → Script Support)

/-- Some candidates are asked, each of them once and in their order, and each by what those before
it left to answer from. -/
inductive Asked : List α → Host → List Support → List Request → Host → Prop where
  | nil (host : Host) : Asked [] host [] [] host
  | cons (a : α) {rest : List α} {host after : Host} {levels : List Support}
    {requests : List Request} (h : Asked rest ((evaluate a).run host).host levels requests after) :
    Asked (a :: rest) host (((evaluate a).run host).value :: levels)
      (((evaluate a).run host).transcript ++ requests) after

theorem run_evaluateAll_asked (candidates : List α) (host : Host) :
    ∃ levels, levels.length = candidates.length ∧
      ((evaluateAll evaluate candidates).run host).value = candidates.zip levels ∧
      Asked evaluate candidates host levels
        ((evaluateAll evaluate candidates).run host).transcript
        ((evaluateAll evaluate candidates).run host).host := by
  induction candidates generalizing host with
  | nil => exact ⟨[], rfl, rfl, .nil host⟩
  | cons a rest ih =>
    obtain ⟨levels, hlength, hvalue, hasked⟩ := ih ((evaluate a).run host).host
    refine ⟨((evaluate a).run host).value :: levels, by simp [hlength], ?_, ?_⟩
    · simp only [evaluateAll, Script.run_bind, Script.run_done, hvalue, List.zip_cons_cons]
    · simp only [evaluateAll, Script.run_bind, Script.run_done, List.append_nil]
      exact .cons a hasked

end

/-! ## Looking through the answers -/

/-- The best of the answers that were looked through: the first with the highest level, if there is
any support. -/
inductive Leads (seen : List (α × Support)) : Option (α × Support) → Prop where
  | nobody (h : ∀ answer ∈ seen, answer.2 = .none) : Leads seen none
  | first {best : α × Support} (before after : List (α × Support))
    (hseen : seen = before ++ best :: after) (hbest : best.2 ≠ .none)
    (hbefore : ∀ answer ∈ before, answer.2.rank < best.2.rank)
    (hafter : ∀ answer ∈ after, answer.2.rank ≤ best.2.rank) : Leads seen (some best)

theorem rank_eq_zero_iff {level : Support} : level.rank = 0 ↔ level = .none := by
  cases level <;> simp [Support.rank]

theorem rank_lt_of_ne_none {level other : Support} (h : level ≠ .none) (hother : other = .none) :
    other.rank < level.rank := by
  subst hother
  exact Nat.pos_of_ne_zero (mt rank_eq_zero_iff.1 h)

section
variable {seen : List (α × Support)} {answer : α × Support}

/-- Whoever leads is not passed by what is no better. -/
theorem Leads.concat_of_le {best : α × Support} (h : Leads seen (some best))
    (hle : answer.2.rank ≤ best.2.rank) : Leads (seen ++ [answer]) (some best) := by
  cases h with
  | first before after hseen hbest hbefore hafter =>
    refine .first before (after ++ [answer]) (by simp [hseen]) hbest hbefore ?_
    intro other hother
    rcases List.mem_append.1 hother with hother | hother
    · exact hafter other hother
    · rw [List.mem_singleton.1 hother]
      exact hle

/-- Whoever leads is passed by what is better, and with it all whom it had passed. -/
theorem Leads.concat_of_lt {best : α × Support} (h : Leads seen (some best))
    (hlevel : answer.2 ≠ .none) (hlt : best.2.rank < answer.2.rank) :
    Leads (seen ++ [answer]) (some answer) := by
  cases h with
  | first before after hseen hbest hbefore hafter =>
    refine .first seen [] rfl hlevel ?_ (by simp)
    intro other hother
    rw [hseen, List.mem_append, List.mem_cons] at hother
    rcases hother with hother | rfl | hother
    · exact Nat.lt_trans (hbefore other hother) hlt
    · exact hlt
    · exact Nat.lt_of_le_of_lt (hafter other hother) hlt

/-- One more answer. -/
theorem Leads.better {best : Option (α × Support)} (h : Leads seen best)
    (answer : α × Support) : Leads (seen ++ [answer]) (Manager.better best answer) := by
  unfold Manager.better
  by_cases hrank : answer.2.rank = 0
  · rw [if_pos hrank]
    cases best with
    | some best => exact h.concat_of_le (hrank ▸ Nat.zero_le _)
    | none =>
      cases h with
      | nobody h =>
        refine .nobody fun other hother => ?_
        rcases List.mem_append.1 hother with hother | hother
        · exact h other hother
        · rw [List.mem_singleton.1 hother]
          exact rank_eq_zero_iff.1 hrank
  · rw [if_neg hrank]
    have hlevel : answer.2 ≠ .none := mt rank_eq_zero_iff.2 hrank
    cases best with
    | none =>
      cases h with
      | nobody h =>
        exact .first seen [] rfl hlevel
          (fun other hother => rank_lt_of_ne_none hlevel (h other hother)) (by simp)
    | some best =>
      by_cases hhigher : best.2.rank < answer.2.rank
      · simpa only [hhigher, if_true] using h.concat_of_lt hlevel hhigher
      · simpa only [hhigher, if_false] using h.concat_of_le (Nat.le_of_not_lt hhigher)

end

theorem leads_foldl_better {seen : List (α × Support)} {best : Option (α × Support)}
    (h : Leads seen best) (answers : List (α × Support)) :
    Leads (seen ++ answers) (answers.foldl better best) := by
  induction answers generalizing seen best with
  | nil => simpa using h
  | cons answer rest ih =>
    have hrest := ih (h.better answer)
    rwa [List.append_assoc, List.singleton_append] at hrest

/-- The answers of which one is chosen. -/
theorem leads_answers (answers : List (α × Support)) :
    Leads answers (answers.foldl better none) := by
  have hstart : Leads ([] : List (α × Support)) none := .nobody (by simp)
  exact leads_foldl_better hstart answers

/-! ## The choice -/

/-- The highest of some levels stands at a place, and not before it. -/
def FirstHighest (levels : List Support) (i : Nat) : Prop :=
  ∃ level, levels[i]? = some level ∧ (∀ other ∈ levels, other.rank ≤ level.rank) ∧
    ∀ j < i, ∀ other, levels[j]? = some other → other.rank < level.rank

section
variable {candidates : List α} {levels : List Support}

theorem exists_answer (hlength : levels.length = candidates.length) {level : Support}
    (h : level ∈ levels) : ∃ a, (a, level) ∈ candidates.zip levels := by
  rw [← List.map_snd_zip (Nat.le_of_eq hlength)] at h
  obtain ⟨⟨a, other⟩, hmem, rfl⟩ := List.mem_map.1 h
  exact ⟨a, hmem⟩

theorem getElem?_zip_of_levels (hlength : levels.length = candidates.length) {j : Nat}
    {level : Support} (h : levels[j]? = some level) :
    ∃ a, (candidates.zip levels)[j]? = some (a, level) := by
  obtain ⟨hj, -⟩ := List.getElem?_eq_some_iff.1 h
  have ha : candidates[j]? = some candidates[j] := List.getElem?_eq_getElem (hlength ▸ hj)
  exact ⟨candidates[j], List.getElem?_zip_eq_some.2 ⟨ha, h⟩⟩

theorem choose_eq_none_iff (hlength : levels.length = candidates.length) :
    choose (candidates.zip levels) = none ↔ ∀ level ∈ levels, level = .none := by
  have hleads := leads_answers (candidates.zip levels)
  rw [choose, Option.map_eq_none_iff]
  generalize (candidates.zip levels).foldl better none = result at hleads
  cases hleads with
  | nobody h =>
    refine iff_of_true rfl fun level hlevel => ?_
    obtain ⟨a, hmem⟩ := exists_answer hlength hlevel
    exact h _ hmem
  | @first best before after hseen hbest hbefore hafter =>
    refine iff_of_false (by simp) fun hall => hbest (hall _ ?_)
    have hmem : best ∈ candidates.zip levels := by simp [hseen]
    exact (List.of_mem_zip (a := best.1) (b := best.2) hmem).2

theorem exists_firstHighest (hlength : levels.length = candidates.length)
    (h : ∃ level ∈ levels, level ≠ .none) :
    ∃ i a, FirstHighest levels i ∧ candidates[i]? = some a ∧
      choose (candidates.zip levels) = some a := by
  have hleads := leads_answers (candidates.zip levels)
  rw [choose]
  generalize (candidates.zip levels).foldl better none = result at hleads
  cases hleads with
  | nobody hnobody =>
    obtain ⟨level, hlevel, hsome⟩ := h
    obtain ⟨a, hmem⟩ := exists_answer hlength hlevel
    exact absurd (hnobody _ hmem) hsome
  | @first best before after hseen hbest hbefore hafter =>
    have hplace : (candidates.zip levels)[before.length]? = some best := by simp [hseen]
    obtain ⟨ha, hlevel⟩ := List.getElem?_zip_eq_some.1 hplace
    refine ⟨before.length, best.1, ⟨best.2, hlevel, ?_, ?_⟩, ha, rfl⟩
    · intro other hother
      obtain ⟨b, hmem⟩ := exists_answer hlength hother
      rw [hseen, List.mem_append, List.mem_cons] at hmem
      rcases hmem with hmem | hmem | hmem
      · exact Nat.le_of_lt (hbefore _ hmem)
      · exact Nat.le_of_eq (congrArg (·.2.rank) hmem)
      · exact hafter _ hmem
    · intro j hj other hother
      obtain ⟨b, hb⟩ := getElem?_zip_of_levels hlength hother
      rw [hseen, List.getElem?_append_left hj] at hb
      exact hbefore _ (List.mem_of_getElem? hb)

end

/-- Choosing asks each candidate once and in order. Nobody is chosen iff nobody supports the machine
at all; otherwise the highest level decides, and of several candidates that have it the one that
stands first. -/
theorem dispatch_first_highest (evaluate : α → Script Support) (candidates : List α)
    (host : Host) :
    let o := (dispatch evaluate candidates).run host
    ∃ levels, Asked evaluate candidates host levels o.transcript o.host ∧
      (o.value = none ↔ ∀ level ∈ levels, level = .none) ∧
      ((∃ level ∈ levels, level ≠ .none) → ∃ i a, FirstHighest levels i ∧
        candidates[i]? = some a ∧ o.value = some a) := by
  obtain ⟨levels, hlength, hvalue, hasked⟩ := run_evaluateAll_asked evaluate candidates host
  refine ⟨levels, ?_, ?_, ?_⟩
  · simpa only [dispatch, Script.run_bind, Script.run_done, List.append_nil] using hasked
  · simpa only [dispatch, Script.run_bind, Script.run_done, hvalue] using
      choose_eq_none_iff hlength
  · simpa only [dispatch, Script.run_bind, Script.run_done, hvalue] using
      exists_firstHighest hlength

example : choose [("none", .none), ("generic", .generic), ("first", .mainline),
    ("second", .mainline)] = some "first" := by decide

end RaidProvision.Manager
