import RaidProvision.Layout.Basic

/-!
# Building a layout

Whatever builds the drives, a layout is realized by one call for each complete entry, in order, up
to the first call that fails. A builder may keep any state and may end each call as it likes;
`Builder.recorded` notes its calls beside its state.

* `blueprint_toOption`: an entry is complete iff it names its level, members and controller.
* `realizeEach_recorded`: the calls for some entries, by induction on them.
* `realize_recorded`: the calls for a layout and what becomes of its entries.
-/
namespace RaidProvision

variable {ε σ : Type}

/-! ## What is to be built -/

/-- What a complete entry asks for. All the space there is, if it names no size. -/
def LogicalDisk.order? (disk : LogicalDisk) : Option Blueprint := do
  let level ← disk.level
  let members ← disk.members
  let controller ← disk.controller
  return { controller, size := disk.size.getD .max, level, members }

theorem LogicalDisk.blueprint_toOption (disk : LogicalDisk) :
    disk.blueprint.toOption = disk.order? := by
  obtain ⟨size, level, members, controller, extra⟩ := disk
  cases level <;> cases members <;> cases controller <;> rfl

/-- An entry with the size of what was built for it. -/
def LogicalDisk.withSize (disk : LogicalDisk) (gb : UInt64) : LogicalDisk :=
  { disk with size := some (.gb gb) }

section
variable {m : Type → Type} [Monad m] (build : Blueprint → m UInt64)

/-- Nothing happens to an incomplete entry. -/
theorem Layout.realizeEach_cons_of_none {disk : LogicalDisk} (h : disk.order? = none)
    (rest : List LogicalDisk) :
    realizeEach build (disk :: rest) = do
      let rest ← realizeEach build rest
      return disk :: rest := by
  rw [← disk.blueprint_toOption] at h
  cases hb : disk.blueprint with
  | error missing => simp only [realizeEach, hb]
  | ok b => simp [hb, Except.toOption] at h

/-- A complete entry is built first. -/
theorem Layout.realizeEach_cons_of_some {disk : LogicalDisk} {b : Blueprint}
    (h : disk.order? = some b) (rest : List LogicalDisk) :
    realizeEach build (disk :: rest) = do
      let gb ← build b
      let rest ← realizeEach build rest
      return disk.withSize gb :: rest := by
  rw [← disk.blueprint_toOption] at h
  cases hb : disk.blueprint with
  | error missing => simp [hb, Except.toOption] at h
  | ok b' =>
    simp only [hb, Except.toOption, Option.some.injEq] at h
    subst h
    simp only [realizeEach, hb, LogicalDisk.withSize]

end

/-- What a layout asks for: its complete entries in order. -/
def Layout.orders (layout : Layout) : List Blueprint := layout.disks.filterMap LogicalDisk.order?

/-! ## Builders and their calls -/

/-- Builds one logical drive at a time, with a state of its own. -/
abbrev Builder (ε σ : Type) := Blueprint → ExceptT ε (StateM σ) UInt64

/-- A call of a builder and how it ended. -/
structure BuildCall (ε : Type) where
  blueprint : Blueprint
  result : Except ε UInt64

namespace Builder

/-- Runs a task of a builder from a state. -/
def exec {α : Type} (task : ExceptT ε (StateM σ) α) (s : σ) : Except ε α × σ :=
  (task.run.run s).run

@[simp]
theorem exec_pure {α : Type} (a : α) (s : σ) :
    exec (pure a : ExceptT ε (StateM σ) α) s = (.ok a, s) := rfl

theorem exec_bind_ok {α β : Type} {task : ExceptT ε (StateM σ) α} {s t : σ} {a : α}
    (h : exec task s = (.ok a, t)) (k : α → ExceptT ε (StateM σ) β) :
    exec (task >>= k) s = exec (k a) t := by
  simp only [exec] at h
  simp only [exec, ExceptT.run_bind, StateT.run_bind, Id.run_bind, h]

theorem exec_bind_error {α β : Type} {task : ExceptT ε (StateM σ) α} {s t : σ} {e : ε}
    (h : exec task s = (.error e, t)) (k : α → ExceptT ε (StateM σ) β) :
    exec (task >>= k) s = (.error e, t) := by
  simp only [exec] at h
  simp only [exec, ExceptT.run_bind, StateT.run_bind, Id.run_bind, h]
  rfl

/-- The builder with a list of its calls. -/
def recorded (build : Builder ε σ) : Builder ε (σ × List (BuildCall ε)) := fun b =>
  ExceptT.mk fun s =>
    let (result, t) := exec (build b) s.1
    pure (result, (t, s.2 ++ [⟨b, result⟩]))

/-- Each call was made in the state that the one before left. -/
def Threaded (build : Builder ε σ) : σ → List (BuildCall ε) → σ → Prop
  | s, [], t => s = t
  | s, call :: rest, t =>
    ∃ next, exec (build call.blueprint) s = (call.result, next) ∧ Threaded build next rest t

variable (build : Builder ε σ)

theorem exec_recorded (b : Blueprint) (s : σ) (calls : List (BuildCall ε)) :
    exec (build.recorded b) (s, calls) =
      ((exec (build b) s).1, (exec (build b) s).2, calls ++ [⟨b, (exec (build b) s).1⟩]) := rfl

/-! ## The calls for some entries -/

/-- Every complete entry was built by a call of its own, in order, and got the size that this call
returned; every incomplete one is as it was. -/
inductive Filled : List LogicalDisk → List (BuildCall ε) → List LogicalDisk → Prop where
  | nil : Filled [] [] []
  | skip {disk : LogicalDisk} {disks out : List LogicalDisk} {calls : List (BuildCall ε)}
    (hd : disk.order? = none) (h : Filled disks calls out) :
    Filled (disk :: disks) calls (disk :: out)
  | built {disk : LogicalDisk} {disks out : List LogicalDisk} {calls : List (BuildCall ε)}
    {b : Blueprint} (gb : UInt64) (hd : disk.order? = some b) (h : Filled disks calls out) :
    Filled (disk :: disks) (⟨b, .ok gb⟩ :: calls) (disk.withSize gb :: out)

/-- The complete entries were built in order, up to one whose call failed. -/
inductive Stopped (e : ε) : List LogicalDisk → List (BuildCall ε) → Prop where
  | here {disk : LogicalDisk} {disks : List LogicalDisk} {b : Blueprint}
    (hd : disk.order? = some b) : Stopped e (disk :: disks) [⟨b, .error e⟩]
  | skip {disk : LogicalDisk} {disks : List LogicalDisk} {calls : List (BuildCall ε)}
    (hd : disk.order? = none) (h : Stopped e disks calls) : Stopped e (disk :: disks) calls
  | built {disk : LogicalDisk} {disks : List LogicalDisk} {calls : List (BuildCall ε)}
    {b : Blueprint} (gb : UInt64) (hd : disk.order? = some b) (h : Stopped e disks calls) :
    Stopped e (disk :: disks) (⟨b, .ok gb⟩ :: calls)

/-- What building some entries comes to. -/
def ResultOfCalls (disks : List LogicalDisk) (calls : List (BuildCall ε)) :
    Except ε (List LogicalDisk) → Prop
  | .ok out => Filled disks calls out
  | .error e => Stopped e disks calls

theorem realizeEach_recorded (disks : List LogicalDisk) (s : σ) (calls : List (BuildCall ε)) :
    ∃ result t made, exec (Layout.realizeEach build disks) s = (result, t) ∧
      exec (Layout.realizeEach build.recorded disks) (s, calls) = (result, t, calls ++ made) ∧
      Threaded build s made t ∧ ResultOfCalls disks made result := by
  induction disks generalizing s calls with
  | nil => exact ⟨.ok [], s, [], rfl, by simp [Layout.realizeEach], rfl, .nil⟩
  | cons disk rest ih =>
    cases hd : disk.order? with
    | none =>
      rw [Layout.realizeEach_cons_of_none build hd, Layout.realizeEach_cons_of_none _ hd]
      obtain ⟨result, t, made, hrun, hrec, hthread, hcomes⟩ := ih s calls
      cases result with
      | error e =>
        exact ⟨.error e, t, made, exec_bind_error hrun _, exec_bind_error hrec _, hthread,
          .skip hd hcomes⟩
      | ok out =>
        exact ⟨.ok (disk :: out), t, made, exec_bind_ok hrun _, exec_bind_ok hrec _, hthread,
          .skip hd hcomes⟩
    | some b =>
      rw [Layout.realizeEach_cons_of_some build hd, Layout.realizeEach_cons_of_some _ hd]
      have hcall := exec_recorded build b s calls
      cases hb : exec (build b) s with
      | mk ended next =>
        rw [hb] at hcall
        cases ended with
        | error e =>
          exact ⟨.error e, next, [⟨b, .error e⟩], exec_bind_error hb _, exec_bind_error hcall _,
            ⟨next, hb, rfl⟩, .here hd⟩
        | ok gb =>
          obtain ⟨result, t, made, hrun, hrec, hthread, hcomes⟩ := ih next (calls ++ [⟨b, .ok gb⟩])
          rw [List.append_assoc, List.singleton_append] at hrec
          rw [exec_bind_ok hb, exec_bind_ok hcall]
          cases result with
          | error e =>
            exact ⟨.error e, t, ⟨b, .ok gb⟩ :: made, exec_bind_error hrun _,
              exec_bind_error hrec _, ⟨next, hb, hthread⟩, .built gb hd hcomes⟩
          | ok out =>
            exact ⟨.ok (disk.withSize gb :: out), t, ⟨b, .ok gb⟩ :: made, exec_bind_ok hrun _,
              exec_bind_ok hrec _, ⟨next, hb, hthread⟩, .built gb hd hcomes⟩

namespace Filled

variable {disks out : List LogicalDisk} {calls : List (BuildCall ε)}

theorem blueprints_eq (h : Filled disks calls out) :
    calls.map BuildCall.blueprint = disks.filterMap LogicalDisk.order? := by
  induction h with
  | nil => rfl
  | skip hd _ ih => rw [List.filterMap_cons_none hd, ih]
  | built gb hd _ ih => rw [List.filterMap_cons_some hd, List.map_cons, ih]

theorem length_eq (h : Filled disks calls out) : out.length = disks.length := by
  induction h with
  | nil => rfl
  | skip _ _ ih => simp [ih]
  | built _ _ _ ih => simp [ih]

theorem succeeded (h : Filled disks calls out) : ∀ call ∈ calls, ∃ gb, call.result = .ok gb := by
  induction h with
  | nil => simp
  | skip _ _ ih => exact ih
  | built gb _ _ ih =>
    intro call hc
    rcases List.mem_cons.1 hc with rfl | hc
    · exact ⟨gb, rfl⟩
    · exact ih call hc

/-- An incomplete entry is as it was. -/
theorem getElem?_of_none (h : Filled disks calls out) {i : Nat} {disk : LogicalDisk}
    (hi : disks[i]? = some disk) (hd : disk.order? = none) : out[i]? = some disk := by
  induction h generalizing i with
  | nil => simp at hi
  | skip _ _ ih =>
    cases i with
    | zero => exact hi
    | succ i => exact ih hi
  | built gb hd' _ ih =>
    cases i with
    | zero => simp only [List.getElem?_cons_zero, Option.some.injEq] at hi; simp_all
    | succ i => exact ih hi

/-- The call for a complete entry comes after those for the complete entries before it, and the
entry has the size that this call returned. -/
theorem getElem?_of_some (h : Filled disks calls out) {i : Nat} {disk : LogicalDisk}
    {b : Blueprint} (hi : disks[i]? = some disk) (hd : disk.order? = some b) :
    ∃ gb, calls[((disks.take i).filterMap LogicalDisk.order?).length]? = some ⟨b, .ok gb⟩ ∧
      out[i]? = some (disk.withSize gb) := by
  induction h generalizing i with
  | nil => simp at hi
  | skip hd' _ ih =>
    cases i with
    | zero => simp only [List.getElem?_cons_zero, Option.some.injEq] at hi; simp_all
    | succ i =>
      obtain ⟨gb, hc, ho⟩ := ih hi
      exact ⟨gb, by rw [List.take_succ_cons, List.filterMap_cons_none hd']; exact hc, ho⟩
  | built gb hd' _ ih =>
    cases i with
    | zero =>
      simp only [List.getElem?_cons_zero, Option.some.injEq] at hi
      subst hi
      rw [hd'] at hd
      cases hd
      exact ⟨gb, rfl, rfl⟩
    | succ i =>
      obtain ⟨gb', hc, ho⟩ := ih hi
      exact ⟨gb', by rw [List.take_succ_cons, List.filterMap_cons_some hd']; exact hc, ho⟩

end Filled

/-- The calls before the one that failed succeeded, and what was not called is what is left. -/
theorem Stopped.split {disks : List LogicalDisk} {calls : List (BuildCall ε)} {e : ε}
    (h : Stopped e disks calls) :
    ∃ done b rest, calls = done ++ [⟨b, .error e⟩] ∧
      (∀ call ∈ done, ∃ gb, call.result = .ok gb) ∧
      disks.filterMap LogicalDisk.order? = calls.map BuildCall.blueprint ++ rest := by
  induction h with
  | @here disk disks b hd =>
    exact ⟨[], b, disks.filterMap LogicalDisk.order?, rfl, by simp,
      by rw [List.filterMap_cons_some hd]; rfl⟩
  | skip hd _ ih =>
    obtain ⟨done, b, rest, hc, hs, ho⟩ := ih
    exact ⟨done, b, rest, hc, hs, by rw [List.filterMap_cons_none hd, ho]⟩
  | built gb hd _ ih =>
    obtain ⟨done, b, rest, hc, hs, ho⟩ := ih
    refine ⟨⟨_, .ok gb⟩ :: done, b, rest, by rw [hc]; rfl, ?_, ?_⟩
    · intro call hmem
      rcases List.mem_cons.1 hmem with rfl | hmem
      · exact ⟨gb, rfl⟩
      · exact hs call hmem
    · rw [List.filterMap_cons_some hd, ho]
      rfl

/-! ## A layout -/

/-- Every call succeeded, there was one for each complete entry, in order, and the layout differs
from the one it was built from only in the sizes of the complete entries. -/
structure Realizes (calls : List (BuildCall ε)) (layout realized : Layout) : Prop where
  /-- The calls are for the complete entries, one for each, in order. -/
  called : calls.map BuildCall.blueprint = layout.orders
  succeeded : ∀ call ∈ calls, ∃ gb, call.result = .ok gb
  extra : realized.extra = layout.extra
  length : realized.disks.length = layout.disks.length
  incomplete : ∀ (i : Nat) (disk : LogicalDisk), layout.disks[i]? = some disk →
    disk.order? = none → realized.disks[i]? = some disk
  /-- The call for an entry comes after those for the complete entries before it. -/
  complete : ∀ (i : Nat) (disk : LogicalDisk) (b : Blueprint), layout.disks[i]? = some disk →
    disk.order? = some b →
    ∃ gb, calls[((layout.disks.take i).filterMap LogicalDisk.order?).length]? = some ⟨b, .ok gb⟩ ∧
      realized.disks[i]? = some (disk.withSize gb)

/-- The complete entries were built in order up to one whose call ended with `e`, the first to fail
and the last to be made. -/
def BreaksOff (calls : List (BuildCall ε)) (layout : Layout) (e : ε) : Prop :=
  ∃ done b rest, calls = done ++ [⟨b, .error e⟩] ∧ (∀ call ∈ done, ∃ gb, call.result = .ok gb) ∧
    layout.orders = calls.map BuildCall.blueprint ++ rest

theorem Filled.realizes {layout : Layout} {out : List LogicalDisk} {calls : List (BuildCall ε)}
    (h : Filled layout.disks calls out) : Realizes calls layout { layout with disks := out } where
  called := h.blueprints_eq
  succeeded := h.succeeded
  extra := rfl
  length := h.length_eq
  incomplete _ _ := h.getElem?_of_none
  complete _ _ _ := h.getElem?_of_some

/-- Whatever the builder, a layout is realized by calling it for its complete entries in order, in
the state that the call before left, up to the first call that fails. Its error is then the result;
otherwise each complete entry gets the size that its own call returned and nothing else changes. -/
theorem realize_recorded (layout : Layout) (s : σ) :
    ∃ result t calls, exec (layout.realize build) s = (result, t) ∧
      exec (layout.realize build.recorded) (s, []) = (result, t, calls) ∧
      Threaded build s calls t ∧
      match result with
      | .ok realized => Realizes calls layout realized
      | .error e => BreaksOff calls layout e := by
  obtain ⟨result, t, calls, hrun, hrec, hthread, hcomes⟩ :=
    realizeEach_recorded build layout.disks s []
  cases result with
  | error e =>
    exact ⟨.error e, t, calls, exec_bind_error hrun _, exec_bind_error hrec _, hthread,
      hcomes.split⟩
  | ok out =>
    exact ⟨.ok { layout with disks := out }, t, calls, exec_bind_ok hrun _, exec_bind_ok hrec _,
      hthread, hcomes.realizes⟩

end Builder
end RaidProvision
