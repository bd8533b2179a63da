import Mathlib.Data.List.Basic
import RaidProvision.Arcconf.Volume
import RaidProvision.MegaCli.Volume
import RaidProvision.Proofs.Layout.AskedSize
import RaidProvision.Proofs.Text.Cut

/-!
# One command line for one layout

A command line that creates a drive joins its members with a separator and puts them between other
texts. It can be taken apart again if the texts keep clear of the separators: for arcconf at the
spaces, of which there is one inside of each member too, and for MegaCLI at the bracket in front of
the members, the commas between them and the bracket behind. So two layouts never give the same
line.

* `SizeRequest.megabytes_injective`: the argument tells the size.
* `Arcconf.parts_of_createArguments`, `MegaCli.toList_createArguments`: what a line is made of.
* `Arcconf.members_injective`, `MegaCli.members_injective`: the members, by induction on them.
* `createArguments_unambiguous`: the whole lines.
-/
namespace RaidProvision

open RaidProvision.Text

theorem SizeRequest.megabytes_injective {size other : SizeRequest} {argument : String}
    (h : size.megabytes = .ok argument) (hother : other.megabytes = .ok argument) :
    size = other := by
  have hmax (n : Nat) : Nat.repr n ≠ "MAX" := by
    intro hn
    have hnot : ¬ Numeral n "MAX" := not_numeral_of_sameFold_max (by decide)
    exact hnot (.inl (hn ▸ digits_repr n))
  cases size with
  | max =>
    cases other with
    | max => rfl
    | gb n =>
      obtain ⟨-, hn⟩ := megabytes_eq_ok_iff.1 hother
      obtain rfl : "MAX" = argument := Except.ok.inj h
      exact absurd hn.symm (hmax _)
  | gb m =>
    obtain ⟨-, rfl⟩ := megabytes_eq_ok_iff.1 h
    cases other with
    | max =>
      have hm : "MAX" = Nat.repr (1024 * m.toNat) := Except.ok.inj hother
      exact absurd hm.symm (hmax _)
    | gb n =>
      obtain ⟨-, hn⟩ := megabytes_eq_ok_iff.1 hother
      have hsame : 1024 * m.toNat = 1024 * n.toNat := repr_injective hn
      have hnat : m.toNat = n.toNat := by omega
      rw [UInt64.toNat_inj.1 hnat]

/-! ## arcconf -/

namespace Arcconf

/-- An argument of a command line: there is one, and no space cuts it. -/
structure IsArgument (s : String) : Prop where
  ne_empty : s ≠ ""
  no_space : ' ' ∉ s.toList

/-- A member of a logical drive: the channel and the number of a device. -/
inductive IsMember : String → Prop where
  | mk {channel device : String} (hchannel : IsArgument channel) (hdevice : IsArgument device) :
    IsMember (channel ++ " " ++ device)

/-- What is asked for has no spaces but the one in each member. -/
structure IsPlain (controller level : String) (members : List String) : Prop where
  controller : IsArgument controller
  level : IsArgument level
  members : ∀ m ∈ members, IsMember m

theorem IsArgument.parts_eq {s : String} (h : IsArgument s) : parts ' ' s = [s] :=
  parts_eq_singleton h.ne_empty h.no_space

theorem isArgument_megabytes {size : SizeRequest} {megabytes : String}
    (h : size.megabytes = .ok megabytes) : IsArgument megabytes := by
  cases size with
  | max =>
    obtain rfl : "MAX" = megabytes := Except.ok.inj h
    exact ⟨by decide, by decide⟩
  | gb n =>
    obtain ⟨-, rfl⟩ := SizeRequest.megabytes_eq_ok_iff.1 h
    exact ⟨repr_ne_empty _, not_mem_repr rfl⟩

section
variable {controller level line : String} {size : SizeRequest} {members : List String}

theorem createArguments_eq_ok_iff :
    createArguments controller size level members = .ok line ↔
      ∃ megabytes, size.megabytes = .ok megabytes ∧
        line = " ".intercalate ["create", controller, "LOGICALDRIVE", megabytes, level,
          " ".intercalate members, "noprompt"] := by
  cases hsize : size.megabytes with
  | error cause => simp [createArguments, hsize, Except.map]
  | ok megabytes =>
    have hline (disks : String) :
        s!"create {controller} LOGICALDRIVE {megabytes} {level} {disks} noprompt" =
          " ".intercalate ["create", controller, "LOGICALDRIVE", megabytes, level, disks,
            "noprompt"] := by
      apply String.toList_injective
      simp [toString, String.toList_append]
    simp [createArguments, hsize, Except.map, hline, eq_comm]

/-- The parts of a line, with those of the members among them. -/
theorem parts_of_createArguments (h : IsPlain controller level members)
    (hline : createArguments controller size level members = .ok line) :
    ∃ megabytes, size.megabytes = .ok megabytes ∧
      parts ' ' line = ["create", controller, "LOGICALDRIVE", megabytes, level] ++
        (members.flatMap (parts ' ') ++ ["noprompt"]) := by
  obtain ⟨megabytes, hsize, rfl⟩ := createArguments_eq_ok_iff.1 hline
  refine ⟨megabytes, hsize, ?_⟩
  have hcreate : parts ' ' "create" = ["create"] := by decide
  have hkind : parts ' ' "LOGICALDRIVE" = ["LOGICALDRIVE"] := by decide
  have hend : parts ' ' "noprompt" = ["noprompt"] := by decide
  have hmembers : parts ' ' (" ".intercalate members) = members.flatMap (parts ' ') :=
    parts_intercalate rfl members
  rw [parts_intercalate rfl]
  simp only [List.flatMap_cons, List.flatMap_nil, hcreate, hkind, hend, hmembers,
    h.controller.parts_eq, h.level.parts_eq, (isArgument_megabytes hsize).parts_eq]
  simp

end

/-- A member has two parts, and they tell the member. -/
theorem IsMember.parts_eq {m : String} (h : IsMember m) :
    ∃ channel device, parts ' ' m = [channel, device] ∧ m = channel ++ " " ++ device := by
  cases h with
  | @mk channel device hchannel hdevice =>
    refine ⟨channel, device, ?_, rfl⟩
    have hjoin : channel ++ " " ++ device = " ".intercalate [channel, device] := by simp
    rw [hjoin, parts_intercalate rfl]
    simp [hchannel.parts_eq, hdevice.parts_eq]

theorem members_injective {members others : List String} (hmembers : ∀ m ∈ members, IsMember m)
    (hothers : ∀ m ∈ others, IsMember m)
    (h : members.flatMap (parts ' ') = others.flatMap (parts ' ')) : members = others := by
  induction members generalizing others with
  | nil =>
    cases others with
    | nil => rfl
    | cons m rest =>
      obtain ⟨channel, device, hm, -⟩ := (hothers m List.mem_cons_self).parts_eq
      simp [hm] at h
  | cons m rest ih =>
    rw [List.forall_mem_cons] at hmembers
    obtain ⟨channel, device, hm, rfl⟩ := hmembers.1.parts_eq
    cases others with
    | nil => simp [hm] at h
    | cons m' rest' =>
      rw [List.forall_mem_cons] at hothers
      obtain ⟨channel', device', hm', rfl⟩ := hothers.1.parts_eq
      rw [List.flatMap_cons, List.flatMap_cons, hm, hm'] at h
      obtain ⟨rfl, rfl, hrest⟩ : channel = channel' ∧ device = device' ∧
          rest.flatMap (parts ' ') = rest'.flatMap (parts ' ') := by simpa using h
      rw [ih hmembers.2 hothers.2 hrest]

theorem createArguments_injective {controller controller' level level' line : String}
    {size size' : SizeRequest} {members members' : List String}
    (hplain : IsPlain controller level members) (hplain' : IsPlain controller' level' members')
    (h : createArguments controller size level members = .ok line)
    (h' : createArguments controller' size' level' members' = .ok line) :
    controller = controller' ∧ size = size' ∧ level = level' ∧ members = members' := by
  obtain ⟨megabytes, hsize, hparts⟩ := parts_of_createArguments hplain h
  obtain ⟨megabytes', hsize', hparts'⟩ := parts_of_createArguments hplain' h'
  rw [hparts'] at hparts
  obtain ⟨hcontroller, rfl, hlevel, hmembers⟩ : controller' = controller ∧ megabytes' = megabytes ∧
      level' = level ∧ members'.flatMap (parts ' ') = members.flatMap (parts ' ') := by
    simpa using hparts
  exact ⟨hcontroller.symm, SizeRequest.megabytes_injective hsize hsize', hlevel.symm,
    members_injective hplain.members hplain'.members hmembers.symm⟩

end Arcconf

/-! ## MegaCLI -/

namespace MegaCli

/-- A member of a virtual drive: it does not end the list of members, nor an entry of it. -/
structure IsMember (s : String) : Prop where
  ne_empty : s ≠ ""
  no_comma : ',' ∉ s.toList
  no_bracket : ']' ∉ s.toList

/-- The list of members begins where it seems to, and so does what follows it. -/
structure IsPlain (level : String) (members : List String) : Prop where
  level : '[' ∉ level.toList
  members : ∀ m ∈ members, IsMember m

theorem toList_createArguments (controller level : String) (members : List String) :
    (createArguments controller level members).toList =
      "-CfgLdAdd -r".toList ++ (level.toList ++ '[' :: ((",".intercalate members).toList ++
        ']' :: (" -a".toList ++ controller.toList))) := by
  simp [createArguments, toString, String.toList_append]

theorem members_injective {members others : List String} (hmembers : ∀ m ∈ members, IsMember m)
    (hothers : ∀ m ∈ others, IsMember m)
    (h : ",".intercalate members = ",".intercalate others) : members = others := by
  have hparts {ms : List String} (hms : ∀ m ∈ ms, IsMember m) :
      parts ',' (",".intercalate ms) = ms := by
    have hsingle : ms.flatMap (parts ',') = ms.flatMap fun m => [m] :=
      List.flatMap_congr fun m hm => parts_eq_singleton (hms m hm).ne_empty (hms m hm).no_comma
    rw [parts_intercalate rfl, hsingle, List.flatMap_singleton']
  rw [← hparts hmembers, h, hparts hothers]

theorem createArguments_injective {controller controller' level level' : String}
    {members members' : List String} (hplain : IsPlain level members)
    (hplain' : IsPlain level' members')
    (h : createArguments controller level members = createArguments controller' level' members') :
    controller = controller' ∧ level = level' ∧ members = members' := by
  have hbracket {ms : List String} (hms : ∀ m ∈ ms, IsMember m) :
      ']' ∉ (",".intercalate ms).toList :=
    not_mem_intercalate (by decide) fun m hm => (hms m hm).no_bracket
  have hlist := congrArg String.toList h
  rw [toList_createArguments, toList_createArguments, List.append_cancel_left_eq] at hlist
  obtain ⟨hlevel, hrest⟩ := append_cons_inj hplain.level hplain'.level hlist
  obtain ⟨hmembers, hend⟩ :=
    append_cons_inj (hbracket hplain.members) (hbracket hplain'.members) hrest
  have hcontroller : controller.toList = controller'.toList := List.append_cancel_left hend
  exact ⟨String.toList_injective hcontroller, String.toList_injective hlevel,
    members_injective hplain.members hplain'.members (String.toList_injective hmembers)⟩

end MegaCli

/-- The command line that creates a drive tells what was asked for: for arcconf the controller, the
size, the level and the members in order, and for MegaCLI all but the size, which it does not take.
-/
theorem createArguments_unambiguous :
    (∀ controller size level members controller' size' level' members' line,
      Arcconf.IsPlain controller level members → Arcconf.IsPlain controller' level' members' →
      Arcconf.createArguments controller size level members = .ok line →
      Arcconf.createArguments controller' size' level' members' = .ok line →
      controller = controller' ∧ size = size' ∧ level = level' ∧ members = members') ∧
    (∀ controller level members controller' level' members',
      MegaCli.IsPlain level members → MegaCli.IsPlain level' members' →
      MegaCli.createArguments controller level members =
        MegaCli.createArguments controller' level' members' →
      controller = controller' ∧ level = level' ∧ members = members') := by
  constructor
  · intro controller size level members controller' size' level' members' line hplain hplain' h h'
    exact Arcconf.createArguments_injective hplain hplain' h h'
  · intro controller level members controller' level' members' hplain hplain' h
    exact MegaCli.createArguments_injective hplain hplain' h

/-- A mirror of two disks is asked for by one line of each tool, and by this line nothing else is.
-/
theorem createArguments_unambiguous_mirror :
    (∀ controller size level members, Arcconf.IsPlain controller level members →
      (Arcconf.createArguments controller size level members =
          .ok "create 1 LOGICALDRIVE 102400 1 0 0 0 1 noprompt" ↔
        controller = "1" ∧ size = .gb 100 ∧ level = "1" ∧ members = ["0 0", "0 1"])) ∧
    (∀ controller level members, MegaCli.IsPlain level members →
      (MegaCli.createArguments controller level members = "-CfgLdAdd -r1[8:0,8:1] -a0" ↔
        controller = "0" ∧ level = "1" ∧ members = ["8:0", "8:1"])) := by
  have hzero : Arcconf.IsArgument "0" := ⟨by decide, by decide⟩
  have hone : Arcconf.IsArgument "1" := ⟨by decide, by decide⟩
  have hplain : Arcconf.IsPlain "1" "1" ["0 0", "0 1"] := by
    refine ⟨hone, hone, List.forall_mem_cons.2 ⟨.mk hzero hzero, ?_⟩⟩
    exact List.forall_mem_singleton.2 (.mk hzero hone)
  have hline : Arcconf.createArguments "1" (.gb 100) "1" ["0 0", "0 1"] =
      .ok "create 1 LOGICALDRIVE 102400 1 0 0 0 1 noprompt" := by decide
  have hplain' : MegaCli.IsPlain "1" ["8:0", "8:1"] := by
    refine ⟨by decide, List.forall_mem_cons.2 ⟨⟨by decide, by decide, by decide⟩, ?_⟩⟩
    exact List.forall_mem_singleton.2 ⟨by decide, by decide, by decide⟩
  have hline' : MegaCli.createArguments "0" "1" ["8:0", "8:1"] = "-CfgLdAdd -r1[8:0,8:1] -a0" := by
    decide
  constructor
  · intro controller size level members h
    constructor
    · intro hsame
      exact createArguments_unambiguous.1 _ _ _ _ _ _ _ _ _ h hplain hsame hline
    · rintro ⟨rfl, rfl, rfl, rfl⟩
      exact hline
  · intro controller level members h
    constructor
    · intro hsame
      exact createArguments_unambiguous.2 _ _ _ _ _ _ h hplain' (hsame.trans hline'.symm)
    · rintro ⟨rfl, rfl, rfl⟩
      exact hline'

end RaidProvision
