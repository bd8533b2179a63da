import RaidProvision.Machine.Facts
import RaidProvision.Proofs.Session.Exchange

/-!
# Facts that do not depend on one another

An inventory asks the machine for three facts, with one command each and whatever came of the
others. A fact is told by the reply to its own command alone. If this is no reply that can be read,
the fact is left out, and all else is as it would be.

* `BlockDevice.isSome_ofValue_iff`, `BlockDevice.ofText_eq_ok_iff`: which elements of which listings
  are devices.
* `value_inventory`, `exchanges_inventory`: an inventory is the outcomes of its three commands.
* `inventory_tells`: each fact, and when it is left out.
* `inventory_isolated`: two inventories differ in no fact whose command got the same reply.
-/
namespace RaidProvision

open RaidProvision.Text RaidProvision.Json

/-! ## Devices in a listing -/

namespace BlockDevice

/-- A listing has some elements: it is an object, and the array that it calls `blockdevices`
holds them. -/
def Lists (listing : String) (elements : List Value) : Prop :=
  ∃ value, Value.parse? listing = some value ∧
    value.member? "blockdevices" = some (.array elements)

/-- An element that stands for a disk with a name. -/
def IsNamedDisk (element : Value) : Prop :=
  (∃ name, element.member? "name" = some (.text name) ∧ name ≠ "") ∧
    element.member? "type" = some (.text "disk")

theorem text?_getD_null (member : Option Value) (s : String) :
    (member.getD .null).text? = some s ↔ member = some (.text s) := by
  cases member with
  | none => simp [Value.text?]
  | some value => cases value <;> simp [Value.text?]

theorem isSome_ofValue_iff (element : Value) :
    (ofValue element).isSome ↔ IsNamedDisk element := by
  have hname : (((element.member? "name").getD .null).text?.getD "").isEmpty = false ↔
      ∃ name, element.member? "name" = some (.text name) ∧ name ≠ "" := by
    simp only [← text?_getD_null]
    cases ((element.member? "name").getD .null).text? <;> simp
  have htype : ((element.member? "type").getD .null).text? = some "disk" ↔
      element.member? "type" = some (.text "disk") := text?_getD_null _ _
  rw [IsNamedDisk, ← hname, ← htype, ofValue]
  split
  case isTrue hskip =>
    rw [Bool.or_eq_true, bne_iff_ne] at hskip
    rcases hskip with hempty | hother
    · simp [hempty]
    · simp [hother]
  case isFalse hkeep =>
    rw [Bool.or_eq_true, not_or, bne_iff_ne, Bool.not_eq_true, ne_eq, Decidable.not_not] at hkeep
    simpa using hkeep

theorem ofValues_eq_nil_iff (elements : List Value) :
    ofValues elements = [] ↔ ∀ element ∈ elements, ¬ IsNamedDisk element := by
  simp only [ofValues, List.filterMap_eq_nil_iff, ← isSome_ofValue_iff,
    Option.not_isSome_iff_eq_none]

theorem ofText_eq_ok_iff {listing : String} {devices : List BlockDevice} :
    ofText listing = .ok devices ↔
      ∃ elements, Lists listing elements ∧ ofValues elements = devices := by
  unfold ofText Lists
  cases Value.parse? listing with
  | none => simp
  | some value =>
    simp only [Option.some.injEq, exists_eq_left', ofListing]
    split
    case h_1 elements helements => simp [helements]
    case h_2 hother =>
      constructor
      · rintro ⟨⟩
      · rintro ⟨elements, helements, -⟩
        exact absurd helements (hother elements)

end BlockDevice

/-! ## The three facts -/

/-- What the machine is asked for. -/
inductive Fact where
  | blockDevices
  | bmcAddress
  | identity
  deriving DecidableEq, Repr

namespace Fact

/-- The facts in the order in which they are asked for. -/
def all : List Fact := [.blockDevices, .bmcAddress, .identity]

/-- The command that asks for a fact. -/
def command (tools : ToolPaths) : Fact → Command
  | .blockDevices => tools.listDevices
  | .bmcAddress => tools.printLan
  | .identity => tools.printSystem

/-- Which of the replies of a machine is the one to the command of a fact. -/
def position : Fact → Nat
  | .blockDevices => 0
  | .bmcAddress => 1
  | .identity => 2

/-- The command of a fact and what comes of it. -/
def exchange (tools : ToolPaths) (host : Host) (fact : Fact) : Exchange :=
  ⟨fact.command tools,
    (host.replies[fact.position]?.getD .silent).orRefused (fact.command tools)⟩

/-- Two inventories are the same in a fact. -/
def SameIn (a b : Inventory) : Fact → Prop
  | .blockDevices => a.blockDevices = b.blockDevices
  | .bmcAddress => a.bmcAddress = b.bmcAddress
  | .identity => a.identity = b.identity

end Fact

namespace ToolPaths

variable (tools : ToolPaths) (drives : List PhysicalDrive) (host : Host)

/-- The replies of a machine are taken one after the other. -/
theorem exchange_eq :
    Fact.all.map (Fact.exchange tools host) =
      [⟨tools.listDevices, host.reply tools.listDevices⟩,
        ⟨tools.printLan, { host with replies := host.replies.tail }.reply tools.printLan⟩,
        ⟨tools.printSystem,
          { host with replies := host.replies.tail.tail }.reply tools.printSystem⟩] := by
  simp only [Fact.all, List.map_cons, List.map_nil, Fact.exchange, Fact.command, Fact.position,
    Host.reply, Host.nextReply, List.head?_eq_getElem?, List.getElem?_tail]

theorem value_inventory :
    ((tools.inventory drives).run host).value = {
      blockDevices :=
        ((Fact.blockDevices.exchange tools host).outcome BlockDevice.ofText).toOption.getD []
      drives := drives
      bmcAddress := ((Fact.bmcAddress.exchange tools host).outcome Machine.bmcAddress).toOption
      identity := ((Fact.identity.exchange tools host).outcome Identity.ofReport).toOption } := by
  have hdevices := ToolTask.run_executeRead tools.listDevices BlockDevice.ofText
  have haddress := ToolTask.run_executeRead tools.printLan Machine.bmcAddress
  have hidentity := ToolTask.run_executeRead tools.printSystem Identity.ofReport
  simp only [Procedure.run] at hdevices haddress hidentity
  have hreplies := tools.exchange_eq host
  simp only [Fact.all, List.map_cons, List.map_nil, List.cons.injEq, and_true] at hreplies
  obtain ⟨hfirst, hsecond, hthird⟩ := hreplies
  rw [hfirst, hsecond, hthird]
  simp only [inventory, blockDevices, bmcAddress, identity, Script.run_bind, Script.run_done,
    hdevices, haddress, hidentity]

theorem exchanges_inventory :
    (tools.inventory drives).exchanges host = Fact.all.map (Fact.exchange tools host) := by
  have hdevices := ToolTask.run_executeRead tools.listDevices BlockDevice.ofText
  have haddress := ToolTask.run_executeRead tools.printLan Machine.bmcAddress
  have hexchanges := @ToolTask.exchanges_executeRead
  simp only [Procedure.run, Procedure.exchanges] at hdevices haddress hexchanges
  rw [exchange_eq]
  simp only [inventory, blockDevices, bmcAddress, identity, Script.exchanges_bind,
    Script.exchanges_done, hexchanges, hdevices, haddress, List.cons_append, List.nil_append]

end ToolPaths

/-! ## What an inventory tells -/

/-- What an inventory tells, given its drives and what came of its three commands. -/
structure Inventory.Tells (inventory : Inventory) (drives : List PhysicalDrive)
    (listing lan system : Exchange) : Prop where
  drives_eq : inventory.drives = drives
  devices_eq : ∀ devices, listing.Gives BlockDevice.ofText devices →
    inventory.blockDevices = devices
  /-- The listing cannot be had or read, or no disk in it has a name. -/
  devices_eq_nil_iff : inventory.blockDevices = [] ↔
    (∃ cause, listing.Fails BlockDevice.ofText cause) ∨
      ∃ text elements, listing.reply.read listing.command = .ok text ∧
        BlockDevice.Lists text elements ∧ ∀ element ∈ elements, ¬ BlockDevice.IsNamedDisk element
  address_iff : ∀ address, inventory.bmcAddress = some address ↔
    lan.Gives Machine.bmcAddress address
  no_address_iff : inventory.bmcAddress = none ↔ ∃ cause, lan.Fails Machine.bmcAddress cause
  identity_iff : ∀ identity, inventory.identity = some identity ↔
    system.Gives Identity.ofReport identity
  no_identity_iff : inventory.identity = none ↔ ∃ cause, system.Fails Identity.ofReport cause

namespace BlockDevice

variable {listing : Exchange}

theorem getD_outcome_eq_of_gives {devices : List BlockDevice} (h : listing.Gives ofText devices) :
    (listing.outcome ofText).toOption.getD [] = devices := by
  rw [Exchange.toOption_outcome_eq_some_iff.2 h, Option.getD_some]

theorem getD_outcome_eq_nil_iff :
    (listing.outcome ofText).toOption.getD [] = [] ↔
      (∃ cause, listing.Fails ofText cause) ∨
        ∃ text elements, listing.reply.read listing.command = .ok text ∧ Lists text elements ∧
          ∀ element ∈ elements, ¬ IsNamedDisk element := by
  constructor
  · intro hnil
    cases hd : (listing.outcome ofText).toOption with
    | none => exact .inl (Exchange.toOption_outcome_eq_none_iff.1 hd)
    | some devices =>
      obtain rfl : devices = [] := by simpa [hd] using hnil
      obtain ⟨text, hr, hp⟩ := Exchange.toOption_outcome_eq_some_iff.1 hd
      obtain ⟨elements, hl, hnone⟩ := ofText_eq_ok_iff.1 hp
      exact .inr ⟨text, elements, hr, hl, (ofValues_eq_nil_iff elements).1 hnone⟩
  · rintro (hfails | ⟨text, elements, hr, hl, hnone⟩)
    · rw [Exchange.toOption_outcome_eq_none_iff.2 hfails, Option.getD_none]
    · exact getD_outcome_eq_of_gives
        ⟨text, hr, ofText_eq_ok_iff.2 ⟨elements, hl, (ofValues_eq_nil_iff elements).2 hnone⟩⟩

end BlockDevice

namespace ToolPaths

variable (tools : ToolPaths) (drives : List PhysicalDrive) (host : Host)

theorem inventory_tells :
    ((tools.inventory drives).run host).value.Tells drives
      (Fact.blockDevices.exchange tools host) (Fact.bmcAddress.exchange tools host)
      (Fact.identity.exchange tools host) := by
  rw [value_inventory]
  exact {
    drives_eq := rfl
    devices_eq := fun _ h => BlockDevice.getD_outcome_eq_of_gives h
    devices_eq_nil_iff := BlockDevice.getD_outcome_eq_nil_iff
    address_iff := fun _ => Exchange.toOption_outcome_eq_some_iff
    no_address_iff := Exchange.toOption_outcome_eq_none_iff
    identity_iff := fun _ => Exchange.toOption_outcome_eq_some_iff
    no_identity_iff := Exchange.toOption_outcome_eq_none_iff }

/-- Whatever the machine answers there is an inventory, after three commands in a fixed order. Each
fact is what the reply to its own command tells and is left out if that is nothing; so on two
machines that give the same reply to this command it is the same, whatever the other replies. -/
theorem inventory_isolated :
    (tools.inventory drives).exchanges host = Fact.all.map (Fact.exchange tools host) ∧
    ((tools.inventory drives).run host).value.Tells drives
      (Fact.blockDevices.exchange tools host) (Fact.bmcAddress.exchange tools host)
      (Fact.identity.exchange tools host) ∧
    ∀ (other : Host) (fact : Fact), fact.exchange tools host = fact.exchange tools other →
      fact.SameIn ((tools.inventory drives).run host).value
        ((tools.inventory drives).run other).value := by
  refine ⟨tools.exchanges_inventory drives host, tools.inventory_tells drives host, ?_⟩
  intro other fact hsame
  rw [value_inventory, value_inventory]
  cases fact with
  | blockDevices => simp only [Fact.SameIn, hsame]
  | bmcAddress => simp only [Fact.SameIn, hsame]
  | identity => simp only [Fact.SameIn, hsame]

/-- A machine that answers all three commands, after an answer to the first. -/
def answering (devices : Reply) : Host :=
  .ofReplies [devices, .printed "IP Address : 10.0.0.2\n",
    .printed "Manufacturer: m\nProduct Name: p\nSerial Number: s\n"]

/-- The first command of one machine is killed, and that of another is answered. -/
theorem inventory_isolated_killed :
    let killed := answering (.ended .killed [] [])
    let listed := answering (.printed "\x7b\"blockdevices\": []\x7d")
    Fact.identity.exchange .standard killed = Fact.identity.exchange .standard listed ∧
      Fact.identity.SameIn ((ToolPaths.standard.inventory []).run killed).value
        ((ToolPaths.standard.inventory []).run listed).value :=
  ⟨rfl, (inventory_isolated .standard [] (answering (.ended .killed [] []))).2.2 _ .identity rfl⟩

end ToolPaths
end RaidProvision
