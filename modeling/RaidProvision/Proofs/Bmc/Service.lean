import RaidProvision.Bmc.Setter
import RaidProvision.Proofs.Report.FirstSeparator

/-!
# The service behind a callback address

The address of the service is what a callback address holds before its first suffix. It may end in
a part of the suffix, and what follows the suffix may hold it again: the suffix has no border, so
none begins in the service and ends behind it.

* `serviceOf_append`: the service is found in front of the suffix, whatever follows.
* `cutsFirst_serviceOf`: an address with a suffix is cut at the first one.
* `serviceOf_eq_iff`: which text is the service of an address.
* `serviceOf_cuts_at_suffix`: where an address is cut, and that a second cut takes nothing away.
* `update_withCallback_append`: the suffix and what follows it do not change what is run.
-/
namespace RaidProvision.BmcSetter

open RaidProvision.Text RaidProvision.Report

variable {service url : String}

theorem unbordered_callbackSuffix : Unbordered callbackSuffix.toList := by decide

theorem callbackSuffix_ne_empty : callbackSuffix ≠ "" := by decide

/-! ## The cut -/

theorem serviceOf_append (rest : String) (h : ¬ Occurs callbackSuffix service) :
    serviceOf (service ++ callbackSuffix ++ rest) = service := by
  have hne : callbackSuffix.toList ≠ [] := by simpa using callbackSuffix_ne_empty
  have hcut := (unbordered_iff_cutFirst_append hne).1 unbordered_callbackSuffix service.toList
    rest.toList (mt occurs_iff.2 h)
  have hsplit : splitFirst callbackSuffix (service ++ callbackSuffix ++ rest) =
      some (service, rest) :=
    splitFirst_eq_some_iff_cutFirst.2 (by simpa only [String.toList_append] using hcut)
  rw [serviceOf, hsplit]

theorem serviceOf_of_not_occurs (h : ¬ Occurs callbackSuffix url) : serviceOf url = url := by
  refine serviceOf_of_not_contains ?_
  rwa [← Bool.not_eq_true, contains_iff, ← occurs_iff]

theorem cutsFirst_serviceOf (h : Occurs callbackSuffix url) :
    ∃ rest, CutsFirst callbackSuffix url (serviceOf url) rest := by
  obtain ⟨front, back, hcut, hsplit⟩ := splitFirst_of_occurs callbackSuffix_ne_empty h
  have hservice : serviceOf url = front := by rw [serviceOf, hsplit]
  exact ⟨back, hservice ▸ hcut⟩

theorem serviceOf_free (url : String) : ¬ Occurs callbackSuffix (serviceOf url) := by
  by_cases h : Occurs callbackSuffix url
  · obtain ⟨rest, hcut⟩ := cutsFirst_serviceOf h
    exact hcut.front_free callbackSuffix_ne_empty
  · rwa [serviceOf_of_not_occurs h]

theorem eq_serviceOf_or_append (url : String) :
    url = serviceOf url ∨ ∃ rest, url = serviceOf url ++ callbackSuffix ++ rest := by
  by_cases h : Occurs callbackSuffix url
  · obtain ⟨rest, hcut⟩ := cutsFirst_serviceOf h
    exact .inr ⟨rest, hcut.line_eq⟩
  · exact .inl (serviceOf_of_not_occurs h).symm

/-- The service of an address is the one text without the suffix that is the whole address or stands
in it before a suffix. -/
theorem serviceOf_eq_iff : serviceOf url = service ↔
    ¬ Occurs callbackSuffix service ∧
      (url = service ∨ ∃ rest, url = service ++ callbackSuffix ++ rest) := by
  constructor
  · rintro rfl
    exact ⟨serviceOf_free url, eq_serviceOf_or_append url⟩
  · rintro ⟨hfree, rfl | ⟨rest, rfl⟩⟩
    · exact serviceOf_of_not_occurs hfree
    · exact serviceOf_append rest hfree

/-- **A callback address is cut at its first suffix.** A text without the suffix is found again in
front of it, whatever it ends in and whatever follows, and an address without the suffix stays as it
is. What is left of any address is a start of it that holds no suffix, no suffix begins before it
ends, and cutting it again takes nothing away. -/
theorem serviceOf_cuts_at_suffix :
    (∀ service rest, ¬ Occurs callbackSuffix service →
      serviceOf (service ++ callbackSuffix ++ rest) = service) ∧
    (∀ url, ¬ Occurs callbackSuffix url → serviceOf url = url) ∧
    ∀ url, (Occurs callbackSuffix url →
        ∃ rest, CutsFirst callbackSuffix url (serviceOf url) rest) ∧
      (∃ rest, url = serviceOf url ++ rest) ∧
      ¬ Occurs callbackSuffix (serviceOf url) ∧
      serviceOf (serviceOf url) = serviceOf url := by
  refine ⟨fun service rest => serviceOf_append rest, fun url => serviceOf_of_not_occurs,
    fun url => ⟨cutsFirst_serviceOf, ?_, serviceOf_free url, ?_⟩⟩
  · obtain hwhole | ⟨rest, hcut⟩ := eq_serviceOf_or_append url
    · exact ⟨"", by rw [String.append_empty, ← hwhole]⟩
    · exact ⟨callbackSuffix ++ rest, by rw [← String.append_assoc, ← hcut]⟩
  · exact serviceOf_of_not_occurs (serviceOf_free url)

/-- The service ends in all but the last character of a suffix, and another one follows. -/
theorem serviceOf_cuts_at_suffix_in_part :
    serviceOf ("http://10.0.0.1/v1/continu" ++ callbackSuffix ++ "e/v1/continue") =
      "http://10.0.0.1/v1/continu" ∧
    serviceOf "http://10.0.0.1/v1/continu" = "http://10.0.0.1/v1/continu" ∧
    ∃ rest, CutsFirst callbackSuffix "/v1/continue/v1/continue"
      (serviceOf "/v1/continue/v1/continue") rest :=
  ⟨serviceOf_cuts_at_suffix.1 _ _ (by decide), serviceOf_cuts_at_suffix.2.1 _ (by decide),
    (serviceOf_cuts_at_suffix.2.2 _).1 (by decide)⟩

/-! ## What is run -/

variable (setter : BmcSetter)

/-- The same, with another callback address. -/
def withCallback (url : String) : BmcSetter :=
  { setter with inspection := { setter.inspection with callbackUrl := url } }

variable {setter} {url' : String}

theorem attempt_withCallback (h : serviceOf url = serviceOf url') :
    (setter.withCallback url).attempt = (setter.withCallback url').attempt := by
  have hsettings :
      (setter.withCallback url).settingsUrl = (setter.withCallback url').settingsUrl := by
    funext serial
    simp only [settingsUrl, withCallback, h]
  simp only [attempt, hsettings]
  rfl

theorem attempts_withCallback (h : serviceOf url = serviceOf url') (more : Nat) :
    (setter.withCallback url).attempts more = (setter.withCallback url').attempts more := by
  induction more with
  | zero => rw [attempts, attempts, attempt_withCallback h]
  | succ more ih =>
    rw [attempts, attempts, attempt_withCallback h, ih]
    rfl

/-- The suffix of a callback address and what follows it make no difference to any run. -/
theorem update_withCallback_append (rest : String) (h : ¬ Occurs callbackSuffix service)
    (data : Json.Members) (failures : Failures) :
    (setter.withCallback (service ++ callbackSuffix ++ rest)).update data failures =
      (setter.withCallback service).update data failures := by
  have hservice : serviceOf (service ++ callbackSuffix ++ rest) = serviceOf service := by
    rw [serviceOf_append rest h, serviceOf_of_not_occurs h]
  unfold update
  simp only [attempts_withCallback hservice]
  rfl

end RaidProvision.BmcSetter
