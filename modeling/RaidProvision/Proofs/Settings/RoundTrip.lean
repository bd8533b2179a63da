import RaidProvision.Proofs.Toml.RoundTrip
import RaidProvision.Settings.Toml

/-!
# Reading back settings

Settings that are written as a document are read again as they were, whatever their texts hold
within one line: quotes, backslashes, tabs and the marks of the document itself. The three tables
are written in full, so no standard value takes the place of one that was set, and a log path that
is absent is left out and stays absent.

* `toText_eq`: what is written is a document of three tables.
* `ofText_toText`: it is read again.
-/
namespace RaidProvision

open RaidProvision.Toml

/-- A setting that is a text. -/
def Toml.textField (key text : String) (hkey : BareKey key) (h : OneLine text) : Field where
  key := key
  cs := quote text.toList
  value := .text text
  bareKey := hkey
  written := written_quote h

/-- A setting that is a number. -/
def Toml.numberField (key : String) (n : Nat) (hkey : BareKey key) (h : n < 2 ^ 63) : Field where
  key := key
  cs := (Nat.repr n).toList
  value := .integer n
  bareKey := hkey
  written := written_repr h

namespace Settings

/-- All texts among the settings. -/
def texts (s : Settings) : List String :=
  [s.tools.arcconf, s.tools.megacli, s.tools.ipmitool, s.tools.dmidecode, s.tools.lsblk,
    s.tools.curl, s.inspection.callbackUrl, s.log.level] ++ s.log.path.toList

/-- Settings that a document can hold: each text is one of one line, and the one number that may not
fit a word with sign does. -/
structure Writable (s : Settings) : Prop where
  oneLine : ∀ text ∈ s.texts, OneLine text
  interval : s.inspection.retryInterval.toNat < 2 ^ 63

variable {s : Settings}

/-- The settings on the tools as a table. -/
def toolsTable (h : s.Writable) : Table where
  name := "tools"
  fields := [
    textField "arcconf" s.tools.arcconf (bareKey_of_all rfl) (h.oneLine _ (by simp [texts])),
    textField "megacli" s.tools.megacli (bareKey_of_all rfl) (h.oneLine _ (by simp [texts])),
    textField "ipmitool" s.tools.ipmitool (bareKey_of_all rfl) (h.oneLine _ (by simp [texts])),
    textField "dmidecode" s.tools.dmidecode (bareKey_of_all rfl) (h.oneLine _ (by simp [texts])),
    textField "lsblk" s.tools.lsblk (bareKey_of_all rfl) (h.oneLine _ (by simp [texts])),
    textField "curl" s.tools.curl (bareKey_of_all rfl) (h.oneLine _ (by simp [texts]))]
  bareName := bareKey_of_all rfl
  nodup := by
    change ["arcconf", "megacli", "ipmitool", "dmidecode", "lsblk", "curl"].Nodup
    decide

theorem Writable.retries (_ : s.Writable) : s.inspection.retries.toNat < 2 ^ 63 := by
  have hword := s.inspection.retries.toNat_lt
  omega

/-- The settings on the inspection service as a table. -/
def inspectionTable (h : s.Writable) : Table where
  name := "inspection"
  fields := [
    textField "callback_url" s.inspection.callbackUrl (bareKey_of_all rfl)
      (h.oneLine _ (by simp [texts])),
    numberField "bmc_retries" s.inspection.retries.toNat (bareKey_of_all rfl) h.retries,
    numberField "bmc_retry_interval_sec" s.inspection.retryInterval.toNat (bareKey_of_all rfl)
      h.interval]
  bareName := bareKey_of_all rfl
  nodup := by
    change ["callback_url", "bmc_retries", "bmc_retry_interval_sec"].Nodup
    decide

/-- The setting of a log path, which is not written if there is none. -/
def pathFields (h : s.Writable) : List Field :=
  match hpath : s.log.path with
  | some path => [textField "path" path (bareKey_of_all rfl) (h.oneLine _ (by simp [texts, hpath]))]
  | none => []

/-- The settings on the log as a table. -/
def logTable (h : s.Writable) : Table where
  name := "log"
  fields := textField "level" s.log.level (bareKey_of_all rfl) (h.oneLine _ (by simp [texts])) ::
    pathFields h
  bareName := bareKey_of_all rfl
  nodup := by
    unfold pathFields
    split
    · change ["level", "path"].Nodup
      decide
    · change ["level"].Nodup
      decide

/-- What is written is a document of three tables. -/
theorem toText_eq (h : s.Writable) :
    s.toText = String.ofList (documentText [toolsTable h, inspectionTable h, logTable h]) := by
  have htools : (toolsTable h).text = header "tools" ++ s.tools.toToml := by
    simp [Table.text, toolsTable, textField, Field.text, ToolPaths.toToml]
  have hinspection : (inspectionTable h).text = header "inspection" ++ s.inspection.toToml := by
    simp [Table.text, inspectionTable, textField, numberField, Field.text, Inspection.toToml]
  have hlog : (logTable h).text = header "log" ++ s.log.toToml := by
    rw [Table.text, Logging.toToml]
    simp only [logTable, pathFields]
    split
    case h_1 path heq => simp [textField, Field.text, heq]
    case h_2 heq => simp [textField, Field.text, heq]
  rw [toText, documentText, documentText, documentText, htools, hinspection, hlog]
  · simp only [List.append_assoc, List.cons_append]
  · exact List.cons_ne_nil _ _
  · exact List.cons_ne_nil _ _

theorem word32?_toNat (w : UInt32) : (Item.value (.integer w.toNat)).word32? = some w := by
  have hword := w.toNat_lt
  have hbound : (0 ≤ (w.toNat : Int) && (w.toNat : Int) < UInt32.size) = true := by
    simp [UInt32.size]
    omega
  rw [Item.word32?, if_pos hbound, Int.toNat_natCast, UInt32.ofNat_toNat]

theorem word64?_toNat (w : UInt64) : (Item.value (.integer w.toNat)).word64? = some w := by
  have hword := w.toNat_lt
  have hbound : (0 ≤ (w.toNat : Int) && (w.toNat : Int) < UInt64.size) = true := by
    simp [UInt64.size]
    omega
  rw [Item.word64?, if_pos hbound, Int.toNat_natCast, UInt64.ofNat_toNat]

/-- The settings that a table gives. -/
def fieldsOf (t : Table) : Fields := .byKey (t.fields.map Field.entry)

theorem getOr_of_get? {α : Type} {fields : Fields} {position : Nat} {key : String} {item : Item}
    (h : fields.get? position key = some item) (read : Item → Option α) (standard : α) :
    fields.getOr position key read standard = read item := by
  rw [Fields.getOr, h]

theorem ofFields_toolsTable (h : s.Writable) :
    ToolPaths.ofFields (fieldsOf (toolsTable h)) = some s.tools := rfl

theorem ofFields_inspectionTable (h : s.Writable) :
    Inspection.ofFields (fieldsOf (inspectionTable h)) = some s.inspection := by
  have hurl : (fieldsOf (inspectionTable h)).get? 0 "callback_url" =
      some (.value (.text s.inspection.callbackUrl)) := rfl
  have hretries : (fieldsOf (inspectionTable h)).get? 1 "bmc_retries" =
      some (.value (.integer s.inspection.retries.toNat)) := rfl
  have hinterval : (fieldsOf (inspectionTable h)).get? 2 "bmc_retry_interval_sec" =
      some (.value (.integer s.inspection.retryInterval.toNat)) := rfl
  rw [Inspection.ofFields, getOr_of_get? hurl, getOr_of_get? hretries, getOr_of_get? hinterval,
    word32?_toNat, word64?_toNat]
  rfl

/-- A log path that is not written stays absent. -/
theorem ofFields_logTable (h : s.Writable) :
    Logging.ofFields (fieldsOf (logTable h)) = some s.log := by
  have hlevel : (fieldsOf (logTable h)).getOr 0 "level" Item.text? Logging.standard.level =
      some s.log.level := rfl
  have hpath : (fieldsOf (logTable h)).getOr 1 "path" (fun item => item.text?.map some)
      Logging.standard.path = some s.log.path := by
    simp only [fieldsOf, logTable, pathFields]
    split
    case h_1 path heq => exact (congrArg some heq).symm
    case h_2 heq => exact (congrArg some heq).symm
  rw [Logging.ofFields, hlevel, hpath]
  rfl

theorem group?_of_get? {document : Entries} {name : String} {t : Table}
    (h : document.get? name = some t.item) : group? document name = some (fieldsOf t) := by
  rw [group?, h]
  rfl

/-- A document with all three tables holds what these hold. -/
theorem ofDocument_of_get? {document : Entries} {t i l : Table}
    (htools : document.get? "tools" = some t.item)
    (hinspection : document.get? "inspection" = some i.item)
    (hlog : document.get? "log" = some l.item)
    {tools : ToolPaths} (ht : ToolPaths.ofFields (fieldsOf t) = some tools)
    {inspection : Inspection} (hi : Inspection.ofFields (fieldsOf i) = some inspection)
    {log : Logging} (hl : Logging.ofFields (fieldsOf l) = some log) :
    ofDocument document = some ⟨tools, inspection, log⟩ := by
  rw [ofDocument, group?_of_get? htools, group?_of_get? hinspection, group?_of_get? hlog]
  simp only [ht, hi, hl, Option.bind_eq_bind, Option.bind_some]
  rfl

/-- The tables hold the settings. -/
theorem ofDocument_tables (h : s.Writable) :
    ofDocument ([toolsTable h, inspectionTable h, logTable h].map Table.entry) = some s :=
  @ofDocument_of_get? _ (toolsTable h) (inspectionTable h) (logTable h) rfl rfl rfl
    _ (ofFields_toolsTable h) _ (ofFields_inspectionTable h) _ (ofFields_logTable h)

/-- **Round trip.** Settings that are written as a document are read again as they were. -/
theorem ofText_toText (h : s.Writable) : ofText s.toText = some s := by
  have hnames : ([toolsTable h, inspectionTable h, logTable h].map Table.name).Nodup := by
    change ["tools", "inspection", "log"].Nodup
    decide
  rw [ofText, toText_eq h, readDocument_documentText hnames, Option.bind_some,
    ofDocument_tables h]

/-- Settings full of what has a meaning of its own in a document. -/
def marked : Settings where
  tools := ⟨"", "C:\\tools\\megacli", "'ipmi tool'", "dmi\tdecode", "ls \"blk\"", "curl # none"⟩
  inspection := ⟨"http://[::1]/?a = \"b\"", 4294967295, 9223372036854775807⟩
  log := ⟨"[log]", some "\"\\"⟩

theorem ofText_toText_marked : marked.Writable ∧ ofText marked.toText = some marked :=
  have htexts : marked.texts.all (fun text => isOneLine text.toList) = true := by decide +kernel
  have hwritable : marked.Writable :=
    ⟨fun text htext => oneLine_of_isOneLine (List.all_eq_true.1 htexts text htext), by decide⟩
  ⟨hwritable, ofText_toText hwritable⟩

end Settings
end RaidProvision
