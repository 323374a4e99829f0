import Raid.Proofs.Document.Mirroring
import Raid.Proofs.Files.Storing
import Raid.Proofs.Toml.Building
import Raid.Settings.Resolution

/-!
Settings that were saved are loaded as they were. What a service leaves unsaid is not written and is
found unsaid again, and the names in a file may hold any characters.
-/

namespace Raid

theorem Dict.nodup_keys {α : Type} (dict : Dict α) : (dict.entries.map Prod.fst).Nodup := by
  refine List.pairwise_map.mpr (dict.sorted.imp fun rising same => ?_)
  rw [same] at rising
  exact String.lt_irrefl _ rising

open Toml DocumentNode Document

def SharedSettings.plain (defaults : SharedSettings) : List (String × Plain) :=
  [("write_directory", .text defaults.writeDirectory), ("output", .text defaults.output),
    ("invasive", .flag defaults.invasive)]

namespace ServiceEntry

/-- The values of a service, as they are printed. What is not said is left out. -/
def plain (entry : ServiceEntry) : List (String × Plain) :=
  ("tactics", .texts entry.tactics) ::
    ((entry.invasive.map fun value => ("invasive", .flag value)).toList ++
      (entry.writeDirectory.map fun value => ("write_directory", .text value)).toList ++
      (entry.output.map fun value => ("output", .text value)).toList)

def plainVars (entry : ServiceEntry) : List (String × Plain) :=
  entry.vars.entries.map fun var => (var.1, .text var.2)

def document (entry : ServiceEntry) : Toml :=
  .table .header (plainItems entry.plain ++ [("vars", .table .header (plainItems entry.plainVars))])

end ServiceEntry

namespace SettingsFile

def defaultsTable (defaults : SharedSettings) : String × Toml :=
  ("defaults", .table .header (plainItems defaults.plain))

/-- The tables of the services in a file that was saved. They have a table of their own, for which
there is a header only when it is empty. -/
def servicesDocument (settings : SettingsFile) : Toml :=
  .table (if settings.services.isEmpty then .header else .implied)
    (settings.services.entries.map fun entry => (entry.1, entry.2.document))

def document (settings : SettingsFile) : Toml :=
  .table .header [defaultsTable settings.defaults, ("services", settings.servicesDocument)]

end SettingsFile

/-! The text of a file is read as its table. -/

theorem ServiceEntry.plain_keys (entry : ServiceEntry) :
    (entry.plain.map Prod.fst).Sublist ["tactics", "invasive", "write_directory", "output"] := by
  obtain ⟨tactics, invasive, writeDirectory, output, vars⟩ := entry
  cases invasive <;> cases writeDirectory <;> cases output <;>
    simp only [plain, Option.map_none, Option.map_some, Option.toList, List.map_cons, List.map_nil,
      List.nil_append, List.cons_append] <;> decide

theorem ServiceEntry.plain_once (entry : ServiceEntry) :
    (entry.plain.map Prod.fst ++ ["vars"]).Nodup := by
  have order := entry.plain_keys.append_right ["vars"]
  exact order.nodup (by decide)

theorem ServiceEntry.plainVars_once (entry : ServiceEntry) :
    (entry.plainVars.map Prod.fst).Nodup := by
  have same : entry.plainVars.map Prod.fst = entry.vars.entries.map Prod.fst := by
    simp [plainVars]
  rw [same]
  exact entry.vars.nodup_keys

namespace SettingsFile

theorem defaultsText_eq (defaults : SharedSettings) :
    defaultsText defaults = headerLine ["defaults"] ++ valueLines defaults.plain := by
  simp [defaultsText, valueLines, SharedSettings.plain, Plain.written, String.append_assoc]

theorem varsText_eq (entry : ServiceEntry) :
    String.join (entry.vars.entries.map fun var => valueLine var.1 (textValue var.2)) =
      valueLines entry.plainVars := by
  rw [valueLines, ServiceEntry.plainVars, List.map_map]
  rfl

theorem serviceText_eq (name : String) (entry : ServiceEntry) :
    serviceText name entry =
      ("\n" ++ headerLine ["services", name] ++ valueLines entry.plain) ++
        ("\n" ++ headerLine ["services", name, "vars"] ++ valueLines entry.plainVars) := by
  rw [serviceText, varsText_eq]
  obtain ⟨tactics, invasive, writeDirectory, output, vars⟩ := entry
  cases invasive <;> cases writeDirectory <;> cases output <;>
    simp [valueLines, ServiceEntry.plain, Plain.written, optionalLine, String.append_assoc]

def around (defaults : SharedSettings) (services : Body) : Body :=
  lastly .header [defaultsTable defaults] "services" services

/-- What was built when the tables of some services had been read. No header tells of the table that
they are in, so that it is there only when one of them is. -/
def built (defaults : SharedSettings) (services : List (String × Toml)) : Body :=
  if services.isEmpty then (.header, [defaultsTable defaults])
  else around defaults (.implied, services)

theorem leads_services (defaults : SharedSettings) : Leads ["services"] (around defaults) :=
  leads_cons leads_nil (fun _ unclosed => unclosed) .header (by simp [defaultsTable])

theorem leads_service (defaults : SharedSettings) {services : List (String × Toml)} {name : String}
    (fresh : name ∉ services.map Prod.fst) :
    Leads ["services", name] fun inner => around defaults (lastly .implied services name inner) :=
  leads_cons (leads_cons leads_nil (fun _ unclosed => unclosed) .implied fresh)
    (fun _ _ => TableOrigin.noConfusion) .header (by simp [defaultsTable])

theorem leads_vars (defaults : SharedSettings) {services found : List (String × Toml)}
    {name : String} (fresh : name ∉ services.map Prod.fst)
    (unsaid : "vars" ∉ found.map Prod.fst) :
    Leads ["services", name, "vars"] fun inner =>
      around defaults (lastly .implied services name (lastly .header found "vars" inner)) :=
  leads_cons
    (leads_cons (leads_cons leads_nil (fun _ unclosed => unclosed) .header unsaid)
      (fun _ _ => TableOrigin.noConfusion) .implied fresh)
    (fun _ _ => TableOrigin.noConfusion) .header (by simp [defaultsTable])

theorem builds_defaults (defaults : SharedSettings) :
    Builds (defaultsText defaults) ([], .header, []) (["defaults"], built defaults []) := by
  have leads : Leads ["defaults"] (lastly .header [] "defaults") :=
    leads_cons leads_nil (fun _ unclosed => unclosed) .header (by simp)
  have values := builds_valueLines leads defaults.plain [] (by simp [SharedSettings.plain])
  rw [defaultsText_eq]
  exact .append (.header _ rfl (extend_openTable leads_nil (by simp) (by simp))) values

/-- The header of a service makes the table that all services are in when it is missing. -/
theorem extend_service (defaults : SharedSettings) {services : List (String × Toml)} {name : String}
    (fresh : name ∉ services.map Prod.fst) :
    extend false (openTable name) ["services"] (built defaults services) =
      some (around defaults (lastly .implied services name (.header, []))) := by
  cases services with
  | nil => rfl
  | cons service services =>
    exact extend_openTable (leads_services defaults) (by simp) fresh

theorem builds_service (defaults : SharedSettings) {services : List (String × Toml)} {name : String}
    (fresh : name ∉ services.map Prod.fst) (entry : ServiceEntry) (current : List String) :
    Builds (serviceText name entry) (current, built defaults services)
      (["services", name, "vars"], built defaults (services ++ [(name, entry.document)])) := by
  have unsaid : "vars" ∉ (plainItems entry.plain).map Prod.fst := by
    rw [plainItems_keys]
    exact fun member => absurd (entry.plain_keys.subset member) (by decide)
  have once : (entry.plain.map Prod.fst).Nodup := (List.nodup_append.mp entry.plain_once).1
  have values := builds_valueLines (leads_service defaults fresh) entry.plain [] once
  have vars := builds_valueLines (leads_vars defaults fresh unsaid) entry.plainVars []
    entry.plainVars_once
  have done : built defaults (services ++ [(name, entry.document)]) =
      around defaults (.implied, services ++ [(name, entry.document)]) := by
    simp [built]
  rw [serviceText_eq, done]
  refine .append (.append (.append (.lineBreak _) (.header _ rfl (extend_service defaults fresh))) values)
    (.append (.append (.lineBreak _) (.header _ rfl ?_)) vars)
  exact extend_openTable (leads_service defaults fresh) (by simp) unsaid

theorem builds_services (defaults : SharedSettings) (entries : List (String × ServiceEntry))
    (services : List (String × Toml))
    (once : (services.map Prod.fst ++ entries.map Prod.fst).Nodup) (current : List String) :
    ∃ later, Builds (String.join (entries.map fun entry => serviceText entry.1 entry.2))
      (current, built defaults services)
      (later, built defaults (services ++ entries.map fun entry => (entry.1, entry.2.document))) := by
  induction entries generalizing services current with
  | nil => exact ⟨current, by simpa using Builds.nothing _⟩
  | cons entry rest ih =>
    have fresh : entry.1 ∉ services.map Prod.fst := by
      intro member
      exact (List.nodup_append.mp once).2.2 _ member _ (by simp) rfl
    have first := builds_service defaults fresh entry.2 current
    obtain ⟨later, others⟩ := ih (services ++ [(entry.1, entry.2.document)])
      (by simpa using once) ["services", entry.1, "vars"]
    rw [List.append_assoc] at others
    exact ⟨later, by simpa using first.append others⟩

theorem parse_text_document (settings : SettingsFile) :
    Toml.parse settings.text = some settings.document := by
  have unmarked : settings.text.toList.head? ≠ some '\ufeff' := by
    have front : settings.text.toList.head? = some '[' := by
      simp only [text, defaultsText, headerLine, String.append_assoc, String.toList_append]
      rfl
    rw [front]
    decide
  have begun := builds_defaults settings.defaults
  cases empty : settings.services.isEmpty with
  | true =>
    have opened : extend false (openTable "services") [] (built settings.defaults []) =
        some (around settings.defaults (.header, [])) :=
      extend_openTable leads_nil (by simp) (by simp [defaultsTable])
    have whole := begun.append
      ((Builds.lineBreak _).append (.header ["services"] rfl opened))
    have none := List.isEmpty_iff.mp empty
    rw [text, if_pos empty] at unmarked ⊢
    rw [whole.parse unmarked, document, servicesDocument, empty, none]
    rfl
  | false =>
    obtain ⟨later, made⟩ := builds_services settings.defaults settings.services.entries []
      settings.services.nodup_keys ["defaults"]
    have some' : (settings.services.entries.map fun entry => (entry.1, entry.2.document)).isEmpty =
        false := by
      rw [List.isEmpty_map]
      exact empty
    rw [text, if_neg (by simp [empty])] at unmarked ⊢
    rw [(begun.append made).parse unmarked, document, servicesDocument, empty, built,
      List.nil_append, some']
    rfl

end SettingsFile

/-! The table is read as the settings. -/

namespace Toml

@[simp] theorem text?_text (value : String) : DocumentNode.text? (Toml.text value) = some value := rfl

@[simp] theorem flag?_flag (value : Bool) : DocumentNode.flag? (Toml.flag value) = some value := rfl

@[simp] theorem items?_list (ofTables : Bool) (items : List Toml) :
    DocumentNode.items? (Toml.list ofTables items) = some items := rfl

@[simp] theorem entries?_table (origin : TableOrigin) (entries : List (String × Toml)) :
    DocumentNode.entries? (Toml.table origin entries) =
      some (entries.map fun entry => (.text entry.1, entry.2)) := rfl

/-- A record is read from a table that gives each of its fields once. -/
theorem fields_table {names : List String} {entries : List (String × Toml)}
    (once : (entries.map Prod.fst).Nodup) (known : ∀ key ∈ entries.map Prod.fst, key ∈ names)
    (origin : TableOrigin) :
    fields names (Toml.table origin entries) = some ⟨false, entries⟩ := by
  have named : namedFields names (entries.map fun entry => (Toml.text entry.1, entry.2)) =
      some entries := by
    induction entries with
    | nil => rfl
    | cons entry rest ih =>
      rw [List.map_cons, List.nodup_cons] at once
      obtain ⟨here, known⟩ := List.forall_mem_cons.mp known
      rw [List.map_cons, namedFields, text?_text, ih once.2 known]
      simp only [Option.bind_eq_bind, Option.bind_some, if_pos here, valueAt?_eq_none.mpr once.1]
      rfl
  simp only [fields, entries?_table, named, Option.map_some]

theorem dict_table {α : Type} {read : Toml → Option α} (write : α → Toml) (dictionary : Dict α)
    (reads : ∀ value, read (write value) = some value) (origin : TableOrigin) :
    dict read (Toml.table origin (dictionary.entries.map fun entry => (entry.1, write entry.2))) =
      some dictionary := by
  have each (entries : List (String × α)) :
      dictEntries read ((entries.map fun entry => (entry.1, write entry.2)).map fun entry =>
        (Toml.text entry.1, entry.2)) = some entries := by
    induction entries with
    | nil => rfl
    | cons entry rest ih =>
      simp only [List.map_cons, dictEntries, text?_text, reads, ih, Option.bind_eq_bind,
        Option.bind_some]
  simp only [dict, entries?_table, each, Option.bind_eq_bind, Option.bind_some]
  exact congrArg some (Dict.ofList_entries dictionary)

theorem list_texts (texts : List String) :
    Document.list DocumentNode.text? (Toml.list false (texts.map .text)) = some texts := by
  simp only [Document.list, items?_list, Option.bind_eq_bind, Option.bind_some]
  induction texts with
  | nil => rfl
  | cons text rest ih => simp [ih]

end Toml

theorem SharedSettings.ofNode?_plain (defaults : SharedSettings) :
    SharedSettings.ofNode? (Toml.table .header (plainItems defaults.plain)) = some defaults := by
  rw [SharedSettings.ofNode?, fields_table (by simp [plain]) (by simp [plain])]
  simp [Fields.defaulted, Fields.get?, plain, plainItems, Plain.item, valueAt?]

theorem ServiceEntry.ofNode?_document (entry : ServiceEntry) :
    ServiceEntry.ofNode? entry.document = some entry := by
  have vars : dict DocumentNode.text? (Toml.table .header (plainItems entry.plainVars)) =
      some entry.vars := by
    have read := dict_table Toml.text entry.vars text?_text .header
    rwa [plainItems, plainVars, List.map_map]
  rw [ServiceEntry.ofNode?, document]
  generalize Toml.table .header (plainItems entry.plainVars) = table at vars
  have keys : (plainItems entry.plain ++ [("vars", table)]).map Prod.fst =
      entry.plain.map Prod.fst ++ ["vars"] := by
    rw [List.map_append, plainItems_keys]
    rfl
  rw [fields_table (by rw [keys]; exact entry.plain_once)
    (by rw [keys]; exact (entry.plain_keys.append_right ["vars"]).subset)]
  obtain ⟨tactics, invasive, writeDirectory, output, vars⟩ := entry
  simp only [Option.bind_eq_bind, Option.bind_some]
  cases invasive <;> cases writeDirectory <;> cases output <;>
    simp [Fields.defaulted, Fields.nullable, Fields.get?, plain, plainItems, Plain.item, valueAt?,
      list_texts, vars]

namespace SettingsFile

theorem ofNode?_document (settings : SettingsFile) :
    SettingsFile.ofNode? settings.document = some settings := by
  have services : dict ServiceEntry.ofNode? settings.servicesDocument = some settings.services :=
    dict_table _ settings.services ServiceEntry.ofNode?_document _
  simp [SettingsFile.ofNode?, document, defaultsTable, fields, namedFields, Fields.defaulted,
    Fields.get?, valueAt?, SharedSettings.ofNode?_plain, services]

theorem parse_text (settings : SettingsFile) : parse settings.text = .ok settings := by
  have read : (Toml.parse settings.text).bind SettingsFile.ofNode? = some settings := by
    rw [parse_text_document, Option.bind_some, ofNode?_document]
  simp only [parse, read]

/-- Where settings could be saved they are loaded as they were, so that each service has the same
settings in every environment, or the same error, and the warnings are the same. -/
theorem load_save {settings : SettingsFile} {files after : FileTree} {path : String}
    (saved : settings.save files path = .ok after) :
    ∃ loaded, load after path = .ok loaded ∧ loaded = settings ∧
      (∀ service environment,
        loaded.serviceSettings service environment = settings.serviceSettings service environment) ∧
      loaded.warnings = settings.warnings := by
  have written : files.write path settings.text = .ok after := by
    unfold save at saved
    split at saved
    · cases saved
    · cases saved
      assumption
  have read : after.read path = .ok settings.text := (FileTree.stored_of_write written).read
  refine ⟨settings, ?_, rfl, fun _ _ => rfl, rfl⟩
  simp only [load, read, parse_text]

/-- Names and values that ask for each of the ways of quoting. -/
def intricate : SettingsFile :=
  { defaults := { writeDirectory := "", output := "\u007f\r", invasive := true }
    services := Dict.ofList [
      ("", {}),
      ("a.b", { tactics := ["it's \"both\""], output := some "yml" }),
      ("\n'\"", { tactics := ["x", "'''\n\"\"\"", "c:\\d"], invasive := some false
                  vars := Dict.ofList [("target dir", "\"\"\"\n\\"), ("vars", "\t")] })] }

theorem load_save_intricate : ∃ after,
    intricate.save {} "raid.toml" = .ok after ∧ load after "raid.toml" = .ok intricate := by
  obtain ⟨after, saved⟩ : ∃ after, intricate.save {} "raid.toml" = .ok after := ⟨_, rfl⟩
  obtain ⟨loaded, read, rfl, -⟩ := load_save saved
  exact ⟨after, saved, read⟩

end SettingsFile

end Raid
