import Runbook.Proofs.RuleTable

/-!
The keys of a header that have a model. A header can be read when the value of each of these keys
fits the model of the key, where one is set; else the fault that is reported is that of the first
key with a value that does not fit, in the order in which the models stand. All other keys change
nothing in what has been read; the reserved ones among them are listed.
-/

namespace Runbook.Header

/-- A key with its model: what the model is called, and what is wrong with a value that does not
fit it. -/
structure Model where
  key : String
  target : String
  fault? : Yaml → Option String

namespace Model

/-- What a reading finds wrong with a value. -/
def of {α : Type} (key target : String) (read : Yaml.Reading α) : Model where
  key := key
  target := target
  fault? v :=
    match read v with
    | .ok _ => none
    | .error details => some details

/-- The models of a header, in the order in which they are read. -/
def all : List Model := [
  .of "name" "string" Yaml.asText,
  .of "model" "string" Yaml.asText,
  .of "tools" "list of tool names" asTools,
  .of "config" "model config" ModelConfig.read,
  .of "input" "input spec" InputSpec.read,
  .of "output" "output spec" OutputSpec.read,
  .of "metadata" "metadata map" Metadata.read,
  .of Registry.mcpKey "list of MCP servers" (Yaml.asList McpServer.read),
  .of Registry.subWorkflowsKey "list of sub-workflows" (Yaml.asList SubWorkflow.read),
  .of Registry.resumeKey "resume policy" ResumePolicy.read,
  .of Registry.errorHandlingKey "error-handling policy" ErrorPolicy.read]

end Model

/-- The value that is set for a key; null means that none is. -/
def setValue? (fields : Table Yaml) (key : String) : Option Yaml :=
  match fields.find? key with
  | some .null => none
  | value => value

/-- What is wrong with the value that is set for the key of a model. -/
def Model.faultIn? (m : Model) (fields : Table Yaml) : Option String :=
  (setValue? fields m.key).bind m.fault?

/-- The error that is reported for it. -/
def Model.errorIn? (fields : Table Yaml) (m : Model) : Option Error :=
  (m.faultIn? fields).map (.headerType m.key m.target)

/-- The first fault that the models find, else the header. -/
def outcome (models : List Model) (fields : Table Yaml) (header : Header) : Except Error Header :=
  match models.findSome? (Model.errorIn? fields) with
  | some e => .error e
  | none => .ok header

section Reading

variable {α : Type} {fields : Table Yaml} {key target : String} {read : Yaml.Reading α}

/-- What is read at a key. -/
def valueAt (fields : Table Yaml) (key : String) (read : Yaml.Reading α) : Option α :=
  (setValue? fields key).bind fun v => (read v).toOption

theorem typed_of_setValue : typed fields key target read =
    match setValue? fields key with
    | none => .ok none
    | some v =>
        match read v with
        | .ok a => .ok (some a)
        | .error details => .error (.headerType key target details) := by
  unfold typed setValue?
  cases fields.find? key with
  | none => rfl
  | some v => cases v <;> rfl

/-- A key is read by the look at its model, and then there is its value. -/
theorem typed_eq : typed fields key target read =
    match (Model.of key target read).errorIn? fields with
    | some e => .error e
    | none => .ok (valueAt fields key read) := by
  simp only [typed_of_setValue, Model.errorIn?, Model.faultIn?, Model.of, valueAt]
  cases setValue? fields key with
  | none => rfl
  | some v =>
    simp only [Option.bind_some]
    cases read v <;> rfl

/-- A key that is read first puts its model in front of the others. -/
theorem typed_bind {f : Option α → Except Error Header} {models : List Model} {header : Header}
    (h : f (valueAt fields key read) = outcome models fields header) :
    typed fields key target read >>= f = outcome (.of key target read :: models) fields header := by
  rw [typed_eq, outcome, List.findSome?_cons]
  cases (Model.of key target read).errorIn? fields with
  | none => exact h
  | some e => rfl

end Reading

/-- The header whose parts are what is read at their keys. -/
def typedHeader (fields : Table Yaml) : Header where
  fields := fields
  name := valueAt fields "name" Yaml.asText
  model := valueAt fields "model" Yaml.asText
  tools := (valueAt fields "tools" asTools).getD []
  config := (valueAt fields "config" ModelConfig.read).getD .empty
  input := (valueAt fields "input" InputSpec.read).getD .empty
  output := valueAt fields "output" OutputSpec.read
  metadata := (valueAt fields "metadata" Metadata.read).getD .empty
  extensionFields := fields.filter fun entry => Registry.isExtensionKey entry.1
  extensions :=
    { mcp := (valueAt fields Registry.mcpKey (Yaml.asList McpServer.read)).getD []
      subWorkflows :=
        (valueAt fields Registry.subWorkflowsKey (Yaml.asList SubWorkflow.read)).getD []
      resume := valueAt fields Registry.resumeKey ResumePolicy.read
      errorHandling := valueAt fields Registry.errorHandlingKey ErrorPolicy.read }

/-- The keys are read one after the other, each by its model. -/
theorem ofFields_eq (fields : Table Yaml) :
    ofFields fields = outcome Model.all fields (typedHeader fields) := by
  unfold ofFields Model.all
  iterate 11 refine typed_bind ?_
  rfl

/-- What has been read at the keys with a model. -/
def typedPart (h : Header) : Header := { h with fields := [], extensionFields := [] }

/-- The first model in their order that the value of its key does not fit. -/
def FirstFault (fields : Table Yaml) (m : Model) (details : String) : Prop :=
  ∃ before after, Model.all = before ++ m :: after ∧
    (∀ earlier ∈ before, earlier.faultIn? fields = none) ∧ m.faultIn? fields = some details

variable {fields other : Table Yaml}

theorem ofFields_eq_error_iff {e : Error} : ofFields fields = .error e ↔
    ∃ m details, FirstFault fields m details ∧ e = .headerType m.key m.target details := by
  have hsome : ofFields fields = .error e ↔
      Model.all.findSome? (Model.errorIn? fields) = some e := by
    rw [ofFields_eq, outcome]
    cases Model.all.findSome? (Model.errorIn? fields) <;> simp
  rw [hsome, List.findSome?_eq_some_iff]
  simp only [Model.errorIn?, Option.map_eq_some_iff, Option.map_eq_none_iff]
  constructor
  · rintro ⟨before, m, after, hall, ⟨details, hm, rfl⟩, hbefore⟩
    exact ⟨m, details, ⟨before, after, hall, hbefore, hm⟩, rfl⟩
  · rintro ⟨m, details, ⟨before, after, hall, hbefore, hm⟩, rfl⟩
    exact ⟨before, m, after, hall, ⟨details, hm, rfl⟩, hbefore⟩

theorem ofFields_eq_ok_iff {header : Header} : ofFields fields = .ok header ↔
    (∀ m ∈ Model.all, m.faultIn? fields = none) ∧ header = typedHeader fields := by
  have hnone : Model.all.findSome? (Model.errorIn? fields) = none ↔
      ∀ m ∈ Model.all, m.faultIn? fields = none := by
    simp only [List.findSome?_eq_none_iff, Model.errorIn?, Option.map_eq_none_iff]
  rw [ofFields_eq, outcome, ← hnone]
  cases Model.all.findSome? (Model.errorIn? fields) <;> simp [eq_comm]

/-- What is set at the keys with a model decides what is read at them. -/
theorem typedPart_congr
    (h : ∀ m ∈ Model.all, setValue? fields m.key = setValue? other m.key) :
    (ofFields fields).map typedPart = (ofFields other).map typedPart := by
  have hfault : ∀ m ∈ Model.all, Model.errorIn? fields m = Model.errorIn? other m := by
    intro m hm
    rw [Model.errorIn?, Model.errorIn?, Model.faultIn?, Model.faultIn?, h m hm]
  have hheader : typedPart (typedHeader fields) = typedPart (typedHeader other) := by
    simp only [Model.all, List.forall_mem_cons, Model.of] at h
    obtain ⟨hname, hmodel, htools, hconfig, hinput, houtput, hmetadata, hmcp, hsubs, hresume,
      herrors, -⟩ := h
    simp only [typedPart, typedHeader, valueAt, hname, hmodel, htools, hconfig, hinput, houtput,
      hmetadata, hmcp, hsubs, hresume, herrors]
  have hfirst : Model.all.findSome? (Model.errorIn? fields) =
      Model.all.findSome? (Model.errorIn? other) := by
    rw [← List.head?_filterMap, ← List.head?_filterMap, List.filterMap_congr hfault]
  rw [ofFields_eq, ofFields_eq, outcome, outcome, hfirst]
  cases Model.all.findSome? (Model.errorIn? other) with
  | none => exact congrArg Except.ok hheader
  | some e => rfl

/-- The reserved keys of a header: its extension fields are the fields with a key of that prefix,
and the unknown ones among them have no model. -/
structure ReservedKeys (fields : Table Yaml) (h : Header) : Prop where
  fields_eq : h.fields = fields
  sorted : h.extensionFields.Sorted
  extension : ∀ key, h.extensionFields.find? key =
    if "markflow.".toList <+: key.toList then fields.find? key else none
  ascending : Names.Ascending h.unknownExtensions
  unknown : ∀ key, key ∈ h.unknownExtensions ↔ key ∈ fields.keys ∧
    "markflow.".toList <+: key.toList ∧ key ∉ Model.all.map (·.key)

theorem isExtensionKey_iff {key : String} :
    Registry.isExtensionKey key = true ↔ "markflow.".toList <+: key.toList :=
  List.isPrefixOf_iff_prefix

/-- Among the reserved keys those with a model are the known extensions. -/
theorem isKnownExtension_iff {key : String} (h : Registry.isExtensionKey key = true) :
    Registry.isKnownExtension key = true ↔ key ∈ Model.all.map (·.key) := by
  have hkeys : Model.all.map (·.key) =
      ["name", "model", "tools", "config", "input", "output", "metadata"] ++
        Registry.knownExtensions := rfl
  have hplain : ∀ plain ∈ ["name", "model", "tools", "config", "input", "output", "metadata"],
      Registry.isExtensionKey plain = false := by decide
  rw [Registry.isKnownExtension, List.contains_iff_mem, hkeys, List.mem_append]
  refine ⟨.inr, fun hmem => hmem.resolve_left fun hmem => ?_⟩
  rw [hplain key hmem] at h
  cases h

theorem reservedKeys_of_sorted (hfields : fields.Sorted) {h : Header}
    (hread : ofFields fields = .ok h) : ReservedKeys fields h := by
  have hkeyed := keyed_ofFields hfields hread
  have hunknown := hkeyed.unknownExtensions_eq
  obtain ⟨-, rfl⟩ := ofFields_eq_ok_iff.mp hread
  refine ⟨rfl, hfields.filter _, fun key => ?_, ?_, fun key => ?_⟩
  · show Table.find? key (fields.filter fun entry => Registry.isExtensionKey entry.1) = _
    rw [hfields.find?_filter]
    by_cases hkey : Registry.isExtensionKey key = true
    · rw [if_pos (isExtensionKey_iff.mp hkey)]
      cases fields.find? key with
      | none => rfl
      | some v => exact if_pos hkey
    · rw [if_neg (mt isExtensionKey_iff.mpr hkey)]
      cases fields.find? key with
      | none => rfl
      | some v => exact if_neg hkey
  · rw [hunknown]
    exact (List.pairwise_map.mpr hfields).filter _
  · rw [hunknown, List.mem_filter, Bool.and_eq_true, Bool.not_eq_true', ← isExtensionKey_iff]
    refine and_congr_right fun _ => and_congr_right fun hkey => ?_
    rw [← isKnownExtension_iff hkey, Bool.not_eq_true]

theorem read_of_readFields {text : String} {line : Nat}
    (h : readFields text line = .ok fields) : read text line = ofFields fields := by
  rw [read, h]
  rfl

/-- Eleven keys have a model. A header is refused for the first of them with a value that does not
fit, and for nothing else that is in its fields; what has been read depends on the values of these
keys alone. -/
theorem typed_keys_decide :
    Model.all.map (·.key) = ["name", "model", "tools", "config", "input", "output", "metadata",
      "markflow.mcp", "markflow.sub-workflows", "markflow.resume", "markflow.error-handling"] ∧
    (∀ fields e, ofFields fields = .error e ↔
      ∃ m details, FirstFault fields m details ∧ e = .headerType m.key m.target details) ∧
    (∀ fields header, ofFields fields = .ok header ↔
      (∀ m ∈ Model.all, m.faultIn? fields = none) ∧ header = typedHeader fields) ∧
    (∀ fields other, (∀ m ∈ Model.all, setValue? fields m.key = setValue? other m.key) →
      (ofFields fields).map typedPart = (ofFields other).map typedPart) ∧
    (∀ text line fields, readFields text line = .ok fields →
      fields.Sorted ∧ read text line = ofFields fields) ∧
    ∀ fields : Table Yaml, fields.Sorted →
      ∀ header, ofFields fields = .ok header → ReservedKeys fields header :=
  ⟨rfl, fun _ _ => ofFields_eq_error_iff, fun _ _ => ofFields_eq_ok_iff,
    fun _ _ => typedPart_congr,
    fun _ _ _ h => ⟨sorted_readFields h, read_of_readFields h⟩,
    fun _ hsorted _ h => reservedKeys_of_sorted hsorted h⟩

/-- Two keys do not fit their models, and a reserved one is unknown. -/
def misfitFields : Table Yaml :=
  [("markflow.retry", .bool true), ("model", .bool true), ("tools", .map [])]

/-- The same keys do not fit, among others that are not set or have no model. -/
def misfitOther : Table Yaml :=
  [("config", .null), ("model", .bool true), ("tools", .map []), ("zone", .text "eu")]

/-- Nothing is wrong, and one reserved key of two is unknown. -/
def fittingFields : Table Yaml :=
  [("markflow.resume", .null), ("markflow.retry", .bool true), ("name", .text "a")]

theorem typed_keys_decide_misfit :
    ofFields misfitFields = .error (.headerType "model" "string"
      "invalid type: a boolean, expected a string") ∧
    (ofFields misfitOther).map typedPart = (ofFields misfitFields).map typedPart ∧
    ReservedKeys fittingFields (typedHeader fittingFields) ∧
    (typedHeader fittingFields).unknownExtensions = ["markflow.retry"] ∧
    ∃ fields, readFields "future: a\n" 2 = .ok fields ∧ fields.keys = ["future"] ∧
      read "future: a\n" 2 = ofFields fields := by
  obtain ⟨-, hrefused, hread, hagree, htext, hreserved⟩ := typed_keys_decide
  have hfirst : FirstFault misfitFields (.of "model" "string" Yaml.asText)
      "invalid type: a boolean, expected a string" := by
    refine ⟨Model.all.take 1, Model.all.drop 2, rfl, ?_, rfl⟩
    intro earlier hearlier
    obtain rfl := List.mem_singleton.mp hearlier
    rfl
  have hkeys : ∀ m ∈ Model.all, setValue? misfitOther m.key = setValue? misfitFields m.key := by
    simp only [Model.all, List.forall_mem_cons]
    exact ⟨rfl, rfl, rfl, rfl, rfl, rfl, rfl, rfl, rfl, rfl, rfl, nofun⟩
  have hfits : ∀ m ∈ Model.all, m.faultIn? fittingFields = none := by
    simp only [Model.all, List.forall_mem_cons]
    exact ⟨rfl, rfl, rfl, rfl, rfl, rfl, rfl, rfl, rfl, rfl, rfl, nofun⟩
  have hsorted : fittingFields.Sorted := by
    unfold fittingFields Table.Sorted
    decide +kernel
  have htyped : ofFields fittingFields = .ok (typedHeader fittingFields) :=
    (hread _ _).mpr ⟨hfits, rfl⟩
  have hunknown : (typedHeader fittingFields).unknownExtensions = ["markflow.retry"] := by
    decide +kernel
  have hfuture : (readFields "future: a\n" 2).toOption.map Table.keys = some ["future"] := by
    decide +kernel
  obtain ⟨fields, hfields, hnames⟩ := toOption_map_eq_some.mp hfuture
  exact ⟨(hrefused _ _).mpr ⟨_, _, hfirst, rfl⟩, hagree _ _ hkeys, hreserved _ hsorted _ htyped,
    hunknown, fields, hfields, hnames, (htext _ _ _ hfields).2⟩

end Runbook.Header
