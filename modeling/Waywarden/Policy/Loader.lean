import Waywarden.Domain.Manifest
import Waywarden.Lib.InPlace
import Waywarden.Lib.KeyedTable

/-!
# `PolicyLoader`

`waywarden.policy.schema` and `waywarden.policy.loader`: a preset file is read, validated against
the schema, merged with a caller's override and turned into a tool policy.

The schema checks a value when it is parsed, not when it is copied: `model_copy` takes the default
decision of an override as it comes.  So the document has a type parameter for its default
decision, a `ToolDecision` in a validated document and any value in a merged one.
-/

namespace Waywarden.Policy

/-! ## Values -/

/-- A value of a parsed YAML document.  Bytes come with their text, when they are UTF-8; `other`
is a value of another type, such as a float or a date. -/
inductive YamlValue
  | null
  | bool (b : Bool)
  | int (i : ℤ)
  | str (s : String)
  | bytes (text : Option String)
  | other (typeName : String)
  | list (items : List YamlValue)
  | dict (items : List (YamlValue × YamlValue))

/-- `type(value).__name__`. -/
def YamlValue.typeName : YamlValue → String
  | .null => "NoneType"
  | .bool _ => "bool"
  | .int _ => "int"
  | .str _ => "str"
  | .bytes _ => "bytes"
  | .other typeName => typeName
  | .list _ => "list"
  | .dict _ => "dict"

/-- Whether the value is the given string. -/
def YamlValue.isStr (key : String) : YamlValue → Bool
  | .str s => s == key
  | _ => false

/-- The value a dictionary has under a string key. -/
def field (items : List (YamlValue × YamlValue)) (key : String) : Option YamlValue :=
  (items.find? fun kv => kv.1.isStr key).map Prod.snd

/-- A mapping a caller hands in as an override. -/
abbrev Override : Type := List (String × YamlValue)

/-- `override.get(key)`. -/
def Override.get (override : Override) (key : String) : Option YamlValue :=
  (override.find? fun kv => kv.1 == key).map Prod.snd

/-! ## The schema -/

/-- `ToolDecisionRule` of the schema. -/
structure SchemaRule where
  tool : String
  action : Option String
  decision : ToolDecision
  reason : Option String
  deriving DecidableEq, Repr

/-- `PolicyPresetDoc`, with default decisions in `δ`. -/
structure PolicyPresetDoc (δ : Type) where
  name : String
  preset : PolicyPreset
  defaultDecision : δ
  rules : List SchemaRule

/-- A `str` field: the schema decodes bytes. -/
def strField : YamlValue → Option String
  | .str s => some s
  | .bytes text => text
  | _ => none

/-- A `str | None` field, which defaults to `None`. -/
def optionalStrField : Option YamlValue → Option (Option String)
  | none | some .null => some none
  | some value => (strField value).map some

/-- The decisions of the schema. -/
def decisions : List ToolDecision := [.autoAllow, .approvalRequired, .forbidden]

/-- A `ToolDecision` value. -/
def decisionValue : YamlValue → Option ToolDecision
  | .str s => decisions.find? fun d => d.name == s
  | _ => none

/-- A `ToolDecision` field, which defaults to `approval-required`. -/
def decisionField : Option YamlValue → Option ToolDecision
  | none => some .approvalRequired
  | some value => decisionValue value

/-- A `ToolPreset` field. -/
def presetField : YamlValue → Option PolicyPreset
  | .str s => [PolicyPreset.yolo, .ask, .allowlist, .custom].find? fun p => p.name == s
  | _ => none

/-- `SchemaRule.model_validate`, on anything but a dictionary a failure. -/
def validateRule : YamlValue → Option SchemaRule
  | .dict items => do
      let tool ← (field items "tool").bind strField
      let action ← optionalStrField (field items "action")
      let decision ← decisionField (field items "decision")
      let reason ← optionalStrField (field items "reason")
      some ⟨tool, action, decision, reason⟩
  | _ => none

/-- The `rules` field, which defaults to the empty list. -/
def rulesField : Option YamlValue → Option (List SchemaRule)
  | none => some []
  | some (.list items) => items.mapM validateRule
  | some _ => none

/-! ## Reading a preset -/

/-- `PolicyLoaderError` and its subclass; a message has `%` in place of each formatted value. -/
inductive PolicyLoaderError
  | unknownPreset (name : String)
  | loader (text : String) (values : List String)

/-- What reading and parsing a preset file gives. -/
inductive PresetFile
  | unreadable (exc : String)
  | malformed (exc : String)
  | parsed (value : YamlValue)

/-- The presets directory: the files that are there, by file name. -/
abbrev PresetsDir : Type := String → Option PresetFile

/-- `_read_yaml`. -/
def readYaml (path : String) : PresetFile → Except PolicyLoaderError (List (YamlValue × YamlValue))
  | .unreadable exc => .error (.loader "Cannot read %: %" [path, exc])
  | .malformed exc => .error (.loader "Malformed YAML in %: %" [path, exc])
  | .parsed (.dict items) => .ok items
  | .parsed value => .error (.loader "Expected a YAML mapping in %, got %" [path, value.typeName])

/-- The document of a mapping that passes the schema. -/
def presetDoc (raw : List (YamlValue × YamlValue)) : Option (PolicyPresetDoc ToolDecision) := do
  let name ← (field raw "name").bind strField
  let preset ← (field raw "preset").bind presetField
  let defaultDecision ← decisionField (field raw "default_decision")
  let rules ← rulesField (field raw "rules")
  some ⟨name, preset, defaultDecision, rules⟩

/-- `_validate`; the validator's own report is left out of the message. -/
def validate (raw : List (YamlValue × YamlValue)) :
    Except PolicyLoaderError (PolicyPresetDoc ToolDecision) :=
  match presetDoc raw with
  | some doc => .ok doc
  | none => .error (.loader "Schema validation failed for preset" [])

/-! ## Merging an override -/

/-- `override_map`: the valid rules of an override by tool, in the order their tools first occur. -/
def overrideMap (items : List YamlValue) : List SchemaRule :=
  (items.filterMap validateRule).foldl
    (fun map rule => KeyedTable.upsert SchemaRule.tool rule map) []

/-- The rules after the loop that replaces base rules in place and the one that appends the rest. -/
def mergeRules (base overrides : List SchemaRule) : List SchemaRule :=
  let merged := (List.range base.length).foldl
    (InPlace.replaceStep fun rule => KeyedTable.get SchemaRule.tool rule.tool overrides) base
  merged ++ overrides.filter fun rule => !(base.map SchemaRule.tool).contains rule.tool

/-- A decision as the value that spells it. -/
def valueOf (d : ToolDecision) : YamlValue := .str d.name

/-- The rules after the override's, if it has a list of them, were merged in. -/
def mergedRules (base : List SchemaRule) (override : Override) : List SchemaRule :=
  match (override.get "rules").getD (.list []) with
  | .list items => mergeRules base (overrideMap items)
  | _ => base

/-- `_merge_overrides`. -/
def mergeOverrides (doc : PolicyPresetDoc ToolDecision) (override : Option Override) :
    PolicyPresetDoc YamlValue :=
  match override with
  | none | some [] => ⟨doc.name, doc.preset, valueOf doc.defaultDecision, doc.rules⟩
  | some override =>
      ⟨doc.name, doc.preset,
        (override.get "default_decision").getD (valueOf doc.defaultDecision),
        mergedRules doc.rules override⟩

/-! ## The result -/

/-- A tool policy whose default decision nothing has checked. -/
structure LoadedPolicy where
  preset : PolicyPreset
  defaultDecision : YamlValue
  rules : List ToolDecisionRule

/-- A rule of the schema as a rule of the domain. -/
def SchemaRule.toDomain (rule : SchemaRule) : ToolDecisionRule :=
  ⟨rule.tool, rule.action, rule.decision, rule.reason⟩

/-- `_to_domain`. -/
def toDomain (doc : PolicyPresetDoc YamlValue) : LoadedPolicy :=
  ⟨doc.preset, doc.defaultDecision, doc.rules.map SchemaRule.toDomain⟩

/-- The file a preset is loaded from: the YAML one, else the JSON one. -/
def presetPath (presets : PresetsDir) (name : String) : Option (String × PresetFile) :=
  [name ++ ".yaml", name ++ ".json"].findSome? fun path =>
    (presets path).map fun file => (path, file)

/-- The validated document of a preset. -/
def loadDoc (presets : PresetsDir) (name : String) :
    Except PolicyLoaderError (PolicyPresetDoc ToolDecision) :=
  match presetPath presets name with
  | none => .error (.unknownPreset name)
  | some (path, file) => do
      let raw ← readYaml path file
      validate raw

/-- `load`. -/
def load (presets : PresetsDir) (name : String) (override : Option Override) :
    Except PolicyLoaderError LoadedPolicy := do
  let doc ← loadDoc presets name
  .ok (toDomain (mergeOverrides doc override))

/-- A loaded policy as a tool policy of the domain, when its default decision is one. -/
def LoadedPolicy.checked (policy : LoadedPolicy) : Option ToolPolicy :=
  (decisionValue policy.defaultDecision).map fun d => ⟨policy.preset, policy.rules, d⟩

/-! ## What the parts compute -/

/-- A decision is read back from its spelling. -/
@[simp] lemma decisionValue_valueOf (d : ToolDecision) : decisionValue (valueOf d) = some d := by
  cases d <;> decide

/-- The rule an override has for a tool: the last of its valid ones. -/
def lastRule (rules : List SchemaRule) (tool : String) : Option SchemaRule :=
  rules.reverse.find? fun rule => rule.tool = tool

/-- The map has under each tool the last rule for it. -/
lemma get_overrideMap (items : List YamlValue) (tool : String) :
    KeyedTable.get SchemaRule.tool tool (overrideMap items) =
      lastRule (items.filterMap validateRule) tool := by
  unfold overrideMap lastRule
  rw [KeyedTable.get_foldl_upsert, KeyedTable.get_nil, Option.or_none]

/-- The map has each of its rules under the tool of the rule. -/
lemma get_of_mem_overrideMap {items : List YamlValue} {rule : SchemaRule}
    (h : rule ∈ overrideMap items) :
    lastRule (items.filterMap validateRule) rule.tool = some rule := by
  rw [← get_overrideMap]
  exact KeyedTable.get_of_mem (KeyedTable.nodup_foldl_upsert _ List.nodup_nil) h

/-- **The two loops.**  Every base rule whose tool the override has is replaced by the override's
rule, and the override's rules for other tools come after. -/
lemma mergeRules_eq (base overrides : List SchemaRule) :
    mergeRules base overrides =
      base.map (fun rule => (KeyedTable.get SchemaRule.tool rule.tool overrides).getD rule) ++
        overrides.filter fun rule => !(base.map SchemaRule.tool).contains rule.tool := by
  unfold mergeRules
  rw [InPlace.foldl_replaceStep]
  · rfl
  · intro rule replacement h
    rw [KeyedTable.key_of_get h]
    exact h

/-- Merging nothing changes no rule. -/
lemma mergeRules_nil (base : List SchemaRule) : mergeRules base (overrideMap []) = base := by
  simp [mergeRules_eq, overrideMap]

/-- An empty override merges like one without entries to use. -/
lemma mergeOverrides_eq (doc : PolicyPresetDoc ToolDecision) (override : Option Override) :
    mergeOverrides doc override = ⟨doc.name, doc.preset,
      ((override.getD []).get "default_decision").getD (valueOf doc.defaultDecision),
      mergedRules doc.rules (override.getD [])⟩ := by
  have hnothing : mergedRules doc.rules [] = doc.rules := mergeRules_nil doc.rules
  match override with
  | none | some [] =>
      rw [mergeOverrides, Option.getD, hnothing]
      rfl
  | some (entry :: override) => rfl

section

variable {base : List SchemaRule} {items : List YamlValue} {tool : String}

/-- A merged rule for a tool the override has is the override's. -/
lemma eq_last_of_mem_mergeRules {rule last : SchemaRule}
    (h : rule ∈ mergeRules base (overrideMap items))
    (hlast : lastRule (items.filterMap validateRule) rule.tool = some last) : rule = last := by
  rw [mergeRules_eq, List.mem_append] at h
  rcases h with h | h
  · obtain ⟨found, -, rfl⟩ := List.mem_map.mp h
    rw [get_overrideMap] at hlast ⊢
    cases hfound : lastRule (items.filterMap validateRule) found.tool with
    | none =>
        rw [hfound, Option.getD_none] at hlast
        exact absurd (hfound.symm.trans hlast) (by simp)
    | some replacement =>
        have htool : replacement.tool = found.tool := by
          simpa using List.find?_some hfound
        rw [hfound, Option.getD_some, htool, hfound] at hlast
        rw [Option.getD_some]
        exact Option.some.inj hlast
  · have hmap := get_of_mem_overrideMap (List.mem_filter.mp h).1
    exact Option.some.inj (hmap.symm.trans hlast)

/-- The rule the override has for a tool is among the merged ones. -/
lemma last_mem_mergeRules {last : SchemaRule}
    (hlast : lastRule (items.filterMap validateRule) tool = some last) :
    last ∈ mergeRules base (overrideMap items) := by
  have htool : last.tool = tool := by simpa using List.find?_some hlast
  have hget : KeyedTable.get SchemaRule.tool tool (overrideMap items) = some last := by
    rw [get_overrideMap, hlast]
  rw [mergeRules_eq, List.mem_append]
  by_cases hbase : tool ∈ base.map SchemaRule.tool
  · obtain ⟨found, hfound, hname⟩ := List.mem_map.mp hbase
    refine Or.inl (List.mem_map.mpr ⟨found, hfound, ?_⟩)
    rw [hname, hget, Option.getD_some]
  · refine Or.inr (List.mem_filter.mpr ⟨KeyedTable.mem_of_get hget, ?_⟩)
    rw [htool]
    simpa using hbase

end

end Waywarden.Policy
