import Waywarden.Assets.Schema

/-!
# The asset registry and its filters

`waywarden.assets.loader`: the registry of validated assets, and the filter expressions a profile
selects from it with.

A filter comes as any mapping.  Its matcher reads a few keys and iterates over what it finds there,
so a value may make it raise; the expressions that do not are those whose values are strings or
sequences of strings (`FilterExpression.evaluate_eq`).
-/

namespace Waywarden

/-! ## Assets -/

/-- `AssetKind`. -/
inductive AssetKind
  | routine
  | widget
  | command
  | prompt
  | tool
  | skill
  | agent
  | team
  | pipeline
  | workflow
  | policy
  | theme
  | contextProvider
  | profileOverlay
  deriving DecidableEq, Repr

/-- The literal of a kind. -/
def AssetKind.name : AssetKind → String
  | .routine => "routine"
  | .widget => "widget"
  | .command => "command"
  | .prompt => "prompt"
  | .tool => "tool"
  | .skill => "skill"
  | .agent => "agent"
  | .team => "team"
  | .pipeline => "pipeline"
  | .workflow => "workflow"
  | .policy => "policy"
  | .theme => "theme"
  | .contextProvider => "context_provider"
  | .profileOverlay => "profile_overlay"

instance : DecidableEq AssetId := inferInstanceAs (DecidableEq {s : String // isAssetId s = true})

/-- `AssetMetadata`: what the registry and the filters read of it. -/
structure AssetMetadata where
  id : AssetId
  kind : AssetKind
  tags : List Text := []
  requiredProviders : List Text := []
  deriving DecidableEq

/-- The key of an asset in the registry. -/
def AssetMetadata.key (asset : AssetMetadata) : AssetId × AssetKind := (asset.id, asset.kind)

/-! ## Filter expressions -/

/-- The operators; any other text is an operator that selects nothing. -/
inductive FilterOp
  | includes
  | excludes
  | byTag
  | byRequiredProvider
  | other (text : String)
  deriving DecidableEq, Repr

/-- The operator a text names. -/
def FilterOp.ofText : String → FilterOp
  | "include" => .includes
  | "exclude" => .excludes
  | "by_tag" => .byTag
  | "by_required_provider" => .byRequiredProvider
  | text => .other text

/-- `valid_ops`. -/
def validOps : List String := ["include", "exclude", "by_tag", "by_required_provider"]

/-- `op.strip().lower()`.  Only ASCII letters are lowered: a text with any other letter in it names
no operator, lowered or not. -/
def normalizeOp (op : String) : String := String.ofList ((strip op).toList.map Char.toLower)

/-- `FilterExpression`. -/
structure FilterExpression where
  op : FilterOp
  select : Mapping

/-- The name of a value's type. -/
def Value.typeName : Value → String
  | .null => "NoneType"
  | .bool _ => "bool"
  | .int _ => "int"
  | .float _ => "float"
  | .str _ => "str"
  | .list _ => "list"
  | .tuple _ => "tuple"
  | .dict _ => "dict"

/-- `value is None`. -/
def Value.isNull : Value → Bool
  | .null => true
  | _ => false

mutual

/-- The type that keeps a value from being hashed. -/
def Value.unhashable : Value → Option String
  | .list _ => some "list"
  | .dict _ => some "dict"
  | .tuple xs => Value.unhashableItem xs
  | _ => none

/-- The first such type among the items of a tuple. -/
def Value.unhashableItem : List Value → Option String
  | [] => none
  | x :: xs => x.unhashable.or (Value.unhashableItem xs)

end

/-- `value in set(names)`. -/
def memberOf (names : List Text) (value : Value) : Except PyError Bool :=
  match value.unhashable with
  | some typeName => .error ⟨.typeError, "unhashable type: '%'", [typeName]⟩
  | none =>
    match value with
    | .str s => .ok (names.any fun name => name.val == s)
    | _ => .ok false

/-- The common form of `all` and `any` over `value in set(names)`: the first value whose answer is
`stop` ends it. -/
def scan (stop : Bool) (names : List Text) : List Value → Except PyError Bool
  | [] => .ok (!stop)
  | value :: values => do
      if (← memberOf names value) = stop then .ok stop else scan stop names values

/-- `all(value in set(names) for value in values)`. -/
def allOf (names : List Text) (values : List Value) : Except PyError Bool :=
  scan false names values

/-- `any(value in set(names) for value in values)`. -/
def anyOf (names : List Text) (values : List Value) : Except PyError Bool :=
  scan true names values

/-- A list or a tuple as it is, and any other value as a list of one. -/
def asItems : Value → List Value
  | .list xs | .tuple xs => xs
  | value => [value]

/-- A string as a list of one, and else what iterating over the value gives. -/
def iterate : Value → Except PyError (List Value)
  | .str s => .ok [.str s]
  | .list xs | .tuple xs => .ok xs
  | .dict items => .ok (items.map fun item => .str item.1)
  | value => .error ⟨.typeError, "'%' object is not iterable", [value.typeName]⟩

/-- `select.get(first) or select.get(second)`. -/
def getOr (select : Mapping) (first second : String) : Option Value :=
  match select.get first with
  | some value => if value.truthy then some value else select.get second
  | none => select.get second

namespace FilterExpression

/-- The `FilterExpression` constructor. -/
def new (op : String) (select : Option Mapping := none) : FilterExpression :=
  ⟨.ofText (normalizeOp op), select.getD []⟩

/-- The conditions of a filter: everything but the operator and the entries that are `None`. -/
def selectOf (data : Mapping) : Mapping := data.filter fun item => item.1 != "op" && !item.2.isNull

/-- `from_dict`. -/
def fromDict (data : Mapping) : Except PyError FilterExpression :=
  match data.get "op" with
  | none => .error ⟨.filterError, "filter expression missing 'op' field", []⟩
  | some (.str raw) =>
    if normalizeOp raw ∈ validOps then
      .ok (new (normalizeOp raw) (some (selectOf data)))
    else
      .error ⟨.filterError, "unknown filter operation %; expected one of %",
        [raw, formatSorted validOps]⟩
  | some value => .error ⟨.attributeError, "'%' object has no attribute 'strip'", [value.typeName]⟩

/-- One field of `_match_include`: a key that is not there matches. -/
def matchField (names : List Text) : Option Value → Except PyError Bool
  | none => .ok true
  | some value => allOf names (asItems value)

/-- `_match_include`. -/
def matchInclude (select : Mapping) (asset : AssetMetadata) : Except PyError Bool := do
  if ← matchField asset.tags (select.get "tags") then
    matchField asset.requiredProviders (select.get "required_providers")
  else .ok false

/-- `_match_exclude`. -/
def matchExclude (select : Mapping) (asset : AssetMetadata) : Except PyError Bool :=
  matchInclude select asset

/-- The common form of the two other matchers: a test of what is under either key, and no match
where there is nothing. -/
def matchNames (test : List Text → List Value → Except PyError Bool) (names : List Text) :
    Option Value → Except PyError Bool
  | none | some .null => .ok false
  | some value => do test names (← iterate value)

/-- `_match_by_tag`. -/
def matchByTag (select : Mapping) (asset : AssetMetadata) : Except PyError Bool :=
  matchNames allOf asset.tags (getOr select "tags" "tag")

/-- `_match_by_required_provider`. -/
def matchByRequiredProvider (select : Mapping) (asset : AssetMetadata) : Except PyError Bool :=
  matchNames anyOf asset.requiredProviders (getOr select "providers" "provider")

/-- `matches`. -/
def matchesAsset (expr : FilterExpression) (asset : AssetMetadata) : Except PyError Bool :=
  match expr.op with
  | .includes => if expr.select.isEmpty then .ok true else matchInclude expr.select asset
  | .excludes => if expr.select.isEmpty then .ok true else matchExclude expr.select asset
  | .byTag => matchByTag expr.select asset
  | .byRequiredProvider => matchByRequiredProvider expr.select asset
  | .other _ => .ok false

/-- `evaluate`. -/
def evaluate (expr : FilterExpression) (assets : List AssetMetadata) :
    Except PyError (List AssetMetadata) :=
  match expr.op with
  | .includes | .byTag | .byRequiredProvider => assets.filterM expr.matchesAsset
  | .excludes => assets.filterM fun asset => (!·) <$> expr.matchesAsset asset
  | .other _ => .ok assets

end FilterExpression

/-! ### Expressions that never raise -/

/-- A string or a sequence of strings. -/
def Value.IsNames : Value → Prop
  | .str _ => True
  | .list xs | .tuple xs => ∀ x ∈ xs, ∃ s, x = .str s
  | _ => False

lemma Mapping.mem_of_get {m : Mapping} {key : String} {value : Value} (h : m.get key = some value) :
    (key, value) ∈ m := by
  unfold Mapping.get at h
  obtain ⟨item, hfind, rfl⟩ := Option.map_eq_some_iff.mp h
  have hkey := List.find?_some hfind
  rw [beq_iff_eq] at hkey
  exact hkey ▸ List.mem_of_find?_eq_some hfind

lemma Value.IsNames.asItems {value : Value} (h : value.IsNames) :
    ∀ x ∈ asItems value, ∃ s, x = .str s := by
  cases value with
  | list xs => exact h
  | tuple xs => exact h
  | str s =>
      intro x hx
      exact ⟨s, List.mem_singleton.mp hx⟩
  | _ => exact h.elim

lemma Value.IsNames.exists_iterate {value : Value} (h : value.IsNames) :
    ∃ xs, iterate value = .ok xs ∧ ∀ x ∈ xs, ∃ s, x = .str s := by
  cases value with
  | list xs => exact ⟨xs, rfl, h⟩
  | tuple xs => exact ⟨xs, rfl, h⟩
  | str s =>
      refine ⟨[.str s], rfl, ?_⟩
      intro x hx
      exact ⟨s, List.mem_singleton.mp hx⟩
  | _ => exact h.elim

lemma Value.IsNames.isNull_eq_false {value : Value} (h : value.IsNames) : value.isNull = false := by
  cases value with
  | null => exact h.elim
  | _ => rfl

lemma exists_memberOf (names : List Text) (s : String) : ∃ b, memberOf names (.str s) = .ok b := by
  unfold memberOf
  rw [Value.unhashable]
  · exact ⟨_, rfl⟩
  all_goals exact nofun

/-- A test of strings has an answer. -/
lemma exists_scan (stop : Bool) (names : List Text) {values : List Value}
    (h : ∀ x ∈ values, ∃ s, x = .str s) : ∃ b, scan stop names values = .ok b := by
  induction values with
  | nil => exact ⟨!stop, rfl⟩
  | cons value values ih =>
      obtain ⟨⟨s, rfl⟩, hvalues⟩ := List.forall_mem_cons.mp h
      obtain ⟨b, hb⟩ := exists_memberOf names s
      rw [scan, hb]
      by_cases hstop : b = stop
      · exact ⟨stop, if_pos hstop⟩
      · obtain ⟨b', hb'⟩ := ih hvalues
        exact ⟨b', (if_neg hstop).trans hb'⟩

namespace FilterExpression

/-- A valid operator is normalized already. -/
lemma new_of_mem {op : String} (h : op ∈ validOps) (select : Mapping) :
    new op (some select) = ⟨.ofText op, select⟩ := by
  have hall : ∀ op ∈ validOps, normalizeOp op = op := by decide +kernel
  unfold new
  rw [hall op h, Option.getD_some]

/-- **What `from_dict` accepts.** -/
lemma fromDict_eq_ok_iff {data : Mapping} {expr : FilterExpression} :
    fromDict data = .ok expr ↔ ∃ raw, data.get "op" = some (.str raw) ∧
      normalizeOp raw ∈ validOps ∧ ⟨.ofText (normalizeOp raw), selectOf data⟩ = expr := by
  unfold fromDict
  split
  · simp [*]
  · rename_i raw hget
    split
    · rename_i hvalid
      rw [new_of_mem hvalid]
      simp [hget, hvalid]
    · rename_i hvalid
      simp [hget, hvalid]
  · rename_i value hstr hget
    simp only [hget, reduceCtorEq, Option.some.injEq, false_iff, not_exists, not_and]
    intro raw hraw
    exact absurd hraw (hstr raw)

/-- Every value is a string or a sequence of strings. -/
def Plain (select : Mapping) : Prop := ∀ item ∈ select, item.2.IsNames

variable {select : Mapping}

lemma Plain.isNames (h : Plain select) {key : String} {value : Value}
    (hget : select.get key = some value) : value.IsNames := h _ (Mapping.mem_of_get hget)

lemma Plain.exists_matchField (h : Plain select) (names : List Text) (key : String) :
    ∃ b, matchField names (select.get key) = .ok b := by
  cases hget : select.get key with
  | none => exact ⟨true, rfl⟩
  | some value => exact exists_scan false names (h.isNames hget).asItems

lemma Plain.exists_matchInclude (h : Plain select) (asset : AssetMetadata) :
    ∃ b, matchInclude select asset = .ok b := by
  obtain ⟨b, hb⟩ := h.exists_matchField asset.tags "tags"
  unfold matchInclude
  rw [hb]
  cases b with
  | true => exact h.exists_matchField asset.requiredProviders "required_providers"
  | false => exact ⟨false, rfl⟩

lemma Plain.isNames_getOr (h : Plain select) {first second : String} {value : Value}
    (hget : getOr select first second = some value) : value.IsNames := by
  unfold getOr at hget
  split at hget
  · rename_i hfirst
    split at hget
    · obtain rfl := Option.some.inj hget
      exact h.isNames hfirst
    · exact h.isNames hget
  · exact h.isNames hget

lemma matchNames_some {test : List Text → List Value → Except PyError Bool} {names : List Text}
    {value : Value} (h : value.isNull = false) :
    matchNames test names (some value) = iterate value >>= test names := by
  cases value with
  | null => cases h
  | _ => rfl

lemma Plain.exists_matchNames (h : Plain select) (stop : Bool) (names : List Text)
    (first second : String) :
    ∃ b, matchNames (scan stop) names (getOr select first second) = .ok b := by
  cases hget : getOr select first second with
  | none => exact ⟨false, rfl⟩
  | some value =>
      have hnames := h.isNames_getOr hget
      obtain ⟨xs, hxs, hstrings⟩ := hnames.exists_iterate
      rw [matchNames_some hnames.isNull_eq_false, hxs]
      exact exists_scan stop names hstrings

variable {expr : FilterExpression}

/-- A plain expression matches an asset or not: it does not raise. -/
lemma exists_matchesAsset (h : Plain expr.select) (asset : AssetMetadata) :
    ∃ b, expr.matchesAsset asset = .ok b := by
  unfold matchesAsset
  cases expr.op with
  | includes =>
      simp only
      split
      · exact ⟨true, rfl⟩
      · exact h.exists_matchInclude asset
  | excludes =>
      simp only
      split
      · exact ⟨true, rfl⟩
      · exact h.exists_matchInclude asset
  | byTag => exact h.exists_matchNames false _ _ _
  | byRequiredProvider => exact h.exists_matchNames true _ _ _
  | other text => exact ⟨false, rfl⟩

/-- The filter, taken alone, keeps the asset. -/
def keeps (expr : FilterExpression) (asset : AssetMetadata) : Bool :=
  match expr.op, expr.matchesAsset asset with
  | .other _, _ => true
  | .excludes, .ok b => !b
  | _, .ok b => b
  | _, .error _ => false

/-- **What a plain expression selects.** -/
lemma evaluate_eq (h : Plain expr.select) (assets : List AssetMetadata) :
    expr.evaluate assets = .ok (assets.filter expr.keeps) := by
  unfold evaluate
  cases hop : expr.op with
  | other text =>
      have hall : ∀ asset ∈ assets, expr.keeps asset = true := by
        intro asset _
        unfold keeps
        rw [hop]
      rw [List.filter_eq_self.mpr hall]
  | excludes =>
      apply Effect.except_filterM_eq_ok
      intro asset _
      obtain ⟨b, hb⟩ := exists_matchesAsset h asset
      simp [keeps, hop, hb]
  | _ =>
      apply Effect.except_filterM_eq_ok
      intro asset _
      obtain ⟨b, hb⟩ := exists_matchesAsset h asset
      simp [keeps, hop, hb]

end FilterExpression

/-! ## The registry -/

/-- What reading and parsing a file comes to. -/
inductive YamlFile
  | unreadable (reason : String)
  | malformed (reason : String)
  | parsed (content : Value)

/-- `AssetRegistry`: the assets in the order of their keys, and the errors, each a message with `%`
in place of the values. -/
structure AssetRegistry where
  assets : List AssetMetadata := []
  errors : List (String × List String) := []
  keys_nodup : (assets.map AssetMetadata.key).Nodup := by exact List.nodup_nil

namespace AssetRegistry

/-- The end of `_load_single`: an asset whose key is taken is an error. -/
def register (registry : AssetRegistry) (asset : AssetMetadata) (yamlPath : String) :
    AssetRegistry :=
  if h : asset.key ∈ registry.assets.map AssetMetadata.key then
    { registry with
      errors := registry.errors ++
        [("Duplicate asset key (%, %) in %", [asset.id.val, asset.kind.name, yamlPath])] }
  else
    { registry with
      assets := registry.assets ++ [asset]
      keys_nodup := by
        rw [List.map_append, List.map_singleton, ← List.concat_eq_append]
        exact registry.keys_nodup.concat h }

/-- `_load_single`, for a given `AssetMetadata.from_dict`. -/
def loadSingle (fromDict : Mapping → Except (List (String × List String)) AssetMetadata)
    (registry : AssetRegistry) (yamlPath : String) (file : YamlFile) : AssetRegistry :=
  let fail (errors : List (String × List String)) : AssetRegistry :=
    { registry with errors := registry.errors ++ errors }
  match file with
  | .unreadable reason => fail [("%: unable to read: %", [yamlPath, reason])]
  | .malformed reason => fail [("%: YAML parse error: %", [yamlPath, reason])]
  | .parsed (.dict content) =>
    match fromDict content with
    | .ok asset => registry.register asset yamlPath
    | .error errors => fail errors
  | .parsed _ => fail [("%: expected a mapping of asset settings", [yamlPath])]

/-- `all_assets`. -/
def allAssets (registry : AssetRegistry) : List AssetMetadata := registry.assets

/-- `apply_filters`. -/
def applyFilters (registry : AssetRegistry) (filters : List Mapping) :
    Except PyError (List AssetMetadata) :=
  filters.foldlM (fun assets filterDict => do
      (← FilterExpression.fromDict filterDict).evaluate assets)
    registry.allAssets

end AssetRegistry

end Waywarden
