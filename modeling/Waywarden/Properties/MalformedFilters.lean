import Waywarden.Properties.AssetFilters

/-!
# Malformed asset filters

`FilterError` is "raised when a profile filter expression is malformed", and `from_dict` raises it
for a missing and for an unknown operator.  Nothing else is checked: an operator that is no string
raises an `AttributeError`, and a key the operator does not read is copied into an expression that
ignores it.  Two operators know their key in two spellings and read the second only where the first
gives nothing: beside a first one the second is ignored as well.  `rejectsMalformed_iff` says which
mappings are rejected or read in full.
-/

namespace Waywarden

open FilterExpression

/-- The key has a value that counts as true.  An entry that is `None` is no value. -/
def Mapping.hasTruthy (m : Mapping) (key : String) : Bool :=
  (Mapping.get (m.filter fun item => !item.2.isNull) key).any Value.truthy

/-- The keys `m.get(first) or m.get(second)` reads. -/
def keysOr (m : Mapping) (first second : String) : List String :=
  if m.hasTruthy first then [first] else [first, second]

/-- The keys the matcher of an operator reads of the conditions at hand. -/
def FilterOp.keys (m : Mapping) : FilterOp → List String
  | .includes | .excludes => ["tags", "required_providers"]
  | .byTag => keysOr m "tags" "tag"
  | .byRequiredProvider => keysOr m "providers" "provider"
  | .other _ => []

/-- What a mapping is turned into: a `FilterError`, or an expression that ignores nothing. -/
structure RejectsMalformed (data : Mapping) : Prop where
  parsed : (∃ e, FilterExpression.fromDict data = .error e ∧ e.cls = .filterError) ∨
    ∃ expr, FilterExpression.fromDict data = .ok expr ∧
      ∀ item ∈ expr.select, item.1 ∈ expr.op.keys expr.select ∧ item.2.IsNames
  not_all : ∀ expr, FilterExpression.fromDict data = .ok expr →
    expr.op = .includes ∨ expr.op = .excludes → expr.select ≠ [] →
    (∀ item ∈ expr.select, item.1 ∉ expr.op.keys expr.select) →
    ¬ ∀ asset, expr.matchesAsset asset = .ok true
  not_text : ∀ value, data.get "op" = some value → (∀ raw, value ≠ .str raw) →
    ∃ e, FilterExpression.fromDict data = .error e ∧ e.cls = .filterError

/-- The mapping has no operator, or a text that names none, or every other entry that is not `None`
is under a key its operator reads beside the others and is a string or a sequence of strings. -/
def ReadInFull (data : Mapping) : Prop :=
  ∀ value, data.get "op" = some value → ∃ raw, value = .str raw ∧
    (normalizeOp raw ∈ validOps → ∀ item ∈ data, item.1 ≠ "op" → item.2.isNull = false →
      item.1 ∈ (FilterOp.ofText (normalizeOp raw)).keys data ∧ item.2.IsNames)

/-! ## What a matcher reads -/

/-- What is found under either spelling depends on the keys that are read. -/
lemma getOr_congr {select select' : Mapping} {first second : String}
    (hnull : ∀ item ∈ select, item.2.isNull = false)
    (hkeys : ∀ key ∈ keysOr select first second, select.get key = select'.get key) :
    getOr select first second = getOr select' first second := by
  have hall : select.filter (fun item => !item.2.isNull) = select :=
    List.filter_eq_self.mpr fun item hitem => by rw [hnull item hitem]; rfl
  have hfirst : select.get first = select'.get first := hkeys first (by
    unfold keysOr
    split <;> exact List.mem_cons_self)
  unfold keysOr Mapping.hasTruthy at hkeys
  rw [hall] at hkeys
  unfold getOr
  rw [← hfirst]
  cases hget : select.get first with
  | none =>
      rw [hget] at hkeys
      exact hkeys second (List.mem_cons_of_mem _ List.mem_cons_self)
  | some value =>
      simp only
      split
      · rfl
      · rename_i hfalsy
        rw [hget, Option.any_some, if_neg hfalsy] at hkeys
        exact hkeys second (List.mem_cons_of_mem _ List.mem_cons_self)

/-- **A matcher reads no other keys**: expressions that agree on them match the same assets. -/
lemma matchesAsset_congr {expr expr' : FilterExpression} (hop : expr.op = expr'.op)
    (hempty : expr.select.isEmpty = expr'.select.isEmpty)
    (hnull : ∀ item ∈ expr.select, item.2.isNull = false)
    (hkeys : ∀ key ∈ expr.op.keys expr.select, expr.select.get key = expr'.select.get key)
    (asset : AssetMetadata) : expr.matchesAsset asset = expr'.matchesAsset asset := by
  obtain ⟨op, select⟩ := expr
  obtain ⟨op', select'⟩ := expr'
  obtain rfl : op = op' := hop
  unfold matchesAsset
  simp only at hempty hnull hkeys ⊢
  cases op with
  | includes =>
      simp only [FilterOp.keys, List.forall_mem_cons] at hkeys
      simp only [hempty, matchInclude, hkeys.1, hkeys.2.1]
  | excludes =>
      simp only [FilterOp.keys, List.forall_mem_cons] at hkeys
      simp only [hempty, matchExclude, matchInclude, hkeys.1, hkeys.2.1]
  | byTag => simp only [matchByTag, getOr_congr hnull hkeys]
  | byRequiredProvider => simp only [matchByRequiredProvider, getOr_congr hnull hkeys]
  | other text => rfl

/-- Nor do they select other assets. -/
lemma evaluate_congr {expr expr' : FilterExpression} (hop : expr.op = expr'.op)
    (hempty : expr.select.isEmpty = expr'.select.isEmpty)
    (hnull : ∀ item ∈ expr.select, item.2.isNull = false)
    (hkeys : ∀ key ∈ expr.op.keys expr.select, expr.select.get key = expr'.select.get key)
    (assets : List AssetMetadata) : expr.evaluate assets = expr'.evaluate assets := by
  have hmatches : expr.matchesAsset = expr'.matchesAsset :=
    funext (matchesAsset_congr hop hempty hnull hkeys)
  unfold evaluate
  rw [hop, hmatches]

lemma get_eq_none {m : Mapping} {key : String} (h : ∀ item ∈ m, item.1 ≠ key) :
    m.get key = none := by
  cases hget : m.get key with
  | none => rfl
  | some value => exact absurd rfl (h _ (Mapping.mem_of_get hget))

/-- Conditions under other keys let every asset match an `include`, and an `exclude` as well. -/
lemma matchInclude_of_unread {select : Mapping}
    (h : ∀ item ∈ select, item.1 ∉ FilterOp.includes.keys select) (asset : AssetMetadata) :
    matchInclude select asset = .ok true := by
  have htags : select.get "tags" = none := get_eq_none fun item hitem heq =>
    h item hitem (heq ▸ List.mem_cons_self)
  have hproviders : select.get "required_providers" = none := get_eq_none fun item hitem heq =>
    h item hitem (heq ▸ List.mem_cons_of_mem _ List.mem_cons_self)
  unfold matchInclude
  rw [htags, hproviders]
  rfl

/-- **An unread condition is no condition**: `include` keeps every asset and `exclude` none. -/
lemma evaluate_of_unread {select : Mapping}
    (h : ∀ item ∈ select, item.1 ∉ FilterOp.includes.keys select) (assets : List AssetMetadata) :
    (including select).evaluate assets = .ok assets ∧
      (excluding select).evaluate assets = .ok [] := by
  have hinclude : ∀ asset ∈ assets,
      (⟨.includes, select⟩ : FilterExpression).matchesAsset asset = .ok true := by
    intro asset _
    unfold matchesAsset
    simp only [matchInclude_of_unread h, ite_self]
  have hexclude : ∀ asset ∈ assets,
      ((!·) <$> (⟨.excludes, select⟩ : FilterExpression).matchesAsset asset) = .ok false := by
    intro asset hasset
    exact congrArg ((!·) <$> ·) (hinclude asset hasset)
  rw [including_eq, excluding_eq]
  constructor
  · refine (Effect.except_filterM_eq_ok hinclude).trans ?_
    rw [List.filter_true]
  · refine (Effect.except_filterM_eq_ok hexclude).trans ?_
    rw [List.filter_false]

/-! ## What `from_dict` lets through -/

/-- Where the operator is no string, the exception is no `FilterError`. -/
lemma fromDict_of_not_text {data : Mapping} {value : Value} (hget : data.get "op" = some value)
    (htext : ∀ raw, value ≠ .str raw) :
    ∃ e, FilterExpression.fromDict data = .error e ∧ e.cls = .attributeError := by
  unfold FilterExpression.fromDict
  rw [hget]
  cases value with
  | str raw => exact absurd rfl (htext raw)
  | _ => exact ⟨_, rfl, rfl⟩

/-- A missing operator is reported. -/
lemma fromDict_of_missing {data : Mapping} (hget : data.get "op" = none) :
    ∃ e, FilterExpression.fromDict data = .error e ∧ e.cls = .filterError := by
  unfold FilterExpression.fromDict
  rw [hget]
  exact ⟨_, rfl, rfl⟩

/-- A text that names no operator is reported. -/
lemma fromDict_of_unknown {data : Mapping} {raw : String} (hget : data.get "op" = some (.str raw))
    (hraw : normalizeOp raw ∉ validOps) :
    ∃ e, FilterExpression.fromDict data = .error e ∧ e.cls = .filterError := by
  unfold FilterExpression.fromDict
  rw [hget]
  simp only [if_neg hraw]
  exact ⟨_, rfl, rfl⟩

/-- A valid operator is accepted, whatever else the mapping holds. -/
lemma fromDict_of_valid {data : Mapping} {raw : String} {op : FilterOp}
    (hget : data.get "op" = some (.str raw)) (hraw : normalizeOp raw ∈ validOps)
    (hop : FilterOp.ofText (normalizeOp raw) = op) :
    FilterExpression.fromDict data = .ok ⟨op, selectOf data⟩ := by
  rw [← hop]
  exact fromDict_eq_ok_iff.mpr ⟨raw, hget, hraw, rfl⟩

/-- The conditions of a filter have the values of the mapping. -/
lemma hasTruthy_selectOf {data : Mapping} {key : String} (hkey : key ≠ "op") :
    (selectOf data).hasTruthy key = data.hasTruthy key := by
  have hfind : ((selectOf data).filter fun item => !item.2.isNull).find? (·.1 == key) =
      (data.filter fun item => !item.2.isNull).find? (·.1 == key) := by
    unfold selectOf
    rw [List.filter_filter, List.find?_filter, List.find?_filter]
    congr 1
    funext item
    by_cases hitem : item.1 = key
    · have hop : (item.1 != "op") = true := bne_iff_ne.mpr (hitem ▸ hkey)
      rw [hop, Bool.true_and, Bool.and_self]
    · have hmiss : (item.1 == key) = false := beq_eq_false_iff_ne.mpr hitem
      simp only [hmiss, Bool.false_eq_true, and_false]
  unfold Mapping.hasTruthy Mapping.get
  rw [hfind]

lemma keys_selectOf {data : Mapping} (op : FilterOp) : op.keys (selectOf data) = op.keys data := by
  have hor : ∀ {first second : String}, first ≠ "op" →
      keysOr (selectOf data) first second = keysOr data first second := by
    intro first second hfirst
    unfold keysOr
    rw [hasTruthy_selectOf hfirst]
  cases op with
  | byTag => exact hor (by decide)
  | byRequiredProvider => exact hor (by decide)
  | _ => rfl

lemma mem_selectOf {data : Mapping} {item : String × Value} :
    item ∈ selectOf data ↔ item ∈ data ∧ item.1 ≠ "op" ∧ item.2.isNull = false := by
  unfold selectOf
  simp only [List.mem_filter, Bool.and_eq_true, bne_iff_ne, Bool.not_eq_true']

/-- An expression that ignores nothing does not let every asset pass unseen. -/
lemma RejectsMalformed.of_parsed {data : Mapping}
    (h : (∃ e, FilterExpression.fromDict data = .error e ∧ e.cls = .filterError) ∨
      ∃ expr, FilterExpression.fromDict data = .ok expr ∧
        ∀ item ∈ expr.select, item.1 ∈ expr.op.keys expr.select ∧ item.2.IsNames) :
    RejectsMalformed data where
  parsed := h
  not_all expr hexpr _ hne hunread := by
    obtain ⟨e, he, -⟩ | ⟨expr', hexpr', hread⟩ := h
    · rw [he] at hexpr
      cases hexpr
    · obtain rfl := Except.ok.inj (hexpr'.symm.trans hexpr)
      obtain ⟨item, hitem⟩ := List.exists_mem_of_ne_nil _ hne
      exact absurd (hread item hitem).1 (hunread item hitem)
  not_text value hget htext := by
    obtain ⟨e, he, hcls⟩ := fromDict_of_not_text hget htext
    obtain ⟨e', he', hcls'⟩ | ⟨expr, hexpr, -⟩ := h
    · exact ⟨e', he', hcls'⟩
    · rw [he] at hexpr
      cases hexpr

/-- A mapping that is rejected or read has a text for its operator, if it has one. -/
lemma RejectsMalformed.exists_text {data : Mapping} (h : RejectsMalformed data) {value : Value}
    (hget : data.get "op" = some value) : ∃ raw, value = .str raw := by
  by_contra hnone
  have htext : ∀ raw, value ≠ .str raw := not_exists.mp hnone
  obtain ⟨e, he, hcls⟩ := fromDict_of_not_text hget htext
  obtain ⟨e', he', hcls'⟩ := h.not_text value hget htext
  obtain rfl := Except.error.inj (he.symm.trans he')
  rw [hcls] at hcls'
  cases hcls'

/-- **Which mappings are rejected or read in full.** -/
theorem rejectsMalformed_iff (data : Mapping) : RejectsMalformed data ↔ ReadInFull data := by
  constructor
  · intro h value hget
    obtain ⟨raw, rfl⟩ := h.exists_text hget
    refine ⟨raw, rfl, ?_⟩
    intro hvalid item hitem hkey hnull
    have hexpr := fromDict_of_valid hget hvalid rfl
    obtain ⟨e, he, -⟩ | ⟨expr', hexpr', hread⟩ := h.parsed
    · rw [he] at hexpr
      cases hexpr
    · obtain rfl := Except.ok.inj (hexpr.symm.trans hexpr')
      dsimp only at hread
      rw [keys_selectOf] at hread
      exact hread item (mem_selectOf.mpr ⟨hitem, hkey, hnull⟩)
  · intro h
    apply RejectsMalformed.of_parsed
    cases hget : data.get "op" with
    | none => exact .inl (fromDict_of_missing hget)
    | some value =>
        obtain ⟨raw, rfl, hread⟩ := h value hget
        by_cases hvalid : normalizeOp raw ∈ validOps
        · refine .inr ⟨_, fromDict_of_valid hget hvalid rfl, ?_⟩
          dsimp only
          rw [keys_selectOf]
          intro item hitem
          obtain ⟨hdata, hkey, hnull⟩ := mem_selectOf.mp hitem
          exact hread hvalid item hdata hkey hnull
        · exact .inl (fromDict_of_unknown hget hvalid)

/-- The condition of a `by_tag`, under `include`. -/
def misplacedTag : Mapping := [("op", .str "include"), ("tag", .str "ea")]

lemma fromDict_misplacedTag : FilterExpression.fromDict misplacedTag =
    .ok (including [("tag", .str "ea")]) := by
  rw [including_eq]
  exact fromDict_of_valid rfl (by decide +kernel) (by decide +kernel)

/-- The condition of a `by_tag` in both spellings. -/
def bothTags : Mapping :=
  [("op", .str "by_tag"), ("tags", .list [.str "ea"]), ("tag", .str "coding")]

lemma fromDict_bothTags : FilterExpression.fromDict bothTags =
    .ok ⟨.byTag, [("tags", .list [.str "ea"]), ("tag", .str "coding")]⟩ :=
  fromDict_of_valid rfl (by decide +kernel) (by decide +kernel)

/-- The same without the second. -/
def firstTags : Mapping := [("op", .str "by_tag"), ("tags", .list [.str "ea"])]

lemma fromDict_firstTags : FilterExpression.fromDict firstTags =
    .ok ⟨.byTag, [("tags", .list [.str "ea"])]⟩ :=
  fromDict_of_valid rfl (by decide +kernel) (by decide +kernel)

/-- The second spelling makes no difference. -/
lemma applyFilters_bothTags (registry : AssetRegistry) :
    registry.applyFilters [bothTags] = registry.applyFilters [firstTags] := by
  have hsame : (⟨.byTag, [("tags", .list [.str "ea"]), ("tag", .str "coding")]⟩ :
      FilterExpression).evaluate registry.allAssets =
        (⟨.byTag, [("tags", .list [.str "ea"])]⟩ : FilterExpression).evaluate
          registry.allAssets := by
    refine evaluate_congr rfl rfl (fun item hitem => ?_) (fun key hkey => ?_) _
    · rcases List.mem_pair.mp hitem with rfl | rfl <;> rfl
    · obtain rfl := List.mem_singleton.mp hkey
      rfl
  unfold AssetRegistry.applyFilters
  rw [List.foldlM_cons, List.foldlM_cons, fromDict_bothTags, fromDict_firstTags]
  exact congrArg (· >>= pure) hsame

/-- The misplaced condition is accepted and selects the whole registry, a condition in a second
spelling is accepted and ignored, and a number for an operator raises no `FilterError`. -/
theorem misplacedTag_passes : ¬ RejectsMalformed misplacedTag ∧
    (∀ registry : AssetRegistry, registry.applyFilters [misplacedTag] = .ok registry.allAssets) ∧
    ¬ RejectsMalformed bothTags ∧
    (∀ registry : AssetRegistry,
      registry.applyFilters [bothTags] = registry.applyFilters [firstTags]) ∧
    ¬ RejectsMalformed [("op", .int 5)] := by
  have hunread : ∀ item ∈ [("tag", Value.str "ea")],
      item.1 ∉ FilterOp.includes.keys [("tag", .str "ea")] :=
    List.forall_mem_singleton.mpr (by decide)
  refine ⟨?_, ?_, ?_, applyFilters_bothTags, ?_⟩
  · intro h
    refine h.not_all _ fromDict_misplacedTag ?_ ?_ ?_ ?_ <;> rw [including_eq]
    · exact .inl rfl
    · exact List.cons_ne_nil _ _
    · exact hunread
    · intro asset
      exact matchInclude_of_unread hunread asset
  · intro registry
    unfold AssetRegistry.applyFilters
    rw [List.foldlM_cons, fromDict_misplacedTag]
    exact congrArg (· >>= pure) (evaluate_of_unread hunread registry.allAssets).1
  · intro h
    obtain ⟨e, he, -⟩ | ⟨expr, hexpr, hread⟩ := h.parsed
    · rw [fromDict_bothTags] at he
      cases he
    · obtain rfl := Except.ok.inj (fromDict_bothTags.symm.trans hexpr)
      have htag := (hread ("tag", .str "coding") (List.mem_cons_of_mem _ List.mem_cons_self)).1
      exact absurd htag (by decide)
  · intro h
    obtain ⟨raw, hraw⟩ := h.exists_text rfl
    cases hraw

end Waywarden
