import Waywarden.Policy.Loader

/-!
# Policy overrides

The merge keeps one override rule for each tool, the last.  Rules carry actions, a policy is read
by its first match, and the presets themselves have several rules for one tool; so an override
with several rules for a tool loses all but one of them, whatever actions they are about
(`not_mergesAsDocumented_two_actions`).  `mergesAsDocumented_iff` says when the merged policy
decides as documented: when the rules lost would have decided as the one kept does.

The merge also passes over what it cannot use.  A rule that fails the schema is skipped, a `rules`
value that is no list is ignored, and a default decision is copied unchecked; none of it raises
(`not_inEffect_typo`).  `inEffect_iff` says when an override is in effect as a whole.
-/

namespace Waywarden.Policy

/-! ## The decisions of a merged policy -/

/-- An override whose rules are valid and whose default decision, if it sets one, is a decision. -/
structure ValidOverride where
  raw : Override
  rules : List SchemaRule
  default : Option ToolDecision
  rules_ok : rulesField (raw.get "rules") = some rules
  default_ok : raw.get "default_decision" = default.map valueOf

/-- Whether a rule of the schema is about a tool and an action. -/
def SchemaRule.covers (rule : SchemaRule) (tool action : String) : Bool :=
  rule.toDomain.covers tool action

/-- The default decision in effect: the override's if it sets one. -/
def ValidOverride.defaultOf (o : ValidOverride) (doc : PolicyPresetDoc ToolDecision) :
    ToolDecision :=
  o.default.getD doc.defaultDecision

/-- The documented decision: the first match among the override's rules; the default where the
override has rules for the tool and none matches; else the first match in the base. -/
def documented (doc : PolicyPresetDoc ToolDecision) (o : ValidOverride) (tool action : String) :
    ToolDecision :=
  match o.rules.find? fun rule => rule.covers tool action with
  | some rule => rule.decision
  | none =>
      if o.rules.any fun rule => rule.tool = tool then o.defaultOf doc
      else ((doc.rules.find? fun rule => rule.covers tool action).map SchemaRule.decision).getD
        (o.defaultOf doc)

/-- The merged policy has a checked default, and decides every tool and action as documented. -/
def MergesAsDocumented (doc : PolicyPresetDoc ToolDecision) (o : ValidOverride) : Prop :=
  ∃ policy, (toDomain (mergeOverrides doc (some o.raw))).checked = some policy ∧
    ∀ tool action, policy.decision tool action = documented doc o tool action

/-- The rules an override has for a tool before its last one are redundant: where one of them is
the first to match, the last rule decides the same, or the default does where it does not match. -/
def EarlierRedundant (rules : List SchemaRule) (default : ToolDecision) : Prop :=
  ∀ tool action first last, (rules.find? fun rule => rule.covers tool action) = some first →
    lastRule rules tool = some last →
    first.decision = if last.covers tool action then last.decision else default

/-- A rule that covers a tool and an action is about the tool. -/
lemma tool_of_covers {rule : SchemaRule} {tool action : String}
    (h : rule.covers tool action = true) : rule.tool = tool := by
  rw [SchemaRule.covers, ToolDecisionRule.covers, Bool.and_eq_true] at h
  exact beq_iff_eq.mp h.1

/-- A search that can only stop at one element, which is there. -/
lemma find?_of_unique {α : Type} {p : α → Bool} {l : List α} {x : α} (hx : x ∈ l)
    (hunique : ∀ y ∈ l, p y = true → y = x) : l.find? p = if p x then some x else none := by
  cases hfind : l.find? p with
  | none =>
      rw [if_neg (List.find?_eq_none.mp hfind x hx)]
  | some y =>
      obtain rfl := hunique y (List.mem_of_find?_eq_some hfind) (List.find?_some hfind)
      rw [if_pos (List.find?_some hfind)]

section

variable {base : List SchemaRule} {items : List YamlValue} {tool action : String}

/-- For a tool the override has, its last rule is the only one left. -/
lemma find?_mergeRules_of_last {last : SchemaRule}
    (hlast : lastRule (items.filterMap validateRule) tool = some last) :
    ((mergeRules base (overrideMap items)).find? fun rule => rule.covers tool action) =
      if last.covers tool action then some last else none := by
  refine find?_of_unique (last_mem_mergeRules hlast) fun rule hrule hcovers => ?_
  exact eq_last_of_mem_mergeRules hrule (by rw [tool_of_covers hcovers]; exact hlast)

/-- For another tool the base rules are left as they were. -/
lemma find?_mergeRules_of_none
    (hnone : lastRule (items.filterMap validateRule) tool = none) :
    ((mergeRules base (overrideMap items)).find? fun rule => rule.covers tool action) =
      base.find? fun rule => rule.covers tool action := by
  have happended : ((overrideMap items).filter fun rule =>
      !(base.map SchemaRule.tool).contains rule.tool).find?
        (fun rule => rule.covers tool action) = none := by
    rw [List.find?_eq_none]
    intro rule hrule hcovers
    have hmap := get_of_mem_overrideMap (List.mem_filter.mp hrule).1
    rw [tool_of_covers hcovers, hnone] at hmap
    exact absurd hmap (by simp)
  rw [mergeRules_eq, List.find?_append, happended, Option.or_none]
  generalize base.map SchemaRule.tool = tools at happended
  induction base with
  | nil => rfl
  | cons rule base ih =>
      rw [List.map_cons, List.find?_cons, List.find?_cons, ih]
      rw [get_overrideMap]
      cases hfound : lastRule (items.filterMap validateRule) rule.tool with
      | none => rw [Option.getD_none]
      | some replacement =>
          have hname : replacement.tool = rule.tool := by simpa using List.find?_some hfound
          have hother : rule.tool ≠ tool := by
            intro heq
            rw [heq, hnone] at hfound
            exact absurd hfound (by simp)
          have hskip : ∀ r : SchemaRule, r.tool = rule.tool → r.covers tool action = false := by
            intro r hr
            rw [Bool.eq_false_iff]
            intro hcovers
            exact hother (hr ▸ tool_of_covers hcovers)
          rw [Option.getD_some, hskip replacement hname, hskip rule rfl]

end

/-- Elements that are all valid are the valid ones. -/
lemma filterMap_of_mapM {items : List YamlValue} {rules : List SchemaRule}
    (h : items.mapM validateRule = some rules) : items.filterMap validateRule = rules := by
  induction items generalizing rules with
  | nil =>
      obtain rfl := Option.some.inj h
      rfl
  | cons item items ih =>
      rw [List.mapM_cons] at h
      simp only [Option.bind_eq_bind, Option.bind_eq_some_iff, Option.pure_def] at h
      obtain ⟨rule, hrule, rest, hrest, hcons⟩ := h
      obtain rfl := Option.some.inj hcons
      rw [List.filterMap_cons_some hrule, ih hrest]

/-- What a valid override is merged into. -/
lemma mergeOverrides_valid (doc : PolicyPresetDoc ToolDecision) (o : ValidOverride) :
    ∃ items : List YamlValue, items.filterMap validateRule = o.rules ∧
      mergeOverrides doc (some o.raw) = ⟨doc.name, doc.preset, valueOf (o.defaultOf doc),
        mergeRules doc.rules (overrideMap items)⟩ := by
  have hdefault : (o.raw.get "default_decision").getD (valueOf doc.defaultDecision) =
      valueOf (o.defaultOf doc) := by
    rw [o.default_ok, ValidOverride.defaultOf]
    cases o.default <;> rfl
  have hrules := o.rules_ok
  rw [mergeOverrides_eq, Option.getD_some, hdefault, mergedRules]
  cases hget : o.raw.get "rules" with
  | none =>
      rw [hget] at hrules
      obtain hnil := Option.some.inj hrules
      exact ⟨[], hnil, rfl⟩
  | some value =>
      rw [hget] at hrules
      cases value with
      | list items => exact ⟨items, filterMap_of_mapM hrules, rfl⟩
      | _ => exact absurd hrules (by simp [rulesField])

/-- The decision of the policy a valid override is merged into. -/
lemma checked_valid (doc : PolicyPresetDoc ToolDecision) (o : ValidOverride) :
    ∃ (items : List YamlValue) (policy : ToolPolicy),
      items.filterMap validateRule = o.rules ∧
      (toDomain (mergeOverrides doc (some o.raw))).checked = some policy ∧
      ∀ tool action, policy.decision tool action =
        (((mergeRules doc.rules (overrideMap items)).find? fun rule =>
          rule.covers tool action).map SchemaRule.decision).getD (o.defaultOf doc) := by
  obtain ⟨items, hitems, hmerged⟩ := mergeOverrides_valid doc o
  refine ⟨items, ⟨doc.preset, (mergeRules doc.rules (overrideMap items)).map SchemaRule.toDomain,
    o.defaultOf doc⟩, hitems, ?_, fun tool action => ?_⟩
  · rw [hmerged, LoadedPolicy.checked, toDomain, decisionValue_valueOf, Option.map_some]
  · rw [ToolPolicy.decision, ToolPolicy.matching, List.find?_map, Option.map_map]
    rfl

/-- A tool has a last rule exactly when it has one. -/
lemma lastRule_eq_none_iff {rules : List SchemaRule} {tool : String} :
    lastRule rules tool = none ↔ (rules.any fun rule => rule.tool = tool) = false := by
  rw [lastRule, List.find?_eq_none, List.any_eq_false]
  simp

/-- A rule found for a tool and an action is about a tool that has rules. -/
lemma lastRule_ne_none_of_find? {rules : List SchemaRule} {tool action : String}
    {first : SchemaRule}
    (h : (rules.find? fun rule => rule.covers tool action) = some first) :
    lastRule rules tool ≠ none := by
  rw [ne_eq, lastRule_eq_none_iff, Bool.not_eq_false, List.any_eq_true]
  have hcovers := List.find?_some h
  exact ⟨first, List.mem_of_find?_eq_some h, decide_eq_true (tool_of_covers hcovers)⟩

/-- What is documented for a tool the override has no rule for. -/
lemma documented_of_none {doc : PolicyPresetDoc ToolDecision} {o : ValidOverride}
    {tool : String} (hlast : lastRule o.rules tool = none) (action : String) :
    documented doc o tool action =
      ((doc.rules.find? fun rule => rule.covers tool action).map SchemaRule.decision).getD
        (o.defaultOf doc) := by
  have hnone : (o.rules.find? fun rule => rule.covers tool action) = none := by
    cases hfind : o.rules.find? fun rule => rule.covers tool action with
    | none => rfl
    | some first => exact absurd hlast (lastRule_ne_none_of_find? hfind)
  rw [documented, hnone, lastRule_eq_none_iff.mp hlast]
  rfl

/-- What is documented for an action that none of its rules for the tool covers. -/
lemma documented_of_uncovered {doc : PolicyPresetDoc ToolDecision} {o : ValidOverride}
    {tool action : String} {last : SchemaRule} (hlast : lastRule o.rules tool = some last)
    (hfind : (o.rules.find? fun rule => rule.covers tool action) = none) :
    documented doc o tool action =
      if last.covers tool action then last.decision else o.defaultOf doc := by
  have hany : (o.rules.any fun rule => rule.tool = tool) = true := by
    rw [← Bool.not_eq_false, ← lastRule_eq_none_iff, hlast]
    simp
  have hmem : last ∈ o.rules := by
    simpa using List.mem_of_find?_eq_some hlast
  have hcovers : last.covers tool action = false := by
    simpa using List.find?_eq_none.mp hfind last hmem
  rw [documented, hfind, hcovers, hany]
  rfl

/-- **Merging as documented.**  The merged policy decides as documented exactly when the rules an
override has for a tool before its last one are redundant. -/
theorem mergesAsDocumented_iff (doc : PolicyPresetDoc ToolDecision) (o : ValidOverride) :
    MergesAsDocumented doc o ↔ EarlierRedundant o.rules (o.defaultOf doc) := by
  obtain ⟨items, policy, hitems, hpolicy, hdecision⟩ := checked_valid doc o
  have hmerges : MergesAsDocumented doc o ↔
      ∀ tool action, policy.decision tool action = documented doc o tool action := by
    constructor
    · rintro ⟨policy', hpolicy', h⟩
      obtain rfl := Option.some.inj (hpolicy.symm.trans hpolicy')
      exact h
    · intro h
      exact ⟨policy, hpolicy, h⟩
  -- what the last rule for a tool decides, if there is one
  have hlastly : ∀ tool action last, lastRule o.rules tool = some last →
      policy.decision tool action =
        if last.covers tool action then last.decision else o.defaultOf doc := by
    intro tool action last hlast
    rw [hdecision, find?_mergeRules_of_last (by rw [hitems]; exact hlast)]
    split <;> rfl
  rw [hmerges]
  constructor
  · intro h tool action first last hfirst hlast
    rw [← hlastly tool action last hlast, h tool action, documented, hfirst]
  · intro h tool action
    cases hlast : lastRule o.rules tool with
    | none =>
        rw [hdecision, find?_mergeRules_of_none (by rw [hitems]; exact hlast),
          documented_of_none hlast]
    | some last =>
        rw [hlastly tool action last hlast]
        cases hfind : o.rules.find? fun rule => rule.covers tool action with
        | some first =>
            rw [documented, hfind]
            exact (h tool action first last hfind hlast).symm
        | none => rw [documented_of_uncovered hlast hfind]

/-- A base document with no rules. -/
def emptyDoc : PolicyPresetDoc ToolDecision := ⟨"base", .ask, .approvalRequired, []⟩

/-- A YAML mapping of strings. -/
def ruleItem (entries : List (String × String)) : YamlValue :=
  .dict (entries.map fun entry => (.str entry.1, .str entry.2))

/-- An override that forbids one action of a tool and allows another. -/
def twoActions : ValidOverride where
  raw := [("rules", .list
    [ruleItem [("tool", "shell"), ("action", "write"), ("decision", "forbidden")],
      ruleItem [("tool", "shell"), ("action", "read"), ("decision", "auto-allow")]])]
  rules := [⟨"shell", some "write", .forbidden, none⟩, ⟨"shell", some "read", .autoAllow, none⟩]
  default := none
  rules_ok := by decide
  default_ok := rfl

/-- The forbidden action falls to the default. -/
theorem not_mergesAsDocumented_two_actions : ¬ MergesAsDocumented emptyDoc twoActions := by
  rintro ⟨policy, hpolicy, h⟩
  have hdecision := congrArg (Option.map fun p : ToolPolicy => p.decision "shell" "write") hpolicy
  rw [Option.map_some, h "shell" "write"] at hdecision
  exact absurd hdecision (by decide)

/-! ## What becomes of an override -/

/-- The override is in effect: each of its rules is valid and a rule of the policy, and the
policy's default decision is a decision, the override's if it sets one. -/
structure InEffect (override : Option Override) (policy : LoadedPolicy) : Prop where
  rules : ∀ value, (override.getD []).get "rules" = some value →
    ∃ items, value = .list items ∧ ∀ item ∈ items, ∃ rule, validateRule item = some rule ∧
      rule.toDomain ∈ policy.rules
  default : ∃ d, policy.defaultDecision = valueOf d
  overridden : ∀ value, (override.getD []).get "default_decision" = some value →
    policy.defaultDecision = value

/-- The override has a list of valid rules, no two different ones for a tool, and a decision for a
default, if it has any of them. -/
structure WellFormed (override : Option Override) : Prop where
  rules : ∃ rules, rulesField ((override.getD []).get "rules") = some rules ∧
    ∀ rule ∈ rules, ∀ other ∈ rules, rule.tool = other.tool → rule = other
  default : ∀ value, (override.getD []).get "default_decision" = some value →
    ∃ d, value = valueOf d

/-- Rules of the schema that read the same are the same. -/
lemma toDomain_injective : Function.Injective SchemaRule.toDomain := by
  intro rule other h
  obtain ⟨tool, action, decision, reason⟩ := rule
  obtain ⟨tool', action', decision', reason'⟩ := other
  simpa [SchemaRule.toDomain] using h

/-- Every rule has a last one for its tool. -/
lemma lastRule_of_mem {rules : List SchemaRule} {rule : SchemaRule} (h : rule ∈ rules) :
    ∃ last ∈ rules, lastRule rules rule.tool = some last ∧ last.tool = rule.tool := by
  cases hlast : lastRule rules rule.tool with
  | none =>
      have hany := lastRule_eq_none_iff.mp hlast
      rw [List.any_eq_false] at hany
      exact absurd (decide_eq_true rfl) (hany rule h)
  | some last =>
      refine ⟨last, by simpa using List.mem_of_find?_eq_some hlast, rfl, ?_⟩
      simpa using List.find?_some hlast

/-- A rule of an override is a rule of the merged policy exactly when it is the last for its
tool. -/
lemma mem_mergeRules_iff {base rules : List SchemaRule} {items : List YamlValue}
    (hitems : items.filterMap validateRule = rules) {rule : SchemaRule} (hrule : rule ∈ rules) :
    rule ∈ mergeRules base (overrideMap items) ↔ lastRule rules rule.tool = some rule := by
  constructor
  · intro hmem
    obtain ⟨last, -, hlast, -⟩ := lastRule_of_mem hrule
    rw [hlast, eq_last_of_mem_mergeRules hmem (by rw [hitems]; exact hlast)]
  · intro hlast
    exact last_mem_mergeRules (by rw [hitems]; exact hlast)

/-- Valid elements one by one are valid together. -/
lemma mapM_of_forall {items : List YamlValue}
    (h : ∀ item ∈ items, ∃ rule, validateRule item = some rule) :
    ∃ rules, items.mapM validateRule = some rules := by
  induction items with
  | nil => exact ⟨[], rfl⟩
  | cons item items ih =>
      obtain ⟨rule, hrule⟩ := h item List.mem_cons_self
      obtain ⟨rules, hrules⟩ := ih fun i hi => h i (List.mem_cons_of_mem _ hi)
      exact ⟨rule :: rules, by rw [List.mapM_cons, hrule, hrules]; rfl⟩

/-- Each valid rule comes from an element. -/
lemma mem_of_mapM {items : List YamlValue} {rules : List SchemaRule}
    (h : items.mapM validateRule = some rules) {rule : SchemaRule} :
    rule ∈ rules ↔ ∃ item ∈ items, validateRule item = some rule := by
  rw [← filterMap_of_mapM h, List.mem_filterMap]

/-- Elements that are valid together are valid one by one. -/
lemma valid_of_mapM {items : List YamlValue} {rules : List SchemaRule}
    (h : items.mapM validateRule = some rules) {item : YamlValue} (hitem : item ∈ items) :
    ∃ rule ∈ rules, validateRule item = some rule := by
  cases hvalid : validateRule item with
  | some rule => exact ⟨rule, (mem_of_mapM h).mpr ⟨item, hitem, hvalid⟩, rfl⟩
  | none =>
      induction items generalizing rules with
      | nil => exact absurd hitem List.not_mem_nil
      | cons first items ih =>
          rw [List.mapM_cons] at h
          simp only [Option.bind_eq_bind, Option.bind_eq_some_iff] at h
          obtain ⟨rule, hrule, rest, hrest, -⟩ := h
          rcases List.mem_cons.mp hitem with rfl | hmem
          · exact absurd (hvalid.symm.trans hrule) (by simp)
          · exact absurd (ih hrest hmem) (by simp)

/-- Rules that all survive the merge are the only ones for their tools. -/
lemma single_of_survive {base rules : List SchemaRule} {items : List YamlValue}
    (hmap : items.mapM validateRule = some rules)
    (hall : ∀ item ∈ items, ∃ rule, validateRule item = some rule ∧
      rule ∈ mergeRules base (overrideMap items)) :
    ∀ rule ∈ rules, ∀ other ∈ rules, rule.tool = other.tool → rule = other := by
  have hlast : ∀ rule ∈ rules, lastRule rules rule.tool = some rule := by
    intro rule hrule
    obtain ⟨item, hitem, hvalid⟩ := (mem_of_mapM hmap).mp hrule
    obtain ⟨rule', hvalid', hmem⟩ := hall item hitem
    obtain rfl := Option.some.inj (hvalid.symm.trans hvalid')
    exact (mem_mergeRules_iff (filterMap_of_mapM hmap) hrule).mp hmem
  intro rule hrule other hother htool
  have hsame := hlast rule hrule
  rw [htool, hlast other hother] at hsame
  exact (Option.some.inj hsame).symm

/-- Rules that are the only ones for their tools all survive the merge. -/
lemma survive_of_single {base rules : List SchemaRule} {items : List YamlValue}
    (hmap : items.mapM validateRule = some rules)
    (hsingle : ∀ rule ∈ rules, ∀ other ∈ rules, rule.tool = other.tool → rule = other)
    {item : YamlValue} (hitem : item ∈ items) :
    ∃ rule, validateRule item = some rule ∧ rule ∈ mergeRules base (overrideMap items) := by
  obtain ⟨rule, hrule, hvalid⟩ := valid_of_mapM hmap hitem
  obtain ⟨last, hmem, hlast, htool⟩ := lastRule_of_mem hrule
  obtain rfl := hsingle rule hrule last hmem htool.symm
  exact ⟨rule, hvalid, (mem_mergeRules_iff (filterMap_of_mapM hmap) hrule).mpr hlast⟩

/-- **Overrides in effect.**  Loading a preset raises or puts the whole override in effect exactly
when the override is well formed. -/
theorem inEffect_iff {presets : PresetsDir} {name : String} {doc : PolicyPresetDoc ToolDecision}
    (hdoc : loadDoc presets name = .ok doc) (override : Option Override) :
    (∀ policy, load presets name override = .ok policy → InEffect override policy) ↔
      WellFormed override := by
  have hload : load presets name override = .ok (toDomain (mergeOverrides doc override)) := by
    rw [load, hdoc]
    rfl
  have hrules : ∀ items, (override.getD []).get "rules" = some (.list items) →
      (toDomain (mergeOverrides doc override)).rules =
        (mergeRules doc.rules (overrideMap items)).map SchemaRule.toDomain := by
    intro items hget
    rw [mergeOverrides_eq, toDomain, mergedRules, hget, Option.getD_some]
  have hdefault : (toDomain (mergeOverrides doc override)).defaultDecision =
      ((override.getD []).get "default_decision").getD (valueOf doc.defaultDecision) := by
    rw [mergeOverrides_eq, toDomain]
  constructor
  · intro h
    obtain ⟨hin, ⟨d, hd⟩, hover⟩ := h _ hload
    refine ⟨?_, fun value hvalue => ⟨d, by rw [← hover value hvalue, hd]⟩⟩
    cases hget : (override.getD []).get "rules" with
    | none => exact ⟨[], rfl, fun rule hrule => absurd hrule List.not_mem_nil⟩
    | some value =>
        obtain ⟨items, rfl, hall⟩ := hin value hget
        obtain ⟨rules, hmap⟩ := mapM_of_forall fun item hitem =>
          (hall item hitem).imp fun _ hr => hr.1
        refine ⟨rules, hmap, @single_of_survive doc.rules _ _ hmap fun item hitem => ?_⟩
        obtain ⟨rule, hvalid, hmem⟩ := hall item hitem
        rw [hrules items hget, List.mem_map_of_injective toDomain_injective] at hmem
        exact ⟨rule, hvalid, hmem⟩
  · rintro ⟨⟨rules, hfield, hsingle⟩, hdecision⟩ policy hpolicy
    obtain rfl := Except.ok.inj (hload.symm.trans hpolicy)
    refine ⟨fun value hvalue => ?_, ?_, fun value hvalue => ?_⟩
    · rw [hvalue] at hfield
      cases value with
      | list items =>
          refine ⟨items, rfl, fun item hitem => ?_⟩
          obtain ⟨rule, hvalid, hmem⟩ := survive_of_single hfield hsingle hitem
          rw [hrules items hvalue]
          exact ⟨rule, hvalid, List.mem_map_of_mem hmem⟩
      | _ => exact absurd hfield (by simp [rulesField])
    · rw [hdefault]
      cases hget : (override.getD []).get "default_decision" with
      | none => exact ⟨doc.defaultDecision, rfl⟩
      | some value => exact hdecision value hget
    · rw [hdefault, hvalue, Option.getD_some]

/-- A presets directory with one preset without rules. -/
def onePreset : PresetsDir := fun path =>
  if path = "base.yaml" then
    some (.parsed (ruleItem [("name", "base"), ("preset", "yolo"),
      ("default_decision", "auto-allow")]))
  else none

/-- The document of the one preset. -/
def yoloDoc : PolicyPresetDoc ToolDecision := ⟨"base", .yolo, .autoAllow, []⟩

lemma loadDoc_onePreset : loadDoc onePreset "base" = .ok yoloDoc := rfl

/-- An override that forbids a tool. -/
def forbidShell : Override :=
  [("rules", .list [ruleItem [("tool", "shell"), ("decision", "forbidden")]])]

/-- `inEffect_iff` at an override that forbids a tool. -/
theorem inEffect_forbidShell :
    loadDoc onePreset "base" = .ok yoloDoc ∧
      ((∀ policy, load onePreset "base" (some forbidShell) = .ok policy →
        InEffect (some forbidShell) policy) ↔ WellFormed (some forbidShell)) :=
  ⟨loadDoc_onePreset, inEffect_iff loadDoc_onePreset (some forbidShell)⟩

/-- The same override with the decision misspelt. -/
def typoShell : Override :=
  [("rules", .list [ruleItem [("tool", "shell"), ("decision", "forbiden")]])]

/-- The misspelt rule is skipped without an error, and the tool stays allowed. -/
theorem not_inEffect_typo :
    ¬ ∀ policy, load onePreset "base" (some typoShell) = .ok policy →
      InEffect (some typoShell) policy := by
  intro h
  obtain ⟨items, hitems, hall⟩ := (h _ rfl).rules _ rfl
  obtain rfl := (YamlValue.list.inj hitems).symm
  obtain ⟨rule, hrule, -⟩ := hall _ List.mem_cons_self
  have hnone : validateRule (ruleItem [("tool", "shell"), ("decision", "forbiden")]) = none := by
    decide
  exact absurd (hnone.symm.trans hrule) (by simp)

end Waywarden.Policy
