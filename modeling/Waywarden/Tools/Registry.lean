import Waywarden.Domain.Manifest
import Waywarden.Domain.ValueText
import Waywarden.Lib.Effect
import Waywarden.Lib.KeyedTable

/-!
# The tool registry

`waywarden.tools`: the registry has one provider for each capability, hands an invocation to the
provider of the tool, and checks that every tool a policy names is claimed.

The capabilities of a provider are a frozen set, here in the order a loop over it meets them.  A
registry is made by two nested loops, which stop at a capability that is claimed already;
`new_eq_ok_iff` says what they leave otherwise.
-/

namespace Waywarden

/-- `ToolResult`. -/
structure ToolResult where
  toolId : String
  action : String
  output : String
  success : Bool := true
  error : Option String := none
  toolId_ne : strip toolId ≠ ""
  action_ne : strip action ≠ ""

/-- The `ToolResult` constructor. -/
def ToolResult.new (toolId action output : String) (success : Bool) (error : Option String) :
    Except PyError ToolResult :=
  if htool : strip toolId = "" then .error ⟨.valueError, "tool_id must not be empty", []⟩
  else if haction : strip action = "" then .error ⟨.valueError, "action must not be empty", []⟩
  else .ok ⟨toolId, action, output, success, error, htool, haction⟩

/-- `ToolProvider`. -/
structure ToolProvider where
  capabilities : List String
  invoke : String → String → Mapping → Except PyError ToolResult
  nodup : capabilities.Nodup

/-- What the registry raises. -/
inductive ToolFailure
  /-- `DuplicateCapabilityError`. -/
  | duplicate (capability : String)
  /-- `UnknownCapabilityError`. -/
  | unknown (capability : String)
  /-- `UncoveredCapabilityError`. -/
  | uncovered (tool : String)
  /-- What a provider raises. -/
  | raised (e : PyError)

/-- The message, and what it formats. -/
def ToolFailure.message : ToolFailure → String × List String
  | duplicate capability => ("duplicate capability: %", [capability])
  | unknown capability => ("unknown capability: %", [capability])
  | uncovered tool => ("uncovered capability in policy rule: %", [tool])
  | raised e => (e.text, e.values)

/-- `ToolRegistry`. -/
structure ToolRegistry where
  providers : List (String × ToolProvider) := []
  keys_nodup : (providers.map Prod.fst).Nodup := by exact List.nodup_nil

namespace ToolRegistry

/-- The capabilities that are claimed. -/
def claimed (registry : ToolRegistry) : List String := registry.providers.map Prod.fst

/-- The body of the loops: the capability is the provider's, unless it is claimed. -/
def claim (provider : ToolProvider) (registry : ToolRegistry) (capability : String) :
    Except ToolFailure ToolRegistry :=
  if h : capability ∈ registry.claimed then .error (.duplicate capability)
  else .ok ⟨registry.providers ++ [(capability, provider)], by
    rw [List.map_append, List.map_singleton, ← List.concat_eq_append]
    exact registry.keys_nodup.concat h⟩

/-- The loop over the capabilities of a provider. -/
def claimAll (provider : ToolProvider) :
    ToolRegistry → List String → Except ToolFailure ToolRegistry
  | registry, [] => .ok registry
  | registry, capability :: rest => do
      let registry ← claim provider registry capability
      claimAll provider registry rest

/-- The loop over the providers. -/
def addAll : ToolRegistry → List ToolProvider → Except ToolFailure ToolRegistry
  | registry, [] => .ok registry
  | registry, provider :: rest => do
      let registry ← claimAll provider registry provider.capabilities
      addAll registry rest

/-- The `ToolRegistry` constructor. -/
def new (providers : List ToolProvider) : Except ToolFailure ToolRegistry := addAll {} providers

/-- `self._providers.get(tool_id)`. -/
def provider? (registry : ToolRegistry) (toolId : String) : Option ToolProvider :=
  (KeyedTable.get Prod.fst toolId registry.providers).map Prod.snd

/-- `invoke`. -/
def invoke (registry : ToolRegistry) (toolId action : String) (params : Option Mapping) :
    Except ToolFailure ToolResult :=
  match registry.provider? toolId with
  | none => .error (.unknown toolId)
  | some provider => (provider.invoke toolId action (params.getD [])).mapError .raised

/-- `validate_against_policy`. -/
def validateAgainstPolicy (registry : ToolRegistry) (policy : ToolPolicy) :
    Except ToolFailure Unit :=
  match policy.rules.find? fun rule => rule.tool ∉ registry.claimed with
  | some rule => .error (.uncovered rule.tool)
  | none => .ok ()

/-! ## What a registry is made of -/

variable {registry registry' : ToolRegistry} {provider : ToolProvider}

lemma eq_of_providers (h : registry.providers = registry'.providers) : registry = registry' := by
  cases registry
  cases registry'
  congr

/-- Registries are told apart by their entries. -/
lemma ok_eq_ok_iff : (Except.ok registry : Except ToolFailure ToolRegistry) = .ok registry' ↔
    registry'.providers = registry.providers :=
  ⟨fun h => (congrArg ToolRegistry.providers (Except.ok.inj h)).symm,
    fun h => congrArg Except.ok (eq_of_providers h.symm)⟩

/-- Where a registry is to come out, what is claimed on the way is claimed once. -/
lemma nodup_of_append {first rest : List (String × ToolProvider)}
    (h : registry'.providers = first ++ rest) : (first.map Prod.fst).Nodup := by
  have hall := registry'.keys_nodup
  rw [h, List.map_append] at hall
  exact hall.of_append_left

/-- The entries of the capabilities of a provider. -/
def entriesOf (provider : ToolProvider) (capabilities : List String) :
    List (String × ToolProvider) :=
  capabilities.map fun capability => (capability, provider)

/-- **One capability.** -/
lemma claim_eq_ok_iff {capability : String} : claim provider registry capability = .ok registry' ↔
    registry'.providers = registry.providers ++ [(capability, provider)] := by
  unfold claim
  by_cases h : capability ∈ registry.claimed
  · rw [dif_pos h]
    refine iff_of_false (by simp) fun heq => ?_
    have hnodup := registry'.keys_nodup
    rw [heq, List.map_append, List.nodup_append] at hnodup
    exact hnodup.2.2 capability h capability List.mem_cons_self rfl
  · rw [dif_neg h]
    exact ok_eq_ok_iff

/-- **The capabilities of a provider**, from any registry. -/
lemma claimAll_eq_ok_iff {capabilities : List String} :
    claimAll provider registry capabilities = .ok registry' ↔
      registry'.providers = registry.providers ++ entriesOf provider capabilities := by
  induction capabilities generalizing registry with
  | nil =>
      unfold claimAll entriesOf
      rw [List.map_nil, List.append_nil]
      exact ok_eq_ok_iff
  | cons capability rest ih =>
      unfold claimAll
      rw [Effect.except_bind_eq_ok]
      have hentries : entriesOf provider (capability :: rest) =
          [(capability, provider)] ++ entriesOf provider rest := rfl
      rw [hentries, ← List.append_assoc]
      constructor
      · rintro ⟨next, hclaim, hrest⟩
        rw [← claim_eq_ok_iff.mp hclaim]
        exact ih.mp hrest
      · exact fun h => ⟨⟨_, nodup_of_append h⟩, claim_eq_ok_iff.mpr rfl, ih.mpr h⟩

/-- The entries of some providers, in their order. -/
def entries (providers : List ToolProvider) : List (String × ToolProvider) :=
  providers.flatMap fun provider => entriesOf provider provider.capabilities

lemma addAll_eq_ok_iff {providers : List ToolProvider} :
    addAll registry providers = .ok registry' ↔
      registry'.providers = registry.providers ++ entries providers := by
  induction providers generalizing registry with
  | nil =>
      unfold addAll entries
      rw [List.flatMap_nil, List.append_nil]
      exact ok_eq_ok_iff
  | cons provider rest ih =>
      unfold addAll
      rw [Effect.except_bind_eq_ok]
      have hentries : entries (provider :: rest) =
          entriesOf provider provider.capabilities ++ entries rest := List.flatMap_cons
      rw [hentries, ← List.append_assoc]
      constructor
      · rintro ⟨next, hclaim, hrest⟩
        rw [← claimAll_eq_ok_iff.mp hclaim]
        exact ih.mp hrest
      · exact fun h => ⟨⟨_, nodup_of_append h⟩, claimAll_eq_ok_iff.mpr rfl, ih.mpr h⟩

/-- **A registry that was made** has the entries of its providers. -/
lemma new_eq_ok_iff {providers : List ToolProvider} :
    new providers = .ok registry ↔ registry.providers = entries providers := by
  unfold new
  rw [addAll_eq_ok_iff, List.nil_append]

/-- What is claimed by some providers. -/
lemma map_fst_entries (providers : List ToolProvider) :
    (entries providers).map Prod.fst = providers.flatMap ToolProvider.capabilities := by
  unfold entries entriesOf
  rw [List.map_flatMap]
  congr 1
  funext provider
  rw [List.map_map]
  exact List.map_id _

lemma mem_entries {providers : List ToolProvider} {capability : String} :
    (capability, provider) ∈ entries providers ↔
      provider ∈ providers ∧ capability ∈ provider.capabilities := by
  unfold entries entriesOf
  rw [List.mem_flatMap]
  constructor
  · rintro ⟨other, hother, hmem⟩
    obtain ⟨found, hfound, heq⟩ := List.mem_map.mp hmem
    obtain ⟨rfl, rfl⟩ := Prod.mk.inj heq
    exact ⟨hother, hfound⟩
  · rintro ⟨hprovider, hcapability⟩
    exact ⟨provider, hprovider, List.mem_map_of_mem hcapability⟩

end ToolRegistry

end Waywarden
