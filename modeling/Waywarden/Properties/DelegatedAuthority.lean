import Waywarden.Lib.Wildcard
import Waywarden.Domain.Narrowing

/-!
# Authority under delegation

What a manifest authorises is more than `narrow_manifest` compares.  A connection is permitted by
mode, host, port, scheme and deny list together, and the check compares host patterns, under one
mode; a tool is decided by a first-match scan of the rules, and the check compares preset labels;
a grant has a size and a secret scope a mode, a list of variables and a redaction level, and the
check compares paths and secret names.

For each of the three kinds of authority this module gives the exact condition under which an
accepted child does not widen it: `NetworkNarrows`, `ToolNarrows` and `ScopeNarrows`.
-/

namespace Waywarden

open Delegation

variable {parent child : WorkspaceManifest}

/-! ## Network -/

/-- A connection a workspace may ask for. -/
structure Connection where
  host : String
  port : ℤ
  scheme : NetworkScheme

/-- The rule covers the connection; its host pattern is an opaque name. -/
def NetworkAllowRule.covers (rule : NetworkAllowRule) (c : Connection) : Prop :=
  rule.hostPattern = c.host ∧ Wildcard.Matches rule.port c.port ∧
    Wildcard.Matches rule.scheme c.scheme

/-- The policy, of a concrete mode, permits the connection. -/
def NetworkPolicy.permits (policy : NetworkPolicy) (c : Connection) : Prop :=
  policy.mode = .allowlist ∧ (∃ rule ∈ policy.allow, rule.covers c) ∧ c.host ∉ policy.deny

/-- The rule permits something: its policy is in `allowlist` mode and does not deny its host. -/
def NetworkPolicy.Live (policy : NetworkPolicy) (rule : NetworkAllowRule) : Prop :=
  policy.mode = .allowlist ∧ rule ∈ policy.allow ∧ rule.hostPattern ∉ policy.deny

/-- Every live rule of the child falls under the parent: the parent is in `allowlist` mode, does
not deny the rule's host, and has for each scheme of the rule a rule of its own for that host and
scheme whose port is unset or the same. -/
def NetworkNarrows (parent child : NetworkPolicy) : Prop :=
  ∀ rule, child.Live rule → parent.mode = .allowlist ∧ rule.hostPattern ∉ parent.deny ∧
    ∀ scheme, Wildcard.Matches rule.scheme scheme → ∃ wide ∈ parent.allow,
      wide.hostPattern = rule.hostPattern ∧ Wildcard.Matches wide.scheme scheme ∧
        Wildcard.Wider wide.port rule.port

instance : Nonempty NetworkScheme := ⟨.https⟩

/-- **Connections, rule by rule.**  The child permits no more connections than the parent exactly
when every live rule of the child falls under the parent. -/
theorem permits_imp_iff (parent child : NetworkPolicy) :
    (∀ c, child.permits c → parent.permits c) ↔ NetworkNarrows parent child := by
  constructor
  · rintro h rule ⟨hmode, hrule, hdeny⟩
    have hpermits : ∀ port scheme, Wildcard.Matches rule.port port →
        Wildcard.Matches rule.scheme scheme → parent.permits ⟨rule.hostPattern, port, scheme⟩ :=
      fun port scheme hport hscheme =>
        h _ ⟨hmode, ⟨rule, hrule, rfl, hport, hscheme⟩, hdeny⟩
    obtain ⟨port, hport⟩ := Wildcard.exists_matches rule.port
    obtain ⟨scheme, hscheme⟩ := Wildcard.exists_matches rule.scheme
    obtain ⟨hpmode, -, hpdeny⟩ := hpermits port scheme hport hscheme
    refine ⟨hpmode, hpdeny, fun scheme hscheme => ?_⟩
    -- the parent's rules for this host and scheme cover the rule's ports together, so one does
    have hcover := (Wildcard.covered_iff
      ((parent.allow.filter fun wide => wide.hostPattern = rule.hostPattern ∧
        Wildcard.Wider wide.scheme (some scheme)).map NetworkAllowRule.port) rule.port).mp ?_
    · obtain ⟨_, hmem, hwider⟩ := hcover
      obtain ⟨wide, hwide, rfl⟩ := List.mem_map.mp hmem
      obtain ⟨hallow, hhost⟩ := List.mem_filter.mp hwide
      have hhost := of_decide_eq_true hhost
      exact ⟨wide, hallow, hhost.1, Wildcard.matches_iff_wider.mpr hhost.2, hwider⟩
    · intro port hport
      obtain ⟨-, ⟨wide, hwide, hhost, hwport, hwscheme⟩, -⟩ := hpermits port scheme hport hscheme
      refine ⟨wide.port, List.mem_map_of_mem (List.mem_filter.mpr ⟨hwide, ?_⟩), hwport⟩
      exact decide_eq_true ⟨hhost, Wildcard.matches_iff_wider.mp hwscheme⟩
  · rintro h c ⟨hmode, ⟨rule, hrule, hhost, hport, hscheme⟩, hdeny⟩
    obtain ⟨hpmode, hpdeny, hwide⟩ := h rule ⟨hmode, hrule, hhost ▸ hdeny⟩
    obtain ⟨wide, hallow, hwhost, hwscheme, hwport⟩ := hwide c.scheme hscheme
    exact ⟨hpmode, ⟨wide, hallow, hwhost.trans hhost, hwport.matches hport, hwscheme⟩,
      hhost ▸ hpdeny⟩

/-- An accepted child permits no connection its parent does not permit. -/
def NetworkConfined (parent child : WorkspaceManifest) : Prop :=
  narrowManifest parent child = .ok () →
    ∀ c, child.networkPolicy.permits c → parent.networkPolicy.permits c

/-- **Network authority, exactly.** -/
theorem networkConfined_iff (parent child : WorkspaceManifest) :
    NetworkConfined parent child ↔
      (Checked parent child → NetworkNarrows parent.networkPolicy child.networkPolicy) := by
  rw [NetworkConfined, narrowManifest_eq_ok_iff, permits_imp_iff]

/-- A manifest that grants nothing but the given network policy. -/
def networkManifest (policy : NetworkPolicy) : WorkspaceManifest where
  runId := "run-1"
  inputs := []
  writablePaths := []
  outputs := []
  networkPolicy := policy
  toolPolicy := { preset := .ask, rules := [] }
  secretScope := { mode := .none, allowedSecretRefs := [], mountEnv := [] }
  snapshotPolicy := {}

/-- Under a parent that denies everything a child may allow any host. -/
theorem not_networkConfined_under_deny :
    ¬ NetworkConfined (networkManifest ⟨.deny, [], []⟩)
      (networkManifest
        ⟨.allowlist, [{ hostPattern := "example.org", purpose := "fetch" }], []⟩) := by
  intro h
  have hpermits := h (by decide) ⟨"example.org", 443, .https⟩
    ⟨rfl, ⟨_, List.mem_singleton_self _, rfl, Wildcard.matches_none _, Wildcard.matches_none _⟩,
      List.not_mem_nil⟩
  exact absurd hpermits.1 (by decide)

/-! ## Tools -/

/-- How restrictive a decision is. -/
def ToolDecision.restriction : ToolDecision → ℕ
  | .autoAllow => 0
  | .approvalRequired => 1
  | .forbidden => 2

namespace ToolPolicy

/-- The rules for a tool as a first-match table on actions, closed by the default. -/
def entries (policy : ToolPolicy) (tool : String) : List (Option String × ToolDecision) :=
  (policy.rules.filter fun rule => rule.tool == tool).map (fun rule => (rule.action, rule.decision))
    ++ [(none, policy.defaultDecision)]

/-- The policy's decision is that of the leading entry. -/
lemma lead_entries (policy : ToolPolicy) (tool action : String) :
    (Wildcard.lead (policy.entries tool) (some action)).map Prod.snd =
      some (policy.decision tool action) := by
  have hcovers : ∀ rule : ToolDecisionRule, decide ((rule.tool == tool) = true ∧
      decide (Wildcard.Wider rule.action (some action)) = true) = rule.covers tool action := by
    intro rule
    rw [ToolDecisionRule.covers, Bool.eq_iff_iff]
    cases rule.action with
    | none => simp [Wildcard.Wider]
    | some b => simp [Wildcard.Wider]
  rw [entries, Wildcard.lead, List.find?_append, List.find?_map, List.find?_filter, decision,
    matching]
  simp only [Function.comp_def, hcovers]
  cases policy.rules.find? fun rule => rule.covers tool action with
  | none => rfl
  | some rule => rfl

lemma decision_of_lead {policy : ToolPolicy} {tool action : String}
    {entry : Option String × ToolDecision}
    (h : Wildcard.lead (policy.entries tool) (some action) = some entry) :
    policy.decision tool action = entry.2 := by
  have hlead := lead_entries policy tool action
  rw [h] at hlead
  exact (Option.some.inj hlead).symm

/-- A tool no rule is about is decided by the default. -/
lemma decision_of_unnamed {policy : ToolPolicy} {tool : String}
    (h : ∀ rule ∈ policy.rules, rule.tool ≠ tool) (action : String) :
    policy.decision tool action = policy.defaultDecision := by
  have hentries : policy.entries tool = [(none, policy.defaultDecision)] := by
    rw [entries, List.filter_eq_nil_iff.mpr fun rule hrule => by simpa using h rule hrule]
    rfl
  have hlead : Wildcard.lead (policy.entries tool) (some action) =
      some (none, policy.defaultDecision) := by
    rw [hentries]
    rfl
  exact decision_of_lead hlead

end ToolPolicy

/-- The second decision is at least as restrictive as the first. -/
def ToolDecision.Tightens (d d' : ToolDecision) : Prop := d.restriction ≤ d'.restriction

instance (d d' : ToolDecision) : Decidable (d.Tightens d') := inferInstanceAs (Decidable (_ ≤ _))

/-- The child's default is as restrictive as the parent's; and for every tool some rule is about,
an entry of the parent and an entry of the child (a rule for the tool, or the default) that lead
for the same action, or both for the unset one, tighten. -/
structure ToolNarrows (parent child : ToolPolicy) : Prop where
  default : parent.defaultDecision.Tightens child.defaultDecision
  rules : ∀ rule ∈ parent.rules ++ child.rules, Wildcard.LeadersCompare ToolDecision.Tightens
    (parent.entries rule.tool) (child.entries rule.tool)

/-- For one tool, decisions tighten exactly when the leading entries do. -/
lemma tightens_iff_leaders (parent child : ToolPolicy) (tool : String) :
    (∀ action, (parent.decision tool action).Tightens (child.decision tool action)) ↔
      Wildcard.LeadersCompare ToolDecision.Tightens (parent.entries tool)
        (child.entries tool) := by
  rw [← Wildcard.forall_lead_iff]
  constructor
  · intro h action e f he hf
    rw [← ToolPolicy.decision_of_lead he, ← ToolPolicy.decision_of_lead hf]
    exact h action
  · intro h action
    obtain ⟨e, he, hed⟩ := Option.map_eq_some_iff.mp (parent.lead_entries tool action)
    obtain ⟨f, hf, hfd⟩ := Option.map_eq_some_iff.mp (child.lead_entries tool action)
    rw [← hed, ← hfd]
    exact h action e f he hf

/-- **Decisions, rule by rule.**  The child decides every tool and action at least as
restrictively as the parent exactly when its defaults and its leading entries do. -/
theorem tightens_iff (parent child : ToolPolicy) :
    (∀ tool action, (parent.decision tool action).Tightens (child.decision tool action)) ↔
      ToolNarrows parent child := by
  have hunnamed : ∀ tool, (∀ rule ∈ parent.rules ++ child.rules, rule.tool ≠ tool) → ∀ action,
      parent.decision tool action = parent.defaultDecision ∧
        child.decision tool action = child.defaultDecision := by
    intro tool h action
    have hp : ∀ rule ∈ parent.rules, rule.tool ≠ tool :=
      fun rule hrule => h rule (List.mem_append_left _ hrule)
    have hc : ∀ rule ∈ child.rules, rule.tool ≠ tool :=
      fun rule hrule => h rule (List.mem_append_right _ hrule)
    exact ⟨ToolPolicy.decision_of_unnamed hp action, ToolPolicy.decision_of_unnamed hc action⟩
  constructor
  · intro h
    refine ⟨?_, fun rule _ => (tightens_iff_leaders parent child rule.tool).mp (h rule.tool)⟩
    obtain ⟨tool, hfresh⟩ := Wildcard.exists_unnamed
      ((parent.rules ++ child.rules).map fun rule => some rule.tool)
    have hnone : ∀ rule ∈ parent.rules ++ child.rules, rule.tool ≠ tool :=
      fun rule hrule heq => hfresh (List.mem_map.mpr ⟨rule, hrule, congrArg some heq⟩)
    obtain ⟨hp, hc⟩ := hunnamed tool hnone ""
    rw [← hp, ← hc]
    exact h tool ""
  · intro h tool
    by_cases hnamed : ∃ rule ∈ parent.rules ++ child.rules, rule.tool = tool
    · obtain ⟨rule, hrule, rfl⟩ := hnamed
      exact (tightens_iff_leaders parent child rule.tool).mpr (h.rules rule hrule)
    · intro action
      obtain ⟨hp, hc⟩ := hunnamed tool (fun rule hrule heq => hnamed ⟨rule, hrule, heq⟩) action
      rw [hp, hc]
      exact h.default

/-- An accepted child decides every tool and action at least as restrictively as its parent. -/
def ToolsConfined (parent child : WorkspaceManifest) : Prop :=
  narrowManifest parent child = .ok () → ∀ tool action,
    (parent.toolPolicy.decision tool action).Tightens (child.toolPolicy.decision tool action)

/-- **Tool authority, exactly.** -/
theorem toolsConfined_iff (parent child : WorkspaceManifest) :
    ToolsConfined parent child ↔
      (Checked parent child → ToolNarrows parent.toolPolicy child.toolPolicy) := by
  rw [ToolsConfined, narrowManifest_eq_ok_iff, tightens_iff]

/-- A manifest that grants nothing, with the given tool policy. -/
def toolManifest (policy : ToolPolicy) : WorkspaceManifest :=
  { networkManifest ⟨.deny, [], []⟩ with toolPolicy := policy }

/-- Two policies with one preset may decide the same tool in opposite ways. -/
theorem not_toolsConfined_same_preset :
    ¬ ToolsConfined (toolManifest { preset := .ask, rules := [], defaultDecision := .forbidden })
      (toolManifest { preset := .ask, rules := [], defaultDecision := .autoAllow }) :=
  fun h => absurd (h (by decide) "shell" "write") (by decide)

/-! ## Writable paths and secrets -/

/-- The size limit of a grant is no larger than that of another; no limit is infinite. -/
def WritablePath.FitsIn (grant wide : WritablePath) : Prop :=
  ∀ size, wide.maxSizeMb = some size → ∃ n, grant.maxSizeMb = some n ∧ n ≤ size

/-- `none < brokered < env-mounted`. -/
def SecretMode.strength : SecretMode → ℕ
  | .none => 0
  | .brokered => 1
  | .envMounted => 2

/-- `none < names-only < full`. -/
def RedactionLevel.strength : RedactionLevel → ℕ
  | .none => 0
  | .namesOnly => 1
  | .full => 2

/-- The child has no more write and secret authority than the parent. -/
structure ScopeWithin (parent child : WorkspaceManifest) : Prop where
  grants : ∀ grant ∈ child.writablePaths, ∃ wide ∈ parent.writablePaths,
    wide.path = grant.path ∧ grant.FitsIn wide
  refs : child.secretScope.allowedSecretRefs ⊆ parent.secretScope.allowedSecretRefs
  env : child.secretScope.mountEnv ⊆ parent.secretScope.mountEnv
  mode : child.secretScope.mode.strength ≤ parent.secretScope.mode.strength
  redaction : parent.secretScope.redactionLevel.strength ≤
    child.secretScope.redactionLevel.strength

/-- What the check leaves open: no grant of the child exceeds all of the parent's grants for its
path, and the variables, the mode and the redaction level of the secrets do not widen. -/
structure ScopeNarrows (parent child : WorkspaceManifest) : Prop where
  limits : ¬ ∃ grant ∈ child.writablePaths, ∀ wide ∈ parent.writablePaths,
    wide.path = grant.path → ¬ grant.FitsIn wide
  env : child.secretScope.mountEnv ⊆ parent.secretScope.mountEnv
  mode : child.secretScope.mode.strength ≤ parent.secretScope.mode.strength
  redaction : parent.secretScope.redactionLevel.strength ≤
    child.secretScope.redactionLevel.strength

/-- An accepted child has no more write and secret authority than its parent. -/
def ScopeConfined (parent child : WorkspaceManifest) : Prop :=
  narrowManifest parent child = .ok () → ScopeWithin parent child

/-- For a child that passes the check, the rest is what the check leaves open. -/
lemma scopeWithin_iff (h : Checked parent child) :
    ScopeWithin parent child ↔ ScopeNarrows parent child := by
  constructor
  · intro hw
    refine ⟨?_, hw.env, hw.mode, hw.redaction⟩
    rintro ⟨grant, hgrant, hexceeds⟩
    obtain ⟨wide, hwide, hpath, hfits⟩ := hw.grants grant hgrant
    exact hexceeds wide hwide hpath hfits
  · intro hn
    refine ⟨fun grant hgrant => ?_, h.secrets, hn.env, hn.mode, hn.redaction⟩
    by_contra hnone
    refine hn.limits ⟨grant, hgrant, fun wide hwide hpath hfits => ?_⟩
    exact hnone ⟨wide, hwide, hpath, hfits⟩

/-- **Write and secret authority, exactly.** -/
theorem scopeConfined_iff (parent child : WorkspaceManifest) :
    ScopeConfined parent child ↔ (Checked parent child → ScopeNarrows parent child) := by
  rw [ScopeConfined, narrowManifest_eq_ok_iff]
  exact forall_congr' scopeWithin_iff

/-- A manifest that grants nothing, with the given secret scope. -/
def secretManifest (scope : SecretScope) : WorkspaceManifest :=
  { networkManifest ⟨.deny, [], []⟩ with secretScope := scope }

/-- A child may have the same secrets mounted into its environment and unredacted. -/
theorem not_scopeConfined_mounted :
    ¬ ScopeConfined
      (secretManifest { mode := .brokered, allowedSecretRefs := ["token"], mountEnv := [] })
      (secretManifest { mode := .envMounted, allowedSecretRefs := ["token"],
                        mountEnv := ["TOKEN"], redactionLevel := .none }) :=
  fun h => absurd (h (by decide)).mode (by decide)

end Waywarden
