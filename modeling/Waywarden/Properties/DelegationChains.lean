import Mathlib.Data.Fintype.EquivFin
import Mathlib.Data.List.Chain
import Waywarden.Domain.Narrowing
import Waywarden.Properties.DelegatedAuthority

/-!
# Chains of delegations

Three of the four checks of `narrow_manifest` are preorders on manifests.  The fourth compares
hosts only under a parent in `allowlist` mode, so a manifest in another mode accepts children with
any hosts, and along a chain through it the first manifest's hosts are forgotten.

`delegation_composes` says when a chain composes: for a given chain, when the network check holds
between its ends; for every continuation of an accepted step, when the step does not leave
`allowlist` mode.
-/

namespace Waywarden

open Delegation

/-- `narrow_manifest` does not raise. -/
def Accepts (parent child : WorkspaceManifest) : Prop := narrowManifest parent child = .ok ()

instance (parent child : WorkspaceManifest) : Decidable (Accepts parent child) :=
  inferInstanceAs (Decidable (_ = _))

/-- The manifest is in `allowlist` mode. -/
def Listing (m : WorkspaceManifest) : Prop := m.networkPolicy.mode = .allowlist

/-- The network check between two manifests. -/
def HostsWithin (parent child : WorkspaceManifest) : Prop :=
  Listing parent → hosts child ⊆ hosts parent

/-- The three checks that compose. -/
structure RestWithin (parent child : WorkspaceManifest) : Prop where
  paths : child.writablePaths.map WritablePath.path ⊆ parent.writablePaths.map WritablePath.path
  preset : presetOrder child.toolPolicy.preset ≤ presetOrder parent.toolPolicy.preset
  secrets : child.secretScope.allowedSecretRefs ⊆ parent.secretScope.allowedSecretRefs

variable {m₀ m₁ m₂ first last : WorkspaceManifest} {inner : List WorkspaceManifest}

lemma accepts_iff : Accepts m₀ m₁ ↔ RestWithin m₀ m₁ ∧ HostsWithin m₀ m₁ :=
  narrowManifest_eq_ok_iff.trans
    ⟨fun h => ⟨⟨h.paths, h.preset, h.secrets⟩, h.network⟩,
      fun h => ⟨h.1.paths, h.2, h.1.preset, h.1.secrets⟩⟩

lemma RestWithin.trans (h₁ : RestWithin m₀ m₁) (h₂ : RestWithin m₁ m₂) : RestWithin m₀ m₂ :=
  ⟨List.Subset.trans h₂.paths h₁.paths, h₂.preset.trans h₁.preset,
    List.Subset.trans h₂.secrets h₁.secrets⟩

/-- The network check composes through a manifest in `allowlist` mode. -/
lemma HostsWithin.trans (h₁ : HostsWithin m₀ m₁) (h₂ : HostsWithin m₁ m₂)
    (hmode : Listing m₀ → Listing m₁) : HostsWithin m₀ m₂ :=
  fun h => List.Subset.trans (h₂ (hmode h)) (h₁ h)

/-- Every manifest accepts itself. -/
lemma accepts_refl (m : WorkspaceManifest) : Accepts m m :=
  accepts_iff.mpr ⟨⟨List.Subset.refl _, le_refl _, List.Subset.refl _⟩,
    fun _ => List.Subset.refl _⟩

/-! ## Chains -/

/-- Along a chain the three checks compose. -/
lemma restWithin_of_chain (h : (first :: (inner ++ [last])).IsChain Accepts) :
    RestWithin first last := by
  induction inner generalizing first with
  | nil => exact (accepts_iff.mp (List.isChain_cons_cons.mp h).1).1
  | cons mid inner ih =>
      obtain ⟨hstep, hrest⟩ := List.isChain_cons_cons.mp h
      exact (accepts_iff.mp hstep).1.trans (ih hrest)

/-- A chain composes exactly when its ends pass the network check. -/
lemma accepts_iff_of_chain (h : (first :: (inner ++ [last])).IsChain Accepts) :
    Accepts first last ↔ HostsWithin first last := by
  rw [accepts_iff]
  exact and_iff_right (restWithin_of_chain h)

/-- Along a chain whose inner manifests stay in `allowlist` mode the network check composes. -/
lemma hostsWithin_of_chain (h : (first :: (inner ++ [last])).IsChain Accepts)
    (hinner : Listing first → ∀ m ∈ inner, Listing m) : HostsWithin first last := by
  induction inner generalizing first with
  | nil => exact (accepts_iff.mp (List.isChain_cons_cons.mp h).1).2
  | cons mid inner ih =>
      obtain ⟨hstep, hrest⟩ := List.isChain_cons_cons.mp h
      intro hfirst
      have hlisting := hinner hfirst
      exact (accepts_iff.mp hstep).2.trans
        (ih hrest fun _ m hm => hlisting m (List.mem_cons_of_mem _ hm))
        (fun _ => hlisting mid List.mem_cons_self) hfirst

/-! ## Continuations -/

/-- The manifest with one more allowed host. -/
def withHost (m : WorkspaceManifest) (host : String) : WorkspaceManifest :=
  { m with networkPolicy :=
    { m.networkPolicy with
      allow := { hostPattern := host, purpose := "" } :: m.networkPolicy.allow } }

/-- A manifest in another mode accepts any further host. -/
lemma accepts_withHost (h : ¬ Listing m₀) (host : String) : Accepts m₀ (withHost m₀ host) :=
  accepts_iff.mpr ⟨⟨List.Subset.refl _, le_refl _, List.Subset.refl _⟩,
    fun hmode => absurd hmode h⟩

/-- An accepted step composes with everything its child accepts exactly when it does not leave
`allowlist` mode. -/
lemma forall_accepts_iff (h : Accepts m₀ m₁) :
    (∀ m₂, Accepts m₁ m₂ → Accepts m₀ m₂) ↔ (Listing m₀ → Listing m₁) := by
  constructor
  · intro hall hmode
    by_contra hleft
    obtain ⟨host, hfresh⟩ := Wildcard.exists_unnamed ((hosts m₀).map some)
    have hwithin := (accepts_iff.mp (hall _ (accepts_withHost hleft host))).2 hmode
    have hmem : host ∈ hosts m₀ := hwithin (List.mem_map_of_mem List.mem_cons_self)
    exact hfresh (List.mem_map_of_mem hmem)
  · intro hmode m₂ h₂
    have h := accepts_iff.mp h
    have h₂ := accepts_iff.mp h₂
    exact accepts_iff.mpr ⟨h.1.trans h₂.1, h.2.trans h₂.2 hmode⟩

/-- **When delegations compose.**  Every manifest accepts itself; a chain composes exactly when
its ends pass the network check, so whenever its first manifest is not in `allowlist` mode or its
inner ones stay in it; and an accepted step composes with all continuations exactly when it does
not leave `allowlist` mode. -/
theorem delegation_composes (first : WorkspaceManifest) (inner : List WorkspaceManifest)
    (last : WorkspaceManifest) :
    Accepts first first ∧
      ((first :: (inner ++ [last])).IsChain Accepts →
        (Accepts first last ↔ (Listing first → hosts last ⊆ hosts first)) ∧
          ((Listing first → ∀ m ∈ inner, Listing m) → Accepts first last)) ∧
      (Accepts first last →
        ((∀ m, Accepts last m → Accepts first m) ↔ (Listing first → Listing last))) := by
  refine ⟨accepts_refl first, fun h => ⟨accepts_iff_of_chain h, fun hinner => ?_⟩,
    forall_accepts_iff⟩
  exact (accepts_iff_of_chain h).mpr (hostsWithin_of_chain h hinner)

/-- An allow rule for a host and nothing else. -/
def hostRule (host : String) : NetworkAllowRule := { hostPattern := host, purpose := "fetch" }

/-- `delegation_composes` at a chain that gives up one host and then the other. -/
theorem delegation_composes_narrowing_hosts :
    Accepts (networkManifest ⟨.allowlist, [hostRule "a.org", hostRule "b.org"], []⟩)
      (networkManifest ⟨.allowlist, [], []⟩) := by
  have hchain := (delegation_composes
    (networkManifest ⟨.allowlist, [hostRule "a.org", hostRule "b.org"], []⟩)
    [networkManifest ⟨.allowlist, [hostRule "a.org"], []⟩]
    (networkManifest ⟨.allowlist, [], []⟩)).2.1
  apply (hchain (.cons_cons (by decide) (.cons_cons (by decide) (.singleton _)))).2
  intro _ m hm
  obtain rfl := List.mem_singleton.mp hm
  rfl

/-- Through a manifest in `deny` mode a chain reaches a host the first manifest refuses. -/
theorem not_transitive_through_deny :
    ¬ ∀ m₀ m₁ m₂, Accepts m₀ m₁ → Accepts m₁ m₂ → Accepts m₀ m₂ := by
  intro h
  have hrefused := h (networkManifest ⟨.allowlist, [hostRule "a.org"], []⟩)
    (networkManifest ⟨.deny, [], []⟩)
    (networkManifest ⟨.allowlist, [hostRule "b.org"], []⟩)
    (by decide) (by decide)
  exact absurd hrefused (by decide)

end Waywarden
