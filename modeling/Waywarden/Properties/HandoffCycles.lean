import Waywarden.Domain.Team

/-!
# Handoffs in a circle

A team refuses routes that form a cycle, so that its members do not hand their work round for ever.
The check looks at the declared routes; `route_handoff` also sends an output of the dispatcher that
no route is declared for to the fallback.  That edge closes a cycle exactly when the fallback's
work comes back to the dispatcher along declared routes (`acyclic_handoffs_iff`).
-/

namespace Waywarden

namespace Team

variable (team : Team)

/-- Some expected output of the first member is handed to the second. -/
def Handoff (a b : Text) : Prop :=
  ∃ m ∈ team.members, m.id = a ∧ ∃ o ∈ m.role.expectedOutputs,
    ∃ r, team.routeHandoff a.val o.val = .ok r ∧ r.toAgent = b

/-- Some expected output of the first member is handed to the second along a declared route. -/
def DeclaredHandoff (a b : Text) : Prop :=
  ∃ m ∈ team.members, m.id = a ∧ ∃ o ∈ m.role.expectedOutputs,
    ∃ r, team.declaredRoute a o = some r ∧ r.toAgent = b

/-- The dispatcher falls back on a specialist whose work comes back to it. -/
def FallbackReturns : Prop :=
  ∃ f, team.fallbackAgent = some f ∧
    (∃ o ∈ team.dispatcher.role.expectedOutputs,
      team.declaredRoute team.dispatcher.id o = none) ∧
    Relation.ReflTransGen team.DeclaredHandoff f team.dispatcher.id

variable {team} {a b : Text}

/-- The dispatcher is the only member with its id. -/
lemma eq_dispatcher {m : SubAgent} (hm : m ∈ team.members) (hid : m.id = team.dispatcher.id) :
    m = team.dispatcher := by
  have hm' := KeyedTable.get_of_mem team.checked.distinct hm
  have hdispatcher := KeyedTable.get_of_mem team.checked.distinct List.mem_cons_self
  rw [hid] at hm'
  exact Option.some.inj (hm'.symm.trans hdispatcher)

/-- Declared handoffs follow the declared routes, which have no cycle. -/
lemma declares_of_declaredHandoff (h : team.DeclaredHandoff a b) :
    Declares team.handoffRoutes a b := by
  obtain ⟨m, -, -, o, -, r, hr, hto⟩ := h
  obtain ⟨hmem, hfrom, -⟩ := declares_of_declaredRoute hr
  exact ⟨r, hmem, hfrom, hto⟩

lemma acyclic_declaredHandoff (a : Text) : ¬ Relation.TransGen team.DeclaredHandoff a a := by
  intro h
  have hdeclares : Relation.TransGen (Declares team.handoffRoutes) a a :=
    Relation.TransGen.mono (fun _ _ => declares_of_declaredHandoff) _ _ h
  exact team.checked.acyclic a hdeclares

/-- **The handoffs of a team**: the declared ones, and the dispatcher's to its fallback when it has
an output without a route. -/
lemma handoff_iff : team.Handoff a b ↔ team.DeclaredHandoff a b ∨
    (a = team.dispatcher.id ∧ team.fallbackAgent = some b ∧
      ∃ o ∈ team.dispatcher.role.expectedOutputs,
        team.declaredRoute team.dispatcher.id o = none) := by
  constructor
  · rintro ⟨m, hm, rfl, o, ho, r, hr, rfl⟩
    obtain hr | ⟨hnone, hid, f, hf, rfl⟩ :=
      (routeHandoff_eq_ok_iff (List.mem_map_of_mem hm)).mp hr
    · exact Or.inl ⟨m, hm, rfl, o, ho, r, hr, rfl⟩
    · obtain rfl := eq_dispatcher hm hid
      exact Or.inr ⟨rfl, hf, o, ho, hnone⟩
  · rintro (⟨m, hm, rfl, o, ho, r, hr, rfl⟩ | ⟨rfl, hf, o, ho, hnone⟩)
    · refine ⟨m, hm, rfl, o, ho, r, ?_, rfl⟩
      exact (routeHandoff_eq_ok_iff (List.mem_map_of_mem hm)).mpr (Or.inl hr)
    · have hm : team.dispatcher ∈ team.members := List.mem_cons_self
      refine ⟨team.dispatcher, hm, rfl, o, ho,
        ⟨team.dispatcher.id, o, b, .lit "team-fallback-handoff", true⟩, ?_, rfl⟩
      apply (routeHandoff_eq_ok_iff (List.mem_map_of_mem hm)).mpr
      exact Or.inr ⟨hnone, rfl, b, hf, rfl⟩

/-- **When the handoffs form no cycle**: unless the fallback's work comes back to the
dispatcher. -/
theorem acyclic_handoffs_iff (team : Team) :
    (∀ a, ¬ Relation.TransGen team.Handoff a a) ↔ ¬ team.FallbackReturns := by
  have hdeclared : (∀ a b, team.Handoff a b → team.DeclaredHandoff a b) →
      ∀ a, ¬ Relation.TransGen team.Handoff a a := by
    intro hsub a hcycle
    exact acyclic_declaredHandoff a (Relation.TransGen.mono hsub _ _ hcycle)
  by_cases hfalls : ∃ f, team.fallbackAgent = some f ∧
      ∃ o ∈ team.dispatcher.role.expectedOutputs, team.declaredRoute team.dispatcher.id o = none
  · obtain ⟨f, hf, hopen⟩ := hfalls
    -- the handoffs are the declared ones and one more edge
    have hhandoff : team.Handoff =
        fun a b => team.DeclaredHandoff a b ∨ (a = team.dispatcher.id ∧ b = f) := by
      funext a b
      rw [handoff_iff, hf, Option.some.injEq, and_iff_left hopen, eq_comm (a := f)]
    rw [hhandoff, ← not_exists, DepthFirst.cyclic_or_edge_iff acyclic_declaredHandoff]
    refine not_congr ⟨fun h => ⟨f, hf, hopen, h⟩, ?_⟩
    rintro ⟨f', hf', -, h⟩
    rwa [Option.some.inj (hf.symm.trans hf')]
  · refine iff_of_true (hdeclared fun a b h => ?_) ?_
    · exact (handoff_iff.mp h).resolve_right fun h => hfalls ⟨b, h.2⟩
    · exact fun ⟨f, hf, hopen, _⟩ => hfalls ⟨f, hf, hopen⟩

/-! ### A team that goes round -/

/-- A team whose editor has no route for its outline and falls back on the writer, whose draft
goes back to the editor. -/
def circularTeam : Team where
  id := .lit "essay"
  inputArtifactKind := .lit "brief"
  outputArtifactKind := .lit "essay"
  dispatcher := ⟨.lit "editor", ⟨[.lit "outline"], by decide, by decide⟩⟩
  specialists := [⟨.lit "writer", ⟨[.lit "draft"], by decide, by decide⟩⟩]
  handoffRoutes := [⟨.lit "writer", .lit "draft", .lit "editor", .lit "draft", false⟩]
  fallbackAgent := some (.lit "writer")
  checked := ((@checkTeam_eq_ok_iff _ _ _ (some "writer") [] _).mp (by decide +kernel)).2.1

/-- Its constructor accepts it, and its handoffs go from the editor to the writer and back. -/
theorem circularTeam_goes_round :
    Team.new "essay" "brief" "essay" circularTeam.dispatcher circularTeam.specialists
        circularTeam.handoffRoutes (some "writer") [] = .ok circularTeam ∧
      Relation.TransGen circularTeam.Handoff (.lit "editor") (.lit "editor") := by
  refine ⟨circularTeam.new_self, ?_⟩
  have hout : circularTeam.Handoff (.lit "editor") (.lit "writer") := by
    refine ⟨circularTeam.dispatcher, List.mem_cons_self, rfl, .lit "outline",
      List.mem_cons_self, ?_⟩
    exact ⟨⟨.lit "editor", .lit "outline", .lit "writer", .lit "team-fallback-handoff", true⟩,
      by decide +kernel, rfl⟩
  have hback : circularTeam.Handoff (.lit "writer") (.lit "editor") := by
    refine ⟨⟨.lit "writer", ⟨[.lit "draft"], by decide, by decide⟩⟩,
      List.mem_cons_of_mem _ List.mem_cons_self, rfl, .lit "draft", List.mem_cons_self, ?_⟩
    exact ⟨⟨.lit "writer", .lit "draft", .lit "editor", .lit "draft", false⟩,
      by decide +kernel, rfl⟩
  exact .tail (.single hout) hback

end Team

end Waywarden
