import Waywarden.Domain.Pipeline
import Waywarden.Domain.Team

/-!
# Routes that are never taken

`route_handoff` and `route` return the first route that matches, so a declared route can be reached
only when no earlier one is for the same key.  `Pipeline` refuses two routes for one node and
outcome; `Team` does not look for two routes for one member and output, and the later one is dead.

`lookups_alive_iff` says that this is all that can go wrong: every lookup by a declared key finds
what was declared exactly when the routes of the team are `Determined` by their keys.
-/

namespace Waywarden

namespace Team

variable (team : Team)

/-- Every declared route is returned for its own member and output. -/
def RoutesAlive : Prop :=
  ∀ r ∈ team.handoffRoutes, team.routeHandoff r.fromAgent.val r.outputName.val = .ok r

/-- No two different routes are for one member and output. -/
def Determined : Prop :=
  ∀ r ∈ team.handoffRoutes, ∀ r' ∈ team.handoffRoutes,
    r.fromAgent = r'.fromAgent → r.outputName = r'.outputName → r = r'

variable {team}

/-- A declared route is from a member. -/
lemma fromAgent_mem {r : TeamHandoffRoute} (hr : r ∈ team.handoffRoutes) :
    r.fromAgent ∈ team.memberIds := by
  obtain ⟨m, hm, hid, -⟩ := (team.checked.admitted r hr).source
  rw [← hid]
  exact List.mem_map_of_mem hm

/-- Some route is found for a declared key. -/
lemma exists_declaredRoute {r : TeamHandoffRoute} (hr : r ∈ team.handoffRoutes) :
    ∃ r', team.declaredRoute r.fromAgent r.outputName = some r' := by
  apply Option.isSome_iff_exists.mp
  unfold declaredRoute
  rw [List.find?_isSome]
  exact ⟨r, hr, by simp⟩

/-- **A team's routes are alive exactly when their keys determine them.** -/
lemma routesAlive_iff : team.RoutesAlive ↔ team.Determined := by
  constructor
  · intro h r hr r' hr' hfrom houtput
    have hfound := h r hr
    rw [hfrom, houtput, h r' hr'] at hfound
    exact (Except.ok.inj hfound).symm
  · intro h r hr
    obtain ⟨r', hfound⟩ := exists_declaredRoute hr
    obtain ⟨hr', hfrom, houtput⟩ := declares_of_declaredRoute hfound
    obtain rfl := h r' hr' r hr hfrom houtput
    exact (routeHandoff_eq_ok_iff (fromAgent_mem hr)).mpr (Or.inl hfound)

end Team

namespace Pipeline

variable (pipeline : Pipeline)

/-- Every node and every declared route is returned for its own key. -/
def LookupsAlive : Prop :=
  (∀ n ∈ pipeline.nodes, pipeline.node n.id.val = .ok n) ∧
    ∀ q ∈ pipeline.routes, pipeline.route q.fromNode.val q.outcome.name = .ok q

/-- **A pipeline's lookups are alive.** -/
lemma lookupsAlive : pipeline.LookupsAlive := by
  refine ⟨fun n => node_of_mem, ?_⟩
  intro q hq
  rw [route_eq, declaredRoute_eq_some_iff.mpr ⟨hq, rfl, rfl⟩]

end Pipeline

/-- **No declared route is dead exactly when the keys of the team's routes determine them.** -/
theorem lookups_alive_iff (team : Team) (pipeline : Pipeline) :
    (team.RoutesAlive ∧ pipeline.LookupsAlive) ↔ team.Determined :=
  (and_iff_left pipeline.lookupsAlive).trans Team.routesAlive_iff

/-- A team whose desk hands one output to two specialists. -/
def forkedTeam : Team where
  id := .lit "newsroom"
  inputArtifactKind := .lit "story-tip"
  outputArtifactKind := .lit "news-article"
  dispatcher := ⟨.lit "news-desk", ⟨[.lit "news-draft"], by decide, by decide⟩⟩
  specialists := [⟨.lit "checker", ⟨[.lit "facts"], by decide, by decide⟩⟩,
    ⟨.lit "printer", ⟨[.lit "proof"], by decide, by decide⟩⟩]
  handoffRoutes := [⟨.lit "news-desk", .lit "news-draft", .lit "checker", .lit "news-draft", false⟩,
    ⟨.lit "news-desk", .lit "news-draft", .lit "printer", .lit "news-draft", false⟩]
  fallbackAgent := none
  checked := ((@checkTeam_eq_ok_iff _ _ _ none [] _).mp (by decide +kernel)).2.1

/-- Its constructor accepts it, and the route to the printer is never taken. -/
theorem forkedTeam_dead_route :
    Team.new "newsroom" "story-tip" "news-article" forkedTeam.dispatcher forkedTeam.specialists
        forkedTeam.handoffRoutes none [] = .ok forkedTeam ∧
      ∃ r ∈ forkedTeam.handoffRoutes,
        forkedTeam.routeHandoff r.fromAgent.val r.outputName.val ≠ .ok r := by
  refine ⟨Team.new_self forkedTeam,
    ⟨.lit "news-desk", .lit "news-draft", .lit "printer", .lit "news-draft", false⟩, ?_, ?_⟩
  · decide +kernel
  · decide +kernel

end Waywarden
