import Waywarden.Domain.Basic
import Waywarden.Lib.DepthFirst

/-!
# Teams

`waywarden.domain.subagent` and `waywarden.domain.team`: a dispatcher and its specialists, with the
routes along which one member's output is handed to another.  A `Team` carries the proof that its
constructor's checks passed: the members have different ids, every route connects two of them over
an output its source is expected to produce, the fallback is a specialist, and the declared routes
have no cycle.

Of a sub-agent's role only the expected outputs are kept, which are all a team reads.
-/

namespace Waywarden

/-! ## Members and routes -/

/-- `SubAgentRole`. -/
structure SubAgentRole where
  expectedOutputs : List Text
  nonempty : expectedOutputs ≠ []
  distinct : expectedOutputs.Nodup

/-- `SubAgent`. -/
structure SubAgent where
  id : Text
  role : SubAgentRole

/-- `TeamHandoffRoute`. -/
structure TeamHandoffRoute where
  fromAgent : Text
  outputName : Text
  toAgent : Text
  artifactKind : Text
  isFallback : Bool := false
  deriving DecidableEq

/-- The constructor `TeamHandoffRoute(…)`. -/
def TeamHandoffRoute.new (fromAgent outputName toAgent artifactKind : String)
    (isFallback : Bool := false) : Except PyError TeamHandoffRoute := do
  let fromAgent ← requireNonEmptyText fromAgent "from_agent"
  let outputName ← requireNonEmptyText outputName "output_name"
  let toAgent ← requireNonEmptyText toAgent "to_agent"
  let artifactKind ← requireNonEmptyText artifactKind "artifact_kind"
  .ok ⟨fromAgent, outputName, toAgent, artifactKind, isFallback⟩

/-! ## Deadlocks -/

/-- Some route leads from one agent to the other. -/
def Declares (routes : List TeamHandoffRoute) (a b : Text) : Prop :=
  ∃ r ∈ routes, r.fromAgent = a ∧ r.toAgent = b

/-- `graph.get(node, set())`. -/
def routeTargets (routes : List TeamHandoffRoute) (node : Text) : List Text :=
  ((routes.filter fun r => r.fromAgent = node).map TeamHandoffRoute.toAgent).eraseDups

/-- `_raise_on_deadlock`.  The keys of the graph come in the order of the routes, and so do the
targets of a key, though a set has no order. -/
def raiseOnDeadlock (routes : List TeamHandoffRoute) : Except PyError Unit :=
  match DepthFirst.search (routeTargets routes)
      (routes.map TeamHandoffRoute.fromAgent).eraseDups with
  | .found => .error ⟨.valueError, "team handoff routes contain a deadlock cycle", []⟩
  | _ => .ok ()

lemma edge_routeTargets (routes : List TeamHandoffRoute) :
    DepthFirst.Edge (routeTargets routes) = Declares routes := by
  funext a b
  unfold DepthFirst.Edge routeTargets Declares
  rw [List.mem_eraseDups, List.mem_map]
  simp only [List.mem_filter, decide_eq_true_eq, and_assoc]

/-- **The check is exact**: it passes when the declared routes have no cycle. -/
theorem raiseOnDeadlock_eq_ok_iff {routes : List TeamHandoffRoute} :
    raiseOnDeadlock routes = .ok () ↔ ∀ a, ¬ Relation.TransGen (Declares routes) a a := by
  have hroots : ∀ v, routeTargets routes v ≠ [] →
      v ∈ (routes.map TeamHandoffRoute.fromAgent).eraseDups := by
    intro v hv
    obtain ⟨w, hw⟩ := List.exists_mem_of_ne_nil _ hv
    obtain ⟨r, hr, hfrom, -⟩ : Declares routes v w := by
      rw [← edge_routeTargets]
      exact hw
    rw [List.mem_eraseDups]
    exact List.mem_map.mpr ⟨r, hr, hfrom⟩
  have hfound := DepthFirst.search_eq_found_iff hroots
  rw [edge_routeTargets] at hfound
  unfold raiseOnDeadlock
  rw [← not_exists, ← hfound]
  split
  · rename_i h
    exact iff_of_false (by simp) (not_not_intro h)
  · rename_i h
    exact iff_of_true rfl h

/-! ## The constructor -/

/-- The checks of one route. -/
def checkRoute (members : List SubAgent) (r : TeamHandoffRoute) : Except PyError Unit :=
  match members.find? fun m => m.id = r.fromAgent with
  | none =>
      .error ⟨.valueError, "handoff route references unknown from_agent %", [r.fromAgent.val]⟩
  | some source =>
      if r.toAgent ∉ members.map SubAgent.id then
        .error ⟨.valueError, "handoff route references unknown to_agent %", [r.toAgent.val]⟩
      else if r.fromAgent = r.toAgent then
        .error ⟨.valueError, "handoff route cannot target the same agent", []⟩
      else if r.outputName ∉ source.role.expectedOutputs then
        .error ⟨.valueError, "handoff route output_name must be in source expected_outputs", []⟩
      else .ok ()

/-- The check of the fallback. -/
def checkFallback (specialists : List SubAgent) (fallbackAgent : Option Text) :
    Except PyError Unit :=
  match fallbackAgent with
  | none => .ok ()
  | some f =>
      if f ∈ specialists.map SubAgent.id then .ok ()
      else .error ⟨.valueError, "fallback_agent must reference a specialist", []⟩

/-- `__post_init__`, after the texts; what it returns is the fallback, cleaned. -/
def checkTeam (dispatcher : SubAgent) (specialists : List SubAgent)
    (routes : List TeamHandoffRoute) (fallbackAgent : Option String) (providerConfig : Mapping) :
    Except PyError (Option Text) := do
  if specialists.isEmpty then .error ⟨.valueError, "specialists must not be empty", []⟩
  match KeyedTable.firstDuplicate [] ((dispatcher :: specialists).map SubAgent.id) with
  | some id => .error ⟨.valueError, "duplicate team member %", [id.val]⟩
  | none => .ok ()
  forM routes (checkRoute (dispatcher :: specialists))
  let fallback ← requireOptionalText fallbackAgent "fallback_agent"
  checkFallback specialists fallback
  raiseOnDeadlock routes
  if providerConfig.isEmpty then .ok fallback
  else
    .error ⟨.valueError,
      "team provider_config must be empty; provider behavior belongs to adapters", []⟩

/-- What the constructor asks of a route. -/
structure AdmitsRoute (members : List SubAgent) (r : TeamHandoffRoute) : Prop where
  source : ∃ m ∈ members, m.id = r.fromAgent ∧ r.outputName ∈ m.role.expectedOutputs
  target : r.toAgent ∈ members.map SubAgent.id
  other : r.fromAgent ≠ r.toAgent

/-- What the constructor asks of a team. -/
structure TeamChecked (dispatcher : SubAgent) (specialists : List SubAgent)
    (routes : List TeamHandoffRoute) (fallbackAgent : Option Text) : Prop where
  specialists_ne : specialists ≠ []
  distinct : ((dispatcher :: specialists).map SubAgent.id).Nodup
  admitted : ∀ r ∈ routes, AdmitsRoute (dispatcher :: specialists) r
  fallback : ∀ f ∈ fallbackAgent, f ∈ specialists.map SubAgent.id
  acyclic : ∀ a, ¬ Relation.TransGen (Declares routes) a a

/-- **What the checks of a route ask.** -/
lemma checkRoute_eq_ok_iff {members : List SubAgent} (h : (members.map SubAgent.id).Nodup)
    {r : TeamHandoffRoute} : checkRoute members r = .ok () ↔ AdmitsRoute members r := by
  unfold checkRoute
  constructor
  · intro hcheck
    split at hcheck
    · exact absurd hcheck (by simp)
    · rename_i source hsource
      split_ifs at hcheck with htarget hother houtput
      refine ⟨⟨source, List.mem_of_find?_eq_some hsource, ?_, houtput⟩, htarget, hother⟩
      simpa using List.find?_some hsource
  · rintro ⟨⟨m, hm, hid, houtput⟩, htarget, hother⟩
    have hfind := KeyedTable.get_of_mem h hm
    unfold KeyedTable.get at hfind
    simp only [hid] at hfind
    rw [hfind]
    simp only [htarget, houtput, hother, not_true_eq_false, if_false]

lemma checkFallback_eq_ok_iff {specialists : List SubAgent} {fallbackAgent : Option Text} :
    checkFallback specialists fallbackAgent = .ok () ↔
      ∀ f ∈ fallbackAgent, f ∈ specialists.map SubAgent.id := by
  unfold checkFallback
  cases fallbackAgent with
  | none => exact iff_of_true rfl nofun
  | some f =>
      simp only [Option.mem_some_iff, forall_eq']
      split
      · rename_i h
        exact iff_of_true rfl h
      · rename_i h
        exact iff_of_false (by simp) h

/-- **What the constructor asks of a team.** -/
theorem checkTeam_eq_ok_iff {dispatcher : SubAgent} {specialists : List SubAgent}
    {routes : List TeamHandoffRoute} {fallbackAgent : Option String} {providerConfig : Mapping}
    {fallback : Option Text} :
    checkTeam dispatcher specialists routes fallbackAgent providerConfig = .ok fallback ↔
      requireOptionalText fallbackAgent "fallback_agent" = .ok fallback ∧
        TeamChecked dispatcher specialists routes fallback ∧ providerConfig = [] := by
  unfold checkTeam
  cases hspecialists : specialists.isEmpty with
  | true =>
      refine iff_of_false (by simp [bind, Except.bind]) fun h => ?_
      exact h.2.1.specialists_ne (List.isEmpty_iff.mp hspecialists)
  | false =>
      have hne : specialists ≠ [] := fun h => by simp [h] at hspecialists
      cases hduplicate :
          KeyedTable.firstDuplicate [] ((dispatcher :: specialists).map SubAgent.id) with
      | some id =>
          refine iff_of_false (by simp [bind, Except.bind]) fun h => ?_
          have hnone := KeyedTable.firstDuplicate_eq_none_iff.mpr
            ⟨h.2.1.distinct, fun _ _ => List.not_mem_nil⟩
          exact absurd (hduplicate.symm.trans hnone) (by simp)
      | none =>
          have hdistinct := (KeyedTable.firstDuplicate_eq_none_iff.mp hduplicate).1
          have hroutes : forM routes (checkRoute (dispatcher :: specialists)) = .ok () ↔
              ∀ r ∈ routes, AdmitsRoute (dispatcher :: specialists) r := by
            rw [Effect.except_forM_eq_ok]
            exact forall₂_congr fun r _ => checkRoute_eq_ok_iff hdistinct
          simp only [Bool.false_eq_true, if_false, Effect.except_bind_eq_ok, Unique.exists_iff,
            PUnit.default_eq_unit, hroutes, checkFallback_eq_ok_iff, raiseOnDeadlock_eq_ok_iff,
            true_and]
          constructor
          · rintro ⟨hadmitted, fb, hfb, hfallback, hacyclic, h⟩
            split at h
            · rename_i hempty
              obtain rfl := Except.ok.inj h
              exact ⟨hfb, ⟨hne, hdistinct, hadmitted, hfallback, hacyclic⟩,
                List.isEmpty_iff.mp hempty⟩
            · exact absurd h (by simp)
          · rintro ⟨hfb, h, rfl⟩
            exact ⟨h.admitted, fallback, hfb, h.fallback, h.acyclic, rfl⟩

/-! ## Teams -/

/-- `Team`. -/
structure Team where
  id : Text
  inputArtifactKind : Text
  outputArtifactKind : Text
  dispatcher : SubAgent
  specialists : List SubAgent
  handoffRoutes : List TeamHandoffRoute
  fallbackAgent : Option Text
  checked : TeamChecked dispatcher specialists handoffRoutes fallbackAgent

namespace Team

/-- The constructor `Team(…)`. -/
def new (id inputArtifactKind outputArtifactKind : String) (dispatcher : SubAgent)
    (specialists : List SubAgent) (handoffRoutes : List TeamHandoffRoute)
    (fallbackAgent : Option String) (providerConfig : Mapping) : Except PyError Team := do
  let id ← requireNonEmptyText id "id"
  let inputArtifactKind ← requireNonEmptyText inputArtifactKind "input_artifact_kind"
  let outputArtifactKind ← requireNonEmptyText outputArtifactKind "output_artifact_kind"
  match h : checkTeam dispatcher specialists handoffRoutes fallbackAgent providerConfig with
  | .error e => .error e
  | .ok fallback =>
      .ok ⟨id, inputArtifactKind, outputArtifactKind, dispatcher, specialists, handoffRoutes,
        fallback, (checkTeam_eq_ok_iff.mp h).2.1⟩

/-- The members, the dispatcher first. -/
def members (team : Team) : List SubAgent := team.dispatcher :: team.specialists

/-- `member_ids`. -/
def memberIds (team : Team) : List Text := team.members.map SubAgent.id

/-- The first declared route for an output. -/
def declaredRoute (team : Team) (fromAgent outputName : Text) : Option TeamHandoffRoute :=
  team.handoffRoutes.find? fun r => r.fromAgent = fromAgent && r.outputName = outputName

/-- `route_handoff`. -/
def routeHandoff (team : Team) (fromAgent outputName : String) :
    Except PyError TeamHandoffRoute := do
  let fromAgent ← requireNonEmptyText fromAgent "from_agent"
  let outputName ← requireNonEmptyText outputName "output_name"
  if fromAgent ∉ team.memberIds then
    .error ⟨.keyError, "unknown team member %", [fromAgent.val]⟩
  else
    match team.declaredRoute fromAgent outputName with
    | some route => .ok route
    | none =>
        match team.fallbackAgent with
        | some fallback =>
            if fromAgent = team.dispatcher.id then
              .ok ⟨fromAgent, outputName, fallback, .lit "team-fallback-handoff", true⟩
            else
              .error ⟨.keyError, "no handoff route from % for output %",
                [fromAgent.val, outputName.val]⟩
        | none =>
            .error ⟨.keyError, "no handoff route from % for output %",
              [fromAgent.val, outputName.val]⟩

end Team

/-- **The constructor accepts** what its checks ask, and keeps it as it is. -/
theorem Team.exists_new_iff {id inputArtifactKind outputArtifactKind : Text}
    {dispatcher : SubAgent} {specialists : List SubAgent} {routes : List TeamHandoffRoute}
    {fallbackAgent : Option Text} {providerConfig : Mapping} :
    (∃ team, Team.new id.val inputArtifactKind.val outputArtifactKind.val dispatcher specialists
        routes (fallbackAgent.map Subtype.val) providerConfig = .ok team) ↔
      TeamChecked dispatcher specialists routes fallbackAgent ∧ providerConfig = [] := by
  have hcheck := fun fallback => @checkTeam_eq_ok_iff dispatcher specialists routes
    (fallbackAgent.map Subtype.val) providerConfig fallback
  unfold Team.new
  simp only [requireNonEmptyText_val, bind, Except.bind]
  constructor
  · rintro ⟨team, hteam⟩
    split at hteam
    · exact absurd hteam (by simp)
    · rename_i fallback hfallback
      obtain ⟨htext, hteam⟩ := (hcheck fallback).mp hfallback
      rw [requireOptionalText_map_val] at htext
      rw [Except.ok.inj htext]
      exact hteam
  · intro h
    have hok := (hcheck fallbackAgent).mpr ⟨requireOptionalText_map_val _ _, h⟩
    split
    · rename_i herror
      exact absurd (herror.symm.trans hok) (by simp)
    · exact ⟨_, rfl⟩

/-- Every team comes from the constructor. -/
lemma Team.new_self (team : Team) :
    Team.new team.id.val team.inputArtifactKind.val team.outputArtifactKind.val team.dispatcher
      team.specialists team.handoffRoutes (team.fallbackAgent.map Subtype.val) [] = .ok team := by
  have hok := checkTeam_eq_ok_iff.mpr
    ⟨requireOptionalText_map_val team.fallbackAgent "fallback_agent", team.checked, rfl⟩
  unfold Team.new
  simp only [requireNonEmptyText_val, bind, Except.bind]
  split
  · rename_i herror
    exact absurd (herror.symm.trans hok) (by simp)
  · rename_i fallback hfallback
    obtain rfl := Except.ok.inj (hfallback.symm.trans hok)
    rfl

section

variable {team : Team} {a o : Text} {r : TeamHandoffRoute}

/-- **Where a member's output goes**: along the declared route, or from the dispatcher to the
fallback. -/
lemma routeHandoff_eq_ok_iff (ha : a ∈ team.memberIds) :
    team.routeHandoff a.val o.val = .ok r ↔
      team.declaredRoute a o = some r ∨
      (team.declaredRoute a o = none ∧ a = team.dispatcher.id ∧
        ∃ f, team.fallbackAgent = some f ∧
          r = ⟨a, o, f, .lit "team-fallback-handoff", true⟩) := by
  unfold Team.routeHandoff
  simp only [requireNonEmptyText_val, bind, Except.bind, ha, not_true_eq_false, if_false]
  cases hroute : team.declaredRoute a o with
  | some route => simp
  | none =>
      cases hfallback : team.fallbackAgent with
      | none => simp
      | some f =>
          simp only
          split
          · rename_i hdispatcher
            simp [hdispatcher, eq_comm]
          · rename_i hdispatcher
            simp [hdispatcher]

/-- A declared route is one of the routes. -/
lemma declares_of_declaredRoute (h : team.declaredRoute a o = some r) :
    r ∈ team.handoffRoutes ∧ r.fromAgent = a ∧ r.outputName = o := by
  have hmatch := List.find?_some h
  rw [Bool.and_eq_true, decide_eq_true_eq, decide_eq_true_eq] at hmatch
  exact ⟨List.mem_of_find?_eq_some h, hmatch.1, hmatch.2⟩

end

end Waywarden
