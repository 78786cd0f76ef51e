import Waywarden.Assets.Schema
import Waywarden.Domain.Team

/-!
# Metadata against the domain

A pipeline or a team is written down as metadata and built from it field by field.  The asset schema
and the constructors of the domain check the same structures independently.  The schema settles
the references and the keys; it does not look at the milestone catalog, at what a review checkpoint
takes in, or at cycles of routes, so what it accepts can be built exactly when these are in order
(`builds_iff`).
-/

namespace Waywarden

/-! ## Building nodes and routes -/

/-- The `ReviewCheckpoint` of a mapping. -/
def CheckpointEntry.build (c : CheckpointEntry) : Except PyError ReviewCheckpoint :=
  ReviewCheckpoint.new c.inputArtifactKind c.passedOutputArtifactKind c.failedOutputArtifactKind

/-- The `PipelineNode` of a mapping. -/
def NodeEntry.build (n : NodeEntry) : Except PyError PipelineNode := do
  let reviewCheckpoint ←
    match n.reviewCheckpoint with
    | none => .ok none
    | some c => c.build.map some
  PipelineNode.new n.id n.kind.name n.refId n.inputArtifactKind n.outputArtifactKind n.phase
    n.milestone reviewCheckpoint

/-- The `PipelineRoute` of a mapping. -/
def RouteEntry.build (r : RouteEntry) : Except PyError PipelineRoute :=
  PipelineRoute.new r.fromNode r.outcome.name (r.toNode.map Subtype.val)

/-- The `TeamHandoffRoute` of a mapping. -/
def HandoffEntry.build (r : HandoffEntry) : Except PyError TeamHandoffRoute :=
  TeamHandoffRoute.new r.fromAgent r.outputName r.toAgent r.artifactKind

/-- The checkpoint that is built. -/
def CheckpointEntry.checkpoint (c : CheckpointEntry) : ReviewCheckpoint :=
  ⟨c.inputArtifactKind, c.passedOutputArtifactKind, c.failedOutputArtifactKind⟩

/-- The pipeline route that is built. -/
def RouteEntry.route (r : RouteEntry) : PipelineRoute := ⟨r.fromNode, r.outcome, r.toNode⟩

/-- The team route that is built. -/
def HandoffEntry.route (r : HandoffEntry) : TeamHandoffRoute :=
  ⟨r.fromAgent, r.outputName, r.toAgent, r.artifactKind, false⟩

@[simp] lemma CheckpointEntry.build_eq (c : CheckpointEntry) : c.build = .ok c.checkpoint := by
  unfold CheckpointEntry.build ReviewCheckpoint.new
  simp only [requireNonEmptyText_val, bind, Except.bind]
  rfl

@[simp] lemma RouteEntry.build_eq (r : RouteEntry) : r.build = .ok r.route := by
  unfold RouteEntry.build PipelineRoute.new
  simp only [requireNonEmptyText_val, requireOptionalText_map_val, PipelineOutcome.parse_name,
    bind, Except.bind]
  rfl

@[simp] lemma HandoffEntry.build_eq (r : HandoffEntry) : r.build = .ok r.route := by
  unfold HandoffEntry.build TeamHandoffRoute.new
  simp only [requireNonEmptyText_val, bind, Except.bind]
  rfl

namespace NodeEntry

variable {n : NodeEntry} {node : PipelineNode}

/-- The node stands for a catalogued milestone, and its checkpoint takes in what the node does. -/
def Buildable (n : NodeEntry) : Prop :=
  isValidMilestone n.phase n.milestone = true ∧
    ∀ c ∈ n.reviewCheckpoint, c.inputArtifactKind = n.inputArtifactKind

/-- What is left of the constructor's checks after the schema's. -/
lemma nodeChecked_iff :
    NodeChecked n.kind n.inputArtifactKind n.phase n.milestone
        (n.reviewCheckpoint.map CheckpointEntry.checkpoint) ↔ n.Buildable := by
  constructor
  · rintro ⟨hcataloged, -, -, hinput⟩
    refine ⟨hcataloged, fun c hc => Subtype.ext ?_⟩
    exact hinput c.checkpoint (Option.mem_map_of_mem _ hc)
  · rintro ⟨hcataloged, hinput⟩
    refine ⟨hcataloged, fun hkind hnone => ?_, fun hkind => ?_, fun checkpoint hcheckpoint => ?_⟩
    · have hsome := n.isSome_iff.mpr hkind
      rw [Option.map_eq_none_iff.mp hnone] at hsome
      exact absurd hsome (by simp)
    · rw [Option.map_eq_none_iff, ← Option.not_isSome_iff_eq_none, n.isSome_iff]
      exact hkind
    · obtain ⟨c, hc, rfl⟩ := Option.mem_map.mp hcheckpoint
      exact congrArg Subtype.val (hinput c hc)

lemma build_eq (n : NodeEntry) :
    n.build = PipelineNode.new n.id n.kind.name n.refId n.inputArtifactKind n.outputArtifactKind
      n.phase n.milestone (n.reviewCheckpoint.map CheckpointEntry.checkpoint) := by
  unfold build
  cases n.reviewCheckpoint with
  | none => simp only [Option.map_none, bind, Except.bind]
  | some c => simp only [CheckpointEntry.build_eq, Except.map, Option.map_some, bind, Except.bind]

lemma exists_build_iff : (∃ node, n.build = .ok node) ↔ n.Buildable := by
  simp only [build_eq]
  exact PipelineNode.exists_new_iff.trans nodeChecked_iff

/-- The node that is built has the id of its mapping. -/
lemma id_of_build (h : n.build = .ok node) : node.id = n.id := by
  have hchecked := nodeChecked_iff.mpr (exists_build_iff.mp ⟨node, h⟩)
  rw [build_eq, PipelineNode.new_val hchecked] at h
  rw [← Except.ok.inj h]

end NodeEntry

/-! ## Pipelines -/

namespace PipelineMetadata

variable {metadata : PipelineMetadata}

/-- The `Pipeline` of the metadata, built field by field. -/
def build (metadata : PipelineMetadata) : Except PyError Pipeline := do
  let nodes ← metadata.nodes.mapM NodeEntry.build
  let routes ← metadata.routes.mapM RouteEntry.build
  Pipeline.new metadata.id.val metadata.startNode nodes routes

/-- Nodes with the ids of their mappings and the routes make a pipeline. -/
lemma pipelineChecked_of_ids (hne : metadata.nodes ≠ []) {startNode : Text}
    (hstart : startNode.val = metadata.startNode) {nodes : List PipelineNode}
    (hids : nodes.map PipelineNode.id = metadata.nodes.map NodeEntry.id) :
    PipelineChecked startNode nodes (metadata.routes.map RouteEntry.route) := by
  obtain ⟨hdistinct, ⟨id, hid, hval⟩, hroutes⟩ := metadata.references hne
  have hedges : (metadata.routes.map RouteEntry.route).map PipelineRoute.edge =
      metadata.routes.map RouteEntry.edge := List.map_map
  have hsame : id = startNode := Subtype.ext (hval.trans hstart.symm)
  refine ⟨?_, ?_, ?_⟩
  · rw [hids]
    exact hdistinct
  · rw [hids, ← hsame]
    exact hid
  · rw [hids, hedges]
    exact hroutes

/-- Once the nodes are built, so are the routes. -/
lemma build_of_nodes {nodes : List PipelineNode}
    (h : metadata.nodes.mapM NodeEntry.build = .ok nodes) :
    metadata.build = Pipeline.new metadata.id.val metadata.startNode nodes
      (metadata.routes.map RouteEntry.route) := by
  have hroutes : metadata.routes.mapM RouteEntry.build =
      .ok (metadata.routes.map RouteEntry.route) := by
    rw [Effect.except_mapM_eq_ok, List.forall₂_map_right_iff, List.forall₂_same]
    exact fun r _ => r.build_eq
  unfold build
  simp only [h, hroutes, bind, Except.bind]

/-- The nodes that are built have the ids of their mappings. -/
lemma ids_of_nodes {nodes : List PipelineNode}
    (h : metadata.nodes.mapM NodeEntry.build = .ok nodes) :
    nodes.map PipelineNode.id = metadata.nodes.map NodeEntry.id := by
  rw [← List.forall₂_eq_eq_eq, List.forall₂_map_left_iff, List.forall₂_map_right_iff]
  refine List.Forall₂.flip (List.Forall₂.imp ?_ (Effect.except_mapM_eq_ok.mp h))
  exact fun n node hnode => NodeEntry.id_of_build hnode

/-- **Which pipeline metadata can be built.** -/
lemma exists_build_iff (hne : metadata.nodes ≠ []) :
    (∃ pipeline, metadata.build = .ok pipeline) ↔ ∀ n ∈ metadata.nodes, n.Buildable := by
  have hnodes : (∃ nodes, metadata.nodes.mapM NodeEntry.build = .ok nodes) ↔
      ∀ n ∈ metadata.nodes, n.Buildable :=
    Effect.exists_except_mapM_iff.trans (forall₂_congr fun _ _ => NodeEntry.exists_build_iff)
  refine Iff.trans ⟨?_, ?_⟩ hnodes
  · rintro ⟨pipeline, h⟩
    obtain ⟨nodes, hbuilt, -⟩ := Effect.except_bind_eq_ok.mp h
    exact ⟨nodes, hbuilt⟩
  · rintro ⟨nodes, hbuilt⟩
    obtain ⟨startNode, -, hstart⟩ := (metadata.references hne).start
    have hchecked := pipelineChecked_of_ids hne hstart (ids_of_nodes hbuilt)
    have hnew := @Pipeline.new_val metadata.id.text startNode _ _ hchecked
    rw [build_of_nodes hbuilt, ← hstart]
    exact ⟨_, hnew⟩

end PipelineMetadata

/-! ## Teams -/

namespace TeamMetadata

/-- Sub-agents for the members of a team: each expects the outputs its routes are for. -/
structure Cast (metadata : TeamMetadata) where
  agent : Text → SubAgent
  id : ∀ member ∈ metadata.dispatcher :: metadata.specialists, (agent member).id = member
  outputs : ∀ route ∈ metadata.handoffRoutes,
    route.outputName ∈ (agent route.fromAgent).role.expectedOutputs

/-- The `Team` of the metadata, built field by field. -/
def build (metadata : TeamMetadata) (agent : Text → SubAgent) : Except PyError Team := do
  let routes ← metadata.handoffRoutes.mapM HandoffEntry.build
  Team.new metadata.id.val metadata.inputArtifactKind metadata.outputArtifactKind
    (agent metadata.dispatcher) (metadata.specialists.map agent) routes
    (metadata.fallbackAgent.map Subtype.val) []

/-- Some route leads from one member to the other. -/
def Leads (metadata : TeamMetadata) (a b : Text) : Prop :=
  ∃ route ∈ metadata.handoffRoutes, route.fromAgent = a ∧ route.toAgent = b

variable {metadata : TeamMetadata}

lemma declares_map_route :
    Declares (metadata.handoffRoutes.map HandoffEntry.route) = metadata.Leads := by
  funext a b
  unfold Declares Leads
  simp only [List.mem_map, exists_exists_and_eq_and]
  rfl

/-- What is left of the constructor's checks after the schema's. -/
lemma Cast.teamChecked_iff (cast : metadata.Cast) :
    TeamChecked (cast.agent metadata.dispatcher) (metadata.specialists.map cast.agent)
        (metadata.handoffRoutes.map HandoffEntry.route) metadata.fallbackAgent ↔
      ∀ a, ¬ Relation.TransGen metadata.Leads a a := by
  have hspecialists : (metadata.specialists.map cast.agent).map SubAgent.id =
      metadata.specialists := by
    rw [List.map_map, ← List.map_id metadata.specialists, List.map_map]
    exact List.map_congr_left fun member hmember =>
      cast.id member (List.mem_cons_of_mem _ hmember)
  constructor
  · intro h
    rw [← declares_map_route]
    exact h.acyclic
  · intro hacyclic
    have hids : ((cast.agent metadata.dispatcher) :: metadata.specialists.map cast.agent).map
        SubAgent.id = metadata.dispatcher :: metadata.specialists := by
      rw [List.map_cons, hspecialists, cast.id _ List.mem_cons_self]
    obtain ⟨hdispatcher, hsource, htarget, hfallback⟩ := metadata.references
    refine ⟨?_, ?_, ?_, ?_, ?_⟩
    · rw [Ne, List.map_eq_nil_iff]
      exact metadata.specialists_ne
    · rw [hids, List.nodup_cons]
      exact ⟨hdispatcher, metadata.specialists_nodup⟩
    · intro r hr
      obtain ⟨route, hroute, rfl⟩ := List.mem_map.mp hr
      refine ⟨⟨cast.agent route.fromAgent, ?_, cast.id _ (hsource route hroute),
        cast.outputs route hroute⟩, ?_, fun hself => ?_⟩
      · rw [← List.map_cons (f := cast.agent)]
        exact List.mem_map_of_mem (hsource route hroute)
      · rw [hids]
        exact htarget route hroute
      · exact hacyclic route.fromAgent (.single ⟨route, hroute, rfl, hself.symm⟩)
    · rw [hspecialists]
      exact hfallback
    · rw [declares_map_route]
      exact hacyclic

/-- The routes are built, and the team from them. -/
lemma build_eq (agent : Text → SubAgent) :
    metadata.build agent = Team.new metadata.id.val metadata.inputArtifactKind
      metadata.outputArtifactKind (agent metadata.dispatcher) (metadata.specialists.map agent)
      (metadata.handoffRoutes.map HandoffEntry.route) (metadata.fallbackAgent.map Subtype.val)
      [] := by
  have hroutes : metadata.handoffRoutes.mapM HandoffEntry.build =
      .ok (metadata.handoffRoutes.map HandoffEntry.route) := by
    rw [Effect.except_mapM_eq_ok, List.forall₂_map_right_iff, List.forall₂_same]
    exact fun r _ => r.build_eq
  unfold build
  simp only [hroutes, bind, Except.bind]

/-- **Which team metadata can be built.** -/
lemma Cast.exists_build_iff (cast : metadata.Cast) :
    (∃ team, metadata.build cast.agent = .ok team) ↔
      ∀ a, ¬ Relation.TransGen metadata.Leads a a := by
  have hnew := @Team.exists_new_iff metadata.id.text metadata.inputArtifactKind
    metadata.outputArtifactKind (cast.agent metadata.dispatcher)
    (metadata.specialists.map cast.agent) (metadata.handoffRoutes.map HandoffEntry.route)
    metadata.fallbackAgent []
  simp only [build_eq]
  exact hnew.trans ((and_iff_left rfl).trans cast.teamChecked_iff)

end TeamMetadata

/-- **What is accepted can be built** when the milestones are catalogued and the checkpoints take
in what their nodes do, for a pipeline, and when the routes have no cycle, for a team. -/
theorem builds_iff {pipeline : PipelineMetadata} (hne : pipeline.nodes ≠ [])
    {team : TeamMetadata} (cast : team.Cast) :
    ((∃ built, pipeline.build = .ok built) ↔ ∀ n ∈ pipeline.nodes, n.Buildable) ∧
    ((∃ built, team.build cast.agent = .ok built) ↔
      ∀ a, ¬ Relation.TransGen team.Leads a a) :=
  ⟨PipelineMetadata.exists_build_iff hne, cast.exists_build_iff⟩

/-! ### A reviewed draft, over a milestone in the catalog and over another -/

/-- A pipeline of a draft and its review; a draft that fails is written again. -/
def draftPipeline (milestone : String) : Mapping :=
  [("id", .str "reviewed-draft"), ("start_node", .str "draft"),
    ("nodes", .list [
      .dict [("id", .str "draft"), ("kind", .str "sub_agent"), ("ref_id", .str "writer"),
        ("input_artifact_kind", .str "brief"), ("output_artifact_kind", .str "essay"),
        ("phase", .str "code"), ("milestone", .str milestone)],
      .dict [("id", .str "review"), ("kind", .str "review_checkpoint"), ("ref_id", .str "editor"),
        ("input_artifact_kind", .str "essay"), ("output_artifact_kind", .str "verdict"),
        ("phase", .str "review"), ("milestone", .str "findings_recorded"),
        ("review_checkpoint", .dict [("input_artifact_kind", .str "essay"),
          ("passed_output_artifact_kind", .str "verdict"),
          ("failed_output_artifact_kind", .str "brief")])]]),
    ("routes", .list [
      .dict [("from_node", .str "draft"), ("outcome", .str "success"), ("to_node", .str "review")],
      .dict [("from_node", .str "review"), ("outcome", .str "failure"),
        ("to_node", .str "draft")]])]

/-- What the schema makes of it: the milestone of the draft decides. -/
lemma validate_draftPipeline {milestone : String}
    (h : (PipelineMetadata.validate String.toLower (draftPipeline milestone)).map
      (fun metadata => metadata.nodes.map fun n => ((n.phase.val, n.milestone.val),
        n.inputArtifactKind.val, n.reviewCheckpoint.map fun c => c.inputArtifactKind.val)) =
        .ok [(("code", milestone), "brief", none),
          (("review", "findings_recorded"), "essay", some "essay")]) :
    ∃ metadata, PipelineMetadata.validate String.toLower (draftPipeline milestone) =
        .ok metadata ∧ metadata.nodes ≠ [] ∧
      ((∀ n ∈ metadata.nodes, n.Buildable) ↔ isValidMilestone "code" milestone = true) := by
  cases hvalid : PipelineMetadata.validate String.toLower (draftPipeline milestone) with
  | error e =>
      rw [hvalid] at h
      exact absurd h (by simp [Except.map])
  | ok metadata =>
      rw [hvalid] at h
      obtain ⟨draft, rest, hcons, hdraft, hrest⟩ := List.map_eq_cons_iff.mp (Except.ok.inj h)
      obtain ⟨review, hsingle, hreview⟩ := List.map_eq_singleton_iff.mp hrest
      simp only [Prod.mk.injEq, Option.map_eq_none_iff, Option.map_eq_some_iff] at hdraft hreview
      obtain ⟨⟨hphase, hmilestone⟩, -, hnone⟩ := hdraft
      obtain ⟨⟨hphase', hmilestone'⟩, hinput, c, hsome, hkind⟩ := hreview
      have hreviewed : review.Buildable := by
        refine ⟨?_, fun c' hc' => ?_⟩
        · rw [hphase', hmilestone']
          decide
        · obtain rfl := Option.some.inj (hsome.symm.trans hc')
          exact Subtype.ext (hkind.trans hinput.symm)
      refine ⟨metadata, rfl, by rw [hcons]; exact List.cons_ne_nil _ _, ?_⟩
      rw [hcons, hsingle, List.forall_mem_cons, List.forall_mem_singleton]
      refine (and_iff_left hreviewed).trans ?_
      unfold NodeEntry.Buildable
      rw [hphase, hmilestone, hnone]
      exact and_iff_left (by simp)

/-- A team of two; the chair hands its minutes on. -/
def draftTeam : TeamMetadata where
  id := ⟨"drafting", by decide⟩
  inputArtifactKind := .lit "request"
  outputArtifactKind := .lit "memo"
  dispatcher := .lit "chair"
  specialists := [.lit "clerk"]
  specialists_ne := by decide
  specialists_nodup := by decide
  handoffRoutes := [⟨.lit "chair", .lit "minutes", .lit "clerk", .lit "memo"⟩]
  fallbackAgent := some (.lit "clerk")
  references := ⟨by decide, by decide, by decide, by decide⟩

/-- Everyone in it produces the minutes. -/
def draftCast : draftTeam.Cast where
  agent := fun id => ⟨id, ⟨[.lit "minutes"], by decide, by decide⟩⟩
  id := fun _ _ => rfl
  outputs := by
    intro route hroute
    rw [List.mem_singleton.mp hroute]
    exact List.mem_cons_self

/-- The only route leads from the chair to the clerk. -/
lemma eq_of_leads {a b : Text} (h : draftTeam.Leads a b) : a = .lit "chair" ∧ b = .lit "clerk" := by
  obtain ⟨route, hroute, rfl, rfl⟩ := h
  rw [List.mem_singleton.mp hroute]
  exact ⟨rfl, rfl⟩

theorem draftPipeline_builds :
    ∃ metadata, PipelineMetadata.validate String.toLower (draftPipeline "plan_drafted") =
        .ok metadata ∧ metadata.nodes ≠ [] ∧ (∃ pipeline, metadata.build = .ok pipeline) ∧
        ∃ team, draftTeam.build draftCast.agent = .ok team := by
  obtain ⟨metadata, hvalid, hne, hbuildable⟩ :=
    @validate_draftPipeline "plan_drafted" (by decide +kernel)
  refine ⟨metadata, hvalid, hne, (builds_iff hne draftCast).1.mpr (hbuildable.mpr (by decide)),
    (builds_iff hne draftCast).2.mpr fun a hcycle => ?_⟩
  obtain ⟨b, hfirst, -⟩ := Relation.TransGen.head'_iff.mp hcycle
  obtain ⟨c, -, hlast⟩ := Relation.TransGen.tail'_iff.mp hcycle
  exact absurd ((eq_of_leads hfirst).1.symm.trans (eq_of_leads hlast).2) (by decide)

/-- The schema accepts a milestone that no catalog has, and the node cannot be built. -/
theorem draftPipeline_not_builds :
    ∃ metadata, PipelineMetadata.validate String.toLower (draftPipeline "first_draft") =
        .ok metadata ∧ metadata.nodes ≠ [] ∧ ∀ pipeline, metadata.build ≠ .ok pipeline := by
  obtain ⟨metadata, hvalid, hne, hbuildable⟩ :=
    @validate_draftPipeline "first_draft" (by decide +kernel)
  refine ⟨metadata, hvalid, hne, fun pipeline h => ?_⟩
  have hall := hbuildable.mp ((PipelineMetadata.exists_build_iff hne).mp ⟨pipeline, h⟩)
  exact absurd hall (by decide)

end Waywarden
