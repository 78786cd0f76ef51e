import Waywarden.Domain.Validation
import Waywarden.Properties.ManifestSchema
import Waywarden.Services.CodingHandoff
import Waywarden.Services.DispatcherWorkflow

/-!
# Delegation envelopes, whichever path builds them

Four entry points build envelopes.  Two things are asked of what they return.

An envelope is well formed when its expected outputs are outputs of its child manifest, the child
passes validation, and the child does not widen its parent.  Only the coding routine makes sure of
that: the EA helper does not compare the expected outputs with the parent's, its placeholder turns
any name into a path, and the dispatcher compares two lengths (`wellFormed_iff`).

Its id names the delegation.  The id is made of the parent run id alone, so that two envelopes of
one parent run share it (`distinctIds_iff`).
-/

namespace Waywarden

/-- One creation of an envelope, on an object in a given state. -/
inductive EnvelopeCall
  | make (helper : EAAHandoffHelper) (expectedOutputs : Option (List String))
  | makeManual (helper : EAAHandoffHelper) (ctx : HandoffContext)
      (expectedOutputs : Option (List String))
  | create (routine : CodingHandoffRoutine) (ctx : HandoffContext)
      (parentManifest : WorkspaceManifest) (expectedOutputs : List String)
  | package (workflow : WorkflowMetadata) (parentManifest : WorkspaceManifest)
      (objective : String) (correlation : RunCorrelation) (artifactRef : String)

namespace EnvelopeCall

/-- What the call returns or raises. -/
def run (env : HandoffEnv) : EnvelopeCall → Except PyError DelegationEnvelope
  | .make helper expectedOutputs => (helper.makeEnvelope env expectedOutputs).1
  | .makeManual helper ctx expectedOutputs =>
      (EAAHandoffHelper.makeEnvelopeManual env ctx expectedOutputs helper).1
  | .create routine ctx parentManifest expectedOutputs =>
      (CodingHandoffRoutine.createEnvelope env ctx parentManifest expectedOutputs routine).1
  | .package workflow parentManifest objective correlation artifactRef =>
      (DispatcherWorkflowPackager.package env workflow parentManifest objective correlation
        artifactRef).map DispatcherWorkflowPackage.envelope

/-- The parent manifest, when there is one. -/
def parentManifest : EnvelopeCall → Option WorkspaceManifest
  | .make helper _ | .makeManual helper _ _ => helper.parentManifest
  | .create _ _ parentManifest _ => some parentManifest
  | .package _ parentManifest _ _ _ => some parentManifest

/-- The run that delegates. -/
def parentRunId : EnvelopeCall → String
  | .make helper _ | .makeManual helper _ _ => helper.parentRunId
  | .create routine _ _ _ => routine.parentRunId
  | .package _ _ _ correlation _ => correlation.parentRunId

/-- The outputs asked for. -/
def expectedOutputs : EnvelopeCall → List String
  | .make _ outs | .makeManual _ _ outs => EAAHandoffHelper.orArtifact outs
  | .create _ _ _ outs => outs
  | .package workflow _ _ _ _ => workflow.outputNames

/-- The child manifest the call builds. -/
def childManifest (env : HandoffEnv) : EnvelopeCall → WorkspaceManifest
  | .make helper outs | .makeManual helper _ outs =>
      EAAHandoffHelper.child env helper.parentManifest (EAAHandoffHelper.orArtifact outs)
  | .create _ _ parentManifest _ => CodingHandoffRoutine.narrowChildManifest parentManifest
  | .package workflow parentManifest _ correlation _ =>
      DispatcherWorkflowPackager.childOf parentManifest correlation.childRunId
        workflow.outputNames

/-- What a call that returns has checked about the expected outputs. -/
def Counted : EnvelopeCall → Prop
  | .make _ _ | .makeManual _ _ _ => True
  | .create _ _ parentManifest outs =>
      ∀ out ∈ outs, out ∈ parentManifest.outputs.map OutputContract.name
  | .package workflow parentManifest _ _ _ =>
      (DispatcherWorkflowPackager.selected parentManifest workflow.outputNames).length =
        workflow.outputNames.dedup.length

/-- What a returned envelope is made of. -/
structure Built (env : HandoffEnv) (call : EnvelopeCall) (e : DelegationEnvelope) : Prop where
  id : e.id = delegationId call.parentRunId
  childManifest : e.childManifest = call.childManifest env
  expectedOutputs : e.expectedOutputs = call.expectedOutputs
  counted : call.Counted

/-- **What a call returns.** -/
theorem built_of_run {env : HandoffEnv} {call : EnvelopeCall} {e : DelegationEnvelope}
    (h : call.run env = .ok e) : call.Built env e := by
  cases call with
  | make helper outs =>
      obtain ⟨ctx, rfl⟩ := EAAHandoffHelper.of_makeEnvelope h
      exact ⟨rfl, rfl, rfl, trivial⟩
  | makeManual helper ctx outs =>
      rw [run, EAAHandoffHelper.makeEnvelopeManual_eq] at h
      obtain rfl := Except.ok.inj h
      exact ⟨rfl, rfl, rfl, trivial⟩
  | create routine ctx parent outs =>
      obtain ⟨rfl, hcounted⟩ := CodingHandoffRoutine.of_createEnvelope h
      exact ⟨rfl, rfl, rfl, hcounted⟩
  | package workflow parent objective correlation artifactRef =>
      rw [run] at h
      cases hp : DispatcherWorkflowPackager.package env workflow parent objective correlation
          artifactRef with
      | error err =>
          rw [hp] at h
          exact absurd h (by simp [Except.map])
      | ok p =>
          rw [hp] at h
          obtain rfl := Except.ok.inj h
          have hpackaged := DispatcherWorkflowPackager.of_package hp
          rw [hpackaged.envelope]
          exact ⟨rfl, rfl, rfl, hpackaged.counted⟩

end EnvelopeCall

/-! ## Well-formed envelopes -/

/-- The envelope's expected outputs are outputs of its child manifest, which passes validation
and does not widen the parent. -/
structure WellFormed (parent : Option WorkspaceManifest) (e : DelegationEnvelope) : Prop where
  names : ∀ out ∈ e.expectedOutputs, out ∈ e.childManifest.outputs.map OutputContract.name
  valid : validateManifest e.childManifest = .ok ()
  narrowed : ∀ p ∈ parent, Delegation.narrowManifest p e.childManifest = .ok ()

/-- The condition of the helper: with a parent manifest, every expected output is an output of
the parent; without one, it is a relative path with no empty component, dot or dots. -/
def HelperSound (helper : EAAHandoffHelper) (outs : List String) : Prop :=
  match helper.parentManifest with
  | some parent => ∀ out ∈ outs, out ∈ parent.outputs.map OutputContract.name
  | none => ∀ out ∈ outs, PosixPath.Relative out.toList

/-- The condition of a call: the coding routine needs none, and for the dispatcher no two outputs
of the parent have one expected name. -/
def EnvelopeCall.Sound : EnvelopeCall → Prop
  | .make helper outs | .makeManual helper _ outs =>
      HelperSound helper (EAAHandoffHelper.orArtifact outs)
  | .create _ _ _ _ => True
  | .package workflow parentManifest _ _ _ =>
      ((DispatcherWorkflowPackager.selected parentManifest workflow.outputNames).map
        OutputContract.name).Nodup

/-- Another run id and fewer outputs break no rule. -/
lemma Enforced.regrant {m : WorkspaceManifest} (h : Enforced m) (runId : String)
    {outputs : List OutputContract} (hsub : outputs ⊆ m.outputs) :
    Enforced { m with runId, outputs } := by
  obtain ⟨hinputs, hwritable, houts⟩ := forall_declaredPaths.mp h.paths
  exact ⟨forall_declaredPaths.mpr ⟨hinputs, hwritable, fun out hout => houts out (hsub hout)⟩,
    h.targets, fun out hout => h.outputs out (hsub hout), h.network⟩

/-- An envelope whose child has the parent's grants and some of its outputs is well formed
exactly when its expected outputs are among those. -/
lemma wellFormed_regrant_iff {parent : WorkspaceManifest} {runId : String}
    {outputs : List OutputContract} {outs : List String} {e : DelegationEnvelope}
    (hparent : validateManifest parent = .ok ())
    (hchild : e.childManifest = { parent with runId, outputs }) (houts : e.expectedOutputs = outs)
    (hsub : outputs ⊆ parent.outputs) :
    WellFormed (some parent) e ↔ ∀ out ∈ outs, out ∈ outputs.map OutputContract.name := by
  subst houts
  constructor
  · intro h out hout
    have hmem := h.names out hout
    rw [hchild] at hmem
    exact hmem
  · intro h
    refine ⟨fun out hout => ?_, ?_, fun p hp => ?_⟩
    · rw [hchild]
      exact h out hout
    · rw [hchild, validateManifest_eq_ok_iff]
      exact (validateManifest_eq_ok_iff.mp hparent).regrant runId hsub
    · obtain rfl := Option.some.inj hp
      rw [hchild]
      exact Delegation.narrowManifest_regrant parent runId outputs

/-- The placeholder manifest is valid exactly when its outputs are named by relative paths. -/
lemma validateManifest_placeholder_iff {env : HandoffEnv} {outs : List String} :
    validateManifest (buildPlaceholderManifest env outs) = .ok () ↔
      ∀ out ∈ outs, PosixPath.Relative out.toList := by
  have hplain : ∀ s ∈ ["tmp".toList], PosixPath.Plain s := by
    intro s hs
    obtain rfl := List.mem_singleton.mp hs
    exact ⟨by decide, by decide, by decide, by decide⟩
  have hne : ["tmp".toList] ≠ [] := List.cons_ne_nil _ _
  have hpath : ∀ out : String, (placeholderOutput out).path.toList =
      '/' :: PosixPath.join ["tmp".toList] ++ '/' :: out.toList := by
    intro out
    unfold placeholderOutput
    rw [String.toList_append]
    rfl
  rw [validateManifest_eq_ok_iff]
  constructor
  · intro h out hout
    have hrooted := (forall_declaredPaths.mp h.paths).2.2 _ (List.mem_map_of_mem hout)
    rw [hpath] at hrooted
    exact (PosixPath.rooted_append_iff hne hplain _).mp hrooted
  · intro h
    have hout : ∀ output ∈ outs.map placeholderOutput, ∃ name : List Char,
        PosixPath.Relative name ∧
          output.path.toList = '/' :: PosixPath.join ["tmp".toList] ++ '/' :: name := by
      intro output houtput
      obtain ⟨out, hmem, rfl⟩ := List.mem_map.mp houtput
      exact ⟨out.toList, h out hmem, hpath out⟩
    refine ⟨forall_declaredPaths.mpr ⟨fun _ hinp => absurd hinp List.not_mem_nil, ?_, ?_⟩,
      List.nodup_nil, ?_,
      ⟨fun h => NetworkMode.noConfusion h.1, fun h => NetworkMode.noConfusion h⟩⟩
    · intro wp hwp
      obtain rfl := List.mem_singleton.mp hwp
      exact ⟨['/'], Or.inl rfl, ["tmp".toList], hplain, rfl⟩
    · intro output houtput
      obtain ⟨name, hname, heq⟩ := hout output houtput
      rw [heq]
      exact (PosixPath.rooted_append_iff hne hplain name).mpr hname
    · intro output houtput
      obtain ⟨name, hname, heq⟩ := hout output houtput
      refine ⟨_, List.mem_singleton_self _, ?_⟩
      rw [heq]
      exact hname.below hne hplain

/-- The helper's envelopes. -/
lemma wellFormed_helper_iff {env : HandoffEnv} {helper : EAAHandoffHelper} {outs : List String}
    {e : DelegationEnvelope} (houts : e.expectedOutputs = outs)
    (hchild : e.childManifest = EAAHandoffHelper.child env helper.parentManifest outs)
    (hparent : ∀ p ∈ helper.parentManifest, validateManifest p = .ok ()) :
    WellFormed helper.parentManifest e ↔ HelperSound helper outs := by
  unfold HelperSound
  cases hmanifest : helper.parentManifest with
  | none =>
      rw [hmanifest] at hchild
      have hnames : e.childManifest.outputs.map OutputContract.name = outs := by
        rw [hchild]
        show (outs.map placeholderOutput).map OutputContract.name = outs
        rw [List.map_map]
        exact List.map_id outs
      constructor
      · intro h
        exact validateManifest_placeholder_iff.mp (hchild ▸ h.valid)
      · intro h
        refine ⟨fun out hout => hnames ▸ houts ▸ hout, ?_, fun p hp => absurd hp (by simp)⟩
        rw [hchild]
        exact validateManifest_placeholder_iff.mpr h
  | some parent =>
      rw [hmanifest] at hchild
      exact wellFormed_regrant_iff (hparent parent hmanifest) hchild houts (List.Subset.refl _)

/-- **Well-formed envelopes, exactly.**  Under a valid parent manifest, or none, a returned
envelope is well formed exactly when the call meets its condition. -/
theorem wellFormed_iff (env : HandoffEnv) (call : EnvelopeCall) {e : DelegationEnvelope}
    (hrun : call.run env = .ok e)
    (hparent : ∀ p ∈ call.parentManifest, validateManifest p = .ok ()) :
    WellFormed call.parentManifest e ↔ call.Sound := by
  obtain ⟨-, hchild, houts, hcounted⟩ := call.built_of_run hrun
  cases call with
  | make helper outs => exact wellFormed_helper_iff houts hchild hparent
  | makeManual helper ctx outs => exact wellFormed_helper_iff houts hchild hparent
  | create routine ctx parent outs =>
      -- the routine has looked the expected outputs up itself
      exact iff_of_true ((wellFormed_regrant_iff (hparent parent rfl) hchild houts
        (List.Subset.refl _)).mpr hcounted) trivial
  | package workflow parent objective correlation artifactRef =>
      exact (wellFormed_regrant_iff (hparent parent rfl) hchild houts
        (List.filter_sublist.subset)).trans
        (DispatcherWorkflowPackager.forall_mem_selected_iff hcounted)

/-- A clock and identifiers for concrete calls. -/
def stillHandoffEnv : HandoffEnv := ⟨0, fun _ => .aware 0, stillEnv.uuid4⟩

/-- A helper that was given a manifest with one output, `report`, and then a context. -/
def reportHelper : EAAHandoffHelper :=
  (EAAHandoffHelper.buildContext "Write the report" none none none none
    (EAAHandoffHelper.setParentManifest (reportManifest "/work" "/work/report" ["report"]) {}).2).2

/-- `wellFormed_iff` at an envelope that asks for the parent's output. -/
theorem wellFormed_report : WellFormed (some (reportManifest "/work" "/work/report" ["report"]))
    (EAAHandoffHelper.envelopeFor stillHandoffEnv reportHelper { objective := "Write the report" }
      ["report"]) :=
  (wellFormed_iff stillHandoffEnv (.make reportHelper (some ["report"])) rfl (by
    intro p hp
    obtain rfl := Option.some.inj hp
    decide +kernel)).mpr (by
    intro out hout
    exact hout)

/-- Without expected outputs the helper asks for an `artifact` that the parent does not have. -/
theorem not_wellFormed_default_output : ¬ ∀ (env : HandoffEnv) (call : EnvelopeCall) e,
    call.run env = .ok e → (∀ p ∈ call.parentManifest, validateManifest p = .ok ()) →
      WellFormed call.parentManifest e := by
  intro h
  have hbuilt := h stillHandoffEnv (.make reportHelper none) _ rfl (by
    intro p hp
    obtain rfl := Option.some.inj hp
    decide +kernel)
  exact absurd (hbuilt.names "artifact" List.mem_cons_self) (by decide)

/-! ## Delegation ids -/

/-- The creations of a sequence that returned, with their envelopes. -/
def returned (calls : List (EnvelopeCall × HandoffEnv)) :
    List (EnvelopeCall × DelegationEnvelope) :=
  calls.filterMap fun call => (call.1.run call.2).toOption.map fun e => (call.1, e)

/-- The call is one of the coding routine. -/
def EnvelopeCall.isCoding : EnvelopeCall → Bool
  | .create _ _ _ _ => true
  | _ => false

/-- The ids of the envelopes are pairwise distinct, and so are the run ids of the coding
routine's child manifests. -/
def DistinctIds (calls : List (EnvelopeCall × HandoffEnv)) : Prop :=
  ((returned calls).map fun r => r.2.id).Nodup ∧
    (((returned calls).filter fun r => r.1.isCoding).map fun r => r.2.childManifest.runId).Nodup

/-- The parent run ids are pairwise distinct, and so are the run ids of the manifests the coding
routine is given. -/
def DistinctParents (calls : List (EnvelopeCall × HandoffEnv)) : Prop :=
  ((returned calls).map fun r => r.1.parentRunId).Nodup ∧
    (((returned calls).filter fun r => r.1.isCoding).map
      fun r => r.1.parentManifest.map WorkspaceManifest.runId).Nodup

/-- The id names the parent run. -/
lemma delegationId_injective : Function.Injective delegationId := by
  intro a b h
  unfold delegationId at h
  rw [← String.toList_inj] at h ⊢
  simp only [String.toList_append, List.append_assoc, List.append_cancel_left_eq] at h
  exact List.append_cancel_right h

/-- The child's run id names the parent manifest's. -/
lemma childRunId_injective : Function.Injective CodingHandoffRoutine.childRunId := by
  intro a b h
  unfold CodingHandoffRoutine.childRunId at h
  rw [← String.toList_inj] at h ⊢
  simp only [String.toList_append] at h
  exact List.append_cancel_right h

/-- Every returned envelope is built for its call. -/
lemma built_of_mem_returned {calls : List (EnvelopeCall × HandoffEnv)}
    {r : EnvelopeCall × DelegationEnvelope} (h : r ∈ returned calls) :
    ∃ env, r.1.Built env r.2 := by
  obtain ⟨⟨call, env⟩, -, hr⟩ := List.mem_filterMap.mp h
  obtain ⟨e, he, rfl⟩ := Option.map_eq_some_iff.mp hr
  exact ⟨env, EnvelopeCall.built_of_run (Effect.except_toOption_eq_some.mp he)⟩

/-- **Delegation ids, exactly.**  In any sequence of creations the ids are pairwise distinct
exactly when the parents' are. -/
theorem distinctIds_iff (calls : List (EnvelopeCall × HandoffEnv)) :
    DistinctIds calls ↔ DistinctParents calls := by
  have hids : (returned calls).map (fun r => r.2.id) =
      ((returned calls).map fun r => r.1.parentRunId).map delegationId := by
    rw [List.map_map]
    refine List.map_congr_left fun r hr => ?_
    obtain ⟨env, hbuilt⟩ := built_of_mem_returned hr
    exact hbuilt.id
  -- a coding call has a parent manifest, and its child's run id is made of that one's
  have hchildren : ((returned calls).filter fun r => r.1.isCoding).map
      (fun r => some r.2.childManifest.runId) =
      (((returned calls).filter fun r => r.1.isCoding).map
        fun r => r.1.parentManifest.map WorkspaceManifest.runId).map
        (Option.map CodingHandoffRoutine.childRunId) := by
    rw [List.map_map]
    refine List.map_congr_left fun r hr => ?_
    obtain ⟨hr, hcoding⟩ := List.mem_filter.mp hr
    obtain ⟨env, hbuilt⟩ := built_of_mem_returned hr
    rw [hbuilt.childManifest]
    obtain ⟨call, e⟩ := r
    cases call with
    | create => rfl
    | make => exact absurd hcoding (by simp [EnvelopeCall.isCoding])
    | makeManual => exact absurd hcoding (by simp [EnvelopeCall.isCoding])
    | package => exact absurd hcoding (by simp [EnvelopeCall.isCoding])
  have hsome : (((returned calls).filter fun r => r.1.isCoding).map
      fun r => r.2.childManifest.runId).Nodup ↔
      (((returned calls).filter fun r => r.1.isCoding).map
        fun r => some r.2.childManifest.runId).Nodup := by
    rw [← List.nodup_map_iff (Option.some_injective String), List.map_map]
    rfl
  unfold DistinctIds DistinctParents
  rw [hids, List.nodup_map_iff delegationId_injective, hsome, hchildren,
    List.nodup_map_iff (Option.map_injective childRunId_injective)]

/-- Two envelopes of one parent run have one id. -/
theorem not_distinctIds_one_parent :
    ¬ DistinctIds [(.make reportHelper none, stillHandoffEnv),
      (.make reportHelper (some ["report"]), stillHandoffEnv)] := by
  intro h
  exact absurd h.1 (by decide +kernel)

end Waywarden
