import Mathlib.Data.List.Sort
import Waywarden.Domain.Narrowing

/-!
# Delegation envelopes

`waywarden.domain.delegation.envelope` and `waywarden.domain.delegation.handoff`: the envelope
that hands work to a child run, its factory, and the EA helper that builds envelopes from a stored
context and, when one is set, from a parent manifest.

A value of an artifact context stands for the text it formats to.
-/

namespace Waywarden

/-- `DelegationEnvelope`. -/
structure DelegationEnvelope where
  id : String
  parentRunId : String
  childManifest : WorkspaceManifest
  brief : String
  expectedOutputs : List String
  createdAt : Timestamp

/-- What a builder of envelopes reads from outside: the creation time fixed when the module was
imported, the clock and the random identifiers. -/
structure HandoffEnv where
  defaultCreatedAt : Timestamp
  now : ℕ → PyDatetime
  uuid4 : ℕ → String

/-- `f"del-{parent_run_id}-1"`. -/
def delegationId (parentRunId : String) : String := "del-" ++ parentRunId ++ "-1"

/-- `make_envelope`. -/
def makeEnvelope (env : HandoffEnv) (parentRunId : String) (childManifest : WorkspaceManifest)
    (brief : String) (expectedOutputs : List String) : DelegationEnvelope where
  id := delegationId parentRunId
  parentRunId
  childManifest
  brief
  expectedOutputs
  createdAt := env.defaultCreatedAt

/-- `HandoffContext`. -/
structure HandoffContext where
  objective : String
  constraints : List String := []
  nonGoals : List String := []
  acceptanceCriteria : List String := []
  artifactContext : Option (List (String × String)) := none

/-- The items of one section of a brief, which is left out when there are none. -/
def briefSection (title : String) (items : List String) : List String :=
  if items = [] then []
  else [title ++ ":\n" ++ "\n".intercalate (items.map fun item => "- " ++ item)]

/-- `_format_handoff_brief` and `_format_coding_brief`, which differ in their heading. -/
def formatBrief (heading : String) (ctx : HandoffContext) : String :=
  let artifactItems := (ctx.artifactContext.getD []).insertionSort fun a b => a.1 ≤ b.1
  "\n\n".intercalate ([heading ++ ctx.objective] ++
    briefSection "Constraints" ctx.constraints ++
    briefSection "Non-goals" ctx.nonGoals ++
    briefSection "Acceptance criteria" ctx.acceptanceCriteria ++
    briefSection "Artifact context" (artifactItems.map fun item => item.1 ++ ": " ++ item.2))

/-- The same grants under another run id and with other outputs are no widening. -/
lemma Delegation.narrowManifest_regrant (parent : WorkspaceManifest) (runId : String)
    (outputs : List OutputContract) :
    narrowManifest parent { parent with runId, outputs } = .ok () :=
  narrowManifest_eq_ok_iff.mpr
    ⟨List.Subset.refl _, fun _ => List.Subset.refl _, Nat.le_refl _, List.Subset.refl _⟩

/-- `uuid4().hex[:8]`. -/
def shortHex (uuid : String) : String := String.ofList (uuid.toList.take 8)

/-- One output of the placeholder manifest. -/
def placeholderOutput (out : String) : OutputContract where
  name := out
  path := "/tmp/" ++ out
  kind := .report
  required := true

/-- `_build_placeholder_manifest`. -/
def buildPlaceholderManifest (env : HandoffEnv) (expectedOutputs : List String) :
    WorkspaceManifest where
  runId := "run-placeholder-" ++ shortHex (env.uuid4 0)
  inputs := []
  writablePaths := [{ path := "/tmp", purpose := .taskScratch }]
  outputs := expectedOutputs.map placeholderOutput
  networkPolicy := ⟨.deny, [], []⟩
  toolPolicy := { preset := .yolo, rules := [], defaultDecision := .autoAllow }
  secretScope := { mode := .none, allowedSecretRefs := [], mountEnv := [] }
  snapshotPolicy :=
    { onStart := false, onCompletion := false, onFailure := false,
      beforeDestructiveActions := true, maxSnapshots := some 10 }

/-! ## The EA helper -/

/-- `EAAHandoffHelper`, as far as its envelopes go. -/
structure EAAHandoffHelper where
  parentRunId : String := "parent-run-1"
  envelope : Option DelegationEnvelope := none
  handoffCtx : Option HandoffContext := none
  parentManifest : Option WorkspaceManifest := none

namespace EAAHandoffHelper

/-- `set_parent_manifest`. -/
def setParentManifest (manifest : WorkspaceManifest) : Effect EAAHandoffHelper PyError Unit :=
  Effect.modify fun helper => { helper with parentManifest := some manifest }

/-- `build_context`. -/
def buildContext (objective : String)
    (constraints nonGoals acceptanceCriteria : Option (List String))
    (artifactContext : Option (List (String × String))) :
    Effect EAAHandoffHelper PyError HandoffContext := do
  let ctx : HandoffContext :=
    ⟨objective, constraints.getD [], nonGoals.getD [], acceptanceCriteria.getD [], artifactContext⟩
  Effect.modify fun helper => { helper with handoffCtx := some ctx }
  pure ctx

/-- The child of a parent manifest: the same grants under a run id of its own. -/
def childOf (env : HandoffEnv) (parent : WorkspaceManifest) : WorkspaceManifest :=
  { parent with runId := "run-child-" ++ shortHex (env.uuid4 0) }

/-- `_resolve_child_manifest`. -/
def resolveChildManifest (env : HandoffEnv) (parentManifest : Option WorkspaceManifest)
    (expectedOutputs : List String) : Except PyError WorkspaceManifest :=
  match parentManifest with
  | some parent => do
      let child := childOf env parent
      Delegation.narrowManifest parent child
      .ok child
  | none => .ok (buildPlaceholderManifest env expectedOutputs)

/-- `_do_make_envelope`. -/
def doMakeEnvelope (env : HandoffEnv) (expectedOutputs : List String) :
    Effect EAAHandoffHelper PyError DelegationEnvelope := do
  let helper ← Effect.gets id
  match helper.handoffCtx with
  | none => Effect.raise ⟨.valueError, "no HandoffContext; call build_context first", []⟩
  | some ctx => do
      let childManifest ← Effect.ofExcept
        (resolveChildManifest env helper.parentManifest expectedOutputs)
      let envelope := makeEnvelope env helper.parentRunId childManifest
        (formatBrief "EA handoff: " ctx) expectedOutputs
      Effect.modify fun helper => { helper with envelope := some envelope }
      pure envelope

/-- `expected_outputs or ["artifact"]`. -/
def orArtifact (expectedOutputs : Option (List String)) : List String :=
  match expectedOutputs with
  | none | some [] => ["artifact"]
  | some (out :: outs) => out :: outs

/-- `make_envelope`. -/
def makeEnvelope (env : HandoffEnv) (expectedOutputs : Option (List String)) :
    Effect EAAHandoffHelper PyError DelegationEnvelope :=
  doMakeEnvelope env (orArtifact expectedOutputs)

/-- `make_envelope_manual`: the stored context is put back however the call ends. -/
def makeEnvelopeManual (env : HandoffEnv) (ctx : HandoffContext)
    (expectedOutputs : Option (List String)) :
    Effect EAAHandoffHelper PyError DelegationEnvelope := do
  let saved ← Effect.gets handoffCtx
  Effect.modify fun helper => { helper with handoffCtx := some ctx }
  let result ← Effect.attempt (doMakeEnvelope env (orArtifact expectedOutputs))
  Effect.modify fun helper => { helper with handoffCtx := saved }
  Effect.ofExcept result

/-! ## What the helper builds -/

variable {env : HandoffEnv} {helper : EAAHandoffHelper}

/-- The child manifest of an envelope: the parent's grants, or the placeholder. -/
def child (env : HandoffEnv) (parentManifest : Option WorkspaceManifest)
    (expectedOutputs : List String) : WorkspaceManifest :=
  match parentManifest with
  | some parent => childOf env parent
  | none => buildPlaceholderManifest env expectedOutputs

lemma resolveChildManifest_eq (parentManifest : Option WorkspaceManifest) (outs : List String) :
    resolveChildManifest env parentManifest outs = .ok (child env parentManifest outs) := by
  cases parentManifest with
  | none => rfl
  | some parent =>
      unfold resolveChildManifest
      dsimp only
      unfold childOf
      rw [Delegation.narrowManifest_regrant parent _ parent.outputs]
      rfl

/-- The envelope for a context. -/
def envelopeFor (env : HandoffEnv) (helper : EAAHandoffHelper) (ctx : HandoffContext)
    (expectedOutputs : List String) : DelegationEnvelope :=
  Waywarden.makeEnvelope env helper.parentRunId (child env helper.parentManifest expectedOutputs)
    (formatBrief "EA handoff: " ctx) expectedOutputs

/-- `_do_make_envelope` builds the envelope for the stored context, and raises without one. -/
lemma wp_doMakeEnvelope {Q : DelegationEnvelope → EAAHandoffHelper → Prop}
    {E : PyError → EAAHandoffHelper → Prop} {outs : List String}
    (hnone : helper.handoffCtx = none →
      E ⟨.valueError, "no HandoffContext; call build_context first", []⟩ helper)
    (hsome : ∀ ctx, helper.handoffCtx = some ctx →
      Q (envelopeFor env helper ctx outs)
        { helper with envelope := some (envelopeFor env helper ctx outs) }) :
    Effect.wp (doMakeEnvelope env outs) Q E helper := by
  unfold doMakeEnvelope
  rw [Effect.wp_bind, Effect.wp_gets, id_eq]
  split
  · rename_i h
    exact (Effect.wp_raise _).mpr (hnone h)
  · rename_i ctx h
    rw [resolveChildManifest_eq, Effect.wp_bind, Effect.wp_ofExcept_ok, Effect.wp_bind,
      Effect.wp_modify, Effect.wp_pure]
    exact hsome ctx h

/-- `make_envelope` returns the envelope for the stored context. -/
lemma of_makeEnvelope {expectedOutputs : Option (List String)} {e : DelegationEnvelope}
    (h : (makeEnvelope env expectedOutputs helper).1 = .ok e) :
    ∃ ctx, e = envelopeFor env helper ctx (orArtifact expectedOutputs) := by
  have hmake : Effect.wp (makeEnvelope env expectedOutputs)
      (fun e _ => ∃ ctx, e = envelopeFor env helper ctx (orArtifact expectedOutputs))
      (fun _ _ => True) helper :=
    wp_doMakeEnvelope (fun _ => trivial) fun ctx _ => ⟨ctx, rfl⟩
  exact hmake.of_ok (Prod.ext h rfl)

/-- `make_envelope_manual` returns the envelope for the context it is given, and leaves the
stored one as it was. -/
lemma makeEnvelopeManual_eq (ctx : HandoffContext) (expectedOutputs : Option (List String)) :
    makeEnvelopeManual env ctx expectedOutputs helper =
      (.ok (envelopeFor env helper ctx (orArtifact expectedOutputs)),
        { helper with
          envelope := some (envelopeFor env helper ctx (orArtifact expectedOutputs)) }) := by
  apply Effect.eq_ok_of_wp
  unfold makeEnvelopeManual
  rw [Effect.wp_bind, Effect.wp_gets, Effect.wp_bind, Effect.wp_modify, Effect.wp_bind,
    Effect.wp_attempt]
  refine wp_doMakeEnvelope (fun h => absurd h (by simp)) fun ctx' h => ?_
  obtain rfl := Option.some.inj h
  rw [Effect.wp_bind, Effect.wp_modify, Effect.wp_ofExcept_ok]
  exact ⟨rfl, rfl⟩

end EAAHandoffHelper

end Waywarden
