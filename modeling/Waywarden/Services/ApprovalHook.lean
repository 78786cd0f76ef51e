import Waywarden.Domain.Manifest
import Waywarden.Services.ApprovalEngine

/-!
# `ApprovalHook`

`waywarden.services.approval_hooks`: read a tool policy for a tool and an action, and turn
`approval-required` into a request of the approval engine whose kind is the tool's id.
-/

namespace Waywarden

/-- `ApprovalHook`: the engine is the store itself, and the registered providers are not read. -/
structure ApprovalHook where
  toolPolicy : ToolPolicy

namespace ApprovalHook

/-- The exception for a forbidden tool. -/
def forbiddenError (toolId action : String) : PyError :=
  ⟨.runtimeError, "tool %:% forbidden by policy", [toolId, action]⟩

/-- `requirements`: whether an approval is required, and twice the reason for it. -/
def requirements (hook : ApprovalHook) (toolId action : String) :
    Except PyError (Bool × Option String × Option String) :=
  match hook.toolPolicy.rules.find? fun rule => rule.covers toolId action with
  | some rule =>
      match rule.decision with
      | .autoAllow => .ok (false, none, none)
      | .forbidden => .error (forbiddenError toolId action)
      | .approvalRequired => .ok (true, rule.reason, rule.reason)
  | none =>
      match hook.toolPolicy.defaultDecision with
      | .autoAllow => .ok (false, none, none)
      | .forbidden => .error (forbiddenError toolId action)
      | .approvalRequired => .ok (true, none, none)

/-- `before_invoke`. -/
def beforeInvoke (hook : ApprovalHook) (env : Env) (runId toolId action summary : String) :
    Session (Option String) := do
  let (approvalRequired, _, _) ← Effect.ofExcept (hook.requirements toolId action)
  if !approvalRequired then
    pure none
  else do
    let approval ← ApprovalEngine.request env runId toolId summary (some toolId) none none
    pure (some approval.id.val)

/-- What `requirements` does is settled by the decision of the policy. -/
lemma requirements_eq (hook : ApprovalHook) (toolId action : String) :
    hook.requirements toolId action =
      match hook.toolPolicy.decision toolId action with
      | .autoAllow => .ok (false, none, none)
      | .forbidden => .error (forbiddenError toolId action)
      | .approvalRequired =>
          .ok (true, (hook.toolPolicy.matching toolId action).bind ToolDecisionRule.reason,
            (hook.toolPolicy.matching toolId action).bind ToolDecisionRule.reason) := by
  rw [requirements, ToolPolicy.decision, ToolPolicy.matching]
  cases hook.toolPolicy.rules.find? fun rule => rule.covers toolId action with
  | none => cases hook.toolPolicy.defaultDecision <;> rfl
  | some rule =>
      simp only [Option.map_some, Option.getD_some, Option.bind_some]

variable {E : PyError → Store → Prop} {s : Store}

/-- **What `before_invoke` does.**  It changes nothing unless the policy's decision is
`approval-required`; then it is a request of kind `tool_id`. -/
lemma wp_beforeInvoke {hook : ApprovalHook} {env : Env} {runId toolId action summary : String}
    {Q : Option String → Store → Prop}
    (hskip : hook.toolPolicy.decision toolId action ≠ .approvalRequired →
      Q none s ∧ ∀ e, E e s)
    (hreq : hook.toolPolicy.decision toolId action = .approvalRequired →
      Effect.wp (ApprovalEngine.request env runId toolId summary (some toolId) none none)
        (fun a => Q (some a.id.val)) E s) :
    Effect.wp (hook.beforeInvoke env runId toolId action summary) Q E s := by
  rw [beforeInvoke, Effect.wp_bind, requirements_eq]
  cases hd : hook.toolPolicy.decision toolId action with
  | autoAllow =>
      simp only [Effect.wp_ofExcept_ok, Bool.not_false, if_true, Effect.wp_pure]
      exact (hskip (by rw [hd]; simp)).1
  | forbidden =>
      rw [Effect.wp_ofExcept]
      exact ⟨fun _ h => absurd h (by simp), fun e _ => (hskip (by rw [hd]; simp)).2 e⟩
  | approvalRequired =>
      simp only [Effect.wp_ofExcept_ok, Bool.not_true, Bool.false_eq_true, if_false,
        Effect.wp_bind]
      exact (hreq hd).mono (fun _ _ h => (Effect.wp_pure _).mpr h) fun _ _ h => h

end ApprovalHook

end Waywarden
