import Mathlib.Tactic.Common

/-!
# The milestone catalog

`waywarden.services.orchestration.milestones`: the phase and milestone pairs a `run.progress`
event may carry, and the membership test its emitters run.
-/

namespace Waywarden

/-- `MILESTONE_CATALOG`, without its descriptions. -/
def milestoneCatalog : List (String × String) :=
  [("intake", "received"), ("intake", "accepted"),
    ("plan", "drafted"), ("plan", "approval_requested"), ("plan", "ready"),
    ("plan", "revision_cataloged"),
    ("execute", "tool_invoked"), ("execute", "artifact_emitted"), ("execute", "waiting_approval"),
    ("review", "findings_recorded"),
    ("handoff", "envelope_emitted"), ("handoff", "sub_agent_registered"),
    ("handoff", "sub_agent_started"), ("handoff", "sub_agent_completed"),
    ("handoff", "team_started"), ("handoff", "team_completed"), ("handoff", "team_blocked"),
    ("code", "iteration_started"), ("code", "plan_drafted"), ("code", "plan_approved"),
    ("code", "changes_applied"), ("code", "check_passed"), ("code", "check_failed"),
    ("code", "plan_revised"), ("code", "iteration_complete"), ("code", "loop_escalated"),
    ("code", "terminal")]

/-- `is_valid_milestone`. -/
def isValidMilestone (phase milestone : String) : Bool :=
  milestoneCatalog.contains (phase, milestone)

end Waywarden
