import Waywarden.Lib.Delimited
import Waywarden.Services.ApprovalEngine
import Waywarden.Services.Resume

/-!
# The names of events

The services name their events by a template: `evt-`, the id of a run or of an approval, and a
verb.  The id is any text, dashes included, but no verb is a suffix of another one, so an event's
id determines both the verb and what it is about (`EventName.id_injective`).
-/

namespace Waywarden

/-- What an event's id ends in. -/
inductive EventVerb
  | created
  | resumed
  | resumeBlocked
  | cancelled
  | waiting
  | granted
  | deniedAbandon
  | deniedAlternate
  | timeoutRetry
  | timeout
  deriving DecidableEq, Repr

namespace EventVerb

/-- The verb as the templates spell it. -/
def tag : EventVerb → String
  | .created => "-created"
  | .resumed => "-resumed"
  | .resumeBlocked => "-resume-blocked"
  | .cancelled => "-cancelled"
  | .waiting => "-waiting"
  | .granted => "-granted"
  | .deniedAbandon => "-denied_abandon"
  | .deniedAlternate => "-denied_alternate"
  | .timeoutRetry => "-timeout_retry"
  | .timeout => "-timeout"

/-- All verbs. -/
def all : List EventVerb :=
  [.created, .resumed, .resumeBlocked, .cancelled, .waiting, .granted, .deniedAbandon,
    .deniedAlternate, .timeoutRetry, .timeout]

lemma mem_all (v : EventVerb) : v ∈ all := by
  cases v <;> decide

lemma tag_injective {v w : EventVerb} (h : v.tag = w.tag) : v = w := by
  have distinct : ∀ v ∈ all, ∀ w ∈ all, v.tag = w.tag → v = w := by decide
  exact distinct v (mem_all v) w (mem_all w) h

/-- No verb is a proper suffix of another. -/
lemma suffixFree : Delimited.SuffixFree (all.map fun v => v.tag.toList) := by
  decide

/-- The verb of a decision's event. -/
def ofDecision : ApprovalDecision → EventVerb
  | .granted => .granted
  | .deniedAbandon _ => .deniedAbandon
  | .deniedAlternatePath _ => .deniedAlternate
  | .timeout true => .timeoutRetry
  | .timeout false => .timeout

lemma tag_ofDecision (d : ApprovalDecision) :
    (ofDecision d).tag = ApprovalEngine.decisionTag d := by
  rcases d with _ | _ | _ | retryable
  case timeout => cases retryable <;> rfl
  all_goals rfl

end EventVerb

/-- An event's verb, and the run or approval it is about. -/
structure EventName where
  verb : EventVerb
  key : String
  deriving DecidableEq, Repr

/-- The event id the templates make of a name. -/
def EventName.id (n : EventName) : String := "evt-" ++ n.key ++ n.verb.tag

/-- **An event's id determines its name.** -/
theorem EventName.id_injective : Function.Injective EventName.id := by
  rintro ⟨v, k⟩ ⟨w, l⟩ h
  have hlists := congrArg String.toList h
  simp only [EventName.id, String.toList_append, List.append_assoc] at hlists
  have hrest := List.append_cancel_left hlists
  have hmem : ∀ v : EventVerb, v.tag.toList ∈ EventVerb.all.map fun v => v.tag.toList :=
    fun v => List.mem_map.mpr ⟨v, v.mem_all, rfl⟩
  obtain ⟨hkey, htag⟩ := EventVerb.suffixFree.append_inj (hmem v) (hmem w) hrest
  obtain rfl : k = l := String.toList_inj.mp hkey
  obtain rfl : v = w := EventVerb.tag_injective (String.toList_inj.mp htag)
  rfl

end Waywarden
