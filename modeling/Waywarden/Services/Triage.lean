import Waywarden.Lib.Lowercase
import Waywarden.Services.Scheduler

/-!
# The inbox triage

`waywarden.services.orchestration.triage`: one pass over the items of an inbox.  An item without a
subject is set aside as malformed; any other is classified by the keywords of its subject, answered
with a draft, and sent through the task service to an approval.  A decision given under the item's
subject is applied at once, and an item without one is left waiting.

As with the scheduler, the handler here has its task service.
-/

namespace Waywarden

/-- `InboxItem`. -/
structure InboxItem where
  subject : String
  fromAddress : String
  body : String
  classification : String := "unknown"
  draftedResponse : String := ""
  approved : Bool := false
  deriving DecidableEq, Repr

/-- `TriageResult`. -/
structure TriageResult where
  itemsTriaged : ℕ := 0
  itemsApproved : ℕ := 0
  itemsDenied : ℕ := 0
  itemsMalformed : ℕ := 0
  items : List InboxItem := []
  eventsEmitted : List RunEvent := []

namespace EAIboxTriageHandler

open EATaskService EASchedulerHandler
open Lowercase (CaseTable)

/-- `_CLASSIFIERS`. -/
def classifiers : List (String × String) :=
  [("urgent", "urgent"), ("budget", "financial"), ("meeting", "scheduling"),
    ("request", "information"), ("vendor", "external")]

/-- `_classify`: the category of the first keyword, in the order of the table, that occurs in the
lower-case subject. -/
def classify (T : CaseTable) (subject : String) : String :=
  let lower := T.lower subject.toList
  match classifiers.find? fun entry => entry.1.toList <:+: lower with
  | some (_, category) => category
  | none => "general"

/-- `_draft_response`. -/
def draftResponse (item : InboxItem) : String :=
  "Subject: " ++ item.subject ++ "\nCategory: " ++ item.classification ++
    "\nDraft: Thank you for reaching out about " ++ item.subject ++ ".\nAddressed to: " ++
    item.fromAddress ++ "\n"

/-- The session of the tasks. -/
def triageSession : String := "triage-sess"

/-- The request an item's task is created with. -/
def createRequest (runId : String) (item : InboxItem) : CreateTaskRequest :=
  { sessionId := triageSession, title := "Triage: " ++ item.subject, objective := item.body,
    runId := some runId }

/-- Steps 4 to 6. -/
def submit (env : ℕ → Env) (runId : String) (item : InboxItem) : Session String :=
  submission env (createRequest runId item) runId

/-- The item as steps 2 and 3 leave it. -/
def answer (T : CaseTable) (item : InboxItem) : InboxItem :=
  let item := { item with classification := classify T item.subject }
  { item with draftedResponse := draftResponse item }

/-- The counters after an item with a decision. -/
def count (decision : Option ApprovalDecision) (result : TriageResult) : TriageResult :=
  let result := { result with itemsTriaged := result.itemsTriaged + 1 }
  match decision with
  | some .granted => { result with itemsApproved := result.itemsApproved + 1 }
  | some (.deniedAbandon _) => { result with itemsDenied := result.itemsDenied + 1 }
  | _ => result

/-- `isinstance(decision, Granted)`. -/
def isGranted : Option ApprovalDecision → Bool
  | some .granted => true
  | _ => false

/-- The body of the loop. -/
def triageItem (T : CaseTable) (env : ℕ → Env) (decisions : Decisions) (runId : String)
    (result : TriageResult) (item : InboxItem) : Session TriageResult := do
  if strip item.subject = "" then
    let item := { item with classification := "malformed" }
    pure { result with
      itemsMalformed := result.itemsMalformed + 1, items := result.items ++ [item] }
  else do
    let item := answer T item
    let taskId ← submit env runId item
    let decision := decisions.lookup item.subject
    applyDecision env runId taskId decision
    let item := { item with approved := isGranted decision }
    let result := count decision result
    pure { result with items := result.items ++ [item] }

/-- The loop; the service calls for the item at a place read `env place`. -/
def runFrom (T : CaseTable) (env : ℕ → ℕ → Env) (decisions : Decisions) (runId : String) :
    TriageResult → ℕ → List InboxItem → Session TriageResult
  | result, _, [] => pure result
  | result, idx, item :: items => do
      let result ← triageItem T (env idx) decisions runId result item
      runFrom T env decisions runId result (idx + 1) items

/-- `run`. -/
def run (T : CaseTable) (env : ℕ → ℕ → Env) (items : Option (List InboxItem))
    (decisions : Option Decisions) (runId : String := "ea-triage-run") : Session TriageResult :=
  runFrom T env (decisions.getD []) runId {} 0 (items.getD [])

end EAIboxTriageHandler

end Waywarden
