import Waywarden.Domain.Task
import Waywarden.Services.RunLifecycle

/-!
# `POST /chat`

`waywarden.api.routes.chat`: the route builds a task and a run under random ids, appends
`run.created` to the log of that run, and answers with the run's id.  Neither record is stored, and
without an event repository nothing is.
-/

namespace Waywarden.Chat

/-- `ChatRequest`, as its schema admits it. -/
structure ChatRequest where
  sessionId : String
  message : String
  manifestRef : Option String := none
  policyPreset : Option String := none
  sessionId_ne : sessionId ≠ "" := by decide
  message_ne : message ≠ "" := by decide

/-- `ChatResponse`. -/
structure ChatResponse where
  runId : String
  streamUrl : String

/-- `_normalize_policy_preset`. -/
def normalizePolicyPreset (value : String) : Except PyError PolicyPreset := do
  let normalized ← requireNonEmptyText value "policy_preset"
  match [PolicyPreset.yolo, .ask, .allowlist, .custom].find? fun p => p.name == normalized.val with
  | some preset => .ok preset
  | none => .error ⟨.valueError,
      "policy_preset must be one of 'yolo', 'ask', 'allowlist', or 'custom'", []⟩

/-- `text[:n]`. -/
def slice (text : String) (n : ℕ) : String := String.ofList (text.toList.take n)

/-- `task_id`. -/
def taskIdOf (env : Env) : String := "task-" ++ slice (env.uuid4 0) 12

/-- `run_id`. -/
def runIdOf (env : Env) : String := "run-" ++ slice (env.uuid4 1) 12

/-- The task and the run `chat` builds, of which only the run is used. -/
def buildRun (env : Env) (body : ChatRequest) : Except PyError Run := do
  let now := env.now 0
  let _ ← Task.new (taskIdOf env) body.sessionId
    (orDefault (some (slice body.message 60)) "untitled message") body.message .draft now now
  let preset ← normalizePolicyPreset (orDefault body.policyPreset "ask")
  Run.new (runIdOf env) "instance-stub" (some (taskIdOf env)) body.sessionId preset
    (orDefault body.manifestRef ("//://" ++ taskIdOf env ++ "/default")) .api .created now now none
    none

/-- The id of the `run.created` event. -/
def createdId (runId : String) : String := "evt-" ++ runId ++ "-created"

/-- The payload of a chat's event has every field `run.created` asks for. -/
lemma createdPayload_ok (run : Run) :
    validatePayload .runCreated [("instance_id", .str run.instanceId),
      ("profile", .str run.profile), ("policy_preset", .str run.policyPreset.name),
      ("manifest_ref", .str run.manifestRef), ("entrypoint", .str run.entrypoint.name)] = true :=
  rfl

/-- The `run.created` event of a chat. -/
def createdEvent (runId : String) (run : Run) (latest : ℕ) (now : Timestamp) : RunEvent where
  id := createdId runId
  runId := runId
  seq := latest + 1
  type := .runCreated
  payload := [("instance_id", .str run.instanceId), ("profile", .str run.profile),
    ("policy_preset", .str run.policyPreset.name), ("manifest_ref", .str run.manifestRef),
    ("entrypoint", .str run.entrypoint.name)]
  timestamp := now
  causation := some (.ofAction "chat_submit")
  actor := some systemActor
  seq_pos := Nat.succ_pos latest
  payload_ok := createdPayload_ok run

/-- `chat`, with an event repository attached or not. -/
def chat (attached : Bool) (env : Env) (operator : String) (body : ChatRequest) :
    Session ChatResponse := do
  if operator = "" then
    Effect.raise ⟨.httpException, "401: missing X-Waywarden-Operator header", []⟩
  else do
    let run ← Effect.ofExcept (buildRun env body)
    if attached then do
      let lastSeq ← RunEventRepository.latestSeq (runIdOf env)
      let _ ← RunEventRepository.append (createdEvent (runIdOf env) run lastSeq (env.now 0))
    pure ⟨runIdOf env, "/api/runs/" ++ runIdOf env ++ "/events?last_seen_seq=0"⟩

/-- **What `chat` does.**  It changes nothing, or it appends its event. -/
lemma wp_chat {attached : Bool} {env : Env} {operator : String} {body : ChatRequest} {s : Store}
    {Q : ChatResponse → Store → Prop} {E : PyError → Store → Prop}
    (herr : ∀ e, operator = "" ∨ (∀ run, buildRun env body ≠ .ok run) ∨
      s.settled (runIdOf env) = true ∨ s.hasEvent (createdId (runIdOf env)) = true → E e s)
    (hoff : ∀ r, attached = false → Q r s)
    (hok : ∀ r run, operator ≠ "" → buildRun env body = .ok run → attached = true →
      s.settled (runIdOf env) = false → s.hasEvent (createdId (runIdOf env)) = false →
      Q r (s.push (s.stamp
        (createdEvent (runIdOf env) run (s.latestSeq (runIdOf env)) (env.now 0))))) :
    Effect.wp (chat attached env operator body) Q E s := by
  unfold chat
  split
  · rename_i hanonymous
    exact (Effect.wp_raise _).mpr (herr _ (Or.inl hanonymous))
  · rename_i hnamed
    rw [Effect.wp_bind, Effect.wp_ofExcept]
    refine ⟨fun run hrun => ?_, fun e he => herr e (Or.inr (Or.inl fun run hrun => ?_))⟩
    · cases attached with
      | false =>
          show Effect.wp (pure _) Q E s
          exact (Effect.wp_pure _).mpr (hoff _ rfl)
      | true =>
          show Effect.wp (do
            let lastSeq ← RunEventRepository.latestSeq (runIdOf env)
            let _ ← RunEventRepository.append (createdEvent (runIdOf env) run lastSeq (env.now 0))
            pure _) Q E s
          rw [Effect.wp_bind, RunEventRepository.latestSeq, Effect.wp_gets, Effect.wp_bind]
          rcases RunEventRepository.append_cases (createdEvent (runIdOf env) run
              (s.latestSeq (runIdOf env)) (env.now 0)) s with
            ⟨hsettled, _, h⟩ | ⟨-, htaken, h⟩ | ⟨hopen, hfree, h⟩
          · rw [Effect.wp_of_error h]
            exact herr _ (Or.inr (Or.inr (Or.inl hsettled)))
          · rw [Effect.wp_of_error h]
            exact herr _ (Or.inr (Or.inr (Or.inr htaken)))
          · rw [Effect.wp_of_ok h, Effect.wp_pure]
            exact hok _ run hnamed hrun rfl hopen hfree
    · exact absurd (he.symm.trans hrun) (by simp)

end Waywarden.Chat
