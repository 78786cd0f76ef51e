import Mathlib.Logic.Function.Basic
import Waywarden.Lib.Machine
import Waywarden.Api.RunEvents

/-!
# A client's stream among producers

One client's coroutine, and any number of producers that each append an event and then publish
its run.  The scheduler switches between them at their `await`s and `yield`s only, so a run is a
list of actions, each of which is what one of them does from one such point to the next.
-/

namespace Waywarden.RunEvents

open Machine

/-- The store, the client's stream, the producers between their two steps, and the events whose
`_publish` call has returned. -/
structure Channel (Pid : Type) where
  store : Store
  stream : Stream
  appended : Pid → Option RunEvent
  published : List RunEvent

/-- One step of the stream or a producer, a notification or a write of the `runs` table by
somebody else, or the end of the connection. -/
inductive Action (Pid : Type)
  | resume
  | append (producer : Pid) (event : RunEvent)
  | publish (producer : Pid)
  | notify (runId : String)
  | writeRuns (rows : List RunRow)
  | disconnect

variable {Pid : Type} [DecidableEq Pid]

namespace Channel

/-- A stream just opened, over a log all of whose events were published. -/
def start (store : Store) (runId : String) (lastSeenSeq : ℤ) : Channel Pid :=
  ⟨store, ⟨runId, lastSeenSeq, .opening, [], false, false⟩, fun _ => none, store.log runId⟩

/-- What one action does, and the frame it sends. -/
def act (ch : Channel Pid) : Action Pid → Option RunEvent × Channel Pid
  | .resume => ((ch.stream.resume ch.store).1, { ch with stream := (ch.stream.resume ch.store).2 })
  | .append producer event =>
      match ch.appended producer, RunEventRepository.append event ch.store with
      | none, (.ok stored, store) =>
          (none, { ch with
            store := store
            appended := Function.update ch.appended producer (some stored) })
      | none, (.error _, store) => (none, { ch with store := store })
      | some _, _ => (none, ch)
  | .publish producer =>
      match ch.appended producer with
      | none => (none, ch)
      | some event =>
          (none, { ch with
            stream := ch.stream.notify event.runId
            appended := Function.update ch.appended producer none
            published := ch.published ++ [event] })
  | .notify runId => (none, { ch with stream := ch.stream.notify runId })
  | .writeRuns rows => (none, { ch with store := { ch.store with runs := rows } })
  | .disconnect => (none, { ch with stream := ch.stream.close })

end Channel

/-- The stream and its producers. -/
def channelMachine (Pid : Type) [DecidableEq Pid] :
    Machine (Channel Pid) (Action Pid) (Option RunEvent) :=
  ⟨Channel.act⟩

/-- The stream after being given control a number of times, with nothing else happening. -/
def alone (store : Store) (st : Stream) : ℕ → Stream
  | 0 => st
  | n + 1 => alone store (st.resume store).2 n

/-! ## What the actions do -/

section

variable (ch : Channel Pid)

lemma next_resume : (channelMachine Pid).next ch .resume =
    { ch with stream := (ch.stream.resume ch.store).2 } := rfl

lemma run_resumes (n : ℕ) : (channelMachine Pid).run ch (List.replicate n .resume) =
    { ch with stream := alone ch.store ch.stream n } := by
  induction n generalizing ch with
  | zero => rfl
  | succ n ih =>
      rw [List.replicate_succ, run_cons, ih]
      rfl

/-- A producer appends its event, unless it is not its turn or the repository refuses it. -/
lemma next_append (producer : Pid) (event : RunEvent) :
    (channelMachine Pid).next ch (.append producer event) = ch ∨
    (channelMachine Pid).next ch (.append producer event) =
      { ch with
        store := ch.store.push (ch.store.stamp event)
        appended := Function.update ch.appended producer (some (ch.store.stamp event)) } := by
  have hnext : (channelMachine Pid).next ch (.append producer event) =
      (ch.act (.append producer event)).2 := rfl
  rw [hnext, Channel.act]
  cases ch.appended producer with
  | some held => exact Or.inl rfl
  | none =>
      rcases RunEventRepository.append_cases event ch.store with
        ⟨-, _, h⟩ | ⟨-, -, h⟩ | ⟨-, -, h⟩
      · rw [h]
        exact Or.inl rfl
      · rw [h]
        exact Or.inl rfl
      · rw [h]
        exact Or.inr rfl

/-- A producer that holds an event publishes it. -/
lemma next_publish (producer : Pid) :
    (ch.appended producer = none ∧ (channelMachine Pid).next ch (.publish producer) = ch) ∨
    ∃ event, ch.appended producer = some event ∧
      (channelMachine Pid).next ch (.publish producer) =
        { ch with
          stream := ch.stream.notify event.runId
          appended := Function.update ch.appended producer none
          published := ch.published ++ [event] } := by
  have hnext : (channelMachine Pid).next ch (.publish producer) =
      (ch.act (.publish producer)).2 := rfl
  rw [hnext, Channel.act]
  cases ch.appended producer with
  | none => exact Or.inl ⟨rfl, rfl⟩
  | some event => exact Or.inr ⟨event, rfl, rfl⟩

end

end Waywarden.RunEvents
