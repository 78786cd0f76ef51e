import Waywarden.Api.EventFrames
import Waywarden.Cli.Chat

/-!
# The chat command reads the stream the server writes

The encoder of the frames and the reading loop of the command are written apart, and agree: whatever
strings the payloads hold, the loop prints one line for each frame, with the number and the type of
its event, up to the first terminal event, and its exit code is that event's
(`readLoop_frames`).  A frame cannot be split, forged or hidden, since its data is printable ASCII
on one line.
-/

namespace Waywarden.EventFrames

open Json Lines Cli

/-- The exit code of a terminal event type. -/
def exitCodeOf : RunEventType → Option ℕ
  | .runCompleted => some 0
  | .runFailed => some 1
  | .runCancelled => some 2
  | _ => none

/-- The events up to and including the first terminal one. -/
def throughTerminal : List RunEvent → List RunEvent
  | [] => []
  | e :: events => if e.type.isTerminal then [e] else e :: throughTerminal events

/-- The exit code of a stream: the first terminal event's, or the code of an error. -/
def exitCode (events : List RunEvent) : ℕ :=
  ((events.find? fun e => e.type.isTerminal).bind fun e => exitCodeOf e.type).getD 3

/-- The number and the type a line is printed with. -/
def heading (p : Printed) : Json × Json := (p.seq, p.type)

/-- The number and the type of an event. -/
def eventHeading (e : RunEvent) : Json × Json := (.int e.seq, .str e.type.name)

lemma lookup_terminalExitCodes (type : RunEventType) :
    terminalExitCodes.lookup type.name = exitCodeOf type := by
  cases type <;> decide

lemma isTerminal_eq (type : RunEventType) : type.isTerminal = (exitCodeOf type).isSome := by
  cases type <;> rfl

section

variable (str : Value → String)

/-- The members the command reads from a frame. -/
def frameMembers (e : RunEvent) : List (String × Json) :=
  [("seq", .int e.seq), ("type", .str e.type.name),
    ("payload", asDicts (.dict (convertMembers str e.payload))), ("id", .str e.id),
    ("run_id", .str e.runId)]

lemma loads_dataLine (e : RunEvent) :
    loads (String.ofList (dumps false (frameData str e)).toList) =
      some (.dict (frameMembers str e)) := by
  rw [String.ofList_toList]
  exact loads_frameData str e

lemma heading_printed (e : RunEvent) : heading (printed (frameMembers str e)) = eventHeading e := by
  rfl

/-- The loop reads a frame whose event is not terminal and goes on. -/
lemma readLoop_frame {e : RunEvent} (h : exitCodeOf e.type = none) (rest : List Char) :
    readLoop (splitLines ((jsonSseFrame str e).toList ++ rest)) =
      (readLoop (splitLines rest)).cons (printed (frameMembers str e)) := by
  have htype : (printed (frameMembers str e)).type = .str e.type.name := rfl
  rw [splitLines_frame, readLoop_skip (dropPrefix?_idLine e),
    readLoop_event (dropPrefix?_dataLine str e) (loads_dataLine str e) htype
      ((lookup_terminalExitCodes e.type).trans h), readLoop_skip rfl, readLoop_skip rfl]

/-- The loop ends with a frame whose event is terminal. -/
lemma readLoop_terminalFrame {e : RunEvent} {code : ℕ} (h : exitCodeOf e.type = some code)
    (rest : List Char) :
    readLoop (splitLines ((jsonSseFrame str e).toList ++ rest)) =
      ⟨[printed (frameMembers str e)], code⟩ := by
  have htype : (printed (frameMembers str e)).type = .str e.type.name := rfl
  rw [splitLines_frame, readLoop_skip (dropPrefix?_idLine e),
    readLoop_terminal (dropPrefix?_dataLine str e) (loads_dataLine str e) htype
      ((lookup_terminalExitCodes e.type).trans h)]

lemma toList_frames_cons (e : RunEvent) (events : List RunEvent) :
    (frames str (e :: events)).toList =
      (jsonSseFrame str e).toList ++ (frames str events).toList := by
  rw [frames, List.map_cons, String.join_cons, String.toList_append]
  rfl

/-- **The chat command decodes the stream.**  It prints one line for each frame up to the first
terminal event, with its number and its type, and leaves with that event's code. -/
theorem readLoop_frames (events : List RunEvent) :
    (readLoop (splitLines (frames str events).toList)).lines.map heading =
        (throughTerminal events).map eventHeading ∧
      (readLoop (splitLines (frames str events).toList)).exitCode = exitCode events := by
  induction events with
  | nil => exact ⟨rfl, rfl⟩
  | cons e events ih =>
      rw [toList_frames_cons, exitCode, throughTerminal, List.find?_cons, isTerminal_eq]
      cases hcode : exitCodeOf e.type with
      | none =>
          rw [readLoop_frame str hcode]
          refine ⟨?_, ih.2⟩
          rw [Option.isSome_none, if_neg Bool.false_ne_true, List.map_cons, ← ih.1,
            ← heading_printed str e]
          rfl
      | some code =>
          rw [readLoop_terminalFrame str hcode]
          refine ⟨?_, ?_⟩
          · rw [Option.isSome_some, if_pos rfl, List.map_singleton, List.map_singleton,
              heading_printed]
          · simp only [Option.isSome_some, Option.bind_some, hcode, Option.getD_some]

end

end Waywarden.EventFrames
