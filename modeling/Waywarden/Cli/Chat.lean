import Waywarden.Lib.JsonText

/-!
# The chat command

`waywarden.cli.chat`: once it has submitted its message the command reads the run's stream line by
line, prints each event, and leaves with the first terminal one.  `readLoop` is that loop on the
lines it is given; an exception in it ends the command with the code of an error.
-/

namespace Waywarden.Cli

/-- `_TERMINAL_EXIT_CODES`. -/
def terminalExitCodes : List (String × ℕ) :=
  [("run.completed", 0), ("run.failed", 1), ("run.cancelled", 2)]

/-- `_payload_map`. -/
def payloadMap (event : List (String × Json)) : List (String × Json) :=
  match (Json.lookup "payload" event).getD (.dict []) with
  | .dict payload => payload
  | _ => []

/-- `_string_field`. -/
def stringField (mapping : List (String × Json)) (key : String) (default : String := "") : String :=
  match (Json.lookup key mapping).getD (.str default) with
  | .str value => value
  | _ => default

/-- `_format_event`. -/
def formatEvent (event : List (String × Json)) : String :=
  let payload := payloadMap event
  match stringField event "type" "unknown" with
  | "run.created" => "profile=" ++ stringField payload "profile" "?"
  | "run.progress" => stringField payload "phase" "?" ++ "/" ++ stringField payload "milestone" "?"
  | "run.completed" => stringField payload "outcome" "ok"
  | "run.failed" =>
      stringField payload "failure_code" "error" ++ ": " ++ stringField payload "message" ""
  | "run.cancelled" => stringField payload "reason" "unknown"
  | "run.artifact_created" => stringField payload "artifact_kind" "?"
  | "run.plan_ready" => stringField payload "summary" ""
  | "run.execution_started" => stringField payload "worker_session_ref" ""
  | "run.approval_waiting" => stringField payload "approval_kind" ""
  | "run.resumed" => stringField payload "resume_kind" ""
  | _ => ""

/-- A printed line, `[{seq}] {type}: {summary}`. -/
structure Printed where
  seq : Json
  type : Json
  summary : String

/-- The line of an event. -/
def printed (event : List (String × Json)) : Printed where
  seq := (Json.lookup "seq" event).getD (.str "?")
  type := (Json.lookup "type" event).getD (.str "unknown")
  summary := formatEvent event

/-- What the loop leaves: the lines it printed and the exit code. -/
structure Reading where
  lines : List Printed
  exitCode : ℕ

/-- A reading with one more line before it. -/
def Reading.cons (p : Printed) (r : Reading) : Reading := { r with lines := p :: r.lines }

/-- The exit code of an exception, and of a stream without a terminal event. -/
def errorCode : ℕ := 3

/-- The loop over `resp.iter_lines()`. -/
def readLoop : List (List Char) → Reading
  | [] => ⟨[], errorCode⟩
  | line :: lines =>
      match line.dropPrefix? "data: ".toList with
      | none => readLoop lines
      | some text =>
          match Json.loads (String.ofList text) with
          | none => readLoop lines
          | some (.dict event) =>
              let p := printed event
              match p.type with
              | .str type =>
                  match terminalExitCodes.lookup type with
                  | some code => ⟨[p], code⟩
                  | none => (readLoop lines).cons p
              -- a list or a dictionary is no key: `TypeError`
              | .list _ | .dict _ => ⟨[p], errorCode⟩
              | _ => (readLoop lines).cons p
          -- no `get`: `AttributeError`
          | some _ => ⟨[], errorCode⟩

/-! ## One line -/

section

variable {line : List Char} {lines : List (List Char)}

/-- A line without the tag is passed over. -/
lemma readLoop_skip (h : line.dropPrefix? "data: ".toList = none) :
    readLoop (line :: lines) = readLoop lines := by
  rw [readLoop, h]

variable {text : List Char} {event : List (String × Json)} {type : String}

/-- A line with a terminal event ends the loop. -/
lemma readLoop_terminal {code : ℕ} (h : line.dropPrefix? "data: ".toList = some text)
    (hload : Json.loads (String.ofList text) = some (.dict event))
    (htype : (printed event).type = .str type) (hcode : terminalExitCodes.lookup type = some code) :
    readLoop (line :: lines) = ⟨[printed event], code⟩ := by
  simp only [readLoop, h, hload, htype, hcode]

/-- A line with any other event is printed. -/
lemma readLoop_event (h : line.dropPrefix? "data: ".toList = some text)
    (hload : Json.loads (String.ofList text) = some (.dict event))
    (htype : (printed event).type = .str type) (hcode : terminalExitCodes.lookup type = none) :
    readLoop (line :: lines) = (readLoop lines).cons (printed event) := by
  simp only [readLoop, h, hload, htype, hcode]

end

end Waywarden.Cli
