import Waywarden.Tools.Registry

/-!
# The shell tool

`waywarden.tools.builtin.shell_read`: the provider of the capability `shell`, with `read` for its
only action.  What a command comes to is given: the tool runs it, unless its table has an output for
the command.
-/

namespace Waywarden.ShellReadTool

open ValueText (UnicodeTable reprString)

/-- What running a command comes to. -/
inductive CommandOutcome
  | exited (stdout stderr : String) (returncode : ℤ)
  /-- `FileNotFoundError`. -/
  | notFound
  /-- `TimeoutError`. -/
  | timedOut
  /-- Another exception: the command cannot be run, or its output is no UTF-8. -/
  | raised (e : PyError)

/-- `_extract_command`. -/
def extractCommand (params : Mapping) : Except PyError String :=
  match params.get "command" with
  | none | some .null => .error ⟨.typeError, "missing 'command' parameter", []⟩
  | some (.str command) => .ok command
  | some _ => .error ⟨.typeError, "'command' must be a string", []⟩

/-- `_command_read`. -/
def commandRead (run : String → CommandOutcome) (toolId action command : String) :
    Except PyError ToolResult :=
  match run command with
  | .exited stdout stderr returncode =>
      ToolResult.new toolId action (stdout ++ stderr) (returncode == 0) none
  | .notFound => ToolResult.new toolId action "" false (some ("command not found: " ++ command))
  | .timedOut => ToolResult.new toolId action "" false (some ("command timed out: " ++ command))
  | .raised e => .error e

variable (T : UnicodeTable) (run : String → CommandOutcome)
  (handler : Option (List (String × String)))

/-- `invoke`. -/
def invoke (toolId action : String) (params : Mapping) : Except PyError ToolResult :=
  if toolId ≠ "shell" then
    ToolResult.new toolId action "" false (some ("unknown tool: " ++ reprString T toolId))
  else if action = "read" then do
    let command ← extractCommand params
    match handler.bind fun outputs => outputs.lookup command with
    | some output => ToolResult.new "shell" "read" output true none
    | none => commandRead run toolId action command
  else
    ToolResult.new "shell" action "" false
      (some ("unsupported action for tool 'shell': " ++ reprString T action))

/-- `ShellReadTool`. -/
def provider : ToolProvider where
  capabilities := ["shell"]
  invoke := invoke T run handler
  nodup := List.nodup_singleton _

end Waywarden.ShellReadTool
