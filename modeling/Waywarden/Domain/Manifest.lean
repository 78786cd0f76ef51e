import Mathlib.Data.Int.Notation
import Mathlib.Data.Nat.Notation
import Waywarden.Domain.Run

/-!
# Workspace manifests

`waywarden.domain.manifest`: the RT-001 manifest and its parts.  The source's dataclasses check
nothing, so strings and integers are unconstrained here; the preset of a tool policy is the
`PolicyPreset` of a run, which has the same four values.
-/

namespace Waywarden

/-- `InputKind`. -/
inductive InputKind
  | file
  | directory
  | artifact
  | bundle
  | memoryExport
  | knowledgeExport
  deriving DecidableEq, Repr

/-- The kind as the source spells it. -/
def InputKind.name : InputKind → String
  | .file => "file"
  | .directory => "directory"
  | .artifact => "artifact"
  | .bundle => "bundle"
  | .memoryExport => "memory-export"
  | .knowledgeExport => "knowledge-export"

/-- `InputMount`. -/
structure InputMount where
  name : String
  kind : InputKind
  sourceRef : String
  targetPath : String
  readOnly : Bool := true
  required : Bool := true
  description : Option String := none
  deriving DecidableEq, Repr

/-- `WritablePurpose`. -/
inductive WritablePurpose
  | taskScratch
  | declaredOutput
  | cache
  | checkoutCopy
  deriving DecidableEq, Repr

/-- The purpose as the source spells it. -/
def WritablePurpose.name : WritablePurpose → String
  | .taskScratch => "task-scratch"
  | .declaredOutput => "declared-output"
  | .cache => "cache"
  | .checkoutCopy => "checkout-copy"

/-- `Retention`. -/
inductive Retention
  | ephemeral
  | runRetained
  | artifactPromoted
  deriving DecidableEq, Repr

/-- The retention as the source spells it. -/
def Retention.name : Retention → String
  | .ephemeral => "ephemeral"
  | .runRetained => "run-retained"
  | .artifactPromoted => "artifact-promoted"

/-- `WritablePath`. -/
structure WritablePath where
  path : String
  purpose : WritablePurpose
  maxSizeMb : Option ℤ := none
  retention : Option Retention := none
  deriving DecidableEq, Repr

/-- `OutputKind`. -/
inductive OutputKind
  | file
  | directory
  | json
  | log
  | patchSet
  | report
  deriving DecidableEq, Repr

/-- The kind as the source spells it. -/
def OutputKind.name : OutputKind → String
  | .file => "file"
  | .directory => "directory"
  | .json => "json"
  | .log => "log"
  | .patchSet => "patch-set"
  | .report => "report"

/-- `OutputContract`. -/
structure OutputContract where
  name : String
  path : String
  kind : OutputKind
  required : Bool
  promoteToArtifact : Bool := true
  description : Option String := none
  deriving DecidableEq, Repr

/-- `NetworkMode`. -/
inductive NetworkMode
  | deny
  | allowlist
  | profileDefault
  deriving DecidableEq, Repr

/-- The mode as the source spells it. -/
def NetworkMode.name : NetworkMode → String
  | .deny => "deny"
  | .allowlist => "allowlist"
  | .profileDefault => "profile-default"

/-- `NetworkScheme`. -/
inductive NetworkScheme
  | https
  | http
  | ssh
  | tcp
  deriving DecidableEq, Repr

/-- The scheme as the source spells it. -/
def NetworkScheme.name : NetworkScheme → String
  | .https => "https"
  | .http => "http"
  | .ssh => "ssh"
  | .tcp => "tcp"

/-- `NetworkAllowRule`. -/
structure NetworkAllowRule where
  hostPattern : String
  purpose : String
  port : Option ℤ := none
  scheme : Option NetworkScheme := none
  deriving DecidableEq, Repr

/-- `NetworkPolicy`. -/
structure NetworkPolicy where
  mode : NetworkMode
  allow : List NetworkAllowRule
  deny : List String
  deriving DecidableEq, Repr

/-- `ToolDecision`. -/
inductive ToolDecision
  | autoAllow
  | approvalRequired
  | forbidden
  deriving DecidableEq, Repr

/-- The decision as the source spells it. -/
def ToolDecision.name : ToolDecision → String
  | .autoAllow => "auto-allow"
  | .approvalRequired => "approval-required"
  | .forbidden => "forbidden"

/-- `ToolDecisionRule`. -/
structure ToolDecisionRule where
  tool : String
  action : Option String := none
  decision : ToolDecision := .approvalRequired
  reason : Option String := none
  deriving DecidableEq, Repr

/-- `ToolPolicy`. -/
structure ToolPolicy where
  preset : PolicyPreset
  rules : List ToolDecisionRule
  defaultDecision : ToolDecision := .approvalRequired
  deriving DecidableEq, Repr

/-- `SecretMode`. -/
inductive SecretMode
  | none
  | brokered
  | envMounted
  deriving DecidableEq, Repr

/-- The mode as the source spells it. -/
def SecretMode.name : SecretMode → String
  | .none => "none"
  | .brokered => "brokered"
  | .envMounted => "env-mounted"

/-- `RedactionLevel`. -/
inductive RedactionLevel
  | full
  | namesOnly
  | none
  deriving DecidableEq, Repr

/-- The level as the source spells it. -/
def RedactionLevel.name : RedactionLevel → String
  | .full => "full"
  | .namesOnly => "names-only"
  | .none => "none"

/-- `SecretScope`. -/
structure SecretScope where
  mode : SecretMode
  allowedSecretRefs : List String
  mountEnv : List String
  redactionLevel : RedactionLevel := .full
  deriving DecidableEq, Repr

/-- `SnapshotPolicy`. -/
structure SnapshotPolicy where
  onStart : Bool := false
  onCompletion : Bool := true
  onFailure : Bool := true
  beforeDestructiveActions : Bool := true
  maxSnapshots : Option ℤ := none
  includePaths : List String := []
  excludePaths : List String := []
  deriving DecidableEq, Repr

/-- `WorkspaceManifest`. -/
structure WorkspaceManifest where
  runId : String
  inputs : List InputMount
  writablePaths : List WritablePath
  outputs : List OutputContract
  networkPolicy : NetworkPolicy
  toolPolicy : ToolPolicy
  secretScope : SecretScope
  snapshotPolicy : SnapshotPolicy
  deriving DecidableEq, Repr

/-! ## Decisions of a tool policy -/

/-- Whether a rule is about a tool and an action: its action is unset or the one asked for. -/
def ToolDecisionRule.covers (rule : ToolDecisionRule) (tool action : String) : Bool :=
  rule.tool == tool && rule.action.all (· == action)

/-- The first rule about a tool and an action. -/
def ToolPolicy.matching (policy : ToolPolicy) (tool action : String) : Option ToolDecisionRule :=
  policy.rules.find? fun rule => rule.covers tool action

/-- The decision for a tool and an action: that of the first matching rule, else the default. -/
def ToolPolicy.decision (policy : ToolPolicy) (tool action : String) : ToolDecision :=
  ((policy.matching tool action).map ToolDecisionRule.decision).getD policy.defaultDecision

end Waywarden
