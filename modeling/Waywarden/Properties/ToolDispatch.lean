import Waywarden.Tools.ShellRead

/-!
# The tools of a registry

A registry is made exactly when no capability is claimed twice.  It then hands every invocation to
the one provider that claims the tool, accepts a policy exactly when its tools are claimed, and does
both in the same way whatever order the providers came in (`tool_registry`).

The shell tool, invoked through a registry, reports a success for a `read` of a command alone, and
only when the command is in its table or has exited with zero; what it reports rests on no other
command, and on none that the table has (`shell_reads`).
-/

namespace Waywarden

namespace ToolRegistry

variable {providers order : List ToolProvider} {registry registry' : ToolRegistry}
  {provider : ToolProvider} {toolId : String}

/-- Some provider claims the tool. -/
def Claims (providers : List ToolProvider) (toolId : String) : Prop :=
  ∃ provider ∈ providers, toolId ∈ provider.capabilities

lemma exists_new_iff : (∃ registry, new providers = .ok registry) ↔
    (providers.flatMap ToolProvider.capabilities).Nodup := by
  rw [← map_fst_entries]
  constructor
  · rintro ⟨registry, h⟩
    rw [← new_eq_ok_iff.mp h]
    exact registry.keys_nodup
  · intro h
    exact ⟨⟨entries providers, h⟩, new_eq_ok_iff.mpr rfl⟩

lemma mem_claimed_iff (h : new providers = .ok registry) :
    toolId ∈ registry.claimed ↔ Claims providers toolId := by
  unfold claimed
  rw [new_eq_ok_iff.mp h, map_fst_entries, List.mem_flatMap]
  rfl

/-- The provider of a tool is one that claims it. -/
lemma provider?_of_mem (h : new providers = .ok registry) (hprovider : provider ∈ providers)
    (hclaims : toolId ∈ provider.capabilities) : registry.provider? toolId = some provider := by
  have hmem : (toolId, provider) ∈ registry.providers := by
    rw [new_eq_ok_iff.mp h]
    exact mem_entries.mpr ⟨hprovider, hclaims⟩
  have hget : KeyedTable.get Prod.fst toolId registry.providers = some (toolId, provider) :=
    KeyedTable.get_of_mem registry.keys_nodup hmem
  unfold provider?
  rw [hget]
  rfl

/-- A tool that nobody claims has none. -/
lemma provider?_of_not_claims (h : new providers = .ok registry)
    (hnone : ¬ Claims providers toolId) : registry.provider? toolId = none := by
  unfold provider?
  rcases hget : KeyedTable.get Prod.fst toolId registry.providers with _ | item
  · rfl
  · refine absurd ((mem_claimed_iff h).mp ?_) hnone
    rw [← KeyedTable.key_of_get hget]
    exact List.mem_map_of_mem (KeyedTable.mem_of_get hget)

lemma validateAgainstPolicy_eq_ok_iff {policy : ToolPolicy} :
    registry.validateAgainstPolicy policy = .ok () ↔
      ∀ rule ∈ policy.rules, rule.tool ∈ registry.claimed := by
  unfold validateAgainstPolicy
  rcases hfind : policy.rules.find? fun rule => rule.tool ∉ registry.claimed with _ | rule
  · rw [hfind]
    refine iff_of_true rfl fun rule hrule => ?_
    simpa using List.find?_eq_none.mp hfind rule hrule
  · rw [hfind]
    refine iff_of_false (by simp) fun h => ?_
    have huncovered := List.find?_some hfind
    rw [decide_eq_true_eq] at huncovered
    exact huncovered (h rule (List.mem_of_find?_eq_some hfind))

/-! ## The order of the providers -/

/-- Another order gives a registry with the same entries. -/
lemma exists_new_of_perm (h : new providers = .ok registry) (hperm : order.Perm providers) :
    ∃ registry', new order = .ok registry' ∧ registry'.providers.Perm registry.providers := by
  have hentries : (entries order).Perm registry.providers := by
    rw [new_eq_ok_iff.mp h]
    exact hperm.flatMap_right _
  have hnodup : ((entries order).map Prod.fst).Nodup :=
    (hentries.map Prod.fst).nodup_iff.mpr registry.keys_nodup
  exact ⟨⟨entries order, hnodup⟩, new_eq_ok_iff.mpr rfl, hentries⟩

lemma invoke_of_perm (h : registry'.providers.Perm registry.providers) :
    registry'.invoke = registry.invoke := by
  funext toolId action params
  unfold invoke provider?
  rw [KeyedTable.get_of_perm h registry.keys_nodup]

lemma validateAgainstPolicy_of_perm (h : registry'.providers.Perm registry.providers) :
    registry'.validateAgainstPolicy = registry.validateAgainstPolicy := by
  have hclaimed : ∀ tool, tool ∈ registry'.claimed ↔ tool ∈ registry.claimed :=
    fun tool => (h.map Prod.fst).mem_iff
  funext policy
  unfold validateAgainstPolicy
  simp only [hclaimed]

/-- **The tool registry.**  It is made exactly when no capability is claimed twice.  Then a tool is
handed to whoever claims it, a tool that nobody claims is unknown, a policy passes exactly when all
its tools are claimed, and every order of the providers makes a registry that does the same. -/
theorem tool_registry (providers : List ToolProvider) :
    ((∃ registry, new providers = .ok registry) ↔
      (providers.flatMap ToolProvider.capabilities).Nodup) ∧
    ∀ registry, new providers = .ok registry →
      (∀ toolId action params,
        (∀ provider ∈ providers, toolId ∈ provider.capabilities →
          registry.invoke toolId action params =
            (provider.invoke toolId action (params.getD [])).mapError .raised) ∧
        (¬ Claims providers toolId →
          registry.invoke toolId action params = .error (.unknown toolId))) ∧
      (∀ policy, registry.validateAgainstPolicy policy = .ok () ↔
        ∀ rule ∈ policy.rules, Claims providers rule.tool) ∧
      ∀ order, order.Perm providers → ∃ registry', new order = .ok registry' ∧
        registry'.invoke = registry.invoke ∧
        registry'.validateAgainstPolicy = registry.validateAgainstPolicy := by
  refine ⟨exists_new_iff, fun registry h => ⟨fun toolId action params =>
    ⟨fun provider hprovider hclaims => ?_, fun hnone => ?_⟩, fun policy => ?_,
    fun order hperm => ?_⟩⟩
  · unfold invoke
    rw [provider?_of_mem h hprovider hclaims]
  · unfold invoke
    rw [provider?_of_not_claims h hnone]
  · rw [validateAgainstPolicy_eq_ok_iff]
    simp only [mem_claimed_iff h]
  · obtain ⟨registry', hnew, hsame⟩ := exists_new_of_perm h hperm
    exact ⟨registry', hnew, invoke_of_perm hsame, validateAgainstPolicy_of_perm hsame⟩

end ToolRegistry

/-! ## The shell tool -/

/-- A result has what it was made of. -/
lemma ToolResult.of_new {toolId action output : String} {success : Bool} {error : Option String}
    {result : ToolResult} (h : ToolResult.new toolId action output success error = .ok result) :
    result.toolId = toolId ∧ result.action = action ∧ result.output = output ∧
      result.success = success := by
  unfold ToolResult.new at h
  by_cases htool : strip toolId = ""
  · rw [dif_pos htool] at h
    exact absurd h (by simp)
  · by_cases haction : strip action = ""
    · rw [dif_neg htool, dif_pos haction] at h
      exact absurd h (by simp)
    · rw [dif_neg htool, dif_neg haction] at h
      obtain rfl := Except.ok.inj h
      exact ⟨rfl, rfl, rfl, rfl⟩

namespace ShellReadTool

open ValueText (UnicodeTable)

variable {T : UnicodeTable} {run run' : String → CommandOutcome}
  {handler : Option (List (String × String))} {toolId action command : String} {params : Mapping}
  {result : ToolResult}

/-- The output of a command that succeeds: that of the table, and else what a run that exits with
zero has written. -/
def Gives (run : String → CommandOutcome) (handler : Option (List (String × String)))
    (command output : String) : Prop :=
  match handler.bind fun outputs => outputs.lookup command with
  | some expected => output = expected
  | none => ∃ stdout stderr, run command = .exited stdout stderr 0 ∧ output = stdout ++ stderr

/-- The command an invocation has to run: the one that is to be read, unless the table has it. -/
def HasToRun (handler : Option (List (String × String))) (action : String) (params : Mapping)
    (command : String) : Prop :=
  action = "read" ∧ params.get "command" = some (.str command) ∧
    (handler.bind fun outputs => outputs.lookup command) = none

lemma extractCommand_eq_ok_iff :
    extractCommand params = .ok command ↔ params.get "command" = some (.str command) := by
  unfold extractCommand
  rcases params.get "command" with _ | value
  · exact iff_of_false (by simp) (by simp)
  · cases value <;> simp

lemma commandRead_spec (h : commandRead run toolId action command = .ok result) :
    result.toolId = toolId ∧ result.action = action ∧ (result.success = true ↔
      ∃ stdout stderr, run command = .exited stdout stderr 0 ∧
        result.output = stdout ++ stderr) := by
  unfold commandRead at h
  cases hrun : run command with
  | exited stdout stderr returncode =>
      rw [hrun] at h
      obtain ⟨htool, haction, houtput, hsuccess⟩ := ToolResult.of_new h
      refine ⟨htool, haction, ?_⟩
      rw [hsuccess, houtput, beq_iff_eq]
      constructor
      · rintro rfl
        exact ⟨stdout, stderr, rfl, rfl⟩
      · rintro ⟨_, _, hexited, -⟩
        exact (CommandOutcome.exited.inj hexited).2.2
  | notFound =>
      rw [hrun] at h
      obtain ⟨htool, haction, -, hsuccess⟩ := ToolResult.of_new h
      exact ⟨htool, haction, by rw [hsuccess]; simp⟩
  | timedOut =>
      rw [hrun] at h
      obtain ⟨htool, haction, -, hsuccess⟩ := ToolResult.of_new h
      exact ⟨htool, haction, by rw [hsuccess]; simp⟩
  | raised e =>
      rw [hrun] at h
      exact absurd h (by simp)

lemma invoke_shell_spec (h : invoke T run handler "shell" action params = .ok result) :
    result.toolId = "shell" ∧ result.action = action ∧ (result.success = true ↔
      action = "read" ∧ ∃ command, params.get "command" = some (.str command) ∧
        Gives run handler command result.output) := by
  unfold invoke at h
  rw [if_neg (not_not.mpr rfl)] at h
  by_cases hread : action = "read"
  · rw [if_pos hread] at h
    obtain ⟨command, hcommand, hresult⟩ := Effect.except_bind_eq_ok.mp h
    have hparams := extractCommand_eq_ok_iff.mp hcommand
    have hgives : (result.success = true ↔ Gives run handler command result.output) ∧
        result.toolId = "shell" ∧ result.action = action := by
      unfold Gives
      rcases hbind : handler.bind fun outputs => outputs.lookup command with _ | expected
      · rw [hbind] at hresult
        obtain ⟨htool, haction, hsuccess⟩ := commandRead_spec hresult
        exact ⟨hsuccess, htool, haction⟩
      · rw [hbind] at hresult
        obtain ⟨htool, haction, houtput, hsuccess⟩ := ToolResult.of_new hresult
        exact ⟨iff_of_true hsuccess houtput, htool, haction.trans hread.symm⟩
    refine ⟨hgives.2.1, hgives.2.2, hgives.1.trans ⟨fun houtput => ⟨hread, command, hparams,
      houtput⟩, ?_⟩⟩
    rintro ⟨-, other, hother, houtput⟩
    obtain rfl := Value.str.inj (Option.some.inj (hparams.symm.trans hother))
    exact houtput
  · rw [if_neg hread] at h
    obtain ⟨htool, haction, -, hsuccess⟩ := ToolResult.of_new h
    exact ⟨htool, haction, iff_of_false (by rw [hsuccess]; simp) fun hsucceeds =>
      hread hsucceeds.1⟩

/-- **No other command is run**: what the others come to changes nothing. -/
lemma invoke_shell_congr
    (h : ∀ command, HasToRun handler action params command → run' command = run command) :
    invoke T run' handler "shell" action params = invoke T run handler "shell" action params := by
  unfold invoke
  rw [if_neg (not_not.mpr rfl), if_neg (not_not.mpr rfl)]
  by_cases hread : action = "read"
  · rw [if_pos hread, if_pos hread]
    rcases hextract : extractCommand params with e | command
    · rfl
    · simp only [bind, Except.bind]
      rcases hbind : handler.bind fun outputs => outputs.lookup command with _ | expected
      · have hparams := extractCommand_eq_ok_iff.mp hextract
        have hrun : run' command = run command := h command ⟨hread, hparams, hbind⟩
        unfold commandRead
        rw [hrun]
      · rfl
  · rw [if_neg hread, if_neg hread]

end ShellReadTool

/-- The shell tool of a registry is the one the registry hands the invocation to. -/
lemma ToolRegistry.invoke_shell {T : ValueText.UnicodeTable}
    {run : String → ShellReadTool.CommandOutcome} {handler : Option (List (String × String))}
    {providers : List ToolProvider} {registry : ToolRegistry}
    (hnew : ToolRegistry.new providers = .ok registry)
    (hshell : ShellReadTool.provider T run handler ∈ providers) (action : String)
    (params : Option Mapping) :
    registry.invoke "shell" action params =
      (ShellReadTool.invoke T run handler "shell" action (params.getD [])).mapError .raised := by
  unfold ToolRegistry.invoke
  rw [ToolRegistry.provider?_of_mem hnew hshell List.mem_cons_self]
  rfl

/-- **What the shell tool reports.**  Invoked through a registry, a result is about the tool and the
action that were asked for; it is a success exactly when the action is `read` and the command is in
the table, with this output, or has exited with zero and written it.  Any other registry with a
shell tool of the same table gives the same result, if the command comes to the same or is in the
table. -/
theorem shell_reads {T : ValueText.UnicodeTable} {run : String → ShellReadTool.CommandOutcome}
    {handler : Option (List (String × String))} {providers : List ToolProvider}
    {registry : ToolRegistry} (hnew : ToolRegistry.new providers = .ok registry)
    (hshell : ShellReadTool.provider T run handler ∈ providers) {action : String}
    {params : Option Mapping} {result : ToolResult}
    (h : registry.invoke "shell" action params = .ok result) :
    result.toolId = "shell" ∧ result.action = action ∧ (result.success = true ↔
      action = "read" ∧ ∃ command, (params.getD []).get "command" = some (.str command) ∧
        ShellReadTool.Gives run handler command result.output) ∧
    ∀ run' others registry', ToolRegistry.new others = .ok registry' →
      ShellReadTool.provider T run' handler ∈ others →
      (∀ command, ShellReadTool.HasToRun handler action (params.getD []) command →
        run' command = run command) →
      registry'.invoke "shell" action params = .ok result := by
  rw [ToolRegistry.invoke_shell hnew hshell] at h
  have hreports : ∃ found, ShellReadTool.invoke T run handler "shell" action (params.getD []) =
      .ok found ∧ found = result := by
    rcases hcall : ShellReadTool.invoke T run handler "shell" action (params.getD []) with e | found
    · rw [hcall] at h
      exact absurd h (by simp [Except.mapError])
    · rw [hcall] at h
      exact ⟨found, rfl, Except.ok.inj h⟩
  obtain ⟨_, hcall, rfl⟩ := hreports
  obtain ⟨htool, haction, hsuccess⟩ := ShellReadTool.invoke_shell_spec hcall
  refine ⟨htool, haction, hsuccess, fun run' others registry' hothers hmem hsame => ?_⟩
  rw [ToolRegistry.invoke_shell hothers hmem, ShellReadTool.invoke_shell_congr hsame, h]

/-- A shell tool with one command in its table, for given outcomes of the others. -/
def listingTool (run : String → ShellReadTool.CommandOutcome) : ToolProvider :=
  ShellReadTool.provider ⟨IntText.asciiDigits, fun _ => false⟩ run (some [("ls", "README.md")])

/-- The parameters of the command. -/
def listing : Mapping := [("command", .str "ls")]

/-- Its table answers, also when no command can be run. -/
theorem shell_reads_table : ∃ registry result,
    ToolRegistry.new [listingTool fun _ => .notFound] = .ok registry ∧
    registry.invoke "shell" "read" (some listing) = .ok result ∧
    result.toolId = "shell" ∧ result.action = "read" ∧ result.success = true ∧
    ∀ registry', ToolRegistry.new [listingTool fun _ => .timedOut] = .ok registry' →
      registry'.invoke "shell" "read" (some listing) = .ok result := by
  obtain ⟨registry, hnew⟩ := ToolRegistry.exists_new_iff.mpr
    (show ([listingTool fun _ => .notFound].flatMap ToolProvider.capabilities).Nodup from
      List.nodup_singleton _)
  obtain ⟨result, hresult, houtput⟩ : ∃ result,
      ToolResult.new "shell" "read" "README.md" true none = .ok result ∧
        result.output = "README.md" := by
    refine ⟨⟨"shell", "read", "README.md", true, none, by decide +kernel, by decide +kernel⟩, ?_,
      rfl⟩
    unfold ToolResult.new
    rw [dif_neg, dif_neg]
  have hmem : (listingTool fun _ => .notFound) ∈ [listingTool fun _ => .notFound] :=
    List.mem_cons_self
  have h : registry.invoke "shell" "read" (some listing) = .ok result := by
    rw [ToolRegistry.invoke_shell hnew hmem]
    exact congrArg (Except.mapError ToolFailure.raised) hresult
  obtain ⟨htool, haction, hsuccess, hsame⟩ := shell_reads hnew hmem h
  refine ⟨registry, result, hnew, h, htool, haction, hsuccess.mpr ⟨rfl, "ls", rfl, houtput⟩, ?_⟩
  intro registry' hnew'
  refine hsame _ _ registry' hnew' List.mem_cons_self fun command hruns => ?_
  obtain ⟨-, hcommand, hnone⟩ := hruns
  obtain rfl : "ls" = command := Value.str.inj (Option.some.inj hcommand)
  exact absurd hnone (by decide)

end Waywarden
