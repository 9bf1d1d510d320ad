import ScriptRunner.Proofs.CommandLine.Endings

/-! The words behind the script on a command line. Main statement: they are the script's own, whatever they look
like: the script is handed just them, and they have no part in how it is run. -/

namespace ScriptRunner

/-- The shell that the commands of a script are run through. -/
def Settings.commandShell (s : Settings) : Shell :=
  ⟨s.shell.toText, s.commandPrefix.toText, s.quiet.isTruthy⟩

namespace CommandLine

variable {kit : Toolkit} {host : Host} {options : List RunOption} {word : String} {front rest : List String}
  {s : Settings}

/-- An option that changes how a script is run, and that asks for a level only if there is one of that name. -/
def RunOption.IsSetting (kit : Toolkit) : RunOption → Prop
  | .quiet | .shell _ | .commandPrefix _ => True
  | .logLevel name => kit.choose? LogLevel.names name ≠ none
  | .version | .help => False

/-- The ways to write options and the script behind them: a word that is no option, or any word behind two
dashes. -/
inductive Introduces (options : List RunOption) (word : String) : List String → Prop where
  | plain {spellings : List (List String)} (h : List.Forall₂ (Spelled runOptions) options spellings)
      (hword : IsPlain word) : Introduces options word (spellings.flatten ++ [word])
  | dashed {spellings : List (List String)} (h : List.Forall₂ (Spelled runOptions) options spellings) :
      Introduces options word (spellings.flatten ++ ["--", word])

/-- Options are read one after the other, up to what the rest reads as. -/
theorem Toolkit.ReadsOptions.parse_flatten {α : Type} {specs : List (OptionSpec α)}
    (hkit : kit.ReadsOptions specs) {options : List α} {spellings : List (List String)} {args : List String}
    {p : Parsed α} (h : List.Forall₂ (Spelled specs) options spellings)
    (hrest : kit.parse specs false args = .ok p) :
    kit.parse specs false (spellings.flatten ++ args) = .ok (p.addOptions options) := by
  induction h with
  | nil => exact hrest
  | cons hs _ ih =>
      rw [List.flatten_cons, List.append_assoc]
      exact hkit.spelled hs ih

/-- The words behind the script are read as words. -/
theorem parse_of_introduces (hkit : kit.ReadsOptions runOptions) (h : Introduces options word front)
    (rest : List String) :
    kit.parse runOptions false (front ++ rest) = .ok ⟨options, word :: rest⟩ := by
  rw [← List.append_nil options]
  cases h with
  | plain h hword =>
      rw [List.append_assoc]
      exact hkit.parse_flatten h (hkit.plain hword rest)
  | dashed h =>
      rw [List.append_assoc]
      exact hkit.parse_flatten h (hkit.dashes (word :: rest))

theorem askForRun_of_isSetting (h : ∀ o ∈ options, o.IsSetting kit) : AskForRun options :=
  ⟨fun ho => h _ ho, fun ho => h _ ho⟩

theorem levelKnown_of_isSetting (h : ∀ o ∈ options, o.IsSetting kit) : LevelKnown kit options := by
  intro name hname
  obtain ⟨o, ho, hlevel⟩ := List.exists_of_findSome?_eq_some hname
  have hsetting := h o (List.mem_reverse.mp ho)
  cases o with
  | logLevel name' =>
      cases hlevel
      exact hsetting
  | version | help | quiet | shell _ | commandPrefix _ => cases hlevel

/-! ## The run -/

theorem lacksScript_cons_iff (rest : List String) :
    LacksScript host (word :: rest) ↔
      word = inputWord ∧ (host.input = .terminal ∨ host.input = .piped []) := by
  constructor
  · intro h
    exact ⟨h.word_eq word rfl, h.input_eq⟩
  · rintro ⟨rfl, hinput⟩
    exact ⟨fun word hword => (Option.some.inj hword).symm, hinput⟩

theorem ofFailure_cases (f : Failure) :
    Ending.ofFailure f = .reported f ∨ Ending.ofFailure f = .raised f := by
  unfold Ending.ofFailure
  by_cases hf : f.isReported <;> simp [hf]

/-- An outcome is no complaint about the command line and no answer to it. -/
theorem ofOutcome_ne (outcome : Except Failure Value) :
    (∀ fault, Ending.ofOutcome outcome ≠ .misused fault) ∧
      (∀ text, Ending.ofOutcome outcome ≠ .answered text) ∧
      ∀ asked, Ending.ofOutcome outcome ≠ .helped asked := by
  cases outcome with
  | ok v => simp [Ending.ofOutcome]
  | error f =>
      rw [Ending.ofOutcome]
      rcases ofFailure_cases f with h | h <;> simp [h]

/-- A run of a script ends in an outcome, or else shows the help because there is no script. -/
theorem ending_of_runsWords {args words : List String} (h : RunsWords host args s words) (hub : LogHub)
    (m : Machine) :
    (¬ LacksScript host words ∧
        ∃ outcome : Except Failure Value, (run host args hub m).1 = .ofOutcome outcome) ∨
      LacksScript host words ∧ (run host args hub m).1 = .helped false := by
  rw [h.run_eq, ← scriptSource_eq_ok_none_iff (m := m)]
  unfold runWords
  cases scriptSource host words.head? m with
  | error f => exact .inl ⟨nofun, .error f, rfl⟩
  | ok source =>
      cases source with
      | none => exact .inr ⟨rfl, rfl⟩
      | some source => exact .inl ⟨nofun, _, rfl⟩

/-- A run calls the loader once, with the words behind the script, or not at all. -/
theorem calls_of_runsWords {args words : List String} (h : RunsWords host args s words) (hub : LogHub)
    (m : Machine) :
    (run host args hub m).2.2.calls = m.calls ∨
      ∃ call, (run host args hub m).2.2.calls = m.calls ++ [call] ∧ call.argv = words.tail ∧
        call.shell = s.commandShell := by
  rw [h.run_eq]
  unfold runWords
  cases hread : scriptSource host words.head? m with
  | error f => exact .inl rfl
  | ok source =>
      cases source with
      | none => exact .inl rfl
      | some source =>
          rcases Resolver.resolve_cases (lookup_resolver host s words.tail) source m with
            ⟨f, -, hcalls⟩ | ⟨call, hcalls, hcall⟩
          · exact .inl hcalls
          · exact .inr ⟨call, hcalls, hcall.argv_eq, hcall.shell_eq⟩

/-- The words behind the script are handed to it in order, all of them and no others. They take no part in
anything else: not in the settings and the shell that the script is run with, not in the level that is logged
at, and not in whether something is wrong with the command line or the help is shown. -/
theorem arguments_pass_through (hkit : host.kit.ReadsOptions runOptions)
    (henv : Settings.ofEnvironment host.environment = .ok s)
    (hoptions : ∀ o ∈ options, o.IsSetting host.kit) (hfront : Introduces options word front)
    (rest : List String) (hub : LogHub) (m : Machine) :
    RunsWords host (front ++ rest) (applyAll host.kit options s) (word :: rest) ∧
    ((run host (front ++ rest) hub m).2.2.calls = m.calls ∨
      ∃ call, (run host (front ++ rest) hub m).2.2.calls = m.calls ++ [call] ∧ call.argv = rest ∧
        call.shell = (applyAll host.kit options s).commandShell) ∧
    (run host (front ++ rest) hub m).2.1 = (hub.configure (applyAll host.kit options s).loggingLevel).1 ∧
    (∀ fault, (run host (front ++ rest) hub m).1 ≠ .misused fault) ∧
    (∀ text, (run host (front ++ rest) hub m).1 ≠ .answered text) ∧
    ∀ asked, (run host (front ++ rest) hub m).1 = .helped asked ↔
      asked = false ∧ word = inputWord ∧ (host.input = .terminal ∨ host.input = .piped []) := by
  have hruns := runsWords_of_parse (parse_of_introduces hkit hfront rest) (askForRun_of_isSetting hoptions)
    (levelKnown_of_isSetting hoptions) henv
  refine ⟨hruns, calls_of_runsWords hruns hub m, by rw [hruns.run_eq], ?_⟩
  rw [← lacksScript_cons_iff rest]
  rcases ending_of_runsWords hruns hub m with ⟨hscript, outcome, hending⟩ | ⟨hlacks, hending⟩
  · obtain ⟨hmisused, hanswered, hhelped⟩ := ofOutcome_ne outcome
    rw [hending]
    exact ⟨hmisused, hanswered, fun asked => iff_of_false (hhelped asked) fun h => hscript h.2⟩
  · rw [hending]
    refine ⟨nofun, nofun, fun asked => ?_⟩
    simp [hlacks, eq_comm]

section Desk

open Resolver

/-- Options with their values in front of them, behind them or in the next word. -/
def spoken : List RunOption := [.shell "/bin/sh", .quiet, .logLevel "info"]

theorem named_shell : Named runOptions "shell" (.valued .shell) := ⟨by decide, _, rfl, rfl⟩

theorem named_quiet : Named runOptions "quiet" (.flag .quiet) := ⟨by decide, _, rfl, rfl⟩

theorem named_logLevel : Named runOptions "log-level" (.valued .logLevel) := ⟨by decide, _, rfl, rfl⟩

theorem introduces_spoken :
    Introduces spoken "/s" ["--shell=/bin/sh", "--quiet", "--log-level", "info", "--", "/s"] :=
  .dashed (.cons (.joined named_shell "/bin/sh") (.cons (.flag named_quiet (by decide))
    (.cons (.apart named_logLevel (by decide) "info") .nil)))

theorem isSetting_spoken : ∀ o ∈ spoken, o.IsSetting .standard := by
  have hlevel : Toolkit.standard.choose? LogLevel.names "info" ≠ none := by decide
  simpa [spoken, RunOption.IsSetting] using hlevel

theorem reaches_spoken (rest : List String) :
    ((desk []).resolver (applyAll .standard spoken {}) rest).Reaches (.ofPath ⟨.slash, ["s"]⟩) (saved []) :=
  reaches_saved []

/-- The script is handed words that look like options of the command, and runs with the shell that was asked
for. -/
theorem arguments_pass_through_spoken :
    ∃ call, (run (desk []) (["--shell=/bin/sh", "--quiet", "--log-level", "info", "--", "/s"] ++
        ["--shell", "", "--", "-v", "--log-level"]) {} (saved [])).2.2.calls = [call] ∧
      call.argv = ["--shell", "", "--", "-v", "--log-level"] ∧ call.shell = ⟨"/bin/sh", "", true⟩ := by
  have henv : Settings.ofEnvironment (desk []).environment = .ok {} := by cbv
  have hkit : (desk []).kit.ReadsOptions runOptions := Toolkit.readsOptions_standard runOptions
  obtain ⟨hruns, hcalls, -⟩ := arguments_pass_through hkit henv isSetting_spoken introduces_spoken
    ["--shell", "", "--", "-v", "--log-level"] {} (saved [])
  -- the saved script comes as far as the loader, so there is a call
  obtain ⟨call, hone, -⟩ := (namesSaved_saved []).holdsScript.calls_of_reaches (lookup_resolver _ _ _)
    (reaches_spoken ["--shell", "", "--", "-v", "--log-level"])
  rw [hruns.run_eq, (namesSaved_saved []).runWords_eq] at hcalls ⊢
  rcases hcalls with hnone | ⟨call, hcalls, hargv, hshell⟩
  · cases hnone.symm.trans hone
  · exact ⟨call, hcalls, hargv, hshell⟩

end Desk

end CommandLine
end ScriptRunner
