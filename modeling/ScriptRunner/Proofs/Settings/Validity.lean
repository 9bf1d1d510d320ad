import ScriptRunner.Proofs.Settings.Overriding

/-! Which settings are valid. Those of an environment always are. Overrides are not looked at, so settings that
were overridden are valid just if the last level and the last shell that were given are. -/

namespace ScriptRunner

theorem LogLevel.exists_int_iff {name : String} : (∃ n, ofName name = .int n) ↔ number? name ≠ none := by
  unfold ofName
  cases number? name <;> simp

theorem LogLevel.number?_ne_none {name : String} (h : name ∈ names) : number? name ≠ none := by
  have hall : ∀ name ∈ names, number? name ≠ none := by decide
  exact hall name h

namespace Settings

variable {env : Environment} {vars : List (String × Value)} {s s₀ : Settings} {os : List Overrides}

/-! ## Environments -/

theorem of_ofEnvironment (h : ofEnvironment env = .ok s) :
    s.logLevel ∈ LogLevel.names ∧ s.shell ≠ .text "" ∧
      s.commandPrefix = .text ((env.lookup "YZX_PREFIX").getD "") := by
  unfold ofEnvironment at h
  dsimp only at h
  split at h
  · rename_i hlevel
    cases h
    refine ⟨List.contains_iff_mem.mp hlevel, ?_, rfl⟩
    dsimp only
    split
    · simp
    · rename_i hshell
      simpa using hshell
  · cases h

/-- Settings that are read from variables of any kind have a level that there is, and a shell. -/
theorem of_ofVariables (h : ofVariables vars = .ok s) :
    s.logLevel ∈ LogLevel.names ∧ s.shell ≠ .text "" := by
  unfold ofVariables at h
  split at h
  · cases h
  · dsimp only at h
    split at h
    · cases h
    · rename_i henv
      split at h
      · cases h
      · cases h
        exact ⟨(of_ofEnvironment henv).1, (of_ofEnvironment henv).2.1⟩

/-! ## Overrides -/

/-- The level after overrides is the last one that was given, in capitals, or the one before. -/
theorem logLevel_overrideAll (h : s₀.overrideAll os = .ok s) :
    (lastGiven os "log_level" = none ∧ s.logLevel = s₀.logLevel) ∨
      ∃ level, lastGiven os "log_level" = some (.text level) ∧ s.logLevel = Text.upper level := by
  have hfield := field?_overrideAll h (show "log_level" ∈ fields by decide)
  change some (Value.text s.logLevel) =
    ((lastGiven os "log_level").map (stored "log_level")).or (some (.text s₀.logLevel)) at hfield
  cases hlast : lastGiven os "log_level" with
  | none =>
      rw [hlast] at hfield
      exact .inl ⟨rfl, Value.text.inj (Option.some.inj hfield)⟩
  | some v =>
      rw [hlast] at hfield
      cases v with
      | text level => exact .inr ⟨level, rfl, Value.text.inj (Option.some.inj hfield)⟩
      | null | bool _ | int _ | float _ | list _ | record _ => cases hfield

/-- What holds of the first level holds of the last one just if it holds of what was given last. -/
theorem logLevel_iff {p : String → Prop} (h₀ : p s₀.logLevel) (h : s₀.overrideAll os = .ok s) :
    p s.logLevel ↔ ∀ level, lastGiven os "log_level" = some (.text level) → p (Text.upper level) := by
  rcases logLevel_overrideAll h with ⟨hlast, hlevel⟩ | ⟨level, hlast, hlevel⟩
  · rw [hlast, hlevel]
    exact iff_of_true h₀ fun _ he => nomatch he
  · rw [hlast, hlevel]
    refine ⟨fun hp level' he => ?_, fun hall => hall level rfl⟩
    cases he
    exact hp

/-- The shell after overrides is the last one that was given, or the one before. -/
theorem shell_overrideAll (h : s₀.overrideAll os = .ok s) :
    s.shell = (lastGiven os "shell").getD s₀.shell := by
  have hfield := field?_overrideAll h (show "shell" ∈ fields by decide)
  have hstored := getD_eq_stored (show "shell" ≠ "log_level" by decide) (lastGiven os "shell") s₀.shell
  exact Option.some.inj (hfield.trans hstored.symm)

/-- Settings of an environment that are overridden any number of times keep a level that there is just if the
last level given is one, and a level with a number just if the last one has a number. They have a shell unless
the last one given is empty. -/
theorem overridden_valid_iff (henv : ofVariables vars = .ok s₀) (h : s₀.overrideAll os = .ok s) :
    (s.logLevel ∈ LogLevel.names ↔
        ∀ level, lastGiven os "log_level" = some (.text level) → Text.upper level ∈ LogLevel.names) ∧
      ((∃ n, s.loggingLevel = .int n) ↔
        ∀ level, lastGiven os "log_level" = some (.text level) → LogLevel.number? (Text.upper level) ≠ none) ∧
      (s.shell ≠ .text "" ↔ lastGiven os "shell" ≠ some (.text "")) := by
  obtain ⟨hlevel, hshell⟩ := of_ofVariables henv
  refine ⟨logLevel_iff hlevel h, ?_, ?_⟩
  · rw [loggingLevel, LogLevel.exists_int_iff]
    exact logLevel_iff (p := fun name => LogLevel.number? name ≠ none) (LogLevel.number?_ne_none hlevel) h
  · rw [shell_overrideAll h]
    cases lastGiven os "shell" with
    | none => exact iff_of_true hshell (by simp)
    | some v => simp

/-- A level that is none does no harm if another one is given after it; an empty shell is kept. -/
theorem overridden_valid_iff_quieter :
    ∃ s₀ s, ofVariables [("YZX_LOG_LEVEL", .text " debug ")] = .ok s₀ ∧
      s₀.overrideAll [[("log_level", .text "chatty")], [("log_level", .text "error"), ("shell", .text "")]] =
        .ok s ∧
      s.logLevel ∈ LogLevel.names ∧ (∃ n, s.loggingLevel = .int n) ∧ s.shell = .text "" := by
  have henv : ofVariables [("YZX_LOG_LEVEL", .text " debug ")] = .ok { logLevel := "DEBUG" } := by rfl
  have hrun : overrideAll { logLevel := "DEBUG" }
      [[("log_level", .text "chatty")], [("log_level", .text "error"), ("shell", .text "")]] =
        .ok { shell := .text "", logLevel := "ERROR" } := by rfl
  obtain ⟨hlevel, hnumber, hshell⟩ := overridden_valid_iff henv hrun
  refine ⟨_, _, henv, hrun, hlevel.mpr ?_, hnumber.mpr ?_, Classical.not_not.mp fun h => hshell.mp h rfl⟩
  · intro level h
    cases h
    decide
  · intro level h
    cases h
    decide

/-- An unknown level and an empty shell are both taken. -/
theorem unknown_level_taken :
    ∃ s, ofVariables [] = .ok {} ∧ overrideAll {} [[("shell", .text "")], [("log_level", .text "chatty")]] = .ok s ∧
      s.logLevel ∉ LogLevel.names ∧ s.loggingLevel = .text "Level CHATTY" ∧ s.shell = .text "" := by
  refine ⟨{ shell := .text "", logLevel := "CHATTY" }, by rfl, by rfl, by decide, by rfl, rfl⟩

end Settings
end ScriptRunner
