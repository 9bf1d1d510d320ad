import ScriptRunner.Proofs.CommandLine.StandardInput

/-! What a command line asks for, by the options that the toolkit reads: an answer about the command, or a run
with the settings that its options make of those of the environment, one after the other. -/

namespace ScriptRunner

namespace CommandLine

variable {kit : Toolkit} {host : Host} {args words : List String} {options : List RunOption} {s : Settings}

/-! ## Settings -/

/-- The settings under one more option. A level is asked for by its name, in any case; a name that no level
has changes nothing. -/
def RunOption.apply (kit : Toolkit) (o : RunOption) (s : Settings) : Settings :=
  match o with
  | .quiet => { s with quiet := .bool true }
  | .shell binary => { s with shell := .text binary }
  | .commandPrefix text => { s with commandPrefix := .text text }
  | .logLevel name => { s with logLevel := (kit.choose? LogLevel.names name).getD s.logLevel }
  | .version | .help => s

/-- The settings under options, one after the other. -/
def applyAll (kit : Toolkit) (options : List RunOption) (s : Settings) : Settings :=
  options.foldl (fun s o => o.apply kit s) s

/-- The level that an option asks for, if it asks for one that there is. -/
def RunOption.known? (kit : Toolkit) (o : RunOption) : Option String :=
  o.level?.bind (kit.choose? LogLevel.names)

/-- An option that counts before others is put into settings as if it came after them. -/
theorem put_cons (kit : Toolkit) (o : RunOption) (options : List RunOption) (s : Settings) :
    s.put ((o :: options).filterMap RunOption.override?)
        ((o :: options).findSome? (RunOption.known? kit)) =
      o.apply kit (s.put (options.filterMap RunOption.override?) (options.findSome? (RunOption.known? kit))) := by
  rw [List.filterMap_cons, List.findSome?_cons]
  cases o with
  | version | help => rfl
  | logLevel name =>
      cases hname : kit.choose? LogLevel.names name <;>
        simp [Settings.put, RunOption.override?, RunOption.known?, RunOption.level?, RunOption.apply, hname]
  | quiet =>
      have hv : (Value.bool true).isNull = false := rfl
      simp [Settings.put, RunOption.override?, RunOption.known?, RunOption.level?, RunOption.apply,
        Overrides.value?_cons_self hv, Overrides.value?_cons_of_ne]
  | shell text | commandPrefix text =>
      have hv : (Value.text text).isNull = false := rfl
      simp [Settings.put, RunOption.override?, RunOption.known?, RunOption.level?, RunOption.apply,
        Overrides.value?_cons_self hv, Overrides.value?_cons_of_ne]

/-- Options that are put into settings together are as good as one after the other. -/
theorem put_eq_applyAll (kit : Toolkit) (options : List RunOption) (s : Settings) :
    s.put (options.reverse.filterMap RunOption.override?) (options.reverse.findSome? (RunOption.known? kit)) =
      applyAll kit options s := by
  have hall (l : List RunOption) :
      s.put (l.filterMap RunOption.override?) (l.findSome? (RunOption.known? kit)) =
        l.foldr (fun o s => o.apply kit s) s := by
    induction l with
    | nil => rfl
    | cons o l ih => rw [put_cons, ih, List.foldr_cons]
  rw [hall, List.foldr_reverse, applyAll]

/-! ## Requests -/

/-- The name of the level that options ask for. Of several the last one counts. -/
def lastLevel? (options : List RunOption) : Option String := options.reverse.findSome? RunOption.level?

/-- The options ask for no level, or for one that there is. -/
def LevelKnown (kit : Toolkit) (options : List RunOption) : Prop :=
  ∀ name, lastLevel? options = some name → kit.choose? LogLevel.names name ≠ none

theorem findSome?_known (h : LevelKnown kit options) :
    options.reverse.findSome? (RunOption.known? kit) =
      (lastLevel? options).bind (kit.choose? LogLevel.names) := by
  unfold LevelKnown lastLevel? at *
  generalize options.reverse = l at *
  induction l with
  | nil => rfl
  | cons o l ih =>
      rw [List.findSome?_cons] at *
      cases ho : o.level? with
      | none =>
          simp only [ho] at h
          simpa [RunOption.known?, ho] using ih h
      | some name =>
          simp only [ho] at h
          obtain ⟨level, hlevel⟩ := Option.ne_none_iff_exists'.mp (h name rfl)
          simp [RunOption.known?, ho, hlevel]

/-- The options ask for a run, and not about the command. -/
def AskForRun (options : List RunOption) : Prop := .version ∉ options ∧ .help ∉ options

theorem askForRun_iff : AskForRun options ↔ options.findSome? RunOption.answer? = none := by
  rw [List.findSome?_eq_none_iff]
  constructor
  · intro h o ho
    cases o with
    | version => exact absurd ho h.1
    | help => exact absurd ho h.2
    | quiet | shell _ | commandPrefix _ | logLevel _ => rfl
  · intro h
    exact ⟨fun ho => Option.some_ne_none _ (h _ ho), fun ho => Option.some_ne_none _ (h _ ho)⟩

/-- What is asked for by a command line that is read as a run. -/
theorem runRequest_of_parse (hparse : kit.parse runOptions false args = .ok ⟨options, words⟩)
    (hrun : AskForRun options) :
    runRequest kit args =
      match lastLevel? options with
      | none => .ok (.run (options.reverse.filterMap RunOption.override?) none words)
      | some name =>
        match kit.choose? LogLevel.names name with
        | some level => .ok (.run (options.reverse.filterMap RunOption.override?) (some level) words)
        | none => .error (.invalidChoice name) := by
  simp only [runRequest, hparse, askForRun_iff.mp hrun]
  rfl

/-- A command line that is read as a run runs with the settings that its options make of those of the
environment. -/
theorem runsWords_of_parse (hparse : host.kit.parse runOptions false args = .ok ⟨options, words⟩)
    (hrun : AskForRun options) (hlevel : LevelKnown host.kit options)
    (henv : Settings.ofEnvironment host.environment = .ok s) :
    RunsWords host args (applyAll host.kit options s) words := by
  refine ⟨_, options.reverse.findSome? (RunOption.known? host.kit), s, ?_, henv,
    (put_eq_applyAll host.kit options s).symm⟩
  rw [findSome?_known hlevel, runRequest_of_parse hparse hrun]
  cases hlast : lastLevel? options with
  | none => rfl
  | some name =>
      obtain ⟨level, hname⟩ := Option.ne_none_iff_exists'.mp (hlevel name hlast)
      simp [hname]

/-! ## What is wrong -/

end CommandLine
end ScriptRunner
