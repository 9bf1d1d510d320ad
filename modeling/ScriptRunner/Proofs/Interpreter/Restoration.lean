import ScriptRunner.Proofs.Interpreter.Keeping

/-! Loads put the interpreter back. Main statement: after a load, however it ends, the arguments, the search
path and the main module are what they were, in the load itself and in all that its script starts; and a
script that starts sees its own arguments, its directory in front of the path, and itself. -/

namespace ScriptRunner.Interpreter

variable {run : Run}

/-- Two views of the interpreter that differ in the number of started scripts only. -/
structure Restored (before after : State) : Prop where
  argv : after.argv = before.argv
  path : after.path = before.path
  main : after.main = before.main

theorem restored_refused (m : Memory) (f : Failure) (place : Place) (there : Bool) :
    Restored m.seen (m.refused f place there).memory.seen := ⟨rfl, rfl, rfl⟩

theorem restored_ended {m : Memory} {start : Start} {p : Progress (Failure × Nat) (m.enter start)}
    (h : m.save.Keeps p.memory) : Restored m.seen (m.ended start p).memory.seen := by
  have hseen : (m.ended start p).memory.seen = { m.seen with started := p.memory.started } :=
    Memory.seen_leave h p.saved_lt
  rw [hseen]
  exact ⟨rfl, rfl, rfl⟩

theorem restored_loadWith (hrun : run.Keeps) (m : Memory) (start : Start) (actions : List Action) :
    Restored m.seen (loadWith run m start actions).memory.seen := by
  by_cases hs : Starts start actions
  · rw [loadWith_of_starts hs]
    exact restored_ended (hrun.save m start _)
  · obtain ⟨f, place, there, he⟩ := loadWith_of_not_starts hs
    rw [he]
    exact restored_refused m f place there

/-- A load tells the memory before it and after it as they are. -/
theorem seen_loadWith (run : Run) (m : Memory) (start : Start) (actions : List Action) :
    (loadWith run m start actions).report.before = m.seen ∧
      (loadWith run m start actions).report.after = (loadWith run m start actions).memory.seen := by
  by_cases hs : Starts start actions
  · rw [loadWith_of_starts hs]
    exact ⟨rfl, rfl⟩
  · obtain ⟨f, place, there, he⟩ := loadWith_of_not_starts hs
    rw [he]
    exact ⟨rfl, rfl⟩

/-! ## Loads within loads -/

/-- The report of a load and those of all loads that its script started, at any depth. -/
inductive Within : Report → Report → Prop where
  | self (r : Report) : Within r r
  | nested {r outer inner : Report} (h : .load inner ∈ outer.sights) (hr : Within r inner) :
      Within r outer

/-- Whether the interpreter was put back by a load and by all loads within it. -/
def AllRestored (outer : Report) : Prop := ∀ r, Within r outer → Restored r.before r.after

/-- Whether this holds of all loads that a script has seen. -/
def SightsRestored (sights : List Sight) : Prop :=
  ∀ inner : Report, .load inner ∈ sights → AllRestored inner

theorem allRestored_of_sights {r : Report} (hr : Restored r.before r.after)
    (hsights : SightsRestored r.sights) : AllRestored r := by
  intro r' h
  cases h with
  | self => exact hr
  | nested h hin => exact hsights _ h _ hin

theorem sightsRestored_nil : SightsRestored [] := by
  intro inner hin
  cases hin

theorem sightsRestored_snapshot (argv path : List String) (isMain : Bool) (names : Namespace) :
    SightsRestored [.snapshot argv path isMain names] := by
  intro inner hin
  cases List.mem_singleton.mp hin

theorem sightsRestored_load {r : Report} (hr : AllRestored r) : SightsRestored [.load r] := by
  intro inner hin
  cases List.mem_singleton.mp hin
  exact hr

theorem SightsRestored.append {xs ys : List Sight} (hx : SightsRestored xs) (hy : SightsRestored ys) :
    SightsRestored (xs ++ ys) := by
  intro inner hin
  exact (List.mem_append.mp hin).elim (hx inner) (hy inner)

/-- Whether actions that are taken in some way see loads only that put the interpreter back. -/
def Run.Restores (run : Run) : Prop :=
  ∀ (m : Memory) (fr : Frame), SightsRestored fr.sights → SightsRestored (run m fr).frame.sights

theorem allRestored_loadWith (hkeeps : run.Keeps) (hrun : run.Restores) (m : Memory) (start : Start)
    (actions : List Action) : AllRestored (loadWith run m start actions).report := by
  obtain ⟨hbefore, hafter⟩ := seen_loadWith run m start actions
  apply allRestored_of_sights
  · rw [hbefore, hafter]
    exact restored_loadWith hkeeps m start actions
  · by_cases hs : Starts start actions
    · rw [loadWith_of_starts hs]
      exact hrun _ _ sightsRestored_nil
    · obtain ⟨f, place, there, he⟩ := loadWith_of_not_starts hs
      rw [he]
      exact sightsRestored_nil

-- The recursion is that of keeping the memory; the sights of before are carried along.
mutual

theorem sightsRestored_act (m : Memory) (fr : Frame) (h : SightsRestored fr.sights) :
    (a : Action) → SightsRestored (act m fr a).frame.sights
  | .blank | .raise _ _ | .malformed | .appendArg _ | .setArgs _ | .insertPath _ | .setPath _
  | .deleteMain => h
  | .snapshot => h.append (sightsRestored_snapshot _ _ _ _)
  | .set name v => by
    unfold act
    split <;> exact h
  | .copy name source => by
    unfold act
    split <;> exact h
  | .deleteFile => by
    unfold act
    split <;> exact h
  | .load start actions =>
    have hrun : Run.Restores fun m fr => runFrom 1 m fr actions :=
      fun m fr h => sightsRestored_runFrom 1 m fr h actions
    have hkeeps : Run.Keeps fun m fr => runFrom 1 m fr actions :=
      fun m fr => keeps_runFrom 1 m fr actions
    h.append (sightsRestored_load (allRestored_loadWith hkeeps hrun m start actions))

theorem sightsRestored_runFrom (line : Nat) (m : Memory) (fr : Frame) (h : SightsRestored fr.sights) :
    (as : List Action) → SightsRestored (runFrom line m fr as).frame.sights
  | [] => h
  | a :: rest => by
    have hact := sightsRestored_act m fr h a
    cases hf : (act m fr a).failure? with
    | some f =>
        rw [runFrom_cons_some hf]
        exact hact
    | none =>
        rw [runFrom_cons_none hf]
        exact sightsRestored_runFrom (line + 1) _ _ hact rest

end

/-! ## The start of a script -/

theorem seen_install (m : Memory) (s : Start) :
    (m.install s).seen =
      ⟨s.filename :: s.argv, s.dirname :: m.items m.path, some (.script m.started), m.started + 1⟩ := by
  let started : Memory := { m with main := some (.script m.started), started := m.started + 1 }
  let filled := started.fill m.path (s.dirname :: m.items m.path)
  have hargv : (m.install s).items filled.lists.length = s.filename :: s.argv :=
    filled.items_make_length _
  have hpath : (m.install s).items m.path = s.dirname :: m.items m.path := by
    have hmade := filled.items_make_of_lt (s.filename :: s.argv) filled.path_lt
    have hfilled := started.items_fill_self (s.dirname :: m.items m.path) m.path_lt
    exact hmade.trans hfilled
  calc (m.install s).seen
      = ⟨(m.install s).items filled.lists.length, (m.install s).items m.path,
          some (.script m.started), m.started + 1⟩ := rfl
    _ = _ := by rw [hargv, hpath]

theorem seen_enter (m : Memory) (s : Start) :
    (m.enter s).seen =
      ⟨s.filename :: s.argv, s.dirname :: m.seen.path, some (.script m.started), m.started + 1⟩ := by
  have hpath : m.save.items m.save.path = m.seen.path := by
    have hlt : m.path < (m.make (m.items m.path)).lists.length :=
      Nat.lt_of_lt_of_le m.path_lt (m.keeps_make _).grows
    exact (Memory.items_make_of_lt _ _ hlt).trans (m.items_make_of_lt _ m.path_lt)
  rw [Memory.enter, seen_install, hpath]
  rfl

/-- What a script has seen it does not lose. -/
theorem sights_act_prefix (m : Memory) (fr : Frame) (a : Action) :
    fr.sights <+: (act m fr a).frame.sights := by
  cases a <;> unfold act
  case snapshot | load => exact List.prefix_append _ _
  case set | copy | deleteFile => split <;> exact List.prefix_rfl
  all_goals exact List.prefix_rfl

theorem sights_runFrom_prefix (line : Nat) (m : Memory) (fr : Frame) (as : List Action) :
    fr.sights <+: (runFrom line m fr as).frame.sights := by
  induction as generalizing line m fr with
  | nil => exact List.prefix_rfl
  | cons a rest ih =>
      have hact := sights_act_prefix m fr a
      cases hf : (act m fr a).failure? with
      | some f =>
          rw [runFrom_cons_some hf]
          exact hact
      | none =>
          rw [runFrom_cons_none hf]
          exact hact.trans (ih _ _ _)

/-- A script that looks in its first line sees the interpreter as it is then. -/
theorem head?_sights_snapshot (line : Nat) (m : Memory) (fr : Frame) (rest : List Action)
    (h : fr.sights = []) :
    (runFrom line m fr (.snapshot :: rest)).frame.sights.head? =
      some (.snapshot m.seen.argv m.seen.path (m.seen.main = some (.script fr.number)) fr.names) := by
  -- The memory is still the same behind the first line; only what was seen has grown.
  have hprefix := sights_runFrom_prefix (line + 1) m (act m fr .snapshot).frame rest
  have hact : (act m fr .snapshot).frame.sights =
      [.snapshot m.seen.argv m.seen.path (m.main = some (.script fr.number)) fr.names] := by
    simp [act, Progress.still, h]
  rw [hact] at hprefix
  obtain ⟨later, hlater⟩ := hprefix
  rw [runFrom_cons_none rfl]
  exact congrArg List.head? hlater.symm

/-- A load puts back the arguments, the search path and the main module, however it ends, and so do all
loads that its script starts. A script that starts has its own arguments, its directory in front of the
path, and itself as the main module; this is what it sees if it looks in its first line. -/
theorem load_restores (m : Memory) (s : Script) :
    Restored m.seen (load m s).memory.seen ∧
      ((load m s).report.before = m.seen ∧ (load m s).report.after = (load m s).memory.seen) ∧
      AllRestored (load m s).report ∧
      (Starts s.start s.actions →
        (m.enter s.start).seen =
            ⟨s.start.filename :: s.start.argv, s.start.dirname :: m.seen.path,
              some (.script m.started), m.started + 1⟩ ∧
          load m s =
            m.ended s.start (runFrom 1 (m.enter s.start) (s.start.frame m.started) s.actions) ∧
          ∀ rest, s.actions = .snapshot :: rest →
            (load m s).report.sights.head? =
              some (.snapshot (s.start.filename :: s.start.argv) (s.start.dirname :: m.seen.path) true
                s.start.names)) := by
  have hkeeps : Run.Keeps fun m fr => runFrom 1 m fr s.actions :=
    fun m fr => keeps_runFrom 1 m fr s.actions
  have hrestores : Run.Restores fun m fr => runFrom 1 m fr s.actions :=
    fun m fr h => sightsRestored_runFrom 1 m fr h s.actions
  refine ⟨restored_loadWith hkeeps m _ _, seen_loadWith _ m _ _,
    allRestored_loadWith hkeeps hrestores m _ _, ?_⟩
  intro hstarts
  have hseen := seen_enter m s.start
  have hload : load m s =
      m.ended s.start (runFrom 1 (m.enter s.start) (s.start.frame m.started) s.actions) :=
    loadWith_of_starts hstarts
  refine ⟨hseen, hload, ?_⟩
  intro rest hrest
  have hfirst := head?_sights_snapshot 1 (m.enter s.start) (s.start.frame m.started) rest rfl
  rw [hseen] at hfirst
  rw [hload, hrest]
  exact hfirst.trans (by simp [Start.frame])

/-- A script that spoils all it shares with others, and loads another one that does the same and fails. -/
def spoiler : Script where
  start := { filename := "/w/notes.md", dirname := "/w", argv := ["x"] }
  actions :=
    [.snapshot, .setPath ["/elsewhere"], .appendArg "y",
      .load { filename := "/w/inner.md", dirname := "/w" }
        [.snapshot, .insertPath "/tmp", .setArgs [], .deleteMain, .raise "ValueError" (.text "no")],
      .deleteMain, .deleteFile, .deleteFile]

def host : Memory := .ofState ⟨["host"], ["/lib"], some .host, 0⟩

theorem load_restores_spoiled :
    Starts spoiler.start spoiler.actions ∧
      Restored ⟨["host"], ["/lib"], some .host, 0⟩ (load host spoiler).memory.seen ∧
      (load host spoiler).report.sights.head? =
        some (.snapshot ["/w/notes.md", "x"] ["/w", "/lib"] true spoiler.start.names) ∧
      ∃ inner, .load inner ∈ (load host spoiler).report.sights ∧ Restored inner.before inner.after := by
  have hstarts : Starts spoiler.start spoiler.actions := ⟨rfl, by decide, by decide⟩
  obtain ⟨hrestored, _, hall, hstart⟩ := load_restores host spoiler
  obtain ⟨_, hload, hfirst⟩ := hstart hstarts
  have hinner : ∃ first inner, (load host spoiler).report.sights = [first, .load inner] := by
    rw [hload]
    exact ⟨_, _, rfl⟩
  obtain ⟨first, inner, hsights⟩ := hinner
  have hin : .load inner ∈ (load host spoiler).report.sights := by simp [hsights]
  exact ⟨hstarts, hrestored, hfirst _ rfl, inner, hin, hall _ (.nested hin (.self inner))⟩

end ScriptRunner.Interpreter
