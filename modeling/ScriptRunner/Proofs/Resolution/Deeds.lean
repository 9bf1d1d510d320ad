import ScriptRunner.Proofs.Artifact.Creation
import ScriptRunner.Proofs.Machine.Launches
import ScriptRunner.Proofs.Resolution.Cleanup
import ScriptRunner.Proofs.Resolution.Course
import ScriptRunner.Proofs.Resolution.Loading

/-! What a resolution launches and loads. Main statement: if every transpiler is registered under its own
extension, a resolution ends after one step of normalization at most, and with that step it launches one
compiler at most, which writes elsewhere than where its source stands, and loads one script at most. -/

namespace ScriptRunner.Resolver

open Machine

variable {r : Resolver} {s : Source} {m : Machine} {sources : List Source}
  {result : Except Failure Value × Machine}

/-- The command that a source is compiled with, if there is a compiler for it. -/
def toolCommands (r : Resolver) (s : Source) : List (List String) :=
  match classify r.registry s with
  | .ok (.normalize (.transpiled t)) => (t.argv s.label).toOption.toList
  | _ => []

theorem toolCommands_of_classify {t : Transpiler}
    (hc : classify r.registry s = .ok (.normalize (.transpiled t))) :
    r.toolCommands s = (t.argv s.label).toOption.toList := by
  rw [toolCommands, hc]

theorem length_toolCommands_le (r : Resolver) (s : Source) : (r.toolCommands s).length ≤ 1 := by
  unfold toolCommands
  split
  · exact Option.length_toList_le
  · exact Nat.zero_le _

/-- From one machine to another these compilers are launched, these scripts are loaded, and some of the
commands of these scripts are run, in this order. -/
structure Deeds (r : Resolver) (m m' : Machine) (tools : List (List String)) (calls : List Call) :
    Prop where
  launches_eq : ∃ ran, ran <+: (calls.flatMap fun call => (r.loader call).commands) ∧
    m'.launches = m.launches ++ tools ++ ran.map fun c => r.shell.argv (Shell.clean c)
  calls_eq : m'.calls = m.calls ++ calls

namespace Deeds

variable {m' m'' : Machine} {tools tools' : List (List String)} {calls : List Call}

theorem of_tools (hl : m'.launches = m.launches ++ tools) (hc : m'.calls = m.calls) :
    r.Deeds m m' tools [] :=
  ⟨⟨[], List.nil_prefix, by simp [hl]⟩, by simp [hc]⟩

/-- Compilers come before all that a script does. -/
theorem trans (h : r.Deeds m m' tools []) (h' : r.Deeds m' m'' tools' calls) :
    r.Deeds m m'' (tools ++ tools') calls := by
  obtain ⟨⟨ran, hran, hl⟩, hc⟩ := h
  obtain ⟨⟨ran', hran', hl'⟩, hc'⟩ := h'
  rw [List.prefix_nil.mp hran] at hl
  refine ⟨⟨ran', hran', ?_⟩, ?_⟩
  · simp [hl', hl]
  · simp [hc', hc]

end Deeds

/-- A load is one call, and then what the script runs. -/
theorem deeds_load (r : Resolver) (path filename : Path) (m : Machine) :
    r.Deeds m (r.load path filename m).2 [] [r.callOf path filename m] := by
  refine ⟨?_, r.calls_load path filename m⟩
  have hrecord : (m.record (.loaded (r.callOf path filename m))).launches = m.launches :=
    m.launches_record rfl
  cases h : m.tree.read m.cwd (.ofPath path) with
  | error fault =>
      refine ⟨[], List.nil_prefix, ?_⟩
      rw [load_of_unreadable h]
      simpa using hrecord
  | ok data =>
      obtain ⟨ran, hran, hl⟩ := r.shell.launches_runAll (r.loader (r.callOf path filename m)).commands
        { m.record (.loaded (r.callOf path filename m)) with
          tree := r.treeAfterLoad (r.callOf path filename m) m }
      have hrun := hl.trans (congrArg (· ++ _) hrecord)
      refine ⟨ran, by simpa using hran, ?_⟩
      rw [load_of_read h, List.append_nil]
      split
      · rename_i e m₁ he
        rwa [he] at hrun
      · rename_i m₁ he
        rwa [he] at hrun

theorem deeds_execute (r : Resolver) (s : Source) (m : Machine) :
    ∃ calls, r.Deeds m (r.execute s m).2 [] calls ∧ calls.length ≤ 1 := by
  cases h : m.tree.realPath (.ofLocation m.cwd) s.origin with
  | error e =>
      rw [execute_of_realPath_error h]
      exact ⟨[], .of_tools (by simp) rfl, Nat.zero_le _⟩
  | ok filename =>
      rw [execute_of_realPath h]
      exact ⟨_, r.deeds_load s.label filename m, Nat.le_refl _⟩

theorem deeds_materialize (r : Resolver) (s : Source) (data : Except Failure Bytes) (m : Machine) :
    r.Deeds m (r.materialize s data m).2 [] [] := by
  cases data with
  | error f => exact .of_tools (by simp [materialize]) rfl
  | ok data =>
      have hl := Artifact.launches_create r.names data s.stem r.artifactDirectory m
      refine .of_tools (by simpa [materialize] using hl) ?_
      rcases Artifact.create_cases r.names data s.stem r.artifactDirectory m with
        ⟨a, l, m', token, hcreate, hcreated, -⟩ | ⟨f, hcreate⟩
      · rw [materialize, hcreate]
        exact hcreated.calls_eq
      · rw [materialize, hcreate]

/-- One step of normalization launches the compiler of its source, if it has one, and nothing else. -/
theorem deeds_produce {n : Normalization} (hc : classify r.registry s = .ok (.normalize n))
    (m : Machine) :
    ∃ tools, r.Deeds m (r.produce n s m).2 tools [] ∧ tools.Sublist (r.toolCommands s) := by
  cases n with
  | raw => exact ⟨[], r.deeds_materialize s _ m, List.nil_sublist _⟩
  | literate => exact ⟨[], r.deeds_materialize s _ m, List.nil_sublist _⟩
  | transpiled t =>
      obtain ⟨tools, hl, htools⟩ := t.launches_compile s.label m
      have hsame : (r.produce (.transpiled t) s m).2 = (t.compile s.label m).2 := by
        unfold produce
        dsimp only
        split <;> simp_all
      rw [hsame]
      refine ⟨tools, .of_tools hl (t.frame_compile s.label m).calls_eq, ?_⟩
      rcases htools with rfl | ⟨argv, hargv, rfl⟩
      · exact List.nil_sublist _
      · rw [toolCommands_of_classify hc, hargv]
        exact List.Sublist.refl _

theorem deeds_announced (r : Resolver) (label : Path) (step : Step) (m : Machine) :
    r.Deeds m (announced label step m) [] [] :=
  .of_tools ((m.launches_log _).trans (List.append_nil _).symm) (m.frame_log _).calls_eq

/-- What is done after a step of normalization is done before its script is removed. -/
theorem Deeds.leave {m' : Machine} {tools : List (List String)} {calls : List Call}
    (h : r.Deeds m m' tools calls) (a : Artifact) (outcome : Except Failure Value) :
    r.Deeds m (a.leave outcome m').2 tools calls where
  launches_eq := by rw [a.launches_leave]; exact h.launches_eq
  calls_eq := by rw [(frame_leave a outcome m').calls_eq]; exact h.calls_eq

/-- A resolution launches the compilers of its sources, each once at most, and loads one script at most. -/
theorem Course.deeds (h : r.Course s m sources result) :
    ∃ tools calls, r.Deeds m result.2 tools calls ∧
      tools.Sublist (sources.flatMap r.toolCommands) ∧ calls.length ≤ 1 := by
  induction h with
  | unrecognized => exact ⟨[], [], .of_tools (by simp) rfl, List.nil_sublist _, Nat.zero_le _⟩
  | executed =>
      obtain ⟨calls, hrun, hcalls⟩ := r.deeds_execute _ _
      exact ⟨[], calls, (r.deeds_announced _ _ _).trans hrun, List.nil_sublist _, hcalls⟩
  | stopped hc hp =>
      obtain ⟨tools, hmade, htools⟩ := deeds_produce hc (announced _ _ _)
      rw [hp] at hmade
      refine ⟨tools, [], (r.deeds_announced _ _ _).trans hmade, ?_, Nat.zero_le _⟩
      rwa [List.flatMap_singleton]
  | normalized hc hp _ ih =>
      obtain ⟨tools, hmade, htools⟩ := deeds_produce hc (announced _ _ _)
      obtain ⟨later, calls, hrest, hlater, hcalls⟩ := ih
      rw [hp] at hmade
      refine ⟨tools ++ later, calls, ?_, htools.append hlater, hcalls⟩
      exact (((r.deeds_announced _ _ _).trans hmade).trans hrest).leave _ _

/-! ## Where compilers write -/

/-- A name with a suffix is none of the names that lead elsewhere. -/
theorem proper_of_suffix {p : Path} (h : p.suffix ≠ "") :
    p.names.getLast? = some p.name ∧ p.name ≠ "" ∧ p.name ≠ "." ∧ p.name ≠ ".." := by
  have hname : p.name ≠ "" ∧ p.name ≠ "." ∧ p.name ≠ ".." := by
    refine ⟨?_, ?_, ?_⟩ <;> intro he <;> exact h (by rw [Path.suffix, he]; decide)
  refine ⟨?_, hname⟩
  cases hlast : p.names.getLast? with
  | none => exact absurd (by simp [Path.name, hlast]) hname.1
  | some n => simp [Path.name, hlast]

/-- The place of a path with a suffix has the name of the path. -/
theorem getLast?_of_locate {p : Path} {t : FileTree} {cwd l : Location} (h : p.suffix ≠ "")
    (hl : t.locate cwd .entry (.ofPath p) = .ok l) : l.getLast? = some p.name := by
  obtain ⟨hlast, hname⟩ := proper_of_suffix h
  exact FileTree.getLast?_of_walk hname hlast (FileTree.locate_eq_ok_iff.mp hl).2

/-- The output of a compiler is another file than its source: whatever the tree and the current directory
are, the two paths do not lead to one place, unless it is by a link that stands at the end of one. -/
structure CompilesElsewhere (source output : Path) : Prop where
  ne : output ≠ source
  place_ne (t : FileTree) {cwd l l' : Location} (hs : t.locate cwd .entry (.ofPath source) = .ok l)
    (ho : t.locate cwd .entry (.ofPath output) = .ok l') : l' ≠ l
  target_ne (t : FileTree) {cwd l l' : Location} (hs : t.locate cwd .target (.ofPath source) = .ok l)
    (ho : t.locate cwd .target (.ofPath output) = .ok l')
    (hsource : ∀ target, t.entryAt cwd source ≠ some (.link target))
    (houtput : ∀ target, t.entryAt cwd output ≠ some (.link target)) : l' ≠ l

/-- Two paths that do not name one place are other files, unless a link stands at the end of one. -/
theorem compilesElsewhere_of_place_ne {source output : Path} (hne : output ≠ source)
    (h : ∀ (t : FileTree) (cwd l l' : Location), t.locate cwd .entry (.ofPath source) = .ok l →
      t.locate cwd .entry (.ofPath output) = .ok l' → l' ≠ l) : CompilesElsewhere source output where
  ne := hne
  place_ne t _ _ _ := h t _ _ _
  target_ne t _ _ _ hs ho hsource houtput :=
    h t _ _ _ (FileTree.locate_entry_of_target hs hsource) (FileTree.locate_entry_of_target ho houtput)

theorem compilesElsewhere_of_suffix {source output : Path} (hs : source.suffix ≠ "")
    (ho : output.suffix = scriptExtension) (hne : source.suffix ≠ scriptExtension) :
    CompilesElsewhere source output := by
  refine compilesElsewhere_of_place_ne ?_ fun t cwd l l' hl hl' => ?_
  · rintro rfl
    exact hne ho
  · rintro rfl
    have hsource := getLast?_of_locate hs hl
    have houtput := getLast?_of_locate (by rw [ho]; decide) hl'
    have hname := Option.some.inj (hsource.symm.trans houtput)
    exact hne (by rw [← ho, Path.suffix, Path.suffix, hname])

theorem suffix_of_classify_transpiled {t : Transpiler}
    (hr : r.registry.lookup scriptExtension = none)
    (hc : classify r.registry s = .ok (.normalize (.transpiled t))) :
    s.label.suffix ≠ "" ∧ s.label.suffix ≠ scriptExtension := by
  have hraw : s.extension ≠ "" := by
    intro he
    simp [classify, he] at hc
  have hscript : s.extension ≠ scriptExtension := by
    intro he
    rw [classify_of_extension_script hr he] at hc
    cases hc
  rcases s with ⟨path | content, origin⟩
  · refine ⟨fun he => hraw ?_, fun he => hscript (extension_ofPath origin he)⟩
    exact (congrArg Text.lower he).trans (by decide)
  · exact absurd rfl hraw

/-- A resolution ends, after one step of normalization at most. In that it classifies two sources at most,
the second of them a script that is ready to run; it launches one compiler at most, that of the first, and
calls the loader once at most; and it compiles no file onto itself, unless a link stands at the end of one of
the two paths. -/
theorem resolution_ends (hr : r.registry.Keyed) (s : Source) (m : Machine) :
    ∃ sources tools calls,
      (r.Course s m sources (r.resolve s m) ∧
        ∀ sources' result, r.Course s m sources' result → sources' = sources) ∧
      (sources = [s] ∨
        ∃ second, sources = [s, second] ∧ classify r.registry second = .ok .execute) ∧
      r.Deeds m (r.resolve s m).2 tools calls ∧
      (tools.length ≤ 1 ∧ tools.Sublist (r.toolCommands s)) ∧
      calls.length ≤ 1 ∧
      ∀ source ∈ sources, ∀ t output, classify r.registry source = .ok (.normalize (.transpiled t)) →
        Transpiler.outputPath source.label = .ok output → CompilesElsewhere source.label output := by
  have hscript := hr.lookup_script
  obtain ⟨sources, result, hcourse, hsources⟩ := exists_course hscript s m
  obtain ⟨tools, calls, hdeeds, htools, hcalls⟩ := hcourse.deeds
  have hfirst : tools.Sublist (r.toolCommands s) := by
    rcases hsources with rfl | ⟨second, rfl, hsecond⟩
    · rwa [List.flatMap_singleton] at htools
    · have hnone : r.toolCommands second = [] := by rw [toolCommands, hsecond]
      simpa [hnone] using htools
  obtain rfl := hcourse.resolve_eq
  refine ⟨sources, tools, calls, ⟨hcourse, fun _ _ h => (hcourse.unique h).1⟩, hsources, hdeeds,
    ⟨Nat.le_trans hfirst.length_le (r.length_toolCommands_le s), hfirst⟩, hcalls, ?_⟩
  intro source _ t output hc ho
  obtain ⟨hraw, hne⟩ := suffix_of_classify_transpiled hscript hc
  exact compilesElsewhere_of_suffix hraw (Transpiler.suffix_of_outputPath ho) hne

section Standard

theorem keyed_standard : standard.registry.Keyed := by decide

/-- A source for which there is a compiler, that writes its script. -/
def hySource : Source := .ofPath ⟨.none, ["a.hy"]⟩

theorem exists_writing :
    (uncompiled.treeAfter writing).exists? uncompiled.cwd (.ofPath ⟨.none, ["a.py"]⟩) = .ok true := by
  have hafter : uncompiled.treeAfter writing =
      ⟨[(["a.py"], .file [49]), (["a.hy"], .file [49])]⟩ := congrArg Prod.fst writeAll_uncompiled
  have hlocate : (uncompiled.treeAfter writing).locate uncompiled.cwd .entry
      (.ofPath ⟨.none, ["a.py"]⟩) = .ok ["a.py"] := by
    rw [hafter]
    exact FileTree.locate_eq_ok_iff.mpr ⟨by decide, by cbv⟩
  have hentry : (uncompiled.treeAfter writing).entryAt uncompiled.cwd ⟨.none, ["a.py"]⟩ =
      some (.file [49]) := by
    rw [FileTree.entryAt_of_locate hlocate, hafter]
    rfl
  exact FileTree.exists_of_entryAt hentry (by simp)

theorem produce_uncompiled : ∃ m, standard.produce (.transpiled .hy) hySource
    (announced hySource.label (.normalize (.transpiled .hy)) uncompiled) =
      (.ok ⟨⟨.none, ["a.py"]⟩, true⟩, m) := by
  obtain ⟨t, hstep, hruns⟩ := toolRuns_uncompiled
  cases (classify_hy (by decide)).symm.trans hstep
  have hproduces : Transpiler.hy.Produces hySource.label
      (announced hySource.label (.normalize (.transpiled .hy)) uncompiled) _ writing :=
    produces_announced.mpr ⟨hruns, rfl, exists_writing⟩
  obtain ⟨m, hcompile, -⟩ := Transpiler.compile_of_produces hproduces
  exact ⟨m, by simp only [produce, hcompile]⟩

/-- With a compiler that writes its script, there is a second source. -/
theorem course_uncompiled : ∃ result, standard.Course hySource uncompiled
    [hySource, .ofPath ⟨.none, ["a.py"]⟩ ⟨.none, ["a.hy"]⟩] result := by
  obtain ⟨m, hp⟩ := produce_uncompiled
  have hext : (Source.ofPath ⟨.none, ["a.py"]⟩ ⟨.none, ["a.hy"]⟩).extension = scriptExtension :=
    extension_ofPath _ (by decide)
  have hscript := classify_of_extension_script keyed_standard.lookup_script hext
  exact ⟨_, .normalized (classify_hy (by decide)) hp (.executed hscript)⟩

theorem resolution_ends_uncompiled :
    standard.registry.Keyed ∧ ∃ second tools calls,
      standard.Course hySource uncompiled [hySource, second] (standard.resolve hySource uncompiled) ∧
      classify standard.registry second = .ok .execute ∧
      standard.Deeds uncompiled (standard.resolve hySource uncompiled).2 tools calls ∧
      tools.length ≤ 1 ∧ calls.length ≤ 1 ∧
      CompilesElsewhere hySource.label ⟨.none, ["a.py"]⟩ := by
  refine ⟨keyed_standard, ?_⟩
  obtain ⟨sources, tools, calls, ⟨hcourse, hunique⟩, hsources, hdeeds, ⟨htools, -⟩, hcalls, helse⟩ :=
    resolution_ends keyed_standard hySource uncompiled
  obtain ⟨result, h⟩ := course_uncompiled
  obtain rfl := hunique _ _ h
  rcases hsources with hone | ⟨second, htwo, hsecond⟩
  · cases hone
  · cases htwo
    exact ⟨_, tools, calls, hcourse, hsecond, hdeeds, htools, hcalls,
      helse hySource (List.mem_cons_self ..) .hy _ (classify_hy (by decide)) (by rfl)⟩

/-- The output path of the source is a link to the source. -/
def linked : Machine where
  tree := ⟨[(["a.py"], .link "a.hy"), (["a.hy"], .file [40])]⟩
  pending := [.ended writing]

theorem writeAll_linked : linked.tree.writeAll linked.cwd writing.writes =
    (⟨[(["a.hy"], .file [49]), (["a.py"], .link "a.hy")]⟩, none) := by
  cbv

theorem toolRuns_linked : standard.ToolRuns hySource linked ⟨.none, ["a.py"]⟩ writing :=
  ⟨.hy, classify_hy (by decide), rfl, rfl, _, Transpiler.argv_hy rfl, rfl, _, rfl,
    congrArg Prod.snd writeAll_linked⟩

theorem treeAfter_linked :
    linked.treeAfter writing = ⟨[(["a.hy"], .file [49]), (["a.py"], .link "a.hy")]⟩ :=
  congrArg Prod.fst writeAll_linked

/-- What the compiler writes to its output path replaces the source. -/
theorem source_compiled_onto_itself :
    standard.registry.Keyed ∧ Transpiler.outputPath hySource.label = .ok ⟨.none, ["a.py"]⟩ ∧
      linked.tree.locate linked.cwd .target (.ofPath hySource.label) = .ok ["a.hy"] ∧
      linked.tree.locate linked.cwd .target (.ofPath ⟨.none, ["a.py"]⟩) = .ok ["a.hy"] ∧
      linked.tree.get? ["a.hy"] = some (.file [40]) ∧
      (standard.resolve hySource linked).2.tree.get? ["a.hy"] = some (.file [49]) := by
  refine ⟨keyed_standard, rfl, FileTree.locate_eq_ok_iff.mpr ⟨by decide, by cbv⟩,
    FileTree.locate_eq_ok_iff.mpr ⟨by decide, by cbv⟩, rfl, ?_⟩
  have hlocate : (linked.treeAfter writing).locate linked.cwd .entry (.ofPath ⟨.none, ["a.py"]⟩) =
      .ok ["a.py"] := by
    rw [treeAfter_linked]
    exact FileTree.locate_eq_ok_iff.mpr ⟨by decide, by cbv⟩
  rcases tree_resolve_of_toolRuns (by decide) (fun _ => rfl) toolRuns_linked with ⟨-, htree⟩ | ⟨-, htree⟩
  · rw [htree, FileTree.without_of_locate hlocate, treeAfter_linked]
    rfl
  · rw [htree, treeAfter_linked]
    rfl

end Standard

end ScriptRunner.Resolver
