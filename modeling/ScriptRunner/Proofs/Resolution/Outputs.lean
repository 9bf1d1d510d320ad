import ScriptRunner.Proofs.Resolution.Meaning
import ScriptRunner.Proofs.Resolution.Survival

/-! Outputs of compilers. A compiler that ends well is taken to have written its output if anything stands at
the output path. Main statement: if it has left that path as it was, what stood there before counts as its
output, and is loaded. -/

namespace ScriptRunner

/-! ## What is found at a path -/

namespace FileTree

variable {t : FileTree} {cwd l : Location} {r : Route}

/-- What stands at the end of a route, links followed, if anything does. -/
def found? (t : FileTree) (cwd : Location) (r : Route) : Option Entry := (t.status cwd r).toOption

theorem found?_eq_some_iff {e : Entry} : t.found? cwd r = some e ↔ t.status cwd r = .ok e := by
  unfold found?
  cases t.status cwd r with
  | error fault => simp [Except.toOption]
  | ok e' => simp [Except.toOption]

theorem exists?_eq_true_iff (t : FileTree) (cwd : Location) (r : Route) :
    t.exists? cwd r = .ok true ↔ (t.found? cwd r).isSome := by
  unfold exists? found?
  cases t.status cwd r with
  | error fault => cases fault <;> simp [Except.toOption]
  | ok e => simp [Except.toOption]

theorem status_of_locate (h : t.locate cwd .target r = .ok l) :
    t.status cwd r = match t.get? l with
      | some e => .ok e
      | none => .error .notFound := by
  simp only [status, h, bind, Except.bind]
  cases t.get? l <;> rfl

theorem found?_of_locate (h : t.locate cwd .target r = .ok l) : t.found? cwd r = t.get? l := by
  rw [found?, status_of_locate h]
  cases t.get? l <;> rfl

theorem exists?_of_locate (h : t.locate cwd .target r = .ok l) : t.exists? cwd r = .ok (t.get? l).isSome := by
  rw [exists?, status_of_locate h]
  cases t.get? l <;> rfl

/-- What can be read is told by what is found. -/
theorem toOption_read (t : FileTree) (cwd : Location) (r : Route) :
    (t.read cwd r).toOption =
      (t.found? cwd r).bind fun e => match e with
        | .file data => some data
        | .directory | .link _ => none := by
  unfold read found?
  cases t.status cwd r with
  | error fault => rfl
  | ok e => cases e <;> rfl

/-- A file that is written to another place changes nothing about what is found. -/
theorem found?_set_of_ne (hfile : t.AtMostFile l) (hne : t.locate cwd .target r ≠ .ok l) (data : Bytes) :
    (t.set l (.file data)).found? cwd r = t.found? cwd r := by
  have hshape := hfile.sameShape_set data
  have hiff : ∀ e, (t.set l (.file data)).status cwd r = .ok e ↔ t.status cwd r = .ok e := by
    intro e
    rw [status_eq_ok_iff, status_eq_ok_iff]
    constructor
    · rintro ⟨place, hplace, he⟩
      have hbefore := hshape.symm.locate_eq hplace
      have hother : place ≠ l := fun h => hne (h ▸ hbefore)
      rw [get?_set t hfile.ne_nil, if_neg hother] at he
      exact ⟨place, hbefore, he⟩
    · rintro ⟨place, hplace, he⟩
      have hother : place ≠ l := fun h => hne (h ▸ hplace)
      refine ⟨place, hshape.locate_eq hplace, ?_⟩
      rw [get?_set t hfile.ne_nil, if_neg hother, he]
  refine Option.ext fun e => ?_
  rw [found?_eq_some_iff, found?_eq_some_iff, hiff]

end FileTree

namespace Machine

variable {m : Machine} {output : Path} {tool : ToolResult}

/-- Something stands at a path before a program is launched. -/
def Occupied (m : Machine) (output : Path) : Prop := (m.tree.found? m.cwd (.ofPath output)).isSome

/-- The program leaves a path as it was: what is found there is the same as before. -/
def Spares (m : Machine) (output : Path) (tool : ToolResult) : Prop :=
  (m.treeAfter tool).found? m.cwd (.ofPath output) = m.tree.found? m.cwd (.ofPath output)

/-- The program puts something at a path that was not there before. -/
structure Puts (m : Machine) (output : Path) (tool : ToolResult) : Prop where
  found : ((m.treeAfter tool).found? m.cwd (.ofPath output)).isSome
  changed : ¬ m.Spares output tool

/-- Files are written one after the other, none of them to the place of a path. -/
inductive WritesAside (cwd : Location) (output : Path) : FileTree → List Writing → FileTree → Prop where
  | nil (t : FileTree) : WritesAside cwd output t [] t
  | cons {t t' : FileTree} {path : Path} {data : Bytes} {l : Location} {rest : List Writing}
      (hwrite : (Writing.file path data).apply t cwd = (t.set l (.file data), none)) (hfile : t.AtMostFile l)
      (hne : t.locate cwd .target (.ofPath output) ≠ .ok l)
      (hrest : WritesAside cwd output (t.set l (.file data)) rest t') :
      WritesAside cwd output t (.file path data :: rest) t'

theorem WritesAside.found?_eq {cwd : Location} {t t' : FileTree} {ws : List Writing}
    (h : WritesAside cwd output t ws t') :
    t.writeAll cwd ws = (t', none) ∧ t'.found? cwd (.ofPath output) = t.found? cwd (.ofPath output) := by
  induction h with
  | nil t => exact ⟨rfl, rfl⟩
  | cons hwrite hfile hne _ ih =>
      refine ⟨?_, ih.2.trans (FileTree.found?_set_of_ne hfile hne _)⟩
      rw [FileTree.writeAll, hwrite]
      exact ih.1

/-- A program that does not write to a path leaves it as it was. -/
theorem spares_of_writesAside {t' : FileTree} (h : WritesAside m.cwd output m.tree tool.writes t') :
    m.Spares output tool := by
  rw [Spares, treeAfter, h.found?_eq.1]
  exact h.found?_eq.2

end Machine

/-! ## Compilations -/

namespace Transpiler

open Machine

variable {t : Transpiler} {source output : Path} {m : Machine} {tool : ToolResult}

theorem produces_iff (h : t.Runs source m output tool) :
    t.Produces source m output tool ↔
      tool.code = 0 ∧ (m.Puts output tool ∨ m.Spares output tool ∧ m.Occupied output) := by
  have hexists := (m.treeAfter tool).exists?_eq_true_iff m.cwd (.ofPath output)
  constructor
  · intro hp
    have hfound := hexists.mp hp.exists_eq
    refine ⟨hp.code_eq, ?_⟩
    by_cases hspared : m.Spares output tool
    · rw [hspared] at hfound
      exact .inr ⟨hspared, hfound⟩
    · exact .inl ⟨hfound, hspared⟩
  · rintro ⟨hcode, hputs | ⟨hspared, hoccupied⟩⟩
    · exact ⟨h, hcode, hexists.mpr hputs.found⟩
    · exact ⟨h, hcode, hexists.mpr (by rw [hspared]; exact hoccupied)⟩

/-- A compilation returns its output path exactly if the compiler ends well and has put something there, or
has left there what was found before. -/
theorem compile_succeeds_iff :
    (∃ m₁, t.compile source m = (.ok output, m₁)) ↔
      ∃ tool, t.Runs source m output tool ∧ tool.code = 0 ∧
        (m.Puts output tool ∨ m.Spares output tool ∧ m.Occupied output) := by
  constructor
  · rintro ⟨m₁, hc⟩
    obtain ⟨tool, hp, -⟩ := produces_of_compile hc
    exact ⟨tool, hp.toRuns, (produces_iff hp.toRuns).mp hp⟩
  · rintro ⟨tool, hruns, hp⟩
    obtain ⟨m₁, hc, -⟩ := compile_of_produces ((produces_iff hruns).mpr hp)
    exact ⟨m₁, hc⟩

/-- A compiler that ends well but leaves the output path as vacant as it was has failed. -/
theorem compile_of_vacant (h : t.Runs source m output tool) (hcode : tool.code = 0)
    (hspared : m.Spares output tool) (hvacant : ¬ m.Occupied output) :
    (t.compile source m).1 = .error (.compilation (.noOutput t.name output)) ∨
      (m.treeAfter tool).exists? m.cwd (.ofPath output) = .error .nameTooLong := by
  obtain ⟨m₁, htree, hcwd, hc⟩ := exists_compile_of_runs h
  rw [if_neg (by simp [hcode]), htree, hcwd] at hc
  rcases (m.treeAfter tool).exists?_cases m.cwd (.ofPath output) with he | he | he
  · rw [FileTree.exists?_eq_true_iff, hspared] at he
    exact absurd he hvacant
  · rw [hc, he]
    exact .inl rfl
  · exact .inr he

end Transpiler

/-! ## Resolutions -/

namespace Resolver

open Machine

variable {r : Resolver} {s : Source} {t : Transpiler} {m : Machine} {output : Path} {tool : ToolResult}

theorem prepare_of_produces (hstep : classify r.registry s = .ok (.normalize (.transpiled t)))
    (h : t.Produces s.label m output tool) :
    ∃ m₁, r.prepare s m = (.ok ⟨output, true⟩, m₁) ∧ m₁.tree = m.treeAfter tool ∧ Frame m m₁ := by
  have htool : r.ToolRuns s m output tool := ⟨t, hstep, h.toRuns⟩
  have hp := r.preparation_prepare s m
  generalize r.prepare s m = prepared at hp ⊢
  cases hp with
  | refused hidle _ _ => exact absurd htool (hidle _ _)
  | written _ hidle _ _ => exact absurd htool (hidle _ _)
  | script _ hscript _ _ => cases hscript.symm.trans hstep
  | compiled hstep' hproduces hframe htree =>
      obtain ⟨rfl, rfl⟩ := htool.unique ⟨_, hstep', hproduces.toRuns⟩
      exact ⟨_, rfl, htree, hframe⟩
  | uncompiled htool' hnone _ _ =>
      obtain ⟨rfl, rfl⟩ := htool.unique htool'
      exact absurd h.exists_eq (hnone h.code_eq)

theorem prepare_of_not_produces (hstep : classify r.registry s = .ok (.normalize (.transpiled t)))
    (hruns : t.Runs s.label m output tool) (h : ¬ t.Produces s.label m output tool) :
    ∃ f m₁, r.prepare s m = (.error f, m₁) := by
  have htool : r.ToolRuns s m output tool := ⟨t, hstep, hruns⟩
  have hp := r.preparation_prepare s m
  generalize r.prepare s m = prepared at hp ⊢
  cases hp with
  | refused | uncompiled => exact ⟨_, _, rfl⟩
  | written _ hidle _ _ => exact absurd htool (hidle _ _)
  | script _ hscript _ _ => cases hscript.symm.trans hstep
  | compiled hstep' hproduces _ _ =>
      obtain ⟨rfl, rfl⟩ := htool.unique ⟨_, hstep', hproduces.toRuns⟩
      cases hstep.symm.trans hstep'
      exact absurd hproduces h

/-- What counts as the output of a compiler is loaded, if the source can appear as its file. -/
theorem calls_of_produces (hr : r.registry.lookup scriptExtension = none)
    (hstep : classify r.registry s = .ok (.normalize (.transpiled t)))
    (h : t.Produces s.label m output tool) {filename : Path}
    (hreal : (m.treeAfter tool).realPath (.ofLocation m.cwd) s.origin = .ok filename) :
    ∃ call : Call, (r.resolve s m).2.calls = m.calls ++ [call] ∧ call.path = output ∧
      call.content = ((m.treeAfter tool).read m.cwd (.ofPath output)).toOption := by
  obtain ⟨m₁, hp, htree, hframe⟩ := prepare_of_produces hstep h
  rw [← htree, ← hframe.cwd_eq] at hreal ⊢
  refine ⟨r.callOf output filename m₁, ?_, rfl, rfl⟩
  rw [resolve_of_prepare hr hp, (frame_runArtifact_execute r _ s.origin m₁).calls_eq,
    show r.execute (.ofPath output s.origin) m₁ = _ from execute_of_realPath hreal, calls_load, hframe.calls_eq]
  rfl

theorem calls_of_not_produces (hr : r.registry.lookup scriptExtension = none)
    (hstep : classify r.registry s = .ok (.normalize (.transpiled t)))
    (hruns : t.Runs s.label m output tool) (h : ¬ t.Produces s.label m output tool) :
    (r.resolve s m).2.calls = m.calls := by
  obtain ⟨f, m₁, hp⟩ := prepare_of_not_produces hstep hruns h
  rw [resolve_of_prepare_error hr hp, (frame_of_prepare_error hp).calls_eq]

/-- A compilation succeeds exactly if the compiler ends well and either puts something at the output path or
leaves there what was found before. If it leaves the path as it was, the compilation fails only where nothing
stood, and then nothing is loaded; where something stood, the loader is handed what could be read there before
the compiler was launched. -/
theorem output_found_or_left (t : Transpiler) (source output : Path) (m : Machine) :
    ((∃ m₁, t.compile source m = (.ok output, m₁)) ↔
      ∃ tool, t.Runs source m output tool ∧ tool.code = 0 ∧
        (m.Puts output tool ∨ m.Spares output tool ∧ m.Occupied output)) ∧
    ∀ tool, t.Runs source m output tool → tool.code = 0 → m.Spares output tool →
      (¬ m.Occupied output →
        (t.compile source m).1 = .error (.compilation (.noOutput t.name output)) ∨
          (m.treeAfter tool).exists? m.cwd (.ofPath output) = .error .nameTooLong) ∧
      ∀ (r : Resolver) (s : Source), s.label = source → r.registry.lookup scriptExtension = none →
        classify r.registry s = .ok (.normalize (.transpiled t)) →
        (¬ m.Occupied output → (r.resolve s m).2.calls = m.calls) ∧
        (m.Occupied output → ∀ filename,
          (m.treeAfter tool).realPath (.ofLocation m.cwd) s.origin = .ok filename →
          ∃ call : Call, (r.resolve s m).2.calls = m.calls ++ [call] ∧ call.path = output ∧
            call.content = (m.tree.read m.cwd (.ofPath output)).toOption) := by
  refine ⟨Transpiler.compile_succeeds_iff, fun tool hruns hcode hspared =>
    ⟨Transpiler.compile_of_vacant hruns hcode hspared, ?_⟩⟩
  rintro r s rfl hr hstep
  constructor
  · intro hvacant
    refine calls_of_not_produces hr hstep hruns fun hp => ?_
    rcases ((Transpiler.produces_iff hruns).mp hp).2 with hputs | ⟨-, hoccupied⟩
    · exact hputs.changed hspared
    · exact hvacant hoccupied
  · intro hoccupied filename hreal
    have hp := (Transpiler.produces_iff hruns).mpr ⟨hcode, .inr ⟨hspared, hoccupied⟩⟩
    obtain ⟨call, hcalls, hpath, hcontent⟩ := calls_of_produces hr hstep hp hreal
    refine ⟨call, hcalls, hpath, ?_⟩
    rw [hcontent, FileTree.toOption_read, hspared, ← FileTree.toOption_read]

section Stale

/-- A source for the compiler in the root directory, and its output. -/
def appSource : Path := ⟨.slash, ["app.hy"]⟩

def appOutput : Path := ⟨.slash, ["app.py"]⟩

theorem classify_appSource : classify standard.registry (.ofPath appSource) = .ok (.normalize (.transpiled .hy)) :=
  classify_hy (by decide)

theorem locate_appOutput (aim : Aim) {t : FileTree} (h : t.AtMostFile ["app.py"]) (cwd : Location) :
    t.locate cwd aim (.ofPath appOutput) = .ok ["app.py"] :=
  FileTree.locate_name ⟨by decide, by decide, by cases aim <;> decide, by decide⟩ (by decide) h.ne_link

/-- A compiler that writes a report and nothing else. -/
def reporting : ToolResult where
  writes := [.file ⟨.slash, ["app.log"]⟩ [49]]

/-- A source with nothing beside it. -/
def bare : Machine where
  tree := ⟨[(["app.hy"], .file [40])]⟩
  pending := [.ended reporting]

theorem writesAside_bare :
    WritesAside bare.cwd appOutput bare.tree reporting.writes (bare.tree.set ["app.log"] (.file [49])) := by
  have hplace : bare.tree.AtMostFile ["app.log"] := FileTree.atMostFile_of_vacant rfl
  have hlocate : bare.tree.locate bare.cwd .file (.ofPath ⟨.slash, ["app.log"]⟩) = .ok ["app.log"] :=
    FileTree.locate_name ⟨by decide, by decide, by decide, by decide⟩ (by decide) hplace.ne_link
  refine .cons (FileTree.writeUnder_name hlocate hplace.ne_directory [49]) hplace ?_ (.nil _)
  rw [locate_appOutput .target (FileTree.atMostFile_of_vacant rfl)]
  simp

theorem runs_bare : Transpiler.hy.Runs appSource bare appOutput reporting where
  output_eq := by decide
  shown := rfl
  ends := ⟨_, Transpiler.argv_hy rfl, rfl, _, rfl, congrArg Prod.snd writesAside_bare.found?_eq.1⟩

/-- A source beside a script of another origin. -/
def neglected : Machine where
  tree := ⟨[(["app.hy"], .file [40]), (["app.py"], .file [49])]⟩
  pending := [.ended {}]

theorem runs_neglected : Transpiler.hy.Runs appSource neglected appOutput {} where
  output_eq := by decide
  shown := rfl
  ends := ⟨_, Transpiler.argv_hy rfl, rfl, _, rfl, rfl⟩

/-- Where nothing stood, a compiler that writes nothing there is found out, and nothing is loaded. -/
theorem output_found_or_left_bare :
    (Transpiler.hy.compile appSource bare).1 = .error (.compilation (.noOutput "hy2py" appOutput)) ∧
      (standard.resolve (.ofPath appSource) bare).2.calls = [] := by
  have hspared : bare.Spares appOutput reporting := spares_of_writesAside writesAside_bare
  have hvacant : ¬ bare.Occupied appOutput := by
    rw [Occupied, FileTree.found?_of_locate (locate_appOutput .target (FileTree.atMostFile_of_vacant rfl) _)]
    decide
  have hexists : (bare.treeAfter reporting).exists? bare.cwd (.ofPath appOutput) = .ok false := by
    rw [treeAfter, writesAside_bare.found?_eq.1]
    exact FileTree.exists?_of_locate (locate_appOutput .target (FileTree.atMostFile_of_vacant rfl) _)
  obtain ⟨hfails, hloads⟩ := (output_found_or_left .hy appSource appOutput bare).2 _ runs_bare rfl hspared
  refine ⟨(hfails hvacant).resolve_right ?_, (hloads standard _ rfl rfl classify_appSource).1 hvacant⟩
  rw [hexists]
  simp

/-- A compiler that has written nothing ends well, and the script that stood there is loaded. -/
theorem stale_script_loaded :
    neglected.pending = [.ended {}] ∧ ({} : ToolResult).code = 0 ∧ ({} : ToolResult).writes = [] ∧
      (∃ m₁, Transpiler.hy.compile appSource neglected = (.ok appOutput, m₁)) ∧
      ∃ call, (standard.resolve (.ofPath appSource) neglected).2.calls = [call] ∧ call.content = some [49] := by
  have hlocate : neglected.tree.locate neglected.cwd .target (.ofPath appOutput) = .ok ["app.py"] :=
    locate_appOutput .target (FileTree.atMostFile_of_file rfl) _
  have hfound : neglected.tree.found? neglected.cwd (.ofPath appOutput) = some (.file [49]) :=
    FileTree.found?_of_locate hlocate
  have hproduces : Transpiler.hy.Produces appSource neglected appOutput {} := by
    refine (Transpiler.produces_iff runs_neglected).mpr ⟨rfl, .inr ⟨rfl, ?_⟩⟩
    rw [Occupied, hfound]
    rfl
  have hsource : neglected.tree.AtMostFile ["app.hy"] := FileTree.atMostFile_of_file rfl
  have hreal : (neglected.treeAfter {}).realPath (.ofLocation neglected.cwd) appSource = .ok appSource :=
    FileTree.realPath_name ⟨by decide, by decide, by decide, by decide⟩ (by decide) (by decide) hsource.ne_link _
  obtain ⟨m₁, hcompile, -⟩ := Transpiler.compile_of_produces hproduces
  obtain ⟨call, hcalls, -, hcontent⟩ := calls_of_produces (r := standard) rfl classify_appSource hproduces hreal
  have hread : (neglected.treeAfter {}).read neglected.cwd (.ofPath appOutput) = .ok [49] :=
    FileTree.read_eq_ok_iff.mpr (FileTree.found?_eq_some_iff.mp hfound)
  refine ⟨rfl, rfl, rfl, ⟨m₁, hcompile⟩, call, hcalls, ?_⟩
  rw [hcontent, hread]
  rfl

end Stale

end Resolver

end ScriptRunner
