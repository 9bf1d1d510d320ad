import ScriptRunner.Proofs.Artifact.Creation
import ScriptRunner.Proofs.Compilation.Failures
import ScriptRunner.Proofs.Resolution.Pipeline

/-! The ways in which a script is prepared: it is there already, it is written to a new file, or a
compiler leaves it; and the ways in which there comes none of it. -/

namespace ScriptRunner

namespace Source

/-- A source holds its text, or the bytes of the file that it names. -/
inductive Holds (s : Source) (m : Machine) : Bytes → Prop where
  | text {data} (h : s.body = .text data) : Holds s m data
  | file {path data} (h : s.body = .file path) (hfile : m.tree.HoldsAt m.cwd path data) : Holds s m data

/-- What keeps a source from being read. A text can always be read. -/
inductive Unreadable (s : Source) (m : Machine) : Failure → Prop where
  | file {path fault} (h : s.body = .file path) (hfault : m.tree.Unreadable m.cwd path fault) :
      Unreadable s m (.ofFault path.toString fault)

theorem read_eq_ok_iff {s : Source} {m : Machine} {data : Bytes} : s.read m = .ok data ↔ s.Holds m data := by
  unfold read
  cases hbody : s.body with
  | text content =>
      constructor
      · intro h
        cases h
        exact .text hbody
      · intro h
        cases h with
        | text h => cases hbody.symm.trans h; rfl
        | file h => cases hbody.symm.trans h
  | file path =>
      dsimp only
      cases hread : m.tree.read m.cwd (.ofPath path) with
      | error fault =>
          refine iff_of_false nofun fun h => ?_
          cases h with
          | text h => cases hbody.symm.trans h
          | file h hfile =>
              cases hbody.symm.trans h
              cases hread.symm.trans (FileTree.read_eq_ok_iff_holdsAt.mpr hfile)
      | ok content =>
          have hfile := FileTree.read_eq_ok_iff_holdsAt.mp hread
          constructor
          · intro h
            cases h
            exact .file hbody hfile
          · intro h
            cases h with
            | text h => cases hbody.symm.trans h
            | file h hfile' =>
                cases hbody.symm.trans h
                cases hread.symm.trans (FileTree.read_eq_ok_iff_holdsAt.mpr hfile')
                rfl

theorem Holds.unique {s : Source} {m : Machine} {data data' : Bytes} (h : s.Holds m data)
    (h' : s.Holds m data') : data = data' :=
  Except.ok.inj ((read_eq_ok_iff.mpr h).symm.trans (read_eq_ok_iff.mpr h'))

theorem read_eq_error_iff {s : Source} {m : Machine} {f : Failure} :
    s.read m = .error f ↔ s.Unreadable m f := by
  unfold read
  cases hbody : s.body with
  | text content => exact iff_of_false nofun fun ⟨h, _⟩ => by cases hbody.symm.trans h
  | file path =>
      dsimp only
      cases hread : m.tree.read m.cwd (.ofPath path) with
      | ok content =>
          refine iff_of_false nofun fun h => ?_
          obtain ⟨h, hfault⟩ := h
          cases hbody.symm.trans h
          cases hread.symm.trans (FileTree.read_eq_error_iff.mpr hfault)
      | error fault =>
          constructor
          · intro h
            cases h
            exact .file hbody (FileTree.read_eq_error_iff.mp hread)
          · intro h
            obtain ⟨h, hfault⟩ := h
            cases hbody.symm.trans h
            cases hread.symm.trans (FileTree.read_eq_error_iff.mpr hfault)
            rfl

end Source

namespace Resolver

open Machine

/-- What is written for a source that needs no compiler: its bytes, or the script of a document. -/
inductive HoldsScript (s : Source) (m : Machine) : Bytes → Prop where
  | raw {data} (hext : s.extension = "") (hdata : s.Holds m data) : HoldsScript s m data
  | literate {document text} (hext : s.extension = literateExtension) (hdata : s.Holds m document)
      (hdecode : Utf8.decode document = .ok text) :
      HoldsScript s m (Utf8.encode (Literate.extract .python text))

/-- A compiler is launched for a source, and ends. -/
def ToolRuns (r : Resolver) (s : Source) (m : Machine) (output : Path) (tool : ToolResult) : Prop :=
  ∃ t, classify r.registry s = .ok (.normalize (.transpiled t)) ∧ t.Runs s.label m output tool

/-- What comes of preparing a script, with what happens to the files. -/
inductive Preparation (r : Resolver) (s : Source) (m : Machine) :
    Except Failure Artifact × Machine → Prop where
  | refused {f m'} (hidle : ∀ output tool, ¬ r.ToolRuns s m output tool) (hframe : Frame m m')
      (htree : m.Writable → m'.tree = m.tree) : Preparation r s m (.error f, m')
  | script {m'} (hext : s.extension = scriptExtension)
      (hstep : classify r.registry s = .ok .execute) (hframe : Frame m m')
      (htree : m'.tree = m.tree) : Preparation r s m (.ok ⟨s.label, false⟩, m')
  | written {a : Artifact} {data l m'} (hdata : HoldsScript s m data)
      (hidle : ∀ output tool, ¬ r.ToolRuns s m output tool) (hcreated : a.Created data l m m')
      (hname : ∃ token, token ≠ "" ∧ a.path.name = s.stem ++ "-" ++ token ++ scriptExtension) :
      Preparation r s m (.ok a, m')
  | compiled {t output tool m'} (hstep : classify r.registry s = .ok (.normalize (.transpiled t)))
      (htool : t.Produces s.label m output tool) (hframe : Frame m m')
      (htree : m'.tree = m.treeAfter tool) : Preparation r s m (.ok ⟨output, true⟩, m')
  | uncompiled {f output tool m'} (htool : r.ToolRuns s m output tool)
      (hnone : tool.code = 0 → (m.treeAfter tool).exists? m.cwd (.ofPath output) ≠ .ok true)
      (hframe : Frame m m') (htree : m'.tree = m.leftovers output tool) :
      Preparation r s m (.error f, m')

variable {r : Resolver} {s : Source} {m : Machine}

/-- At most one compiler is launched for a source, and it ends in one way. -/
theorem ToolRuns.unique {output output' : Path} {tool tool' : ToolResult}
    (h : r.ToolRuns s m output tool) (h' : r.ToolRuns s m output' tool') :
    output = output' ∧ tool = tool' := by
  obtain ⟨t, hstep, hruns⟩ := h
  obtain ⟨t', hstep', hruns'⟩ := h'
  obtain ⟨_, -, -, rest, hpending, -⟩ := hruns.ends
  obtain ⟨_, -, -, rest', hpending', -⟩ := hruns'.ends
  have houtput := hruns.output_eq.symm.trans hruns'.output_eq
  have hend := hpending.symm.trans hpending'
  exact ⟨Except.ok.inj houtput, ToolRun.ended.inj (List.cons.inj hend).1⟩

theorem frame_announced (label : Path) (step : Step) (m : Machine) :
    Frame m (announced label step m) := m.frame_log _

theorem holdsScript_of_extractBytes {data : Bytes} (hext : s.extension = literateExtension)
    (h : (s.read m).bind Literate.extractBytes = .ok data) : HoldsScript s m data := by
  cases hread : s.read m with
  | error f => simp [hread, Except.bind] at h
  | ok document =>
      simp only [hread, Except.bind, Literate.extractBytes] at h
      split at h
      · rename_i text hdecode
        cases h
        exact .literate hext (Source.read_eq_ok_iff.mp hread) hdecode
      · cases h

theorem extension_of_classify_execute (h : classify r.registry s = .ok .execute) :
    s.extension = scriptExtension := by
  grind [classify]

theorem not_toolRuns_of_classify {result : Except Failure Step}
    (h : classify r.registry s = result) (hr : ∀ t, result ≠ .ok (.normalize (.transpiled t)))
    (output : Path) (tool : ToolResult) : ¬ r.ToolRuns s m output tool := by
  rintro ⟨t, hstep, -⟩
  exact hr t (h.symm.trans hstep)

theorem fst_create_announced (names : TempNames) (data : Bytes) (stem directory : String)
    (label : Path) (step : Step) (m : Machine) :
    (Artifact.create names data stem directory (announced label step m)).1 =
      (Artifact.create names data stem directory m).1 := by
  unfold Artifact.create
  dsimp only [announced, log, record]
  split <;> rfl

/-- A source that needs no compiler is written to a new file, unless it cannot be read or no file can
be made. -/
theorem preparation_of_materialize {n : Normalization} (data : Except Failure Bytes)
    (hstep : classify r.registry s = .ok (.normalize n)) (hn : ∀ t, n ≠ .transpiled t)
    (hproduce : r.produce n s (announced s.label (.normalize n) m) =
      r.materialize s data (announced s.label (.normalize n) m))
    (hok : ∀ d, data = .ok d → HoldsScript s m d) :
    r.Preparation s m (r.prepare s m) := by
  have hidle : ∀ output tool, ¬ r.ToolRuns s m output tool :=
    not_toolRuns_of_classify hstep fun t ht => hn t (Step.normalize.inj (Except.ok.inj ht))
  have hframe := frame_announced s.label (.normalize n) m
  unfold prepare
  rw [hstep]
  dsimp only
  rw [hproduce]
  cases data with
  | error f => exact .refused hidle hframe fun _ => rfl
  | ok d =>
      rcases Artifact.create_cases r.names d s.stem r.artifactDirectory
        (announced s.label (.normalize n) m) with
        ⟨a, l, m', token, hcreate, hcreated, hpath, htoken⟩ | ⟨f, hcreate⟩
      · rw [materialize, hcreate]
        refine .written (hok d rfl) hidle (hcreated.of_frame hframe rfl (frame_announced _ _ _) rfl) ⟨token, htoken, ?_⟩
        rw [hpath, Artifact.name_artifactPath s.slash_notMem_stem]
      · rw [materialize, hcreate]
        exact .refused hidle hframe fun _ => rfl

theorem runs_announced {t : Transpiler} {source label output : Path} {step : Step}
    {tool : ToolResult} :
    t.Runs source (announced label step m) output tool ↔ t.Runs source m output tool :=
  Transpiler.runs_log

theorem produces_announced {t : Transpiler} {source label output : Path} {step : Step}
    {tool : ToolResult} :
    t.Produces source (announced label step m) output tool ↔ t.Produces source m output tool :=
  ⟨fun h => ⟨runs_announced.mp h.toRuns, h.code_eq, h.exists_eq⟩,
    fun h => ⟨runs_announced.mpr h.toRuns, h.code_eq, h.exists_eq⟩⟩

/-- A source that is compiled launches one program at most. -/
theorem preparation_of_compile {t : Transpiler}
    (hstep : classify r.registry s = .ok (.normalize (.transpiled t))) :
    r.Preparation s m (r.prepare s m) := by
  let mlog := announced s.label (.normalize (.transpiled t)) m
  have hlog : Frame m mlog := frame_announced _ _ _
  have hframe := hlog.trans (t.frame_compile s.label mlog)
  unfold prepare
  rw [hstep]
  dsimp only [produce]
  rw [show announced s.label (.normalize (.transpiled t)) m = mlog from rfl]
  by_cases hruns : ∃ output tool, t.Runs s.label mlog output tool
  · obtain ⟨output, tool, hruns⟩ := hruns
    by_cases hproduces : t.Produces s.label mlog output tool
    · obtain ⟨m', hcompile, htree⟩ := Transpiler.compile_of_produces hproduces
      rw [hcompile] at hframe ⊢
      exact .compiled hstep (produces_announced.mp hproduces)
        (hframe.trans (frame_announced _ _ _)) htree
    · obtain ⟨f, m', hcompile, htree⟩ :=
        Transpiler.compile_of_runs_of_not_produces hruns hproduces
      rw [hcompile] at hframe ⊢
      exact .uncompiled ⟨t, hstep, runs_announced.mp hruns⟩
        (fun hcode he => hproduces ⟨hruns, hcode, he⟩) hframe htree
  · obtain ⟨f, m', hcompile, htree⟩ := Transpiler.compile_of_not_runs
      fun output tool h => hruns ⟨output, tool, h⟩
    rw [hcompile] at hframe ⊢
    refine .refused ?_ hframe fun hw => htree ⟨hw.ended, hw.refused⟩
    rintro output tool ⟨t', hstep', h⟩
    cases hstep.symm.trans hstep'
    exact hruns ⟨output, tool, runs_announced.mpr h⟩

theorem preparation_prepare (r : Resolver) (s : Source) (m : Machine) :
    r.Preparation s m (r.prepare s m) := by
  cases hstep : classify r.registry s with
  | error f =>
      have hidle := not_toolRuns_of_classify (m := m) hstep (by simp)
      unfold prepare
      rw [hstep]
      exact .refused hidle (.refl m) fun _ => rfl
  | ok step =>
      cases step with
      | execute =>
          unfold prepare
          rw [hstep]
          exact .script (extension_of_classify_execute hstep) hstep (frame_announced _ _ _) rfl
      | normalize n =>
          cases n with
          | raw =>
              have hext := extension_of_classify_raw hstep
              exact preparation_of_materialize (s.read m) hstep (by simp) rfl
                fun d hread => .raw hext (Source.read_eq_ok_iff.mp hread)
          | literate =>
              have hext := extension_of_classify_literate hstep
              exact preparation_of_materialize ((s.read m).bind Literate.extractBytes) hstep
                (by simp) rfl fun d => holdsScript_of_extractBytes hext
          | transpiled t => exact preparation_of_compile hstep

end Resolver
end ScriptRunner
