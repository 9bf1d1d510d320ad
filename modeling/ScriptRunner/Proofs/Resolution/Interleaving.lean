import ScriptRunner.Proofs.FileTree.RealPath
import ScriptRunner.Proofs.Resolution.Cleanup
import ScriptRunner.Proofs.Resolution.Processes

/-! Two processes in one tree. Main statement: whichever steps the two take in turn, each loader is handed what
its own process has prepared, exactly if the two are not compiled to one place. -/

namespace ScriptRunner

/-- Two processes that share a tree. -/
structure Pair where
  tree : FileTree
  first : Process
  second : Process

namespace Pair

/-- The pair with its processes the other way round. -/
def swap (s : Pair) : Pair := ⟨s.tree, s.second, s.first⟩

/-- One of the processes takes its next step. -/
def step (s : Pair) (first : Bool) : Pair :=
  if first then ⟨(s.first.step s.tree).1, (s.first.step s.tree).2, s.second⟩
  else ⟨(s.second.step s.tree).1, s.first, (s.second.step s.tree).2⟩

/-- The processes take steps in the order of a schedule. -/
def run (s : Pair) (schedule : List Bool) : Pair := schedule.foldl step s

/-- No loader was handed anything but what its own process has prepared. -/
def Undisturbed (s : Pair) : Prop := s.first.ReadsOwn ∧ s.second.ReadsOwn

end Pair

/-- No new name of one process leads to the place that the other is about to be compiled to. -/
def Process.Avoids (t₀ : FileTree) (p q : Process) : Prop :=
  q.phase = .ready → ∀ t l, p.Names t l → ¬ q.CompilesTo t₀ l

/-- Two processes that have not come between one another so far. -/
structure Pair.Sound (t₀ : FileTree) (s : Pair) : Prop where
  shape : FileTree.SameShape t₀ s.tree
  intact : s.first.Intact t₀ s.tree ∧ s.second.Intact t₀ s.tree
  onlyReads : s.first.resolver.OnlyReads ∧ s.second.resolver.OnlyReads
  avoids : s.first.Avoids t₀ s.second ∧ s.second.Avoids t₀ s.first
  apart : ∀ l, s.first.Claims t₀ l → ¬ s.second.Claims t₀ l

variable {t₀ t t' : FileTree} {p p' q : Process} {s : Pair}

namespace Process

theorem Footprint.names_iff (h : Footprint t₀ t p t' p') (t₁ : FileTree) (l : Location) :
    p'.Names t₁ l ↔ p.Names t₁ l := by
  rw [Names, Names, h.resolver_eq, h.source_eq, h.cwd_eq]

/-- A process whose places are not those of the other is not affected by the other's step. -/
theorem Footprint.intact_other (h : Footprint t₀ t p t' p') (hq : q.Intact t₀ t)
    (hapart : ∀ l, p.Claims t₀ l → ¬ q.Claims t₀ l) : q.Intact t₀ t' where
  starts := hq.starts
  keeps := by
    intro a ha
    obtain ⟨hheld, l, data, hl, hfile, hproduced⟩ := hq.keeps a ha
    have hclaim : ¬ p.Claims t₀ l := fun hp => hapart l hp (.inl ⟨a, ha, hl⟩)
    exact ⟨hheld, l, data, hl, (h.untouched l hclaim (by simp [hfile])).trans hfile, hproduced⟩
  reads := hq.reads

/-- The places of two processes stay apart, since a new name leads where neither of them has a file. -/
theorem Footprint.apart (h : Footprint t₀ t p t' p') (hq : q.Intact t₀ t) (havoids : p.Avoids t₀ q)
    (hapart : ∀ l, p.Claims t₀ l → ¬ q.Claims t₀ l) (l : Location) (hl : p'.Claims t₀ l) :
    ¬ q.Claims t₀ l := by
  rcases h.claims l hl with hold | ⟨hvacant, hnames⟩
  · exact hapart l hold
  · rintro (⟨a, ha, hla⟩ | ⟨hphase, hcompiles⟩)
    -- the other's file stands there, and nothing does; or it is going to, which names are to avoid
    · obtain ⟨-, l', data, hl', hfile, -⟩ := hq.keeps a ha
      obtain rfl : l = l' := Except.ok.inj (hla.symm.trans hl')
      cases hvacant.symm.trans hfile
    · exact havoids hphase t l hnames hcompiles

end Process

namespace Pair

theorem Sound.swap (h : s.Sound t₀) : s.swap.Sound t₀ where
  shape := h.shape
  intact := h.intact.symm
  onlyReads := h.onlyReads.symm
  avoids := h.avoids.symm
  apart := fun l hsecond hfirst => h.apart l hfirst hsecond

theorem step_false (s : Pair) : s.step false = (s.swap.step true).swap := rfl

theorem Sound.step_true (h : s.Sound t₀) : (s.step true).Sound t₀ := by
  have hstep := Process.footprint_step h.onlyReads.1 h.shape h.intact.1
  exact {
    shape := h.shape.trans hstep.shape
    intact := ⟨hstep.intact, hstep.intact_other h.intact.2 h.apart⟩
    onlyReads := ⟨hstep.resolver_eq ▸ h.onlyReads.1, h.onlyReads.2⟩
    avoids := ⟨fun hphase t l hnames => h.avoids.1 hphase t l ((hstep.names_iff t l).mp hnames),
      fun hphase => absurd hphase hstep.started⟩
    apart := hstep.apart h.intact.2 h.avoids.1 h.apart }

/-- What a step preserves. -/
theorem Sound.step (h : s.Sound t₀) (first : Bool) : (s.step first).Sound t₀ := by
  cases first with
  | true => exact h.step_true
  | false =>
      rw [step_false]
      exact h.swap.step_true.swap

/-- What a whole run preserves. -/
theorem Sound.run (h : s.Sound t₀) (schedule : List Bool) : (s.run schedule).Sound t₀ := by
  induction schedule generalizing s with
  | nil => exact h
  | cons first rest ih => exact ih (h.step first)

theorem Sound.undisturbed (h : s.Sound t₀) : s.Undisturbed := ⟨h.intact.1.reads, h.intact.2.reads⟩

end Pair

/-! ## From the start -/

/-- A process that has not begun yet, with a script that only reads. -/
structure Process.Starts (t₀ : FileTree) (p : Process) : Prop where
  ready : p.phase = .ready
  calls_eq : p.machine.calls = []
  produces : p.NeedsNoCompiler ∨ ∃ l, p.CompilesTo t₀ l
  onlyReads : p.resolver.OnlyReads
  hasFilename : ∃ filename, t₀.realPath (.ofLocation p.machine.cwd) p.source.origin = .ok filename

namespace Process

variable {l : Location}

theorem Starts.intact (h : p.Starts t₀) : p.Intact t₀ t₀ where
  starts := fun _ => ⟨h.calls_eq, h.produces⟩
  keeps := by
    intro a ha
    rw [h.ready] at ha
    cases ha
  reads := by simp [ReadsOwn, h.calls_eq]

theorem Starts.claims_iff (h : p.Starts t₀) : p.Claims t₀ l ↔ p.CompilesTo t₀ l := by
  constructor
  · rintro (⟨a, ha, -⟩ | ⟨-, hcompiles⟩)
    · rw [h.ready] at ha
      cases ha
    · exact hcompiles
  · exact fun hcompiles => .inr ⟨h.ready, hcompiles⟩

end Process

namespace Pair

theorem sound_of_starts (hp : p.Starts t₀) (hq : q.Starts t₀) (havoids : p.Avoids t₀ q ∧ q.Avoids t₀ p)
    (hapart : ¬ ∃ l, p.CompilesTo t₀ l ∧ q.CompilesTo t₀ l) : (Pair.mk t₀ p q).Sound t₀ where
  shape := .refl t₀
  intact := ⟨hp.intact, hq.intact⟩
  onlyReads := ⟨hp.onlyReads, hq.onlyReads⟩
  avoids := havoids
  apart := fun l hpl hql => hapart ⟨l, hp.claims_iff.mp hpl, hq.claims_iff.mp hql⟩

/-- Both prepare their script, then the first process loads its own and leaves, then the second loads. -/
def crossing : List Bool := [true, false, true, true, false]

theorem second_run_crossing (s : Pair) :
    (s.run crossing).second = ((s.second.step (s.first.step s.tree).1).2.step
      ((s.first.step s.tree).2.steps (s.second.step (s.first.step s.tree).1).1 2).1).2 := rfl

/-- The second loader finds nothing at the place that both processes are compiled to. -/
theorem disturbed_of_compilesTo {l : Location} (hp : p.Starts t₀) (hq : q.Starts t₀)
    (hpl : p.CompilesTo t₀ l) (hql : q.CompilesTo t₀ l) : ¬ ((Pair.mk t₀ p q).run crossing).Undisturbed := by
  obtain ⟨path, data, hfirst⟩ := hpl
  obtain ⟨path', data', hsecond⟩ := hql
  obtain ⟨m, hprepare, htree, hframe⟩ := hfirst.prepare (.refl t₀)
  have hshape : FileTree.SameShape t₀ m.tree := htree ▸ hfirst.atMostFile.sameShape_set data
  obtain ⟨m', hprepare', htree', hframe'⟩ := hsecond.prepare hshape
  have hshape' : FileTree.SameShape t₀ m'.tree :=
    hshape.trans (htree' ▸ (hfirst.atMostFile.of_sameShape hshape).sameShape_set data')
  have hplace := hfirst.atMostFile.of_sameShape hshape'
  have hshape'' := hshape'.trans hplace.sameShape_erase
  have hcwd : m.cwd = p.machine.cwd := hframe.cwd_eq
  have hcwd' : m'.cwd = q.machine.cwd := hframe'.cwd_eq
  -- what the first process takes away as its own is the file of the second by now
  have htaken : ((p.prepared ⟨path, true⟩ m).steps m'.tree 2).1 = m'.tree.erase l :=
    Process.steps_of_prepared hp.onlyReads rfl rfl (hshape'.locate_eq (hcwd ▸ hfirst.locate_eq)) hplace.ne_directory
  obtain ⟨filename, hfilename⟩ := hq.hasFilename
  rw [← FileTree.realPath_of_sameShape hshape'', ← hcwd'] at hfilename
  have hvacant : (m'.tree.erase l).get? l = none := by rw [FileTree.get?_erase _ hplace.ne_nil, if_pos rfl]
  obtain ⟨call, hcall, hnone⟩ := Process.exists_call_of_vacant (p := q.prepared ⟨path', true⟩ m')
    hq.onlyReads rfl (hshape''.locate_eq (hcwd' ▸ hsecond.locate_eq)) hvacant hfilename
  rintro ⟨-, hreads⟩
  rw [second_run_crossing, Process.step_of_prepare hp.ready hprepare,
    Process.step_of_prepare hq.ready hprepare', htaken] at hreads
  obtain ⟨data, -, hcontent⟩ := hreads call hcall
  cases hnone.symm.trans hcontent

/-- Whichever steps two processes take in turn, each loader is handed what its own process has prepared,
exactly if there is no place that both are compiled to. -/
theorem undisturbed_iff (hp : p.Starts t₀) (hq : q.Starts t₀) (havoids : p.Avoids t₀ q ∧ q.Avoids t₀ p) :
    (∀ schedule, ((Pair.mk t₀ p q).run schedule).Undisturbed) ↔
      ¬ ∃ l, p.CompilesTo t₀ l ∧ q.CompilesTo t₀ l := by
  constructor
  · rintro hundisturbed ⟨l, hpl, hql⟩
    exact disturbed_of_compilesTo hp hq hpl hql (hundisturbed crossing)
  · intro hapart schedule
    exact ((sound_of_starts hp hq havoids hapart).run schedule).undisturbed

section Shelf

open Resolver Process

/-- Two sources of one stem in the root directory, and a directory for artifacts. -/
def shelf : FileTree := ⟨[(["app.hy"], .file [40]), (["app.coco"], .file [41]), (["tmp"], .directory)]⟩

/-- A compiler that writes `app.py`. -/
def writingApp (data : Bytes) : ToolResult where
  writes := [.file ⟨.slash, ["app.py"]⟩ data]

/-- A source in the root directory that is given to such a compiler. -/
def compiling (n : String) (data : Bytes) : Process where
  resolver := standard
  source := .ofPath ⟨.slash, [n]⟩
  machine := { pending := [.ended (writingApp data)] }

theorem writeAll_shelf {t : FileTree} (hshape : FileTree.SameShape shelf t) (data : Bytes) :
    t.writeAll [] (writingApp data).writes = (t.set ["app.py"] (.file data), none) := by
  have hlocate : shelf.locate [] .file (.ofPath ⟨.slash, ["app.py"]⟩) = .ok ["app.py"] :=
    FileTree.locate_eq_ok_iff.mpr ⟨by decide, by cbv⟩
  have hvacant : shelf.AtMostFile ["app.py"] := FileTree.atMostFile_of_vacant (by decide)
  have hwrite := FileTree.writeUnder_name (hshape.locate_eq hlocate) (hvacant.of_sameShape hshape).ne_directory data
  simp only [writingApp, FileTree.writeAll, Writing.apply, hwrite]

theorem writesOutput_compiling {n : String} {transpiler : Transpiler}
    (hstep : classify Registry.standard (.ofPath ⟨.slash, [n]⟩) = .ok (.normalize (.transpiled transpiler)))
    (houtput : Transpiler.outputPath ⟨.slash, [n]⟩ = .ok ⟨.slash, ["app.py"]⟩)
    {argv : List String} (hargv : transpiler.argv ⟨.slash, [n]⟩ = .ok argv) (hvalid : argvFault? argv = none)
    (hshown : Console.standard.status (transpiler.progress ⟨.slash, [n]⟩) = .ok ()) (data : Bytes) :
    (compiling n data).WritesOutput shelf ⟨.slash, ["app.py"]⟩ data ["app.py"] where
  compiles := by
    refine ⟨transpiler, writingApp data, hstep, rfl, fun t hshape => ⟨?_, ?_⟩⟩
    · exact ⟨houtput, hshown, _, hargv, hvalid, _, rfl, congrArg Prod.snd (writeAll_shelf hshape data)⟩
    · exact congrArg Prod.fst (writeAll_shelf hshape data)
  locate_eq := FileTree.locate_eq_ok_iff.mpr ⟨by decide, by cbv⟩
  atMostFile := FileTree.atMostFile_of_vacant (by decide)

theorem compilesTo_hy (data : Bytes) : (compiling "app.hy" data).CompilesTo shelf ["app.py"] :=
  ⟨_, data, writesOutput_compiling (classify_hy (by decide)) rfl (Transpiler.argv_hy rfl) rfl rfl data⟩

theorem compilesTo_coco (data : Bytes) : (compiling "app.coco" data).CompilesTo shelf ["app.py"] := by
  have hsuffix : (⟨.slash, ["app.coco"]⟩ : Path).suffix = ".coco" := by decide
  have hstep := classify_standard (p := ⟨.slash, ["app.coco"]⟩) (t := .coconut)
    (by simp [hsuffix, Registry.standard])
  exact ⟨_, data, writesOutput_compiling hstep rfl (Transpiler.argv_coconut rfl) rfl rfl data⟩

theorem ne_link_shelf (n target : String) : shelf.get? [n] ≠ some (.link target) := by
  simp only [shelf, FileTree.get?, List.lookup]
  grind

theorem starts_compiling {n : String} (hn : FileTree.Proper .target n []) (hslash : '/' ∉ n.toList)
    (hnull : '\x00' ∉ n.toList) {data : Bytes} (h : (compiling n data).CompilesTo shelf ["app.py"]) :
    (compiling n data).Starts shelf where
  ready := rfl
  calls_eq := rfl
  produces := .inr ⟨_, h⟩
  onlyReads := fun _ => ⟨rfl, rfl⟩
  hasFilename := ⟨_, FileTree.realPath_name hn hslash hnull (ne_link_shelf n) _⟩

theorem starts_hy (data : Bytes) : (compiling "app.hy" data).Starts shelf :=
  starts_compiling ⟨by decide, by decide, by decide, by decide⟩ (by decide) (by decide) (compilesTo_hy data)

theorem starts_coco (data : Bytes) : (compiling "app.coco" data).Starts shelf :=
  starts_compiling ⟨by decide, by decide, by decide, by decide⟩ (by decide) (by decide) (compilesTo_coco data)

/-- A script that is piped in. -/
def piping (data : Bytes) : Process where
  resolver := standard
  source := .ofText data ⟨.slash, ["stdin.py"]⟩
  machine := {}

theorem needsNoCompiler_piping (data : Bytes) : (piping data).NeedsNoCompiler := ⟨.raw, rfl, by simp⟩

theorem starts_piping (data : Bytes) : (piping data).Starts shelf where
  ready := rfl
  calls_eq := rfl
  produces := .inl (needsNoCompiler_piping data)
  onlyReads := fun _ => ⟨rfl, rfl⟩
  hasFilename := ⟨_, FileTree.realPath_name ⟨by decide, by decide, by decide, by decide⟩ (by decide) (by decide)
    (ne_link_shelf _) _⟩

theorem not_compilesTo_piping {data : Bytes} {l : Location} : ¬ (piping data).CompilesTo shelf l := by
  rintro ⟨output, script, ⟨transpiler, tool, hstep, -⟩, -⟩
  cases hstep

/-- The names for what is piped in start otherwise. -/
theorem avoids_piping (data script : Bytes) : (piping data).Avoids shelf (compiling "app.hy" script) := by
  rintro - t l ⟨issued, hnamed⟩ hcompiles
  obtain rfl : ["app.py"] = l := (compilesTo_hy script).unique hcompiles
  have hstart : standard.artifactStart (piping []).source [] = ⟨.slash, ["tmp", "stdin-"]⟩ := by decide
  have hname := FileTree.getLast?_of_locate hnamed
  change _ = some ((standard.artifactStart (piping []).source []).name ++ _ ++ _) at hname
  rw [hstart] at hname
  have hletters := congrArg (Option.map String.toList) hname
  simp [Path.name] at hletters

theorem undisturbed_iff_piped :
    (piping [49]).Starts shelf ∧ (compiling "app.hy" [50]).Starts shelf ∧
      ∀ schedule, ((Pair.mk shelf (piping [49]) (compiling "app.hy" [50])).run schedule).Undisturbed := by
  refine ⟨starts_piping [49], starts_hy [50], ?_⟩
  have havoids : (compiling "app.hy" [50]).Avoids shelf (piping [49]) := fun _ _ _ _ => not_compilesTo_piping
  refine (undisturbed_iff (starts_piping [49]) (starts_hy [50]) ⟨avoids_piping [49] [50], havoids⟩).mpr ?_
  exact fun ⟨_, hcompiles, _⟩ => not_compilesTo_piping hcompiles

/-- Two sources of one stem are compiled to one place. -/
theorem sources_of_one_stem_collide :
    (compiling "app.hy" [49]).Starts shelf ∧ (compiling "app.coco" [50]).Starts shelf ∧
      ¬ ((Pair.mk shelf (compiling "app.hy" [49]) (compiling "app.coco" [50])).run crossing).Undisturbed :=
  ⟨starts_hy [49], starts_coco [50], disturbed_of_compilesTo (starts_hy [49]) (starts_coco [50])
    (compilesTo_hy [49]) (compilesTo_coco [50])⟩

end Shelf

end Pair
end ScriptRunner
