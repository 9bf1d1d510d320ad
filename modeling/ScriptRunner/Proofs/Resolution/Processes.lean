import ScriptRunner.Proofs.Resolution.Written

/-! Resolutions as processes. A process prepares its script, has it loaded and removes it, and other processes
may take steps in between; what they share is the tree. What one step does to the tree is said once for
each step. -/

namespace ScriptRunner

inductive Phase where
  | ready
  | prepared (a : Artifact)
  | loaded (a : Artifact) (outcome : Except Failure Value)
  | ended (outcome : Except Failure Value)

/-- The artifact that is there from its preparation until it is left. -/
def Phase.artifact? : Phase → Option Artifact
  | .prepared a | .loaded a _ => some a
  | .ready | .ended _ => none

/-- A resolution that is under way. The tree of its machine is the one that its last step left. -/
structure Process where
  resolver : Resolver
  source : Source
  machine : Machine
  phase : Phase := .ready
  /-- What the script was when it was prepared. -/
  produced : Option Bytes := none

namespace Process

variable {p : Process} {t : FileTree}

/-- The machine of a process when it goes on in a tree. -/
def resumed (p : Process) (t : FileTree) : Machine := { p.machine with tree := t }

/-- A process that has come to a phase. -/
def moved (p : Process) (phase : Phase) (m : Machine) : Process := { p with machine := m, phase }

/-- A process with its script prepared. -/
def prepared (p : Process) (a : Artifact) (m : Machine) : Process :=
  { p.moved (.prepared a) m with produced := (m.tree.read m.cwd (.ofPath a.path)).toOption }

/-- Takes the next step in a tree: the tree after it, and the process. -/
def step (p : Process) (t : FileTree) : FileTree × Process :=
  match p.phase with
  | .ready =>
    match p.resolver.prepare p.source (p.resumed t) with
    | (.error f, m) => (m.tree, p.moved (.ended (.error f)) m)
    | (.ok a, m) => (m.tree, p.prepared a m)
  | .prepared a =>
    let (outcome, m) := p.resolver.execute (.ofPath a.path p.source.origin) (p.resumed t)
    (m.tree, p.moved (.loaded a outcome) m)
  | .loaded a outcome =>
    let (outcome, m) := a.leave outcome (p.resumed t)
    (m.tree, p.moved (.ended outcome) m)
  | .ended _ => (t, p)

theorem step_of_prepare_error {f : Failure} {m : Machine} (hphase : p.phase = .ready)
    (h : p.resolver.prepare p.source (p.resumed t) = (.error f, m)) :
    p.step t = (m.tree, p.moved (.ended (.error f)) m) := by
  simp only [step, hphase, h]

theorem step_of_prepare {a : Artifact} {m : Machine} (hphase : p.phase = .ready)
    (h : p.resolver.prepare p.source (p.resumed t) = (.ok a, m)) : p.step t = (m.tree, p.prepared a m) := by
  simp only [step, hphase, h]

theorem step_of_prepared {a : Artifact} {outcome : Except Failure Value} {m : Machine}
    (hphase : p.phase = .prepared a)
    (h : p.resolver.execute (.ofPath a.path p.source.origin) (p.resumed t) = (outcome, m)) :
    p.step t = (m.tree, p.moved (.loaded a outcome) m) := by
  simp only [step, hphase, h]

theorem step_of_loaded {a : Artifact} {outcome outcome' : Except Failure Value} {m : Machine}
    (hphase : p.phase = .loaded a outcome) (h : a.leave outcome (p.resumed t) = (outcome', m)) :
    p.step t = (m.tree, p.moved (.ended outcome') m) := by
  simp only [step, hphase, h]

theorem step_of_ended {outcome : Except Failure Value} (hphase : p.phase = .ended outcome) :
    p.step t = (t, p) := by
  simp only [step, hphase]

/-- Takes as many steps, with no other process in between. -/
def steps (p : Process) (t : FileTree) : Nat → FileTree × Process
  | 0 => (t, p)
  | n + 1 => (p.step t).2.steps (p.step t).1 n

/-- A process that is alone comes to what a resolution comes to. -/
theorem steps_alone (hr : p.resolver.registry.lookup scriptExtension = none) (hphase : p.phase = .ready)
    (t : FileTree) :
    (p.steps t 3).2.phase = .ended (p.resolver.resolve p.source (p.resumed t)).1 ∧
      (p.steps t 3).2.machine = (p.resolver.resolve p.source (p.resumed t)).2 ∧
      (p.steps t 3).1 = (p.resolver.resolve p.source (p.resumed t)).2.tree := by
  rcases hp : p.resolver.prepare p.source (p.resumed t) with ⟨f | a, m⟩
  · rw [Resolver.resolve_of_prepare_error hr hp, steps, steps, steps, step_of_prepare_error hphase hp,
      step_of_ended rfl, step_of_ended rfl]
    exact ⟨rfl, rfl, rfl⟩
  · rcases hexec : p.resolver.execute (.ofPath a.path p.source.origin) m with ⟨outcome, m₁⟩
    rcases hleave : a.leave outcome m₁ with ⟨outcome', m₂⟩
    have hload : (p.prepared a m).step m.tree = _ := step_of_prepared rfl hexec
    have hend : ((p.prepared a m).moved (.loaded a outcome) m₁).step m₁.tree = _ := step_of_loaded rfl hleave
    have hrun : p.resolver.runArtifact a p.source.origin m = (outcome', m₂) := by
      rw [Resolver.runArtifact, Resolver.runArtifactWith, show p.resolver.executeWith _ _ m = _ from hexec]
      exact hleave
    rw [Resolver.resolve_of_prepare hr hp, hrun, steps, steps, steps, step_of_prepare hphase hp, hload, hend, steps]
    exact ⟨rfl, rfl, rfl⟩

/-! ## What a process lays claim to -/

/-- A source that needs no compiler. -/
def NeedsNoCompiler (p : Process) : Prop :=
  ∃ n, classify p.resolver.registry p.source = .ok (.normalize n) ∧ ∀ t, n ≠ .transpiled t

/-- A source with a compiler that writes one file at its output path, whatever other files there are. -/
structure WritesOutput (t₀ : FileTree) (p : Process) (output : Path) (data : Bytes) (l : Location) : Prop where
  compiles : ∃ transpiler tool, classify p.resolver.registry p.source = .ok (.normalize (.transpiled transpiler)) ∧
    tool.code = 0 ∧ ∀ t, FileTree.SameShape t₀ t →
      transpiler.Runs p.source.label (p.resumed t) output tool ∧
        (p.resumed t).treeAfter tool = t.set l (.file data)
  locate_eq : t₀.locate p.machine.cwd .entry (.ofPath output) = .ok l
  atMostFile : t₀.AtMostFile l

/-- A source that is compiled to a file at a place. -/
def CompilesTo (t₀ : FileTree) (p : Process) (l : Location) : Prop :=
  ∃ output data, p.WritesOutput t₀ output data l

/-- The process has a file at the place, or is going to compile one to it. -/
def Claims (t₀ : FileTree) (p : Process) (l : Location) : Prop :=
  (∃ a, p.phase.artifact? = some a ∧ t₀.locate p.machine.cwd .entry (.ofPath a.path) = .ok l) ∨
    p.phase = .ready ∧ p.CompilesTo t₀ l

/-- A new name for the process leads to the place. -/
def Names (p : Process) (t : FileTree) (l : Location) : Prop :=
  ∃ issued, t.locate p.machine.cwd .entry (.ofPath (artifactPath
    (p.resolver.artifactStart p.source p.machine.cwd)
    (p.resolver.names.token t issued (p.resolver.artifactStart p.source p.machine.cwd)))) = .ok l

/-- The loader was handed nothing but what the process has prepared. -/
def ReadsOwn (p : Process) : Prop :=
  ∀ call ∈ p.machine.calls, ∃ data, p.produced = some data ∧ call.content = some data

/-- Nobody has come between a process and its file: the file is what it was when it was prepared, and the
loader was handed nothing else. -/
structure Intact (t₀ t : FileTree) (p : Process) : Prop where
  starts : p.phase = .ready → p.machine.calls = [] ∧ (p.NeedsNoCompiler ∨ ∃ l, p.CompilesTo t₀ l)
  keeps : ∀ a, p.phase.artifact? = some a → a.held = true ∧
    ∃ l data, t₀.locate p.machine.cwd .entry (.ofPath a.path) = .ok l ∧ t.get? l = some (.file data) ∧
      p.produced = some data
  reads : p.ReadsOwn

/-- What a step does to the tree: it changes files only, and only where nothing stood or where the process
has laid claim to the place. -/
structure Footprint (t₀ t : FileTree) (p : Process) (t' : FileTree) (p' : Process) : Prop where
  shape : FileTree.SameShape t t'
  intact : p'.Intact t₀ t'
  resolver_eq : p'.resolver = p.resolver
  source_eq : p'.source = p.source
  cwd_eq : p'.machine.cwd = p.machine.cwd
  started : p'.phase ≠ .ready
  claims : ∀ l, p'.Claims t₀ l → p.Claims t₀ l ∨ t.get? l = none ∧ p.Names t l
  untouched : ∀ l, ¬ p.Claims t₀ l → t.get? l ≠ none → t'.get? l = t.get? l

variable {t₀ : FileTree} {output : Path} {data : Bytes} {l : Location} {a : Artifact} {m : Machine}

theorem CompilesTo.unique {l' : Location} (h : p.CompilesTo t₀ l) (h' : p.CompilesTo t₀ l') : l = l' := by
  obtain ⟨output, data, hwrites⟩ := h
  obtain ⟨output', data', hwrites'⟩ := h'
  obtain ⟨_, _, -, -, htool⟩ := hwrites.compiles
  obtain ⟨_, _, -, -, htool'⟩ := hwrites'.compiles
  obtain rfl : output = output' :=
    Except.ok.inj ((htool t₀ (.refl t₀)).1.output_eq.symm.trans (htool' t₀ (.refl t₀)).1.output_eq)
  exact Except.ok.inj (hwrites.locate_eq.symm.trans hwrites'.locate_eq)

/-- What has ended lays claim to nothing. -/
theorem not_claims_moved_ended (outcome : Except Failure Value) : ¬ (p.moved (.ended outcome) m).Claims t₀ l := by
  rintro (⟨a, ha, -⟩ | ⟨hphase, -⟩)
  · cases ha
  · cases hphase

theorem intact_moved_ended {outcome : Except Failure Value} (h : (p.moved (.ended outcome) m).ReadsOwn) :
    (p.moved (.ended outcome) m).Intact t₀ t where
  starts h := by cases h
  keeps a h := by cases h
  reads := h

/-- Preparing a script puts it where nothing stood, or where it was to be compiled to. -/
theorem footprint_of_prepare (hphase : p.phase = .ready) (hshape : FileTree.SameShape t₀ t)
    (hcalls : p.machine.calls = []) (h : p.resolver.prepare p.source (p.resumed t) = (.ok a, m))
    (hheld : a.held = true) (hcwd : m.cwd = p.machine.cwd) (hcalls' : m.calls = p.machine.calls)
    (htree : m.tree = t.set l (.file data)) (hl : t₀.locate p.machine.cwd .entry (.ofPath a.path) = .ok l)
    (hfile : t.AtMostFile l) (hclaim : p.Claims t₀ l ∨ t.get? l = none ∧ p.Names t l) :
    Footprint t₀ t p (p.step t).1 (p.step t).2 := by
  have hset : FileTree.SameShape t m.tree := htree ▸ hfile.sameShape_set data
  have hget : m.tree.get? l = some (.file data) := by
    rw [htree, FileTree.get?_set t hfile.ne_nil, if_pos rfl]
  have hread : m.tree.read m.cwd (.ofPath a.path) = .ok data :=
    FileTree.read_of_locate (hcwd ▸ (hshape.trans hset).locate_eq hl) hget
  rw [step_of_prepare hphase h]
  exact {
    shape := hset
    intact := {
      starts := fun h => by cases h
      keeps := by
        intro b hb
        obtain rfl : a = b := Option.some.inj hb
        refine ⟨hheld, l, data, ?_, hget, ?_⟩
        · rw [← hl, ← hcwd]
          rfl
        · simp [prepared, hread, Except.toOption]
      reads := by
        intro call hcall
        rw [show (p.prepared a m).machine.calls = [] from hcalls'.trans hcalls] at hcall
        cases hcall }
    resolver_eq := rfl
    source_eq := rfl
    cwd_eq := hcwd
    started := fun h => by cases h
    claims := by
      rintro l' (⟨b, hb, hl'⟩ | ⟨hphase', -⟩)
      · obtain rfl : a = b := Option.some.inj hb
        have hplace : t₀.locate p.machine.cwd .entry (.ofPath a.path) = .ok l' := hcwd ▸ hl'
        obtain rfl : l = l' := Except.ok.inj (hl.symm.trans hplace)
        exact hclaim
      · cases hphase'
    untouched := by
      intro l' hclaims hsome
      have hne : l' ≠ l := by
        rintro rfl
        rcases hclaim with h | h
        · exact hclaims h
        · exact hsome h.1
      rw [htree, FileTree.get?_set t hfile.ne_nil, if_neg hne] }

theorem WritesOutput.prepare (h : p.WritesOutput t₀ output data l) (hshape : FileTree.SameShape t₀ t) :
    ∃ m, p.resolver.prepare p.source (p.resumed t) = (.ok ⟨output, true⟩, m) ∧
      m.tree = t.set l (.file data) ∧ (p.resumed t).Frame m := by
  obtain ⟨transpiler, tool, hstep, hcode, htool⟩ := h.compiles
  obtain ⟨hruns, hafter⟩ := htool t hshape
  have hfile := h.atMostFile.of_sameShape hshape
  have hentry : (t.set l (.file data)).entryAt p.machine.cwd output = some (.file data) := by
    rw [FileTree.entryAt_of_locate ((hshape.trans (hfile.sameShape_set data)).locate_eq h.locate_eq),
      FileTree.get?_set t hfile.ne_nil, if_pos rfl]
  have hproduces : transpiler.Produces p.source.label (p.resumed t) output tool :=
    ⟨hruns, hcode, hafter ▸ FileTree.exists_of_entryAt hentry (by simp)⟩
  have hannounced := Resolver.frame_announced p.source.label (.normalize (.transpiled transpiler)) (p.resumed t)
  have hproduces' : transpiler.Produces p.source.label
      (Resolver.announced p.source.label (.normalize (.transpiled transpiler)) (p.resumed t)) output tool :=
    Resolver.produces_announced.mpr hproduces
  obtain ⟨m, hcompile, htree⟩ := Transpiler.compile_of_produces hproduces'
  have hframe := transpiler.frame_compile p.source.label
    (Resolver.announced p.source.label (.normalize (.transpiled transpiler)) (p.resumed t))
  rw [hcompile] at hframe
  rw [Resolver.prepare, hstep]
  dsimp only [Resolver.produce]
  rw [hcompile]
  exact ⟨_, rfl, htree.trans hafter, (hannounced.trans hframe).trans (Resolver.frame_announced _ _ _)⟩

theorem footprint_of_writesOutput (h : p.WritesOutput t₀ output data l) (hphase : p.phase = .ready)
    (hcalls : p.machine.calls = []) (hshape : FileTree.SameShape t₀ t) :
    Footprint t₀ t p (p.step t).1 (p.step t).2 := by
  obtain ⟨m, hprepare, htree, hframe⟩ := h.prepare hshape
  exact footprint_of_prepare hphase hshape hcalls hprepare rfl hframe.cwd_eq hframe.calls_eq htree h.locate_eq
    (h.atMostFile.of_sameShape hshape) (.inl (.inr ⟨hphase, output, data, h⟩))

theorem footprint_of_needsNoCompiler (h : p.NeedsNoCompiler) (hphase : p.phase = .ready)
    (hcalls : p.machine.calls = []) (hshape : FileTree.SameShape t₀ t) :
    Footprint t₀ t p (p.step t).1 (p.step t).2 := by
  obtain ⟨n, hstep, hn⟩ := h
  rcases Resolver.prepare_cases (m := p.resumed t) hstep hn with
    ⟨f, m, hprepare, hframe, htree⟩ | ⟨a, data, l, m, hprepare, hcreated, hpath⟩
  · have hsame : m.tree = t := htree
    rw [step_of_prepare_error hphase hprepare, hsame]
    exact {
      shape := .refl t
      intact := intact_moved_ended fun call hcall => by
        rw [show (p.moved (.ended (.error f)) m).machine.calls = [] from hframe.calls_eq.trans hcalls] at hcall
        cases hcall
      resolver_eq := rfl
      source_eq := rfl
      cwd_eq := hframe.cwd_eq
      started := fun h => by cases h
      claims := fun l hl => absurd hl (not_claims_moved_ended _)
      untouched := fun _ _ _ => rfl }
  · have hnames : p.Names t l := ⟨p.machine.issued, hpath ▸ hcreated.locate_eq⟩
    exact footprint_of_prepare hphase hshape hcalls hprepare hcreated.held hcreated.cwd_eq hcreated.calls_eq
      hcreated.tree_eq (hshape.symm.locate_eq hcreated.locate_eq) (FileTree.atMostFile_of_vacant hcreated.vacant)
      (.inr ⟨hcreated.vacant, hnames⟩)

/-- Loading a script changes no file. The loader is handed what can be read at its path. -/
theorem step_of_onlyReads (hreads : p.resolver.OnlyReads) (hphase : p.phase = .prepared a) (t : FileTree) :
    ∃ outcome m calls, p.step t = (t, p.moved (.loaded a outcome) m) ∧ m.cwd = p.machine.cwd ∧
      m.calls = p.machine.calls ++ calls ∧
      (∀ call ∈ calls, call.content = (t.read p.machine.cwd (.ofPath a.path)).toOption) ∧
      ∀ filename, t.realPath (.ofLocation p.machine.cwd) p.source.origin = .ok filename → calls ≠ [] := by
  obtain ⟨htree, hcwd, calls, hcalls, hcontent, hne⟩ :=
    Resolver.execute_of_onlyReads hreads (.ofPath a.path p.source.origin) (p.resumed t)
  rcases hexec : p.resolver.execute (.ofPath a.path p.source.origin) (p.resumed t) with ⟨outcome, m⟩
  rw [hexec] at htree hcwd hcalls
  have hstep := step_of_prepared hphase hexec
  rw [show m.tree = t from htree] at hstep
  exact ⟨outcome, m, calls, hstep, hcwd, hcalls, hcontent, hne⟩

/-- Leaving a script takes its file away and no other. -/
theorem step_of_held {outcome : Except Failure Value} (hphase : p.phase = .loaded a outcome)
    (hheld : a.held = true) (hl : t.locate p.machine.cwd .entry (.ofPath a.path) = .ok l)
    (hd : t.get? l ≠ some .directory) :
    ∃ outcome' m, p.step t = (t.erase l, p.moved (.ended outcome') m) ∧ (p.resumed t).Frame m := by
  have hdiscard : (p.resumed t).tree.discard (p.resumed t).cwd (.ofPath a.path) = .ok (t.erase l) :=
    FileTree.discard_of_locate hl hd
  have hframe := Resolver.frame_leave a outcome (p.resumed t)
  obtain ⟨-, htree⟩ := Resolver.leave_of_discard outcome hheld hdiscard
  rcases hleave : a.leave outcome (p.resumed t) with ⟨outcome', m⟩
  rw [hleave] at hframe htree
  have hstep := step_of_loaded hphase hleave
  rw [show m.tree = t.erase l from htree] at hstep
  exact ⟨outcome', m, hstep, hframe⟩

/-- A script that is loaded and left, with no other process in between, is gone. -/
theorem steps_of_prepared (hreads : p.resolver.OnlyReads) (hphase : p.phase = .prepared a)
    (hheld : a.held = true) (hl : t.locate p.machine.cwd .entry (.ofPath a.path) = .ok l)
    (hd : t.get? l ≠ some .directory) : (p.steps t 2).1 = t.erase l := by
  obtain ⟨outcome, m, calls, hload, hcwd, -⟩ := step_of_onlyReads hreads hphase t
  have hl' : t.locate m.cwd .entry (.ofPath a.path) = .ok l := hcwd ▸ hl
  obtain ⟨outcome', m', hleave, -⟩ :=
    step_of_held (p := p.moved (.loaded a outcome) m) rfl hheld hl' hd
  rw [steps, hload, steps, hleave, steps]

/-- The loader is called even if the script is not there any more. -/
theorem exists_call_of_vacant (hreads : p.resolver.OnlyReads) (hphase : p.phase = .prepared a)
    (hl : t.locate p.machine.cwd .entry (.ofPath a.path) = .ok l) (hnone : t.get? l = none) {filename : Path}
    (hfilename : t.realPath (.ofLocation p.machine.cwd) p.source.origin = .ok filename) :
    ∃ call ∈ (p.step t).2.machine.calls, call.content = none := by
  obtain ⟨outcome, m, calls, hload, -, hcalls, hcontent, hne⟩ := step_of_onlyReads hreads hphase t
  obtain ⟨call, hcall⟩ := List.exists_mem_of_ne_nil calls (hne filename hfilename)
  rw [hload]
  refine ⟨call, ?_, (hcontent call hcall).trans (FileTree.read_of_vacant hl hnone)⟩
  exact hcalls ▸ List.mem_append_right _ hcall

theorem footprint_of_prepared (hreads : p.resolver.OnlyReads) (hphase : p.phase = .prepared a)
    (hshape : FileTree.SameShape t₀ t) (h : p.Intact t₀ t) : Footprint t₀ t p (p.step t).1 (p.step t).2 := by
  have hartifact : p.phase.artifact? = some a := by rw [hphase]; rfl
  obtain ⟨hheld, l, data, hl, hfile, hproduced⟩ := h.keeps a hartifact
  have hread := FileTree.read_of_locate (hshape.locate_eq hl) hfile
  obtain ⟨outcome, m, calls, hstep, hcwd, hcalls, hcontent, -⟩ := step_of_onlyReads hreads hphase t
  rw [hstep]
  exact {
    shape := .refl t
    intact := {
      starts := fun h => by cases h
      keeps := by
        intro b hb
        obtain rfl : a = b := Option.some.inj hb
        exact ⟨hheld, l, data, hcwd ▸ hl, hfile, hproduced⟩
      reads := by
        intro call hcall
        rw [show (p.moved (.loaded a outcome) m).machine.calls = p.machine.calls ++ calls from hcalls] at hcall
        rcases List.mem_append.mp hcall with hcall | hcall
        · exact h.reads call hcall
        · exact ⟨data, hproduced, by rw [hcontent call hcall, hread]; rfl⟩ }
    resolver_eq := rfl
    source_eq := rfl
    cwd_eq := hcwd
    started := fun h => by cases h
    claims := by
      rintro l' (⟨b, hb, hl'⟩ | ⟨hphase', -⟩)
      · obtain rfl : a = b := Option.some.inj hb
        exact .inl (.inl ⟨a, hartifact, hcwd ▸ hl'⟩)
      · cases hphase'
    untouched := fun _ _ _ => rfl }

theorem footprint_of_loaded {outcome : Except Failure Value} (hphase : p.phase = .loaded a outcome)
    (hshape : FileTree.SameShape t₀ t) (h : p.Intact t₀ t) : Footprint t₀ t p (p.step t).1 (p.step t).2 := by
  have hartifact : p.phase.artifact? = some a := by rw [hphase]; rfl
  obtain ⟨hheld, l, data, hl, hfile, -⟩ := h.keeps a hartifact
  have hplace := FileTree.atMostFile_of_file hfile
  obtain ⟨outcome', m, hstep, hframe⟩ := step_of_held hphase hheld (hshape.locate_eq hl) hplace.ne_directory
  rw [hstep]
  exact {
    shape := hplace.sameShape_erase
    intact := intact_moved_ended fun call hcall => h.reads call (hframe.calls_eq ▸ hcall)
    resolver_eq := rfl
    source_eq := rfl
    cwd_eq := hframe.cwd_eq
    started := fun h => by cases h
    claims := fun l hl => absurd hl (not_claims_moved_ended _)
    untouched := by
      intro l' hclaims _
      have hne : l' ≠ l := by
        rintro rfl
        exact hclaims (.inl ⟨a, hartifact, hl⟩)
      rw [FileTree.get?_erase t hplace.ne_nil, if_neg hne] }

/-- What one step of a process does to the tree. -/
theorem footprint_step (hreads : p.resolver.OnlyReads) (hshape : FileTree.SameShape t₀ t)
    (h : p.Intact t₀ t) : Footprint t₀ t p (p.step t).1 (p.step t).2 := by
  cases hphase : p.phase with
  | ready =>
      obtain ⟨hcalls, hfresh | ⟨l, output, data, hwrites⟩⟩ := h.starts hphase
      · exact footprint_of_needsNoCompiler hfresh hphase hcalls hshape
      · exact footprint_of_writesOutput hwrites hphase hcalls hshape
  | prepared a => exact footprint_of_prepared hreads hphase hshape h
  | loaded a outcome => exact footprint_of_loaded hphase hshape h
  | ended outcome =>
      rw [step_of_ended hphase]
      exact {
        shape := .refl t
        intact := h
        resolver_eq := rfl
        source_eq := rfl
        cwd_eq := rfl
        started := by simp [hphase]
        claims := fun l hl => .inl hl
        untouched := fun _ _ _ => rfl }

end Process
end ScriptRunner
