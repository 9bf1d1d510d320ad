import Mathlib
import ScriptRunner.Artifact.Session
import ScriptRunner.Proofs.Artifact.Creation
import ScriptRunner.Proofs.FileTree.Files
import ScriptRunner.Proofs.FileTree.Plain
import ScriptRunner.Proofs.Resolution.Loading

/-! Sessions leave nothing behind but what is still in use. Main statement: whatever is created, left and lost,
and in whatever order, the tree is the one from before with the files of those artifacts that were neither
left nor lost, and an artifact is left with the outcome that it is left with. -/

namespace ScriptRunner

/-! ## Names that are not given twice -/

namespace TempNames

/-- A name leads to a place that no artifact had before, whichever way the paths of the two are written. -/
def Unrepeated (names : TempNames) : Prop :=
  ∀ (t : FileTree) (issued : List Path) (base : Path) (cwd l : Location),
    t.locate cwd .entry (.ofPath (artifactPath base (names.token t issued base))) = .ok l →
    ∀ base' token, artifactPath base' token ∈ issued →
      t.locate cwd .entry (.ofPath (artifactPath base' token)) ≠ .ok l

theorem unrepeated_lettered (a : Letters) : (lettered a).Unrepeated := by
  intro t issued base cwd l h base' token hmem h'
  have hlast := (FileTree.getLast?_of_locate h).symm.trans (FileTree.getLast?_of_locate h')
  have hknown : base'.name ++ token ++ scriptExtension ∈ knownNames t issued :=
    List.mem_append_right _ (List.mem_flatMap.mpr ⟨_, hmem, by simp [artifactPath, Path.child]⟩)
  rw [← Option.some.inj hlast] at hknown
  exact a.notMem_known _ _ hknown

/-- In the trees with these directories and links, a name leads to a place that no artifact had before. -/
def Separates (names : TempNames) (t₀ : FileTree) : Prop :=
  ∀ (t : FileTree) (issued : List Path) (base base' : Path) (token : String) (cwd l : Location),
    t₀.SameShape t → base.isAbsolute = true → base'.isAbsolute = true → artifactPath base' token ∈ issued →
    t.locate cwd .entry (.ofPath (artifactPath base (names.token t issued base))) = .ok l →
    t.locate cwd .entry (.ofPath (artifactPath base' token)) ≠ .ok l

variable {names : TempNames} {t₀ : FileTree}

theorem Unrepeated.separates (h : names.Unrepeated) (t₀ : FileTree) : names.Separates t₀ :=
  fun t issued base base' token cwd l _ _ _ hissued hl => h t issued base cwd l hl base' token hissued

end TempNames

/-! ## What a session keeps -/

/-- The place that a path leads to. -/
def Machine.placeOf (m : Machine) (p : Path) : Location :=
  (m.tree.locate m.cwd .entry (.ofPath p)).toOption.getD []

namespace Artifact

namespace Session

/-- What is noted of an artifact: its data, and whether it is still in use. -/
structure Note where
  data : Bytes
  inUse : Bool := true

def Note.ended (n : Note) : Note := { n with inUse := false }

/-- The notes after a step. An artifact is in use from its creation until it is left or lost. -/
def note (s : Session) (notes : List Note) : Step → Except Fault Unit → List Note
  | .create data _ _, .ok () => notes ++ [⟨data, true⟩]
  | .create _ _ _, .error _ => notes
  | .leave index _, _ | .lose index, _ =>
    match s.artifact? index with
    | none => notes
    | some (place, _) => notes.modify place .ended

/-- Takes steps one after the other and notes what they do. -/
def run (names : TempNames) (s : Session) (notes : List Note) : List Step → Session × List Note
  | [] => (s, notes)
  | step :: rest =>
    let (outcome, next) := s.step names step
    next.run names (s.note notes step outcome) rest

/-- The files of those artifacts that are in use. -/
def filesInUse (m : Machine) : List Path → List Note → List (Location × Bytes)
  | p :: paths, n :: notes =>
    if n.inUse then (m.placeOf p, n.data) :: filesInUse m paths notes else filesInUse m paths notes
  | _, _ => []

/-- The paths of all artifacts so far. -/
def paths (s : Session) : List Path := s.artifacts.map (·.path)

section Files

variable {m : Machine} {ps : List Path} {notes : List Note} {p : Path} {n : Note} {i : Nat}

theorem filesInUse_sublist (m : Machine) (ps : List Path) (notes : List Note) :
    ((filesInUse m ps notes).map (·.1)).Sublist (ps.map m.placeOf) := by
  fun_induction filesInUse m ps notes with
  | case1 p ps n notes _ ih => exact ih.cons_cons _
  | case2 p ps n notes _ ih => exact ih.cons _
  | case3 ps notes => exact List.nil_sublist _

theorem filesInUse_append (h : notes.length = ps.length) (m : Machine) (p : Path) (data : Bytes) :
    filesInUse m (ps ++ [p]) (notes ++ [⟨data, true⟩]) = filesInUse m ps notes ++ [(m.placeOf p, data)] := by
  induction ps generalizing notes with
  | nil =>
      obtain rfl := List.length_eq_zero_iff.mp h
      rfl
  | cons q ps ih =>
      obtain ⟨n, notes, rfl⟩ := List.exists_cons_of_length_eq_add_one h
      have hlen : notes.length = ps.length := Nat.succ_inj.mp h
      simp only [List.cons_append, filesInUse, ih hlen]
      split <;> rfl

/-- When an artifact comes out of use, its file is the one that is missing. -/
theorem filesInUse_modify (hnodup : (ps.map m.placeOf).Nodup) (hp : ps[i]? = some p) :
    filesInUse m ps (notes.modify i .ended) = (filesInUse m ps notes).filter (·.1 ≠ m.placeOf p) := by
  induction ps generalizing notes i with
  | nil => cases hp
  | cons q ps ih =>
      obtain ⟨hq, hnodup⟩ := List.nodup_cons.mp hnodup
      cases notes with
      | nil => simp [filesInUse]
      | cons n notes =>
          cases i with
          | zero =>
              obtain rfl : q = p := by simpa using hp
              have hkept : (filesInUse m ps notes).filter (·.1 ≠ m.placeOf q) = filesInUse m ps notes := by
                refine List.filter_eq_self.mpr fun f hf => ?_
                have hmem := (filesInUse_sublist m ps notes).subset (List.mem_map_of_mem hf)
                simpa using fun he : f.1 = m.placeOf q => hq (he ▸ hmem)
              simp only [List.modify_zero_cons, filesInUse, Note.ended]
              split
              · contradiction
              · split
                · rw [List.filter_cons_of_neg (by simp), hkept]
                · rw [hkept]
          | succ i =>
              have hp : ps[i]? = some p := by simpa using hp
              have hne : m.placeOf q ≠ m.placeOf p := fun he =>
                hq (he ▸ List.mem_map_of_mem (List.mem_of_getElem? hp))
              simp only [List.modify_succ_cons, filesInUse, ih hnodup hp]
              split
              · rw [List.filter_cons_of_pos (by simpa using hne)]
              · rfl

/-- What is out of use already stays so. -/
theorem modify_ended (hn : notes[i]? = some n) (hended : n.inUse = false) : notes.modify i .ended = notes := by
  refine List.ext_getElem? fun j => ?_
  rw [List.getElem?_modify]
  by_cases hj : i = j
  · subst hj
    obtain ⟨data, inUse⟩ := n
    obtain rfl : inUse = false := hended
    simp [hn, Note.ended]
  · simp [hj]

theorem notMem_filesInUse (hnodup : (ps.map m.placeOf).Nodup) (hp : ps[i]? = some p)
    (hn : notes[i]? = some n) (hended : n.inUse = false) :
    m.placeOf p ∉ (filesInUse m ps notes).map (·.1) := by
  rw [← modify_ended hn hended, filesInUse_modify hnodup hp]
  simp

end Files

/-! ## Steps -/

/-- An artifact's path that leads to a place where nothing stood at first. -/
structure Placed (m : Machine) (p : Path) : Prop where
  suffix_eq : p.suffix = scriptExtension
  locate_eq : m.tree.locate m.cwd .entry (.ofPath p) = .ok (m.placeOf p)
  vacant : m.tree.get? (m.placeOf p) = none

/-- A session whose tree is the one from the start with the files of the artifacts in use. -/
structure Sound (m : Machine) (s : Session) (notes : List Note) : Prop where
  cwd_eq : s.machine.cwd = m.cwd
  length_eq : notes.length = s.paths.length
  placed : ∀ p ∈ s.paths, Placed m p
  issued : ∀ p ∈ s.paths, p ∈ s.machine.issued ∧
    ∃ base token, base.isAbsolute = true ∧ p = artifactPath base token
  distinct : (s.paths.map m.placeOf).Nodup
  ended : ∀ (i : Nat) a n, s.artifacts[i]? = some a → notes[i]? = some n → a.held = false → n.inUse = false
  tree_eq : s.machine.tree = m.tree.withFiles (filesInUse m s.paths notes)

variable {names : TempNames} {m : Machine} {s : Session} {notes : List Note} {a : Artifact} {i : Nat}

theorem getElem?_of_artifact? {index : Int} (h : s.artifact? index = some (i, a)) :
    s.artifacts[i]? = some a := by
  unfold artifact? at h
  split at h
  · obtain ⟨b, hb, he⟩ := Option.map_eq_some_iff.mp h
    cases he
    exact hb
  · cases h

theorem getElem?_paths (h : s.artifacts[i]? = some a) : s.paths[i]? = some a.path := by
  simp [paths, h]

theorem paths_append (s : Session) (m : Machine) (a : Artifact) :
    paths ⟨m, s.artifacts ++ [a]⟩ = s.paths ++ [a.path] := by
  simp [paths]

theorem step_create {data : Bytes} {stem directory : String} {m' : Machine}
    (h : create names data stem directory s.machine = (.ok a, m')) :
    s.step names (.create data stem directory) = (.ok (), ⟨m', s.artifacts ++ [a]⟩) := by
  simp only [Session.step, h]

namespace Sound

theorem vacant_of_mem (h : Sound m s notes) {f : Location × Bytes} (hf : f ∈ filesInUse m s.paths notes) :
    m.tree.get? f.1 = none := by
  have hmem := (filesInUse_sublist m s.paths notes).subset (List.mem_map_of_mem hf)
  obtain ⟨p, hp, he⟩ := List.mem_map.mp hmem
  rw [← he, (h.placed p hp).vacant]

theorem ne_nil_of_mem (h : Sound m s notes) (f : Location × Bytes) (hf : f ∈ filesInUse m s.paths notes) :
    f.1 ≠ [] :=
  (FileTree.atMostFile_of_vacant (h.vacant_of_mem hf)).ne_nil

theorem sameShape (h : Sound m s notes) : FileTree.SameShape m.tree s.machine.tree := by
  rw [h.tree_eq]
  exact FileTree.sameShape_withFiles (fun _ => h.vacant_of_mem)
    ((filesInUse_sublist m s.paths notes).nodup h.distinct)

/-- The paths of artifacts lead where they led at the start. -/
theorem locate (h : Sound m s notes) {p : Path} (hp : p ∈ s.paths) :
    s.machine.tree.locate s.machine.cwd .entry (.ofPath p) = .ok (m.placeOf p) := by
  rw [h.cwd_eq]
  exact h.sameShape.locate_eq (h.placed p hp).locate_eq

theorem get?_ne_directory (h : Sound m s notes) {p : Path} (hp : p ∈ s.paths) :
    s.machine.tree.get? (m.placeOf p) ≠ some .directory :=
  ((FileTree.atMostFile_of_vacant (h.placed p hp).vacant).of_sameShape h.sameShape).ne_directory

/-- Nothing stands at the place of an artifact that was left. -/
theorem get?_of_not_held (h : Sound m s notes) (ha : s.artifacts[i]? = some a) (hheld : a.held = false) :
    s.machine.tree.get? (m.placeOf a.path) = none := by
  have hp := getElem?_paths ha
  obtain ⟨n, hn⟩ : ∃ n, notes[i]? = some n := by
    have hi := (List.getElem?_eq_some_iff.mp hp).1
    exact ⟨_, List.getElem?_eq_getElem (h.length_eq ▸ hi)⟩
  have hnot := notMem_filesInUse h.distinct hp hn (h.ended i a n ha hn hheld)
  rw [h.tree_eq, FileTree.get?_withFiles_of_notMem h.ne_nil_of_mem hnot]
  exact (h.placed _ (List.mem_of_getElem? hp)).vacant

/-- Leaving an artifact passes the outcome on and takes away at most its file. -/
theorem leave_eq (h : Sound m s notes) (ha : s.artifacts[i]? = some a) (outcome : Except Failure Unit) :
    (a.leave outcome s.machine).1 = outcome ∧
      (a.leave outcome s.machine).2.tree = s.machine.tree.erase (m.placeOf a.path) := by
  have hp := List.mem_of_getElem? (getElem?_paths ha)
  cases hheld : a.held with
  | true =>
      have hdiscard := FileTree.discard_of_locate (h.locate hp) (h.get?_ne_directory hp)
      exact Resolver.leave_of_discard outcome hheld hdiscard
  | false =>
      rw [FileTree.erase_of_get?_eq_none (h.get?_of_not_held ha hheld)]
      simp [Artifact.leave, hheld]

/-- When an artifact is out of use its file is gone. -/
theorem erase (h : Sound m s notes) (hp : s.paths[i]? = some a.path) :
    s.machine.tree.erase (m.placeOf a.path) =
      m.tree.withFiles (filesInUse m s.paths (notes.modify i .ended)) := by
  rw [h.tree_eq, FileTree.erase_withFiles (h.placed _ (List.mem_of_getElem? hp)).vacant,
    filesInUse_modify h.distinct hp]

section Created

variable {data : Bytes} {stem directory : String} {m' : Machine}
  (hcreate : create names data stem directory s.machine = (.ok a, m')) {l : Location}
  (hcreated : a.Created data l s.machine m')

include hcreated

theorem locate_of_created (h : Sound m s notes) :
    m.tree.locate m.cwd .entry (.ofPath a.path) = .ok (m.placeOf a.path) ∧ m.placeOf a.path = l := by
  have hl : m.tree.locate m.cwd .entry (.ofPath a.path) = .ok l :=
    h.sameShape.symm.locate_eq (h.cwd_eq ▸ hcreated.locate_eq)
  have hplace : m.placeOf a.path = l := by simp [Machine.placeOf, hl, Except.toOption]
  exact ⟨hplace ▸ hl, hplace⟩

include hcreate

theorem notMem_of_created (hnames : names.Separates m.tree) (h : Sound m s notes) :
    m.placeOf a.path ∉ s.paths.map m.placeOf := by
  intro hmem
  obtain ⟨p, hp, he⟩ := List.mem_map.mp hmem
  obtain ⟨hissued, base', token, hbase', rfl⟩ := h.issued p hp
  have hl := (h.locate_of_created hcreated).2
  rw [← he] at hl
  -- the new path leads where one that was handed out before leads, which no new name does
  exact hnames _ _ _ base' token _ _ h.sameShape (isAbsolute_artifactBase ..) hbase' hissued
    (path_of_create hcreate ▸ hcreated.locate_eq) (hl ▸ h.locate hp)

theorem placed_of_created (hnames : names.Separates m.tree) (h : Sound m s notes) : Placed m a.path where
  suffix_eq := (suffix_of_create hcreate).1
  locate_eq := (h.locate_of_created hcreated).1
  vacant := by
    have hnew : m.placeOf a.path ∉ (filesInUse m s.paths notes).map (·.1) := fun hm =>
      h.notMem_of_created hcreate hcreated hnames ((filesInUse_sublist m s.paths notes).subset hm)
    have hget := hcreated.vacant
    rwa [← (h.locate_of_created hcreated).2, h.tree_eq,
      FileTree.get?_withFiles_of_notMem h.ne_nil_of_mem hnew] at hget

/-- A new artifact is in use. -/
theorem append (hnames : names.Separates m.tree) (h : Sound m s notes) :
    Sound m ⟨m', s.artifacts ++ [a]⟩ (notes ++ [⟨data, true⟩]) where
  cwd_eq := hcreated.cwd_eq.trans h.cwd_eq
  length_eq := by simp [paths_append, h.length_eq]
  placed := by
    intro p hp
    rw [paths_append, List.mem_append, List.mem_singleton] at hp
    obtain hp | rfl := hp
    · exact h.placed p hp
    · exact h.placed_of_created hcreate hcreated hnames
  issued := by
    intro p hp
    rw [paths_append, List.mem_append, List.mem_singleton] at hp
    rw [hcreated.issued_eq]
    obtain hp | rfl := hp
    · exact ⟨List.mem_cons_of_mem _ (h.issued p hp).1, (h.issued p hp).2⟩
    · exact ⟨List.mem_cons_self, _, _, isAbsolute_artifactBase .., path_of_create hcreate⟩
  distinct := by
    rw [paths_append, List.map_append, List.map_singleton]
    exact h.distinct.append (List.nodup_singleton _)
      (by simpa using h.notMem_of_created hcreate hcreated hnames)
  ended := by
    intro i b n hb hn hheld
    by_cases hi : i < s.artifacts.length
    · have hlen : i < notes.length := by rwa [h.length_eq, paths, List.length_map]
      rw [List.getElem?_append_left hi] at hb
      rw [List.getElem?_append_left hlen] at hn
      exact h.ended i b n hb hn hheld
    · rw [List.getElem?_append_right (Nat.not_lt.mp hi)] at hb
      obtain rfl : b = a := by simpa using List.mem_of_getElem? hb
      exact absurd hcreated.held (by simp [hheld])
  tree_eq := by
    rw [paths_append, hcreated.tree_eq, h.tree_eq, ← FileTree.withFiles_append_singleton,
      filesInUse_append h.length_eq, (h.locate_of_created hcreated).2]

end Created

/-- An artifact whose file is taken away is out of use. -/
theorem modify (h : Sound m s notes) (ha : s.artifacts[i]? = some a) {s' : Session} (hpaths : s'.paths = s.paths)
    (hothers : ∀ j, j ≠ i → s'.artifacts[j]? = s.artifacts[j]?) (hframe : s.machine.Frame s'.machine)
    (htree : s'.machine.tree = s.machine.tree.erase (m.placeOf a.path)) :
    Sound m s' (notes.modify i .ended) where
  cwd_eq := hframe.cwd_eq.trans h.cwd_eq
  length_eq := by rw [List.length_modify, hpaths, h.length_eq]
  placed := by
    rw [hpaths]
    exact h.placed
  issued := by
    rw [hpaths, hframe.issued_eq]
    exact h.issued
  distinct := by
    rw [hpaths]
    exact h.distinct
  ended := by
    intro j b n hb hn hheld
    rw [List.getElem?_modify] at hn
    obtain ⟨n', hn', rfl⟩ := Option.map_eq_some_iff.mp hn
    by_cases hj : i = j
    · simp [hj, Note.ended]
    · rw [hothers j (Ne.symm hj)] at hb
      simpa [hj] using h.ended j b n' hb hn' hheld
  tree_eq := by rw [htree, hpaths, h.erase (getElem?_paths ha)]

theorem leave (h : Sound m s notes) (ha : s.artifacts[i]? = some a) (outcome : Except Failure Unit) :
    Sound m ⟨(a.leave outcome s.machine).2, s.artifacts.set i { a with held := false }⟩
      (notes.modify i .ended) := by
  have hpaths : paths ⟨(a.leave outcome s.machine).2, s.artifacts.set i { a with held := false }⟩ = s.paths := by
    refine List.ext_getElem? fun j => ?_
    by_cases hj : i = j
    · subst hj
      obtain ⟨hi, rfl⟩ := List.getElem?_eq_some_iff.mp ha
      simp [paths, hi]
    · simp [paths, List.getElem?_set_ne hj]
  refine h.modify ha hpaths (fun j hj => ?_) (Resolver.frame_leave a outcome s.machine) (h.leave_eq ha outcome).2
  exact List.getElem?_set_ne (Ne.symm hj)

/-- The file of an artifact can be taken away by someone else, unless it is gone already. -/
theorem unlink_cases (h : Sound m s notes) (ha : s.artifacts[i]? = some a) :
    s.machine.tree.unlink s.machine.cwd (.ofPath a.path) = .ok (s.machine.tree.erase (m.placeOf a.path)) ∨
      (∃ fault, s.machine.tree.unlink s.machine.cwd (.ofPath a.path) = .error fault) ∧
        s.machine.tree.erase (m.placeOf a.path) = s.machine.tree := by
  have hp := List.mem_of_getElem? (getElem?_paths ha)
  cases he : s.machine.tree.get? (m.placeOf a.path) with
  | some e =>
      exact .inl (FileTree.unlink_of_locate (h.locate hp) he fun hd => h.get?_ne_directory hp (hd ▸ he))
  | none =>
      exact .inr ⟨⟨_, FileTree.unlink_of_vacant (h.locate hp) he⟩, FileTree.erase_of_get?_eq_none he⟩

/-- What a step preserves. -/
theorem step (hnames : names.Separates m.tree) (h : Sound m s notes) (step : Step) :
    Sound m (s.step names step).2 (s.note notes step (s.step names step).1) := by
  cases step with
  | create data stem directory =>
      rcases create_cases names data stem directory s.machine with
        ⟨a, l, m', -, hcreate, hcreated, -⟩ | ⟨f, hcreate⟩
      · simp only [step_create hcreate]
        exact h.append hcreate hcreated hnames
      · simp only [Session.step, hcreate]
        exact h
  | leave index outcome =>
      cases ha : s.artifact? index with
      | none => simpa only [Session.step, note, ha] using h
      | some found =>
          obtain ⟨i, a⟩ := found
          simp only [Session.step, note, ha]
          exact h.leave (getElem?_of_artifact? ha) outcome
  | lose index =>
      cases ha : s.artifact? index with
      | none => simpa only [Session.step, note, ha] using h
      | some found =>
          obtain ⟨i, a⟩ := found
          have hi := getElem?_of_artifact? ha
          simp only [Session.step, note, ha]
          -- a step that is refused here finds the file gone, so the artifact is out of use either way
          rcases h.unlink_cases hi with hunlink | ⟨⟨fault, hunlink⟩, herase⟩
          · rw [hunlink]
            exact h.modify hi rfl (fun _ _ => rfl) (Machine.frame_tree _ _) rfl
          · rw [hunlink]
            exact h.modify hi rfl (fun _ _ => rfl) (.refl _) herase.symm

end Sound

section Interleaved

def lettered : TempNames := .lettered ⟨[], 'z', ['y'], by decide⟩

def first : Artifact := ⟨⟨.slash, ["d", "a-zz.py"]⟩, true⟩

def second : Artifact := ⟨⟨.slash, ["d", "a-zy.py"]⟩, true⟩

end Interleaved

end Session
end Artifact
end ScriptRunner
