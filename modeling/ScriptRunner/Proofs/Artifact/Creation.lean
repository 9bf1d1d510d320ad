import ScriptRunner.Artifact.Basic
import ScriptRunner.Source
import ScriptRunner.Proofs.FileTree.Removal
import ScriptRunner.Proofs.Machine.Frame
import ScriptRunner.Proofs.Text.Split

/-! Creation of artifacts. A file with the data stands where nothing stood, under a name that was not given
before, and the tree without it is the tree from before. -/

namespace ScriptRunner

/-! ## Names -/

theorem slashNames_append_cons_slash {front name : List Char} (h : '/' ∉ name) :
    slashNames (front ++ '/' :: name) =
      slashNames front ++ [String.ofList name].filter fun n => n != "" && n != "." := by
  rw [slashNames, List.splitOn_append_cons_self, List.splitOn_eq_singleton h, List.map_append,
    List.filter_append]
  rfl

theorem slash_notMem_of_mem_slashNames {s : List Char} {n : String} (h : n ∈ slashNames s) :
    '/' ∉ n.toList := by
  obtain ⟨piece, hp, rfl⟩ := List.mem_map.mp (List.mem_filter.mp h).1
  rw [String.toList_ofList]
  exact Text.notMem_of_mem_splitOn hp

theorem mem_of_mem_splitSuffix {name : List Char} {c : Char} (h : c ∈ (splitSuffix name).1) :
    c ∈ name := by
  unfold splitSuffix at h
  dsimp only at h
  split at h
  · exact h
  · have hd := List.mem_of_mem_drop (List.mem_reverse.mp h)
    exact List.mem_reverse.mp ((List.dropWhile_suffix _).subset hd)

theorem Path.slash_notMem_name_ofString (text : String) : '/' ∉ (ofString text).name.toList := by
  unfold name
  cases hl : (ofString text).names.getLast? with
  | none => simp
  | some n => exact slash_notMem_of_mem_slashNames (s := text.toList) (List.mem_of_getLast? hl)

theorem Path.isAbsolute_collapsed (p : Path) : p.collapsed.isAbsolute = p.isAbsolute := by
  unfold collapsed
  refine List.foldlRecOn p.names _ (motive := fun q : Path => q.isAbsolute = p.isAbsolute) rfl
    fun q hq n _ => ?_
  rw [← hq]
  unfold above
  split
  · split
    · rfl
    · split <;> rfl
  · split <;> rfl

theorem Path.isAbsolute_seenFrom {directory : Path} (h : directory.isAbsolute = true) (p : Path) :
    (seenFrom directory p).isAbsolute = true := by
  unfold seenFrom
  split
  · assumption
  · exact h

theorem Path.head?_toString {p : Path} (h : p.isAbsolute = true) : p.toString.toList.head? = some '/' := by
  obtain ⟨root, names⟩ := p
  cases root with
  | none => cases h
  | slash | doubleSlash => simp [toString, Root.text]

theorem Source.slash_notMem_stem (s : Source) : '/' ∉ s.stem.toList := by
  unfold stem
  dsimp only
  split
  · decide
  · intro h
    rw [Path.stem, String.toList_ofList] at h
    exact Path.slash_notMem_name_ofString s.label.name (mem_of_mem_splitSuffix h)

namespace Artifact

/-- An artifact's path is absolute, whatever its directory and its stem are. -/
theorem isAbsolute_artifactBase (cwd : Location) (directory stem : String) :
    (Path.ofString (artifactBase cwd directory stem)).isAbsolute = true := by
  have hdirectory : (((Path.ofLocation cwd).seenFrom (.ofString directory)).collapsed.toString).toList.head? =
      some '/' := by
    refine Path.head?_toString ?_
    rw [Path.isAbsolute_collapsed]
    exact Path.isAbsolute_seenFrom rfl _
  rw [Path.isAbsolute_ofString, decide_eq_true_iff]
  unfold artifactBase
  dsimp only
  split
  · rename_i hstem
    simp [hstem]
  · split <;> simp [hdirectory]

/-- The name of an artifact begins with the stem and a dash, wherever the artifact is. -/
theorem name_artifactPath {cwd : Location} {directory stem : String} (h : '/' ∉ stem.toList)
    (token : String) :
    (artifactPath (.ofString (artifactBase cwd directory stem)) token).name =
      stem ++ "-" ++ token ++ scriptExtension := by
  have hdash : '/' ∉ (stem ++ "-").toList := by simpa using h
  have hkept : (stem ++ "-" != "" && stem ++ "-" != ".") = true := by
    have hl : (stem ++ "-").toList.getLast? = some '-' := by simp
    simp only [Bool.and_eq_true, bne_iff_ne]
    constructor <;> intro he <;> rw [he] at hl <;> exact absurd hl (by decide)
  obtain ⟨front, hbase⟩ : ∃ front, (artifactBase cwd directory stem).toList =
      front ++ '/' :: (stem ++ "-").toList := by
    unfold artifactBase
    dsimp only
    split
    · rename_i hs
      exact absurd (List.mem_of_head? hs) h
    · split
      · rename_i hd
        obtain ⟨front, hf⟩ := List.getLast?_eq_some_iff.mp hd
        exact ⟨front, by simp [hf]⟩
      · exact ⟨((Path.ofLocation cwd).seenFrom (.ofString directory)).collapsed.toString.toList, by simp⟩
  have hlast : (Path.ofString (artifactBase cwd directory stem)).name = stem ++ "-" := by
    rw [Path.name, Path.ofString, hbase]
    dsimp only
    rw [slashNames_append_cons_slash hdash, String.ofList_toList, List.filter_cons, if_pos hkept]
    simp
  rw [artifactPath, Path.name_child, hlast]

/-! ## Creation -/

/-- An artifact is made of data at a place. -/
structure Created (a : Artifact) (data : Bytes) (l : Location) (m m' : Machine) : Prop where
  held : a.held = true
  notMem_issued : a.path ∉ m.issued
  locate_eq : m.tree.locate m.cwd .entry (.ofPath a.path) = .ok l
  vacant : m.tree.get? l = none
  tree_eq : m'.tree = m.tree.set l (.file data)
  cwd_eq : m'.cwd = m.cwd
  issued_eq : m'.issued = a.path :: m.issued
  calls_eq : m'.calls = m.calls

variable {names : TempNames} {data : Bytes} {stem directory : String} {m m' : Machine} {a : Artifact}

/-- The token that completes the path of a new artifact. -/
def newToken (names : TempNames) (stem directory : String) (m : Machine) : String :=
  names.token m.tree m.issued (.ofString (artifactBase m.cwd directory stem))

def newPath (names : TempNames) (stem directory : String) (m : Machine) : Path :=
  artifactPath (.ofString (artifactBase m.cwd directory stem)) (newToken names stem directory m)

/-- The path of a new artifact as it is written. -/
def newText (names : TempNames) (stem directory : String) (m : Machine) : String :=
  artifactBase m.cwd directory stem ++ newToken names stem directory m ++ scriptExtension

/-- A creation succeeds with a new artifact, or fails and changes nothing. -/
theorem create_cases (names : TempNames) (data : Bytes) (stem directory : String) (m : Machine) :
    (∃ a l m' token, create names data stem directory m = (.ok a, m') ∧ Created a data l m m' ∧
      a.path = artifactPath (.ofString (artifactBase m.cwd directory stem)) token ∧ token ≠ "") ∨
    ∃ f, create names data stem directory m = (.error f, m) := by
  unfold create
  dsimp only
  split
  · exact .inr ⟨_, rfl⟩
  · rename_i t hadd
    obtain ⟨l, hl, hnone, rfl⟩ := FileTree.add_eq_ok_iff.mp hadd
    refine .inl ⟨_, l, _, _, rfl, ?_, rfl, names.token_ne_empty _ _ _⟩
    exact ⟨rfl, names.notMem_issued _ _ _, hl, hnone, rfl, rfl, rfl,
      (Machine.frame_log _ _).calls_eq⟩

/-- A creation fails only if there is no place for the file. -/
theorem fst_create_eq_error_iff {f : Failure} :
    (create names data stem directory m).1 = .error f ↔
      ∃ fault, m.tree.locate m.cwd .entry (.ofPath (newPath names stem directory m)) = .error fault ∧
        f = .ofFault (newText names stem directory m) fault := by
  unfold create
  dsimp only
  rw [← newToken, ← newPath]
  cases hl : m.tree.locate m.cwd .entry (.ofPath (newPath names stem directory m)) with
  | error fault =>
      have hadd : m.tree.add m.cwd (.ofPath (newPath names stem directory m)) (.file data) = .error fault := by
        simp [FileTree.add, hl, bind, Except.bind]
      simp [hadd, newText, eq_comm]
  | ok l =>
      have hvacant : m.tree.get? l = none := names.get?_eq_none _ _ _ _ _ hl
      simp [FileTree.add_eq_ok_iff.mpr ⟨l, hl, hvacant, rfl⟩]

theorem create_of_add {path : Path} {t : FileTree}
    (hpath : artifactPath (.ofString (artifactBase m.cwd directory stem))
      (names.token m.tree m.issued (.ofString (artifactBase m.cwd directory stem))) = path)
    (hadd : m.tree.add m.cwd (.ofPath path) (.file data) = .ok t) :
    create names data stem directory m =
      (.ok ⟨path, true⟩, { m with tree := t, issued := path :: m.issued }.log
        ("Materialized " ++ path.toString)) := by
  unfold create
  dsimp only
  rw [hpath, hadd]

/-- The path of an artifact is completed by a new name. -/
theorem path_of_create (h : create names data stem directory m = (.ok a, m')) :
    a.path = artifactPath (.ofString (artifactBase m.cwd directory stem))
      (names.token m.tree m.issued (.ofString (artifactBase m.cwd directory stem))) := by
  unfold create at h
  dsimp only at h
  split at h
  · cases h
  · cases h
    rfl

namespace Created

variable {l : Location}

theorem sameShape (h : Created a data l m m') : FileTree.SameShape m.tree m'.tree := by
  rw [h.tree_eq]
  exact FileTree.sameShape_set h.vacant data

theorem ne_nil (h : Created a data l m m') : l ≠ [] := (FileTree.atMostFile_of_vacant h.vacant).ne_nil

theorem get?_eq (h : Created a data l m m') : m'.tree.get? l = some (.file data) := by
  rw [h.tree_eq, FileTree.get?_set m.tree h.ne_nil, if_pos rfl]

theorem locate (h : Created a data l m m') : m'.tree.locate m'.cwd .entry (.ofPath a.path) = .ok l := by
  rw [h.cwd_eq]
  exact h.sameShape.locate_eq h.locate_eq

theorem entryAt_before (h : Created a data l m m') : m.tree.entryAt m.cwd a.path = none := by
  rw [FileTree.entryAt_of_locate h.locate_eq, h.vacant]

theorem entryAt (h : Created a data l m m') :
    m'.tree.entryAt m'.cwd a.path = some (.file data) := by
  rw [FileTree.entryAt_of_locate h.locate, h.get?_eq]

theorem read (h : Created a data l m m') : m'.tree.read m'.cwd (.ofPath a.path) = .ok data :=
  FileTree.read_of_locate h.locate h.get?_eq

/-- Without the artifact the tree is what it was. -/
theorem without_eq (h : Created a data l m m') : m'.tree.without m'.cwd a.path = m.tree := by
  rw [FileTree.without_of_locate h.locate, h.tree_eq]
  exact m.tree.erase_set_of_get?_eq_none h.ne_nil _ h.vacant

/-- What is only recorded before and after a creation makes no difference to it. -/
theorem of_frame {m₀ m₁ : Machine} (h : Created a data l m m') (hm : m₀.Frame m)
    (htree : m.tree = m₀.tree) (hm' : m'.Frame m₁) (htree' : m₁.tree = m'.tree) :
    Created a data l m₀ m₁ where
  held := h.held
  notMem_issued := hm.issued_eq ▸ h.notMem_issued
  locate_eq := htree ▸ hm.cwd_eq ▸ h.locate_eq
  vacant := htree ▸ h.vacant
  tree_eq := by rw [htree', h.tree_eq, htree]
  cwd_eq := by rw [hm'.cwd_eq, h.cwd_eq, hm.cwd_eq]
  issued_eq := by rw [hm'.issued_eq, h.issued_eq, hm.issued_eq]
  calls_eq := by rw [hm'.calls_eq, h.calls_eq, hm.calls_eq]

end Created

end Artifact
end ScriptRunner
