import ScriptRunner.Artifact.Basic

/-! Names for temporary files: two letters behind a fixed start, or, when all of these are taken, more
letters in a row than any name has characters. -/

namespace ScriptRunner

/-- The number of characters of the longest of some names. -/
def longest (names : List String) : Nat := names.foldr (fun n k => max n.length k) 0

theorem length_le_longest {names : List String} {n : String} (h : n ∈ names) :
    n.length ≤ longest names := by
  induction names with
  | nil => simp at h
  | cons m names ih =>
    simp only [longest, List.foldr_cons]
    rcases List.mem_cons.1 h with rfl | h
    · exact Nat.le_max_left ..
    · exact Nat.le_trans (ih h) (Nat.le_max_right ..)

theorem eq_or_getLast?_of_cons {α : Type} {x y : α} {ys : List α}
    (h : (y :: ys).getLast? = some x) : (ys = [] ∧ y = x) ∨ ys.getLast? = some x := by
  cases ys with
  | nil => exact .inl ⟨rfl, by simpa using h⟩
  | cons => exact .inr (by simpa using h)

/-- A place that a name of its own leads to, links under it left alone, has that name. -/
theorem FileTree.getLast?_of_walk {t : FileTree} {links : Nat} {start l : Location}
    {names : List String} {n : String} (hn : n ≠ "" ∧ n ≠ "." ∧ n ≠ "..")
    (hlast : names.getLast? = some n) (h : t.walk .entry links start names = .ok l) :
    l.getLast? = some n := by
  fun_induction FileTree.walk t .entry links start names with
  | case1 => simp at hlast
  | case2 => simp at h
  | case3 => simp at h
  | case4 => simp at h
  | case5 links at_ m rest _ hm ih =>
    rcases eq_or_getLast?_of_cons hlast with ⟨rfl, rfl⟩ | hlast
    · simp [hn] at hm
    · exact ih hlast h
  | case6 links at_ rest _ _ ih =>
    rcases eq_or_getLast?_of_cons hlast with ⟨rfl, rfl⟩ | hlast
    · simp at hn
    · exact ih hlast h
  | case7 => simp at h
  | case8 => simp at h
  | case9 links at_ m rest _ _ _ _ _ _ _ hrest =>
    rcases eq_or_getLast?_of_cons hlast with ⟨rfl, rfl⟩ | hlast
    · simp [← Except.ok.inj h]
    · simp_all
  | case10 => simp at h
  | case11 at_ m rest _ _ _ _ _ _ _ hrest links route ih =>
    rcases eq_or_getLast?_of_cons hlast with ⟨rfl, rfl⟩ | hlast
    · simp at hrest
    · exact ih (by simp [List.getLast?_append, hlast]) h
  | case12 links at_ m rest _ _ _ _ _ _ ih =>
    rcases eq_or_getLast?_of_cons hlast with ⟨rfl, rfl⟩ | hlast
    · simp only [FileTree.walk] at h
      simp [← Except.ok.inj h]
    · exact ih hlast h

/-- All names in a tree and in some paths. -/
def knownNames (t : FileTree) (issued : List Path) : List String :=
  t.entries.flatMap (·.1) ++ issued.flatMap (·.names)

theorem FileTree.mem_entries_of_get? {t : FileTree} {n : String} {l : Location} {e : Entry}
    (h : t.get? (n :: l) = some e) : (n :: l, e) ∈ t.entries := by
  simp only [FileTree.get?] at h
  obtain ⟨front, rest, hl, -⟩ := List.lookup_eq_some_iff.1 h
  simp [hl]

theorem FileTree.mem_knownNames_of_get? {t : FileTree} (issued : List Path) {l : Location}
    {e : Entry} {n : String} (h : t.get? l = some e) (hn : n ∈ l) : n ∈ knownNames t issued := by
  cases l with
  | nil => simp at hn
  | cons m l =>
    exact List.mem_append_left _ (List.mem_flatMap.2 ⟨_, FileTree.mem_entries_of_get? h, hn⟩)

/-- The name of an artifact is none of those that lead elsewhere. -/
theorem proper_artifactName (front token : String) :
    front ++ token ++ scriptExtension ≠ "" ∧ front ++ token ++ scriptExtension ≠ "." ∧
      front ++ token ++ scriptExtension ≠ ".." := by
  have hlen : 3 ≤ (front ++ token ++ scriptExtension).length := by
    have : scriptExtension.length = 3 := by decide
    simp only [String.length_append, this]
    omega
  refine ⟨?_, ?_, ?_⟩ <;> intro he <;> rw [he] at hlen <;> exact absurd hlen (by decide)

/-- A place that the path of an artifact leads to has the name of that path. -/
theorem FileTree.getLast?_of_locate {t : FileTree} {base : Path} {cwd l : Location} {token : String}
    (h : t.locate cwd .entry (.ofPath (artifactPath base token)) = .ok l) :
    l.getLast? = some (base.name ++ token ++ scriptExtension) := by
  unfold FileTree.locate at h
  split at h
  · simp at h
  split at h
  · simp at h
  split at h
  · simp at h
  exact FileTree.getLast?_of_walk (proper_artifactName base.name token)
    (by simp [Route.ofPath, artifactPath, Path.child]) h

/-- So does the place that it leads to without a look at the files. -/
theorem getLast?_plainPlace_artifactPath (base : Path) (token : String) :
    (artifactPath base token).plainPlace.getLast? = some (base.name ++ token ++ scriptExtension) := by
  obtain ⟨hempty, hdot, hdots⟩ := proper_artifactName base.name token
  simp [Path.plainPlace, artifactPath, Path.child, Location.next, hempty, hdot, hdots]

theorem mem_of_mem_foldl_next {names : List String} {start : Location} {n : String}
    (h : n ∈ names.foldl Location.next start) : n ∈ start ∨ n ∈ names := by
  induction names generalizing start with
  | nil => exact .inl h
  | cons m names ih =>
    rcases ih h with h | h
    · unfold Location.next at h
      split at h
      · exact .inl h
      split at h
      · exact .inl ((List.dropLast_sublist start).subset h)
      rcases List.mem_append.1 h with h | h
      · exact .inl h
      · exact .inr (by simp_all)
    · exact .inr (List.mem_cons_of_mem _ h)

/-- An artifact whose name is not in a path leads elsewhere. -/
theorem plainPlace_ne_of_notMem {base p : Path} {token : String}
    (h : base.name ++ token ++ scriptExtension ∉ p.names) :
    p.plainPlace ≠ (artifactPath base token).plainPlace := by
  intro he
  have hlast := getLast?_plainPlace_artifactPath base token
  rw [← he] at hlast
  rcases mem_of_mem_foldl_next (List.mem_of_getLast? hlast) with hn | hn
  · simp at hn
  · exact h hn

/-- A place that the path of an artifact leads to is vacant if no known name is that of the path. -/
theorem FileTree.get?_eq_none_of_notMem {t : FileTree} {issued : List Path} {base : Path}
    {cwd l : Location} {token : String}
    (hnew : base.name ++ token ++ scriptExtension ∉ knownNames t issued)
    (h : t.locate cwd .entry (.ofPath (artifactPath base token)) = .ok l) : t.get? l = none := by
  have hl := FileTree.getLast?_of_locate h
  cases hg : t.get? l with
  | none => rfl
  | some e =>
    exact absurd (FileTree.mem_knownNames_of_get? issued hg (List.mem_of_getLast? hl)) hnew

/-- The letters that tokens are made of, none of them a slash. -/
structure Letters where
  front : List Char
  letter : Char
  others : List Char
  slash_notMem : '/' ∉ front ++ letter :: others

namespace Letters

/-- The fixed start with two letters behind it, in all ways. -/
def pairs (a : Letters) : List String :=
  (a.letter :: a.others).flatMap fun x =>
    (a.letter :: a.others).map fun y => String.ofList (a.front ++ [x, y])

/-- A letter so often that it is longer than all known names. -/
def run (a : Letters) (known : List String) : String :=
  String.ofList (List.replicate (longest known + 1) a.letter)

/-- The first pair that makes a name that is not known yet, or else the run. -/
def token (a : Letters) (known : List String) (front : String) : String :=
  (a.pairs.find? fun w => !known.contains (front ++ w ++ scriptExtension)).getD (a.run known)

theorem token_mem (a : Letters) (known : List String) (front : String) :
    a.token known front ∈ a.pairs ∨ a.token known front = a.run known := by
  unfold token
  cases h : a.pairs.find? fun w => !known.contains (front ++ w ++ scriptExtension) with
  | none => exact .inr rfl
  | some w => exact .inl (List.mem_of_find?_eq_some h)

theorem toList_token (a : Letters) (known : List String) (front : String) :
    (a.token known front).toList ≠ [] ∧
      ∀ c ∈ (a.token known front).toList, c ∈ a.front ++ a.letter :: a.others := by
  rcases a.token_mem known front with h | h
  · obtain ⟨x, hx, h⟩ := List.mem_flatMap.1 h
    obtain ⟨y, hy, h⟩ := List.mem_map.1 h
    rw [← h]
    constructor
    · simp
    · intro c hc
      simp only [String.toList_ofList, List.mem_append, List.mem_cons, List.not_mem_nil,
        or_false] at hc
      rcases hc with hc | rfl | rfl
      · exact List.mem_append_left _ hc
      · exact List.mem_append_right _ hx
      · exact List.mem_append_right _ hy
  · rw [h]
    constructor
    · simp [run]
    · intro c hc
      simp only [run, String.toList_ofList, List.mem_replicate] at hc
      simp [hc.2]

theorem notMem_known (a : Letters) (known : List String) (front : String) :
    front ++ a.token known front ++ scriptExtension ∉ known := by
  unfold token
  cases h : a.pairs.find? fun w => !known.contains (front ++ w ++ scriptExtension) with
  | none =>
    intro hm
    have := length_le_longest hm
    simp only [Option.getD_none, String.length_append, run, String.length_ofList,
      List.length_replicate] at this
    omega
  | some w => simpa using List.find?_some h

end Letters

/-- Names with pairs of letters in them. -/
def TempNames.lettered (a : Letters) : TempNames where
  token t issued base := a.token (knownNames t issued) base.name
  token_ne_empty t issued base := by
    have := (a.toList_token (knownNames t issued) base.name).1
    intro h
    simp [h] at this
  slash_notMem_token t issued base h :=
    a.slash_notMem ((a.toList_token (knownNames t issued) base.name).2 _ h)
  get?_eq_none t issued base cwd l h :=
    FileTree.get?_eq_none_of_notMem (a.notMem_known (knownNames t issued) base.name) h
  plainPlace_ne t issued base p hp :=
    plainPlace_ne_of_notMem fun hn => a.notMem_known (knownNames t issued) base.name
      (List.mem_append_right _ (List.mem_flatMap.2 ⟨p, hp, hn⟩))

end ScriptRunner
