import ScriptRunner.Artifact.LetteredNames

/-! Trees that differ in their files only. A route that leads somewhere in one of them leads to the same
place in all of them, so that adding and removing files leaves all other routes as they are. -/

namespace ScriptRunner.FileTree

/-- Directories and links stand at the same locations of both trees. -/
structure SameShape (t t' : FileTree) : Prop where
  directory_iff : ∀ l, t'.get? l = some .directory ↔ t.get? l = some .directory
  link_iff : ∀ l target, t'.get? l = some (.link target) ↔ t.get? l = some (.link target)

theorem SameShape.refl (t : FileTree) : SameShape t t := ⟨fun _ => Iff.rfl, fun _ _ => Iff.rfl⟩

theorem SameShape.trans {t t' t'' : FileTree} (h : SameShape t t') (h' : SameShape t' t'') : SameShape t t'' :=
  ⟨fun l => (h'.directory_iff l).trans (h.directory_iff l),
    fun l target => (h'.link_iff l target).trans (h.link_iff l target)⟩

theorem SameShape.symm {t t' : FileTree} (h : SameShape t t') : SameShape t' t :=
  ⟨fun l => (h.directory_iff l).symm, fun l target => (h.link_iff l target).symm⟩

theorem ne_nil_of_get? {t : FileTree} {l : Location} (h : t.get? l ≠ some .directory) : l ≠ [] := by
  rintro rfl
  exact h rfl

/-- Neither a directory nor a link stands at a location. -/
structure AtMostFile (t : FileTree) (l : Location) : Prop where
  ne_directory : t.get? l ≠ some .directory
  ne_link : ∀ target, t.get? l ≠ some (.link target)

theorem atMostFile_of_vacant {t : FileTree} {l : Location} (h : t.get? l = none) : t.AtMostFile l :=
  ⟨by simp [h], by simp [h]⟩

theorem atMostFile_of_file {t : FileTree} {l : Location} {data : Bytes} (h : t.get? l = some (.file data)) :
    t.AtMostFile l :=
  ⟨by simp [h], by simp [h]⟩

/-- Trees have the same shape if they differ in files alone. -/
theorem sameShape_of_get? {t t' : FileTree}
    (h : ∀ l, t'.get? l = t.get? l ∨ t.AtMostFile l ∧ t'.AtMostFile l) : SameShape t t' := by
  constructor
  · intro l
    obtain he | ⟨hl, hl'⟩ := h l
    · rw [he]
    · exact iff_of_false hl'.ne_directory hl.ne_directory
  · intro l target
    obtain he | ⟨hl, hl'⟩ := h l
    · rw [he]
    · exact iff_of_false (hl'.ne_link target) (hl.ne_link target)

namespace AtMostFile

variable {t : FileTree} {l : Location}

theorem ne_nil (h : t.AtMostFile l) : l ≠ [] := ne_nil_of_get? h.ne_directory

theorem of_sameShape {t' : FileTree} (hshape : SameShape t t') (h : t.AtMostFile l) : t'.AtMostFile l :=
  ⟨fun he => h.ne_directory ((hshape.directory_iff l).mp he),
    fun target he => h.ne_link target ((hshape.link_iff l target).mp he)⟩

/-- A file that is written changes no directory and no link. -/
theorem sameShape_set (h : t.AtMostFile l) (data : Bytes) : SameShape t (t.set l (.file data)) := by
  refine sameShape_of_get? fun m => ?_
  by_cases hm : m = l
  · subst hm
    exact .inr ⟨h, atMostFile_of_file (by rw [get?_set t h.ne_nil, if_pos rfl])⟩
  · exact .inl (by rw [get?_set t h.ne_nil, if_neg hm])

theorem sameShape_erase (h : t.AtMostFile l) : SameShape t (t.erase l) := by
  refine sameShape_of_get? fun m => ?_
  by_cases hm : m = l
  · subst hm
    exact .inr ⟨h, atMostFile_of_vacant (by rw [get?_erase t h.ne_nil, if_pos rfl])⟩
  · exact .inl (by rw [get?_erase t h.ne_nil, if_neg hm])

end AtMostFile

/-- A new file changes no directory and no link. -/
theorem sameShape_set {t : FileTree} {l : Location} (h : t.get? l = none) (data : Bytes) :
    SameShape t (t.set l (.file data)) :=
  (atMostFile_of_vacant h).sameShape_set data

/-! ## Steps of a walk -/

section Steps

variable {t : FileTree} {aim : Aim} {links : Nat} {at_ : Location} {n : String} {rest : List String}

@[simp] theorem walk_nil : t.walk aim links at_ [] = .ok at_ := by
  rw [walk]

theorem walk_dot (h : t.get? at_ = some .directory) (hn : (n = "" || n = ".") = true) :
    t.walk aim links at_ (n :: rest) = t.walk aim links at_ rest := by
  rw [walk]
  simp only [h]
  rw [if_pos hn]

theorem walk_dots (h : t.get? at_ = some .directory) :
    t.walk aim links at_ (".." :: rest) = t.walk aim links at_.dropLast rest := by
  rw [walk]
  simp only [h]
  rw [if_neg (by decide), if_pos trivial]

/-- A name that can be looked up: neither empty nor dots, and not too long. -/
structure Proper (aim : Aim) (n : String) (rest : List String) : Prop where
  not_dot : ¬ (n = "" || n = ".") = true
  not_dots : ¬ n = ".."
  not_trailing : ¬ (aim = .file && isTrailing rest) = true
  not_long : ¬ maxNameSize < n.utf8ByteSize

theorem walk_name (h : t.get? at_ = some .directory) (hn : Proper aim n rest)
    (hl : ∀ target, t.get? (at_ ++ [n]) ≠ some (.link target)) :
    t.walk aim links at_ (n :: rest) = t.walk aim links (at_ ++ [n]) rest := by
  rw [walk]
  simp only [h]
  rw [if_neg hn.not_dot, if_neg hn.not_dots, if_neg hn.not_trailing, if_neg hn.not_long]

theorem walk_last_link (h : t.get? at_ = some .directory) (hn : Proper .entry n [])
    {target : String} (hl : t.get? (at_ ++ [n]) = some (.link target)) :
    t.walk .entry links at_ [n] = .ok (at_ ++ [n]) := by
  rw [walk]
  simp only [h, hl]
  rw [if_neg hn.not_dot, if_neg hn.not_dots, if_neg hn.not_trailing, if_neg hn.not_long]
  rfl

theorem walk_link (h : t.get? at_ = some .directory) (hn : Proper aim n rest) {target : String}
    (hl : t.get? (at_ ++ [n]) = some (.link target)) (hend : ¬ (rest.isEmpty && aim = .entry) = true) :
    t.walk aim (links + 1) at_ (n :: rest) =
      t.walk aim links ((Route.ofString target).start at_)
        ((Route.ofString target).names ++ rest) := by
  rw [walk]
  simp only [h, hl]
  rw [if_neg hn.not_dot, if_neg hn.not_dots, if_neg hn.not_trailing, if_neg hn.not_long,
    if_neg hend]

theorem walk_link_of_no_links (h : t.get? at_ = some .directory) (hn : Proper aim n rest) {target : String}
    (hl : t.get? (at_ ++ [n]) = some (.link target)) (hend : ¬ (rest.isEmpty && aim = .entry) = true) :
    t.walk aim 0 at_ (n :: rest) = .error .tooManyLinks := by
  rw [walk]
  simp only [h, hl]
  rw [if_neg hn.not_dot, if_neg hn.not_dots, if_neg hn.not_trailing, if_neg hn.not_long,
    if_neg hend]

theorem walk_trailing (h : t.get? at_ = some .directory) (hdot : ¬ (n = "" || n = ".") = true)
    (hup : ¬ n = "..") (hfile : (aim = .file && isTrailing rest) = true) :
    t.walk aim links at_ (n :: rest) = .error .isDirectory := by
  rw [walk]
  simp only [h]
  rw [if_neg hdot, if_neg hup, if_pos hfile]

theorem walk_long (h : t.get? at_ = some .directory) (hdot : ¬ (n = "" || n = ".") = true)
    (hup : ¬ n = "..") (hfile : ¬ (aim = .file && isTrailing rest) = true)
    (hlong : maxNameSize < n.utf8ByteSize) :
    t.walk aim links at_ (n :: rest) = .error .nameTooLong := by
  rw [walk]
  simp only [h]
  rw [if_neg hdot, if_neg hup, if_neg hfile, if_pos hlong]

/-- Where nothing stands, no name leads on. -/
theorem walk_of_vacant (h : t.get? at_ = none) (hr : rest ≠ []) :
    t.walk aim links at_ rest = .error .notFound := by
  cases rest with
  | nil => exact absurd rfl hr
  | cons n rest =>
      rw [walk]
      simp only [h]

end Steps

/-- A walk meets directories and links only, until it is cut off at something else. -/
theorem walk_of_sameShape {t t' : FileTree} (h : SameShape t t') {aim : Aim} {links : Nat}
    {at_ : Location} {names : List String}
    (hfound : t.walk aim links at_ names ≠ .error .notFound)
    (hdirectory : t.walk aim links at_ names ≠ .error .notDirectory) :
    t'.walk aim links at_ names = t.walk aim links at_ names := by
  fun_induction walk t aim links at_ names with
  | case1 => rw [walk_nil]
  | case2 => exact absurd rfl hfound
  | case3 => exact absurd rfl hdirectory
  | case4 => exact absurd rfl hdirectory
  | case5 links at_ n rest hd hdot ih =>
      rw [walk_dot ((h.directory_iff _).mpr hd) hdot]
      exact ih hfound hdirectory
  | case6 links at_ rest hd hdot ih =>
      rw [walk_dots ((h.directory_iff _).mpr hd)]
      exact ih hfound hdirectory
  | case7 links at_ n rest hd hdot hup hfile =>
      exact walk_trailing ((h.directory_iff _).mpr hd) hdot hup hfile
  | case8 links at_ n rest hd hdot hup hfile hlong =>
      exact walk_long ((h.directory_iff _).mpr hd) hdot hup hfile hlong
  | case9 links at_ n rest hd hdot hup hfile hlong target hlink hend =>
      obtain ⟨hrest, haim⟩ : rest = [] ∧ aim = .entry := by simpa using hend
      subst hrest haim
      rw [walk_last_link ((h.directory_iff _).mpr hd) ⟨hdot, hup, hfile, hlong⟩
        ((h.link_iff _ _).mpr hlink)]
  | case10 at_ n rest hd hdot hup hfile hlong target hlink hend =>
      exact walk_link_of_no_links ((h.directory_iff _).mpr hd) ⟨hdot, hup, hfile, hlong⟩
        ((h.link_iff _ _).mpr hlink) hend
  | case11 at_ n rest hd hdot hup hfile hlong target hlink hend links route ih =>
      rw [walk_link ((h.directory_iff _).mpr hd) ⟨hdot, hup, hfile, hlong⟩
        ((h.link_iff _ _).mpr hlink) hend]
      exact ih hfound hdirectory
  | case12 links at_ n rest hd hdot hup hfile hlong hlink ih =>
      rw [walk_name ((h.directory_iff _).mpr hd) ⟨hdot, hup, hfile, hlong⟩
        fun target he => hlink target ((h.link_iff _ _).mp he)]
      exact ih hfound hdirectory

theorem locate_eq_ok_iff {t : FileTree} {cwd l : Location} {aim : Aim} {r : Route} :
    t.locate cwd aim r = .ok l ↔
      (r.hasNull = false ∧ r.isVoid = false ∧ ¬ maxRouteSize < r.size) ∧
        t.walk aim maxLinks (r.start cwd) r.names = .ok l := by
  unfold locate
  grind

theorem locate_of_sameShape {t t' : FileTree} (h : SameShape t t') {cwd : Location} {aim : Aim}
    {r : Route} (hfound : t.locate cwd aim r ≠ .error .notFound)
    (hdirectory : t.locate cwd aim r ≠ .error .notDirectory) :
    t'.locate cwd aim r = t.locate cwd aim r := by
  unfold locate at *
  split
  · rfl
  · split
    · rfl
    · split
      · rfl
      · simp_all only [if_false]
        exact walk_of_sameShape h hfound hdirectory

/-- Where a route leads in one tree it leads in all trees of the same shape. -/
theorem SameShape.locate_eq {t t' : FileTree} (h : SameShape t t') {cwd l : Location} {aim : Aim} {r : Route}
    (hl : t.locate cwd aim r = .ok l) : t'.locate cwd aim r = .ok l := by
  rw [locate_of_sameShape h (by simp [hl]) (by simp [hl]), hl]

end ScriptRunner.FileTree
