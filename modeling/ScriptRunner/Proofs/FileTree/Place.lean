import ScriptRunner.Proofs.FileTree.Shape

/-! What stands at a path. A link at its end is taken as it is when the path is added or removed, and is
followed when the path is read. -/

namespace ScriptRunner.FileTree

/-- What stands at a path, a link taken as it is. -/
def entryAt (t : FileTree) (cwd : Location) (p : Path) : Option Entry :=
  match t.locate cwd .entry (.ofPath p) with
  | .ok l => t.get? l
  | .error _ => none

/-- A path leads to a file with this data, links followed. -/
def HoldsAt (t : FileTree) (cwd : Location) (p : Path) (data : Bytes) : Prop :=
  ∃ l, t.locate cwd .target (.ofPath p) = .ok l ∧ t.get? l = some (.file data)

/-- What keeps a path from being read: it leads nowhere, or to something that is no file. -/
inductive Unreadable (t : FileTree) (cwd : Location) (p : Path) : FileFault → Prop where
  | unreached {fault} (h : t.locate cwd .target (.ofPath p) = .error fault) : Unreadable t cwd p fault
  | vacant {l} (h : t.locate cwd .target (.ofPath p) = .ok l) (hl : t.get? l = none) :
      Unreadable t cwd p .notFound
  | noFile {l e} (h : t.locate cwd .target (.ofPath p) = .ok l) (hl : t.get? l = some e)
      (he : ∀ data, e ≠ .file data) : Unreadable t cwd p .isDirectory

/-! ## Links at the end of a route -/

/-- A link at the end of a route is left alone, or followed; if none is there the place is the same. -/
theorem walk_target_of_entry {t : FileTree} {links : Nat} {at_ l : Location} {names : List String}
    (hw : t.walk .entry links at_ names = .ok l) (hl : ∀ target, t.get? l ≠ some (.link target)) :
    t.walk .target links at_ names = .ok l := by
  fun_induction walk t .entry links at_ names with
  | case1 => simpa using hw
  | case2 => cases hw
  | case3 => cases hw
  | case4 => cases hw
  | case5 links at_ n rest hd hdot ih => rw [walk_dot hd hdot, ih hw]
  | case6 links at_ rest hd hdot ih => rw [walk_dots hd, ih hw]
  | case7 => cases hw
  | case8 => cases hw
  | case9 links at_ n rest hd hdot hup hfile hlong target hlink hend =>
      rw [← Except.ok.inj hw] at hl
      exact absurd hlink (hl target)
  | case10 => cases hw
  | case11 at_ n rest hd hdot hup hfile hlong target hlink hend links route ih =>
      rw [walk_link hd ⟨hdot, hup, by simp, hlong⟩ hlink (by simp)]
      exact ih hw
  | case12 links at_ n rest hd hdot hup hfile hlong hlink ih =>
      rw [walk_name hd ⟨hdot, hup, by simp, hlong⟩ hlink]
      exact ih hw

/-- Where a route with its last link followed leads somewhere, it does so with that link left alone. -/
theorem exists_walk_entry_of_target {t : FileTree} {links : Nat} {at_ l : Location}
    {names : List String} (hw : t.walk .target links at_ names = .ok l) :
    ∃ m, t.walk .entry links at_ names = .ok m := by
  fun_induction walk t .target links at_ names with
  | case1 => exact ⟨_, walk_nil⟩
  | case2 => cases hw
  | case3 => cases hw
  | case4 => cases hw
  | case5 links at_ n rest hd hdot ih =>
      rw [walk_dot hd hdot]
      exact ih hw
  | case6 links at_ rest hd hdot ih =>
      rw [walk_dots hd]
      exact ih hw
  | case7 => cases hw
  | case8 => cases hw
  | case9 links at_ n rest hd hdot hup hfile hlong target hlink hend => simp at hend
  | case10 => cases hw
  | case11 at_ n rest hd hdot hup hfile hlong target hlink hend links route ih =>
      cases rest with
      | nil => exact ⟨_, walk_last_link hd ⟨hdot, hup, by simp, hlong⟩ hlink⟩
      | cons next rest =>
          rw [walk_link hd ⟨hdot, hup, by simp, hlong⟩ hlink (by simp)]
          exact ih hw
  | case12 links at_ n rest hd hdot hup hfile hlong hlink ih =>
      rw [walk_name hd ⟨hdot, hup, by simp, hlong⟩ hlink]
      exact ih hw

theorem locate_target_of_entry {t : FileTree} {cwd l : Location} {r : Route}
    (h : t.locate cwd .entry r = .ok l) (hl : ∀ target, t.get? l ≠ some (.link target)) :
    t.locate cwd .target r = .ok l := by
  rw [locate_eq_ok_iff] at h ⊢
  exact ⟨h.1, walk_target_of_entry h.2 hl⟩

theorem exists_locate_entry_of_target {t : FileTree} {cwd l : Location} {r : Route}
    (h : t.locate cwd .target r = .ok l) : ∃ m, t.locate cwd .entry r = .ok m := by
  rw [locate_eq_ok_iff] at h
  obtain ⟨m, hm⟩ := exists_walk_entry_of_target h.2
  exact ⟨m, locate_eq_ok_iff.mpr ⟨h.1, hm⟩⟩

section Paths

variable {t : FileTree} {cwd l : Location} {p : Path}

theorem entryAt_of_locate (h : t.locate cwd .entry (.ofPath p) = .ok l) :
    t.entryAt cwd p = t.get? l := by
  simp [entryAt, h]

/-- A path with no link at its end leads to the place that it names. -/
theorem locate_entry_of_target (h : t.locate cwd .target (.ofPath p) = .ok l)
    (hlink : ∀ target, t.entryAt cwd p ≠ some (.link target)) : t.locate cwd .entry (.ofPath p) = .ok l := by
  obtain ⟨place, hplace⟩ := exists_locate_entry_of_target h
  rw [entryAt_of_locate hplace] at hlink
  rw [hplace, ← locate_target_of_entry hplace hlink, h]

/-! ## Adding, writing and reading -/

theorem add_eq_ok_iff {t' : FileTree} {r : Route} {e : Entry} :
    t.add cwd r e = .ok t' ↔
      ∃ l, t.locate cwd .entry r = .ok l ∧ t.get? l = none ∧ t' = t.set l e := by
  unfold add
  cases hl : t.locate cwd .entry r with
  | error fault => simp [bind, Except.bind]
  | ok l =>
      cases he : t.get? l with
      | none => simp [he, bind, Except.bind, pure, Except.pure, eq_comm]
      | some e' => simp [he, bind, Except.bind, throw, throwThe, MonadExceptOf.throw]

theorem status_eq_ok_iff {e : Entry} {r : Route} :
    t.status cwd r = .ok e ↔ ∃ l, t.locate cwd .target r = .ok l ∧ t.get? l = some e := by
  unfold status
  cases hl : t.locate cwd .target r with
  | error fault => simp [bind, Except.bind]
  | ok l =>
      simp only [bind, Except.bind]
      cases he : t.get? l with
      | none => simp [he, throw, throwThe, MonadExceptOf.throw]
      | some e' => simp [he, pure, Except.pure]

theorem write_of_locate {r : Route} (h : t.locate cwd .file r = .ok l) (hd : t.get? l ≠ some .directory)
    (data : Bytes) : t.write cwd r data = .ok (t.set l (.file data)) := by
  simp [write, h, bind, Except.bind, pure, Except.pure]

theorem locate_root (aim : Aim) : t.locate cwd aim (.ofPath ⟨.slash, []⟩) = .ok [] := by
  rw [locate_eq_ok_iff]
  exact ⟨by decide, walk_nil⟩

/-- A name in the root directory leads to its place, unless a link stands there. -/
theorem locate_name {n : String} {aim : Aim} (hn : Proper aim n [])
    (hroute : (Route.ofPath ⟨.slash, [n]⟩).hasNull = false ∧ (Route.ofPath ⟨.slash, [n]⟩).isVoid = false ∧
      ¬ maxRouteSize < (Route.ofPath ⟨.slash, [n]⟩).size)
    (hl : ∀ target, t.get? [n] ≠ some (.link target)) : t.locate cwd aim (.ofPath ⟨.slash, [n]⟩) = .ok [n] :=
  locate_eq_ok_iff.mpr ⟨hroute, (walk_name rfl hn hl).trans walk_nil⟩

theorem ensureDirectories_root : t.ensureDirectories cwd ⟨.slash, []⟩ = (t, none) := by
  have hroot : t.get? [] = some .directory := rfl
  have hstatus : t.status cwd (.ofPath ⟨.slash, []⟩) = .ok .directory :=
    status_eq_ok_iff.mpr ⟨[], locate_root .target, hroot⟩
  have hadd : t.add cwd (.ofPath ⟨.slash, []⟩) .directory = .error .alreadyExists := by
    simp [add, locate_root, hroot, bind, Except.bind, throw, throwThe, MonadExceptOf.throw]
  have hensure : t.ensureDirectory cwd ⟨.slash, []⟩ = .ok t := by
    simp [ensureDirectory, hadd, isDirectory, hstatus, Except.toOption]
  simp [ensureDirectories, ensureAbove, Outcome.andThen, hensure]

/-- A file in the root directory needs no directories. -/
theorem writeUnder_name {n : String} (h : t.locate cwd .file (.ofPath ⟨.slash, [n]⟩) = .ok l)
    (hd : t.get? l ≠ some .directory) (data : Bytes) :
    t.writeUnder cwd ⟨.slash, [n]⟩ data = (t.set l (.file data), none) := by
  rw [writeUnder, show (⟨.slash, [n]⟩ : Path).parent = ⟨.slash, []⟩ from rfl, ensureDirectories_root,
    Outcome.andThen, write_of_locate h hd]
  rfl

theorem status_of_entryAt {e : Entry} (h : t.entryAt cwd p = some e)
    (he : ∀ target, e ≠ .link target) : t.status cwd (.ofPath p) = .ok e := by
  cases hl : t.locate cwd .entry (.ofPath p) with
  | error fault => simp [entryAt, hl] at h
  | ok l =>
      rw [entryAt_of_locate hl] at h
      have hlink : ∀ target, t.get? l ≠ some (.link target) := by simpa [h] using he
      exact status_eq_ok_iff.mpr ⟨l, locate_target_of_entry hl hlink, h⟩

/-- Where something is found to exist, a path leads there with its last link left alone too. -/
theorem exists_locate_of_exists {r : Route} (h : t.exists? cwd r = .ok true) :
    ∃ l, t.locate cwd .entry r = .ok l := by
  unfold exists? at h
  split at h
  · rename_i e hs
    obtain ⟨l, hl, -⟩ := status_eq_ok_iff.mp hs
    exact exists_locate_entry_of_target hl
  · cases h
  · cases h

/-- What stands at a path exists, but for a link, which may lead nowhere. -/
theorem exists_of_entryAt {e : Entry} (h : t.entryAt cwd p = some e)
    (hl : ∀ target, e ≠ .link target) : t.exists? cwd (.ofPath p) = .ok true := by
  rw [exists?, status_of_entryAt h hl]

/-- Only names that are too long leave open whether something exists. -/
theorem exists?_cases (t : FileTree) (cwd : Location) (r : Route) :
    t.exists? cwd r = .ok true ∨ t.exists? cwd r = .ok false ∨ t.exists? cwd r = .error .nameTooLong := by
  unfold exists?
  split
  · exact .inl rfl
  · exact .inr (.inr rfl)
  · exact .inr (.inl rfl)

theorem read_eq_ok_iff {data : Bytes} {r : Route} :
    t.read cwd r = .ok data ↔ t.status cwd r = .ok (.file data) := by
  unfold read
  cases hs : t.status cwd r with
  | error fault => simp [bind, Except.bind]
  | ok e => cases e <;> simp [bind, Except.bind, pure, Except.pure, throw, throwThe, MonadExceptOf.throw]

theorem read_eq_ok_iff_holdsAt {data : Bytes} : t.read cwd (.ofPath p) = .ok data ↔ t.HoldsAt cwd p data :=
  read_eq_ok_iff.trans status_eq_ok_iff

theorem read_eq_error_iff {fault : FileFault} :
    t.read cwd (.ofPath p) = .error fault ↔ t.Unreadable cwd p fault := by
  constructor
  · intro h
    cases hl : t.locate cwd .target (.ofPath p) with
    | error fault' =>
        obtain rfl : fault' = fault := by simpa [read, status, hl, bind, Except.bind] using h
        exact .unreached hl
    | ok l =>
        cases he : t.get? l with
        | none =>
            obtain rfl : FileFault.notFound = fault := by
              simpa [read, status, hl, he, bind, Except.bind, throw, throwThe, MonadExceptOf.throw] using h
            exact .vacant hl he
        | some e =>
            rw [read, status_eq_ok_iff.mpr ⟨l, hl, he⟩] at h
            cases e with
            | file data => simp [bind, Except.bind, pure, Except.pure] at h
            | directory | link target =>
                obtain rfl : FileFault.isDirectory = fault := by
                  simpa [bind, Except.bind, throw, throwThe, MonadExceptOf.throw] using h
                exact .noFile hl he (by simp)
  · intro h
    cases h with
    | unreached hl => simp [read, status, hl, bind, Except.bind]
    | vacant hl he => simp [read, status, hl, he, bind, Except.bind, throw, throwThe, MonadExceptOf.throw]
    | @noFile l e hl he hfile =>
        rw [read, status_eq_ok_iff.mpr ⟨l, hl, he⟩]
        cases e with
        | file data => exact absurd rfl (hfile data)
        | directory | link target => rfl

theorem read_of_locate {data : Bytes} (h : t.locate cwd .entry (.ofPath p) = .ok l)
    (hfile : t.get? l = some (.file data)) : t.read cwd (.ofPath p) = .ok data :=
  read_eq_ok_iff.mpr (status_of_entryAt ((entryAt_of_locate h).trans hfile) (by simp))

theorem read_of_vacant (h : t.locate cwd .entry (.ofPath p) = .ok l) (hnone : t.get? l = none) :
    (t.read cwd (.ofPath p)).toOption = none := by
  have hstatus : t.status cwd (.ofPath p) = .error .notFound := by
    simp [status, locate_target_of_entry h (by simp [hnone]), hnone, bind, Except.bind, throw, throwThe,
      MonadExceptOf.throw]
  simp [read, hstatus, bind, Except.bind, Except.toOption]

/-- What can be read at a path is a file, or a link to one. -/
theorem exists_locate_of_read {data : Bytes} (h : t.read cwd (.ofPath p) = .ok data) :
    ∃ l e, t.locate cwd .entry (.ofPath p) = .ok l ∧ t.get? l = some e ∧ e ≠ .directory := by
  obtain ⟨place, hplace, hfile⟩ := status_eq_ok_iff.mp (read_eq_ok_iff.mp h)
  obtain ⟨l, hl⟩ := exists_locate_entry_of_target hplace
  by_cases hlink : ∃ target, t.get? l = some (.link target)
  · obtain ⟨target, hlink⟩ := hlink
    exact ⟨l, .link target, hl, hlink, by simp⟩
  · have hsame := locate_target_of_entry hl fun target he => hlink ⟨target, he⟩
    rw [hplace] at hsame
    cases hsame
    exact ⟨place, .file data, hl, hfile, by simp⟩

theorem entryAt_ne_directory_of_read {data : Bytes} (h : t.read cwd (.ofPath p) = .ok data) :
    t.entryAt cwd p ≠ some .directory := by
  obtain ⟨l, e, hl, he, hd⟩ := exists_locate_of_read h
  rw [entryAt_of_locate hl, he]
  simpa using hd

end Paths

end ScriptRunner.FileTree
