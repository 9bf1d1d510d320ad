import ScriptRunner.Proofs.FileTree.Place

/-! What is left of a tree when a path is removed. Removing the same path twice is as good as removing it
once. -/

namespace ScriptRunner.FileTree

/-- The tree without what stands at a path. -/
def without (t : FileTree) (cwd : Location) (p : Path) : FileTree :=
  match t.locate cwd .entry (.ofPath p) with
  | .ok l => t.erase l
  | .error _ => t

/-- Once its end is erased, a route leads to the vacant place, or is cut off where it passed it. -/
theorem walk_erase {t : FileTree} {links : Nat} {at_ l : Location} {names : List String}
    (hw : t.walk .entry links at_ names = .ok l) (hl : t.get? l ≠ some .directory) :
    (t.erase l).walk .entry links at_ names = .ok l ∨
      (t.erase l).walk .entry links at_ names = .error .notFound := by
  have hne : l ≠ [] := ne_nil_of_get? hl
  have hdir : ∀ m, t.get? m = some .directory → (t.erase l).get? m = some .directory := by
    intro m hm
    have hml : m ≠ l := by
      rintro rfl
      exact hl hm
    rw [get?_erase t hne, if_neg hml, hm]
  have hgone : (t.erase l).get? l = none := by rw [get?_erase t hne, if_pos rfl]
  have hkept : ∀ m, m ≠ l → (t.erase l).get? m = t.get? m := by
    intro m hm
    rw [get?_erase t hne, if_neg hm]
  -- At the erased place the rest of the route is either empty or leads nowhere.
  have hend : ∀ links rest, (t.erase l).walk .entry links l rest = .ok l ∨
      (t.erase l).walk .entry links l rest = .error .notFound := by
    intro links rest
    by_cases hrest : rest = []
    · exact .inl (by rw [hrest, walk_nil])
    · exact .inr (walk_of_vacant hgone hrest)
  fun_induction walk t .entry links at_ names with
  | case1 => exact .inl (by simpa using hw)
  | case2 => cases hw
  | case3 => cases hw
  | case4 => cases hw
  | case5 links at_ n rest hd hdot ih =>
      rw [walk_dot (hdir _ hd) hdot]
      exact ih hw
  | case6 links at_ rest hd hdot ih =>
      rw [walk_dots (hdir _ hd)]
      exact ih hw
  | case7 => cases hw
  | case8 => cases hw
  | case9 links at_ n rest hd hdot hup hfile hlong target hlink hlast =>
      have hl : at_ ++ [n] = l := Except.ok.inj hw
      rw [walk_name (hdir _ hd) ⟨hdot, hup, hfile, hlong⟩ (by simp [hl, hgone]), hl]
      exact hend _ _
  | case10 => cases hw
  | case11 at_ n rest hd hdot hup hfile hlong target hlink hlast links route ih =>
      by_cases hl : at_ ++ [n] = l
      · rw [walk_name (hdir _ hd) ⟨hdot, hup, hfile, hlong⟩ (by simp [hl, hgone]), hl]
        exact hend _ _
      · rw [walk_link (hdir _ hd) ⟨hdot, hup, hfile, hlong⟩ (by rw [hkept _ hl, hlink]) hlast]
        exact ih hw
  | case12 links at_ n rest hd hdot hup hfile hlong hlink ih =>
      by_cases hl : at_ ++ [n] = l
      · rw [walk_name (hdir _ hd) ⟨hdot, hup, hfile, hlong⟩ (by simp [hl, hgone]), hl]
        exact hend _ _
      · rw [walk_name (hdir _ hd) ⟨hdot, hup, hfile, hlong⟩ (by rw [hkept _ hl]; exact hlink)]
        exact ih hw

theorem locate_erase {t : FileTree} {cwd l : Location} {r : Route}
    (h : t.locate cwd .entry r = .ok l) (hl : t.get? l ≠ some .directory) :
    (t.erase l).locate cwd .entry r = .ok l ∨
      (t.erase l).locate cwd .entry r = .error .notFound := by
  obtain ⟨⟨hnull, hvoid, hsize⟩, hw⟩ := locate_eq_ok_iff.mp h
  unfold locate
  rw [hnull, hvoid]
  simpa [hsize] using walk_erase hw hl

section Paths

variable {t : FileTree} {cwd l : Location} {p : Path}

theorem without_of_locate (h : t.locate cwd .entry (.ofPath p) = .ok l) :
    t.without cwd p = t.erase l := by
  simp [without, h]

theorem erase_of_get?_eq_none (h : t.get? l = none) : t.erase l = t := by
  cases l with
  | nil => cases h
  | cons n l =>
      have hk : ∀ x ∈ t.entries, (x.1 != n :: l) = true := by
        intro x hx
        simp only [get?, List.lookup_eq_none_iff] at h
        have := h x hx
        grind
      simp [erase, List.filter_eq_self.2 hk]

theorem without_of_entryAt_eq_none (h : t.entryAt cwd p = none) : t.without cwd p = t := by
  cases hl : t.locate cwd .entry (.ofPath p) with
  | error fault => simp [without, hl]
  | ok l =>
      rw [entryAt_of_locate hl] at h
      rw [without_of_locate hl, erase_of_get?_eq_none h]

theorem unlink_of_locate (h : t.locate cwd .entry (.ofPath p) = .ok l) {e : Entry}
    (he : t.get? l = some e) (hd : e ≠ .directory) :
    t.unlink cwd (.ofPath p) = .ok (t.erase l) := by
  cases e with
  | directory => exact absurd rfl hd
  | file data => simp [unlink, h, he, bind, Except.bind, pure, Except.pure]
  | link target => simp [unlink, h, he, bind, Except.bind, pure, Except.pure]

theorem unlink_of_vacant (h : t.locate cwd .entry (.ofPath p) = .ok l) (hn : t.get? l = none) :
    t.unlink cwd (.ofPath p) = .error .notFound := by
  simp [unlink, h, hn, bind, Except.bind, throw, throwThe, MonadExceptOf.throw]

theorem discard_of_vacant (h : t.locate cwd .entry (.ofPath p) = .ok l)
    (hn : t.get? l = none) : t.discard cwd (.ofPath p) = .ok t := by
  rw [discard, unlink_of_vacant h hn]

/-- What stands at a path can be removed unless it is a directory. -/
theorem discard_of_locate (h : t.locate cwd .entry (.ofPath p) = .ok l)
    (hd : t.get? l ≠ some .directory) :
    t.discard cwd (.ofPath p) = .ok (t.erase l) := by
  cases he : t.get? l with
  | none => rw [discard_of_vacant h he, erase_of_get?_eq_none he]
  | some e =>
      rw [discard, unlink_of_locate h he (fun hed => hd (hed ▸ he))]

theorem discard_of_directory (h : t.entryAt cwd p = some .directory) :
    t.discard cwd (.ofPath p) = .error .isDirectory := by
  cases hl : t.locate cwd .entry (.ofPath p) with
  | error fault => simp [entryAt, hl] at h
  | ok l =>
      rw [entryAt_of_locate hl] at h
      simp [discard, unlink, hl, h, bind, Except.bind, throw, throwThe, MonadExceptOf.throw]

/-- Removing what was removed already succeeds and changes nothing. -/
theorem discard_erase (h : t.locate cwd .entry (.ofPath p) = .ok l)
    (hd : t.get? l ≠ some .directory) :
    (t.erase l).discard cwd (.ofPath p) = .ok (t.erase l) := by
  have hgone : (t.erase l).get? l = none := by
    rw [get?_erase t (ne_nil_of_get? hd), if_pos rfl]
  rcases locate_erase h hd with hm | hm
  · exact discard_of_vacant hm hgone
  · simp [discard, unlink, hm, bind, Except.bind]

/-- The tree that is left when a path was to be removed, whether or not it could be. -/
theorem discard_getD (h : t.entryAt cwd p ≠ some .directory) :
    (t.discard cwd (.ofPath p)).toOption.getD t = t.without cwd p := by
  cases hl : t.locate cwd .entry (.ofPath p) with
  | error fault =>
      simp only [discard, unlink, without, hl, bind, Except.bind]
      split <;> simp_all [Except.toOption]
  | ok l =>
      rw [entryAt_of_locate hl] at h
      rw [discard_of_locate hl h, without_of_locate hl]
      rfl

/-! ## What can be removed -/

/-- Nothing keeps a path from being removed: no directory stands there, and the way there is open, or breaks
off only where nothing stands. -/
structure Removable (t : FileTree) (cwd : Location) (p : Path) : Prop where
  ne_directory : t.entryAt cwd p ≠ some .directory
  reached : ∀ fault, t.locate cwd .entry (.ofPath p) = .error fault → fault = .notFound

/-- What keeps a path from being removed: a directory stands there, or the way there is barred. -/
inductive Unremovable (t : FileTree) (cwd : Location) (p : Path) : FileFault → Prop where
  | directory (h : t.entryAt cwd p = some .directory) : Unremovable t cwd p .isDirectory
  | unreached {fault} (h : t.locate cwd .entry (.ofPath p) = .error fault) (hne : fault ≠ .notFound) :
      Unremovable t cwd p fault

theorem discard_of_unreached {fault : FileFault} (h : t.locate cwd .entry (.ofPath p) = .error fault) :
    t.discard cwd (.ofPath p) = if fault = .notFound then .ok t else .error fault := by
  have hunlink : t.unlink cwd (.ofPath p) = .error fault := by simp [unlink, h, bind, Except.bind]
  rw [discard, hunlink]
  cases fault <;> rfl

theorem exists_discard_iff : (∃ t', t.discard cwd (.ofPath p) = .ok t') ↔ t.Removable cwd p := by
  constructor
  · rintro ⟨t', h⟩
    refine ⟨fun hd => ?_, fun fault hl => ?_⟩
    · rw [discard_of_directory hd] at h
      cases h
    · rw [discard_of_unreached hl] at h
      split at h
      · assumption
      · cases h
  · intro h
    cases hl : t.locate cwd .entry (.ofPath p) with
    | error fault => exact ⟨t, by rw [discard_of_unreached hl, if_pos (h.reached fault hl)]⟩
    | ok l =>
        have hd := h.ne_directory
        rw [entryAt_of_locate hl] at hd
        exact ⟨_, discard_of_locate hl hd⟩

theorem discard_eq_error_iff {fault : FileFault} :
    t.discard cwd (.ofPath p) = .error fault ↔ t.Unremovable cwd p fault := by
  constructor
  · intro h
    cases hl : t.locate cwd .entry (.ofPath p) with
    | error fault' =>
        rw [discard_of_unreached hl] at h
        split at h
        · cases h
        · rename_i hne
          cases h
          exact .unreached hl hne
    | ok l =>
        by_cases hd : t.entryAt cwd p = some .directory
        · rw [discard_of_directory hd] at h
          cases h
          exact .directory hd
        · rw [entryAt_of_locate hl] at hd
          rw [discard_of_locate hl hd] at h
          cases h
  · intro h
    cases h with
    | directory hd => exact discard_of_directory hd
    | unreached hl hne => rw [discard_of_unreached hl, if_neg hne]

/-- A path that leads somewhere can be removed unless a directory stands there. -/
theorem removable_of_locate (h : t.locate cwd .entry (.ofPath p) = .ok l) (hd : t.get? l ≠ some .directory) :
    t.Removable cwd p :=
  exists_discard_iff.mp ⟨_, discard_of_locate h hd⟩

/-! ## Removing what can be read -/

theorem unlink_of_read {data : Bytes} (h : t.read cwd (.ofPath p) = .ok data) :
    t.unlink cwd (.ofPath p) = .ok (t.without cwd p) := by
  obtain ⟨l, e, hl, he, hd⟩ := exists_locate_of_read h
  rw [unlink_of_locate hl he hd, without_of_locate hl]

/-- A script that has removed itself can be removed once more. -/
theorem discard_without_of_read {data : Bytes} (h : t.read cwd (.ofPath p) = .ok data) :
    (t.without cwd p).discard cwd (.ofPath p) = .ok (t.without cwd p) := by
  obtain ⟨l, e, hl, he, hd⟩ := exists_locate_of_read h
  rw [without_of_locate hl]
  exact discard_erase hl (by simpa [he] using hd)

end Paths

end ScriptRunner.FileTree
