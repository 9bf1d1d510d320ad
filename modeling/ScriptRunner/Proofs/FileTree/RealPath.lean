import ScriptRunner.FileTree.RealPath
import ScriptRunner.Proofs.FileTree.Shape

/-! Real paths. They are the same in trees that differ in their files only, and a name in the root directory
is one of them. -/

namespace ScriptRunner.FileTree

variable {t t' : FileTree}

theorem destination_of_sameShape (h : SameShape t t') (cwd : Path) (depth : Nat)
    (pending : List Path) (resolved : Resolved) (at_ : Path) (names : List String) :
    t'.destination cwd depth pending resolved at_ names =
      t.destination cwd depth pending resolved at_ names := by
  fun_induction destination t cwd depth pending resolved at_ names with
  | case1 => rw [destination]
  | case2 depth pending resolved at_ n rest hdot ih => rw [destination, if_pos hdot, ih]
  | case3 depth pending resolved at_ rest hdot ih => rw [destination, if_neg hdot, if_pos rfl, ih]
  | case4 depth pending resolved at_ n rest hdot hup next target hlink p hknown ih =>
      rw [destination, if_neg hdot, if_neg hup]
      simp only [(h.link_iff _ _).mpr hlink, next, hknown]
      exact ih
  | case5 depth pending resolved at_ n rest hdot hup next target hlink hknown hpending =>
      rw [destination, if_neg hdot, if_neg hup]
      simp only [(h.link_iff _ _).mpr hlink, next, hknown, if_pos hpending]
  | case6 pending resolved at_ n rest hdot hup next target hlink hknown hpending =>
      rw [destination, if_neg hdot, if_neg hup]
      simp only [(h.link_iff _ _).mpr hlink, next, hknown, if_neg hpending]
  | case7 pending resolved at_ n rest hdot hup next target hlink hknown hpending inner route start
      p resolved' hfound ih₂ ih₁ =>
      rw [destination, if_neg hdot, if_neg hup]
      simp only [(h.link_iff _ _).mpr hlink, next, hknown, if_neg hpending]
      have hinner := ih₂.trans hfound
      simp only [next, route, start, dite_eq_ite] at hinner
      simp only [hinner]
      exact ih₁
  | case8 pending resolved at_ n rest hdot hup next target hlink hknown hpending inner route start
      p resolved' hloop ih =>
      rw [destination, if_neg hdot, if_neg hup]
      simp only [(h.link_iff _ _).mpr hlink, next, hknown, if_neg hpending]
      have hinner := ih.trans hloop
      simp only [next, route, start, dite_eq_ite] at hinner
      simp only [hinner]
  | case9 depth pending resolved at_ n rest hdot hup next hlink ih =>
      rw [destination, if_neg hdot, if_neg hup]
      dsimp only
      split
      · rename_i target hlink'
        exact absurd ((h.link_iff _ _).mp hlink') (hlink target)
      · exact ih

theorem status_error_of_sameShape (h : SameShape t t') {cwd : Location} {r : Route}
    {fault : FileFault} (hfound : fault ≠ .notFound) (hdirectory : fault ≠ .notDirectory)
    (hs : t.status cwd r = .error fault) : t'.status cwd r = .error fault := by
  have hl : t.locate cwd .target r = .error fault := by
    unfold status at hs
    cases hl : t.locate cwd .target r with
    | error fault' => simpa [hl, bind, Except.bind] using hs
    | ok l =>
        simp only [hl, bind, Except.bind] at hs
        split at hs
        · cases hs
        · exact absurd (Except.error.inj hs).symm hfound
  have hl' : t'.locate cwd .target r = t.locate cwd .target r :=
    locate_of_sameShape h (by simpa [hl] using hfound) (by simpa [hl] using hdirectory)
  rw [status, hl', hl]
  rfl

theorem realPath_of_sameShape (h : SameShape t t') (cwd p : Path) :
    t'.realPath cwd p = t.realPath cwd p := by
  have hiff : ∀ {l : Location} {r : Route} {fault : FileFault}, fault ≠ .notFound →
      fault ≠ .notDirectory → (t'.status l r = .error fault ↔ t.status l r = .error fault) :=
    fun hf hd => ⟨status_error_of_sameShape h.symm hf hd, status_error_of_sameShape h hf hd⟩
  unfold realPath
  split
  · rfl
  · dsimp only
    rw [destination_of_sameShape h]
    generalize Destination.path cwd _ = real
    split
    · rename_i hs
      rw [(hiff (by decide) (by decide)).mp hs]
    · rename_i hs
      rw [(hiff (by decide) (by decide)).mp hs]
    · rename_i hlinks hnull
      split
      · rename_i hs
        exact absurd ((hiff (by decide) (by decide)).mpr hs) hlinks
      · rename_i hs
        exact absurd ((hiff (by decide) (by decide)).mpr hs) hnull
      · rfl

/-! ## Names in the root directory -/

section Names

variable {n : String} (hn : Proper .target n [])

include hn

theorem collapsed_name (cwd : Path) : (cwd.seenFrom ⟨.slash, [n]⟩).collapsed = ⟨.slash, [n]⟩ := by
  have hdot : ¬ n = "." := fun he => hn.not_dot (by simp [he])
  simp [Path.seenFrom, Path.isAbsolute, Path.collapsed, hn.not_dots, hdot, Path.child]

theorem destination_name (hl : ∀ target, t.get? [n] ≠ some (.link target)) (cwd : Path) (depth : Nat)
    (pending : List Path) (resolved : Resolved) :
    t.destination cwd depth pending resolved ⟨.slash, []⟩ [n] = (.found ⟨.slash, [n]⟩, resolved) := by
  have hnext : (⟨.slash, []⟩ : Path).child n = ⟨.slash, [n]⟩ := rfl
  rw [destination, if_neg hn.not_dot, if_neg hn.not_dots]
  dsimp only
  rw [hnext, collapsed_name hn]
  split
  · rename_i target hlink
    exact absurd hlink (hl target)
  · rw [destination]

theorem status_name_error (hnull : '\x00' ∉ n.toList) (hl : ∀ target, t.get? [n] ≠ some (.link target))
    {cwd : Location} {fault : FileFault} (h : t.status cwd (.ofPath ⟨.slash, [n]⟩) = .error fault) :
    fault ≠ .tooManyLinks ∧ fault ≠ .nullCharacter := by
  have hwalk : t.walk .target maxLinks [] [n] = .ok [n] := by
    rw [walk_name rfl hn hl, walk_nil]
    rfl
  have hnull' : (Route.ofPath ⟨.slash, [n]⟩).hasNull = false := by
    simpa [Route.hasNull, Route.ofPath] using hnull
  have hlocate : t.locate cwd .target (.ofPath ⟨.slash, [n]⟩) =
      if maxRouteSize < (Route.ofPath ⟨.slash, [n]⟩).size then .error .nameTooLong else .ok [n] := by
    rw [locate, hnull', ← hwalk]
    rfl
  rw [status, hlocate] at h
  split at h
  · cases h
    decide
  · cases he : t.get? [n] with
    | some e => simp [he, bind, Except.bind, pure, Except.pure] at h
    | none =>
        simp only [he, bind, Except.bind, throw, throwThe, MonadExceptOf.throw] at h
        cases h
        decide

/-- A name in the root directory is a real path unless it is that of a link. -/
theorem realPath_name (hslash : '/' ∉ n.toList) (hnull : '\x00' ∉ n.toList)
    (hl : ∀ target, t.get? [n] ≠ some (.link target)) (cwd : Path) :
    t.realPath cwd ⟨.slash, [n]⟩ = .ok ⟨.slash, [n]⟩ := by
  have hroute : Route.ofString (Path.toString ⟨.slash, [n]⟩) = ⟨true, [n]⟩ := by
    have htext : (Path.toString ⟨.slash, [n]⟩).toList = '/' :: n.toList := by
      simp [Path.toString, Root.text]
    have hsplit : ('/' :: n.toList).splitOn '/' = [[], n.toList] := by
      rw [List.splitOn_cons_eq_if_modifyHead, List.splitOn_eq_singleton hslash]
      simp
    rw [Route.ofString, htext, hsplit]
    simp
  have hpath : (⟨.slash, [n]⟩ : Path).hasNull = false := by
    simpa [Path.hasNull] using hnull
  rw [realPath, hpath, hroute]
  dsimp only
  rw [if_neg (by decide), if_pos rfl, destination_name hn hl, Destination.path, collapsed_name hn]
  split
  · rename_i hs
    exact absurd rfl (status_name_error hn hnull hl hs).1
  · rename_i hs
    exact absurd rfl (status_name_error hn hnull hl hs).2
  · rfl

end Names
end ScriptRunner.FileTree
