import ScriptRunner.Proofs.FileTree.Place

/-! Spellings of a path. A route as it is written has empty names and single dots, which a path has not;
where the route leads to something, the path leads to the same. -/

namespace ScriptRunner.FileTree

/-- The names without some of those that stay in place. -/
inductive DropsDots : List String → List String → Prop where
  | nil : DropsDots [] []
  | keep (n : String) {names names' : List String} (h : DropsDots names names') :
      DropsDots (n :: names) (n :: names')
  | drop {n : String} (hn : (n = "" || n = ".") = true) {names names' : List String}
      (h : DropsDots names names') : DropsDots (n :: names) names'

theorem size_cons (n : String) (names : List String) :
    ("/".intercalate (n :: names)).utf8ByteSize =
      n.utf8ByteSize + if names = [] then 0 else 1 + ("/".intercalate names).utf8ByteSize := by
  split
  · rename_i h
    simp [h]
  · rename_i h
    have hslash : "/".utf8ByteSize = 1 := rfl
    rw [String.intercalate_cons_of_ne_nil h, String.utf8ByteSize_append, String.utf8ByteSize_append,
      hslash, Nat.add_assoc]

namespace DropsDots

variable {names names' : List String}

theorem append_left (h : DropsDots names names') (front : List String) :
    DropsDots (front ++ names) (front ++ names') := by
  induction front with
  | nil => exact h
  | cons n front ih => exact .keep n ih

theorem filter (names : List String) :
    DropsDots names (names.filter fun n => n != "" && n != ".") := by
  induction names with
  | nil => exact .nil
  | cons n names ih =>
      rw [List.filter_cons]
      split
      · exact .keep n ih
      · rename_i hn
        exact .drop (by grind) ih

theorem subset (h : DropsDots names names') : names' ⊆ names := by
  induction h with
  | nil => exact List.Subset.refl _
  | keep n _ ih => exact List.cons_subset_cons n ih
  | drop _ _ ih => exact List.subset_cons_of_subset _ ih

theorem ne_nil (h : DropsDots names names') (hne : names' ≠ []) : names ≠ [] := by
  rintro rfl
  exact hne (List.subset_nil.mp h.subset)

/-- Written out, fewer names are no longer. -/
theorem size_le (h : DropsDots names names') :
    ("/".intercalate names').utf8ByteSize ≤ ("/".intercalate names).utf8ByteSize := by
  induction h with
  | nil => exact Nat.le_refl _
  | @keep n names names' h ih =>
      rw [size_cons, size_cons]
      split
      · omega
      · rename_i hne
        rw [if_neg (h.ne_nil hne)]
        omega
  | @drop n hn names names' h ih =>
      rw [size_cons]
      split
      · rename_i hnil
        rw [hnil] at ih
        exact Nat.le_trans ih (Nat.zero_le _)
      · omega

end DropsDots

/-- Names that stay in place make no difference to what is found. -/
theorem walk_of_dropsDots {t : FileTree} {links : Nat} {at_ l : Location} {names names' : List String}
    (hd : DropsDots names names') (h : t.walk .target links at_ names = .ok l) :
    t.walk .target links at_ names' = .ok l := by
  fun_induction FileTree.walk t .target links at_ names generalizing names' with
  | case1 =>
      cases hd
      simpa using h
  | case2 => cases h
  | case3 => cases h
  | case4 => cases h
  | case5 links at_ n rest hdir hdot ih =>
      cases hd with
      | keep _ hd =>
          rw [walk_dot hdir hdot]
          exact ih hd h
      | drop _ hd => exact ih hd h
  | case6 links at_ rest hdir hdot ih =>
      cases hd with
      | keep _ hd =>
          rw [walk_dots hdir]
          exact ih hd h
      | drop hn _ => exact absurd hn (by decide)
  | case7 => cases h
  | case8 => cases h
  | case9 links at_ n rest hdir hdot hup hfile hlong target hlink hend => simp at hend
  | case10 => cases h
  | case11 at_ n rest hdir hdot hup hfile hlong target hlink hend links route =>
      rename_i ih
      cases hd with
      | keep _ hd =>
          rw [walk_link hdir ⟨hdot, hup, by simp, hlong⟩ hlink (by simp)]
          exact ih (hd.append_left _) h
      | drop hn _ => exact absurd hn hdot
  | case12 links at_ n rest hdir hdot hup hfile hlong hlink ih =>
      cases hd with
      | keep _ hd =>
          rw [walk_name hdir ⟨hdot, hup, by simp, hlong⟩ hlink]
          exact ih hd h
      | drop hn _ => exact absurd hn hdot

/-! ## Routes and paths -/

theorem isAbsolute_ofString (s : String) : (Path.ofString s).isAbsolute = (Route.ofString s).absolute := by
  have habsolute : (Route.ofString s).absolute = decide (s.toList.head? = some '/') := by
    unfold Route.ofString
    dsimp only
    split <;> simp_all
  rw [habsolute, Path.isAbsolute_ofString]

/-- A path is spelled with at least the names that it has. -/
theorem dropsDots_ofString (s : String) : DropsDots (Route.ofString s).names (Path.ofString s).names := by
  unfold Route.ofString Path.ofString slashNames
  dsimp only
  split
  · rename_i hslash
    cases hs : s.toList with
    | nil => simp [hs] at hslash
    | cons c cs =>
        obtain rfl : c = '/' := by simpa [hs] using hslash
        rw [List.splitOn_cons_eq_if_modifyHead]
        exact .filter _
  · exact .filter _

theorem DropsDots.hasNull_eq {r r' : Route} (hd : DropsDots r.names r'.names) (h : r.hasNull = false) :
    r'.hasNull = false := by
  simp only [Route.hasNull, List.any_eq_false] at *
  exact fun n hn => h n (hd.subset hn)

theorem isVoid_ofPath_ofString (s : String) : (Route.ofPath (.ofString s)).isVoid = false := by
  have hne : (Path.ofString s).names ≠ [""] := by
    intro he
    have hmem : "" ∈ (Path.ofString s).names := by simp [he]
    simp [Path.ofString, slashNames] at hmem
  simp [Route.isVoid, Route.ofPath, hne]

/-- What is found under a text as it stands is found under the path that it is read as. -/
theorem status_ofPath_ofString {t : FileTree} {cwd : Location} {s : String} {e : Entry}
    (h : t.status cwd (.ofString s) = .ok e) : t.status cwd (.ofPath (.ofString s)) = .ok e := by
  have habsolute : (Route.ofPath (.ofString s)).absolute = (Route.ofString s).absolute :=
    isAbsolute_ofString s
  have hd : DropsDots (Route.ofString s).names (Route.ofPath (.ofString s)).names := dropsDots_ofString s
  obtain ⟨l, hl, he⟩ := status_eq_ok_iff.mp h
  obtain ⟨⟨hnull, -, hsize⟩, hwalk⟩ := locate_eq_ok_iff.mp hl
  have hshort : (Route.ofPath (.ofString s)).size ≤ (Route.ofString s).size := by
    rw [Route.size, Route.size, habsolute]
    exact Nat.add_le_add_left hd.size_le _
  have hwalk' := walk_of_dropsDots hd hwalk
  rw [Route.start, ← habsolute, ← Route.start] at hwalk'
  exact status_eq_ok_iff.mpr ⟨l, locate_eq_ok_iff.mpr
    ⟨⟨hd.hasNull_eq hnull, isVoid_ofPath_ofString s, fun hlong =>
      hsize (Nat.lt_of_lt_of_le hlong hshort)⟩, hwalk'⟩, he⟩

end ScriptRunner.FileTree
