import ScriptRunner.Proofs.FileTree.Removal

/-! Trees with files put into them. Where nothing stood before, each file can be read and taken out again, and
no route leads to another place than it did. -/

namespace ScriptRunner.FileTree

/-- The tree with files put into it one after the other. -/
def withFiles (t : FileTree) (files : List (Location × Bytes)) : FileTree :=
  files.foldl (fun t f => t.set f.1 (.file f.2)) t

variable {t : FileTree} {files : List (Location × Bytes)} {l : Location} {data : Bytes}

theorem withFiles_append_singleton (t : FileTree) (files : List (Location × Bytes)) (l : Location) (data : Bytes) :
    t.withFiles (files ++ [(l, data)]) = (t.withFiles files).set l (.file data) := by
  simp [withFiles]

theorem erase_set_self (t : FileTree) (l : Location) (e : Entry) : (t.set l e).erase l = t.erase l := by
  simp [set, erase]

theorem erase_set_of_ne (t : FileTree) {l l' : Location} (h : l' ≠ l) (e : Entry) :
    (t.set l' e).erase l = (t.erase l).set l' e := by
  simp [set, erase, h, List.filter_filter, Bool.and_comm]

/-- What is erased of a tree with files is one of the files, if nothing stood there in the tree. -/
theorem erase_withFiles (h : t.get? l = none) :
    (t.withFiles files).erase l = t.withFiles (files.filter (·.1 ≠ l)) := by
  have hall (t : FileTree) : (t.withFiles files).erase l = (t.erase l).withFiles (files.filter (·.1 ≠ l)) := by
    induction files generalizing t with
    | nil => rfl
    | cons f files ih =>
        rw [withFiles, List.foldl_cons, ← withFiles, ih]
        by_cases hf : f.1 = l
        · rw [hf, erase_set_self, List.filter_cons_of_neg (by simp [hf])]
        · rw [erase_set_of_ne t hf, List.filter_cons_of_pos (by simpa using hf)]
          rfl
  rw [hall, erase_of_get?_eq_none h]

theorem get?_withFiles_of_notMem (hne : ∀ f ∈ files, f.1 ≠ []) (h : l ∉ files.map (·.1)) :
    (t.withFiles files).get? l = t.get? l := by
  induction files generalizing t with
  | nil => rfl
  | cons f files ih =>
      have hl : l ≠ f.1 := fun he => h (by simp [he])
      rw [withFiles, List.foldl_cons, ← withFiles, ih (fun g hg => hne g (List.mem_cons_of_mem _ hg))
        (fun hm => h (List.mem_cons_of_mem _ hm)), get?_set t (hne f List.mem_cons_self), if_neg hl]

theorem get?_withFiles_of_mem (hne : ∀ f ∈ files, f.1 ≠ []) (hnodup : (files.map (·.1)).Nodup)
    (h : (l, data) ∈ files) : (t.withFiles files).get? l = some (.file data) := by
  induction files generalizing t with
  | nil => cases h
  | cons f files ih =>
      have hne' : ∀ g ∈ files, g.1 ≠ [] := fun g hg => hne g (List.mem_cons_of_mem _ hg)
      obtain ⟨hf, hnodup⟩ := List.nodup_cons.mp hnodup
      rw [withFiles, List.foldl_cons, ← withFiles]
      rcases List.mem_cons.mp h with rfl | h
      · rw [get?_withFiles_of_notMem hne' hf, get?_set t (hne _ List.mem_cons_self), if_pos rfl]
      · exact ih hne' hnodup h

theorem sameShape_withFiles (hvacant : ∀ f ∈ files, t.get? f.1 = none) (hnodup : (files.map (·.1)).Nodup) :
    SameShape t (t.withFiles files) := by
  have hne : ∀ f ∈ files, f.1 ≠ [] := fun f hf => (atMostFile_of_vacant (hvacant f hf)).ne_nil
  refine sameShape_of_get? fun l => ?_
  by_cases hl : l ∈ files.map (·.1)
  · obtain ⟨f, hf, rfl⟩ := List.mem_map.mp hl
    exact .inr ⟨atMostFile_of_vacant (hvacant f hf), atMostFile_of_file (get?_withFiles_of_mem hne hnodup hf)⟩
  · exact .inl (get?_withFiles_of_notMem hne hl)

end ScriptRunner.FileTree
