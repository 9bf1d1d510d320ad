import ScriptRunner.Path
import ScriptRunner.Text.Utf8

/-! File trees: what stands at each location. The root is always a directory. -/

namespace ScriptRunner

inductive Entry where
  | file (data : Bytes)
  | directory
  | link (target : String)
  deriving DecidableEq, Repr

/-- A tree as a list of its entries; of two with one location the first counts. -/
structure FileTree where
  entries : List (Location × Entry) := []
  deriving DecidableEq, Repr

namespace FileTree

def get? (t : FileTree) : Location → Option Entry
  | [] => some .directory
  | l => t.entries.lookup l

def erase (t : FileTree) (l : Location) : FileTree :=
  ⟨t.entries.filter fun e => e.1 != l⟩

def set (t : FileTree) (l : Location) (e : Entry) : FileTree :=
  ⟨(l, e) :: (t.erase l).entries⟩

/-- The tree without a location and everything below it. -/
def prune (t : FileTree) (l : Location) : FileTree :=
  ⟨t.entries.filter fun e => !l.isPrefixOf e.1⟩

/-- The locations of all links. -/
def links (t : FileTree) : List Location :=
  t.entries.filterMap fun e => match e.2 with
    | .link _ => some e.1
    | _ => none

theorem lookup_filter_ne (es : List (Location × Entry)) {l m : Location} :
    (es.filter fun e => e.1 != l).lookup m = if m = l then none else es.lookup m := by
  split
  · next h => subst h; simp [List.lookup_eq_none_iff]; grind
  · next h =>
    induction es with
    | nil => rfl
    | cons e es ih =>
      obtain ⟨k, v⟩ := e
      by_cases hk : k = l
      · subst hk; simpa [List.lookup_cons, beq_eq_false_iff_ne.2 h] using ih
      · simp [List.lookup_cons, hk, ih]

theorem get?_erase (t : FileTree) {l m : Location} (hl : l ≠ []) :
    (t.erase l).get? m = if m = l then none else t.get? m := by
  cases m with
  | nil => simp [get?, hl.symm]
  | cons n m => simp [get?, erase, lookup_filter_ne]

theorem get?_set (t : FileTree) {l m : Location} (hl : l ≠ []) (e : Entry) :
    (t.set l e).get? m = if m = l then some e else t.get? m := by
  cases m with
  | nil => simp [get?, hl.symm]
  | cons n m =>
    by_cases h : n :: m = l
    · simp [get?, set, h]
    · simp [get?, set, erase, h, lookup_filter_ne, List.lookup_cons, beq_eq_false_iff_ne.2 h]

/-- Erasing what was added where nothing stood leaves the tree as it was. -/
theorem erase_set_of_get?_eq_none (t : FileTree) {l : Location} (hl : l ≠ []) (e : Entry)
    (h : t.get? l = none) : (t.set l e).erase l = t := by
  have hk : ∀ x ∈ t.entries, (x.1 != l) = true := by
    intro x hx
    cases l with
    | nil => exact absurd rfl hl
    | cons n l =>
      simp only [get?, List.lookup_eq_none_iff] at h
      have := h x hx
      grind
  simp [set, erase, List.filter_eq_self.2 hk]

end FileTree
end ScriptRunner
