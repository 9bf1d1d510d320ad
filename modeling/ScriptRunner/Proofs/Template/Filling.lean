import Mathlib.Data.List.TakeWhile
import ScriptRunner.Transpiler

/-! Templates that are written for a text with values in it. A brace of the text is written twice and a value
by its name in braces. Such a template is filled in with that text, and what stands in a value is not read as a
template again. -/

namespace ScriptRunner

namespace Template

/-! ## Texts -/

/-- A text as it is written in a template. -/
def doubled (text : List Char) : List Char :=
  text.flatMap fun c => if c = '{' ∨ c = '}' then [c, c] else [c]

theorem doubled_cons_of_brace {c : Char} (h : c = '{' ∨ c = '}') (text : List Char) :
    doubled (c :: text) = c :: c :: doubled text := by
  simp [doubled, h]

theorem doubled_cons_of_ne {c : Char} (hopen : c ≠ '{') (hclose : c ≠ '}') (text : List Char) :
    doubled (c :: text) = c :: doubled text := by
  simp [doubled, hopen, hclose]

theorem parse_cons_of_ne {c : Char} (hopen : c ≠ '{') (hclose : c ≠ '}') (rest : List Char) :
    parse (c :: rest) = .char c :: parse rest :=
  parse.eq_7 c rest (fun _ h => absurd h hopen) (fun _ h => absurd h hclose) hclose
    (fun h => absurd h hopen) hopen

/-- Pairs of braces are taken from the left, so a text ends where it was written to end, even if a brace
stands there and a field follows. -/
theorem parse_doubled_append (text rest : List Char) :
    parse (doubled text ++ rest) = text.map .char ++ parse rest := by
  induction text with
  | nil => rfl
  | cons c text ih =>
      by_cases hopen : c = '{'
      · rw [doubled_cons_of_brace (.inl hopen), hopen, List.cons_append, List.cons_append, parse.eq_2, ih]
        rfl
      · by_cases hclose : c = '}'
        · rw [doubled_cons_of_brace (.inr hclose), hclose, List.cons_append, List.cons_append, parse.eq_3, ih]
          rfl
        · rw [doubled_cons_of_ne hopen hclose, List.cons_append, parse_cons_of_ne hopen hclose, ih]
          rfl

/-! ## Fields -/

/-- What ends the name of a field or leads from it to a part of its value. -/
def nameMarks : List Char := ['{', '}', ':', '!', '.', '[']

/-- Whether a name in braces stands for a value as it is. -/
structure IsPlainName (name : List Char) : Prop where
  ne_nil : name ≠ []
  not_number : wholeNumber? name = .ok none
  no_marks : ∀ c ∈ name, c ∉ nameMarks

variable {name : List Char}

theorem takeName_append (h : ∀ c ∈ name, c ∉ nameMarks) (rest : List Char) :
    takeName false (name ++ '}' :: rest) = .ok (name, '}', rest) := by
  induction name with
  | nil => rfl
  | cons c name ih =>
      have hc := h c List.mem_cons_self
      simp only [nameMarks, List.mem_cons, not_or] at hc
      have hrest := ih fun c' hc' => h c' (List.mem_cons_of_mem _ hc')
      simp only [List.cons_append, takeName, hc, hrest, decide_false, Bool.or_false, Bool.false_eq_true, if_false]
      rfl

theorem parse_field_append (h : IsPlainName name) (rest : List Char) :
    parse ('{' :: name ++ '}' :: rest) = .field ⟨name, none, []⟩ :: parse rest := by
  have htake : Field.take (name ++ '}' :: rest) = .ok (⟨name, none, []⟩, rest) := by
    rw [Field.take, takeName_append h.no_marks]
    rfl
  -- The name does not start with a brace, so the one before it is not half of a pair.
  have hopen : ∀ more, name ++ '}' :: rest ≠ '{' :: more := by
    intro more he
    obtain ⟨c, tail, rfl⟩ := List.exists_cons_of_ne_nil h.ne_nil
    have hc : c = '{' := (List.cons.inj he).1
    exact h.no_marks c List.mem_cons_self (by simp [hc, nameMarks])
  rw [List.cons_append, parse.eq_6 _ hopen (by simp)]
  split
  · rename_i e he
    rw [htake] at he
    cases he
  · rename_i f rest' he
    rw [htake] at he
    cases he
    rfl

variable {values : List (String × Item)}

theorem lookupField_of_plain (h : IsPlainName name) {v : Item}
    (hv : values.lookup (String.ofList name) = some v) : lookupField values name = .ok v := by
  have hall : ∀ c ∈ name, (!endsStep c) = true := by
    intro c hc
    have hmarks := h.no_marks c hc
    simp only [nameMarks, List.mem_cons, not_or] at hmarks
    simp [endsStep, hmarks]
  have htake : name.takeWhile (fun c => !endsStep c) = name := List.takeWhile_eq_self_iff.mpr hall
  have hdrop : name.dropWhile (fun c => !endsStep c) = [] := List.dropWhile_eq_nil_iff.mpr hall
  have hname : name.isEmpty = false := by simpa using h.ne_nil
  have hfollow : v.follow [] = .ok v := by rw [Item.follow]; rfl
  unfold lookupField
  simp only [htake, hdrop, h.not_number, hname, hv, hfollow]
  rfl

/-- A name alone is filled in with the text of its path. -/
theorem fieldText_path (h : IsPlainName name) {p : Path}
    (hv : values.lookup (String.ofList name) = some (.path p))
    (fillLayout : List Char → Except Fault (List Char)) :
    fieldText values fillLayout ⟨name, none, []⟩ = .ok p.toString.toList := by
  unfold fieldText
  rw [lookupField_of_plain h hv]
  rfl

/-! ## Pieces -/

theorem joinPieces_append {show1 : Field → Except Fault (List Char)} {ps qs : List Piece} {s t : List Char}
    (hs : joinPieces show1 ps = .ok s) (ht : joinPieces show1 qs = .ok t) :
    joinPieces show1 (ps ++ qs) = .ok (s ++ t) := by
  induction ps generalizing s with
  | nil =>
      cases hs
      exact ht
  | cons piece ps ih =>
      cases piece with
      | char c =>
          obtain ⟨rest, hrest, rfl⟩ := map_eq_ok_iff.mp hs
          rw [List.cons_append, joinPieces, ih hrest]
          rfl
      | fault e => cases hs
      | field f =>
          rw [joinPieces] at hs
          cases hf : show1 f with
          | error e =>
              rw [hf] at hs
              cases hs
          | ok text =>
              rw [hf] at hs
              obtain ⟨rest, hrest, rfl⟩ := map_eq_ok_iff.mp hs
              rw [List.cons_append, joinPieces, hf, ih hrest, List.append_assoc]
              rfl

theorem joinPieces_char (show1 : Field → Except Fault (List Char)) (text : List Char) :
    joinPieces show1 (text.map .char) = .ok text := by
  induction text with
  | nil => rfl
  | cons c text ih =>
      rw [List.map_cons, joinPieces, ih]
      rfl

theorem joinPieces_field {show1 : Field → Except Fault (List Char)} {f : Field} {text : List Char}
    (h : show1 f = .ok text) : joinPieces show1 [.field f] = .ok text := by
  have hjoined : joinPieces show1 [.field f] = .ok (text ++ []) := by
    rw [joinPieces, h]
    rfl
  rw [hjoined, List.append_nil]

end Template
end ScriptRunner
