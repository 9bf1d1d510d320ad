import Mathlib
import ScriptRunner.Proofs.Text.PhysicalLines
import ScriptRunner.Proofs.Text.Utf8

/-! Declarations of an encoding. An interpreter that is handed the bytes of a script looks through its first
two lines for a comment that names an encoding, before it decodes anything. In UTF-8 a declaration stands
in the bytes exactly where it stands in the text. -/

namespace ScriptRunner.Text

/-- Blanks inside a line. -/
def isGap (c : Char) : Bool := c = ' ' || c = '\t'

/-- What may stand before a comment. -/
def isIndent (c : Char) : Bool := isGap c || c = '\x0c'

def isNameChar (c : Char) : Bool := c.isAlphanum || c = '-' || c = '_' || c = '.'

/-- The name that is declared where a text starts: the word `coding`, a colon or an equals sign, gaps and
then the name. -/
def nameAtStart? (s : List Char) : Option (List Char) :=
  match s.dropPrefix? "coding".toList with
  | some (mark :: rest) =>
    let name := (rest.dropWhile isGap).takeWhile isNameChar
    if (mark = ':' || mark = '=') && !name.isEmpty then some name else none
  | _ => none

/-- The first name that is declared in a text. -/
def nameIn? : List Char → Option (List Char)
  | [] => none
  | c :: rest => (nameAtStart? (c :: rest)).or (nameIn? rest)

/-- What stands behind the mark of a comment, in a line that is one. -/
def commentText? (line : Line) : Option (List Char) :=
  match line.dropWhile isIndent with
  | '#' :: text => some text
  | _ => none

/-- The name that a line of a script declares. -/
def nameOfLine? (line : Line) : Option (List Char) := (commentText? line).bind nameIn?

/-- Whether nothing stands in a line but a comment. -/
def isIdle (line : Line) : Bool := (line.dropWhile isIndent).head?.all (· = '#')

/-- The name that a script declares: in its first line, or in its second one below an idle line. -/
def declaredName? (script : List Char) : Option (List Char) :=
  match physicalLines script with
  | [] => none
  | first :: rest =>
    (nameOfLine? first).or (if isIdle first then rest.head?.bind nameOfLine? else none)

/-- Bytes as they are looked through, one character for each. -/
def byteText (data : Bytes) : List Char := data.map fun b => Char.ofNat b.toNat

/-- The name of the encoding that the bytes of a script declare. -/
def declaredEncoding? (script : Bytes) : Option (List Char) := declaredName? (byteText script)

/-! ## Characters as they are written out -/

/-- The bytes of a character. -/
def spelling (c : Char) : List Char := byteText (Utf8.encodeChar c)

theorem byteText_encode (s : List Char) : byteText (Utf8.encode s) = s.flatMap spelling := by
  rw [byteText, Utf8.encode, List.map_flatMap]
  rfl

/-- Whether a character is written as itself. -/
abbrev IsAscii (c : Char) : Prop := c.toNat < 0x80

theorem ne_of_not_isAscii {c d : Char} (hc : IsAscii c) (hd : ¬ IsAscii d) : c ≠ d := by
  rintro rfl
  exact hd hc

theorem spelling_of_isAscii {c : Char} (h : IsAscii c) : spelling c = [c] := by
  have hbyte : c.toNat.toUInt8.toNat = c.toNat := Utf8.toNat_toUInt8 (Nat.lt_trans h (by decide))
  simp only [spelling, Utf8.encodeChar]
  rw [if_pos h]
  simp only [byteText, List.map_cons, List.map_nil, hbyte, c.ofNat_toNat]

/-- A byte of a character that takes several is none that stands for itself. -/
theorem not_isAscii_byte {n : Nat} (h : 0x80 ≤ n) (h' : n < 0x100) :
    ¬ IsAscii (Char.ofNat n.toUInt8.toNat) := by
  rw [Utf8.toNat_toUInt8 h', IsAscii, Utf8.toNat_ofNat (.inl (by omega))]
  omega

theorem spelling_of_not_isAscii {c : Char} (h : ¬ IsAscii c) :
    spelling c ≠ [] ∧ ∀ d ∈ spelling c, ¬ IsAscii d := by
  have hc := Utf8.toNat_cases c
  simp only [spelling, Utf8.encodeChar]
  rw [if_neg h]
  split
  · refine ⟨List.cons_ne_nil _ _, fun d hd => ?_⟩
    simp only [byteText, List.map_cons, List.map_nil, List.mem_cons, List.not_mem_nil, or_false] at hd
    rcases hd with rfl | rfl <;> exact not_isAscii_byte (by omega) (by omega)
  · split
    · refine ⟨List.cons_ne_nil _ _, fun d hd => ?_⟩
      simp only [byteText, List.map_cons, List.map_nil, List.mem_cons, List.not_mem_nil, or_false] at hd
      rcases hd with rfl | rfl | rfl <;> exact not_isAscii_byte (by omega) (by omega)
    · refine ⟨List.cons_ne_nil _ _, fun d hd => ?_⟩
      simp only [byteText, List.map_cons, List.map_nil, List.mem_cons, List.not_mem_nil, or_false] at hd
      rcases hd with rfl | rfl | rfl | rfl <;> exact not_isAscii_byte (by omega) (by omega)

theorem exists_spelling_eq_cons {c : Char} (h : ¬ IsAscii c) :
    ∃ d ds, spelling c = d :: ds ∧ ¬ IsAscii d := by
  obtain ⟨hne, hall⟩ := spelling_of_not_isAscii h
  obtain ⟨d, ds, hd⟩ := List.exists_cons_of_ne_nil hne
  exact ⟨d, ds, hd, hall d (by simp [hd])⟩

theorem spelling_ne_nil (c : Char) : spelling c ≠ [] := by
  by_cases hc : IsAscii c
  · rw [spelling_of_isAscii hc]
    exact List.cons_ne_nil _ _
  · exact (spelling_of_not_isAscii hc).1

/-- A character that is written as itself stands in no other character. -/
theorem notMem_spelling {c d : Char} (hd : IsAscii d) (h : c ≠ d) : d ∉ spelling c := by
  by_cases hc : IsAscii c
  · rw [spelling_of_isAscii hc, List.mem_singleton]
    exact h.symm
  · exact fun hm => (spelling_of_not_isAscii hc).2 d hm hd

section Scans

variable {p : Char → Bool} (hp : ∀ c, p c = true → IsAscii c)

include hp

theorem takeWhile_spelling (s : List Char) : (s.flatMap spelling).takeWhile p = s.takeWhile p := by
  induction s with
  | nil => rfl
  | cons c s ih =>
      rw [List.flatMap_cons]
      by_cases hc : IsAscii c
      · rw [spelling_of_isAscii hc, List.singleton_append, List.takeWhile_cons, List.takeWhile_cons, ih]
      · obtain ⟨d, ds, hd, hfirst⟩ := exists_spelling_eq_cons hc
        have hstop : ¬ p c = true := fun h => hc (hp c h)
        have hstop' : ¬ p d = true := fun h => hfirst (hp d h)
        rw [hd, List.cons_append, List.takeWhile_cons_of_neg hstop, List.takeWhile_cons_of_neg hstop']

theorem dropWhile_spelling (s : List Char) :
    (s.flatMap spelling).dropWhile p = (s.dropWhile p).flatMap spelling := by
  induction s with
  | nil => rfl
  | cons c s ih =>
      rw [List.flatMap_cons]
      by_cases hc : IsAscii c
      · rw [spelling_of_isAscii hc, List.singleton_append, List.dropWhile_cons, List.dropWhile_cons, ih]
        split
        · rfl
        · rw [List.flatMap_cons, spelling_of_isAscii hc, List.singleton_append]
      · obtain ⟨d, ds, hd, hfirst⟩ := exists_spelling_eq_cons hc
        have hstop : ¬ p c = true := fun h => hc (hp c h)
        have hstop' : ¬ p d = true := fun h => hfirst (hp d h)
        rw [List.dropWhile_cons_of_neg hstop, List.flatMap_cons, hd, List.cons_append,
          List.dropWhile_cons_of_neg hstop']

end Scans

theorem dropPrefix?_spelling {word : List Char} (hword : ∀ c ∈ word, IsAscii c) (s : List Char) :
    (s.flatMap spelling).dropPrefix? word = (s.dropPrefix? word).map (·.flatMap spelling) := by
  induction word generalizing s with
  | nil => simp
  | cons w word ih =>
      have hw : IsAscii w := hword w (by simp)
      cases s with
      | nil => rfl
      | cons c s =>
          rw [List.flatMap_cons]
          by_cases hc : IsAscii c
          · rw [spelling_of_isAscii hc, List.singleton_append]
            simp only [List.dropPrefix?]
            split
            · exact ih (fun d hd => hword d (List.mem_cons_of_mem _ hd)) s
            · rfl
          · obtain ⟨d, ds, hd, hfirst⟩ := exists_spelling_eq_cons hc
            have hcw : ¬ (c == w) = true := fun h => hc (beq_iff_eq.mp h ▸ hw)
            have hdw : ¬ (d == w) = true := fun h => hfirst (beq_iff_eq.mp h ▸ hw)
            rw [hd, List.cons_append, List.dropPrefix?, List.dropPrefix?, if_neg hcw, if_neg hdw]
            rfl

/-! ## Declarations in UTF-8 -/

theorem isAscii_of_isGap {c : Char} (h : isGap c = true) : IsAscii c := by
  simp only [isGap, Bool.or_eq_true, decide_eq_true_eq] at h
  rcases h with rfl | rfl <;> decide

theorem isAscii_of_isIndent {c : Char} (h : isIndent c = true) : IsAscii c := by
  simp only [isIndent, Bool.or_eq_true, decide_eq_true_eq] at h
  rcases h with h | rfl
  · exact isAscii_of_isGap h
  · decide

theorem isAscii_of_isNameChar {c : Char} (h : isNameChar c = true) : IsAscii c := by
  simp only [isNameChar, Char.isAlphanum, Char.isAlpha, Char.isUpper, Char.isLower, Char.isDigit,
    Bool.or_eq_true, Bool.and_eq_true, decide_eq_true_eq, UInt32.le_iff_toNat_le] at h
  simp only [IsAscii, Char.toNat]
  rcases h with ((((⟨-, h⟩ | ⟨-, h⟩) | ⟨-, h⟩) | rfl) | rfl) | rfl
  · exact Nat.lt_of_le_of_lt h (by decide)
  · exact Nat.lt_of_le_of_lt h (by decide)
  · exact Nat.lt_of_le_of_lt h (by decide)
  · decide
  · decide
  · decide

theorem nameAtStart?_spelling (s : List Char) : nameAtStart? (s.flatMap spelling) = nameAtStart? s := by
  unfold nameAtStart?
  rw [dropPrefix?_spelling (by simp [IsAscii])]
  cases s.dropPrefix? "coding".toList with
  | none => rfl
  | some rest =>
      cases rest with
      | nil => rfl
      | cons mark rest =>
          by_cases hm : IsAscii mark
          · simp only [Option.map_some, List.flatMap_cons, spelling_of_isAscii hm, List.singleton_append]
            rw [dropWhile_spelling fun _ => isAscii_of_isGap, takeWhile_spelling fun _ => isAscii_of_isNameChar]
          · obtain ⟨d, ds, hd, hfirst⟩ := exists_spelling_eq_cons hm
            have hmark (c : Char) (hc : ¬ IsAscii c) : (c = ':' || c = '=') = false := by
              simp [(ne_of_not_isAscii (by decide) hc : ':' ≠ c).symm,
                (ne_of_not_isAscii (by decide) hc : '=' ≠ c).symm]
            simp only [Option.map_some, List.flatMap_cons, hd, List.cons_append, hmark mark hm, hmark d hfirst,
              Bool.false_and]
            rfl

theorem nameAtStart?_of_ne {c : Char} (h : c ≠ 'c') (s : List Char) : nameAtStart? (c :: s) = none := by
  have hne : ¬ (c == 'c') = true := by simpa using h
  have hnone : (c :: s).dropPrefix? "coding".toList = none := by
    rw [show "coding".toList = 'c' :: "oding".toList by decide, List.dropPrefix?, if_neg hne]
  rw [nameAtStart?, hnone]

/-- No name is declared before the first letter of the word. -/
theorem nameIn?_append_of_notMem {front : List Char} (h : 'c' ∉ front) (s : List Char) :
    nameIn? (front ++ s) = nameIn? s := by
  induction front with
  | nil => rfl
  | cons c front ih =>
      rw [List.cons_append, nameIn?, nameAtStart?_of_ne (fun he => h (by simp [he])), Option.none_or,
        ih fun hm => h (List.mem_cons_of_mem _ hm)]

theorem nameIn?_spelling (s : List Char) : nameIn? (s.flatMap spelling) = nameIn? s := by
  induction s with
  | nil => rfl
  | cons c s ih =>
      by_cases hc : IsAscii c
      · have hstart := nameAtStart?_spelling (c :: s)
        rw [List.flatMap_cons, spelling_of_isAscii hc, List.singleton_append] at hstart ⊢
        rw [nameIn?, nameIn?, hstart, ih]
      · have hne : c ≠ 'c' := (ne_of_not_isAscii (by decide) hc).symm
        rw [List.flatMap_cons, nameIn?_append_of_notMem (notMem_spelling (by decide) hne), ih, nameIn?,
          nameAtStart?_of_ne hne, Option.none_or]

theorem commentText?_spelling (line : Line) :
    commentText? (line.flatMap spelling) = (commentText? line).map (·.flatMap spelling) := by
  unfold commentText?
  rw [dropWhile_spelling fun _ => isAscii_of_isIndent]
  cases line.dropWhile isIndent with
  | nil => rfl
  | cons c rest =>
      rw [List.flatMap_cons]
      by_cases hc : IsAscii c
      · rw [spelling_of_isAscii hc, List.singleton_append]
        split <;> simp_all
      · obtain ⟨d, ds, hd, hfirst⟩ := exists_spelling_eq_cons hc
        have hne : '#' ≠ c ∧ '#' ≠ d := ⟨ne_of_not_isAscii (by decide) hc, ne_of_not_isAscii (by decide) hfirst⟩
        simp [hd, hne.1.symm, hne.2.symm]

theorem nameOfLine?_spelling (line : Line) : nameOfLine? (line.flatMap spelling) = nameOfLine? line := by
  rw [nameOfLine?, commentText?_spelling, Option.bind_map, nameOfLine?]
  exact congrArg _ (funext nameIn?_spelling)

theorem isIdle_spelling (line : Line) : isIdle (line.flatMap spelling) = isIdle line := by
  unfold isIdle
  rw [dropWhile_spelling fun _ => isAscii_of_isIndent]
  cases line.dropWhile isIndent with
  | nil => rfl
  | cons c rest =>
      rw [List.flatMap_cons]
      by_cases hc : IsAscii c
      · rw [spelling_of_isAscii hc]
        rfl
      · obtain ⟨d, ds, hd, hfirst⟩ := exists_spelling_eq_cons hc
        have hne : '#' ≠ c ∧ '#' ≠ d := ⟨ne_of_not_isAscii (by decide) hc, ne_of_not_isAscii (by decide) hfirst⟩
        simp [hd, hne.1.symm, hne.2.symm]

theorem unifyNewlines_spelling (s : List Char) :
    unifyNewlines (s.flatMap spelling) = (unifyNewlines s).flatMap spelling := by
  have hr : spelling '\r' = ['\r'] := spelling_of_isAscii (by decide)
  have hn : spelling '\n' = ['\n'] := spelling_of_isAscii (by decide)
  fun_induction unifyNewlines s with
  | case1 => rfl
  | case2 rest ih => simp [hr, hn, unifyNewlines, ih]
  | case3 rest hrest ih =>
      have hstart : ∀ t, rest.flatMap spelling ≠ '\n' :: t := by
        intro t ht
        cases rest with
        | nil => cases ht
        | cons x xs =>
            have hx : x ≠ '\n' := fun he => hrest xs (by rw [he])
            obtain ⟨d, ds, hd⟩ := List.exists_cons_of_ne_nil (spelling_ne_nil x)
            rw [List.flatMap_cons, hd, List.cons_append] at ht
            exact notMem_spelling (by decide) hx (by simp [hd, (List.cons.inj ht).1])
      rw [List.flatMap_cons, hr, List.singleton_append, unifyNewlines.eq_3 _ hstart, ih, List.flatMap_cons, hn]
      rfl
  | case4 c rest hfirst hsecond ih =>
      rw [List.flatMap_cons, unifyNewlines_append_of_notMem (notMem_spelling (by decide) hsecond), ih,
        List.flatMap_cons]

theorem lines_spelling (s : List Char) : lines (s.flatMap spelling) = (lines s).map (·.flatMap spelling) := by
  induction s with
  | nil => rfl
  | cons c s ih =>
      by_cases hc : c = '\n'
      · have hn : spelling '\n' = ['\n'] := spelling_of_isAscii (by decide)
        rw [hc, List.flatMap_cons, hn, List.singleton_append, lines_newline, lines_newline, ih]
        rfl
      · rw [List.flatMap_cons, lines_append_of_notMem (notMem_spelling (by decide) hc), ih, lines_cons_of_ne hc]
        cases lines s with
        | nil => rfl
        | cons first rest => simp

theorem physicalLines_spelling (s : List Char) :
    physicalLines (s.flatMap spelling) = (physicalLines s).map (·.flatMap spelling) := by
  rw [physicalLines, unifyNewlines_spelling, lines_spelling, physicalLines]

/-- What is declared in the bytes of a text is what is declared in the text. -/
theorem declaredEncoding?_encode (script : List Char) :
    declaredEncoding? (Utf8.encode script) = declaredName? script := by
  rw [declaredEncoding?, byteText_encode]
  unfold declaredName?
  rw [physicalLines_spelling]
  cases physicalLines script with
  | nil => rfl
  | cons first rest =>
      rw [List.map_cons]
      dsimp only
      rw [nameOfLine?_spelling, isIdle_spelling, List.head?_map, Option.bind_map]
      have hlines : nameOfLine? ∘ (·.flatMap spelling) = nameOfLine? := funext nameOfLine?_spelling
      rw [hlines]

end ScriptRunner.Text
