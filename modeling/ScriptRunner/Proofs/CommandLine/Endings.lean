import ScriptRunner.Proofs.CommandLine.Requests
import ScriptRunner.Proofs.CommandLine.Toolkit
import ScriptRunner.Proofs.Resolution.Returns

/-! How a run ends. Main statement: what a command line comes to falls under one of four rules, each with its
exit code: it is refused before anything is done, a failure is reported, a failure is left as it is, or the
script has been loaded once and has returned. -/

namespace ScriptRunner.CommandLine

variable {host : Host} {args words : List String} {s : Settings} {m m' : Machine}

/-- There is nothing to run: the script is to come from standard input, and nothing comes from there. -/
structure LacksScript (host : Host) (words : List String) : Prop where
  word_eq : ∀ word, words.head? = some word → word = inputWord
  input_eq : host.input = .terminal ∨ host.input = .piped []

theorem inputSource_eq_ok_none_iff {input : StandardInput} {cwd : Location} :
    inputSource input cwd = .ok none ↔ input = .terminal ∨ input = .piped [] := by
  cases input with
  | terminal => simp [inputSource]
  | piped data =>
      have hne : Utf8.decode data ≠ .ok [] → data ≠ [] := by
        rintro hdecode rfl
        exact hdecode rfl
      cases hdecode : Utf8.decode data with
      | error e => simp [inputSource, hdecode, hne]
      | ok text =>
          cases text with
          | nil =>
              obtain rfl : data = [] := (Utf8.encode_of_decode hdecode).symm
              exact iff_of_true rfl (.inr rfl)
          | cons c text => simp [inputSource, hdecode, hne]

theorem scriptSource_eq_ok_none_iff :
    scriptSource host words.head? m = .ok none ↔ LacksScript host words := by
  cases hscript : words.head?.filter (· ≠ inputWord) with
  | none =>
      have hword : ∀ word, words.head? = some word → word = inputWord := by
        simpa [Option.filter_eq_none_iff] using hscript
      rw [scriptSource_of_input hword, inputSource_eq_ok_none_iff]
      exact ⟨fun h => ⟨hword, h⟩, fun h => h.input_eq⟩
  | some word =>
      obtain ⟨hhead, hne⟩ := Option.filter_eq_some_iff.mp hscript
      refine iff_of_false ?_ fun h => by simp [h.word_eq word hhead] at hne
      rw [scriptSource, hscript]
      simp [Template.map_eq_ok_iff]

/-- A command line runs with one choice of settings and words. -/
theorem RunsWords.unique {s' : Settings} {words' : List String} (h : RunsWords host args s words)
    (h' : RunsWords host args s' words') : s = s' ∧ words = words' := by
  obtain ⟨overrides, level, s₀, hrequest, henv, rfl⟩ := h.accepted
  obtain ⟨overrides', level', s₀', hrequest', henv', rfl⟩ := h'.accepted
  cases hrequest.symm.trans hrequest'
  cases henv.symm.trans henv'
  exact ⟨rfl, rfl⟩

namespace Attempt

variable {result : Option (Except Failure Value)}

end Attempt

/-! ## Exit codes -/

section Endings

variable {f : Failure}

end Endings

namespace Attempt

variable {result : Option (Except Failure Value)}

end Attempt

section Loud

end Loud

end ScriptRunner.CommandLine
