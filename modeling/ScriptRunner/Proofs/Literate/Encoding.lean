import ScriptRunner.Proofs.CommandLine.Preview
import ScriptRunner.Proofs.Literate.Comments
import ScriptRunner.Proofs.Text.Declaration

/-! The encoding of a document's script. Prose at the top of a document becomes comments at the top of the
script, and a comment there is where an interpreter looks for the name of an encoding. -/

namespace ScriptRunner

namespace Text

/-- What stands before the first end of a line. -/
def firstLine (s : List Char) : Line := s.takeWhile fun c => c ≠ '\n' && c ≠ '\r'

theorem firstLine_append {start : List Char} (hr : '\r' ∉ start) (hn : '\n' ∉ start) (s : List Char) :
    firstLine (start ++ s) = start ++ firstLine s := by
  refine List.takeWhile_append_of_pos fun c hc => ?_
  have hne : c ≠ '\n' ∧ c ≠ '\r' := ⟨fun he => hn (he ▸ hc), fun he => hr (he ▸ hc)⟩
  simpa using hne

/-- What follows the first end of a line makes no difference. -/
theorem firstLine_append_end (s rest : List Char) {c : Char} (h : c = '\n' ∨ c = '\r') :
    firstLine (s ++ c :: rest) = firstLine s := by
  unfold firstLine
  induction s with
  | nil => rcases h with rfl | rfl <;> rfl
  | cons d s ih => rw [List.cons_append, List.takeWhile_cons, List.takeWhile_cons, ih]

theorem firstLine_unlines (l : Line) (ls : List Line) : firstLine (unlines (l :: ls)) = firstLine l := by
  by_cases hls : ls = []
  · simp [hls, unlines]
  · rw [unlines_cons l hls, firstLine_append_end _ _ (.inl rfl)]

theorem physicalLines_eq_cons (s : List Char) : physicalLines s = firstLine s :: (physicalLines s).tail := by
  unfold physicalLines
  fun_induction unifyNewlines s with
  | case1 => rfl
  | case2 | case3 => rw [lines_newline]; rfl
  | case4 c rest _ hr ih =>
      by_cases hn : c = '\n'
      · rw [hn, lines_newline]
        rfl
      · have hfirst : firstLine ([c] ++ rest) = [c] ++ firstLine rest :=
          firstLine_append (by simpa using Ne.symm hr) (by simpa using Ne.symm hn) rest
        rw [List.singleton_append, List.singleton_append] at hfirst
        rw [lines_cons_of_ne hn, hfirst, ih, List.modifyHead_cons, List.tail_cons]

theorem declaredName?_eq (script : List Char) :
    declaredName? script = (nameOfLine? (firstLine script)).or
      (if isIdle (firstLine script) then (physicalLines script).tail.head?.bind nameOfLine? else none) := by
  rw [declaredName?, physicalLines_eq_cons]
  rfl

end Text

namespace Literate

open Text

/-- The name that two lines of prose at the top of a document declare: the first one, or what is below it,
which is the second one unless there is a carriage return in the first. -/
def proseName? (first second : Line) : Option (List Char) :=
  (nameIn? (firstLine first)).or
    (match (physicalLines (dropReturn first)).tail with
    | [] => nameIn? (firstLine second)
    | below :: _ => nameOfLine? below)

/-- A line of prose as it stands in the script. -/
def IsMarked (line emitted : Line) : Prop :=
  line = [] ∧ emitted = [] ∨ emitted = Dialect.python.commentPrefix ++ line

variable {line emitted : Line}

namespace IsMarked

theorem dropReturn (h : IsMarked line emitted) : IsMarked (dropReturn line) (dropReturn emitted) := by
  obtain ⟨rfl, rfl⟩ | rfl := h
  · exact .inl ⟨rfl, rfl⟩
  · refine .inr ?_
    rw [show Dialect.python.commentPrefix = ['#', ' '] by decide, List.cons_append, List.cons_append,
      dropReturn_cons (by decide), dropReturn_cons (by decide)]
    rfl

/-- A mark stands before the first line only. -/
theorem tail_physicalLines (h : IsMarked line emitted) :
    (physicalLines emitted).tail = (physicalLines line).tail := by
  obtain ⟨rfl, rfl⟩ | rfl := h
  · rfl
  · rw [physicalLines_append (by decide) (by decide), physicalLines_eq_cons line]
    rfl

theorem isIdle_firstLine (h : IsMarked line emitted) : isIdle (firstLine emitted) = true := by
  obtain ⟨-, rfl⟩ | rfl := h
  · rfl
  · rw [firstLine_append (by decide) (by decide)]
    rfl

theorem nameOfLine?_firstLine (h : IsMarked line emitted) :
    nameOfLine? (firstLine emitted) = nameIn? (firstLine line) := by
  obtain ⟨rfl, rfl⟩ | rfl := h
  · rfl
  · rw [firstLine_append (by decide) (by decide)]
    have hgap : 'c' ∉ [' '] := by decide
    exact nameIn?_append_of_notMem hgap _

end IsMarked

/-- A script that begins with two lines of prose declares what these declare. -/
theorem declaredName?_unlines {first second emitted₁ emitted₂ : Line} (h₁ : IsMarked first emitted₁)
    (h₂ : IsMarked second emitted₂) (rest : List Line) :
    declaredName? (unlines (emitted₁ :: emitted₂ :: rest)) = proseName? first second := by
  rw [declaredName?_eq, firstLine_unlines, h₁.isIdle_firstLine, h₁.nameOfLine?_firstLine, if_pos rfl,
    unlines_cons _ (List.cons_ne_nil _ _), physicalLines_append_newline,
    List.tail_append_of_ne_nil (physicalLines_ne_nil _), h₁.dropReturn.tail_physicalLines, proseName?]
  cases (physicalLines (Text.dropReturn first)).tail with
  | nil =>
      rw [List.nil_append, physicalLines_eq_cons, firstLine_unlines]
      exact congrArg _ h₂.nameOfLine?_firstLine
  | cons below others => rfl

theorem declaredName?_extract {source : List Char} {first second : Line} {rest : List Line}
    (hlines : documentLines source = first :: second :: rest) (hfirst : Dialect.python.TakesAsText {} first)
    (hsecond : Dialect.python.TakesAsText (Dialect.python.advance {} first).1 second) :
    declaredName? (extract .python source) = proseName? first second := by
  have hmarked {c : Cursor} {line : Line} (h : Dialect.python.TakesAsText c line) :
      IsMarked line (Dialect.python.advance c line).2 := Dialect.emitted_of_takesAsText h
  rw [extract, extractWithCursor, hlines]
  exact declaredName?_unlines (hmarked hfirst) (hmarked hsecond) _

end Literate

namespace Resolver

open Literate Text

variable {r : Resolver} {s : Source} {m : Machine} {data : Bytes}

/-- Of a document that begins with two lines of prose, the loader is handed bytes that declare the encoding
that the prose declares, and none if the prose declares none. -/
theorem declared_by_prose (hr : r.registry.lookup scriptExtension = none) (h : Document s m data)
    {text : List Char} (hdecode : Utf8.decode data = .ok text) {first second : Line} {rest : List Line}
    (hlines : documentLines text = first :: second :: rest) (hfirst : Dialect.python.TakesAsText {} first)
    (hsecond : Dialect.python.TakesAsText (Dialect.python.advance {} first).1 second) :
    ∃ calls, (r.resolve s m).2.calls = m.calls ++ calls ∧ calls.length ≤ 1 ∧
      (∀ a m₁ filename, r.prepare s m = (.ok a, m₁) →
        m.tree.realPath (.ofLocation m.cwd) s.origin = .ok filename → calls ≠ []) ∧
      ∀ call ∈ calls, ∃ script, call.content = some script ∧
        declaredEncoding? script = proseName? first second := by
  obtain ⟨calls, hcalls, hlen, hcontent, hne⟩ := h.calls_eq hr hdecode
  refine ⟨calls, hcalls, hlen, hne, fun call hcall => ⟨_, hcontent call hcall, ?_⟩⟩
  rw [declaredEncoding?_encode, declaredName?_extract hlines hfirst hsecond]

/-- A document with code below a line of prose. -/
def titled : List Char := "Title\n\n\tx = 1".toList

theorem declared_by_prose_titled :
    ∃ call, (tidying.resolve (.ofPath (.ofString "a.md"))
        (CommandLine.noted (Utf8.encode titled))).2.calls = [call] ∧
      ∃ script, call.content = some script ∧ declaredEncoding? script = none := by
  have hdecode := Utf8.decode_encode titled
  obtain ⟨call, hone, -⟩ := CommandLine.calls_noted hdecode
  obtain ⟨calls, hcalls, -, -, hdeclared⟩ :=
    declared_by_prose (r := tidying) (by decide) (CommandLine.document_noted (Utf8.encode titled)) hdecode
      (show documentLines titled = "Title".toList :: [] :: ["\tx = 1".toList] by decide) (by decide) (by decide)
  obtain rfl : calls = [call] := hcalls.symm.trans hone
  obtain ⟨script, hscript, hname⟩ := hdeclared call (List.mem_singleton_self call)
  exact ⟨call, hone, script, hscript, hname.trans (by decide)⟩

/-- A document whose first line names an encoding. -/
def transcript : List Char := "coding: latin-1\nprose\n".toList

/-- Both lines are prose, and the comment that the first one becomes declares an encoding. -/
theorem prose_declares_encoding :
    documentLines transcript = "coding: latin-1".toList :: "prose".toList :: [[]] ∧
      Dialect.python.TakesAsText {} "coding: latin-1".toList ∧
      Dialect.python.TakesAsText (Dialect.python.advance {} "coding: latin-1".toList).1 "prose".toList ∧
      ∃ call, (tidying.resolve (.ofPath (.ofString "a.md"))
          (CommandLine.noted (Utf8.encode transcript))).2.calls = [call] ∧
        call.content = some (Utf8.encode "# coding: latin-1\n# prose\n".toList) ∧
        declaredEncoding? (Utf8.encode "# coding: latin-1\n# prose\n".toList) = some "latin-1".toList := by
  refine ⟨by decide, by decide, by decide, ?_⟩
  obtain ⟨call, hone, hcontent⟩ := CommandLine.calls_noted (Utf8.decode_encode transcript)
  refine ⟨call, hone, hcontent.trans (by decide), ?_⟩
  rw [declaredEncoding?_encode]
  decide

end Resolver
end ScriptRunner
