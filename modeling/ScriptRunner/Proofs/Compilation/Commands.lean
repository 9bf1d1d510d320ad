import ScriptRunner.Proofs.Template.Filling

/-! Commands of compilers. Each word of a command is a text with the paths of the source and the output in it;
written as a template it is filled in with these paths, whatever stands in them. -/

namespace ScriptRunner.Transpiler

open Template

/-- A part of a word: a text as it is, or one of the two paths. -/
inductive Segment where
  | literal (text : String)
  | source
  | output
  deriving DecidableEq, Repr

namespace Segment

/-- How a segment is written in a template. -/
def written : Segment → List Char
  | .literal text => doubled text.toList
  | .source => '{' :: "source".toList ++ ['}']
  | .output => '{' :: "output".toList ++ ['}']

/-- The template of a word. -/
def template (segments : List Segment) : String := String.ofList (segments.flatMap written)

variable (source output : Path)

/-- What a segment says in the command for a source. -/
def said : Segment → String
  | .literal text => text
  | .source => source.toString
  | .output => output.toString

/-- The word that segments say together. -/
def word (segments : List Segment) : String := String.join (segments.map (said source output))

theorem word_cons (segment : Segment) (segments : List Segment) :
    word source output (segment :: segments) = segment.said source output ++ word source output segments :=
  String.join_cons

/-- The values that a template is filled in with. -/
abbrev values : List (String × Item) := [("source", .path source), ("output", .path output)]

/-! ## Filling in -/

/-- What a segment is read as. -/
def pieces : Segment → List Piece
  | .literal text => text.toList.map .char
  | .source => [.field ⟨"source".toList, none, []⟩]
  | .output => [.field ⟨"output".toList, none, []⟩]

theorem isPlainName_source : IsPlainName "source".toList := ⟨by decide, by decide, by simp [nameMarks]⟩

theorem isPlainName_output : IsPlainName "output".toList := ⟨by decide, by decide, by simp [nameMarks]⟩

theorem parse_written_append (segment : Segment) (rest : List Char) :
    parse (segment.written ++ rest) = segment.pieces ++ parse rest := by
  cases segment with
  | literal text => exact parse_doubled_append text.toList rest
  | source =>
      rw [written, List.append_assoc]
      exact parse_field_append isPlainName_source rest
  | output =>
      rw [written, List.append_assoc]
      exact parse_field_append isPlainName_output rest

theorem parse_flatMap_written (segments : List Segment) :
    parse (segments.flatMap written) = segments.flatMap pieces := by
  induction segments with
  | nil => exact parse.eq_1
  | cons segment segments ih => rw [List.flatMap_cons, parse_written_append, ih, List.flatMap_cons]

variable (fillLayout : List Char → Except Fault (List Char))

theorem joinPieces_pieces (segment : Segment) :
    joinPieces (fieldText (values source output) fillLayout) segment.pieces =
      .ok (segment.said source output).toList := by
  cases segment with
  | literal text => exact joinPieces_char _ text.toList
  | source => exact joinPieces_field (fieldText_path isPlainName_source rfl fillLayout)
  | output => exact joinPieces_field (fieldText_path isPlainName_output rfl fillLayout)

theorem joinPieces_flatMap_pieces (segments : List Segment) :
    joinPieces (fieldText (values source output) fillLayout) (segments.flatMap pieces) =
      .ok (word source output segments).toList := by
  induction segments with
  | nil => rfl
  | cons segment segments ih =>
      rw [List.flatMap_cons, joinPieces_append (joinPieces_pieces source output fillLayout segment) ih,
        word_cons, String.toList_append]

/-- The template of a word is filled in with the word. -/
theorem fill_template (segments : List Segment) :
    fill (values source output) (template segments) = .ok (word source output segments) := by
  have hfilled : fillWithin (values source output) 2 (template segments).toList =
      .ok (word source output segments).toList := by
    rw [template, String.toList_ofList, fillWithin, parse_flatMap_written]
    exact joinPieces_flatMap_pieces source output _ segments
  rw [fill, hfilled, Except.map, String.ofList_toList]

end Segment

theorem exists_outputPath {source : Path} (h : source.name ≠ "") :
    ∃ output, outputPath source = .ok output := by
  refine ⟨source.parent.child (source.stem ++ scriptExtension), ?_⟩
  rw [outputPath, Path.withSuffix?, if_neg h]

open Segment

/-- The words of a command that is written in templates, each filled in once. -/
theorem argv_of_outputPath {t : Transpiler} {source output : Path} {words : List (List Segment)}
    (houtput : outputPath source = .ok output) (hcommand : t.command = words.map template) :
    t.argv source = .ok (words.map (word source output)) := by
  have hword : (fun part => (fill (values source output) part).mapError CommandFault.template) ∘ template =
      fun segments => pure (word source output segments) := by
    funext segments
    rw [Function.comp_apply, fill_template]
    rfl
  rw [argv, houtput, hcommand]
  -- With the output known, what is left is one filling for each template.
  show List.mapM _ (words.map template) = _
  rw [List.mapM_map, hword, List.mapM_pure]
  rfl

/-- The commands of the known compilers, with the paths in their places. -/
theorem argv_hy {source output : Path} (h : outputPath source = .ok output) :
    hy.argv source = .ok ["hy2py", source.toString, "-o", output.toString] := by
  have hcommand : hy.command = [[.literal "hy2py"], [.source], [.literal "-o"], [.output]].map template := by
    decide
  rw [argv_of_outputPath h hcommand]
  simp [word, said, String.join]

theorem argv_coconut {source output : Path} (h : outputPath source = .ok output) :
    coconut.argv source = .ok ["coconut", "--quiet", source.toString] := by
  have hcommand : coconut.command = [[.literal "coconut"], [.literal "--quiet"], [.source]].map template := by
    decide
  rw [argv_of_outputPath h hcommand]
  simp [word, said, String.join]

/-- A command whose words are written as templates comes back word by word, each with the paths of the source
and its output in their places and nothing else changed. -/
theorem argv_of_templates {t : Transpiler} {source : Path} {words : List (List Segment)}
    (hname : source.name ≠ "") (hcommand : t.command = words.map template) :
    ∃ output, outputPath source = .ok output ∧ t.argv source = .ok (words.map (word source output)) := by
  obtain ⟨output, houtput⟩ := exists_outputPath hname
  exact ⟨output, houtput, argv_of_outputPath houtput hcommand⟩

/-- A compiler with braces beside the fields of its command. -/
def braced : Transpiler where
  name := "braced"
  extension := ".b"
  command := ["a\x7b\x7b\x7bsource\x7d\x7d\x7d\x7b\x7bsource\x7d\x7d", "", "\x7boutput\x7d"]
  extension_ne := by decide

/-- Braces at both ends of a field, and a path that reads like a template. -/
theorem argv_of_templates_braced :
    (Path.ofString "/\x7boutput\x7d 'x'.b").name ≠ "" ∧
      braced.command =
        [[.literal "a\x7b", .source, .literal "\x7d\x7bsource\x7d"], [], [.output]].map template ∧
      braced.argv (Path.ofString "/\x7boutput\x7d 'x'.b") =
        .ok ["a\x7b/\x7boutput\x7d 'x'.b\x7d\x7bsource\x7d", "", "/\x7boutput\x7d 'x'.py"] := by
  have hname : (Path.ofString "/\x7boutput\x7d 'x'.b").name ≠ "" := by decide
  have hcommand : braced.command =
      [[.literal "a\x7b", .source, .literal "\x7d\x7bsource\x7d"], [], [.output]].map template := by decide
  obtain ⟨output, houtput, hargv⟩ := argv_of_templates hname hcommand
  have hbeside : outputPath (Path.ofString "/\x7boutput\x7d 'x'.b") =
      .ok ⟨.slash, ["\x7boutput\x7d 'x'.py"]⟩ := by rfl
  cases houtput.symm.trans hbeside
  exact ⟨hname, hcommand, hargv.trans (by rfl)⟩

end ScriptRunner.Transpiler
