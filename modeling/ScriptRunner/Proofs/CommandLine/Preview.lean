import ScriptRunner.CommandLine.Preview
import ScriptRunner.Proofs.CommandLine.Toolkit
import ScriptRunner.Proofs.FileTree.Spelling
import ScriptRunner.Proofs.Literate.LineEnds
import ScriptRunner.Proofs.Resolution.Documents
import ScriptRunner.Proofs.Text.Utf8

/-! The preview of a document and its run. Main statement: what is printed is the script that the loader is
handed exactly if no carriage return stands in the document without a line feed behind it and nothing stands
in the script that is left out in print; and a document that is no text in UTF-8 fails in both, in the same
way. -/

namespace ScriptRunner.CommandLine

open Literate Literate.Dialect Machine Text

/-- A command line that asks for the Python script of one document. -/
structure AsksForScript (kit : Toolkit) (args : List String) (word : String) : Prop where
  parsed : ∃ options, kit.parse previewOptions true args = .ok ⟨options, [word]⟩ ∧ .help ∉ options ∧
    previewDialect kit options = .ok .python

variable {kit : Toolkit} {IsCode : List Char → Prop} {t : FileTree} {cwd : Location} {m : Machine} {r : Resolver}
  {args : List String} {word : String} {data : Bytes}

theorem preview_of_asksForScript (h : AsksForScript kit args word)
    (hfile : t.status cwd (.ofString word) = .ok (.file data)) :
    preview kit t cwd args = previewDocument t cwd .python word := by
  obtain ⟨options, hparse, hhelp, hdialect⟩ := h.parsed
  simp [preview, hparse, hhelp, hdialect, hfile]

/-- What is printed of a document. -/
theorem text_previewDocument {text : List Char} (d : Dialect)
    (hread : t.read cwd (.ofPath (.ofString word)) = .ok data) (hdecode : Utf8.decode data = .ok text) :
    (previewDocument t cwd d word).text kit = String.ofList (kit.echo (extract d (unifyNewlines text))) := by
  simp [previewDocument, documentText, hread, hdecode, Ending.text]

theorem previewDocument_of_undecodable {e : Utf8.DecodeError} (d : Dialect)
    (hread : t.read cwd (.ofPath (.ofString word)) = .ok data) (hdecode : Utf8.decode data = .error e) :
    previewDocument t cwd d word = .raised (.undecodable e) := by
  simp only [previewDocument, documentText, hread, hdecode]
  rfl

/-- A document that is no text fails in the preview and in the run alike, with nothing printed or loaded. Of
any other the loader is handed what the preview prints, character for character, exactly if every carriage
return in it stands before a line feed and there are no codes in the script that are left out in print. -/
theorem preview_agrees_iff (hkit : kit.Echoes IsCode) (hr : r.registry.lookup scriptExtension = none)
    (hargs : AsksForScript kit args word)
    (hext : (Source.ofPath (.ofString word)).extension = literateExtension)
    (hfile : m.tree.status m.cwd (.ofString word) = .ok (.file data)) :
    (∀ e, Utf8.decode data = .error e →
      preview kit m.tree m.cwd args = .raised (.undecodable e) ∧ (preview kit m.tree m.cwd args).text kit = "" ∧
      (r.resolve (.ofPath (.ofString word)) m).1 = .error (.undecodable e) ∧
      (r.resolve (.ofPath (.ofString word)) m).2.calls = m.calls) ∧
    ∀ text, Utf8.decode data = .ok text →
      ∃ calls, (r.resolve (.ofPath (.ofString word)) m).2.calls = m.calls ++ calls ∧ calls.length ≤ 1 ∧
        (∀ a m₁ filename, r.prepare (.ofPath (.ofString word)) m = (.ok a, m₁) →
          m.tree.realPath (.ofLocation m.cwd) (.ofString word) = .ok filename → calls ≠ []) ∧
        ∀ call ∈ calls, ∃ script, call.content = some script ∧
          (Utf8.encode ((preview kit m.tree m.cwd args).text kit).toList = script ↔
            loneReturns text = 0 ∧ ¬ ∃ code, IsCode code ∧ code <:+: extract .python text) := by
  have hread : m.tree.read m.cwd (.ofPath (.ofString word)) = .ok data :=
    FileTree.read_eq_ok_iff.mpr (FileTree.status_ofPath_ofString hfile)
  have hdocument : Resolver.Document (.ofPath (.ofString word)) m data :=
    ⟨hext, .file rfl (FileTree.read_eq_ok_iff_holdsAt.mp hread)⟩
  rw [preview_of_asksForScript hargs hfile]
  refine ⟨fun e hdecode => ?_, fun text hdecode => ?_⟩
  · rw [previewDocument_of_undecodable .python hread hdecode]
    exact ⟨rfl, rfl, hdocument.resolve_of_undecodable hdecode⟩
  · obtain ⟨calls, hcalls, hlen, hcontent, hne⟩ := hdocument.calls_eq hr hdecode
    refine ⟨calls, hcalls, hlen, hne, fun call hcall => ⟨_, hcontent call hcall, ?_⟩⟩
    rw [text_previewDocument .python hread hdecode, String.toList_ofList, Utf8.encode_inj,
      ← hkit.eq_self_iff]
    exact oneLine_python.printed_eq_iff hkit.count_newline text

section Noted

open Resolver

/-- A document in the current directory. -/
def noted (data : Bytes) : Machine where
  tree := ⟨[(["a.md"], .file data)]⟩

theorem asksForScript_noted : AsksForScript .standard ["a.md"] "a.md" :=
  ⟨[], by decide, by decide, by decide⟩

theorem status_noted (data : Bytes) :
    (noted data).tree.status (noted data).cwd (.ofString "a.md") = .ok (.file data) :=
  FileTree.status_eq_ok_iff.mpr ⟨["a.md"], FileTree.locate_eq_ok_iff.mpr
    ⟨by decide, by cbv⟩, rfl⟩

theorem realPath_noted (data : Bytes) :
    (noted data).tree.realPath (.ofLocation (noted data).cwd) (.ofString "a.md") =
      .ok ⟨.slash, ["a.md"]⟩ := by
  have hshape : FileTree.SameShape {} (noted data).tree := FileTree.sameShape_set (l := ["a.md"]) rfl data
  rw [FileTree.realPath_of_sameShape hshape]
  cbv

theorem document_noted (data : Bytes) : Document (.ofPath (.ofString "a.md")) (noted data) data where
  extension_eq := by decide
  holds := by
    have hread : (noted data).tree.read (noted data).cwd (.ofPath (.ofString "a.md")) = .ok data :=
      FileTree.read_eq_ok_iff.mpr (FileTree.status_ofPath_ofString (status_noted data))
    exact .file rfl (FileTree.read_eq_ok_iff_holdsAt.mp hread)

theorem prepare_noted {data : Bytes} {text : List Char} (hdecode : Utf8.decode data = .ok text) :
    ∃ a m, tidying.prepare (.ofPath (.ofString "a.md")) (noted data) = (.ok a, m) := by
  have hbase : Path.ofString (artifactBase [] "/" (Source.ofPath (.ofString "a.md")).stem) =
      ⟨.slash, ["a-"]⟩ := by decide
  have hpath : artifactPath ⟨.slash, ["a-"]⟩
      (Letters.token ⟨[], 'x', ['y'], by decide⟩ ["a.md"] "a-") = ⟨.slash, ["a-xx.py"]⟩ := by
    decide
  have hlocate : (noted data).tree.locate [] .entry (.ofPath ⟨.slash, ["a-xx.py"]⟩) = .ok ["a-xx.py"] :=
    FileTree.locate_eq_ok_iff.mpr ⟨by decide, by cbv⟩
  exact (document_noted data).exists_prepare hdecode hbase hpath hlocate

/-- The document is loaded. -/
theorem calls_noted {data : Bytes} {text : List Char} (hdecode : Utf8.decode data = .ok text) :
    ∃ call, (tidying.resolve (.ofPath (.ofString "a.md")) (noted data)).2.calls = [call] ∧
      call.content = some (Utf8.encode (extract .python text)) := by
  obtain ⟨a, m, hprepare⟩ := prepare_noted hdecode
  obtain ⟨calls, hcalls, hlen, hcontent, hne⟩ :=
    (document_noted data).calls_eq (r := tidying) (by decide) hdecode
  have hsome := List.length_pos_of_ne_nil (hne a m _ hprepare (realPath_noted data))
  obtain ⟨call, rfl⟩ := List.length_eq_one_iff.mp (Nat.le_antisymm hlen hsome)
  exact ⟨call, hcalls, hcontent call (List.mem_singleton_self call)⟩

/-- Lines that end in a carriage return with a line feed. -/
def paired : List Char := "text\r\n\r\n\tx".toList

theorem preview_agrees_iff_paired :
    ∃ call, (tidying.resolve (.ofPath (.ofString "a.md")) (noted (Utf8.encode paired))).2.calls = [call] ∧
      call.content = some (Utf8.encode ((preview .standard (noted (Utf8.encode paired)).tree
        (noted (Utf8.encode paired)).cwd ["a.md"]).text .standard).toList) := by
  have hdecode := Utf8.decode_encode paired
  obtain ⟨-, hagrees⟩ := preview_agrees_iff (r := tidying) Toolkit.echoes_standard (by decide)
    asksForScript_noted (by decide) (status_noted (Utf8.encode paired))
  obtain ⟨calls, hcalls, -, -, hsame⟩ := hagrees _ hdecode
  obtain ⟨call, hone, -⟩ := calls_noted hdecode
  obtain rfl : calls = [call] := hcalls.symm.trans hone
  obtain ⟨script, hscript, hiff⟩ := hsame call (List.mem_singleton_self call)
  have hsequence : ¬ HasSequence (extract .python paired) :=
    dropSequences_eq_self_iff.mp (dropSequences_of_notMem (by decide))
  exact ⟨call, hone, by rw [hscript, hiff.mpr ⟨by decide, hsequence⟩]⟩

/-- A line with a carriage return in it. -/
def lone : List Char := "text\rprint(1)".toList

/-- Behind a carriage return that ends no line the preview begins a line, which is a comment. The loader is
handed a script where that text is still on the line above. -/
theorem preview_differs :
    (preview .standard (noted (Utf8.encode lone)).tree (noted (Utf8.encode lone)).cwd ["a.md"]).text .standard =
        "# text\n# print(1)" ∧
      ∃ call, (tidying.resolve (.ofPath (.ofString "a.md")) (noted (Utf8.encode lone))).2.calls = [call] ∧
        call.content = some (Utf8.encode "# text\rprint(1)".toList) ∧
        call.content ≠ some (Utf8.encode "# text\n# print(1)".toList) := by
  have hdecode := Utf8.decode_encode lone
  have hfile := status_noted (Utf8.encode lone)
  refine ⟨?_, ?_⟩
  · rw [preview_of_asksForScript asksForScript_noted hfile, text_previewDocument .python
      (FileTree.read_eq_ok_iff.mpr (FileTree.status_ofPath_ofString hfile)) hdecode,
      show Toolkit.standard.echo = dropSequences from rfl, dropSequences_of_notMem (by decide)]
    decide
  · obtain ⟨call, hcalls, hcontent⟩ := calls_noted hdecode
    refine ⟨call, hcalls, hcontent.trans (by decide), ?_⟩
    rw [hcontent, ne_eq, Option.some.injEq, Utf8.encode_inj]
    decide

end Noted

end ScriptRunner.CommandLine
