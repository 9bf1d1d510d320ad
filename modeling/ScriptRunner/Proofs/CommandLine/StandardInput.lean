import ScriptRunner.CommandLine.Run
import ScriptRunner.Proofs.Resolution.Written
import ScriptRunner.Proofs.Text.PhysicalLines
import ScriptRunner.Proofs.Text.Utf8

/-! Scripts that are piped in. What is piped in is read as a text, and what is saved as bytes. Main statement:
the loader is handed the same bytes either way exactly if they are a text in UTF-8 without carriage
returns. -/

namespace ScriptRunner

namespace Text

theorem return_notMem_unifyNewlines (s : List Char) : '\r' ∉ unifyNewlines s := by
  fun_induction unifyNewlines s with
  | case1 => simp
  | case2 rest ih | case3 rest _ ih => simpa using ih
  | case4 c rest _ hr ih => simpa [ih] using Ne.symm hr

theorem unifyNewlines_eq_self_iff {s : List Char} : unifyNewlines s = s ↔ '\r' ∉ s := by
  constructor
  · intro h
    exact h ▸ return_notMem_unifyNewlines s
  · intro h
    simpa [unifyNewlines] using unifyNewlines_append_of_notMem h []

end Text

namespace CommandLine

open Machine Text

variable {host : Host} {args words : List String} {s : Settings} {m : Machine} {data : Bytes}

/-- A command line that runs a script, with the settings and the words that it is run with. -/
structure RunsWords (host : Host) (args : List String) (s : Settings) (words : List String) : Prop where
  accepted : ∃ overrides level s₀, runRequest host.kit args = .ok (.run overrides level words) ∧
    Settings.ofEnvironment host.environment = .ok s₀ ∧ s = s₀.put overrides level

theorem RunsWords.run_eq (h : RunsWords host args s words) (hub : LogHub) (m : Machine) :
    run host args hub m =
      ((runWords host s words m).1, (hub.configure s.loggingLevel).1, (runWords host s words m).2) := by
  obtain ⟨overrides, level, s₀, hrequest, hsettings, rfl⟩ := h.accepted
  simp only [run, hrequest, hsettings]

theorem lookup_resolver (host : Host) (s : Settings) (args : List String) :
    (host.resolver s args).registry.lookup scriptExtension = none := by
  rfl

/-! ## A script that is piped in -/

/-- The source that is made of a text that is piped in. -/
def pipedSource (text : List Char) (cwd : Location) : Source :=
  .ofText (Utf8.encode (unifyNewlines text)) (.ofLocation (cwd ++ [inputName]))

theorem holdsScript_pipedSource (text : List Char) (cwd : Location) (m : Machine) :
    Resolver.HoldsScript (pipedSource text cwd) m (Utf8.encode (unifyNewlines text)) :=
  .raw rfl (.text rfl)

theorem scriptSource_of_input (h : ∀ word, words.head? = some word → word = inputWord) :
    scriptSource host words.head? m = inputSource host.input m.cwd := by
  have hnone : words.head?.filter (· ≠ inputWord) = none :=
    Option.filter_eq_none_iff.mpr fun word hword => by simpa using h word hword
  rw [scriptSource, hnone]

theorem runWords_of_undecodable (h : ∀ word, words.head? = some word → word = inputWord)
    (hpiped : host.input = .piped data) {e : Utf8.DecodeError} (hdecode : Utf8.decode data = .error e) :
    runWords host s words m = (.raised (.undecodable e), m) := by
  rw [runWords, scriptSource_of_input h, hpiped, inputSource]
  simp only [hdecode]
  rfl

theorem runWords_of_decode (h : ∀ word, words.head? = some word → word = inputWord)
    (hpiped : host.input = .piped data) (hne : data ≠ []) {text : List Char}
    (hdecode : Utf8.decode data = .ok text) :
    (runWords host s words m).2 = ((host.resolver s words.tail).resolve (pipedSource text m.cwd) m).2 := by
  have htext : text ≠ [] := by
    rintro rfl
    exact hne (Utf8.encode_of_decode hdecode).symm
  obtain ⟨c, rest, rfl⟩ := List.exists_cons_of_ne_nil htext
  rw [runWords, scriptSource_of_input h, hpiped, inputSource]
  simp only [hdecode]
  rfl

/-- The script that is made of what is piped in has the same bytes exactly if no carriage return is among
them. -/
theorem encode_unifyNewlines_eq_iff {text : List Char} (hdecode : Utf8.decode data = .ok text) :
    Utf8.encode (unifyNewlines text) = data ↔ '\r' ∉ text := by
  rw [← Utf8.encode_of_decode hdecode, Utf8.encode_inj]
  exact unifyNewlines_eq_self_iff

/-! ## A script that is saved -/

/-- A word that names a file without an extension, with what can be read there. -/
structure NamesSaved (m : Machine) (word : String) (path : Path) (data : Bytes) : Prop where
  ne_inputWord : word ≠ inputWord
  path_eq : scriptPath m.tree (.ofLocation m.cwd) word = .ok path
  extension_eq : (Source.ofPath path).extension = ""
  read_eq : m.tree.read m.cwd (.ofPath path) = .ok data

variable {word : String} {path : Path} {rest : List String}

theorem NamesSaved.holdsScript (h : NamesSaved m word path data) :
    Resolver.HoldsScript (.ofPath path) m data :=
  .raw h.extension_eq (.file rfl (FileTree.read_eq_ok_iff_holdsAt.mp h.read_eq))

theorem NamesSaved.runWords_eq (h : NamesSaved m word path data) :
    (runWords host s (word :: rest) m).2 = ((host.resolver s rest).resolve (.ofPath path) m).2 := by
  have hsome : (word :: rest).head?.filter (· ≠ inputWord) = some word := by
    simp [Option.filter, h.ne_inputWord]
  rw [runWords, scriptSource, hsome]
  simp only [h.path_eq]
  rfl

/-! ## Both ways -/

/-- The loader is handed a saved script byte for byte. Of the same bytes piped in, those that are no text in
UTF-8 are not loaded, and of any others the loader is handed the same exactly if no carriage return is
among them. -/
theorem piped_as_saved_iff {host' : Host} {args' : List String} {s' : Settings} {m' : Machine}
    (hargs : RunsWords host args s words) (hinput : ∀ word, words.head? = some word → word = inputWord)
    (hpiped : host.input = .piped data) (hne : data ≠ []) (hargs' : RunsWords host' args' s' (word :: rest))
    (hsaved : NamesSaved m' word path data) (hub hub' : LogHub) (m : Machine) :
    ((host'.resolver s' rest).Reaches (.ofPath path) m' →
      ∃ call, (run host' args' hub' m').2.2.calls = m'.calls ++ [call] ∧ call.content = some data) ∧
    (∀ e, Utf8.decode data = .error e →
      (run host args hub m).1 = .raised (.undecodable e) ∧ (run host args hub m).2.2 = m) ∧
    ∀ text, Utf8.decode data = .ok text →
      ((host.resolver s words.tail).Reaches (pipedSource text m.cwd) m →
        ∃ call script, (run host args hub m).2.2.calls = m.calls ++ [call] ∧ call.content = some script ∧
          (script = data ↔ '\r' ∉ text)) ∧
      (¬ (host.resolver s words.tail).Reaches (pipedSource text m.cwd) m →
        (run host args hub m).2.2.calls = m.calls) := by
  rw [hargs.run_eq, hargs'.run_eq]
  refine ⟨fun hready => ?_, fun e hdecode => ?_, fun text hdecode => ⟨fun hready => ?_, fun hready => ?_⟩⟩
  · rw [hsaved.runWords_eq]
    exact hsaved.holdsScript.calls_of_reaches (lookup_resolver _ _ _) hready
  · rw [runWords_of_undecodable hinput hpiped hdecode]
    exact ⟨rfl, rfl⟩
  · have hscript := holdsScript_pipedSource text m.cwd m
    obtain ⟨call, hcalls, hcontent⟩ := hscript.calls_of_reaches (lookup_resolver _ _ _) hready
    rw [runWords_of_decode hinput hpiped hne hdecode]
    exact ⟨call, _, hcalls, hcontent, encode_unifyNewlines_eq_iff hdecode⟩
  · have hscript := holdsScript_pipedSource text m.cwd m
    rw [runWords_of_decode hinput hpiped hne hdecode]
    exact hscript.calls_of_not_reaches (lookup_resolver _ _ _) hready

section Desk

open Resolver

/-- A host where something is piped in, and artifacts go to the root directory. -/
def desk (data : Bytes) : Host where
  input := .piped data
  systemTemp := "/"
  names := tidying.names
  loader _ := {}

/-- A script that is saved in the root directory. -/
def saved (data : Bytes) : Machine where
  tree := ⟨[(["s"], .file data)]⟩

theorem runsWords_desk (data : Bytes) (word : String)
    (h : runRequest .standard [word] = .ok (.run [] none [word])) :
    RunsWords (desk data) [word] {} [word] :=
  ⟨[], none, {}, h, by cbv, rfl⟩

theorem runsWords_input (data : Bytes) : RunsWords (desk data) ["-"] {} ["-"] :=
  runsWords_desk data "-" (by cbv)

theorem runsWords_saved (data : Bytes) : RunsWords (desk data) ["/s"] {} ["/s"] :=
  runsWords_desk data "/s" (by cbv)

theorem namesSaved_saved (data : Bytes) : NamesSaved (saved data) "/s" ⟨.slash, ["s"]⟩ data where
  ne_inputWord := by decide
  path_eq := by
    have hpath : Path.ofString "/s" = ⟨.slash, ["s"]⟩ := by decide
    rw [scriptPath, show FileUrl.path? "/s".toList = none by decide, hpath]
    rfl
  extension_eq := by decide
  read_eq := by
    refine FileTree.read_eq_ok_iff.mpr (FileTree.status_eq_ok_iff.mpr ⟨["s"], ?_, rfl⟩)
    exact FileTree.locate_eq_ok_iff.mpr ⟨by decide, by cbv⟩

theorem reaches_saved (data : Bytes) :
    ((desk data).resolver {} []).Reaches (.ofPath ⟨.slash, ["s"]⟩) (saved data) := by
  have hbase : Path.ofString (artifactBase [] "/" (Source.ofPath ⟨.slash, ["s"]⟩).stem) = ⟨.slash, ["s-"]⟩ := by
    decide
  have hpath : artifactPath ⟨.slash, ["s-"]⟩
      (Letters.token ⟨[], 'x', ['y'], by decide⟩ ["s"] "s-") = ⟨.slash, ["s-xx.py"]⟩ := by
    decide
  have hlocate : (saved data).tree.locate [] .entry (.ofPath ⟨.slash, ["s-xx.py"]⟩) = .ok ["s-xx.py"] :=
    FileTree.locate_eq_ok_iff.mpr ⟨by decide, by cbv⟩
  refine ⟨(namesSaved_saved data).holdsScript.exists_prepare hbase hpath hlocate, ⟨.slash, ["s"]⟩, ?_⟩
  exact FileTree.realPath_name ⟨by decide, by decide, by decide, by decide⟩ (by decide) (by decide)
    (by simp [saved, FileTree.get?]) _

theorem reaches_piped (data : Bytes) (text : List Char) :
    ((desk data).resolver {} []).Reaches (pipedSource text []) {} := by
  have hstem : (pipedSource text []).stem = (pipedSource [] []).stem := rfl
  have hbase : Path.ofString (artifactBase [] "/" (pipedSource text []).stem) = ⟨.slash, ["stdin-"]⟩ := by
    rw [hstem]
    decide
  have hpath : artifactPath ⟨.slash, ["stdin-"]⟩
      (Letters.token ⟨[], 'x', ['y'], by decide⟩ [] "stdin-") = ⟨.slash, ["stdin-xx.py"]⟩ := by
    decide
  have hlocate : ({} : FileTree).locate [] .entry (.ofPath ⟨.slash, ["stdin-xx.py"]⟩) = .ok ["stdin-xx.py"] :=
    FileTree.locate_eq_ok_iff.mpr ⟨by decide, by cbv⟩
  refine ⟨(holdsScript_pipedSource text [] {}).exists_prepare hbase hpath hlocate, ⟨.slash, ["stdin.py"]⟩, ?_⟩
  exact FileTree.realPath_name ⟨by decide, by decide, by decide, by decide⟩ (by decide) (by decide)
    (by simp [FileTree.get?]) _

/-- A script with line feeds only. -/
def plain : List Char := "x = 1\n".toList

theorem piped_as_saved_iff_plain :
    ∃ call, (run (desk (Utf8.encode plain)) ["-"] {} {}).2.2.calls = [call] ∧
      call.content = some (Utf8.encode plain) := by
  have hdecode := Utf8.decode_encode plain
  obtain ⟨-, -, hpiped⟩ := piped_as_saved_iff (runsWords_input (Utf8.encode plain)) (by simp [inputWord]) rfl
    (by decide) (runsWords_saved (Utf8.encode plain)) (namesSaved_saved (Utf8.encode plain)) {} {} {}
  obtain ⟨call, script, hcalls, hcontent, hsame⟩ := (hpiped plain hdecode).1 (reaches_piped _ plain)
  exact ⟨call, hcalls, by rw [hcontent, hsame.mpr (by decide)]⟩

/-- A script that declares another encoding and makes use of it. -/
def declared : Bytes := Utf8.encode "# coding: latin-1\nx = '".toList ++ [0xe9] ++ Utf8.encode "'\n".toList

/-- The script is loaded when it is saved, and not when it is piped in. -/
theorem declared_script_not_piped :
    (∃ call, (run (desk declared) ["/s"] {} (saved declared)).2.2.calls = [call] ∧
        call.content = some declared) ∧
      (∃ e, (run (desk declared) ["-"] {} {}).1 = .raised (.undecodable e)) ∧
      (run (desk declared) ["-"] {} {}).2.2.calls = [] := by
  refine ⟨?_, ?_⟩
  · rw [(runsWords_saved declared).run_eq, (namesSaved_saved declared).runWords_eq]
    exact (namesSaved_saved declared).holdsScript.calls_of_reaches (lookup_resolver _ _ _) (reaches_saved declared)
  · have hdecode : Utf8.decode declared = .error ⟨0xe9, 23, 1, .invalidContinuation⟩ := by cbv
    rw [(runsWords_input declared).run_eq, runWords_of_undecodable (by simp [inputWord]) rfl hdecode]
    exact ⟨⟨_, rfl⟩, rfl⟩

end Desk

end CommandLine
end ScriptRunner
