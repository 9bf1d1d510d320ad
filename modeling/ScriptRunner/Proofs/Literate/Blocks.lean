import Mathlib.Data.List.Forall2
import ScriptRunner.Proofs.Literate.Fold

/-! Documents by blocks. A block is taken whole: a run of indented lines with the line that ends it, a
fence with all that stands in it, or one line of prose. The rules do not look at the state between
two lines. Main statement: in a dialect that has tags for both kinds of code, extraction emits, line by
line, what the blocks emit, and ends in the state that the last block leaves. -/

namespace ScriptRunner.Literate

open Text

/-- What a fenced block holds. -/
inductive FenceKind where
  | script
  | shell
  | foreign
  deriving DecidableEq, Repr

inductive Block where
  /-- A run of indented and empty lines, and the line that ends it if there is one. -/
  | indented (run : List Line) (next : Option Line)
  /-- The lines between an opening line and the closing one, if there is a closing one. -/
  | fenced (kind : FenceKind) (opener : Line) (body : List Line) (closed : Bool)
  | prose (line : Line)
  deriving DecidableEq, Repr

/-! ## Reading blocks -/

/-- A piece of a text between line feeds, and the line that it is: a carriage return at its end does not
belong to the line. -/
inductive IsLineOf : List Char → Line → Prop where
  | returned (line : Line) : IsLineOf (line ++ ['\r']) line
  | whole {line : Line} (h : line.getLast? ≠ some '\r') : IsLineOf line line

/-- What a word behind three marks says of the block that it opens. -/
def FenceKind.ofWord (d : Dialect) (word : Line) : FenceKind :=
  if word ∈ d.scriptTags then .script
  else if word ∈ d.shellTags then .shell
  else .foreign

/-- Whether an indented block starts with the line. -/
def startsRun (line : Line) : Bool :=
  "    ".toList.isPrefixOf line || "\t".toList.isPrefixOf line

/-- Whether an indented block goes on with the line. -/
def staysInRun (line : Line) : Bool :=
  line.isEmpty || " ".toList.isPrefixOf line || "\t".toList.isPrefixOf line

theorem length_lt_of_dropWhile {p : Line → Bool} {xs rest : List Line} {x : Line}
    (h : xs.dropWhile p = x :: rest) : rest.length < xs.length := by
  have hs := (List.dropWhile_sublist p : (xs.dropWhile p).Sublist xs).length_le
  rw [h, List.length_cons] at hs
  exact hs

/-- The blocks of lines. The flag tells whether an indented block may start: at the start of a
document it may, and after a line of prose it may if that line is empty. -/
def blocks (d : Dialect) (flag : Bool) : List Line → List Block
  | [] => []
  | line :: rest =>
    if flag && startsRun line then
      let run := line :: rest.takeWhile staysInRun
      match _h : rest.dropWhile staysInRun with
      | [] => [.indented run none]
      | next :: rest => .indented run (some next) :: blocks d flag rest
    else if fence.isPrefixOf line then
      let kind := FenceKind.ofWord d (line.drop fence.length)
      let body := rest.takeWhile (· ≠ fence)
      match _h : rest.dropWhile (· ≠ fence) with
      | [] => [.fenced kind line body false]
      | _ :: rest => .fenced kind line body true :: blocks d flag rest
    else .prose line :: blocks d line.isEmpty rest
  termination_by lines => lines.length
  decreasing_by
    · exact Nat.lt_succ_of_lt (length_lt_of_dropWhile _h)
    · exact Nat.lt_succ_of_lt (length_lt_of_dropWhile _h)
    · exact Nat.lt_succ_self _

/-- The lines that a block was read from. -/
def Block.lines : Block → List Line
  | .indented run next => run ++ next.toList
  | .fenced _ opener body closed => opener :: body ++ if closed then [fence] else []
  | .prose line => [line]

/-! ## Emitting blocks -/

def commented (d : Dialect) (line : Line) : Line := d.commentPrefix ++ line

def FenceKind.bodyLine (d : Dialect) (line : Line) : FenceKind → Line
  | .foreign => commented d line
  | .script | .shell => line

def FenceKind.opening (d : Dialect) : FenceKind → Line
  | .shell => d.shellOpen
  | .script | .foreign => []

def FenceKind.closing (d : Dialect) : FenceKind → Line
  | .shell => d.shellClose
  | .script | .foreign => []

/-- The emitted lines of a block, one for each of its lines. -/
def Block.emit (d : Dialect) : Block → List Line
  | .indented run next =>
    (run.map fun line => if line.isEmpty then [] else d.codeLine line) ++
      next.toList.map (commented d)
  | .fenced kind _ body closed =>
    kind.opening d :: (body.map fun line => kind.bodyLine d line) ++
      if closed then [kind.closing d] else []
  | .prose line => [if line.isEmpty then [] else commented d line]

def FenceKind.mode : FenceKind → Mode
  | .script => .fencedScript
  | .shell => .fencedShell
  | .foreign => .fencedOther

/-- The state that a block leaves. -/
def Block.cursorAfter (flag : Bool) : Block → Cursor
  | .indented _ none => ⟨.indentedBlock, flag⟩
  | .fenced kind _ _ false => ⟨kind.mode, flag⟩
  | .indented _ (some _) | .fenced _ _ _ true => ⟨.prose, flag⟩
  | .prose line => ⟨.prose, line.isEmpty⟩

/-- The state that blocks leave one after the other. -/
def cursorAfter (c : Cursor) (bs : List Block) : Cursor :=
  bs.foldl (fun c b => b.cursorAfter c.prevBlank) c

/-! ## Lines in each mode -/

theorem opensIndented_eq_startsRun (line : Line) : opensIndented line = startsRun line := by
  unfold opensIndented
  split
  · rfl
  · rfl
  · rename_i htab hspaces
    symm
    rw [Bool.eq_false_iff]
    intro h
    simp only [startsRun, Bool.or_eq_true, List.isPrefixOf_iff_prefix] at h
    rcases h with ⟨rest, rfl⟩ | ⟨rest, rfl⟩
    · exact hspaces rest rfl
    · exact htab rest rfl

theorem staysInRun_eq (line : Line) :
    staysInRun line = (continuesIndented line || line.isEmpty) := by
  unfold continuesIndented
  split
  · rfl
  · rfl
  · rename_i htab hspace
    rw [Bool.false_or, Bool.eq_iff_iff]
    simp only [staysInRun, Bool.or_eq_true, List.isPrefixOf_iff_prefix]
    constructor
    · rintro ((h | ⟨rest, rfl⟩) | ⟨rest, rfl⟩)
      · exact h
      · exact absurd rfl (hspace rest)
      · exact absurd rfl (htab rest)
    · exact fun h => .inl (.inl h)

theorem fenceTag?_eq_some_iff {line word : Line} :
    fenceTag? line = some word ↔ line = fence ++ word := by
  unfold fenceTag?
  split
  · rename_i tag
    constructor
    · intro h
      rw [← Option.some.inj h]
      rfl
    · intro h
      have hf : fence ++ tag = fence ++ word := h
      exact congrArg some (List.append_cancel_left hf)
  · rename_i hnone
    constructor
    · intro h
      cases h
    · intro h
      exact absurd h (hnone word)

theorem fenceTag?_eq_none_iff {line : Line} :
    fenceTag? line = none ↔ fence.isPrefixOf line = false := by
  rw [Option.eq_none_iff_forall_ne_some, Bool.eq_false_iff, ne_eq, List.isPrefixOf_iff_prefix]
  constructor
  · rintro h ⟨word, rfl⟩
    exact h word (fenceTag?_eq_some_iff.mpr rfl)
  · intro h word hw
    exact h ⟨word, (fenceTag?_eq_some_iff.mp hw).symm⟩

theorem isFence_append {tags : List Line} (htags : tags ≠ []) (word : Line) :
    isFence tags (fence ++ word) = decide (word ∈ tags) := by
  have hempty : tags.isEmpty = false := List.isEmpty_eq_false_iff.mpr htags
  rw [isFence, fenceTag?_eq_some_iff.mpr rfl, Option.any_some, hempty, if_neg Bool.false_ne_true,
    List.contains_eq_mem]

theorem isAnyFence_append {word : Line} (h : '\n' ∉ word) : isAnyFence (fence ++ word) = true := by
  simp [isAnyFence, fenceTag?_eq_some_iff.mpr rfl, h]

/-- A line without line feeds that starts with the three marks opens a fenced block, whatever the tags. -/
theorem exists_fenceMode? (d : Dialect) {word : Line} (h : '\n' ∉ word) :
    ∃ kind : FenceKind, d.fenceMode? (fence ++ word) = some kind.mode := by
  unfold Dialect.fenceMode?
  rw [isAnyFence_append h]
  split
  · exact ⟨.script, rfl⟩
  · split
    · exact ⟨.shell, rfl⟩
    · exact ⟨.foreign, rfl⟩

/-- The word behind the marks decides on the kind of the block if there are tags to tell. -/
theorem fenceMode?_append {d : Dialect} (hscript : d.scriptTags ≠ []) (hshell : d.shellTags ≠ [])
    {word : Line} (h : '\n' ∉ word) : d.fenceMode? (fence ++ word) = some (FenceKind.ofWord d word).mode := by
  unfold Dialect.fenceMode? Dialect.isScriptFence Dialect.isShellFence FenceKind.ofWord
  rw [isFence_append hscript, isFence_append hshell, isAnyFence_append h]
  simp only [decide_eq_true_eq]
  split
  · rfl
  · split <;> rfl

theorem fenceMode?_eq_none (d : Dialect) {line : Line} (h : fence.isPrefixOf line = false) :
    d.fenceMode? line = none := by
  have ht := fenceTag?_eq_none_iff.mpr h
  simp [Dialect.fenceMode?, Dialect.isScriptFence, Dialect.isShellFence, isFence, isAnyFence, ht]

namespace Dialect

variable (d : Dialect) (flag : Bool)

theorem advance_prose_of_startsRun {line : Line} (h : (flag && startsRun line) = true) :
    d.advance ⟨.prose, flag⟩ line = (⟨.indentedBlock, flag⟩, d.codeLine line) := by
  rw [← opensIndented_eq_startsRun] at h
  simp [advance, h]

theorem advance_prose_fence {line : Line} (hrun : ¬ (flag && startsRun line) = true) {kind : FenceKind}
    (h : d.fenceMode? line = some kind.mode) :
    d.advance ⟨.prose, flag⟩ line = (⟨kind.mode, flag⟩, kind.opening d) := by
  rw [← opensIndented_eq_startsRun] at hrun
  simp only [advance, hrun, h]
  cases kind <;> rfl

theorem advance_prose_of_text {line : Line} (hrun : ¬ (flag && startsRun line) = true)
    (h : fence.isPrefixOf line = false) :
    d.advance ⟨.prose, flag⟩ line =
      (⟨.prose, line.isEmpty⟩, if line.isEmpty then [] else commented d line) := by
  rw [← opensIndented_eq_startsRun] at hrun
  simp only [advance, hrun, fenceMode?_eq_none d h]
  rfl

theorem advance_indented_of_stays {line : Line} (h : staysInRun line = true) :
    d.advance ⟨.indentedBlock, flag⟩ line =
      (⟨.indentedBlock, flag⟩, if line.isEmpty then [] else d.codeLine line) := by
  rw [staysInRun_eq] at h
  cases line with
  | nil => rfl
  | cons c line =>
      have hc : continuesIndented (c :: line) = true := by simpa using h
      simp [advance, hc]

theorem advance_indented_of_ends {line : Line} (h : staysInRun line = false) :
    d.advance ⟨.indentedBlock, flag⟩ line = (⟨.prose, flag⟩, commented d line) := by
  rw [staysInRun_eq, Bool.or_eq_false_iff] at h
  simp [advance, comment, commented, h.1, h.2]

theorem advance_fenced_of_ne (kind : FenceKind) {line : Line} (h : line ≠ fence) :
    d.advance ⟨kind.mode, flag⟩ line = (⟨kind.mode, flag⟩, kind.bodyLine d line) := by
  cases kind <;> simp [advance, FenceKind.mode, FenceKind.bodyLine, commented, h]

theorem advance_fenced_fence (kind : FenceKind) :
    d.advance ⟨kind.mode, flag⟩ fence = (⟨.prose, flag⟩, kind.closing d) := by
  cases kind <;> rfl

end Dialect

/-! ## Extraction -/

theorem not_of_dropWhile {p : Line → Bool} {xs rest : List Line} {x : Line}
    (h : xs.dropWhile p = x :: rest) : p x = false := by
  have hn := List.head?_dropWhile_not p xs
  rw [h] at hn
  exact hn

theorem mem_of_dropWhile {p : Line → Bool} {xs rest : List Line} {x y : Line}
    (h : xs.dropWhile p = x :: rest) (hy : y ∈ x :: rest) : y ∈ xs :=
  (List.dropWhile_sublist p).mem (h ▸ hy)

theorem ne_nil_of_startsRun {line : Line} (h : startsRun line = true) : line ≠ [] := by
  rintro rfl
  cases h

/-- Consuming lines from a line of prose on emits what their blocks emit. -/
theorem advanceAll_eq_blocks {d : Dialect} (hscript : d.scriptTags ≠ []) (hshell : d.shellTags ≠ [])
    (flag : Bool) (lines : List Line) (h : ∀ line ∈ lines, '\n' ∉ line) :
    d.advanceAll ⟨.prose, flag⟩ lines =
      (cursorAfter ⟨.prose, flag⟩ (blocks d flag lines),
        (blocks d flag lines).flatMap (Block.emit d)) := by
  fun_induction blocks d flag lines with
  | case1 flag => rfl
  | case2 flag line rest hrun run hd =>
      have hne := ne_nil_of_startsRun (Bool.and_eq_true_iff.mp hrun).2
      rw [Dialect.advanceAll_cons, d.advance_prose_of_startsRun flag hrun,
        d.advanceAll_span (fun _ => d.advance_indented_of_stays flag), hd]
      simp [run, hne, Block.emit, cursorAfter, Block.cursorAfter]
  | case3 flag line rest hrun run next after hd ih =>
      have hne := ne_nil_of_startsRun (Bool.and_eq_true_iff.mp hrun).2
      have hih := ih fun l hl => h l (by simp [mem_of_dropWhile hd (List.mem_cons_of_mem _ hl)])
      rw [Dialect.advanceAll_cons, d.advance_prose_of_startsRun flag hrun,
        d.advanceAll_span (fun _ => d.advance_indented_of_stays flag), hd,
        Dialect.advanceAll_cons, d.advance_indented_of_ends flag (not_of_dropWhile hd), hih]
      simp [run, hne, Block.emit, cursorAfter, Block.cursorAfter]
  | case4 flag line rest hrun hf kind body hd =>
      obtain ⟨word, rfl⟩ := List.isPrefixOf_iff_prefix.mp hf
      have hword : '\n' ∉ word := fun hn =>
        h _ List.mem_cons_self (List.mem_append_right _ hn)
      have hmode := fenceMode?_append hscript hshell hword
      have hspan := fun l (hl : decide (l ≠ fence) = true) =>
        d.advance_fenced_of_ne flag (.ofWord d word) (of_decide_eq_true hl)
      rw [Dialect.advanceAll_cons, d.advance_prose_fence flag hrun hmode,
        d.advanceAll_span hspan, hd]
      simp [kind, body, Block.emit, cursorAfter, Block.cursorAfter]
  | case5 flag line rest hrun hf kind body closer after hd ih =>
      obtain ⟨word, rfl⟩ := List.isPrefixOf_iff_prefix.mp hf
      have hword : '\n' ∉ word := fun hn =>
        h _ List.mem_cons_self (List.mem_append_right _ hn)
      have hmode := fenceMode?_append hscript hshell hword
      have hspan := fun l (hl : decide (l ≠ fence) = true) =>
        d.advance_fenced_of_ne flag (.ofWord d word) (of_decide_eq_true hl)
      have hcloser : closer = fence := by simpa using not_of_dropWhile hd
      have hih := ih fun l hl => h l (by simp [mem_of_dropWhile hd (List.mem_cons_of_mem _ hl)])
      rw [Dialect.advanceAll_cons, d.advance_prose_fence flag hrun hmode,
        d.advanceAll_span hspan, hd, Dialect.advanceAll_cons, hcloser, d.advance_fenced_fence, hih]
      simp [kind, body, Block.emit, cursorAfter, Block.cursorAfter]
  | case6 flag line rest hrun hf ih =>
      have hih := ih fun l hl => h l (List.mem_cons_of_mem _ hl)
      rw [Dialect.advanceAll_cons, d.advance_prose_of_text flag hrun (Bool.eq_false_iff.mpr hf), hih]
      rfl

theorem flatMap_lines_blocks (d : Dialect) (flag : Bool) (lines : List Line) :
    (blocks d flag lines).flatMap Block.lines = lines := by
  fun_induction blocks d flag lines with
  | case1 => rfl
  | case2 flag line rest _ run hd =>
      have hs := List.takeWhile_append_dropWhile (p := staysInRun) (l := rest)
      rw [hd, List.append_nil] at hs
      simp [run, Block.lines, hs]
  | case3 flag line rest _ run next after hd ih =>
      have hs := List.takeWhile_append_dropWhile (p := staysInRun) (l := rest)
      rw [hd] at hs
      simp [run, Block.lines, ih, hs]
  | case4 flag line rest _ _ kind body hd =>
      have hs := List.takeWhile_append_dropWhile (p := (· ≠ fence)) (l := rest)
      rw [hd, List.append_nil] at hs
      simp only [List.flatMap_singleton, Block.lines, Bool.false_eq_true, if_false, List.append_nil]
      exact congrArg (line :: ·) hs
  | case5 flag line rest _ _ kind body closer after hd ih =>
      have hs := List.takeWhile_append_dropWhile (p := (· ≠ fence)) (l := rest)
      have hcloser : closer = fence := by simpa using not_of_dropWhile hd
      rw [hd, hcloser] at hs
      simp only [List.flatMap_cons, Block.lines, if_true, ih, List.cons_append, List.append_assoc,
        List.nil_append]
      exact congrArg (line :: ·) hs
  | case6 flag line rest _ _ ih => simp [Block.lines, ih]

theorem IsLineOf.eq_dropReturn {piece : List Char} {line : Line} (h : IsLineOf piece line) :
    line = dropReturn piece := by
  cases h with
  | returned line => exact (dropReturn_append_return line).symm
  | whole h => simp [dropReturn, h]

theorem isLineOf_dropReturn (piece : List Char) : IsLineOf piece (dropReturn piece) := by
  by_cases h : piece.getLast? = some '\r'
  · obtain ⟨line, rfl⟩ := List.getLast?_eq_some_iff.mp h
    rw [dropReturn_append_return]
    exact .returned line
  · rw [show dropReturn piece = piece by simp [dropReturn, h]]
    exact .whole h

/-- The lines of a document are determined by the pieces between its line feeds. -/
theorem forall₂_isLineOf_iff {source : List Char} {ls : List Line} :
    List.Forall₂ IsLineOf (source.splitOn '\n') ls ↔ ls = documentLines source := by
  unfold documentLines lines
  generalize source.splitOn '\n' = pieces
  constructor
  · intro h
    induction h with
    | nil => rfl
    | cons hline _ ih => rw [List.map_cons, ← hline.eq_dropReturn, ih]
  · rintro rfl
    exact List.forall₂_map_right_iff.mpr (List.forall₂_same.mpr fun piece _ => isLineOf_dropReturn piece)

/-- A document has lines, and they are read into blocks that are made of just these. In a dialect that has
tags for both kinds of code, what is extracted from the document is what the blocks emit, with line feeds
in between, and the state at its end is the one that they leave. -/
theorem extract_eq_blocks {d : Dialect} (hscript : d.scriptTags ≠ []) (hshell : d.shellTags ≠ [])
    (source : List Char) :
    (∃ ls, List.Forall₂ IsLineOf (source.splitOn '\n') ls) ∧
      ∀ ls, List.Forall₂ IsLineOf (source.splitOn '\n') ls →
        (blocks d true ls).flatMap Block.lines = ls ∧
          extract d source = ['\n'].intercalate ((blocks d true ls).flatMap (Block.emit d)) ∧
          (extractWithCursor d source).2 = cursorAfter {} (blocks d true ls) := by
  refine ⟨⟨_, forall₂_isLineOf_iff.mpr rfl⟩, fun ls hls => ?_⟩
  obtain rfl := forall₂_isLineOf_iff.mp hls
  have hall := advanceAll_eq_blocks hscript hshell true (documentLines source)
    fun _ => newline_notMem_of_mem_documentLines
  refine ⟨flatMap_lines_blocks d true _, ?_, ?_⟩
  · simp only [extract, extractWithCursor, hall]
    rfl
  · simp only [extractWithCursor, hall]

/-- A fence directly below an indented block is prose; a carriage return in front of a line feed is no part
of a line; and a fence that is not closed goes on to the end. -/
theorem extract_eq_blocks_fence_below_block :
    extract .python "    a = 1\r\n```py\nb\n```sh\necho\n```py".toList =
      "a = 1\n# ```py\n# b\nsh(r\"\"\"\necho\n```py".toList := by
  have hls : List.Forall₂ IsLineOf ("    a = 1\r\n```py\nb\n```sh\necho\n```py".toList.splitOn '\n')
      ["    a = 1".toList, "```py".toList, "b".toList, "```sh".toList, "echo".toList, "```py".toList] :=
    forall₂_isLineOf_iff.mpr (by decide)
  rw [((extract_eq_blocks (by decide) (by decide) _).2 _ hls).2.1]
  cbv

/-- A dialect without tags for scripts. -/
def untagged : Dialect where
  name := "untagged"
  extension := ".x"
  commentPrefix := "# ".toList
  scriptTags := []

/-- Without tags for scripts the bare marks open one, though no tag stands behind them. As a block of the
document they are foreign to the dialect. -/
theorem extract_ne_blocks_untagged :
    List.Forall₂ IsLineOf ("```\nimport os\n```".toList.splitOn '\n') [fence, "import os".toList, fence] ∧
      extract untagged "```\nimport os\n```".toList = "\nimport os\n".toList ∧
      ['\n'].intercalate ((blocks untagged true [fence, "import os".toList, fence]).flatMap
        (Block.emit untagged)) = "\n# import os\n".toList :=
  ⟨forall₂_isLineOf_iff.mpr (by decide), by decide, by cbv⟩

end ScriptRunner.Literate
