import ScriptRunner.Proofs.Interpreter.Restoration

/-! What a script can tell of the loads that it starts, and of the loss of its file. Main statement: with blank
lines in their place the script ends in the same way, sees the same, and leaves the same interpreter. Only a
script that deletes its file when it is gone already notices, since that fails. -/

namespace ScriptRunner.Interpreter

/-! ## Blank lines in place of loads and deletions -/

/-- Some of the loads and of the deletions among some lines have given way to blank lines. -/
inductive Blanked : List Action → List Action → Prop where
  | nil : Blanked [] []
  | keep (a : Action) {as bs} (h : Blanked as bs) : Blanked (a :: as) (a :: bs)
  | load (start : Start) (inner : List Action) {as bs} (h : Blanked as bs) :
      Blanked (.load start inner :: as) (.blank :: bs)
  | deleteFile {as bs} (h : Blanked as bs) : Blanked (.deleteFile :: as) (.blank :: bs)

def Action.isDeletion : Action → Bool
  | .deleteFile => true
  | _ => false

/-- Whether all deletions among some lines are still there. -/
def KeepsDeletions (as bs : List Action) : Prop := as.map Action.isDeletion = bs.map Action.isDeletion

/-- Behind some of its lines a script comes to one that deletes its file when it is gone already. -/
structure DeletesAgain (line : Nat) (m : Memory) (fr : Frame) (before as : List Action) : Prop where
  split : ∃ rest, as = before ++ .deleteFile :: rest
  passes : (runFrom line m fr before).failure? = none
  gone : (runFrom line m fr before).frame.fileExists = false

/-- Whether a deletion that finds the file gone is still there, with all deletions before it. -/
def KeepsFailure (line : Nat) (m : Memory) (fr : Frame) (as bs : List Action) : Prop :=
  ∀ before, DeletesAgain line m fr before as →
    KeepsDeletions (as.take (before.length + 1)) (bs.take (before.length + 1))

variable {line : Nat} {m m' : Memory} {fr fr' : Frame} {a : Action} {as bs rest before : List Action}

theorem DeletesAgain.cons (hf : (act m fr a).failure? = none)
    (h : DeletesAgain (line + 1) (act m fr a).memory (act m fr a).frame before rest) :
    DeletesAgain line m fr (a :: before) (a :: rest) := by
  obtain ⟨⟨after, rfl⟩, hbefore, hgone⟩ := h
  refine ⟨⟨after, rfl⟩, ?_, ?_⟩
  · rw [runFrom_cons_none hf]
    exact hbefore
  · rw [runFrom_cons_none hf]
    exact hgone

theorem deletesAgain_of_gone (h : fr.fileExists = false) :
    DeletesAgain line m fr [] (.deleteFile :: rest) := ⟨⟨rest, rfl⟩, rfl, h⟩

theorem fileExists_act (m : Memory) (fr : Frame) (a : Action) :
    (act m fr a).frame.fileExists = (fr.fileExists && !a.isDeletion) := by
  cases a <;> unfold act
  case deleteFile => cases h : fr.fileExists <;> simp [Progress.still, h, Action.isDeletion]
  case set | copy => split <;> exact (Bool.and_true _).symm
  all_goals exact (Bool.and_true _).symm

theorem fileExists_runFrom (h : ∀ a ∈ as, a.isDeletion = false) :
    (runFrom line m fr as).frame.fileExists = fr.fileExists := by
  induction as generalizing line m fr with
  | nil => rfl
  | cons a rest ih =>
      have hact : (act m fr a).frame.fileExists = fr.fileExists := by
        rw [fileExists_act, h a List.mem_cons_self]
        exact Bool.and_true _
      cases hf : (act m fr a).failure? with
      | some f =>
          rw [runFrom_cons_some hf]
          exact hact
      | none =>
          rw [runFrom_cons_none hf]
          exact (ih fun b hb => h b (List.mem_cons_of_mem _ hb)).trans hact

/-- A script with one line that deletes its file does not come to another one. -/
theorem not_deletesAgain (hone : (as.filter Action.isDeletion).length ≤ 1)
    (hthere : fr.fileExists = true) : ¬ DeletesAgain line m fr before as := by
  rintro ⟨⟨rest, rfl⟩, -, hgone⟩
  have hnone : ∀ a ∈ before, a.isDeletion = false := by
    have hlen : (before.filter Action.isDeletion).length = 0 := by
      rw [List.filter_append, List.filter_cons_of_pos rfl, List.length_append, List.length_cons] at hone
      omega
    simpa using List.filter_eq_nil_iff.mp (List.eq_nil_of_length_eq_zero hlen)
  rw [fileExists_runFrom hnone, hthere] at hgone
  cases hgone

/-! ## What keeps a script from being compiled -/

theorem fault?_load (start : Start) (inner : List Action) :
    (Action.load start inner).fault? = Action.blank.fault? := rfl

theorem fault?_deleteFile : Action.deleteFile.fault? = Action.blank.fault? := rfl

theorem Blanked.lineFault?_eq (h : Blanked as bs) (among : List LineFault) (line : Nat) :
    lineFault? among line bs = lineFault? among line as := by
  induction h generalizing line with
  | nil => rfl
  | keep a h ih => simp only [lineFault?, ih]
  | load start inner h ih => simp only [lineFault?, ih, fault?_load]
  | deleteFile h ih => simp only [lineFault?, ih, fault?_deleteFile]

theorem Blanked.scriptFault?_eq (h : Blanked as bs) : scriptFault? bs = scriptFault? as := by
  simp only [scriptFault?, h.lineFault?_eq]

/-- Of a script that does not come to its first line only its faults matter. -/
theorem loadWith_eq_of_not_starts {start : Start} (run run' : Run)
    (hf : scriptFault? bs = scriptFault? as) (h : ¬ Starts start as) :
    loadWith run' m start bs = loadWith run m start as := by
  unfold loadWith
  rw [hf]
  split
  · rfl
  · rename_i hfile
    split
    · rfl
    · rename_i hname
      split
      · rfl
      · rename_i hlines
        exact absurd ⟨by simpa using hfile, by simpa using hname, hlines⟩ h

/-! ## Memories and scripts that look alike -/

namespace Restored

variable {before after last : State}

theorem refl (st : State) : Restored st st := ⟨rfl, rfl, rfl⟩

theorem symm (h : Restored before after) : Restored after before :=
  ⟨h.argv.symm, h.path.symm, h.main.symm⟩

theorem trans (h : Restored before after) (h' : Restored after last) : Restored before last :=
  ⟨h'.argv.trans h.argv, h'.path.trans h.path, h'.main.trans h.main⟩

end Restored

namespace Memory

/-- Whether the arguments and the search path are two lists: one does not change with the other. -/
def Apart (m : Memory) : Prop := m.argv ≠ m.path

theorem apart_newArgv (m : Memory) (items : List String) : (m.newArgv items).Apart :=
  Nat.ne_of_gt m.path_lt

theorem apart_newPath (m : Memory) (items : List String) : (m.newPath items).Apart :=
  Nat.ne_of_lt m.argv_lt

theorem seen_fill_argv (h : m.Apart) (items : List String) :
    (m.fill m.argv items).seen = { m.seen with argv := items } := by
  have hargv := m.items_fill_self items m.argv_lt
  have hpath := m.items_fill_of_ne items h.symm
  calc (m.fill m.argv items).seen
      = ⟨(m.fill m.argv items).items m.argv, (m.fill m.argv items).items m.path, m.main,
          m.started⟩ := rfl
    _ = _ := by rw [hargv, hpath]; rfl

theorem seen_fill_path (h : m.Apart) (items : List String) :
    (m.fill m.path items).seen = { m.seen with path := items } := by
  have hpath := m.items_fill_self items m.path_lt
  have hargv := m.items_fill_of_ne items h
  calc (m.fill m.path items).seen
      = ⟨(m.fill m.path items).items m.argv, (m.fill m.path items).items m.path, m.main,
          m.started⟩ := rfl
    _ = _ := by rw [hargv, hpath]; rfl

theorem seen_newArgv (m : Memory) (items : List String) :
    (m.newArgv items).seen = { m.seen with argv := items } := by
  have hargv := m.items_make_length items
  have hpath := m.items_make_of_lt items m.path_lt
  calc (m.newArgv items).seen
      = ⟨(m.make items).items m.lists.length, (m.make items).items m.path, m.main,
          m.started⟩ := rfl
    _ = _ := by rw [hargv, hpath]; rfl

theorem seen_newPath (m : Memory) (items : List String) :
    (m.newPath items).seen = { m.seen with path := items } := by
  have hpath := m.items_make_length items
  have hargv := m.items_make_of_lt items m.argv_lt
  calc (m.newPath items).seen
      = ⟨(m.make items).items m.argv, (m.make items).items m.lists.length, m.main,
          m.started⟩ := rfl
    _ = _ := by rw [hargv, hpath]; rfl

/-- Two memories that a script cannot tell apart, now or by what it does to them. -/
structure Alike (m m' : Memory) : Prop where
  view : Restored m.seen m'.seen
  apart : m.Apart
  apart' : m'.Apart

namespace Alike

theorem fill_argv (h : m.Alike m') (items : List String) :
    (m.fill m.argv items).Alike (m'.fill m'.argv items) where
  view := by
    rw [seen_fill_argv h.apart, seen_fill_argv h.apart']
    exact ⟨rfl, h.view.path, h.view.main⟩
  apart := h.apart
  apart' := h.apart'

theorem fill_path (h : m.Alike m') (items : List String) :
    (m.fill m.path items).Alike (m'.fill m'.path items) where
  view := by
    rw [seen_fill_path h.apart, seen_fill_path h.apart']
    exact ⟨h.view.argv, rfl, h.view.main⟩
  apart := h.apart
  apart' := h.apart'

theorem newArgv (h : m.Alike m') (items : List String) : (m.newArgv items).Alike (m'.newArgv items) where
  view := by
    rw [seen_newArgv, seen_newArgv]
    exact ⟨rfl, h.view.path, h.view.main⟩
  apart := m.apart_newArgv items
  apart' := m'.apart_newArgv items

theorem newPath (h : m.Alike m') (items : List String) : (m.newPath items).Alike (m'.newPath items) where
  view := by
    rw [seen_newPath, seen_newPath]
    exact ⟨h.view.argv, rfl, h.view.main⟩
  apart := m.apart_newPath items
  apart' := m'.apart_newPath items

end Alike

end Memory

open Memory

/-- After a load the arguments are a copy, which the search path of the script cannot have become. -/
theorem apart_loadWith {run : Run} (hrun : run.Keeps) (h : m.Apart) (start : Start)
    (actions : List Action) : (loadWith run m start actions).memory.Apart := by
  by_cases hs : Starts start actions
  · rw [loadWith_of_starts hs]
    exact ((hrun.save m start (start.frame m.started)).spare m.spare_saved_argv).2.2
  · obtain ⟨f, place, there, he⟩ := loadWith_of_not_starts hs
    rw [he]
    exact h

/-- A load leaves the memory as it found it, as far as a script can tell. -/
theorem alike_load (h : m.Alike m') (start : Start) (inner : List Action) :
    (act m fr (.load start inner)).memory.Alike m' where
  view :=
    have hrun : Run.Keeps fun m fr => runFrom 1 m fr inner := fun m fr => keeps_runFrom 1 m fr inner
    (restored_loadWith hrun m start inner).symm.trans h.view
  apart :=
    have hrun : Run.Keeps fun m fr => runFrom 1 m fr inner := fun m fr => keeps_runFrom 1 m fr inner
    apart_loadWith hrun h.apart start inner
  apart' := h.apart'

def Sight.isSnapshot : Sight → Bool
  | .snapshot .. => true
  | .load _ => false

/-- What a script has seen itself, without what came of its loads. -/
def snapshots (sights : List Sight) : List Sight := sights.filter Sight.isSnapshot

theorem snapshots_append (xs ys : List Sight) : snapshots (xs ++ ys) = snapshots xs ++ snapshots ys :=
  List.filter_append ..

theorem snapshots_load (sights : List Sight) (r : Report) :
    snapshots (sights ++ [.load r]) = snapshots sights := by
  rw [snapshots_append]
  exact List.append_nil _

/-- Two runs of a script with the same names, which have seen the same. The file of the first is not there
for longer. -/
structure Frame.Alike (fr fr' : Frame) : Prop where
  number : fr'.number = fr.number
  names : fr'.names = fr.names
  snapshots : snapshots fr'.sights = snapshots fr.sights
  file : fr.fileExists = true → fr'.fileExists = true

/-- How far two runs of a script have got: the one as far as the other. -/
structure Progress.Alike {ε : Type} (p : Progress ε m) (p' : Progress ε m') : Prop where
  failure : p'.failure? = p.failure?
  memory : p.memory.Alike p'.memory
  frame : p.frame.Alike p'.frame

/-! ## Lines -/

/-- A line does the same in two runs that look alike. -/
theorem alike_act (hm : m.Alike m') (hfr : fr.Alike fr') (a : Action)
    (hfile : a.isDeletion = true → fr'.fileExists = fr.fileExists) :
    (act m fr a).Alike (act m' fr' a) := by
  cases a with
  | blank | malformed => exact ⟨rfl, hm, hfr⟩
  | snapshot =>
      refine ⟨rfl, hm, ⟨hfr.number, hfr.names, ?_, hfr.file⟩⟩
      have hmain : m'.main = m.main := hm.view.main
      change snapshots (fr'.sights ++ _) = snapshots (fr.sights ++ _)
      rw [snapshots_append, snapshots_append, hfr.snapshots, hm.view.argv, hm.view.path, hmain,
        hfr.number, hfr.names]
  | set name v =>
      unfold act
      rw [hfr.names]
      split
      · exact ⟨rfl, hm, hfr⟩
      · exact ⟨rfl, hm, ⟨hfr.number, rfl, hfr.snapshots, hfr.file⟩⟩
  | copy name source =>
      unfold act
      rw [hfr.names]
      split
      · exact ⟨rfl, hm, ⟨hfr.number, rfl, hfr.snapshots, hfr.file⟩⟩
      · exact ⟨rfl, hm, hfr⟩
  | appendArg arg =>
      have hargv : m'.items m'.argv = m.items m.argv := hm.view.argv
      refine ⟨rfl, ?_, hfr⟩
      change (m.fill _ _).Alike (m'.fill _ _)
      rw [hargv]
      exact hm.fill_argv _
  | setArgs args => exact ⟨rfl, hm.newArgv args, hfr⟩
  | insertPath directory =>
      have hpath : m'.items m'.path = m.items m.path := hm.view.path
      refine ⟨rfl, ?_, hfr⟩
      change (m.fill _ _).Alike (m'.fill _ _)
      rw [hpath]
      exact hm.fill_path _
  | setPath directories => exact ⟨rfl, hm.newPath directories, hfr⟩
  | deleteMain => exact ⟨rfl, ⟨⟨hm.view.argv, hm.view.path, rfl⟩, hm.apart, hm.apart'⟩, hfr⟩
  | deleteFile =>
      unfold act
      rw [hfile rfl, hfr.number]
      split
      · exact ⟨rfl, hm, ⟨rfl, hfr.names, hfr.snapshots, fun h => absurd h Bool.false_ne_true⟩⟩
      · exact ⟨rfl, hm, hfr⟩
  | load start inner =>
      have hleft : (act m fr (.load start inner)).memory.Alike m' := alike_load hm start inner
      have hright : (act m' fr' (.load start inner)).memory.Alike m' :=
        alike_load ⟨.refl _, hm.apart', hm.apart'⟩ start inner
      refine ⟨rfl, ⟨hleft.view.trans hright.view.symm, hleft.apart, hright.apart⟩,
        ⟨hfr.number, hfr.names, ?_, hfr.file⟩⟩
      exact (snapshots_load _ _).trans (hfr.snapshots.trans (snapshots_load _ _).symm)
  | raise kind v =>
      unfold act
      rw [hfr.names]
      exact ⟨rfl, hm, hfr⟩

/-- Two runs that look alike after their first lines are alike if the rest is. -/
theorem alike_runFrom_cons {b : Action} (hact : (act m fr a).Alike (act m' fr' b))
    (hrest : (act m fr a).failure? = none →
      (runFrom (line + 1) (act m fr a).memory (act m fr a).frame as).Alike
        (runFrom (line + 1) (act m' fr' b).memory (act m' fr' b).frame bs)) :
    (runFrom line m fr (a :: as)).Alike (runFrom line m' fr' (b :: bs)) := by
  cases hf : (act m fr a).failure? with
  | some f =>
      rw [runFrom_cons_some hf, runFrom_cons_some (hact.failure.trans hf)]
      exact ⟨rfl, hact.memory, hact.frame⟩
  | none =>
      rw [runFrom_cons_none hf, runFrom_cons_none (hact.failure.trans hf)]
      exact ⟨(hrest hf).failure, (hrest hf).memory, (hrest hf).frame⟩

/-- Lines that give way to blank ones do nothing that their script notices, unless the file that one of them
deletes is gone. -/
theorem Blanked.alike_runFrom (h : Blanked as bs) (hm : m.Alike m') (hfr : fr.Alike fr')
    (hdel : ∀ before, DeletesAgain line m fr before as →
      KeepsDeletions (as.take (before.length + 1)) (bs.take (before.length + 1)) ∧
        fr'.fileExists = fr.fileExists) :
    (runFrom line m fr as).Alike (runFrom line m' fr' bs) := by
  induction h generalizing line m m' fr fr' with
  | nil => exact ⟨rfl, hm, hfr⟩
  | keep a h ih =>
      have hfile : a.isDeletion = true → fr'.fileExists = fr.fileExists := by
        intro ha
        cases a <;> try cases ha
        cases hgone : fr.fileExists with
        | true => exact hfr.file hgone
        | false => exact hgone ▸ (hdel _ (deletesAgain_of_gone hgone)).2
      have hact := alike_act hm hfr a hfile
      refine alike_runFrom_cons hact fun hf => ih hact.memory hact.frame fun before hagain => ?_
      obtain ⟨hkept, hsame⟩ := hdel _ (hagain.cons hf)
      exact ⟨(List.cons.inj hkept).2, by rw [fileExists_act, fileExists_act, hsame]⟩
  | load start inner h ih =>
      have hact : (act m fr (.load start inner)).Alike (act m' fr' .blank) :=
        ⟨rfl, alike_load hm start inner,
          ⟨hfr.number, hfr.names, hfr.snapshots.trans (snapshots_load _ _).symm, hfr.file⟩⟩
      refine alike_runFrom_cons hact fun hf => ih hact.memory hact.frame fun before hagain => ?_
      obtain ⟨hkept, hsame⟩ := hdel _ (hagain.cons hf)
      exact ⟨(List.cons.inj hkept).2, hsame⟩
  | deleteFile h ih =>
      -- If the file were gone the script would be told so, and no deletion would be missing.
      have hthere : fr.fileExists = true := by
        cases hgone : fr.fileExists with
        | true => rfl
        | false => cases (List.cons.inj (hdel _ (deletesAgain_of_gone hgone)).1).1
      have hact : (act m fr .deleteFile).Alike (act m' fr' .blank) := by
        unfold act
        rw [if_pos hthere]
        exact ⟨rfl, hm, ⟨hfr.number, hfr.names, hfr.snapshots, fun h => absurd h Bool.false_ne_true⟩⟩
      refine alike_runFrom_cons hact fun hf => ih hact.memory hact.frame fun before hagain => ?_
      cases (List.cons.inj (hdel _ (hagain.cons hf)).1).1

/-! ## Scripts -/

/-- Two loads that nobody can tell apart by how the script ends, by what it sees itself, or by what becomes
of the interpreter. -/
structure Indistinct (r r' : Report) : Prop where
  ending : r'.ending = r.ending
  snapshots : snapshots r'.sights = snapshots r.sights
  after : Restored r.after r'.after

theorem ending_ended {start : Start} {p p' : Progress (Failure × Nat) (m.enter start)}
    (h : p.Alike p') : (m.ended start p').report.ending = (m.ended start p).report.ending := by
  simp only [Memory.ended, h.failure, h.frame.names]

theorem restored_after_load (m : Memory) (start : Start) (as bs : List Action) :
    Restored (load m ⟨start, as⟩).report.after (load m ⟨start, bs⟩).report.after := by
  have hafter : ∀ actions : List Action, Restored m.seen (load m ⟨start, actions⟩).report.after := by
    intro actions
    have hrun : Run.Keeps fun m fr => runFrom 1 m fr actions :=
      fun m fr => keeps_runFrom 1 m fr actions
    rw [load, (seen_loadWith _ m start actions).2]
    exact restored_loadWith hrun m start actions
  exact (hafter as).symm.trans (hafter bs)

/-- A script does not notice the loads that it starts, and the loss of its file only if it comes to delete
it once more. With blank lines in their place, but not in place of a deletion that fails or of the one before
it, the script ends in the same way, with the same names or with the same failure in the same line; it sees
the same, and it leaves the interpreter in the same state. -/
theorem load_of_blanked (m : Memory) (start : Start) (h : Blanked as bs)
    (hkept : KeepsFailure 1 (m.enter start) (start.frame m.started) as bs) :
    Indistinct (load m ⟨start, as⟩).report (load m ⟨start, bs⟩).report := by
  have hafter := restored_after_load m start as bs
  by_cases hs : Starts start as
  · have hs' : Starts start bs := ⟨hs.1, hs.2.1, h.scriptFault?_eq.trans hs.2.2⟩
    have henter : (m.enter start).Apart := apart_newArgv _ _
    have hrun : (runFrom 1 (m.enter start) (start.frame m.started) as).Alike
        (runFrom 1 (m.enter start) (start.frame m.started) bs) :=
      h.alike_runFrom ⟨.refl _, henter, henter⟩ ⟨rfl, rfl, rfl, id⟩
        fun before hagain => ⟨hkept before hagain, rfl⟩
    have hload : load m ⟨start, as⟩ = m.ended start _ := loadWith_of_starts hs
    have hload' : load m ⟨start, bs⟩ = m.ended start _ := loadWith_of_starts hs'
    refine ⟨?_, ?_, hafter⟩
    · rw [hload, hload']
      exact ending_ended hrun
    · rw [hload, hload']
      exact hrun.frame.snapshots
  · rw [load, load, loadWith_eq_of_not_starts _ _ h.scriptFault?_eq hs]
    exact ⟨rfl, rfl, .refl _⟩

/-- A document that is run as a script. -/
def notes : Start where
  filename := "/w/notes.md"
  dirname := "/w"

/-- A script that loads another one, which spoils all that they share and fails. -/
def busy : List Action :=
  [.setPath ["/elsewhere"], .deleteMain,
    .load { filename := "/w/inner.md", dirname := "/w" }
      [.insertPath "/tmp", .setArgs [], .load notes [.deleteMain], .raise "ValueError" (.text "no")],
    .deleteFile, .appendArg "y", .snapshot, .copy "x" "y"]

def quiet : List Action :=
  [.setPath ["/elsewhere"], .deleteMain, .blank, .blank, .appendArg "y", .snapshot, .copy "x" "y"]

theorem load_of_blanked_busy :
    Blanked busy quiet ∧
      KeepsFailure 1 (host.enter notes) (notes.frame host.started) busy quiet ∧
      Indistinct (load host ⟨notes, busy⟩).report (load host ⟨notes, quiet⟩).report := by
  have hblanked : Blanked busy quiet :=
    .keep _ (.keep _ (.load _ _ (.deleteFile (.keep _ (.keep _ (.keep _ .nil))))))
  have hkept : KeepsFailure 1 (host.enter notes) (notes.frame host.started) busy quiet :=
    fun before hagain => absurd hagain (not_deletesAgain (by decide) rfl)
  exact ⟨hblanked, hkept, load_of_blanked host notes hblanked hkept⟩

/-- A script that deletes its file twice fails, and with a blank line in place of the second deletion it does
not. -/
theorem second_deletion_noticed :
    Blanked [.deleteFile, .deleteFile] [.deleteFile, .blank] ∧
      (load host ⟨notes, [.deleteFile, .deleteFile]⟩).report.ending =
        .failed (.os (.notFound "/w/script0.py")) (.line "/w/notes.md" 2) ∧
      (load host ⟨notes, [.deleteFile, .blank]⟩).report.ending = .finished notes.names := by
  have htwice : Starts notes [.deleteFile, .deleteFile] := ⟨rfl, by decide, by decide⟩
  have honce : Starts notes [.deleteFile, .blank] := ⟨rfl, by decide, by decide⟩
  refine ⟨.keep _ (.deleteFile .nil), ?_, ?_⟩
  · rw [load, loadWith_of_starts htwice]
    rfl
  · rw [load, loadWith_of_starts honce]
    rfl

end ScriptRunner.Interpreter
