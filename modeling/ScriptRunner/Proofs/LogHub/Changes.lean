import Mathlib.Data.List.Induction
import ScriptRunner.LogHub

/-! What becomes of a log hub that is configured and given handlers in any order. Its other handlers stay as they
were added. The console handlers are gone with each configuration but for one new one, which comes last. -/

namespace ScriptRunner.LogHub

variable {h : LogHub}

/-- The handlers of a hub that are no console handlers. -/
def others (h : LogHub) : List LogHandler := h.handlers.filter (· ≠ .console)

/-! ## One change -/

theorem others_of_notMem (hnone : .console ∉ h.handlers) : h.others = h.handlers := by
  refine List.filter_eq_self.mpr fun handler hmem => decide_eq_true ?_
  rintro rfl
  exact hnone hmem

theorem others_removeHandler (h : LogHub) : (h.removeHandler .console).others = h.others := by
  rw [others, removeHandler, ← List.erase_filter, List.erase_of_not_mem (by simp), others]

/-- Each console handler among those that are looked at is taken out of the hub, so none is left if there are
no more of them in the hub. -/
theorem foldl_removeHandler (scanned : List LogHandler) (h : LogHub)
    (hcount : h.handlers.count .console ≤ scanned.count .console) :
    scanned.foldl (fun g handler => if handler = .console then g.removeHandler handler else g) h =
      { h with handlers := h.others } := by
  induction scanned generalizing h with
  | nil =>
      have hnone : .console ∉ h.handlers := List.count_eq_zero.mp (Nat.le_zero.mp hcount)
      rw [List.foldl_nil, others_of_notMem hnone]
  | cons handler scanned ih =>
      rw [List.foldl_cons]
      by_cases hc : handler = .console
      · subst hc
        rw [if_pos rfl, ih]
        · rw [others_removeHandler]
          rfl
        · rw [removeHandler, List.count_erase_self]
          rw [List.count_cons_self] at hcount
          omega
      · rw [if_neg hc, ih _ (by rwa [List.count_cons_of_ne hc] at hcount)]

theorem dropConsoles_eq (h : LogHub) : h.dropConsoles = { h with handlers := h.others } :=
  foldl_removeHandler h.handlers h (Nat.le_refl _)

theorem renewConsole_eq (h : LogHub) : h.renewConsole = { h with handlers := h.others ++ [.console] } := by
  rw [renewConsole, dropConsoles_eq, addHandler, if_neg (by simp)]

theorem handlers_configure (h : LogHub) (level : Value) :
    (h.configure level).1.handlers = h.others ++ [.console] := by
  unfold configure
  split <;> rw [renewConsole_eq]

/-- A level that is refused changes neither the level nor whether records are passed on. -/
theorem configure_of_refused {level : Value} (h : LogHub) (hfault : (h.configure level).2 ≠ none) :
    (h.configure level).1.level = h.level ∧ (h.configure level).1.propagate = h.propagate := by
  unfold configure at hfault ⊢
  split at hfault
  · exact absurd rfl hfault
  · rw [renewConsole_eq]
    exact ⟨rfl, rfl⟩

theorem propagate_of_configured {level : Value} (h : LogHub) (hfault : (h.configure level).2 = none) :
    (h.configure level).1.propagate = false := by
  unfold configure at hfault ⊢
  split at hfault
  · rfl
  · cases hfault

theorem propagate_configure {level : Value} (hpropagate : h.propagate = false) :
    (h.configure level).1.propagate = false := by
  by_cases hfault : (h.configure level).2 = none
  · exact propagate_of_configured h hfault
  · rw [(configure_of_refused h hfault).2, hpropagate]

theorem others_configure (h : LogHub) (level : Value) : (h.configure level).1.others = h.others := by
  rw [others, handlers_configure, others]
  simp

theorem propagate_addHandler (h : LogHub) (handler : LogHandler) :
    (h.addHandler handler).propagate = h.propagate := by
  unfold addHandler
  split <;> rfl

theorem others_addHandler_console (h : LogHub) : (h.addHandler .console).others = h.others := by
  simp [addHandler, others]

theorem others_addHandler_foreign (h : LogHub) (id : Nat) :
    (h.addHandler (.foreign id)).others =
      if .foreign id ∈ h.others then h.others else h.others ++ [.foreign id] := by
  simp only [addHandler, others]
  split <;> simp_all

/-! ## All changes -/

/-- What is done to a hub. -/
inductive Change where
  | configure (level : Value)
  | add (handler : LogHandler)

def change (h : LogHub) : Change → LogHub
  | .configure level => (h.configure level).1
  | .add handler => h.addHandler handler

def changeAll (h : LogHub) (changes : List Change) : LogHub := changes.foldl change h

theorem changeAll_concat (h : LogHub) (changes : List Change) (c : Change) :
    changeAll h (changes ++ [c]) = (changeAll h changes).change c := by
  rw [changeAll, List.foldl_append, List.foldl_cons, List.foldl_nil, changeAll]

/-- The handler that a change adds if it is no console handler. -/
def Change.other? : Change → Option LogHandler
  | .add (.foreign id) => some (.foreign id)
  | .add .console | .configure _ => none

/-- The handlers other than console handlers that are added, each once, as they are first added. -/
def othersAdded (changes : List Change) : List LogHandler := (changes.filterMap Change.other?).eraseDups

theorem othersAdded_concat_of_none {c : Change} (hc : c.other? = none) (changes : List Change) :
    othersAdded (changes ++ [c]) = othersAdded changes := by
  simp [othersAdded, List.filterMap_append, hc]

theorem othersAdded_concat_of_some {c : Change} {handler : LogHandler} (hc : c.other? = some handler)
    (changes : List Change) :
    othersAdded (changes ++ [c]) =
      if handler ∈ othersAdded changes then othersAdded changes else othersAdded changes ++ [handler] := by
  have hone : [c].filterMap Change.other? = [handler] := by simp [hc]
  rw [othersAdded, List.filterMap_append, hone, List.eraseDups_append, ← othersAdded]
  by_cases hmem : handler ∈ othersAdded changes
  · have hold : [handler].removeAll (changes.filterMap Change.other?) = [] := by
      simpa [List.removeAll] using List.mem_eraseDups.mp hmem
    rw [hold, if_pos hmem, List.eraseDups_nil, List.append_nil]
  · have hnew : [handler].removeAll (changes.filterMap Change.other?) = [handler] := by
      simpa [List.removeAll] using fun h => hmem (List.mem_eraseDups.mpr h)
    rw [hnew, if_neg hmem, List.eraseDups_cons]
    rfl

theorem others_changeAll (changes : List Change) : (changeAll {} changes).others = othersAdded changes := by
  induction changes using List.reverseRecOn with
  | nil => rfl
  | append_singleton changes c ih =>
      rw [changeAll_concat]
      cases c with
      | configure level => rw [change, others_configure, ih, othersAdded_concat_of_none rfl]
      | add handler =>
          cases handler with
          | console => rw [change, others_addHandler_console, ih, othersAdded_concat_of_none rfl]
          | foreign id => rw [change, others_addHandler_foreign, ih, othersAdded_concat_of_some rfl]

theorem propagate_changeAll (changes : List Change) (hpropagate : h.propagate = false) :
    (changeAll h changes).propagate = false := by
  induction changes generalizing h with
  | nil => exact hpropagate
  | cons c changes ih =>
      refine ih ?_
      cases c with
      | configure level => exact propagate_configure hpropagate
      | add handler => rw [change, propagate_addHandler, hpropagate]

/-- Whatever was done to a hub, with each configuration it has all other handlers in the order in which they
were added and one console handler behind them. A level that is refused leaves the rest of the hub as it was,
and after one that was accepted records are not passed on any more. -/
theorem configure_changeAll (changes : List Change) (level : Value) :
    ((changeAll {} changes).configure level).1.handlers = othersAdded changes ++ [.console] ∧
      (((changeAll {} changes).configure level).2 ≠ none →
        ((changeAll {} changes).configure level).1.level = (changeAll {} changes).level ∧
          ((changeAll {} changes).configure level).1.propagate = (changeAll {} changes).propagate) ∧
      (((changeAll {} changes).configure level).2 = none →
        ∀ later, (changeAll ((changeAll {} changes).configure level).1 later).propagate = false) := by
  refine ⟨?_, configure_of_refused _, fun hfault later => ?_⟩
  · rw [handlers_configure, others_changeAll]
  · exact propagate_changeAll later (propagate_of_configured _ hfault)

/-- Console handlers on both sides of one that is added twice, and a configuration between them. -/
def mixed : List Change :=
  [.add .console, .add (.foreign 2), .configure (.text "INFO"), .add .console, .add (.foreign 1),
    .add (.foreign 2)]

/-- A level that there is not leaves one console handler too, and the level that there was. -/
theorem configure_changeAll_mixed :
    ((changeAll {} mixed).configure (.text "LOUD")).2 = some (.unknown "LOUD") ∧
      ((changeAll {} mixed).configure (.text "LOUD")).1.handlers = [.foreign 2, .foreign 1, .console] ∧
      ((changeAll {} mixed).configure (.text "LOUD")).1.level = .number 20 ∧
      ((changeAll {} mixed).configure (.text "DEBUG")).2 = none ∧
      (changeAll ((changeAll {} mixed).configure (.text "DEBUG")).1 mixed).propagate = false := by
  have hrefused : ((changeAll {} mixed).configure (.text "LOUD")).2 = some (.unknown "LOUD") := by rfl
  have haccepted : ((changeAll {} mixed).configure (.text "DEBUG")).2 = none := by rfl
  have hadded : othersAdded mixed = [.foreign 2, .foreign 1] := by decide
  have hlevel : (changeAll {} mixed).level = .number 20 := by rfl
  obtain ⟨hhandlers, hkept, -⟩ := configure_changeAll mixed (.text "LOUD")
  have hfault : ((changeAll {} mixed).configure (.text "LOUD")).2 ≠ none := by simp [hrefused]
  refine ⟨hrefused, ?_, ?_, haccepted, (configure_changeAll mixed (.text "DEBUG")).2.2 haccepted mixed⟩
  · rw [hhandlers, hadded]
    rfl
  · rw [(hkept hfault).1, hlevel]

end ScriptRunner.LogHub
