import ScriptRunner.Proofs.Resolution.Meaning

/-! What a resolution hands to the loader and what it returns. Unless it fails before, the loader is called
once, with the words and the shell of the resolver, and nothing is returned but what the loader returns. -/

namespace ScriptRunner.Resolver

open Machine

/-- What a resolution makes of a call of the loader. -/
structure Handover (r : Resolver) (call : Call) (outcome : Except Failure Value) : Prop where
  argv_eq : call.argv = r.argv
  shell_eq : call.shell = r.shell
  returned : ∀ v, outcome = .ok v → call.content.isSome ∧ (r.loader call).outcome = .ok v

variable {r : Resolver} {s : Source} {m : Machine} {path filename : Path} {v : Value}

theorem returned_of_load (h : (r.load path filename m).1 = .ok v) :
    (r.callOf path filename m).content.isSome ∧ (r.loader (r.callOf path filename m)).outcome = .ok v := by
  cases hread : m.tree.read m.cwd (.ofPath path) with
  | error fault =>
      rw [load_of_unreadable hread] at h
      cases h
  | ok data =>
      refine ⟨by simp [callOf, hread, Except.toOption], ?_⟩
      rw [load_of_read hread] at h
      split at h
      · cases h
      · exact h

/-- The file of a script is removed without an outcome of its own, unless it cannot be. -/
theorem outcome_of_leave {a : Artifact} {outcome : Except Failure Value} (h : (a.leave outcome m).1 = .ok v) :
    outcome = .ok v := by
  unfold Artifact.leave at h
  split at h
  · split at h
    · cases h
    · exact h
  · exact h

theorem execute_cases (r : Resolver) (s : Source) (m : Machine) :
    (∃ f, (r.execute s m).1 = .error f ∧ (r.execute s m).2.calls = m.calls) ∨
      ∃ call, (r.execute s m).2.calls = m.calls ++ [call] ∧ r.Handover call (r.execute s m).1 := by
  cases hreal : m.tree.realPath (.ofLocation m.cwd) s.origin with
  | error e =>
      rw [execute_of_realPath_error hreal]
      exact .inl ⟨_, rfl, rfl⟩
  | ok filename =>
      rw [execute_of_realPath hreal]
      exact .inr ⟨_, r.calls_load s.label filename m, rfl, rfl, fun v hv => returned_of_load hv⟩

/-- A resolution fails before the loader is called, or hands over to it once. -/
theorem resolve_cases (hr : r.registry.lookup scriptExtension = none) (s : Source) (m : Machine) :
    (∃ f, (r.resolve s m).1 = .error f ∧ (r.resolve s m).2.calls = m.calls) ∨
      ∃ call, (r.resolve s m).2.calls = m.calls ++ [call] ∧ r.Handover call (r.resolve s m).1 := by
  rcases hp : r.prepare s m with ⟨f | a, m₁⟩
  · rw [resolve_of_prepare_error hr hp]
    exact .inl ⟨f, rfl, (frame_of_prepare_error hp).calls_eq⟩
  · rw [resolve_of_prepare hr hp, (frame_runArtifact_execute r a s.origin m₁).calls_eq,
      ← (calls_of_prepare hp).2]
    have hleave : ∀ v, (r.runArtifact a s.origin m₁).1 = .ok v →
        (r.execute (.ofPath a.path s.origin) m₁).1 = .ok v := fun v hv => outcome_of_leave hv
    rcases r.execute_cases (.ofPath a.path s.origin) m₁ with ⟨f, hf, hcalls⟩ | ⟨call, hcalls, hcall⟩
    · refine .inl ?_
      cases hrun : (r.runArtifact a s.origin m₁).1 with
      | error f' => exact ⟨f', rfl, hcalls⟩
      | ok v => cases hf.symm.trans (hleave v hrun)
    · exact .inr ⟨call, hcalls, hcall.argv_eq, hcall.shell_eq, fun v hv => hcall.returned v (hleave v hv)⟩

end ScriptRunner.Resolver
