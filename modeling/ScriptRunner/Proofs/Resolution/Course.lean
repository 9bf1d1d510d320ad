import ScriptRunner.Proofs.Resolution.Pipeline

/-! The course of a resolution: the sources that it classifies one after the other. If every transpiler is
registered under its own extension, they are two at most, and the second is a script that is ready to run. -/

namespace ScriptRunner

/-- Whether every transpiler is registered under its own extension, in lower case. -/
def Registry.Keyed (registry : Registry) : Prop :=
  ∀ entry ∈ registry, entry.1 = Text.lower entry.2.extension

instance (registry : Registry) : Decidable registry.Keyed :=
  inferInstanceAs (Decidable (∀ entry ∈ registry, _))

/-- A transpiler is not for scripts, so scripts are not registered. -/
theorem Registry.Keyed.lookup_script {registry : Registry} (h : registry.Keyed) :
    registry.lookup scriptExtension = none := by
  rw [List.lookup_eq_none_iff]
  intro entry hentry
  have hne := entry.2.extension_ne
  rw [← h entry hentry] at hne
  simpa using hne.symm

namespace Resolver

open Machine

/-- A resolution: the sources that are classified, in order, and what comes of it. Each rule classifies one
source; only the last one goes on with another. -/
inductive Course (r : Resolver) : Source → Machine → List Source → Except Failure Value × Machine → Prop where
  | unrecognized {s m f} (hc : classify r.registry s = .error f) : r.Course s m [s] (.error f, m)
  | executed {s m} (hc : classify r.registry s = .ok .execute) :
      r.Course s m [s] (r.execute s (announced s.label .execute m))
  | stopped {s m n f m'} (hc : classify r.registry s = .ok (.normalize n))
      (hp : r.produce n s (announced s.label (.normalize n) m) = (.error f, m')) :
      r.Course s m [s] (.error f, m')
  | normalized {s m n a m' rest outcome m''} (hc : classify r.registry s = .ok (.normalize n))
      (hp : r.produce n s (announced s.label (.normalize n) m) = (.ok a, m'))
      (hrest : r.Course (.ofPath a.path s.origin) m' rest (outcome, m'')) :
      r.Course s m (s :: rest) (a.leave outcome m'')

variable {r : Resolver} {s : Source} {m : Machine} {sources : List Source}
  {result : Except Failure Value × Machine}

/-- The rules are those that resolutions are made by. -/
theorem Course.resolve_eq (h : r.Course s m sources result) : r.resolve s m = result := by
  induction h with
  | unrecognized hc => rw [Resolver.resolve_eq, hc]
  | executed hc => rw [Resolver.resolve_eq, hc]
  | stopped hc hp => simp only [Resolver.resolve_eq, hc, hp]
  | normalized hc hp _ ih => rw [Resolver.resolve_eq, hc]; simp only [hp, ih]

/-- The rules leave no choice. -/
theorem Course.unique {sources' : List Source} {result' : Except Failure Value × Machine}
    (h : r.Course s m sources result) (h' : r.Course s m sources' result') :
    sources' = sources ∧ result' = result := by
  refine ⟨?_, h'.resolve_eq.symm.trans h.resolve_eq⟩
  induction h generalizing sources' result' with
  | unrecognized hc =>
      cases h' with
      | unrecognized => rfl
      | executed hc' | stopped hc' | normalized hc' => cases hc.symm.trans hc'
  | executed hc =>
      cases h' with
      | executed => rfl
      | unrecognized hc' | stopped hc' | normalized hc' => cases hc.symm.trans hc'
  | stopped hc hp =>
      cases h' with
      | unrecognized hc' | executed hc' => cases hc.symm.trans hc'
      | stopped => rfl
      | normalized hc' hp' =>
          cases hc.symm.trans hc'
          cases hp.symm.trans hp'
  | normalized hc hp hrest ih =>
      cases h' with
      | unrecognized hc' | executed hc' => cases hc.symm.trans hc'
      | stopped hc' hp' =>
          cases hc.symm.trans hc'
          cases hp.symm.trans hp'
      | normalized hc' hp' hrest' =>
          cases hc.symm.trans hc'
          cases hp.symm.trans hp'
          rw [ih hrest']

/-- A source that is no script yet makes one, and a script that is made is run. -/
theorem exists_course (hr : r.registry.lookup scriptExtension = none) (s : Source) (m : Machine) :
    ∃ sources result, r.Course s m sources result ∧
      (sources = [s] ∨ ∃ second, sources = [s, second] ∧ classify r.registry second = .ok .execute) := by
  cases hc : classify r.registry s with
  | error f => exact ⟨_, _, .unrecognized hc, .inl rfl⟩
  | ok step =>
      cases step with
      | execute => exact ⟨_, _, .executed hc, .inl rfl⟩
      | normalize n =>
          rcases hp : r.produce n s (announced s.label (.normalize n) m) with ⟨f | a, m'⟩
          · exact ⟨_, _, .stopped hc hp, .inl rfl⟩
          · have hext := extension_ofPath s.origin (suffix_of_produce hp)
            have hscript := classify_of_extension_script hr hext
            exact ⟨_, _, .normalized hc hp (.executed hscript), .inr ⟨_, rfl, hscript⟩⟩

end Resolver
end ScriptRunner
