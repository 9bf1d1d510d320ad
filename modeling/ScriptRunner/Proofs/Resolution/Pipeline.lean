import ScriptRunner.Resolver
import ScriptRunner.Proofs.Compilation.Runs

/-! Resolution as three stages: a script is prepared, run, and removed if it was made for the run. A registry
that has nothing to do with scripts lets every source take one step of normalization at most. -/

namespace ScriptRunner

theorem Path.stem_ne_empty {p : Path} (h : p.name ≠ "") : p.stem ≠ "" := by
  have hname : p.name.toList ≠ [] := by simpa using h
  intro hs
  have hfront : (splitSuffix p.name.toList).1 = [] := by
    simpa [Path.stem] using congrArg String.toList hs
  unfold splitSuffix at hfront
  dsimp only at hfront
  split at hfront
  · exact hname hfront
  · simp_all

theorem Transpiler.suffix_of_outputPath {source output : Path}
    (h : Transpiler.outputPath source = .ok output) : output.suffix = scriptExtension := by
  unfold outputPath Path.withSuffix? at h
  by_cases hn : source.name = ""
  · rw [if_pos hn] at h
    cases h
  · rw [if_neg hn] at h
    rw [← Except.ok.inj h]
    have hstem : source.stem.toList ≠ [] := by simpa using Path.stem_ne_empty hn
    have hname : (source.parent.child (source.stem ++ scriptExtension)).name =
        String.ofList (source.stem.toList ++ '.' :: "py".toList) := by
      simp [scriptExtension]
    exact Path.suffix_of_name hname hstem (by decide) (by decide)

theorem extension_ofPath {p : Path} (origin : Path) (h : p.suffix = scriptExtension) :
    (Source.ofPath p origin).extension = scriptExtension := by
  have hlower : Text.lower scriptExtension = scriptExtension := by decide
  simp [Source.extension, Source.ofPath, h, hlower]

theorem classify_of_extension_script {registry : Registry} {s : Source}
    (hr : registry.lookup scriptExtension = none) (h : s.extension = scriptExtension) :
    classify registry s = .ok .execute := by
  simp only [classify, h, hr]
  rfl

namespace Resolver

/-- The machine when it is logged what is to be done next. -/
def announced (label : Path) (step : Step) (m : Machine) : Machine :=
  m.log (label.toString ++ " -> " ++ step.name)

/-- The script that a source is run as, with the machine that it is run on. A source that is a script
already stays where it is; any other is normalized once. -/
def prepare (r : Resolver) (s : Source) (m : Machine) : Except Failure Artifact × Machine :=
  match classify r.registry s with
  | .error e => (.error e, m)
  | .ok .execute => (.ok ⟨s.label, false⟩, announced s.label .execute m)
  | .ok (.normalize n) =>
    match r.produce n s (announced s.label (.normalize n) m) with
    | (.error e, m) => (.error e, m)
    | (.ok a, m) => (.ok a, announced a.path .execute m)

theorem suffix_of_produce {r : Resolver} {n : Normalization} {s : Source} {m m' : Machine}
    {a : Artifact} (h : r.produce n s m = (.ok a, m')) : a.path.suffix = scriptExtension := by
  cases n with
  | raw => exact (suffix_of_materialize h).1
  | literate => exact (suffix_of_materialize h).1
  | transpiled t =>
      unfold produce at h
      dsimp only at h
      split at h
      · rename_i output m₁ hc
        obtain ⟨tool, hp, -⟩ := Transpiler.produces_of_compile hc
        rw [← Except.ok.inj (Prod.mk.inj h).1]
        exact Transpiler.suffix_of_outputPath hp.output_eq
      · cases (Prod.mk.inj h).1

/-- Runs a script as the file that it appears as, and removes it if it was made for that. -/
def runArtifactWith (r : Resolver) (loader : Loader) (a : Artifact) (origin : Path) (m : Machine) :
    Except Failure Value × Machine :=
  let (outcome, m) := r.executeWith loader (.ofPath a.path origin) m
  a.leave outcome m

def runArtifact (r : Resolver) : Artifact → Path → Machine → Except Failure Value × Machine :=
  r.runArtifactWith r.behave

/-- What a resolution does, without the reasons for which it ends. -/
theorem resolveWith_eq (r : Resolver) (loader : Loader) (s : Source) (m : Machine) :
    r.resolveWith loader s m =
      match classify r.registry s with
      | .error f => (.error f, m)
      | .ok .execute => r.executeWith loader s (announced s.label .execute m)
      | .ok (.normalize n) =>
        match r.produce n s (announced s.label (.normalize n) m) with
        | (.error f, m) => (.error f, m)
        | (.ok a, m) =>
          let (outcome, m) := r.resolveWith loader (.ofPath a.path s.origin) m
          a.leave outcome m := by
  rw [resolveWith]
  split
  · rename_i f hc
    rw [hc]
  · rename_i hc
    rw [hc]
    rfl
  · rename_i n hc
    simp only [hc]
    split
    · rename_i f m₁ hp
      rw [announced, hp]
    · rename_i a m₁ hp
      rw [announced, hp]

theorem resolve_eq (r : Resolver) (s : Source) (m : Machine) :
    r.resolve s m =
      match classify r.registry s with
      | .error f => (.error f, m)
      | .ok .execute => r.execute s (announced s.label .execute m)
      | .ok (.normalize n) =>
        match r.produce n s (announced s.label (.normalize n) m) with
        | (.error f, m) => (.error f, m)
        | (.ok a, m) =>
          let (outcome, m) := r.resolve (.ofPath a.path s.origin) m
          a.leave outcome m :=
  r.resolveWith_eq r.behave s m

section Prepared

variable {r : Resolver} {loader : Loader} {s : Source} {m m₁ : Machine}

/-- A registry that has nothing to do with scripts lets a resolution stop after one normalization. -/
theorem resolveWith_eq_prepare (hr : r.registry.lookup scriptExtension = none) (loader : Loader)
    (s : Source) (m : Machine) :
    r.resolveWith loader s m =
      match r.prepare s m with
      | (.error e, m) => (.error e, m)
      | (.ok a, m) => r.runArtifactWith loader a s.origin m := by
  rw [resolveWith_eq, prepare]
  cases hc : classify r.registry s with
  | error f => rfl
  | ok step =>
      cases step with
      | execute => rfl
      | normalize n =>
          rcases hp : r.produce n s (announced s.label (.normalize n) m) with ⟨f | a, m₁⟩
          · simp only [hp]
          · have hext := extension_ofPath s.origin (suffix_of_produce hp)
            simp only [hp]
            rw [resolveWith_eq, classify_of_extension_script hr hext]
            rfl

theorem resolveWith_of_prepare_error {f : Failure} (hr : r.registry.lookup scriptExtension = none)
    (h : r.prepare s m = (.error f, m₁)) : r.resolveWith loader s m = (.error f, m₁) := by
  rw [resolveWith_eq_prepare hr, h]

theorem resolveWith_of_prepare {a : Artifact} (hr : r.registry.lookup scriptExtension = none)
    (h : r.prepare s m = (.ok a, m₁)) :
    r.resolveWith loader s m = r.runArtifactWith loader a s.origin m₁ := by
  rw [resolveWith_eq_prepare hr, h]

theorem resolve_of_prepare_error {f : Failure} (hr : r.registry.lookup scriptExtension = none)
    (h : r.prepare s m = (.error f, m₁)) : r.resolve s m = (.error f, m₁) :=
  resolveWith_of_prepare_error hr h

theorem resolve_of_prepare {a : Artifact} (hr : r.registry.lookup scriptExtension = none)
    (h : r.prepare s m = (.ok a, m₁)) : r.resolve s m = r.runArtifact a s.origin m₁ :=
  resolveWith_of_prepare hr h

end Prepared

end Resolver
end ScriptRunner
