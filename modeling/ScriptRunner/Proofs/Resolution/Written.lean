import ScriptRunner.Proofs.Resolution.Meaning

/-! Resolution of sources that need no compiler. What is to be written for such a source is handed to the
loader, once, unless no file can be made for it or there is no telling which file it appears as. -/

namespace ScriptRunner.Resolver

open Machine

/-- Whether a source that needs no compiler comes as far as the loader. -/
def Reaches (r : Resolver) (s : Source) (m : Machine) : Prop :=
  (∃ a m₁, r.prepare s m = (.ok a, m₁)) ∧
    ∃ filename, m.tree.realPath (.ofLocation m.cwd) s.origin = .ok filename

variable {r : Resolver} {s : Source} {m m₁ : Machine} {data : Bytes} {a : Artifact}

/-- A source that needs no compiler is written to a new file, or nothing is changed. -/
theorem prepare_cases {n : Normalization} (hstep : classify r.registry s = .ok (.normalize n))
    (hn : ∀ t, n ≠ .transpiled t) :
    (∃ f m₁, r.prepare s m = (.error f, m₁) ∧ Frame m m₁ ∧ m₁.tree = m.tree) ∨
      ∃ a data l m₁, r.prepare s m = (.ok a, m₁) ∧ a.Created data l m m₁ ∧
        a.path = artifactPath (r.artifactStart s m.cwd)
          (r.names.token m.tree m.issued (r.artifactStart s m.cwd)) := by
  obtain ⟨data, hproduce⟩ : ∃ data, r.produce n s (announced s.label (.normalize n) m) =
      r.materialize s data (announced s.label (.normalize n) m) := by
    cases n with
    | raw | literate => exact ⟨_, rfl⟩
    | transpiled t => exact absurd rfl (hn t)
  have hframe := frame_announced s.label (.normalize n) m
  rw [prepare, hstep]
  dsimp only
  rw [hproduce]
  cases data with
  | error f => exact .inl ⟨f, _, rfl, hframe, rfl⟩
  | ok d =>
      rcases Artifact.create_cases r.names d s.stem r.artifactDirectory (announced s.label (.normalize n) m) with
        ⟨a, l, m₁, -, hcreate, hcreated, -⟩ | ⟨f, hcreate⟩
      · have hpath := Artifact.path_of_create hcreate
        rw [hframe.cwd_eq, hframe.issued_eq] at hpath
        rw [materialize, hcreate]
        exact .inr ⟨a, d, l, _, rfl, hcreated.of_frame hframe rfl (frame_announced _ _ _) rfl, hpath⟩
      · rw [materialize, hcreate]
        exact .inl ⟨f, _, rfl, hframe, rfl⟩

namespace HoldsScript

theorem read_of_prepare (h : HoldsScript s m data) (hp : r.prepare s m = (.ok a, m₁)) :
    m₁.tree.read m.cwd (.ofPath a.path) = .ok data :=
  FileTree.read_eq_ok_iff_holdsAt.mpr (h.holdsAt_of_scriptOf (scriptOf_of_prepare hp))

/-- The script is handed to the loader. -/
theorem calls_of_reaches (h : HoldsScript s m data) (hr : r.registry.lookup scriptExtension = none)
    (hs : r.Reaches s m) :
    ∃ call, (r.resolve s m).2.calls = m.calls ++ [call] ∧ call.content = some data := by
  obtain ⟨⟨a, m₁, hp⟩, filename, hreal⟩ := hs
  obtain ⟨hcwd, hcalls⟩ := calls_of_prepare hp
  have hcontent := h.read_of_prepare hp
  rw [← realPath_of_prepare hp h.idle] at hreal
  rw [← hcwd] at hreal hcontent
  refine ⟨r.callOf a.path filename m₁, ?_, by simp [callOf, hcontent, Except.toOption]⟩
  rw [resolve_of_prepare hr hp, (frame_runArtifact_execute r a s.origin m₁).calls_eq,
    show r.execute (.ofPath a.path s.origin) m₁ = _ from execute_of_realPath hreal, ← hcalls]
  exact r.calls_load a.path filename m₁

theorem calls_of_not_reaches (h : HoldsScript s m data) (hr : r.registry.lookup scriptExtension = none)
    (hs : ¬ r.Reaches s m) : (r.resolve s m).2.calls = m.calls := by
  rcases hp : r.prepare s m with ⟨f | a, m₁⟩
  · rw [resolve_of_prepare_error hr hp, (frame_of_prepare_error hp).calls_eq]
  · obtain ⟨hcwd, hcalls⟩ := calls_of_prepare hp
    have hreal := realPath_of_prepare hp h.idle (.ofLocation m.cwd) s.origin
    rw [← hcwd] at hreal
    cases hexec : m₁.tree.realPath (.ofLocation m₁.cwd) s.origin with
    | error e =>
        rw [resolve_of_prepare hr hp, (frame_runArtifact_execute r a s.origin m₁).calls_eq,
          show r.execute (.ofPath a.path s.origin) m₁ = _ from execute_of_realPath_error hexec, hcalls]
    | ok filename => exact absurd ⟨⟨a, m₁, hp⟩, filename, hcwd ▸ hreal ▸ hexec⟩ hs

end HoldsScript
end ScriptRunner.Resolver
