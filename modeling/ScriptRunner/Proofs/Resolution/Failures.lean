import ScriptRunner.Proofs.Resolution.Preparation

/-! Why a source cannot be prepared. Main statement: each failure has one of a few causes, each of them with its
own failure, and the preparation of a source fails only for such a cause. -/

namespace ScriptRunner.Resolver

open Machine

/-- Sources of this kind are given to the transpiler. -/
structure CompilesWith (r : Resolver) (s : Source) (t : Transpiler) : Prop where
  ne_raw : s.extension ≠ ""
  ne_literate : s.extension ≠ literateExtension
  lookup_eq : r.registry.lookup s.extension = some t

/-- Why there is no script: nothing is known of the format, the source cannot be read or is no text in UTF-8,
there is no place for a new file, or the compilation fails. -/
inductive FailsWith (r : Resolver) (s : Source) (m : Machine) : Failure → Prop where
  | unrecognized (hraw : s.extension ≠ "") (hdoc : s.extension ≠ literateExtension)
      (hlookup : r.registry.lookup s.extension = none) (hscript : s.extension ≠ scriptExtension) :
      FailsWith r s m (.unrecognized s.label.toString s.extension)
  | unreadable {f} (hext : s.extension = "" ∨ s.extension = literateExtension) (hread : s.Unreadable m f) :
      FailsWith r s m f
  | undecodable {document e} (hext : s.extension = literateExtension) (hdata : s.Holds m document)
      (hdecode : Utf8.decode document = .error e) : FailsWith r s m (.undecodable e)
  | uncreated {data fault} (hdata : HoldsScript s m data)
      (hplace : m.tree.locate m.cwd .entry
        (.ofPath (Artifact.newPath r.names s.stem r.artifactDirectory m)) = .error fault) :
      FailsWith r s m (.ofFault (Artifact.newText r.names s.stem r.artifactDirectory m) fault)
  | uncompiled {t f} (hkind : r.CompilesWith s t) (hf : t.FailsWith s.label m f) : FailsWith r s m f

variable {r : Resolver} {s : Source} {m m₁ : Machine} {data : Bytes} {f : Failure}

/-! ## Kinds of sources -/

theorem classify_eq_raw_iff : classify r.registry s = .ok (.normalize .raw) ↔ s.extension = "" := by
  refine ⟨extension_of_classify_raw, fun h => ?_⟩
  rw [classify, h]
  rfl

theorem classify_eq_literate_iff :
    classify r.registry s = .ok (.normalize .literate) ↔ s.extension = literateExtension := by
  refine ⟨extension_of_classify_literate, fun h => ?_⟩
  rw [classify, h]
  rfl

theorem classify_eq_transpiled_iff {t : Transpiler} :
    classify r.registry s = .ok (.normalize (.transpiled t)) ↔ r.CompilesWith s t := by
  constructor
  · intro h
    unfold classify at h
    dsimp only at h
    split at h
    · cases h
    · rename_i hraw
      split at h
      · cases h
      · rename_i hdoc
        split at h
        · rename_i t' hlookup
          cases h
          exact ⟨hraw, hdoc, hlookup⟩
        · split at h <;> cases h
  · rintro ⟨hraw, hdoc, hlookup⟩
    simp [classify, hraw, hdoc, hlookup]

theorem failsWith_of_classify (h : classify r.registry s = .error f) : r.FailsWith s m f := by
  unfold classify at h
  dsimp only at h
  split at h
  · cases h
  · rename_i hraw
    split at h
    · cases h
    · rename_i hdoc
      split at h
      · cases h
      · rename_i hlookup
        split at h
        · cases h
        · rename_i hscript
          cases h
          exact .unrecognized hraw hdoc hlookup hscript

/-! ## What fails -/

/-- The preparation fails with what keeps its one step from being taken. -/
theorem fst_prepare_eq_error_iff_produce {n : Normalization}
    (hstep : classify r.registry s = .ok (.normalize n)) :
    (r.prepare s m).1 = .error f ↔
      (r.produce n s (announced s.label (.normalize n) m)).1 = .error f := by
  rw [prepare, hstep]
  dsimp only
  rcases r.produce n s (announced s.label (.normalize n) m) with ⟨f' | a, m₁⟩ <;> simp

/-- A script that is known is not written only if there is no place for it. -/
theorem fst_materialize_eq_error_iff {n : Normalization} :
    (r.materialize s (.ok data) (announced s.label (.normalize n) m)).1 = .error f ↔
      ∃ fault, m.tree.locate m.cwd .entry
          (.ofPath (Artifact.newPath r.names s.stem r.artifactDirectory m)) = .error fault ∧
        f = .ofFault (Artifact.newText r.names s.stem r.artifactDirectory m) fault := by
  rw [materialize, fst_create_announced]
  exact Artifact.fst_create_eq_error_iff

theorem fst_produce_transpiled_eq_error_iff {t : Transpiler} {label : Path} {step : Step} :
    (r.produce (.transpiled t) s (announced label step m)).1 = .error f ↔ t.FailsWith s.label m f := by
  have hcompile : (t.compile s.label (announced label step m)).1 = .error f ↔ t.FailsWith s.label m f :=
    Transpiler.fst_compile_eq_error_iff.trans Transpiler.failsWith_log
  rw [← hcompile, produce]
  rcases t.compile s.label (announced label step m) with ⟨f' | output, m₁⟩ <;> simp

theorem failsWith_of_produce {n : Normalization} (hstep : classify r.registry s = .ok (.normalize n))
    (h : (r.produce n s (announced s.label (.normalize n) m)).1 = .error f) : r.FailsWith s m f := by
  cases n with
  | raw =>
      have hext := classify_eq_raw_iff.mp hstep
      cases hread : s.read m with
      | error f' =>
          rw [produce, show s.read (announced s.label _ m) = .error f' from hread] at h
          cases h
          exact .unreadable (.inl hext) (Source.read_eq_error_iff.mp hread)
      | ok data =>
          rw [produce, show s.read (announced s.label _ m) = .ok data from hread] at h
          obtain ⟨fault, hplace, rfl⟩ := fst_materialize_eq_error_iff.mp h
          exact .uncreated (.raw hext (Source.read_eq_ok_iff.mp hread)) hplace
  | literate =>
      have hext := classify_eq_literate_iff.mp hstep
      cases hread : s.read m with
      | error f' =>
          rw [produce, show s.read (announced s.label _ m) = .error f' from hread] at h
          cases h
          exact .unreadable (.inr hext) (Source.read_eq_error_iff.mp hread)
      | ok document =>
          have hdata := Source.read_eq_ok_iff.mp hread
          rw [produce, show s.read (announced s.label _ m) = .ok document from hread, Except.bind,
            Literate.extractBytes] at h
          cases hdecode : Utf8.decode document with
          | error e =>
              rw [hdecode] at h
              cases h
              exact .undecodable hext hdata hdecode
          | ok text =>
              rw [hdecode] at h
              obtain ⟨fault, hplace, rfl⟩ := fst_materialize_eq_error_iff.mp h
              exact .uncreated (.literate hext hdata hdecode) hplace
  | transpiled t =>
      exact .uncompiled (classify_eq_transpiled_iff.mp hstep) (fst_produce_transpiled_eq_error_iff.mp h)

theorem HoldsScript.extension_ne (h : HoldsScript s m data) : s.extension ≠ scriptExtension := by
  cases h with
  | raw hext _ | literate hext _ _ => rw [hext]; decide

/-- What is to be written for a source is what is done with it. -/
theorem HoldsScript.exists_produce (h : HoldsScript s m data) (r : Resolver) :
    ∃ n, classify r.registry s = .ok (.normalize n) ∧ (∀ t, n ≠ .transpiled t) ∧
      r.produce n s (announced s.label (.normalize n) m) =
        r.materialize s (.ok data) (announced s.label (.normalize n) m) := by
  cases h with
  | raw hext hdata =>
      have hread := Source.read_eq_ok_iff.mpr hdata
      refine ⟨.raw, classify_eq_raw_iff.mpr hext, by simp, ?_⟩
      rw [produce, show s.read (announced s.label (.normalize .raw) m) = .ok data from hread]
  | literate hext hdata hdecode =>
      have hread := Source.read_eq_ok_iff.mpr hdata
      refine ⟨.literate, classify_eq_literate_iff.mpr hext, by simp, ?_⟩
      rw [produce, show s.read (announced s.label (.normalize .literate) m) = .ok _ from hread]
      simp only [Except.bind, Literate.extractBytes, hdecode]

theorem HoldsScript.idle (h : HoldsScript s m data) (output : Path) (tool : ToolResult) :
    ¬ r.ToolRuns s m output tool := by
  obtain ⟨n, hstep, hn, -⟩ := h.exists_produce r
  exact not_toolRuns_of_classify hstep (fun t ht => hn t (Step.normalize.inj (Except.ok.inj ht))) output tool

theorem HoldsScript.unique {data' : Bytes} (h : HoldsScript s m data) (h' : HoldsScript s m data') :
    data = data' := by
  have hdiffer (hraw : s.extension = "") (hdoc : s.extension = literateExtension) : False :=
    absurd (hraw.symm.trans hdoc) (by decide)
  cases h with
  | raw hext hdata =>
      cases h' with
      | raw _ hdata' => exact hdata.unique hdata'
      | literate hext' _ _ => exact (hdiffer hext hext').elim
  | literate hext hdata hdecode =>
      cases h' with
      | raw hext' _ => exact (hdiffer hext' hext).elim
      | literate _ hdata' hdecode' =>
          cases hdata.unique hdata'
          cases hdecode.symm.trans hdecode'
          rfl

/-- Where the path of what is written for a source starts. -/
def artifactStart (r : Resolver) (s : Source) (cwd : Location) : Path :=
  .ofString (artifactBase cwd r.artifactDirectory s.stem)

/-- The script is prepared if there is a place for a new file. -/
theorem HoldsScript.exists_prepare (h : HoldsScript s m data) {base path : Path}
    (hbase : r.artifactStart s m.cwd = base)
    (hpath : artifactPath base (r.names.token m.tree m.issued base) = path) {l : Location}
    (hlocate : m.tree.locate m.cwd .entry (.ofPath path) = .ok l) :
    ∃ a m₁, r.prepare s m = (.ok a, m₁) := by
  subst hbase
  obtain ⟨n, hstep, -, hproduce⟩ := h.exists_produce r
  have hvacant := r.names.get?_eq_none _ _ _ _ _ (hpath ▸ hlocate)
  have hadd : m.tree.add m.cwd (.ofPath path) (.file data) = .ok (m.tree.set l (.file data)) :=
    FileTree.add_eq_ok_iff.mpr ⟨l, hlocate, hvacant, rfl⟩
  have hcreate : Artifact.create r.names data s.stem r.artifactDirectory
      (announced s.label (.normalize n) m) = _ := Artifact.create_of_add hpath hadd
  rw [prepare, hstep]
  dsimp only
  rw [hproduce, materialize, hcreate]
  exact ⟨_, _, rfl⟩

theorem fst_prepare_of_failsWith (h : r.FailsWith s m f) : (r.prepare s m).1 = .error f := by
  cases h with
  | unrecognized hraw hdoc hlookup hscript =>
      have hstep : classify r.registry s = .error (.unrecognized s.label.toString s.extension) := by
        simp [classify, hraw, hdoc, hlookup, hscript]
      rw [prepare, hstep]
  | unreadable hext hread =>
      have hread := Source.read_eq_error_iff.mpr hread
      rcases hext with hext | hext
      · rw [fst_prepare_eq_error_iff_produce (classify_eq_raw_iff.mpr hext), produce,
          show s.read (announced s.label _ m) = .error f from hread]
        rfl
      · rw [fst_prepare_eq_error_iff_produce (classify_eq_literate_iff.mpr hext), produce,
          show s.read (announced s.label _ m) = .error f from hread]
        rfl
  | undecodable hext hdata hdecode =>
      have hread := Source.read_eq_ok_iff.mpr hdata
      rw [fst_prepare_eq_error_iff_produce (classify_eq_literate_iff.mpr hext), produce,
        show s.read (announced s.label _ m) = .ok _ from hread]
      simp only [Except.bind, Literate.extractBytes, hdecode, materialize]
  | uncreated hdata hplace =>
      obtain ⟨n, hstep, -, hproduce⟩ := hdata.exists_produce r
      rw [fst_prepare_eq_error_iff_produce hstep, hproduce, fst_materialize_eq_error_iff]
      exact ⟨_, hplace, rfl⟩
  | uncompiled hkind hf =>
      rw [fst_prepare_eq_error_iff_produce (classify_eq_transpiled_iff.mpr hkind)]
      exact fst_produce_transpiled_eq_error_iff.mpr hf

/-- A source cannot be prepared just if there is cause for it. -/
theorem fst_prepare_eq_error_iff : (r.prepare s m).1 = .error f ↔ r.FailsWith s m f := by
  refine ⟨fun h => ?_, fst_prepare_of_failsWith⟩
  cases hstep : classify r.registry s with
  | error f' =>
      rw [prepare, hstep] at h
      cases h
      exact failsWith_of_classify hstep
  | ok step =>
      cases step with
      | execute =>
          rw [prepare, hstep] at h
          cases h
      | normalize n => exact failsWith_of_produce hstep ((fst_prepare_eq_error_iff_produce hstep).mp h)

theorem not_failsWith_of_prepare {a : Artifact} (h : r.prepare s m = (.ok a, m₁)) : ¬ r.FailsWith s m f :=
  fun hf => nomatch (congrArg Prod.fst h).symm.trans (fst_prepare_of_failsWith hf)

/-- A source whose compiler has left its output can be prepared. -/
theorem not_failsWith_of_produces {t : Transpiler} {output : Path} {tool : ToolResult}
    (hkind : r.CompilesWith s t) (htool : t.Produces s.label m output tool) : ¬ r.FailsWith s m f := by
  intro hf
  have hproduce := fst_prepare_of_failsWith hf
  rw [fst_prepare_eq_error_iff_produce (classify_eq_transpiled_iff.mpr hkind),
    fst_produce_transpiled_eq_error_iff, ← Transpiler.fst_compile_eq_error_iff] at hproduce
  obtain ⟨m₁, hcompile, -⟩ := Transpiler.compile_of_produces htool
  cases (congrArg Prod.fst hcompile).symm.trans hproduce

end ScriptRunner.Resolver
