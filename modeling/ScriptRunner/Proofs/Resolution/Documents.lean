import ScriptRunner.Proofs.Resolution.Course
import ScriptRunner.Proofs.Resolution.Written

/-! Resolution of literate documents. A document that is no text in UTF-8 is not loaded; of any other the
loader is handed the script, once. -/

namespace ScriptRunner.Resolver

open Machine

/-- A document that can be read, with its bytes. -/
structure Document (s : Source) (m : Machine) (data : Bytes) : Prop where
  extension_eq : s.extension = literateExtension
  holds : s.Holds m data

variable {r : Resolver} {s : Source} {m : Machine} {data : Bytes}

namespace Document

theorem classify_eq (h : Document s m data) (registry : Registry) :
    classify registry s = .ok (.normalize .literate) := by
  rw [classify, h.extension_eq]
  rfl

theorem holdsScript (h : Document s m data) {text : List Char} (hdecode : Utf8.decode data = .ok text) :
    HoldsScript s m (Utf8.encode (Literate.extract .python text)) :=
  .literate h.extension_eq h.holds hdecode

/-- A document that is no text in UTF-8 is not loaded. -/
theorem resolve_of_undecodable (h : Document s m data) {e : Utf8.DecodeError}
    (hdecode : Utf8.decode data = .error e) :
    (r.resolve s m).1 = .error (.undecodable e) ∧ (r.resolve s m).2.calls = m.calls := by
  have hmade : r.produce .literate s (announced s.label (.normalize .literate) m) =
      (.error (.undecodable e), announced s.label (.normalize .literate) m) := by
    have hread : s.read (announced s.label (.normalize .literate) m) = .ok data :=
      (Source.read_eq_ok_iff (m := m)).mpr h.holds
    simp only [produce, hread, Except.bind, Literate.extractBytes, hdecode, materialize]
  have hresolve : r.resolve s m =
      (.error (.undecodable e), announced s.label (.normalize .literate) m) := by
    rw [resolve_eq, h.classify_eq]
    simp only [hmade]
  rw [hresolve]
  exact ⟨rfl, (m.frame_log _).calls_eq⟩

/-- The script of a document is prepared if there is a place for a new file. -/
theorem exists_prepare (h : Document s m data) {text : List Char} (hdecode : Utf8.decode data = .ok text)
    {base path : Path} (hbase : .ofString (artifactBase m.cwd r.artifactDirectory s.stem) = base)
    (hpath : artifactPath base (r.names.token m.tree m.issued base) = path) {l : Location}
    (hlocate : m.tree.locate m.cwd .entry (.ofPath path) = .ok l) :
    ∃ a m₁, r.prepare s m = (.ok a, m₁) :=
  (h.holdsScript hdecode).exists_prepare hbase hpath hlocate

/-- What the loader is handed of a document is its script, if it is called at all. -/
theorem calls_eq (h : Document s m data) (hr : r.registry.lookup scriptExtension = none)
    {text : List Char} (hdecode : Utf8.decode data = .ok text) :
    ∃ calls, (r.resolve s m).2.calls = m.calls ++ calls ∧ calls.length ≤ 1 ∧
      (∀ call ∈ calls, call.content = some (Utf8.encode (Literate.extract .python text))) ∧
      ∀ a m₁ filename, r.prepare s m = (.ok a, m₁) →
        m.tree.realPath (.ofLocation m.cwd) s.origin = .ok filename → calls ≠ [] := by
  have hdata := h.holdsScript hdecode
  by_cases hs : r.Reaches s m
  · obtain ⟨call, hcalls, hcontent⟩ := hdata.calls_of_reaches hr hs
    exact ⟨[call], hcalls, Nat.le_refl _, by simpa using hcontent, fun _ _ _ _ _ => by simp⟩
  · refine ⟨[], by simpa using hdata.calls_of_not_reaches hr hs, Nat.zero_le _, by simp, ?_⟩
    exact fun a m₁ filename hp hreal => absurd ⟨⟨a, m₁, hp⟩, filename, hreal⟩ hs

end Document
end ScriptRunner.Resolver
