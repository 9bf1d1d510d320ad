import ScriptRunner.Settings

/-! Settings that are overridden. In each field the last value that was given counts, so overriding twice is as
good as overriding once with both, and what is refused in one of the two is refused in both together. -/

namespace ScriptRunner

namespace Overrides

/-- No name is given twice. -/
def NamesOnce (o : Overrides) : Prop := (o.map Prod.fst).Nodup

instance (o : Overrides) : Decidable o.NamesOnce := inferInstanceAs (Decidable (o.map Prod.fst).Nodup)

/-- What is given by the second overrides, and by the first ones if it is not given by the second. -/
def merge (a b : Overrides) : Overrides :=
  b.filter (fun e => !e.2.isNull) ++ a.filter fun e => (b.value? e.1).isNone

variable {a b o : Overrides} {name : String}

theorem mem_of_value? {v : Value} (h : o.value? name = some v) : (name, v) ∈ o ∧ v.isNull = false := by
  obtain ⟨hlookup, hv⟩ := Option.filter_eq_some_iff.mp h
  obtain ⟨front, rest, rfl, -⟩ := List.lookup_eq_some_iff.mp hlookup
  exact ⟨by simp, by simpa using hv⟩

theorem lookup_cons_of_ne {key : String} (h : name ≠ key) (v : Value) (o : Overrides) :
    List.lookup name ((key, v) :: o) = o.lookup name := by
  rw [List.lookup_cons, beq_false_of_ne h]

theorem lookup_filter_given (ho : o.NamesOnce) (name : String) :
    (o.filter fun e => !e.2.isNull).lookup name = o.value? name := by
  induction o with
  | nil => rfl
  | cons e o ih =>
      obtain ⟨key, v⟩ := e
      obtain ⟨hkey, hrest⟩ := List.nodup_cons.mp ho
      by_cases hname : name = key
      · subst hname
        cases hv : v.isNull with
        | true =>
            -- A null is no value, and no other entry has this name.
            have hnone : o.lookup name = none := List.lookup_eq_none_iff.mpr fun e he =>
              bne_iff_ne.mpr fun h => hkey (List.mem_map.mpr ⟨e, he, h.symm⟩)
            rw [List.filter_cons_of_neg (by simp [hv]), ih hrest, value?, hnone, value?, List.lookup_cons_self]
            simp [Option.filter, hv]
        | false => rw [List.filter_cons_of_pos (by simp [hv]), List.lookup_cons_self, value?_cons_self hv]
      · rw [value?_cons_of_ne hname, ← ih hrest, List.filter_cons]
        split
        · rw [lookup_cons_of_ne hname]
        · rfl

theorem lookup_filter_names (p : String → Bool) (o : Overrides) (name : String) :
    (o.filter fun e => p e.1).lookup name = if p name then o.lookup name else none := by
  induction o with
  | nil => simp
  | cons e o ih =>
      obtain ⟨key, v⟩ := e
      by_cases hname : name = key
      · subst hname
        cases hp : p name with
        | true => simp [hp]
        | false => simpa [hp] using ih
      · rw [lookup_cons_of_ne hname, ← ih, List.filter_cons]
        split
        · rw [lookup_cons_of_ne hname]
        · rfl

theorem mem_merge_left {e : String × Value} (he : e ∈ a) (hnone : b.value? e.1 = none) : e ∈ merge a b := by
  simp [merge, he, hnone]

theorem mem_merge_right {e : String × Value} (he : e ∈ b) (hv : e.2.isNull = false) : e ∈ merge a b := by
  simp [merge, he, hv]

theorem mem_of_merge {e : String × Value} (he : e ∈ merge a b) : e ∈ b ∨ e ∈ a := by
  simp only [merge, List.mem_append, List.mem_filter] at he
  exact he.imp And.left And.left

theorem lookup_merge_eq_none (ha : a.lookup name = none) (hb : b.lookup name = none) :
    (merge a b).lookup name = none := by
  rw [List.lookup_eq_none_iff] at *
  intro e he
  exact (mem_of_merge he).elim (hb e) (ha e)

theorem value?_merge (hb : b.NamesOnce) (name : String) :
    (merge a b).value? name = (b.value? name).or (a.value? name) := by
  rw [value?, merge, List.lookup_append, lookup_filter_given hb,
    lookup_filter_names fun key => (b.value? key).isNone]
  cases hvalue : b.value? name with
  | none => simp [value?]
  | some v => simp [Option.filter, (mem_of_value? hvalue).2]

end Overrides

namespace Settings

open Overrides

variable {a b o : Overrides} {s s₁ s₂ s' : Settings} {level level₁ level₂ : Option String} {name : String}

/-! ## Overriding once -/

/-- The first entry with a value for a field that there is not. -/
def unknown? (o : Overrides) : Option (String × Value) :=
  o.find? fun e => !e.2.isNull && !fields.contains e.1

theorem unknown?_eq_none_iff : unknown? o = none ↔ ∀ e ∈ o, e.2.isNull = false → e.1 ∈ fields := by
  simp [unknown?]

/-- Settings take overrides, with a level if one is given. -/
structure Takes (o : Overrides) (level : Option String) : Prop where
  unreserved : o.lookup "self" = none
  level_eq : levelOf o = .ok level
  known : unknown? o = none

theorem override_of_takes (h : Takes o level) (s : Settings) : s.override o = .ok (s.put o level) := by
  have hknown := h.known
  unfold unknown? at hknown
  rw [override, h.unreserved, h.level_eq]
  simp only [hknown]
  rfl

/-- Overrides are refused in one of three ways or taken. -/
theorem override_cases (s : Settings) (o : Overrides) :
    s.override o = .error .reservedName ∨ (∃ v, s.override o = .error (.levelNotText v)) ∨
      (∃ e, unknown? o = some e ∧ s.override o = .error (.unknownField e.1)) ∨
      ∃ level, Takes o level ∧ s.override o = .ok (s.put o level) := by
  cases hself : o.lookup "self" with
  | some v =>
      refine .inl ?_
      rw [override, hself]
      rfl
  | none =>
      cases hlevel : levelOf o with
      | error fault =>
          obtain ⟨v, rfl⟩ : ∃ v, fault = .levelNotText v := by
            unfold levelOf at hlevel
            split at hlevel <;> cases hlevel
            exact ⟨_, rfl⟩
          refine .inr (.inl ⟨v, ?_⟩)
          rw [override, hself, hlevel]
          rfl
      | ok level =>
          cases hknown : unknown? o with
          | some e =>
              refine .inr (.inr (.inl ⟨e, rfl, ?_⟩))
              unfold unknown? at hknown
              rw [override, hself, hlevel]
              simp only [hknown]
              rfl
          | none =>
              have htakes : Takes o level := ⟨hself, hlevel, hknown⟩
              exact .inr (.inr (.inr ⟨level, htakes, override_of_takes htakes s⟩))

theorem exists_takes_of_override (h : s.override o = .ok s') : ∃ level, Takes o level ∧ s' = s.put o level := by
  rcases override_cases s o with hr | ⟨v, hr⟩ | ⟨e, -, hr⟩ | ⟨level, htakes, hr⟩
  · cases h.symm.trans hr
  · cases h.symm.trans hr
  · cases h.symm.trans hr
  · exact ⟨level, htakes, Except.ok.inj (h.symm.trans hr)⟩

theorem unknown?_ne_none (h : s.override o = .error (.unknownField name)) : unknown? o ≠ none := by
  rcases override_cases s o with hr | ⟨v, hr⟩ | ⟨e, hknown, -⟩ | ⟨level, -, hr⟩
  · cases h.symm.trans hr
  · cases h.symm.trans hr
  · simp [hknown]
  · cases h.symm.trans hr

theorem exists_error_of_unknown (s : Settings) (h : unknown? o ≠ none) :
    ∃ fault, s.override o = .error fault := by
  rcases override_cases s o with hr | ⟨v, hr⟩ | ⟨e, -, hr⟩ | ⟨level, htakes, -⟩
  · exact ⟨_, hr⟩
  · exact ⟨_, hr⟩
  · exact ⟨_, hr⟩
  · exact absurd htakes.known h

/-! ## Fields -/

/-- The value of the field with a name. -/
def field? (s : Settings) (name : String) : Option Value :=
  List.lookup name [("shell", s.shell), ("prefix", s.commandPrefix), ("quiet", s.quiet), ("tmpdir", s.tempDir),
    ("log_level", .text s.logLevel)]

/-- What becomes of a value that is given for a field: a level is put into capitals. -/
def stored (name : String) (v : Value) : Value :=
  match v with
  | .text text => if name = "log_level" then .text (Text.upper text) else v
  | _ => v

theorem stored_of_ne (h : name ≠ "log_level") (v : Value) : stored name v = v := by
  unfold stored
  split
  · exact if_neg h
  · rfl

theorem getD_eq_stored (h : name ≠ "log_level") (found : Option Value) (v : Value) :
    some (found.getD v) = (found.map (stored name)).or (some v) := by
  cases found with
  | none => rfl
  | some w => rw [Option.map_some, stored_of_ne h, Option.some_or, Option.getD_some]

theorem field?_put (hlevel : levelOf o = .ok level) (hname : name ∈ fields) (s : Settings) :
    (s.put o level).field? name = ((o.value? name).map (stored name)).or (s.field? name) := by
  simp only [fields, List.mem_cons, List.mem_nil_iff, or_false] at hname
  rcases hname with rfl | rfl | rfl | rfl | rfl
  · exact getD_eq_stored (by decide) (o.value? "shell") s.shell
  · exact getD_eq_stored (by decide) (o.value? "prefix") s.commandPrefix
  · exact getD_eq_stored (by decide) (o.value? "quiet") s.quiet
  · exact getD_eq_stored (by decide) (o.value? "tmpdir") s.tempDir
  · show some (Value.text (level.getD s.logLevel)) = _
    unfold levelOf at hlevel
    split at hlevel
    · rename_i hvalue
      cases hlevel
      rw [hvalue]
      rfl
    · rename_i text hvalue
      cases hlevel
      rw [hvalue]
      rfl
    · cases hlevel

theorem field?_eq_none (hname : name ∉ fields) (s : Settings) : s.field? name = none := by
  rw [field?, List.lookup_eq_none_iff]
  simpa [fields] using hname

theorem field?_override (h : s.override o = .ok s') (hname : name ∈ fields) :
    s'.field? name = ((o.value? name).map (stored name)).or (s.field? name) := by
  obtain ⟨level, htakes, rfl⟩ := exists_takes_of_override h
  exact field?_put htakes.level_eq hname s

/-- A field for which no value is given stays as it was. -/
theorem field?_override_of_none (h : s.override o = .ok s') (hnone : o.value? name = none) :
    s'.field? name = s.field? name := by
  by_cases hname : name ∈ fields
  · rw [field?_override h hname, hnone]
    rfl
  · rw [field?_eq_none hname, field?_eq_none hname]

/-! ## Overriding twice -/

theorem unknown?_merge_eq_none_iff : unknown? (merge a b) = none ↔ unknown? a = none ∧ unknown? b = none := by
  simp only [unknown?_eq_none_iff]
  constructor
  · intro h
    have hsecond : ∀ e ∈ b, e.2.isNull = false → e.1 ∈ fields := fun e he hv => h e (mem_merge_right he hv) hv
    refine ⟨fun e he hv => ?_, hsecond⟩
    cases hvalue : b.value? e.1 with
    | none => exact h e (mem_merge_left he hvalue) hv
    | some v => exact hsecond (e.1, v) (mem_of_value? hvalue).1 (mem_of_value? hvalue).2
  · rintro ⟨hfirst, hsecond⟩ e he
    rcases mem_of_merge he with he | he
    · exact hsecond e he
    · exact hfirst e he

theorem levelOf_merge (hb : b.NamesOnce) (hfirst : levelOf a = .ok level₁) (hsecond : levelOf b = .ok level₂) :
    levelOf (merge a b) = .ok (level₂.or level₁) := by
  unfold levelOf at *
  rw [value?_merge hb]
  cases hvalue : b.value? "log_level" with
  | none =>
      rw [hvalue] at hsecond
      cases hsecond
      exact hfirst
  | some v =>
      rw [hvalue] at hsecond
      cases v with
      | text level =>
          cases hsecond
          rfl
      | null | bool _ | int _ | float _ | list _ | record _ => cases hsecond

theorem put_merge (hb : b.NamesOnce) (s : Settings) (level₁ level₂ : Option String) :
    s.put (merge a b) (level₂.or level₁) = (s.put a level₁).put b level₂ := by
  simp only [put, value?_merge hb, Option.getD_or]

theorem Takes.merge (hb : b.NamesOnce) (hfirst : Takes a level₁) (hsecond : Takes b level₂) :
    Takes (merge a b) (level₂.or level₁) where
  unreserved := lookup_merge_eq_none hfirst.unreserved hsecond.unreserved
  level_eq := levelOf_merge hb hfirst.level_eq hsecond.level_eq
  known := unknown?_merge_eq_none_iff.mpr ⟨hfirst.known, hsecond.known⟩

/-- Overriding twice is as good as overriding once with what was given last. -/
theorem override_merge (hb : b.NamesOnce) (s : Settings) :
    (∀ s₁ s₂, s.override a = .ok s₁ → s₁.override b = .ok s₂ →
      s.override (merge a b) = .ok s₂ ∧
        ∀ name, a.value? name = none → b.value? name = none → s₂.field? name = s.field? name) ∧
      ∀ name, (s.override a = .error (.unknownField name) ∨
        ∃ s₁ : Settings, s₁.override b = .error (.unknownField name)) →
          ∃ fault, s.override (merge a b) = .error fault := by
  refine ⟨fun s₁ s₂ hfirst hsecond => ⟨?_, fun name ha hb => ?_⟩, fun name h => ?_⟩
  · obtain ⟨level₁, htakes₁, rfl⟩ := exists_takes_of_override hfirst
    obtain ⟨level₂, htakes₂, rfl⟩ := exists_takes_of_override hsecond
    rw [override_of_takes (htakes₁.merge hb htakes₂), put_merge hb]
  · rw [field?_override_of_none hsecond hb, field?_override_of_none hfirst ha]
  · refine exists_error_of_unknown s fun hknown => ?_
    obtain ⟨ha, hb⟩ := unknown?_merge_eq_none_iff.mp hknown
    rcases h with h | ⟨s₁, h⟩
    · exact unknown?_ne_none h ha
    · exact unknown?_ne_none h hb

/-- A shell, a level, and no directory. -/
def zsh : Overrides := [("shell", .text "/bin/zsh"), ("log_level", .text "info"), ("tmpdir", .null)]

/-- Another level, no shell, and a number where a truth value is expected. -/
def louder : Overrides := [("log_level", .text "debug"), ("shell", .null), ("quiet", .int 1)]

/-- The second level counts and the first shell, no directory is given, and a name that is no field is refused
in both together. -/
theorem override_merge_louder :
    louder.NamesOnce ∧
      override {} (merge zsh louder) =
        .ok { shell := .text "/bin/zsh", quiet := .int 1, logLevel := "DEBUG" } ∧
      field? { shell := .text "/bin/zsh", quiet := .int 1, logLevel := "DEBUG" } "tmpdir" = field? {} "tmpdir" ∧
      ∃ fault, override {} (merge (("colour", .bool true) :: zsh) louder) = .error fault := by
  have hb : louder.NamesOnce := by decide
  have hfirst : override {} zsh = .ok { shell := .text "/bin/zsh", logLevel := "INFO" } := by rfl
  have hsecond : override { shell := .text "/bin/zsh", logLevel := "INFO" } louder =
      .ok { shell := .text "/bin/zsh", quiet := .int 1, logLevel := "DEBUG" } := by rfl
  have hcolour : override {} (("colour", .bool true) :: zsh) = .error (.unknownField "colour") := by rfl
  obtain ⟨htwice, hkept⟩ := (override_merge hb {}).1 _ _ hfirst hsecond
  exact ⟨hb, htwice, hkept "tmpdir" rfl rfl, (override_merge hb {}).2 "colour" (.inl hcolour)⟩

/-! ## Overriding any number of times -/

/-- The settings under overrides, one after the other. -/
def overrideAll (s : Settings) (os : List Overrides) : Except OverrideFault Settings := os.foldlM override s

/-- The value that is given last for a field. -/
def lastGiven (os : List Overrides) (name : String) : Option Value := os.reverse.findSome? (·.value? name)

theorem lastGiven_cons (o : Overrides) (os : List Overrides) (name : String) :
    lastGiven (o :: os) name = (lastGiven os name).or (o.value? name) := by
  simp [lastGiven, List.findSome?_append]

/-- In each field is the last value that was given, and what was there before if none was. -/
theorem field?_overrideAll {os : List Overrides} (h : s.overrideAll os = .ok s') (hname : name ∈ fields) :
    s'.field? name = ((lastGiven os name).map (stored name)).or (s.field? name) := by
  induction os generalizing s with
  | nil =>
      cases h
      rfl
  | cons o os ih =>
      rw [overrideAll, List.foldlM_cons] at h
      cases hover : s.override o with
      | error fault =>
          rw [hover] at h
          cases h
      | ok s₁ =>
          rw [hover] at h
          rw [ih h, field?_override hover hname, lastGiven_cons]
          cases lastGiven os name <;> rfl

end Settings
end ScriptRunner
