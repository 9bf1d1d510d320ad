import ScriptRunner.Text.Line

/-! Raw literals between three quotes. They are read from left to right: a backslash is read together with
the character after it, whatever that is, and the literal ends at the first three quotes where reading
stops. A line feed is always read whole, so what stands above it and what stands below do not mix. -/

namespace ScriptRunner.Text

def quotes : List Char := "\"\"\"".toList

/-- Characters that are read without the one that follows them: what stands behind them is not skipped. -/
inductive ReadWhole : List Char → Prop where
  | nil : ReadWhole []
  | char {c s} (hc : c ≠ '\\') (hs : ReadWhole s) : ReadWhole (c :: s)
  | pair {c s} (hs : ReadWhole s) : ReadWhole ('\\' :: c :: s)

/-- Three quotes stand somewhere in the text where they are not skipped. -/
def HasQuotes (s : List Char) : Prop := ∃ front rest, ReadWhole front ∧ s = front ++ quotes ++ rest

/-- The text, from behind the opening quotes on, is a raw literal with what follows it: the literal ends at the
first three quotes that are not skipped. -/
structure RawLiteral (s value rest : List Char) : Prop where
  eq : s = value ++ quotes ++ rest
  whole : ReadWhole value
  first : ∀ front after, ReadWhole front → s = front ++ quotes ++ after → value.length ≤ front.length

/-- Reads a raw literal from behind its opening quotes on: what it holds and what follows it, if it ends. -/
def rawLiteral? : List Char → Option (List Char × List Char)
  | [] => none
  | '\\' :: c :: rest => (rawLiteral? rest).map fun (value, after) => ('\\' :: c :: value, after)
  | '\x22' :: '\x22' :: '\x22' :: rest => some ([], rest)
  | c :: rest => (rawLiteral? rest).map fun (value, after) => (c :: value, after)

/-! ## Where a literal ends -/

theorem rawLiteral?_quotes (rest : List Char) : rawLiteral? (quotes ++ rest) = some ([], rest) := rfl

theorem rawLiteral?_pair (c : Char) (s : List Char) :
    rawLiteral? ('\\' :: c :: s) =
      (rawLiteral? s).map fun (value, after) => ('\\' :: c :: value, after) := rfl

theorem rawLiteral?_char {c : Char} {s : List Char} (hc : c ≠ '\\') (hq : ¬ quotes <+: c :: s) :
    rawLiteral? (c :: s) = (rawLiteral? s).map fun (value, after) => (c :: value, after) := by
  rw [rawLiteral?.eq_4]
  · rintro _ _ rfl
    exact absurd rfl hc
  · rintro rest rfl rfl
    exact absurd ⟨rest, rfl⟩ hq

/-- A literal holds what stands up to three quotes that are not skipped. -/
theorem readWhole_of_rawLiteral? {s value rest : List Char} (h : rawLiteral? s = some (value, rest)) :
    ReadWhole value ∧ s = value ++ quotes ++ rest := by
  fun_induction rawLiteral? s generalizing value rest with
  | case1 => cases h
  | case2 c s ih =>
      obtain ⟨⟨value, rest⟩, hs, he⟩ := Option.map_eq_some_iff.mp h
      cases he
      obtain ⟨hread, rfl⟩ := ih hs
      exact ⟨.pair hread, rfl⟩
  | case3 s =>
      cases h
      exact ⟨.nil, rfl⟩
  | case4 c s hpair _ ih =>
      obtain ⟨⟨value, rest⟩, hs, he⟩ := Option.map_eq_some_iff.mp h
      cases he
      have hc : c ≠ '\\' := by
        rintro rfl
        cases s with
        | nil => cases hs
        | cons c s => exact hpair c s rfl rfl
      obtain ⟨hread, rfl⟩ := ih hs
      exact ⟨.char hc hread, rfl⟩

/-- A literal ends no later than at any three quotes that are not skipped. -/
theorem exists_rawLiteral? {front : List Char} (h : ReadWhole front) (rest : List Char) :
    ∃ value after, rawLiteral? (front ++ quotes ++ rest) = some (value, after) ∧
      value.length ≤ front.length := by
  induction h with
  | nil => exact ⟨[], rest, rfl, Nat.le_refl _⟩
  | @char c s hc _ ih =>
      obtain ⟨value, after, hs, hlen⟩ := ih
      by_cases hq : quotes <+: c :: (s ++ quotes ++ rest)
      · obtain ⟨tail, ht⟩ := hq
        refine ⟨[], tail, ?_, Nat.zero_le _⟩
        rw [List.cons_append, List.cons_append, ← ht, rawLiteral?_quotes]
      · refine ⟨c :: value, after, ?_, Nat.succ_le_succ hlen⟩
        rw [List.cons_append, List.cons_append, rawLiteral?_char hc hq, hs]
        rfl
  | @pair c s _ ih =>
      obtain ⟨value, after, hs, hlen⟩ := ih
      refine ⟨'\\' :: c :: value, after, ?_, Nat.add_le_add_right hlen 2⟩
      simp only [List.cons_append]
      rw [rawLiteral?_pair, hs]
      rfl

/-- Reading finds the literal that the text starts with. -/
theorem rawLiteral?_eq_some_iff {s value rest : List Char} :
    rawLiteral? s = some (value, rest) ↔ RawLiteral s value rest := by
  constructor
  · intro h
    obtain ⟨hread, hs⟩ := readWhole_of_rawLiteral? h
    refine ⟨hs, hread, ?_⟩
    rintro front after hfront rfl
    obtain ⟨first, after', hfirst, hlen⟩ := exists_rawLiteral? hfront after
    cases h.symm.trans hfirst
    exact hlen
  · rintro ⟨rfl, hvalue, hfirst⟩
    obtain ⟨first, after, hs, hlen⟩ := exists_rawLiteral? hvalue rest
    obtain ⟨hread, heq⟩ := readWhole_of_rawLiteral? hs
    have hsame := Nat.le_antisymm hlen (hfirst first after hread heq)
    rw [List.append_assoc, List.append_assoc] at heq
    obtain ⟨rfl, htail⟩ := List.append_inj heq hsame.symm
    rw [hs, List.append_cancel_left htail]

theorem rawLiteral?_eq_none_iff {s : List Char} : rawLiteral? s = none ↔ ¬ HasQuotes s := by
  rw [Option.eq_none_iff_forall_ne_some, HasQuotes]
  constructor
  · rintro h ⟨front, rest, hfront, rfl⟩
    obtain ⟨value, after, hs, -⟩ := exists_rawLiteral? hfront rest
    exact h _ hs
  · rintro h ⟨value, rest⟩ hs
    exact h ⟨value, rest, readWhole_of_rawLiteral? hs⟩

/-! ## Line by line -/

/-- Quotes on one line do not reach over its end. -/
theorem quotes_prefix_of_line_feed (s : List Char) {rest : List Char} (h : quotes <+: s ++ '\n' :: rest) :
    quotes <+: s := by
  rcases s with _ | ⟨a, _ | ⟨b, _ | ⟨c, s⟩⟩⟩
  · simp [quotes] at h
  · simp [quotes] at h
  · simp [quotes] at h
  · simpa [quotes] using h

/-- A literal ends above a line feed or is read on below it, as if nothing stood above. -/
theorem rawLiteral?_line_feed (s rest : List Char) :
    rawLiteral? (s ++ '\n' :: rest) =
      match rawLiteral? s with
      | some (value, after) => some (value, after ++ '\n' :: rest)
      | none => (rawLiteral? rest).map fun (value, after) => (s ++ '\n' :: value, after) := by
  fun_induction rawLiteral? s with
  | case1 => rfl
  | case2 c s ih =>
      simp only [List.cons_append]
      rw [rawLiteral?_pair, ih]
      cases rawLiteral? s with
      | some l => rfl
      | none => cases rawLiteral? rest <;> rfl
  | case3 s => rfl
  | case4 c s hpair hquotes ih =>
      by_cases hc : c = '\\'
      · subst hc
        cases s with
        | nil => cases h : rawLiteral? rest <;> simp [rawLiteral?, h]
        | cons c s => exact absurd rfl (hpair c s rfl)
      · have hq : ¬ quotes <+: c :: (s ++ '\n' :: rest) := by
          intro h
          obtain ⟨tail, ht⟩ := quotes_prefix_of_line_feed (c :: s) h
          cases ht
          exact hquotes tail rfl rfl
        rw [List.cons_append, rawLiteral?_char hc hq, ih]
        cases rawLiteral? s with
        | some l => rfl
        | none => cases rawLiteral? rest <;> rfl

end ScriptRunner.Text
