import Mathlib.Data.List.TakeWhile
import ScriptRunner.CommandLine.ScriptArgument
import ScriptRunner.Proofs.Text.Utf8

/-! Paths quoted in file URLs. Each byte of a path is written as its own character or as a percent sign and two
digits. However that is chosen the URL names the path, whatever characters the path has. -/

namespace ScriptRunner

namespace FileUrl

open Text (hexDigits hexValue?)

/-- Whether a character of a URL belongs to its path and stands for itself there. -/
def isPlain (c : Char) : Bool :=
  c.toNat < 128 && !dropped c && c ≠ '%' && c ≠ '?' && c ≠ '#'

/-- A text has bytes written in it, one after the other, each in one of the two ways. -/
inductive Quotes : List Char → Bytes → Prop where
  | nil : Quotes [] []
  | plain {c : Char} {s : List Char} {bytes : Bytes} (hc : isPlain c = true) (h : Quotes s bytes) :
      Quotes (c :: s) (c.toNat.toUInt8 :: bytes)
  | number {a b : Char} {high low : Nat} {s : List Char} {bytes : Bytes} (ha : hexValue? a = some high)
      (hb : hexValue? b = some low) (h : Quotes s bytes) :
      Quotes ('%' :: a :: b :: s) ((16 * high + low).toUInt8 :: bytes)

theorem isPlain_iff {c : Char} :
    isPlain c = true ↔ c.toNat < 128 ∧ dropped c = false ∧ c ≠ '%' ∧ c ≠ '?' ∧ c ≠ '#' := by
  simp [isPlain, and_assoc]

theorem toNat_lt_of_hexValue? {c : Char} {n : Nat} (h : hexValue? c = some n) : c.toNat < 128 := by
  refine Nat.lt_of_not_ge fun hc => ?_
  have habove : ∀ d : Char, d.toNat < 128 → ¬ c ≤ d := fun d hd hle =>
    Nat.not_lt_of_ge hc (Nat.lt_of_le_of_lt hle hd)
  have hnone : hexValue? c = none := by
    simp [hexValue?, habove '9' (by decide), habove 'f' (by decide), habove 'F' (by decide)]
  rw [hnone] at h
  cases h

theorem isPlain_of_hexValue? {c : Char} {n : Nat} (h : hexValue? c = some n) : isPlain c = true := by
  have hall : ∀ m < 128, hexValue? (Char.ofNat m) ≠ none → isPlain (Char.ofNat m) = true := by decide
  have hc := hall c.toNat (toNat_lt_of_hexValue? h)
  rw [c.ofNat_toNat] at hc
  exact hc (by simp [h])

namespace Quotes

variable {s : List Char} {bytes : Bytes}

theorem eq_or_isPlain (h : Quotes s bytes) {c : Char} (hc : c ∈ s) : c = '%' ∨ isPlain c = true := by
  induction h with
  | nil => cases hc
  | plain hplain _ ih =>
      rcases List.mem_cons.mp hc with rfl | hc
      · exact .inr hplain
      · exact ih hc
  | number ha hb _ ih =>
      simp only [List.mem_cons] at hc
      rcases hc with rfl | rfl | rfl | hc
      · exact .inl rfl
      · exact .inr (isPlain_of_hexValue? ha)
      · exact .inr (isPlain_of_hexValue? hb)
      · exact ih hc

theorem toNat_lt (h : Quotes s bytes) {c : Char} (hc : c ∈ s) : c.toNat < 128 := by
  rcases h.eq_or_isPlain hc with rfl | hplain
  · decide
  · exact (isPlain_iff.mp hplain).1

theorem quotedPath_eq (h : Quotes s bytes) : quotedPath s = s := by
  have hkept : ∀ c ∈ s, (!dropped c) = true := by
    intro c hc
    rcases h.eq_or_isPlain hc with rfl | hplain
    · decide
    · simp [(isPlain_iff.mp hplain).2.1]
  have hpath : ∀ c ∈ s, (decide (c ≠ '?') && decide (c ≠ '#')) = true := by
    intro c hc
    rcases h.eq_or_isPlain hc with rfl | hplain
    · decide
    · simp [isPlain_iff.mp hplain]
  rw [quotedPath, List.filter_eq_self.mpr hkept]
  exact List.takeWhile_eq_self_iff.mpr hpath

theorem percentBytes_eq (h : Quotes s bytes) : percentBytes s = bytes := by
  induction h with
  | nil => rfl
  | @plain c s bytes hplain _ ih =>
      have hc : c ≠ '%' := (isPlain_iff.mp hplain).2.2.1
      rw [percentBytes, ih]
      exact fun _ _ _ he => absurd he hc
  | number ha hb _ ih => rw [percentBytes, ha, hb, ih]

end Quotes

/-! ## Reading -/

theorem unquoteAfter_of_ascii {s : List Char} (h : ∀ c ∈ s, c.toNat < 128) (run : List Char) :
    unquoteAfter run s = Utf8.decodeLossy none (percentBytes (run.reverse ++ s)) := by
  induction s generalizing run with
  | nil => rw [unquoteAfter, List.append_nil]
  | cons c s ih =>
      rw [unquoteAfter, if_pos (h c List.mem_cons_self), ih (fun d hd => h d (List.mem_cons_of_mem _ hd)),
        List.reverse_cons, List.append_assoc, List.singleton_append]

/-- Whatever way the bytes of a text are written, the text is read from them. -/
theorem unquote_of_quotes {s text : List Char} (h : Quotes s (Utf8.encode text)) : unquote s = text := by
  rw [unquote, unquoteAfter_of_ascii (fun _ hc => h.toNat_lt hc), List.reverse_nil, List.nil_append,
    h.percentBytes_eq, Utf8.decodeLossy_encode]

/-- What every file URL without a host starts with, up to the slash of its path. -/
def scheme : List Char := "file://".toList

theorem path?_of_quotes {s text : List Char} (h : Quotes s (Utf8.encode text)) (hslash : s.head? = some '/') :
    path? (scheme ++ s) = some text := by
  obtain ⟨rest, rfl⟩ := List.head?_eq_some_iff.mp hslash
  have hstart : (scheme ++ ['/']).isPrefixOf (scheme ++ '/' :: rest) = true := by
    rw [List.isPrefixOf_iff_prefix]
    exact ⟨rest, by simp⟩
  rw [path?]
  show (if (scheme ++ ['/']).isPrefixOf (scheme ++ '/' :: rest) then
    some (unquote (quotedPath ((scheme ++ '/' :: rest).drop scheme.length))) else none) = _
  rw [if_pos hstart, List.drop_left, h.quotedPath_eq, unquote_of_quotes h]

/-! ## Writing -/

/-- The characters that are never written by number. -/
def isUnreserved (c : Char) : Bool :=
  c.isAlphanum || ['_', '.', '-', '~', '/'].contains c

def quoteByte (b : UInt8) : List Char :=
  let c := Char.ofNat b.toNat
  if isUnreserved c then [c] else '%' :: (hexDigits 2 b.toNat).map Char.toUpper

def quote (text : List Char) : List Char := (Utf8.encode text).flatMap quoteByte

/-- The file URL of a path that starts with a slash. -/
def ofPath (p : String) : String := String.ofList (scheme ++ quote p.toList)

theorem isPlain_of_isUnreserved (b : UInt8) (h : isUnreserved (Char.ofNat b.toNat) = true) :
    isPlain (Char.ofNat b.toNat) = true := by
  have hall : ∀ n < 256, isUnreserved (Char.ofNat n) = true → isPlain (Char.ofNat n) = true := by
    decide +kernel
  exact hall b.toNat b.toNat_lt h

theorem hexValue?_toUpper_digitChar {n : Nat} (h : n < 16) : hexValue? (n.digitChar).toUpper = some n := by
  have hall : ∀ m < 16, hexValue? (m.digitChar).toUpper = some m := by decide
  exact hall n h

theorem quotes_quoteByte_append (b : UInt8) {s : List Char} {bytes : Bytes} (h : Quotes s bytes) :
    Quotes (quoteByte b ++ s) (b :: bytes) := by
  have hb : b.toNat < 256 := b.toNat_lt
  unfold quoteByte
  dsimp only
  split
  · rename_i hplain
    have hc : (Char.ofNat b.toNat).toNat = b.toNat := Utf8.toNat_ofNat (.inl (by omega))
    have hself : (Char.ofNat b.toNat).toNat.toUInt8 = b := Utf8.toUInt8_of_eq hc
    have hquotes := h.plain (isPlain_of_isUnreserved b hplain)
    rwa [hself] at hquotes
  · have hself : (16 * (b.toNat / 16 % 16) + b.toNat % 16).toUInt8 = b := Utf8.toUInt8_of_eq (by omega)
    have hquotes := h.number (hexValue?_toUpper_digitChar (Nat.mod_lt (b.toNat / 16) (by decide)))
      (hexValue?_toUpper_digitChar (Nat.mod_lt b.toNat (by decide)))
    rwa [hself] at hquotes

theorem quotes_quote (text : List Char) : Quotes (quote text) (Utf8.encode text) := by
  rw [quote]
  induction Utf8.encode text with
  | nil => exact .nil
  | cons b bytes ih =>
      rw [List.flatMap_cons]
      exact quotes_quoteByte_append b ih

theorem head?_quote {text : List Char} (h : text.head? = some '/') : (quote text).head? = some '/' := by
  obtain ⟨rest, rfl⟩ := List.head?_eq_some_iff.mp h
  rfl

end FileUrl

namespace CommandLine

open FileUrl

variable (t : FileTree) (cwd : Path)

theorem scriptPath_of_path? {arg : String} {text : List Char} (h : path? arg.toList = some text) :
    scriptPath t cwd arg = .ok (.ofString (String.ofList text)) := by
  rw [scriptPath, h]

/-- A word that starts with a slash is no URL and is taken as it is. -/
theorem scriptPath_of_slash {p : String} (h : p.toList.head? = some '/') :
    scriptPath t cwd p = .ok (.ofString p) := by
  obtain ⟨rest, hp⟩ := List.head?_eq_some_iff.mp h
  have hurl : path? p.toList = none := by
    rw [hp]
    rfl
  have habsolute : (Path.ofString p).isAbsolute = true := by
    rw [Path.isAbsolute_ofString, decide_eq_true h]
  rw [scriptPath, hurl]
  exact if_pos habsolute

/-- The file URL of a path that starts with a slash names that path, and so does the path itself. -/
theorem scriptPath_ofPath {p : String} (h : p.toList.head? = some '/') :
    scriptPath t cwd (ofPath p) = .ok (.ofString p) ∧ scriptPath t cwd p = .ok (.ofString p) := by
  have hurl : path? (ofPath p).toList = some p.toList := by
    rw [ofPath, String.toList_ofList]
    exact path?_of_quotes (quotes_quote p.toList) (head?_quote h)
  refine ⟨?_, scriptPath_of_slash t cwd h⟩
  rw [scriptPath_of_path? t cwd hurl, String.ofList_toList]

/-- Two slashes at the start, a percent sign with digits after it, and what would end or divide a URL. -/
theorem scriptPath_ofPath_marked :
    "//a b%2F?#;[\né".toList.head? = some '/' ∧
      scriptPath {} (.ofLocation []) "file:////a%20b%252F%3F%23%3B%5B%0A%C3%A9" =
        .ok ⟨.doubleSlash, ["a b%2F?#;[\né"]⟩ ∧
      scriptPath {} (.ofLocation []) "//a b%2F?#;[\né" = .ok ⟨.doubleSlash, ["a b%2F?#;[\né"]⟩ := by
  have hslash : "//a b%2F?#;[\né".toList.head? = some '/' := by decide
  have hurl : ofPath "//a b%2F?#;[\né" = "file:////a%20b%252F%3F%23%3B%5B%0A%C3%A9" := by decide
  have hpath : Path.ofString "//a b%2F?#;[\né" = ⟨.doubleSlash, ["a b%2F?#;[\né"]⟩ := by decide
  have hboth := scriptPath_ofPath {} (.ofLocation []) hslash
  rw [hurl, hpath] at hboth
  exact ⟨hslash, hboth⟩

end CommandLine
end ScriptRunner
