import ScriptRunner.Text.Utf8

/-! UTF-8 is decoded as it was encoded, so different texts have different bytes; and nothing is decoded but
what a text is encoded as. -/

namespace ScriptRunner.Utf8

/-! ## Single bytes -/

theorem toNat_toUInt8 {n : Nat} (h : n < 0x100) : n.toUInt8.toNat = n := by
  simpa using h

theorem lead_of_lt_0x80 {n : Nat} (h : n < 0x80) : lead n.toUInt8 = .char (Char.ofNat n) := by
  simp only [lead, toNat_toUInt8 (Nat.lt_trans h (by decide)), if_pos h]

/-- The first of two bytes. -/
theorem lead_two {k : Nat} (h : 2 ≤ k) (h' : k < 0x20) :
    lead (0xC0 + k).toUInt8 = .first ⟨0xC0 + k, 1, 0, 0x80, 0xBF, k⟩ := by
  have hn := toNat_toUInt8 (show 0xC0 + k < 0x100 by omega)
  simp only [lead, hn]
  rw [if_neg (by omega), if_neg (by omega), if_pos (by omega), Nat.add_sub_cancel_left]

/-- The first of three bytes. The second may not make the encoding longer than it has to be, nor half of a
pair of surrogates. -/
theorem lead_three {k : Nat} (h : k < 0x10) :
    lead (0xE0 + k).toUInt8 =
      .first ⟨0xE0 + k, 1, 1, if k = 0 then 0xA0 else 0x80, if k = 0xD then 0x9F else 0xBF, k⟩ := by
  have hn := toNat_toUInt8 (show 0xE0 + k < 0x100 by omega)
  simp only [lead, hn]
  rw [if_neg (by omega), if_neg (by omega), if_neg (by omega), if_pos (by omega), Nat.add_sub_cancel_left]
  congr 2 <;> split <;> split <;> omega

/-- The first of four bytes. -/
theorem lead_four {k : Nat} (h : k < 5) :
    lead (0xF0 + k).toUInt8 =
      .first ⟨0xF0 + k, 1, 2, if k = 0 then 0x90 else 0x80, if k = 4 then 0x8F else 0xBF, k⟩ := by
  have hn := toNat_toUInt8 (show 0xF0 + k < 0x100 by omega)
  simp only [lead, hn]
  rw [if_neg (by omega), if_neg (by omega), if_neg (by omega), if_neg (by omega), if_pos (by omega),
    Nat.add_sub_cancel_left]
  congr 2 <;> split <;> split <;> omega

variable {p : Pending} {b : UInt8} {k : Nat}

theorem Pending.accepts_iff : p.accepts b = true ↔ p.low ≤ b.toNat ∧ b.toNat ≤ p.high := by
  simp [accepts]

theorem Pending.pushBits_eq (hb : b.toNat = 0x80 + k) : p.pushBits b = p.bits * 0x40 + k := by
  unfold pushBits
  omega

/-- A byte in the middle of a character. -/
theorem decodeFrom_more (position : Nat) (rest : Bytes) (hb : b.toNat = 0x80 + k)
    (hp : p.low ≤ 0x80 + k ∧ 0x80 + k ≤ p.high) (hneed : p.need ≠ 0) :
    decodeFrom position (some p) (b :: rest) =
      decodeFrom (position + 1)
        (some ⟨p.lead, p.seen + 1, p.need - 1, 0x80, 0xBF, p.bits * 0x40 + k⟩) rest := by
  rw [decodeFrom, if_pos (Pending.accepts_iff.mpr (hb ▸ hp)), if_neg hneed, Pending.push,
    Pending.pushBits_eq hb]

/-- The last byte of a character. -/
theorem decodeFrom_last (position : Nat) (rest : Bytes) (hb : b.toNat = 0x80 + k)
    (hp : p.low ≤ 0x80 + k ∧ 0x80 + k ≤ p.high) (hneed : p.need = 0) :
    decodeFrom position (some p) (b :: rest) =
      (decodeFrom (position + 1) none rest).map (Char.ofNat (p.bits * 0x40 + k) :: ·) := by
  rw [decodeFrom, if_pos (Pending.accepts_iff.mpr (hb ▸ hp)), if_pos hneed, Pending.pushBits_eq hb]

/-! ## Characters and texts -/

/-- The code of a character lies below the surrogates or above them. -/
theorem toNat_cases (c : Char) : c.toNat < 0xD800 ∨ 0xDFFF < c.toNat ∧ c.toNat < 0x110000 := c.valid

variable {c : Char} (position : Nat) (rest : Bytes)

theorem decodeFrom_two (h : 0x80 ≤ c.toNat) (h' : c.toNat < 0x800) :
    decodeFrom position none
        ((0xC0 + c.toNat / 0x40).toUInt8 :: (0x80 + c.toNat % 0x40).toUInt8 :: rest) =
      (decodeFrom (position + 2) none rest).map (c :: ·) := by
  have hlast := toNat_toUInt8 (show 0x80 + c.toNat % 0x40 < 0x100 by omega)
  have hc : c.toNat / 0x40 * 0x40 + c.toNat % 0x40 = c.toNat := by omega
  rw [decodeFrom, lead_two (by omega) (by omega)]
  dsimp only
  rw [decodeFrom_last _ _ hlast (by constructor <;> (dsimp only; omega)) rfl]
  dsimp only
  rw [hc, c.ofNat_toNat]

theorem decodeFrom_three (h : 0x800 ≤ c.toNat) (h' : c.toNat < 0x10000) :
    decodeFrom position none
        ((0xE0 + c.toNat / 0x1000).toUInt8 :: (0x80 + c.toNat / 0x40 % 0x40).toUInt8 ::
          (0x80 + c.toNat % 0x40).toUInt8 :: rest) =
      (decodeFrom (position + 3) none rest).map (c :: ·) := by
  have hvalid := toNat_cases c
  have hnext := toNat_toUInt8 (show 0x80 + c.toNat / 0x40 % 0x40 < 0x100 by omega)
  have hlast := toNat_toUInt8 (show 0x80 + c.toNat % 0x40 < 0x100 by omega)
  have hc : (c.toNat / 0x1000 * 0x40 + c.toNat / 0x40 % 0x40) * 0x40 + c.toNat % 0x40 = c.toNat := by
    omega
  rw [decodeFrom, lead_three (by omega)]
  dsimp only
  rw [decodeFrom_more _ _ hnext (by constructor <;> (dsimp only; split <;> omega)) Nat.one_ne_zero]
  rw [decodeFrom_last _ _ hlast (by constructor <;> (dsimp only; omega)) rfl]
  dsimp only
  rw [hc, c.ofNat_toNat]

theorem decodeFrom_four (h : 0x10000 ≤ c.toNat) :
    decodeFrom position none
        ((0xF0 + c.toNat / 0x40000).toUInt8 :: (0x80 + c.toNat / 0x1000 % 0x40).toUInt8 ::
          (0x80 + c.toNat / 0x40 % 0x40).toUInt8 :: (0x80 + c.toNat % 0x40).toUInt8 :: rest) =
      (decodeFrom (position + 4) none rest).map (c :: ·) := by
  have hvalid := toNat_cases c
  have hsecond := toNat_toUInt8 (show 0x80 + c.toNat / 0x1000 % 0x40 < 0x100 by omega)
  have hnext := toNat_toUInt8 (show 0x80 + c.toNat / 0x40 % 0x40 < 0x100 by omega)
  have hlast := toNat_toUInt8 (show 0x80 + c.toNat % 0x40 < 0x100 by omega)
  have hc : ((c.toNat / 0x40000 * 0x40 + c.toNat / 0x1000 % 0x40) * 0x40 +
      c.toNat / 0x40 % 0x40) * 0x40 + c.toNat % 0x40 = c.toNat := by
    omega
  rw [decodeFrom, lead_four (by omega)]
  dsimp only
  rw [decodeFrom_more _ _ hsecond (by constructor <;> (dsimp only; split <;> omega)) (Nat.succ_ne_zero 1)]
  rw [decodeFrom_more _ _ hnext (by constructor <;> (dsimp only; omega)) (Nat.succ_ne_zero 0)]
  rw [decodeFrom_last _ _ hlast (by constructor <;> (dsimp only; omega)) rfl]
  dsimp only
  rw [hc, c.ofNat_toNat]

variable (c)

/-- A character is decoded from its bytes, whatever follows them. -/
theorem decodeFrom_encodeChar :
    ∃ next, decodeFrom position none (encodeChar c ++ rest) = (decodeFrom next none rest).map (c :: ·) := by
  unfold encodeChar
  dsimp only
  split
  · rename_i h
    refine ⟨position + 1, ?_⟩
    rw [List.singleton_append, decodeFrom, lead_of_lt_0x80 h, c.ofNat_toNat]
  · split
    · exact ⟨_, decodeFrom_two position rest (by omega) (by omega)⟩
    · split
      · exact ⟨_, decodeFrom_three position rest (by omega) (by omega)⟩
      · exact ⟨_, decodeFrom_four position rest (by omega)⟩

theorem decodeFrom_encode (s : List Char) (position : Nat) : decodeFrom position none (encode s) = .ok s := by
  induction s generalizing position with
  | nil => rfl
  | cons c s ih =>
      obtain ⟨next, h⟩ := decodeFrom_encodeChar c position (encode s)
      rw [encode, List.flatMap_cons, ← encode, h, ih]
      rfl

theorem decode_encode (s : List Char) : decode (encode s) = .ok s := decodeFrom_encode s 0

theorem encode_inj {s s' : List Char} : encode s = encode s' ↔ s = s' := by
  refine ⟨fun h => ?_, congrArg encode⟩
  have hd := congrArg decode h
  rw [decode_encode, decode_encode] at hd
  exact Except.ok.inj hd

/-! ## Bytes that are decoded -/

theorem toNat_ofNat {n : Nat} (h : n.isValidChar) : (Char.ofNat n).toNat = n := by
  rw [Char.ofNat, dif_pos h]
  rfl

theorem toUInt8_of_eq {n : Nat} {b : UInt8} (h : n = b.toNat) : n.toUInt8 = b := by
  rw [h]
  exact b.ofNat_toNat

section Payload

variable {b b₁ b₂ b₃ : UInt8}

theorem encodeChar_of_two (hb : 0xC2 ≤ b.toNat) (hb' : b.toNat < 0xE0) (h₁ : 0x80 ≤ b₁.toNat)
    (h₁' : b₁.toNat ≤ 0xBF) :
    encodeChar (Char.ofNat ((b.toNat - 0xC0) * 0x40 + (b₁.toNat - 0x80))) = [b, b₁] := by
  generalize hn : (b.toNat - 0xC0) * 0x40 + (b₁.toNat - 0x80) = n
  have hc : (Char.ofNat n).toNat = n := toNat_ofNat (.inl (by omega))
  simp only [encodeChar, hc]
  rw [if_neg (by omega), if_pos (by omega), toUInt8_of_eq (b := b) (by omega),
    toUInt8_of_eq (b := b₁) (by omega)]

theorem encodeChar_of_three (hb : 0xE0 ≤ b.toNat) (hb' : b.toNat < 0xF0)
    (h₁ : (if b.toNat = 0xE0 then 0xA0 else 0x80) ≤ b₁.toNat)
    (h₁' : b₁.toNat ≤ if b.toNat = 0xED then 0x9F else 0xBF) (h₂ : 0x80 ≤ b₂.toNat)
    (h₂' : b₂.toNat ≤ 0xBF) :
    encodeChar (Char.ofNat (((b.toNat - 0xE0) * 0x40 + (b₁.toNat - 0x80)) * 0x40 + (b₂.toNat - 0x80))) =
      [b, b₁, b₂] := by
  have hlong : 0x20 ≤ (b.toNat - 0xE0) * 0x40 + (b₁.toNat - 0x80) := by split at h₁ <;> omega
  have hlow : 0x80 ≤ b₁.toNat := by split at h₁ <;> omega
  have hhigh : b₁.toNat ≤ 0xBF := by split at h₁' <;> omega
  generalize hn : ((b.toNat - 0xE0) * 0x40 + (b₁.toNat - 0x80)) * 0x40 + (b₂.toNat - 0x80) = n
  have hvalid : n.isValidChar := by
    unfold Nat.isValidChar
    split at h₁' <;> omega
  simp only [encodeChar, toNat_ofNat hvalid]
  rw [if_neg (by omega), if_neg (by omega), if_pos (by omega), toUInt8_of_eq (b := b) (by omega),
    toUInt8_of_eq (b := b₁) (by omega), toUInt8_of_eq (b := b₂) (by omega)]

theorem encodeChar_of_four (hb : 0xF0 ≤ b.toNat) (hb' : b.toNat < 0xF5)
    (h₁ : (if b.toNat = 0xF0 then 0x90 else 0x80) ≤ b₁.toNat)
    (h₁' : b₁.toNat ≤ if b.toNat = 0xF4 then 0x8F else 0xBF) (h₂ : 0x80 ≤ b₂.toNat)
    (h₂' : b₂.toNat ≤ 0xBF) (h₃ : 0x80 ≤ b₃.toNat) (h₃' : b₃.toNat ≤ 0xBF) :
    encodeChar (Char.ofNat ((((b.toNat - 0xF0) * 0x40 + (b₁.toNat - 0x80)) * 0x40 +
      (b₂.toNat - 0x80)) * 0x40 + (b₃.toNat - 0x80))) = [b, b₁, b₂, b₃] := by
  have hlong : 0x10 ≤ (b.toNat - 0xF0) * 0x40 + (b₁.toNat - 0x80) := by split at h₁ <;> omega
  have hlow : 0x80 ≤ b₁.toNat := by split at h₁ <;> omega
  have hhigh : b₁.toNat ≤ 0xBF := by split at h₁' <;> omega
  generalize hn : (((b.toNat - 0xF0) * 0x40 + (b₁.toNat - 0x80)) * 0x40 + (b₂.toNat - 0x80)) * 0x40 +
    (b₃.toNat - 0x80) = n
  have hvalid : n.isValidChar := by
    unfold Nat.isValidChar
    split at h₁' <;> omega
  simp only [encodeChar, toNat_ofNat hvalid]
  rw [if_neg (by omega), if_neg (by omega), if_neg (by omega), toUInt8_of_eq (b := b) (by omega),
    toUInt8_of_eq (b := b₁) (by omega), toUInt8_of_eq (b := b₂) (by omega),
    toUInt8_of_eq (b := b₃) (by omega)]

/-- However many bytes more a character takes, they are its last ones, behind those that were read before. -/
def Completes : Nat → Pending → Bytes → Prop
  | 0, p, front => ∀ b, p.accepts b = true → encodeChar (Char.ofNat (p.pushBits b)) = front ++ [b]
  | need + 1, p, front => ∀ b, p.accepts b = true → Completes need (p.push b) (front ++ [b])

theorem encodeChar_of_lead {c : Char} (h : lead b = .char c) : encodeChar c = [b] := by
  unfold lead at h
  dsimp only at h
  split at h
  · rename_i hb
    cases h
    have hn : (Char.ofNat b.toNat).toNat = b.toNat := toNat_ofNat (.inl (by omega))
    simp only [encodeChar, hn]
    rw [if_pos hb, toUInt8_of_eq rfl]
  · split at h
    · cases h
    · split at h
      · cases h
      · split at h
        · cases h
        · split at h <;> cases h

theorem completes_of_lead {p : Pending} (h : lead b = .first p) : Completes p.need p [b] := by
  unfold lead at h
  dsimp only at h
  split at h
  · cases h
  · split at h
    · cases h
    · split at h
      · cases h
        intro b₁ h₁
        obtain ⟨hlow₁, hhigh₁⟩ := Pending.accepts_iff.mp h₁
        exact encodeChar_of_two (by omega) (by omega) hlow₁ hhigh₁
      · split at h
        · cases h
          intro b₁ h₁ b₂ h₂
          obtain ⟨hlow₁, hhigh₁⟩ := Pending.accepts_iff.mp h₁
          obtain ⟨hlow₂, hhigh₂⟩ := Pending.accepts_iff.mp h₂
          exact encodeChar_of_three (by omega) (by omega) hlow₁ hhigh₁ hlow₂ hhigh₂
        · split at h
          · cases h
            intro b₁ h₁ b₂ h₂ b₃ h₃
            obtain ⟨hlow₁, hhigh₁⟩ := Pending.accepts_iff.mp h₁
            obtain ⟨hlow₂, hhigh₂⟩ := Pending.accepts_iff.mp h₂
            obtain ⟨hlow₃, hhigh₃⟩ := Pending.accepts_iff.mp h₃
            exact encodeChar_of_four (by omega) (by omega) hlow₁ hhigh₁ hlow₂ hhigh₂ hlow₃ hhigh₃
          · cases h

end Payload

theorem exists_of_map_cons {c : Char} {s : List Char} {r : Except DecodeError (List Char)}
    (h : r.map (c :: ·) = .ok s) : ∃ t, r = .ok t ∧ s = c :: t := by
  cases r with
  | error e => cases h
  | ok t => exact ⟨t, rfl, (Except.ok.inj h).symm⟩

theorem encode_cons (c : Char) (s : List Char) : encode (c :: s) = encodeChar c ++ encode s := rfl

/-- From the middle of a character on, what is decoded is the text of all bytes of that character and of
those that follow. -/
theorem encode_of_decodeFrom {position : Nat} {pending : Option Pending} {data front : Bytes} {s : List Char}
    (hfront : match pending with
      | none => front = []
      | some p => Completes p.need p front)
    (h : decodeFrom position pending data = .ok s) : encode s = front ++ data := by
  fun_induction decodeFrom position pending data generalizing s front with
  | case1 position =>
      cases h
      rw [hfront]
      rfl
  | case2 => cases h
  | case3 position b rest c hlead ih =>
      obtain ⟨t, ht, rfl⟩ := exists_of_map_cons h
      have hrest : encode t = [] ++ rest := ih rfl ht
      rw [encode_cons, encodeChar_of_lead hlead, hrest, hfront]
      rfl
  | case4 position b rest p hlead ih =>
      rw [ih (completes_of_lead hlead) h, hfront]
      rfl
  | case5 => cases h
  | case6 position p b rest haccepts hneed ih =>
      obtain ⟨t, ht, rfl⟩ := exists_of_map_cons h
      simp only [hneed] at hfront
      have hrest : encode t = [] ++ rest := ih rfl ht
      rw [encode_cons, hfront b haccepts, hrest, List.append_assoc]
      rfl
  | case7 position p b rest haccepts hneed ih =>
      obtain ⟨need, hsucc⟩ := Nat.exists_eq_succ_of_ne_zero hneed
      simp only [hsucc] at hfront
      have hpush : (p.push b).need = need := by simp [Pending.push, hsucc]
      have hfront' : Completes (p.push b).need (p.push b) (front ++ [b]) := by
        rw [hpush]
        exact hfront b haccepts
      rw [ih hfront' h, List.append_assoc]
      rfl
  | case8 => cases h

/-- Strict decoding accepts nothing but what texts are encoded as. -/
theorem encode_of_decode {data : Bytes} {s : List Char} (h : decode data = .ok s) : encode s = data := by
  have hall : encode s = [] ++ data := encode_of_decodeFrom rfl h
  exact hall

/-- What is decoded strictly is decoded with replacements to the same text. -/
theorem decodeLossy_of_decodeFrom {position : Nat} {pending : Option Pending} {data : Bytes} {s : List Char}
    (h : decodeFrom position pending data = .ok s) : decodeLossy pending data = s := by
  fun_induction decodeFrom position pending data generalizing s with
  | case1 =>
      cases h
      rfl
  | case2 => cases h
  | case3 position b rest c hlead ih =>
      obtain ⟨t, ht, rfl⟩ := exists_of_map_cons h
      simp only [decodeLossy, hlead, ih ht]
  | case4 position b rest p hlead ih => simp only [decodeLossy, hlead, ih h]
  | case5 => cases h
  | case6 position p b rest haccepts hneed ih =>
      obtain ⟨t, ht, rfl⟩ := exists_of_map_cons h
      rw [decodeLossy, if_pos haccepts, if_pos hneed, ih ht]
  | case7 position p b rest haccepts hneed ih => rw [decodeLossy, if_pos haccepts, if_neg hneed, ih h]
  | case8 => cases h

theorem decodeLossy_encode (s : List Char) : decodeLossy none (encode s) = s :=
  decodeLossy_of_decodeFrom (decode_encode s)

end ScriptRunner.Utf8
