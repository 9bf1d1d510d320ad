import ScriptRunner.Text.Quoted

/-! UTF-8: encoding, strict decoding that reports the first refused bytes, and decoding that puts
a replacement character for each of them. -/

namespace ScriptRunner

open Text (hexDigits)

abbrev Bytes := List UInt8

namespace Utf8

def encodeChar (c : Char) : Bytes :=
  let n := c.toNat
  if n < 0x80 then [n.toUInt8]
  else if n < 0x800 then [(0xC0 + n / 0x40).toUInt8, (0x80 + n % 0x40).toUInt8]
  else if n < 0x10000 then
    [(0xE0 + n / 0x1000).toUInt8, (0x80 + n / 0x40 % 0x40).toUInt8, (0x80 + n % 0x40).toUInt8]
  else
    [(0xF0 + n / 0x40000).toUInt8, (0x80 + n / 0x1000 % 0x40).toUInt8,
      (0x80 + n / 0x40 % 0x40).toUInt8, (0x80 + n % 0x40).toUInt8]

def encode (s : List Char) : Bytes := s.flatMap encodeChar

/-- The part of a character read so far: `seen` bytes with the payload `bits`. `need + 1` more
bytes are wanted, and the next of them must lie between `low` and `high`. -/
structure Pending where
  lead : Nat
  seen : Nat
  need : Nat
  low : Nat
  high : Nat
  bits : Nat
  deriving DecidableEq, Repr

inductive Lead where
  | char (c : Char)
  | first (p : Pending)
  | refused
  deriving DecidableEq, Repr

/-- What the first byte of a character says about the rest. -/
def lead (b : UInt8) : Lead :=
  let n := b.toNat
  if n < 0x80 then .char (Char.ofNat n)
  else if n < 0xC2 then .refused
  else if n < 0xE0 then .first ⟨n, 1, 0, 0x80, 0xBF, n - 0xC0⟩
  else if n < 0xF0 then
    .first ⟨n, 1, 1, if n = 0xE0 then 0xA0 else 0x80, if n = 0xED then 0x9F else 0xBF, n - 0xE0⟩
  else if n < 0xF5 then
    .first ⟨n, 1, 2, if n = 0xF0 then 0x90 else 0x80, if n = 0xF4 then 0x8F else 0xBF, n - 0xF0⟩
  else .refused

def Pending.accepts (p : Pending) (b : UInt8) : Bool :=
  p.low ≤ b.toNat && b.toNat ≤ p.high

/-- The payload after one more byte. -/
def Pending.pushBits (p : Pending) (b : UInt8) : Nat := p.bits * 0x40 + (b.toNat - 0x80)

def Pending.push (p : Pending) (b : UInt8) : Pending :=
  ⟨p.lead, p.seen + 1, p.need - 1, 0x80, 0xBF, p.pushBits b⟩

inductive Reason where
  | invalidStart
  | invalidContinuation
  | unexpectedEnd
  deriving DecidableEq, Repr

def Reason.text : Reason → String
  | .invalidStart => "invalid start byte"
  | .invalidContinuation => "invalid continuation byte"
  | .unexpectedEnd => "unexpected end of data"

/-- `count` bytes from position `start` on, the first of them `first`, begin no character. -/
structure DecodeError where
  first : Nat
  start : Nat
  count : Nat
  reason : Reason
  deriving DecidableEq, Repr

def DecodeError.message (e : DecodeError) : String :=
  "'utf-8' codec can't decode byte" ++
    (if e.count = 1 then
      " 0x" ++ String.ofList (hexDigits 2 e.first) ++ " in position " ++ toString e.start
    else "s in position " ++ toString e.start ++ "-" ++ toString (e.start + e.count - 1)) ++
    ": " ++ e.reason.text

def Pending.error (p : Pending) (position : Nat) (reason : Reason) : DecodeError :=
  ⟨p.lead, position - p.seen, p.seen, reason⟩

/-- Decodes from the given position on, in the middle of a character if `pending` is given. -/
def decodeFrom (position : Nat) : Option Pending → Bytes → Except DecodeError (List Char)
  | none, [] => .ok []
  | some p, [] => .error (p.error position .unexpectedEnd)
  | none, b :: rest =>
    match lead b with
    | .char c => (decodeFrom (position + 1) none rest).map (c :: ·)
    | .first p => decodeFrom (position + 1) (some p) rest
    | .refused => .error ⟨b.toNat, position, 1, .invalidStart⟩
  | some p, b :: rest =>
    if p.accepts b then
      if p.need = 0 then
        (decodeFrom (position + 1) none rest).map (Char.ofNat (p.pushBits b) :: ·)
      else decodeFrom (position + 1) (some (p.push b)) rest
    else .error (p.error position .invalidContinuation)

def decode (bytes : Bytes) : Except DecodeError (List Char) := decodeFrom 0 none bytes

/-- Decodes with one `U+FFFD` for each longest run of bytes that begins no character. -/
def decodeLossy : Option Pending → Bytes → List Char
  | none, [] => []
  | some _, [] => ['\ufffd']
  | none, b :: rest =>
    match lead b with
    | .char c => c :: decodeLossy none rest
    | .first p => decodeLossy (some p) rest
    | .refused => '\ufffd' :: decodeLossy none rest
  | some p, b :: rest =>
    if p.accepts b then
      if p.need = 0 then Char.ofNat (p.pushBits b) :: decodeLossy none rest
      else decodeLossy (some (p.push b)) rest
    else
      '\ufffd' ::
        match lead b with
        | .char c => c :: decodeLossy none rest
        | .first q => decodeLossy (some q) rest
        | .refused => '\ufffd' :: decodeLossy none rest

end Utf8
end ScriptRunner
