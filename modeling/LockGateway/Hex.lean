import LockGateway.Numeral
import LockGateway.Text.Quoted
import LockGateway.Text.Utf8

/-! Bytes as hexadecimal text. Writing gives lower-case digits; reading takes
either case and an optional `0x`. -/

namespace LockGateway.Hex

def encodeByte (byte : UInt8) : List Char :=
  [Numeral.digitCharacter (byte.toNat / 16), Numeral.digitCharacter (byte.toNat % 16)]

/-- Two digits for each byte, without a leading `0x`. -/
def encode (bytes : List UInt8) : List Char :=
  bytes.flatMap encodeByte

def text (bytes : List UInt8) : String :=
  String.ofList ('0' :: 'x' :: encode bytes)

inductive Fault where
  | oddLength
  | wrongLength
  /-- The byte at `position`, counted after the `0x`, is no hexadecimal digit. -/
  | invalidByte (byte : UInt8) (position : Nat)
  deriving DecidableEq, Repr

/-- A byte above the ASCII range is named by the Latin-1 character of its value. -/
def Fault.message : Fault → String
  | .oddLength => "odd number of digits"
  | .wrongLength => "invalid string length"
  | .invalidByte byte position =>
      let shown := Text.Quoted.character (Char.ofNat byte.toNat)
      s!"invalid character {shown} at position {Numeral.text 10 position}"

def digitValue? (character : Char) : Option Nat :=
  (Numeral.digitValue? character).filter (· < 16)

/-- Reads digit pairs; `position` is that of the first character. A digit left
alone at the end is an odd length. -/
def decodeFrom : (position : Nat) → List Char → Except Fault (List UInt8)
  | _, [] => .ok []
  | position, [last] =>
      match digitValue? last with
      | some _ => .error .oddLength
      | none => .error (.invalidByte (Text.leadByte last) position)
  | position, first :: second :: rest =>
      match digitValue? first, digitValue? second with
      | none, _ => .error (.invalidByte (Text.leadByte first) position)
      | some _, none => .error (.invalidByte (Text.leadByte second) (position + 1))
      | some high, some low => do
          let bytes ← decodeFrom (position + 2) rest
          return UInt8.ofNat (high * 16 + low) :: bytes

/-- The characters after an optional `0x`, if the whole text has an even number
of bytes. -/
def body (characters : List Char) : Except Fault (List Char) :=
  if Text.byteLength characters % 2 = 1 then .error .oddLength
  else match characters with
    | '0' :: 'x' :: rest => .ok rest
    | other => .ok other

/-- Bytes of any number. -/
def decode (characters : List Char) : Except Fault (List UInt8) := do
  decodeFrom 0 (← body characters)

example : decode ['0', 'x', 'B', 'e'] = .ok [0xbe] := by rfl
example : decode ['0', 'X', 'b', 'e'] = .error (.invalidByte 0x58 1) := by rfl
example : decode ['a', 'b', 'é'] = .error (.invalidByte 0xc3 2) := by rfl

end LockGateway.Hex
