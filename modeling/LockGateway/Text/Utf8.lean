/-! The UTF-8 bytes of a text, and the units in which positions inside it are
counted. -/

namespace LockGateway.Text

def utf8 (text : String) : List UInt8 :=
  text.toByteArray.data.toList

/-- The first byte of a character's encoding. -/
def leadByte (character : Char) : UInt8 :=
  let code := character.toNat
  UInt8.ofNat <|
    if code < 0x80 then code
    else if code < 0x800 then 0xc0 + code / 0x40
    else if code < 0x10000 then 0xe0 + code / 0x1000
    else 0xf0 + code / 0x40000

example : leadByte 'é' = 0xc3 ∧ leadByte '0' = 0x30 := by decide

/-- The number of bytes that the characters take. -/
def byteLength : List Char → Nat
  | [] => 0
  | character :: rest => character.utf8Size + byteLength rest

/-- The characters that lie within the first `count` bytes, or nothing if the
boundary falls inside a character. -/
def takeBytes : (count : Nat) → List Char → Option (List Char)
  | _, [] => some []
  | count, character :: rest =>
      if count = 0 then some []
      else if count < character.utf8Size then none
      else (takeBytes (count - character.utf8Size) rest).map (character :: ·)

example : takeBytes 1 ['1', 'é'] = some ['1'] := by decide
example : takeBytes 2 ['1', 'é'] = none := by decide

end LockGateway.Text
