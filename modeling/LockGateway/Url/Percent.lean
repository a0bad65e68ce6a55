import LockGateway.Hex
import LockGateway.Text.Utf8

/-! Percent-encoding: a byte that must not stand in a part of a URL is written as
a percent sign and its two hexadecimal digits. -/

namespace LockGateway.Url

/-- Controls and everything beyond ASCII are encoded in every part. -/
def isControl (character : Char) : Bool :=
  character.toNat < 0x20 || 0x7e < character.toNat

def fragmentSet (character : Char) : Bool :=
  isControl character || [' ', '"', '<', '>', '\x60'].contains character

def pathSet (character : Char) : Bool :=
  fragmentSet character || ['#', '?', '^', '\x7b', '\x7d'].contains character

/-- In a query, the apostrophe is encoded only under the special schemes. -/
def querySet (special : Bool) (character : Char) : Bool :=
  isControl character || [' ', '"', '#', '<', '>'].contains character ||
    (special && character = '\'')

def percentByte (byte : UInt8) : List Char :=
  '%' :: (Hex.encodeByte byte).map Char.toUpper

/-- Encodes the characters in a set, byte by byte. -/
def percentEncode (reserved : Char → Bool) (characters : List Char) : List Char :=
  characters.flatMap fun character =>
    if reserved character then
      (Text.utf8 (String.singleton character)).flatMap percentByte
    else [character]

/-- The bytes that a text stands for. A percent sign without two digits after it
stands for itself. -/
def percentDecode : List Char → List UInt8
  | [] => []
  | '%' :: high :: low :: rest =>
      match Hex.digitValue? high, Hex.digitValue? low with
      | some first, some second => UInt8.ofNat (first * 16 + second) :: percentDecode rest
      | _, _ => Text.utf8 "%" ++ percentDecode (high :: low :: rest)
  | character :: rest => Text.utf8 (String.singleton character) ++ percentDecode rest

end LockGateway.Url
