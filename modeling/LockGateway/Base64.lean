/-! Bytes in the base-64 alphabet. Three bytes are four characters; a shorter
rest is filled up with equals signs. -/

namespace LockGateway.Base64

def alphabet : List Char :=
  "ABCDEFGHIJKLMNOPQRSTUVWXYZabcdefghijklmnopqrstuvwxyz0123456789+/".toList

def character (sextet : Nat) : Char := alphabet.getD sextet '='

def encode : List UInt8 → List Char
  | [] => []
  | [first] =>
      [character (first.toNat / 4), character (first.toNat % 4 * 16), '=', '=']
  | [first, second] =>
      [character (first.toNat / 4), character (first.toNat % 4 * 16 + second.toNat / 16),
       character (second.toNat % 16 * 4), '=']
  | first :: second :: third :: rest =>
      character (first.toNat / 4) ::
        character (first.toNat % 4 * 16 + second.toNat / 16) ::
        character (second.toNat % 16 * 4 + third.toNat / 64) ::
        character (third.toNat % 64) :: encode rest

def text (bytes : List UInt8) : String := String.ofList (encode bytes)

def sextet? (value : Char) : Option Nat := alphabet.findIdx? (· = value)

def decode : List Char → Option (List UInt8)
  | [] => some []
  | [first, second, '=', '='] => do
      let first ← sextet? first
      let second ← sextet? second
      return [UInt8.ofNat (first * 4 + second / 16)]
  | [first, second, third, '='] => do
      let first ← sextet? first
      let second ← sextet? second
      let third ← sextet? third
      return [UInt8.ofNat (first * 4 + second / 16),
              UInt8.ofNat (second % 16 * 16 + third / 4)]
  | first :: second :: third :: fourth :: rest => do
      let first ← sextet? first
      let second ← sextet? second
      let third ← sextet? third
      let fourth ← sextet? fourth
      return UInt8.ofNat (first * 4 + second / 16) ::
        UInt8.ofNat (second % 16 * 16 + third / 4) ::
        UInt8.ofNat (third % 4 * 64 + fourth) :: (← decode rest)
  | _ => none

example : encode [0x30, 0x78, 0x61, 0x62] = ['M', 'H', 'h', 'h', 'Y', 'g', '=', '='] := by
  decide

end LockGateway.Base64
