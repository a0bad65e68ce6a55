import LockGateway.Text.Blank
import LockGateway.Url.Percent

/-! Hosts in URLs: addresses of both versions of the Internet Protocol and names,
each brought to its one written form. Names of special schemes are ASCII here. -/

namespace LockGateway.Url

/-- The parts of a text between separators; there is one at least. -/
def splitAtEach (separator : Char → Bool) : List Char → List (List Char)
  | [] => [[]]
  | character :: rest =>
      match splitAtEach separator rest with
      | [] => [[]]
      | part :: later =>
          if separator character then [] :: part :: later
          else (character :: part) :: later

example : splitAtEach (· = '.') ['a', '.', '.', 'b'] = [['a'], [], ['b']] := by decide

/-! ## Version 4 -/

/-- The value of digits of a radix; underscores are no digits here. -/
def digitsValue? (radix : Nat) (digits : List Char) : Option Nat :=
  digits.foldlM (fun value character => do
    let digit ← (Numeral.digitValue? character).filter (· < radix)
    return value * radix + digit) 0

/-- A number in an address: hexadecimal after `0x`, octal after a zero, and
otherwise decimal. -/
def readAddressNumber : List Char → Option Nat
  | [] => none
  | ['0'] => some 0
  | '0' :: 'x' :: digits | '0' :: 'X' :: digits => digitsValue? 16 digits
  | '0' :: digits => digitsValue? 8 digits
  | digits => digitsValue? 10 digits

/-- The last part of a name, if the name is not empty; a dot may end the name. -/
def lastPart? (parts : List (List Char)) : Option (List Char) :=
  match parts.reverse with
  | [] :: [] => none
  | [] :: part :: _ => some part
  | part :: _ => some part
  | [] => none

/-- A name that ends in a number is an address, whether it is a right one or not. -/
def endsInNumber (parts : List (List Char)) : Bool :=
  match lastPart? parts with
  | none => false
  | some part => (!part.isEmpty && part.all Char.isDigit) || (readAddressNumber part).isSome

/-- The address that up to four numbers make: the last fills what the others leave. -/
def joinAddress? : (places : Nat) → List Nat → Option Nat
  | _, [] => none
  | places, [last] => if last < Nat.pow 256 places then some last else none
  | 0, _ => none
  | places + 1, number :: rest => do
      if 255 < number then none
      return number * Nat.pow 256 places + (← joinAddress? places rest)

def readVersion4 (parts : List (List Char)) : Option Nat := do
  let parts := if 1 < parts.length ∧ parts.getLast? = some [] then parts.dropLast else parts
  if 4 < parts.length then none
  joinAddress? 4 (← parts.mapM readAddressNumber)

def version4Text (address : Nat) : List Char :=
  (".".intercalate <| [24, 16, 8, 0].map fun shift =>
    Numeral.text 10 (address / Nat.pow 2 shift % 256)).toList

/-! ## Version 6 -/

/-- A decimal number below 256 without a leading zero. -/
def readByte? (digits : List Char) : Option Nat := do
  if digits.isEmpty ∨ (digits.head? = some '0' ∧ 1 < digits.length) then none
  (digitsValue? 10 digits).filter (· < 256)

/-- One piece of an address, or at the end the two that an address of version 4
makes. -/
def readPieces : List (List Char) → Option (List Nat)
  | [] => some []
  | [last] =>
      if last.contains '.' then do
        match ← (splitAtEach (· = '.') last).mapM readByte? with
        | [first, second, third, fourth] => return [first * 256 + second, third * 256 + fourth]
        | _ => none
      else (readPiece last).map ([·])
  | part :: rest => do return (← readPiece part) :: (← readPieces rest)
where
  readPiece (part : List Char) : Option Nat :=
    if part.isEmpty ∨ 4 < part.length then none else digitsValue? 16 part

/-- The text in front of the first pair of colons, and the text behind it. -/
def splitAtGap : List Char → Option (List Char × List Char)
  | [] => none
  | ':' :: ':' :: rest => some ([], rest)
  | character :: rest =>
      (splitAtGap rest).map fun (front, back) => (character :: front, back)

def piecesOf (text : List Char) : Option (List Nat) :=
  if text.isEmpty then some [] else readPieces (splitAtEach (· = ':') text)

/-- The eight pieces of an address; a gap stands for one zero or more. -/
def readVersion6 (text : List Char) : Option (List Nat) := do
  match splitAtGap text with
  | none => (← piecesOf text) |> some |>.filter (·.length = 8)
  | some (front, back) =>
      if front.contains '.' then none
      let front ← piecesOf front
      let back ← piecesOf back
      if 7 < front.length + back.length then none
      return front ++ List.replicate (8 - front.length - back.length) 0 ++ back

/-- The length of the run of zeros at the beginning. -/
def zeroRun (pieces : List Nat) : Nat := (pieces.takeWhile (· = 0)).length

/-- Where the first of the longest runs of zeros begins, and its length. -/
def longestRun (pieces : List Nat) : Nat × Nat :=
  (List.range pieces.length).foldl (fun (start, size) position =>
    let run := zeroRun (pieces.drop position)
    if size < run then (position, run) else (start, size)) (0, 0)

/-- The longest run of two zeros or more is left out. -/
def version6Text (pieces : List Nat) : List Char :=
  let join (pieces : List Nat) : String := ":".intercalate (pieces.map (Numeral.text 16))
  let (start, size) := longestRun pieces
  let text :=
    if size < 2 then join pieces
    else join (pieces.take start) ++ "::" ++ join (pieces.drop (start + size))
  '[' :: text.toList ++ [']']

example : (readVersion6 [':', ':', '1']).map version6Text = some ['[', ':', ':', '1', ']'] := by
  decide +kernel

/-! ## Names -/

/-- What a name must not hold under any scheme. -/
def isForbiddenInHost (character : Char) : Bool :=
  ['\x00', '\t', '\n', '\r', ' ', '#', '/', ':', '<', '>', '?', '@',
    '[', '\\', ']', '^', '|'].contains character

def isForbiddenInName (character : Char) : Bool :=
  isForbiddenInHost character || isControl character || character = '%'

/-- The part of a host between brackets is an address. -/
def readBracketed (text : List Char) : Option (List Char) := do
  if text.getLast? ≠ some ']' then none
  return version6Text (← readVersion6 text.dropLast)

/-- Reads a host under a special scheme. -/
def readHost : List Char → Option (List Char)
  | '[' :: rest => readBracketed rest
  | text => do
      let decoded ← String.fromUTF8? ⟨(percentDecode text).toArray⟩
      let name := decoded.toList.map Char.toLower
      if name.isEmpty ∨ name.any isForbiddenInName then none
      let parts := splitAtEach (· = '.') name
      if endsInNumber parts then (readVersion4 parts).map version4Text else some name

/-- Reads a host under a scheme that is not special: a name stands as it is. -/
def readOpaqueHost : List Char → Option (List Char)
  | '[' :: rest => readBracketed rest
  | text => if text.any isForbiddenInHost then none else some (percentEncode isControl text)

end LockGateway.Url
