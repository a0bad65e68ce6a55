/-! Blank characters and the two text preparations made before a word is looked
up: cutting blanks at both ends and lowering ASCII letters. -/

namespace LockGateway.Text

/-- The Unicode property White_Space as inclusive ranges of code points. -/
def blankRanges : List (Nat × Nat) :=
  [(0x09, 0x0d), (0x20, 0x20), (0x85, 0x85), (0xa0, 0xa0), (0x1680, 0x1680),
   (0x2000, 0x200a), (0x2028, 0x2029), (0x202f, 0x202f), (0x205f, 0x205f),
   (0x3000, 0x3000)]

def isBlank (character : Char) : Bool :=
  blankRanges.any fun (first, last) =>
    first ≤ character.toNat && character.toNat ≤ last

/-- A zero-width space joins, it does not separate. -/
example : isBlank '\u3000' = true ∧ isBlank '\u200b' = false := by decide

def trimCharacters (characters : List Char) : List Char :=
  ((characters.dropWhile isBlank).reverse.dropWhile isBlank).reverse

def trim (text : String) : String :=
  String.ofList (trimCharacters text.toList)

/-- Only `A` to `Z` change. -/
def lowercase (text : String) : String :=
  String.ofList (text.toList.map Char.toLower)

example : trimCharacters [' ', 'v', ' ', '1', '\t'] = ['v', ' ', '1'] := by decide

end LockGateway.Text
