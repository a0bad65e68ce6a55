import LockGateway.Json.Value

/-! JSON text. The compact text has no blanks; the indented one puts every
element and member on a line of its own. Members are written in the order in
which they stand. -/

namespace LockGateway.Json

/-- Only quotation marks, backslashes and controls are escaped. -/
def escape (character : Char) : List Char :=
  if character = '"' then ['\\', '"']
  else if character = '\\' then ['\\', '\\']
  else if 0x20 ≤ character.toNat then [character]
  else if character = '\x08' then ['\\', 'b']
  else if character = '\x0c' then ['\\', 'f']
  else if character = '\n' then ['\\', 'n']
  else if character = '\r' then ['\\', 'r']
  else if character = '\t' then ['\\', 't']
  else
    ['\\', 'u', '0', '0', Numeral.digitCharacter (character.toNat / 16),
     Numeral.digitCharacter (character.toNat % 16)]

def quote (value : String) : List Char :=
  '"' :: value.toList.flatMap escape ++ ['"']

def scalarCharacters : Json → List Char
  | .boolean true => ['t', 'r', 'u', 'e']
  | .boolean false => ['f', 'a', 'l', 's', 'e']
  | .integer number => Double.integerText number.value
  | .float number => number.characters
  | .string value => quote value
  | .null | .list _ | .object _ => ['n', 'u', 'l', 'l']

mutual
def characters : Json → List Char
  | .list elements => '[' :: elementsCharacters elements ++ [']']
  | .object members => '\x7b' :: membersCharacters members ++ ['\x7d']
  | scalar => scalarCharacters scalar

def elementsCharacters : List Json → List Char
  | [] => []
  | [last] => characters last
  | first :: second :: rest =>
      characters first ++ ',' :: elementsCharacters (second :: rest)

def membersCharacters : List (String × Json) → List Char
  | [] => []
  | [(key, value)] => quote key ++ ':' :: characters value
  | (key, value) :: second :: rest =>
      quote key ++ ':' :: characters value ++ ',' :: membersCharacters (second :: rest)
end

def text (value : Json) : String := String.ofList value.characters

example : characters (.list [.null, .boolean true]) =
    ['[', 'n', 'u', 'l', 'l', ',', 't', 'r', 'u', 'e', ']'] := by rfl

/-! ## The indented text -/

def lineBreak (depth : Nat) : List Char :=
  '\n' :: List.replicate (2 * depth) ' '

mutual
/-- The text of a value that stands `depth` levels deep. -/
def indentedCharacters (depth : Nat) : Json → List Char
  | .list [] => ['[', ']']
  | .object [] => ['\x7b', '\x7d']
  | .list (first :: rest) =>
      '[' :: indentedElements (depth + 1) (first :: rest) ++ lineBreak depth ++ [']']
  | .object (first :: rest) =>
      '\x7b' :: indentedMembers (depth + 1) (first :: rest) ++ lineBreak depth ++ ['\x7d']
  | scalar => scalarCharacters scalar

def indentedElements (depth : Nat) : List Json → List Char
  | [] => []
  | [last] => lineBreak depth ++ indentedCharacters depth last
  | first :: second :: rest =>
      lineBreak depth ++ indentedCharacters depth first ++
        ',' :: indentedElements depth (second :: rest)

def indentedMembers (depth : Nat) : List (String × Json) → List Char
  | [] => []
  | [(key, value)] =>
      lineBreak depth ++ quote key ++ ':' :: ' ' :: indentedCharacters depth value
  | (key, value) :: second :: rest =>
      lineBreak depth ++ quote key ++ ':' :: ' ' :: indentedCharacters depth value ++
        ',' :: indentedMembers depth (second :: rest)
end

def indentedText (value : Json) : String := String.ofList (value.indentedCharacters 0)

end LockGateway.Json
