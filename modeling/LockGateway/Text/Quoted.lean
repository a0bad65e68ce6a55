import LockGateway.Numeral
import LockGateway.Text.Unprintable

/-! Text as error messages quote it: between quotation marks, with the mark, the
backslash and everything that does not print written as escapes. -/

namespace LockGateway.Text.Quoted

/-- How one character stands between two `mark`s. -/
def escape (mark character : Char) : List Char :=
  if character = '\x00' then ['\\', '0']
  else if character = '\t' then ['\\', 't']
  else if character = '\r' then ['\\', 'r']
  else if character = '\n' then ['\\', 'n']
  else if character = '\\' ∨ character = mark then ['\\', character]
  else if isUnprintable character then
    ['\\', 'u', '\x7b'] ++ Numeral.digits 16 character.toNat ++ ['\x7d']
  else [character]

def character (value : Char) : String :=
  String.ofList ('\'' :: escape '\'' value ++ ['\''])

def string (value : String) : String :=
  String.ofList ('"' :: value.toList.flatMap (escape '"') ++ ['"'])

example : escape '"' '"' = ['\\', '"'] ∧ escape '\'' '"' = ['"'] := by decide

end LockGateway.Text.Quoted
