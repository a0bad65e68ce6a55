import LockGateway.Url.Host

/-! Absolute URLs, read as browsers read them and written in one form: the scheme
in lower case, the host in its one form, no standard port number, and no dots
among the segments of the path. -/

namespace LockGateway

structure Url where
  scheme : String
  /-- The host with its port number. It is empty under some schemes. -/
  authority : Option (String × Option Nat)
  path : String
  query : Option String
  fragment : Option String
  deriving DecidableEq, Repr

namespace Url

/-! ## Writing -/

def authorityText : String × Option Nat → String
  | (host, none) => "//" ++ host
  | (host, some number) => "//" ++ host ++ ":" ++ Numeral.text 10 number

/-- A path with two slashes in front is kept from looking like a host. -/
def placeText (url : Url) : String :=
  match url.authority with
  | some authority => authorityText authority ++ url.path
  | none => if ['/', '/'].isPrefixOf url.path.toList then "/." ++ url.path else url.path

def marked (mark : String) : Option String → String
  | none => ""
  | some part => mark ++ part

def text (url : Url) : String :=
  url.scheme ++ ":" ++ url.placeText ++ marked "?" url.query ++ marked "#" url.fragment

/-! ## Schemes -/

/-- The special schemes with their standard port numbers, other than files. -/
def standardPorts : List (String × Nat) :=
  [("http", 80), ("https", 443), ("ws", 80), ("wss", 443), ("ftp", 21)]

inductive Family where
  /-- A host is needed, and a backslash is as good as a slash. -/
  | special
  | file
  | other
  deriving DecidableEq

def familyOf (scheme : String) : Family :=
  if scheme = "file" then .file
  else if (standardPorts.lookup scheme).isSome then .special
  else .other

def Family.isSlash (family : Family) (character : Char) : Bool :=
  character = '/' || (family ≠ .other && character = '\\')

def Family.endsAuthority (family : Family) (character : Char) : Bool :=
  family.isSlash character || character = '?' || character = '#'

/-- Whether requests can be posted under the scheme. -/
def isWeb (url : Url) : Bool := url.scheme = "http" || url.scheme = "https"

/-- The scheme in lower case, and what follows its colon. -/
def splitScheme (text : List Char) : Option (String × List Char) :=
  let (scheme, rest) := text.span fun character =>
    character.isAlphanum || ['+', '-', '.'].contains character
  match scheme, rest with
  | first :: _, ':' :: rest =>
      if first.isAlpha then some (Text.lowercase (String.ofList scheme), rest) else none
  | _, _ => none

/-! ## Authorities -/

/-- A host and what follows it: colons inside brackets belong to the host. -/
def splitHost : (bracketed : Bool) → List Char → List Char × List Char
  | _, [] => ([], [])
  | bracketed, character :: rest =>
      if character = ':' ∧ bracketed = false then ([], character :: rest)
      else
        let inside := character = '[' || (bracketed && character ≠ ']')
        let (host, later) := splitHost inside rest
        (character :: host, later)

/-- A port number, unless it is the standard one of the scheme. -/
def readPort (scheme : String) : List Char → Option (Option Nat)
  | [] | [':'] => some none
  | _ :: digits => do
      let number ← (digitsValue? 10 digits).filter (· < UInt16.size)
      return if standardPorts.lookup scheme = some number then none else some number

/-- The host and the port number behind a user, who is left out. A user or a
port number without a host is a fault, and so is no host under a special scheme. -/
def readAuthority (scheme : String) (text : List Char) (atEnd : Bool) :
    Option (String × Option Nat) := do
  let family := familyOf scheme
  let place := (text.reverse.takeWhile (· ≠ '@')).reverse
  let user := text.take (text.length - place.length)
  let isNamed := user ≠ [] ∧ user ≠ ['@'] ∧ user ≠ [':', '@']
  let (host, rest) := splitHost false place
  if host.isEmpty then
    if family = .special ∨ isNamed ∨ rest ≠ [] ∨ (user = ['@'] ∧ atEnd = false) then none
    return ("", none)
  let name ← if family = .special then readHost host else readOpaqueHost host
  return (String.ofList name, ← readPort scheme rest)

/-- The host of a file. This machine goes without a name. -/
def readFileHost (text : List Char) : Option String := do
  if text.isEmpty then return ""
  let name := String.ofList (← readHost text)
  return if name = "localhost" then "" else name

/-! ## Paths -/

def isDot (segment : List Char) : Bool :=
  [".", "%2e"].contains (Text.lowercase (String.ofList segment))

def isDoubleDot (segment : List Char) : Bool :=
  ["..", ".%2e", "%2e.", "%2e%2e"].contains (Text.lowercase (String.ofList segment))

/-- Follows the dots among segments. Dots at the end leave an open end. -/
def followDots : (walked : List (List Char)) → List (List Char) → List (List Char)
  | walked, [] => walked
  | walked, segment :: rest =>
      let ending := if rest.isEmpty then [[]] else []
      if isDoubleDot segment then followDots (walked.dropLast ++ ending) rest
      else if isDot segment then followDots (walked ++ ending) rest
      else followDots (walked ++ [segment]) rest

/-- The text of a path whose first slash is left out. -/
def segmentsText (family : Family) (text : List Char) : String :=
  let segments := splitAtEach family.isSlash (percentEncode pathSet text)
  let walked := followDots [] segments
  let kept := if family = .file then walked.dropWhile List.isEmpty else walked
  let shown := if kept.isEmpty then [[]] else kept
  String.join (shown.map fun segment => "/" ++ String.ofList segment)

/-- The path behind an authority. -/
def pathText (family : Family) (text : List Char) : String :=
  match text with
  | [] => if family = .other then "" else "/"
  | first :: rest => segmentsText family (if family.isSlash first then rest else text)

/-! ## Reading -/

/-- Reads what follows the scheme, up to a question or hash mark. -/
def readPlace (scheme : String) (text : List Char) (atEnd : Bool) :
    Option (Option (String × Option Nat) × String) := do
  let family := familyOf scheme
  let (slashes, rest) := text.span family.isSlash
  match family with
  | .special =>
      let (authority, path) := rest.span (!family.endsAuthority ·)
      let authority ← readAuthority scheme authority (atEnd && path.isEmpty)
      return (authority, pathText family path)
  | .file =>
      let (host, path) :=
        if slashes.length = 2 then rest.span (!family.isSlash ·)
        else ([], slashes.drop 2 ++ rest)
      return (some (← readFileHost host, none), pathText family path)
  | .other =>
      match text with
      | '/' :: '/' :: rest =>
          let (authority, path) := rest.span (!family.endsAuthority ·)
          let authority ← readAuthority scheme authority (atEnd && path.isEmpty)
          return (authority, pathText family path)
      | '/' :: rest => return (none, segmentsText family rest)
      | _ => return (none, String.ofList (percentEncode isControl text))

/-- Splits off what follows the first mark. -/
def splitMark (mark : Char) (text : List Char) : List Char × Option (List Char) :=
  match text.span (· ≠ mark) with
  | (front, _ :: back) => (front, some back)
  | (front, []) => (front, none)

/-- Blanks and controls around a URL do not belong to it, nor do line ends and
tabs inside. -/
def clean (text : List Char) : List Char :=
  let isOuter (character : Char) : Bool := character.toNat ≤ 0x20
  let trimmed := ((text.dropWhile isOuter).reverse.dropWhile isOuter).reverse
  trimmed.filter (· ∉ ['\t', '\n', '\r'])

def parse? (text : String) : Option Url := do
  let (scheme, rest) ← splitScheme (clean text.toList)
  let (rest, fragment) := splitMark '#' rest
  let (place, query) := splitMark '?' rest
  let (authority, path) ← readPlace scheme place (query.isNone && fragment.isNone)
  let special := familyOf scheme ≠ .other
  return {
    scheme, authority, path
    query := query.map fun part => String.ofList (percentEncode (querySet special) part)
    fragment := fragment.map fun part => String.ofList (percentEncode fragmentSet part) }

example : (parse? " HTTP://LocalHost:80/a/./b/../c?d'").map text =
    some "http://localhost/a/c?d%27" := by
  decide +kernel

example : (parse? "http://0x7f.1:8545").map text = some "http://127.0.0.1:8545/" := by
  decide +kernel

end Url

end LockGateway
