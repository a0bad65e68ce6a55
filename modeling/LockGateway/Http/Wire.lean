import LockGateway.Http
import LockGateway.Text.Blank

/-! The bytes of an HTTP exchange: what is sent for a posted body, and how the
bytes that come back are read. The connection is closed after each exchange, so
that what comes back is complete when it ends. -/

namespace LockGateway.Http

/-! ## Where to -/

/-- A place to post to. Only plain connections are known. -/
structure Location where
  host : String
  portNumber : UInt16
  target : String
  deriving DecidableEq, Repr

namespace Location

def standardPort : UInt16 := 80

def ofUrl? (url : Url) : Option Location := do
  if url.scheme ≠ "http" then none
  let (host, number) ← url.authority
  return {
    host
    portNumber := (number.map UInt16.ofNat).getD standardPort
    target := url.path ++ Url.marked "?" url.query }

example : (Url.parse? "http://127.0.0.1:8545?a#b").bind ofUrl? =
    some ⟨"127.0.0.1", 8545, "/?a"⟩ := by
  decide +kernel

/-- The host without the brackets that addresses have in URLs. -/
def hostName (location : Location) : String :=
  String.ofList (location.host.toList.filter (· ∉ ['[', ']']))

end Location

/-! ## What is sent -/

def lineEnd : String := "\r\n"

/-- A request to post a JSON text. -/
def requestText (location : Location) (body : String) : String :=
  let size := Text.byteLength body.toList
  lineEnd.intercalate
    [s!"POST {location.target} HTTP/1.1",
     s!"host: {location.host}:{Numeral.text 10 location.portNumber.toNat}",
     "content-type: application/json",
     "accept: */*",
     "connection: close",
     s!"content-length: {Numeral.text 10 size}",
     "",
     body]

/-! ## What comes back -/

/-- A line and what follows its end. -/
def takeLine : List UInt8 → Option (List UInt8 × List UInt8)
  | [] => none
  | 13 :: 10 :: rest => some ([], rest)
  | byte :: rest => (takeLine rest).map fun (line, later) => (byte :: line, later)

theorem length_takeLine {bytes line rest : List UInt8}
    (taken : takeLine bytes = some (line, rest)) : rest.length < bytes.length := by
  fun_induction takeLine bytes generalizing line with
  | case1 => simp at taken
  | case2 =>
      simp only [Option.some.injEq, Prod.mk.injEq] at taken
      rw [← taken.2]
      simp only [List.length_cons]
      omega
  | case3 byte later _ induction =>
      obtain ⟨⟨found, last⟩, holds, equal⟩ := Option.map_eq_some_iff.mp taken
      simp only [Prod.mk.injEq] at equal
      have shorter := induction (equal.2 ▸ holds)
      simp only [List.length_cons]
      omega

def asciiText (bytes : List UInt8) : String :=
  String.ofList (bytes.map fun byte => Char.ofNat byte.toNat)

/-- The lines up to an empty one, and what follows that. -/
def takeHead (bytes : List UInt8) : Option (List String × List UInt8) :=
  match _ : takeLine bytes with
  | none => none
  | some ([], rest) => some ([], rest)
  | some (line, rest) =>
      (takeHead rest).map fun (lines, later) => (asciiText line :: lines, later)
termination_by bytes.length
decreasing_by exact length_takeLine (by assumption)

/-- The status in the first line: the second word. -/
def status? (line : String) : Option Nat := do
  let word ← (line.splitOn " ")[1]?
  readDecimalBelow 1000 word.toList

/-- The value of a header, in lower case. -/
def header? (name : String) (lines : List String) : Option String :=
  lines.findSome? fun line =>
    let (key, value) := line.toList.span (· ≠ ':')
    if Text.lowercase (String.ofList key) = name then
      some (Text.lowercase (Text.trim (String.ofList value.tail)))
    else none

/-- The size in front of a chunk. Extensions of chunks are passed over. -/
def chunkSize? (line : List UInt8) : Option Nat :=
  let digits := (asciiText line).toList.takeWhile fun character => character ≠ ';'
  (Numeral.read 16 (Text.trimCharacters digits)).toOption.map BitVec.toNat

/-- The bytes of a body that comes in chunks. A chunk of no size is the last. -/
def joinChunks (bytes : List UInt8) : Option (List UInt8) :=
  match _ : takeLine bytes with
  | none => none
  | some (line, rest) =>
      match chunkSize? line with
      | none => none
      | some 0 => some []
      | some size =>
          (joinChunks (rest.drop (size + 2))).map fun later => rest.take size ++ later
termination_by bytes.length
decreasing_by
  have := length_takeLine (by assumption)
  simp only [List.length_drop]
  omega

/-- What came back, if it is a whole response. A body that is no text is taken
for an empty one; neither is JSON. -/
def readExchange (bytes : List UInt8) : HttpExchange :=
  let read : Option HttpExchange := do
    let (head, rest) ← takeHead bytes
    let status ← status? (← head.head?)
    let body ←
      if header? "transfer-encoding" head = some "chunked" then joinChunks rest
      else match header? "content-length" head with
        | none => some rest
        | some length => do
            let size ← readDecimalBelow UInt64.size length.toList
            if rest.length < size then none else some (rest.take size)
    return .response status ((String.fromUTF8? ⟨body.toArray⟩).getD "")
  read.getD .unreachable

end LockGateway.Http
