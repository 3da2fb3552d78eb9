import Catalog.Http.Header
import Catalog.Text.Hex
import Catalog.Text.Split
/-!
What has come over a connection until its end: a response, or nothing that is one. A head that only
informs is passed over; the headers of the first other head say where the body ends. A status that redirects
is a status like any other, since no redirect is followed.
-/

set_option autoImplicit false

namespace Catalog.Wire

inductive Arrival where
  /-- A body that ends before its announced end is not whole. -/
  | response (status : UInt16) (body : List UInt8) (isWhole : Bool)
  | closed
  | timedOut
  deriving DecidableEq, Repr

def informs (status : Nat) : Bool :=
  100 ≤ status && status < 200 && status != 101

-- Whether a response of this status ends with its headers.
def hasNoBody (status : Nat) : Bool :=
  status == 101 || status == 204 || status == 304

def isFinal (status : Nat) : Bool :=
  status == 101 || (200 ≤ status && status < 1000)

def line? (bytes : List UInt8) : Option (List UInt8 × List UInt8) :=
  match bytes.dropWhile (· != 10) with
  | [] => none
  | _ :: rest =>
    let line := bytes.takeWhile (· != 10)
    some (if line.getLast? == some 13 then line.dropLast else line, rest)

def digit? (b : UInt8) : Option Nat :=
  if 48 ≤ b && b ≤ 57 then some (b.toNat - 48) else none

structure StatusLine where
  isLater : Bool
  status : Nat
  deriving DecidableEq, Repr

def statusLine? (line : List UInt8) : Option StatusLine := do
  match (Utf8.encode "HTTP/1.".toList).isPrefixOf? line with
  | some (version :: 32 :: a :: b :: c :: reason) =>
    let status := ((← digit? a) * 10 + (← digit? b)) * 10 + (← digit? c)
    let isFair := reason.isEmpty || (reason.head? == some 32 && reason.all isHeaderByte)
    if isFair && (version == 48 || version == 49) then some ⟨version == 49, status⟩ else none
  | _ => none

def header? (line : List UInt8) : Option Header :=
  match Text.cut ':' (Utf8.lossy line) with
  | (name, some value) =>
    if !name.isEmpty && name.all isTokenChar && line.all isHeaderByte then
      some ⟨(String.ofList name).toLower, trimValue (String.ofList value)⟩
    else none
  | _ => none

def headerLimit : Nat := 100

def headers? : Nat → List UInt8 → Option (List Header × List UInt8)
  | limit, bytes => do
    let (line, rest) ← line? bytes
    if line.isEmpty then some ([], rest)
    else
      match limit with
      | 0 => none
      | limit + 1 =>
        let header ← header? line
        let (headers, rest) ← headers? limit rest
        some (header :: headers, rest)

def dropEmptyLines : List UInt8 → List UInt8
  | 10 :: rest => dropEmptyLines rest
  | 13 :: 10 :: rest => dropEmptyLines rest
  | bytes => bytes

structure Head where
  first : StatusLine
  headers : List Header
  deriving DecidableEq, Repr

def Head.read? (bytes : List UInt8) : Option (Head × List UInt8) := do
  let (line, rest) ← line? (dropEmptyLines bytes)
  let first ← statusLine? line
  let (headers, rest) ← headers? headerLimit rest
  some (⟨first, headers⟩, rest)

def values (headers : List Header) (name : String) : List String :=
  (headers.filter (·.name == name)).map (·.value)

def parts (value : String) : List (List Char) :=
  (Text.splitAt ',' value.toList).map fun part => (trimValue (String.ofList part)).toList

def length? (text : List Char) : Option Nat :=
  if text.isEmpty || !text.all Char.isDigit then none
  else
    let value := text.foldl (fun value c => value * 10 + (c.toNat - 48)) 0
    if value < UInt64.size - 2 then some value else none

-- Lengths may be given more than once if all are the same.
def commonLength? (lengths : List (List Char)) : Option Nat :=
  match lengths with
  | [] => none
  | first :: rest => do
    let value ← length? first
    if rest.all fun text => length? text == some value then some value else none

-- Chunks count only if they are the last coding that was applied.
def endsChunked (codings : List String) : Bool :=
  match codings.getLast? with
  | some value => ((parts value).getLast?.map fun part => (String.ofList part).toLower) == some "chunked"
  | none => false

inductive Extent where
  | sized (length : Nat)
  | chunks
  | connection
  deriving DecidableEq, Repr

def Head.extent? (head : Head) : Option Extent :=
  let codings := values head.headers "transfer-encoding"
  let lengths := values head.headers "content-length"
  if !codings.isEmpty then
    if !head.first.isLater then none
    else if endsChunked codings then some .chunks
    else some .connection
  else if lengths.isEmpty then some .connection
  else (commonLength? (lengths.flatMap parts)).map .sized

def chunkSize? (line : List Char) : Option Nat := do
  let digits := line.takeWhile fun c => (Text.hexValue? c).isSome
  let rest := (line.drop digits.length).dropWhile isPadding
  let size ← Text.hexNumber? digits
  if !digits.isEmpty && size < UInt64.size && (rest.isEmpty || rest.head? == some ';') then some size
  else none

-- A line that ends with both characters of a line end; neither occurs before.
def strictLine? (bytes : List UInt8) : Option (List UInt8 × List UInt8) :=
  match bytes.dropWhile (· != 13) with
  | 13 :: 10 :: rest =>
    let line := bytes.takeWhile (· != 13)
    if line.contains 10 then none else some (line, rest)
  | _ => none

def hasTrailer : Nat → List UInt8 → Bool
  | 0, _ => false
  | fuel + 1, bytes =>
    match bytes.dropWhile (· != 13) with
    | 13 :: 10 :: rest => bytes.head? == some 13 || hasTrailer fuel rest
    | _ => false

def chunksFrom : Nat → List UInt8 → List UInt8 → List UInt8 × Bool
  | 0, done, _ => (done, false)
  | fuel + 1, done, bytes =>
    match strictLine? bytes with
    | none => (done, false)
    | some (line, rest) =>
      match chunkSize? (Utf8.lossy line) with
      | none => (done, false)
      | some 0 => (done, hasTrailer (rest.length + 1) rest)
      | some size =>
        match rest.drop size with
        | 13 :: 10 :: after => chunksFrom fuel (done ++ rest.take size) after
        | _ => (done ++ rest.take size, false)

def Extent.arrival (status : UInt16) (bytes : List UInt8) : Extent → Arrival
  | .sized length => .response status (bytes.take length) (length ≤ bytes.length)
  | .connection => .response status bytes true
  | .chunks =>
    let (body, isWhole) := chunksFrom (bytes.length + 1) [] bytes
    .response status body isWhole

def Arrival.ofBytesFrom : Nat → List UInt8 → Arrival
  | 0, _ => .closed
  | fuel + 1, bytes =>
    match Head.read? bytes with
    | none => .closed
    | some (head, rest) =>
      let status := head.first.status
      if informs status then Arrival.ofBytesFrom fuel rest
      else if !isFinal status then .closed
      else if hasNoBody status then .response (UInt16.ofNat status) [] true
      else (head.extent?.map (Extent.arrival (UInt16.ofNat status) rest)).getD .closed

def Arrival.ofBytes (bytes : List UInt8) : Arrival :=
  -- A head takes at least one byte.
  Arrival.ofBytesFrom (bytes.length + 1) bytes

end Catalog.Wire
