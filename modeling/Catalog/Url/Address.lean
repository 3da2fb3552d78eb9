import Catalog.Url.Host
import Catalog.Url.Path

set_option autoImplicit false

namespace Catalog.Url

structure Address where
  scheme : String
  user : String
  password : Option String
  host : Option String
  port : Option Nat
  path : String
  query : Option String
  fragment : Option String
  deriving DecidableEq, Repr

def Address.text (a : Address) : String :=
  let credentials :=
    match a.password with
    | some password => a.user ++ ":" ++ password ++ "@"
    | none => if a.user.isEmpty then "" else a.user ++ "@"
  let authority :=
    match a.host with
    | some host => "//" ++ credentials ++ host ++ (a.port.map fun port => ":" ++ toString port).getD ""
    | none =>
      if a.scheme == "file" then "//"
      -- A path that starts with two slashes must not be taken for a host.
      else if "//".isPrefixOf a.path then "/."
      else ""
  a.scheme ++ ":" ++ authority ++ a.path ++ (a.query.map ("?" ++ ·)).getD "" ++ (a.fragment.map ("#" ++ ·)).getD ""

def Address.hasHost (a : Address) : Bool :=
  a.host.any (!·.isEmpty)

def Address.target (a : Address) : String :=
  a.path ++ (a.query.map ("?" ++ ·)).getD ""

def defaultPort? (scheme : String) : Option Nat :=
  match scheme with
  | "http" | "ws" => some 80
  | "https" | "wss" => some 443
  | "ftp" => some 21
  | _ => none

-- Schemes whose addresses always have a host and a path.
def isSpecial (scheme : String) : Bool :=
  (defaultPort? scheme).isSome || scheme == "file"

def Address.port? (a : Address) : Option Nat :=
  a.port <|> defaultPort? a.scheme

def scheme? (text : List Char) : Option (String × List Char) :=
  match Text.cut ':' text with
  | (name@(first :: _), some after) =>
    if first.isAlpha && name.all fun c => c.isAlphanum || c == '+' || c == '-' || c == '.' then
      some (String.ofList (name.map Char.toLower), after)
    else none
  | _ => none

def portNumber (scheme : String) (digits : List Char) : Except Fault (Option Nat) :=
  let value := digits.foldl (fun value c => value * 10 + (c.toNat - 48)) 0
  if value ≥ UInt16.size then .error .invalidPort
  -- The port that the scheme implies is left out.
  else if digits.isEmpty || defaultPort? scheme == some value then .ok none
  else .ok (some value)

/-- The host, and what follows it. Colons in brackets belong to the host. -/
def hostPart (inside : Bool) : List Char → List Char × List Char
  | [] => ([], [])
  | c :: rest =>
    if c == ':' && !inside then ([], c :: rest)
    else
      let (front, back) := hostPart (c == '[' || (inside && c != ']')) rest
      (c :: front, back)

/-- The port after a host, and what follows it; only a slash of the other kind can. -/
def portPart (scheme : String) (text : List Char) : Except Fault (Option Nat × List Char) :=
  match text with
  | ':' :: text =>
    let digits := text.takeWhile isDecimal
    let rest := text.dropWhile isDecimal
    if rest.isEmpty || rest.head? == some '\\' then (portNumber scheme digits).map fun number => (number, rest)
    else .error .invalidPort
  | _ => .ok (none, text)

def Address.withAuthority (address : Address) (isSpecial : Bool) (text : List Char) : Except Fault Address := do
  let ends (c : Char) := c == '/' || (isSpecial && c == '\\')
  let authority := text.takeWhile (!ends ·)
  let rest := text.dropWhile (!ends ·)
  let (credentials, server) := Text.cutLast '@' authority
  let isFollowed := !rest.isEmpty || address.query.isSome || address.fragment.isSome
  let (user, password) := Text.cut ':' (credentials.getD [])
  let password := password.filter (!·.isEmpty)
  if credentials == some [] && server.isEmpty && isFollowed then .error .emptyHost
  else
    let (hostText, after) := hostPart false server
    let host ← if isSpecial then namedHost hostText else opaqueHost hostText
    -- Nobody can sign in, and no port can be, where there is no host.
    if host.isEmpty && (!after.isEmpty || !user.isEmpty || password.isSome) then .error .emptyHost
    else
      let (number, after) ← portPart address.scheme after
      .ok
        { address with
          user := encodeMarks userMarks user
          password := password.map (encodeMarks userMarks)
          host := some host
          port := number
          path := pathAfter isSpecial (after ++ rest) }

def Address.withFile (address : Address) (host : Option String) (text : List Char) : Address :=
  let segments := segments true true text
  -- Files of a drive are on no host.
  let host := if (segments.head?.map isDrive).getD false then none else host
  let named := segments.dropWhile List.isEmpty
  { address with host := host, path := pathText (if named.isEmpty then [[]] else named) }

def localName : String := "localhost"

def Address.ofFile (address : Address) (text : List Char) : Except Fault Address :=
  match text with
  | a :: b :: rest =>
    if isSlash a && isSlash b then
      let hostText := rest.takeWhile (!isSlash ·)
      let after := rest.dropWhile (!isSlash ·)
      if isDrive hostText then .ok (address.withFile none rest)
      else if hostText.isEmpty then .ok (address.withFile none after)
      else do
        let name ← namedHost hostText
        if name == localName then .ok (address.withFile none after)
        else .ok (address.withFile (some name) (dropSlash true after))
    else .ok (address.withFile none (dropSlash true text))
  | _ => .ok (address.withFile none (dropSlash true text))

-- Blanks and controls at both ends count for nothing, nor do tabs and line ends anywhere.
def trimmed (text : List Char) : List Char :=
  let blank (c : Char) : Bool := c.toNat ≤ 32
  let inner := ((text.dropWhile blank).reverse.dropWhile blank).reverse
  inner.filter fun c => c != '\t' && c != '\n' && c != '\r'

def read (text : String) : Except Fault Address :=
  match scheme? (trimmed text.toList) with
  | none => .error .relative
  | some (scheme, after) =>
    let isSpecial := isSpecial scheme
    let (front, fragment) := Text.cut '#' after
    let (front, query) := Text.cut '?' front
    let queryMarks := if isSpecial then '\'' :: queryMarks else queryMarks
    let address : Address :=
      { scheme := scheme
        user := ""
        password := none
        host := none
        port := none
        path := ""
        query := query.map (encodeMarks queryMarks)
        fragment := fragment.map (encodeMarks fragmentMarks) }
    if scheme == "file" then address.ofFile front
    else if isSpecial then address.withAuthority true (front.dropWhile isSlash)
    else
      match front with
      | '/' :: '/' :: rest => address.withAuthority false rest
      | '/' :: rest => .ok { address with path := pathText (segments false false rest) }
      | _ => .ok { address with path := encodeMarks [] front }

end Catalog.Url
