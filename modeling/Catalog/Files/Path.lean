import Catalog.Text.Split

set_option autoImplicit false

namespace Catalog.Path

def segments (path : List Char) : List (List Char) :=
  Text.splitAt '/' path

def join (segments : List (List Char)) : List Char :=
  Text.joinWith '/' segments

theorem join_segments (path : List Char) : join (segments path) = path :=
  Text.joinWith_splitAt '/' path

def isAbsolute (path : List Char) : Bool :=
  path.head? == some '/'

def isIdle (segment : List Char) : Bool :=
  segment.isEmpty || segment == ['.']

def isUp (segment : List Char) : Bool :=
  segment == ['.', '.']

def names (path : List Char) : List (List Char) :=
  (segments path).filter (!isIdle ·)

inductive Component where
  | root
  | here
  | up
  | name (segment : List Char)
  deriving DecidableEq, Repr

def component? (segment : List Char) : Option Component :=
  if isIdle segment then none else if isUp segment then some .up else some (.name segment)

/-- Reads on, where `read` is what was read since the last slash, the last character first. -/
def componentsFrom (read : List Char) : List Char → List Component
  | [] => (component? read.reverse).toList
  | c :: rest =>
    if c = '/' then (component? read.reverse).toList ++ componentsFrom [] rest
    else componentsFrom (c :: read) rest

def components (path : List Char) : List Component :=
  match path with
  | '/' :: rest => .root :: componentsFrom [] rest
  | ['.'] => [.here]
  | '.' :: '/' :: rest => .here :: componentsFrom [] rest
  | _ => componentsFrom [] path

def Component.name? : Component → Option (List Char)
  | .name segment => some segment
  | .root | .here | .up => none

def Component.isInner : Component → Bool
  | .here | .name _ => true
  | .root | .up => false

def staysBelow (path : List Char) : Bool :=
  (components path).all Component.isInner

-- Only for a relative path, which is joined as it is written.
def below (directory path : List Char) : List Char :=
  match directory.getLast? with
  | none => path
  | some '/' => directory ++ path
  | some _ => directory ++ '/' :: path

def start (path : List Char) : List Char :=
  match path with
  | '/' :: _ => ['/']
  | ['.'] => ['.']
  | '.' :: '/' :: _ => ['.']
  | _ => []

-- The path of the directory that a path is in: the text without its last name and without the slashes and
-- dots that then end it. A root and an empty text have none.
def parent? (path : List Char) : Option (List Char) :=
  let first := start path
  match (segments (path.drop first.length)).reverse.dropWhile isIdle with
  | _ :: before => some (first ++ join (before.dropWhile isIdle).reverse)
  | [] => if first == ['.'] then some [] else none

end Catalog.Path
