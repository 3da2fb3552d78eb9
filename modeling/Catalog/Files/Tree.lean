import Catalog.Files.Path

set_option autoImplicit false

namespace Catalog

inductive IoError where
  | notFound
  | exists
  | notDirectory
  | isDirectory
  | nameTooLong
  | nulByte
  /-- A fault of another kind, in the words of the system. A tree has none. -/
  | other (text : String)
  deriving DecidableEq, Repr

def IoError.message : IoError → String
  | .notFound => "No such file or directory (os error 2)"
  | .exists => "File exists (os error 17)"
  | .notDirectory => "Not a directory (os error 20)"
  | .isDirectory => "Is a directory (os error 21)"
  | .nameTooLong => "File name too long (os error 36)"
  | .nulByte => "file name contained an unexpected NUL byte"
  | .other text => text

inductive Node where
  | file (bytes : List UInt8)
  | directory
  deriving DecidableEq, Repr

abbrev Place := List (List Char)

structure Tree where
  entries : List (Place × Node)
  home : Place
  deriving Repr

namespace Tree

def at? (tree : Tree) (place : Place) : Option Node :=
  if place.isEmpty then some .directory else tree.entries.lookup place

def isDirectoryAt (tree : Tree) (place : Place) : Bool :=
  tree.at? place == some .directory

def replace (place : Place) (node : Node) : List (Place × Node) → List (Place × Node)
  | [] => [(place, node)]
  | entry :: rest => if entry.1 = place then (place, node) :: rest else entry :: replace place node rest

def put (tree : Tree) (place : Place) (node : Node) : Tree :=
  { tree with entries := replace place node tree.entries }

theorem lookup_replace (place other : Place) (node : Node) (entries : List (Place × Node)) :
    (replace place node entries).lookup other =
      if other = place then some node else entries.lookup other := by
  induction entries with
  | nil =>
    by_cases same : other = place
    · simp [replace, same]
    · simp [replace, List.lookup_cons, same, beq_eq_false_iff_ne.2 same]
  | cons entry rest ih =>
    obtain ⟨key, value⟩ := entry
    by_cases here : key = place <;> by_cases same : other = place
    · simp [replace, here, same]
    · simp [replace, here, same, List.lookup_cons, beq_eq_false_iff_ne.2 same]
    · subst same
      simp [replace, here, List.lookup_cons, ih, beq_eq_false_iff_ne.2 (Ne.symm here)]
    · simp [replace, here, List.lookup_cons, ih, same]

theorem at?_put (tree : Tree) (place other : Place) (node : Node) (named : place ≠ []) :
    (tree.put place node).at? other = if other = place then some node else tree.at? other := by
  cases other with
  | nil => simp [at?, Ne.symm named]
  | cons name rest => simp [at?, put, lookup_replace]

@[simp] theorem home_put (tree : Tree) (place : Place) (node : Node) :
    (tree.put place node).home = tree.home := rfl

-- Paths of this many bytes are refused unread.
def pathLimit : Nat := 4096

def nameLimit : Nat := 255

def byteLength : List Char → Nat
  | [] => 0
  | c :: rest => c.utf8Size + byteLength rest

def checkPath (path : List Char) : Except IoError Unit :=
  if path.contains '\x00' then .error .nulByte
  else if path.isEmpty then .error .notFound
  else if byteLength path ≥ pathLimit then .error .nameTooLong
  else .ok ()

/-- Follows segments from a place. Above the root is the root. -/
def walk (tree : Tree) : Place → List (List Char) → Except IoError Place
  | place, [] => .ok place
  | place, segment :: rest =>
    if !tree.isDirectoryAt place then .error .notDirectory
    else if Path.isIdle segment then walk tree place rest
    else if Path.isUp segment then walk tree place.dropLast rest
    else if byteLength segment > nameLimit then .error .nameTooLong
    else
      match tree.at? (place ++ [segment]) with
      | some _ => walk tree (place ++ [segment]) rest
      | none => .error .notFound

def origin (tree : Tree) (path : List Char) : Place :=
  if Path.isAbsolute path then [] else tree.home

def locate (tree : Tree) (path : List Char) : Except IoError (Place × List Char) := do
  checkPath path
  -- Slashes at the end do not count.
  match ((Path.segments path).filter (!·.isEmpty)).reverse with
  | [] => .ok ([], ['.'])
  | last :: before =>
    let place ← tree.walk (tree.origin path) before.reverse
    if tree.isDirectoryAt place then .ok (place, last) else .error .notDirectory

def isDirectory (tree : Tree) (path : List Char) : Bool :=
  match tree.locate path with
  | .error _ => false
  | .ok (place, last) =>
    match tree.walk place [last] with
    | .ok place => tree.isDirectoryAt place
    | .error _ => false

def makeDirectory (tree : Tree) (path : List Char) : Except IoError Unit × Tree :=
  match tree.locate path with
  | .error error => (.error error, tree)
  | .ok (place, last) =>
    if Path.isIdle last || Path.isUp last then (.error .exists, tree)
    else if byteLength last > nameLimit then (.error .nameTooLong, tree)
    else if (tree.at? (place ++ [last])).isSome then (.error .exists, tree)
    else (.ok (), tree.put (place ++ [last]) .directory)

def makeDirectoriesFrom : Nat → List Char → Tree → Except IoError Unit × Tree
  | 0, _, tree => (.ok (), tree)
  | fuel + 1, path, tree =>
    if path.isEmpty then (.ok (), tree)
    else
      match tree.makeDirectory path with
      | (.ok (), made) => (.ok (), made)
      | (.error .notFound, _) =>
        match Path.parent? path with
        | none => (.error .notFound, tree)
        | some parent =>
          match makeDirectoriesFrom fuel parent tree with
          | (.error error, made) => (.error error, made)
          | (.ok (), made) => orPresent path (made.makeDirectory path)
      | failed => orPresent path failed
where
  -- A directory that is there already is as good as one that was made.
  orPresent (path : List Char) : Except IoError Unit × Tree → Except IoError Unit × Tree
    | (.ok (), made) => (.ok (), made)
    | (.error error, made) => if made.isDirectory path then (.ok (), made) else (.error error, made)

def makeDirectories (tree : Tree) (path : List Char) : Except IoError Unit × Tree :=
  -- The path of a parent is shorter, so the length bounds the directories above.
  makeDirectoriesFrom (path.length + 1) path tree

def writeFile (tree : Tree) (path : List Char) (bytes : List UInt8) : Except IoError Unit × Tree :=
  match tree.locate path with
  | .error error => (.error error, tree)
  | .ok (place, last) =>
    -- A path that ends in a slash cannot name a file.
    if path.getLast? = some '/' || Path.isIdle last || Path.isUp last then (.error .isDirectory, tree)
    else if byteLength last > nameLimit then (.error .nameTooLong, tree)
    else
      match tree.at? (place ++ [last]) with
      | some .directory => (.error .isDirectory, tree)
      | _ => (.ok (), tree.put (place ++ [last]) (.file bytes))

end Tree

end Catalog
