import Catalog.Json.Value

set_option autoImplicit false

namespace Catalog.Json

/-- Finds the next element of a list: the bytes where it starts, or none with the bytes after the
closing bracket. -/
def nextElement (isFirst : Bool) (left : Bytes) : Except Fault (Bool × Bytes) :=
  match skipBlanks left with
  | [] => stop .unfinishedList []
  | b :: rest =>
    if b = closeList then .ok (false, rest)
    else if isFirst then .ok (true, b :: rest)
    else if b = comma then
      match skipBlanks rest with
      | [] => stop .unfinishedValue []
      | c :: rest => if c = closeList then stopAt .trailingComma (c :: rest) else .ok (true, c :: rest)
    else stopAt .expectedListEnd (b :: rest)

def elementsFrom {α : Type} (read : Reader α) : Nat → Bool → List α → Reader (List α)
  | 0, _, _, left => stop .unfinishedList left
  | fuel + 1, isFirst, done, left => do
    let (more, left) ← nextElement isFirst left
    if more then
      let (x, left) ← read left
      elementsFrom read fuel false (x :: done) left
    else .ok (done.reverse, left)

def elements {α : Type} (read : Reader α) (left : Bytes) : Except Fault (List α × Bytes) :=
  -- An element takes at least one byte.
  elementsFrom read (left.length + 1) true [] left

def nextName (isFirst : Bool) (left : Bytes) : Except Fault (Option String × Bytes) :=
  match skipBlanks left with
  | [] => stop .unfinishedObject []
  | b :: rest =>
    if b = closeObject then .ok (none, rest)
    else if isFirst then
      if b = quote then named rest else stopAt .keyNotString (b :: rest)
    else if b = comma then
      match skipBlanks rest with
      | [] => stop .unfinishedValue []
      | c :: rest =>
        if c = quote then named rest
        else if c = closeObject then stopAt .trailingComma (c :: rest)
        else stopAt .keyNotString (c :: rest)
    else stopAt .expectedObjectEnd (b :: rest)
where
  named (left : Bytes) : Except Fault (Option String × Bytes) := do
    let (name, left) ← text left
    .ok (some name, left)

def afterColon (left : Bytes) : Except Fault Bytes :=
  match skipBlanks left with
  | [] => stop .unfinishedObject []
  | b :: rest => if b = colon then .ok rest else stopAt .expectedColon (b :: rest)

def membersFrom {α : Type} (read : Reader α) :
    Nat → Bool → List (String × α) → Reader (List (String × α))
  | 0, _, _, left => stop .unfinishedObject left
  | fuel + 1, isFirst, done, left => do
    match ← nextName isFirst left with
    | (none, left) => .ok (done.reverse, left)
    | (some name, left) =>
      let left ← afterColon left
      let (x, left) ← read left
      membersFrom read fuel false ((name, x) :: done) left

def members {α : Type} (read : Reader α) (left : Bytes) : Except Fault (List (String × α) × Bytes) :=
  membersFrom read (left.length + 1) true [] left

def depthLimit : Nat := 128

def value : Nat → Reader Value
  | depth, left =>
    match skipBlanks left with
    | [] => stop .unfinishedValue []
    | b :: rest =>
      if b = 110 then do
        let left ← word nullRest rest
        .ok (.null, left)
      else if b = 116 then do
        let left ← word trueRest rest
        .ok (.bool true, left)
      else if b = 102 then do
        let left ← word falseRest rest
        .ok (.bool false, left)
      else if b = minus || isDigit b then do
        let (n, left) ← number (b :: rest)
        .ok (.number n, left)
      else if b = quote then do
        let (s, left) ← text rest
        .ok (.string s, left)
      else if b = openList || b = openObject then
        -- The bracket that would reach the limit is refused.
        match depth with
        | 0 | 1 => stopAt .tooDeep (b :: rest)
        | depth + 1 =>
          if b = openList then do
            let (xs, left) ← elements (value depth) rest
            .ok (.list xs, left)
          else do
            let (ms, left) ← members (value depth) rest
            -- Of members of one name the last is kept.
            .ok (.object (lastMembers ms), left)
      else stopAt .expectedValue (b :: rest)

def finish {α : Type} (result : α × Bytes) : Except Fault α :=
  match skipBlanks result.2 with
  | [] => .ok result.1
  | left => stopAt .trailingCharacters left

def readAll {α : Type} (read : Reader α) (bytes : Bytes) : Except Failure α :=
  (read bytes >>= finish).mapError (·.place bytes)

def Value.read (bytes : Bytes) : Except Failure Value :=
  readAll (value depthLimit) bytes

end Catalog.Json
