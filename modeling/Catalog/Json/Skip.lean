import Catalog.Json.Reader

set_option autoImplicit false

namespace Catalog.Json

inductive Frame where
  | list
  | object
  deriving DecidableEq, Repr

def Frame.closing : Frame → UInt8
  | .list => closeList
  | .object => closeObject

def Frame.unfinished : Frame → Cause
  | .list => .unfinishedList
  | .object => .unfinishedObject

def Frame.expectedEnd : Frame → Cause
  | .list => .expectedListEnd
  | .object => .expectedObjectEnd

-- Passes over the name of a member and its colon; an element of a list has neither.
def Frame.enter : Frame → Bytes → Except Fault Bytes
  | .list, left => .ok left
  | .object, left =>
    match skipBlanks left with
    | [] => stop .unfinishedObject []
    | b :: rest =>
      if b = quote then do
        let left ← skipText rest
        afterColon left
      else stopAt .keyNotString (b :: rest)

-- After a value: closes frames until a comma asks for another value, which is then where the bytes start,
-- or until none is open.
def resume : List Frame → Bytes → Except Fault (List Frame × Bytes)
  | [], left => .ok ([], left)
  | frame :: outer, left =>
    match skipBlanks left with
    | [] => stop frame.unfinished []
    | b :: rest =>
      if b = comma then do
        let left ← frame.enter rest
        .ok (frame :: outer, left)
      else if b = frame.closing then resume outer rest
      else stopAt frame.expectedEnd (b :: rest)

def openFrame (frame : Frame) (outer : List Frame) (left : Bytes) : Except Fault (List Frame × Bytes) :=
  match skipBlanks left with
  | [] => stop frame.unfinished []
  | b :: rest =>
    if b = frame.closing then resume outer rest
    else do
      let left ← frame.enter (b :: rest)
      .ok (frame :: outer, left)

def skipStep (frames : List Frame) (left : Bytes) : Except Fault (List Frame × Bytes) :=
  match skipBlanks left with
  | [] => stop .unfinishedValue []
  | b :: rest =>
    if b = openList then openFrame .list frames rest
    else if b = openObject then openFrame .object frames rest
    else do
      let left ←
        if b = 110 then word nullRest rest
        else if b = 116 then word trueRest rest
        else if b = 102 then word falseRest rest
        else if b = minus || isDigit b then skipNumber (b :: rest)
        else if b = quote then skipText rest
        else stopAt .expectedValue (b :: rest)
      resume frames left

def skipFrom : Nat → List Frame → Bytes → Except Fault Bytes
  | 0, _, left => stop .unfinishedValue left
  | fuel + 1, frames, left => do
    match ← skipStep frames left with
    | ([], left) => .ok left
    | (frames, left) => skipFrom fuel frames left

def skip (left : Bytes) : Except Fault Bytes :=
  -- Every step takes at least one byte.
  skipFrom (left.length + 1) [] left

end Catalog.Json
