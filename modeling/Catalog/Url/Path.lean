import Catalog.Text.Split
import Catalog.Url.Encode

set_option autoImplicit false

namespace Catalog.Url

def isSlash (c : Char) : Bool :=
  c == '/' || c == '\\'

def isSingleDot (segment : List Char) : Bool :=
  [".", "%2e"].contains (String.ofList (segment.map Char.toLower))

def isDoubleDot (segment : List Char) : Bool :=
  ["..", "%2e%2e", "%2e.", ".%2e"].contains (String.ofList (segment.map Char.toLower))

-- A letter and a colon or bar.
def isDrive (segment : List Char) : Bool :=
  match segment with
  | [c, d] => c.isAlpha && (d == ':' || d == '|')
  | _ => false

-- The drive may be followed by a slash that does not end the segment.
def startsWithDrive (segment : List Char) : Bool :=
  isDrive (segment.take 2) && (segment.length == 2 || (segment.drop 2).head? == some '\\')

def driveName (segment : List Char) : List Char :=
  if isDrive segment then segment.take 1 ++ [':'] else segment

/-- Resolves dot segments. `done` holds the segments before, from the last to the first. -/
def resolve (isFile : Bool) (done : List (List Char)) : List (List Char) → List (List Char)
  | [] => done.reverse
  | segment :: rest =>
    if isDoubleDot segment then
      let kept :=
        match done with
        | last :: before => if startsWithDrive last then done else before
        | [] => []
      -- A dot segment at the end leaves an empty one.
      resolve isFile (if rest.isEmpty then [] :: kept else kept) rest
    else if isSingleDot segment then
      resolve isFile (if rest.isEmpty then [] :: done else done) rest
    else
      resolve isFile ((if isFile && done.isEmpty then driveName segment else segment) :: done) rest

def segments (isSpecial isFile : Bool) (text : List Char) : List (List Char) :=
  let text := if isSpecial then text.map fun c => if c = '\\' then '/' else c else text
  resolve isFile [] (Text.splitAt '/' text)

def pathText (segments : List (List Char)) : String :=
  "/" ++ "/".intercalate (segments.map (encodeMarks pathMarks))

def dropSlash (isSpecial : Bool) (text : List Char) : List Char :=
  match text with
  | c :: rest => if c == '/' || (isSpecial && c == '\\') then rest else text
  | [] => []

def pathAfter (isSpecial : Bool) (text : List Char) : String :=
  if !isSpecial && text.isEmpty then ""
  else pathText (segments isSpecial false (dropSlash isSpecial text))

end Catalog.Url
