import Registrar.Url.Basic

/-! # Paths of URLs

A path is read segment by segment, and each segment either goes on with what is written so far or
takes something away from it.

* `isSingleDot`, `isDoubleDot`: the segments that stay and that go back.
* `isDriveLetter`: a segment that going back never leaves behind.
* `extend`, `resolve`: the path after one segment and after all of them.
* `pathOf`: the path that follows the host.
-/

namespace Registrar.Url
open Text
set_option autoImplicit false

/-! ## Segments -/

def isSingleDot (cs : List Char) : Bool := [".", "%2e"].contains (String.ofList (lower cs))

def isDoubleDot (cs : List Char) : Bool :=
  ["..", ".%2e", "%2e.", "%2e%2e"].contains (String.ofList (lower cs))

/-- A letter, and a colon or a bar. -/
def isDriveLetter : List Char → Bool
  | [c, d] => c.isAlpha && (d == ':' || d == '|')
  | _ => false

/-- A letter and a colon, as a drive letter is written in a path for files. -/
def isPlainDrive (cs : List Char) : Bool := isDriveLetter cs && cs.getLast? == some ':'

/-- What follows the last slash. -/
def lastSegment (p : List Char) : List Char := (p.reverse.takeWhile (· != '/')).reverse

/-- What comes before that, with the slash. -/
def beforeLast (p : List Char) : List Char := (p.reverse.dropWhile (· != '/')).reverse

/-! ## Going back -/

/-- The path without the slash at its end, so that the segment before the slash is the last one.
The slash at the root stays, and the one after a drive letter. -/
def withoutSlash (p : List Char) : List Char :=
  let q := p.dropLast
  if p.getLast? = some '/' ∧ '/' ∈ q ∧
      isDriveLetter ((lastSegment q).takeWhile (· != '\\')) = false
  then q
  else p

/-- The path without its last segment, which in a path for files may be a drive letter and stays. -/
def shorten (s : Scheme) (p : List Char) : List Char :=
  if s = .file ∧ isPlainDrive (lastSegment p) = true then p else beforeLast p

/-! ## Going on -/

/-- The path with a slash at its end. -/
def withSlash (p : List Char) : List Char := if p.getLast? = some '/' then p else p ++ ['/']

/-- A segment as it is written in a path: a drive letter at the root of files gets its colon. -/
def spelled (s : Scheme) (p segment : List Char) : List Char :=
  if s = .file ∧ p.length = 1 ∧ isDriveLetter segment = true then segment.take 1 ++ [':']
  else segment

/-- The path after one more segment, which ends at a slash or with the path. -/
def extend (s : Scheme) (p segment : List Char) (slash : Bool) : List Char :=
  if isDoubleDot segment then
    let q := shorten s (withoutSlash p)
    if slash then withSlash q else q
  else if isSingleDot segment then withSlash p
  else p ++ spelled s p segment ++ if slash then ['/'] else []

/-- The path after all segments. -/
def resolve (s : Scheme) (p : List Char) : List (List Char) → List Char
  | [] => p
  | [segment] => extend s p segment false
  | segment :: rest => resolve s (extend s p segment true) rest

/-- The path of what follows the host; only in the other schemes it may be empty. -/
def pathOf (s : Scheme) (cs : List Char) : List Char :=
  if cs = [] ∧ s = .other then []
  else
    let cs := if (cs.head?.map s.isSlash).getD false then cs.drop 1 else cs
    resolve s ['/'] (cs.splitOnP s.isSlash)

end Registrar.Url
