/-! # Media types

When the media type in a header is one of JSON: `application/json`, or any `application` type with
the suffix `+json`, in any case, with well-formed parameters.

* `Part`, `Part.next`: a machine for the parameters, one character at a time.
* `isJson`: the decision.
-/

namespace Registrar.Http.MediaType
set_option autoImplicit false

/-! ## Characters -/

def isToken (c : Char) : Bool :=
  c.isAlphanum ||
    ['!', '#', '$', '%', '&', '\x27', '*', '+', '-', '.', '^', '_', '\x60', '|', '~'].contains c

/-- The characters of a header that can be read as text. -/
def isVisible (c : Char) : Bool := (' ' ≤ c && c ≤ '~') || c == '\t'

/-- The characters that may stand in a quoted value. -/
def isQuotable (c : Char) : Bool := ' ' ≤ c && c ≤ '~'

/-! ## Parameters -/

inductive Part where
  /-- Before a name; spaces are skipped. -/
  | gap
  | name
  | valueStart
  | value
  /-- After an opening quote; the next character always belongs to the value. -/
  | quotedStart
  | quoted
  /-- After a closing quote; spaces are skipped. -/
  | closed
  deriving DecidableEq, Repr

namespace Part

def next : Part → Char → Option Part
  | gap, c => if c = ' ' then some gap else if isToken c then some name else none
  | name, c => if c = '=' then some valueStart else if isToken c then some name else none
  | valueStart, c =>
    if c = '"' then some quotedStart else if isToken c then some value else none
  | value, c => if c = ';' then some gap else if isToken c then some value else none
  | quotedStart, c => if isQuotable c then some quoted else none
  | quoted, c => if c = '"' then some closed else if isQuotable c then some quoted else none
  | closed, c => if c = ';' then some gap else if c = ' ' then some closed else none

def complete : Part → Bool
  | gap | valueStart | value | closed => true
  | name | quotedStart | quoted => false

end Part

/-- What follows the first semicolon is a list of parameters. -/
def isParameters (cs : List Char) : Bool :=
  ((cs.foldlM Part.next .gap).map Part.complete).getD false

/-! ## The type itself -/

def lowerAscii (cs : List Char) : List Char := cs.map Char.toLower

/-- A subtype without its suffix, and the suffix after its last plus sign, in lower case. A plus
sign at the front starts no suffix. -/
def splitSuffix (cs : List Char) : List Char × Option (List Char) :=
  let cs := lowerAscii cs
  match cs with
  | [] => ([], none)
  | c :: r =>
    if r.contains '+' then
      let suffix := (r.reverse.takeWhile (· != '+')).reverse
      (c :: (r.take (r.length - suffix.length - 1)), some suffix)
    else (cs, none)

/-- The subtype, which is not empty, ends the text or is followed by parameters. -/
def endsWell (subtype rest : List Char) : Bool :=
  match rest with
  | [] => true
  | c :: ps => c == ';' && !subtype.isEmpty && isParameters ps

def isJson (s : String) : Bool :=
  let cs := s.toList
  let type := cs.takeWhile isToken
  match cs.dropWhile isToken with
  | '/' :: r =>
    let subtype := r.takeWhile isToken
    let (base, suffix) := splitSuffix subtype
    cs.all isVisible && endsWell subtype (r.dropWhile isToken) &&
      lowerAscii type == "application".toList &&
      (base == "json".toList || suffix == some "json".toList)
  | _ => false

end Registrar.Http.MediaType
