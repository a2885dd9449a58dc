import Registrar.Text.Canonical
import Registrar.Text.Percent
import Registrar.Text.Utf8
import Registrar.Url.Domain.Direction
import Registrar.Url.Domain.Joining
import Registrar.Url.Domain.Mapping
import Registrar.Url.Punycode

/-! # Domain names

The host of a web address as a name in ASCII, by the nontransitional processing of UTS #46. The
host is percent-decoded; each of its characters gives way to what it is in a name; the canonical
form of the whole is split at its points.

* `isSound`: what may stand between two points.
* `Label`: what stands there, as it is written in ASCII and as it is read.
* `ofHost?`: the name that a host gives.
-/

namespace Registrar.Url.Domain
open Text
set_option autoImplicit false

/-! ## Characters -/

/-- Characters that have a meaning in a URL, controls and spaces. -/
def isForbidden (c : Char) : Bool :=
  c ≤ ' ' || c == '\x7f' ||
    ['%', '#', '/', ':', '<', '>', '?', '@', '[', '\\', ']', '^', '|'].contains c

def isAscii (c : Char) : Bool := c.toNat < 128

/-! ## Labels -/

/-- No character is forbidden, the first one is no mark, and joiners stand where they may. -/
def isSound (cs : List Char) : Bool :=
  !cs.any isForbidden && !(cs.head?.map Mark.isMark).getD false && joinersFit cs

structure Label where
  /-- As it is written in a name, in ASCII. -/
  name : List Char
  /-- As it is read. -/
  text : List Char

namespace Label

/-- What an encoded label begins with. -/
def sign : List Char := "xn--".toList

def longest : Nat := 1000

def longestEncoded : Nat := 2000

/-- A label of a text that is not encoded. -/
def ofText? (cs : List Char) : Option Label :=
  if !isSound cs then none
  else if cs.all isAscii then some ⟨cs, cs⟩
  else if cs.length ≤ longest then some ⟨sign ++ Punycode.encode cs, cs⟩
  else none

/-- A label of an encoded text. It stands for a text that needs it, and that is what it would be
in a name. -/
def ofEncoded? (cs : List Char) : Option Label :=
  if cs.all isAscii && cs.length ≤ longestEncoded then
    (Punycode.decode? cs).bind fun text =>
      if !text.all isAscii && text.all isKept && Canonical.form text == text && isSound text then
        some ⟨sign ++ cs, text⟩
      else none
  else none

def read? : List Char → Option Label
  | 'x' :: 'n' :: '-' :: '-' :: cs => ofEncoded? cs
  | cs => ofText? cs

end Label

/-! ## Names -/

/-- Either no label asks for a text from right to left, or all of them keep their directions. -/
def directionsFit (labels : List Label) : Bool :=
  !labels.any (fun l => l.text.any isRightward) || labels.all fun l => keepsDirection l.text

/-- The name that a host gives, if every label is one. -/
def ofHost? (cs : List Char) : Option (List Char) := do
  let s ← Utf8.decode? (Percent.decode (Utf8.encode (String.ofList cs)))
  let mapped ← s.toList.mapM map?
  let labels ← ((Canonical.form mapped.flatten).splitOn '.').mapM Label.read?
  if directionsFit labels then some (['.'].intercalate (labels.map Label.name)) else none

end Registrar.Url.Domain
