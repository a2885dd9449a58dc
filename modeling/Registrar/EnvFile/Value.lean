import Registrar.Text.Alphanumeric

/-! # Values in an environment file

What follows the equals sign of a line. Single quotes take everything as it is; between double
quotes and outside quotes a backslash escapes, and a dollar sign puts in the value of a variable,
named by the letters and digits that follow or by what stands between braces.

* `Reading`: what a value is in the middle of.
* `readChar`: one character more.
* `value?`: the value, if nothing is left open and only blanks or a comment follow.
-/

namespace Registrar.EnvFile
open Text
set_option autoImplicit false

/-! ## Readings -/

inductive Reading where
  | text (quoted : Bool)
  | escape (quoted : Bool)
  | strong
  /-- The name of a variable, in reverse. -/
  | name (quoted : Bool) (seen : List Char)
  | braced (quoted : Bool) (seen : List Char)
  /-- After a blank: only blanks or a comment may follow. -/
  | ended
  | comment

/-- A reading and the value so far, in reverse. -/
abbrev Partial := Reading × List Char

/-! ## Characters -/

variable (lookup : String → Option String)

/-- The value so far with the value of a variable; an unknown one has none. -/
def substitute (seen out : List Char) : List Char :=
  ((lookup (String.ofList seen.reverse)).getD "").toList.reverse ++ out

def escaped? (c : Char) : Option Char :=
  if c ∈ ['\\', '\x27', '"', '$', ' '] then some c else if c = 'n' then some '\n' else none

def readChar (p : Partial) (c : Char) : Option Partial :=
  let out := p.2
  match p.1 with
  | .comment => some p
  | .ended =>
    if c = ' ' ∨ c = '\t' then some p else if c = '#' then some (.comment, out) else none
  | .escape quoted => (escaped? c).map fun d => (.text quoted, d :: out)
  | .strong => some (if c = '\x27' then (.text false, out) else (.strong, c :: out))
  | .name quoted seen =>
    if isAlphanumeric c then some (.name quoted (c :: seen), out)
    else if c = '\x7b' ∧ seen = [] then some (.braced quoted [], out)
    else if c = '$' then some (.name quoted [], substitute lookup seen out)
    else some (.text quoted, c :: substitute lookup seen out)
  | .braced quoted seen =>
    if c = '\x7d' then some (.text quoted, substitute lookup seen out)
    else some (.braced quoted (c :: seen), out)
  | .text quoted =>
    if c = '$' then some (.name quoted [], out)
    else if c = '\\' then some (.escape quoted, out)
    else if c = '"' then some (.text (!quoted), out)
    else if quoted then some (.text true, c :: out)
    else if c = '\x27' then some (.strong, out)
    else if c = ' ' ∨ c = '\t' then some (.ended, out)
    else some (.text false, c :: out)

/-! ## Whole values -/

/-- The value at the end of a line; quotes and braces have to be closed. -/
def finishValue : Partial → Option String
  | (.text true, _) | (.escape true, _) | (.name true _, _) | (.braced _ _, _)
  | (.strong, _) => none
  | (.name false seen, out) => some (String.ofList (substitute lookup seen out).reverse)
  | (.text false, out) | (.escape false, out) | (.ended, out) | (.comment, out) =>
    some (String.ofList out.reverse)

def value? (cs : List Char) : Option String :=
  (cs.foldlM (readChar lookup) (.text false, [])).bind (finishValue lookup)

end Registrar.EnvFile
