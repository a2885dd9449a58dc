/-! # Request targets

The path and the query of a request target: a path with an optional query and fragment, the same
after a scheme and an authority, or an asterisk. The fragment is dropped. A bare authority has an
empty path.
-/

namespace Registrar.Http
set_option autoImplicit false

structure Target where
  path : String
  query : Option String
  deriving DecidableEq, Repr

namespace Target

/-- A path with its query; an empty path is the root. -/
def ofPath (cs : List Char) : Target :=
  let cs := cs.takeWhile (· != '#')
  let path := cs.takeWhile (· != '?')
  { path := if path = [] then "/" else String.ofList path
    query :=
      match cs.dropWhile (· != '?') with
      | [] => none
      | _ :: query => some (String.ofList query) }

def isSchemeChar (c : Char) : Bool := c.isAlphanum || ['+', '-', '.', '~'].contains c

/-- What follows `://`, if a scheme comes first. -/
def afterScheme : List Char → Option (List Char)
  | ':' :: '/' :: '/' :: r => some r
  | c :: r => if isSchemeChar c then afterScheme r else none
  | [] => none

/-- The path begins at the root, so there is something to look for. -/
def isRooted (t : Target) : Bool := t.path.toList.head? == some '/'

def startsPath (c : Char) : Bool := c == '/' || c == '?' || c == '#'

def parse (s : String) : Target :=
  match s.toList with
  | ['*'] => ⟨"*", none⟩
  | '/' :: r => ofPath ('/' :: r)
  | cs =>
    match afterScheme cs with
    | some r => ofPath (r.dropWhile fun c => !startsPath c)
    | none => ⟨"", none⟩

end Target

end Registrar.Http
