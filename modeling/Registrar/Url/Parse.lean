import Registrar.Url.Path

/-! # Reading URLs

A text is read from the left: the scheme, the user, the host, the port, the path and the query. A
fragment is skipped. Control characters and spaces around the text, and tabs and line ends inside
it, do not count.

* `splitUser`, `takeHost`, `takePort`: the parts between two slashes and the path.
* `parse`: the URL, or its first fault.
-/

namespace Registrar.Url
open Text
set_option autoImplicit false

/-! ## Text -/

/-- The text without control characters and spaces at its ends, and without tabs and line ends. -/
def cleaned (s : String) : List Char :=
  let low (c : Char) : Bool := c.toNat ≤ 0x20
  (((s.toList.dropWhile low).reverse.dropWhile low).reverse).filter fun c =>
    c != '\t' && c != '\n' && c != '\r'

/-- The scheme, and what follows its colon. -/
def takeScheme (cs : List Char) : Option (Scheme × List Char) :=
  if (cs.head?.map Char.isAlpha).getD false then
    match cs.dropWhile Scheme.isSchemeChar with
    | ':' :: r => some (Scheme.ofName (cs.takeWhile Scheme.isSchemeChar), r)
    | _ => none
  else none

/-! ## The user -/

/-- What stands before and after the last sign `@`. -/
def splitLastAt (cs : List Char) : Option (List Char × List Char) :=
  if '@' ∈ cs then
    let r := cs.reverse
    some ((r.dropWhile (· != '@')).reverse.dropLast, (r.takeWhile (· != '@')).reverse)
  else none

structure User where
  name : List Char
  /-- An empty password is none. -/
  password : Option (List Char)

namespace User

def nobody : User := ⟨[], none⟩

def ofText (cs : List Char) : User :=
  let password := (cs.dropWhile (· != ':')).drop 1
  ⟨cs.takeWhile (· != ':'), if password = [] then none else some password⟩

def isNobody (u : User) : Bool := u.name.isEmpty && u.password.isNone

end User

/-- The user, and what follows it. An empty user before an empty host is refused. -/
def splitUser (s : Scheme) (cs : List Char) : Except Fault (User × List Char) :=
  match splitLastAt (cs.takeWhile fun c => !s.endsAuthority c) with
  | none => .ok (.nobody, cs)
  | some (user, host) =>
    let rest := host ++ cs.dropWhile fun c => !s.endsAuthority c
    if user = [] then
      if (rest.head?.map s.endsAuthority).getD false then .error .emptyHost else .ok (.nobody, rest)
    else .ok (.ofText user, rest)

/-! ## The host -/

/-- The host, and what follows it; between brackets a colon does not end it. -/
def takeHost (s : Scheme) (inside : Bool) : List Char → List Char × List Char
  | [] => ([], [])
  | c :: r =>
    if s.endsAuthority c || (c == ':' && !inside) then ([], c :: r)
    else
      let (host, rest) := takeHost s (if c = '[' then true else if c = ']' then false else inside) r
      (c :: host, rest)

/-- An address in brackets. -/
def bracketed (cs : List Char) : Except Fault (List Char) :=
  if cs.getLast? = some ']' && isColoned (cs.drop 1).dropLast then .ok cs else .error .badColoned

/-- The host of a scheme of the web or of files: a domain name or an address. -/
def webHost (cs : List Char) : Except Fault (List Char) :=
  if cs.head? = some '[' then bracketed cs
  else
    match Domain.ofHost? cs with
    | none => .error .badDomain
    | some name =>
      if name = [] then .error .emptyHost
      else if endsInNumber name && !isLoose name then .error .badDotted
      else .ok name

/-- Characters that no host has. -/
def isForbidden (c : Char) : Bool :=
  ['\x00', '\t', '\n', '\r', ' ', '#', '/', ':', '<', '>', '?', '@', '[', '\\', ']', '^',
    '|'].contains c

/-- The host of any other scheme; it may be empty. -/
def opaqueHost (cs : List Char) : Except Fault (List Char) :=
  if cs.head? = some '[' then bracketed cs
  else if cs.any isForbidden then .error .badHost
  else .ok cs

def readHost (s : Scheme) (cs : List Char) : Except Fault (List Char) :=
  match s with
  | .web _ | .file => if cs = [] then .error .emptyHost else webHost cs
  | .other => opaqueHost cs

/-! ## The port -/

/-- The port after a colon, and what follows it. -/
def takePort (s : Scheme) (cs : List Char) : Except Fault (Option Nat × List Char) :=
  match cs with
  | ':' :: r =>
    let digits := r.takeWhile Numeral.isDigit
    let rest := r.dropWhile Numeral.isDigit
    let ends := (rest.head?.map (['/', '\\', '?', '#'].contains ·)).getD true
    if Numeral.value digits ≤ 65535 ∧ ends = true then
      .ok (if digits = [] ∨ s.defaultPort? = some (Numeral.value digits) then none
        else some (Numeral.value digits), rest)
    else .error .badPort
  | _ => .ok (none, cs)

/-! ## All parts -/

/-- The path and the query of what follows the host. -/
def finish (user : User) (host : Option (List Char)) (port : Option Nat)
    (path : List Char → List Char) (cs : List Char) : Url :=
  let cs := cs.takeWhile (· != '#')
  { username := user.name
    password := user.password
    host, port
    path := path (cs.takeWhile (· != '?'))
    query := (cs.dropWhile (· != '?')).drop 1 }

/-- What follows two slashes, of a scheme that is not for files. -/
def afterSlashes (s : Scheme) (cs : List Char) : Except Fault Url := do
  let (user, cs) ← splitUser s cs
  let (text, cs) := takeHost s false cs
  let host ← readHost s text
  if host = [] ∧ cs.head? = some ':' then .error .emptyHost
  else
    let (port, cs) ← takePort s cs
    if host = [] ∧ user.isNobody = false then .error .emptyHost
    else .ok (finish user (if host = [] then none else some host) port (pathOf s) cs)

/-- A URL for files: a drive letter at the root takes the place of the host, and the slashes at the
front of the path are one. -/
def settled (u : Url) : Url :=
  let hasDrive := isPlainDrive ((u.path.drop 1).takeWhile (· != '/'))
  { u with
    host := if hasDrive then none else u.host
    path := '/' :: u.path.dropWhile (· == '/') }

/-- The host and what follows it in a URL for files; there is none before a drive letter. -/
def fileHost (cs : List Char) : Except Fault (Option (List Char) × List Char) :=
  let text := cs.takeWhile fun c => !Scheme.file.endsAuthority c
  if text = [] ∨ isDriveLetter text = true then .ok (none, cs)
  else
    (webHost text).map fun host =>
      (if host = "localhost".toList then none else some host,
        cs.dropWhile fun c => !Scheme.file.endsAuthority c)

/-- What follows the scheme for files. -/
def ofFile (cs : List Char) : Except Fault Url := do
  let (host, cs) ←
    match cs with
    | a :: b :: r =>
      if Scheme.file.isSlash a && Scheme.file.isSlash b then fileHost r else .ok (none, cs)
    | _ => .ok (none, cs)
  .ok (settled (finish .nobody host none (pathOf .file) cs))

def parse (text : String) : Except Fault Url :=
  match takeScheme (cleaned text) with
  | none => .error .noScheme
  | some (.file, cs) => ofFile cs
  | some (.web p, cs) =>
    afterSlashes (.web p) (cs.dropWhile fun c => c == '/' || c == '\\')
  | some (.other, '/' :: '/' :: cs) => afterSlashes .other cs
  | some (.other, '/' :: cs) => .ok (finish .nobody none none (pathOf .other) ('/' :: cs))
  | some (.other, cs) => .ok (finish .nobody none none id cs)

end Registrar.Url
