import Registrar.Text.Blank
import Registrar.Url.Address
import Registrar.Url.Domain

/-! # URLs

* `Url`: what a URL says about a server; percent-encoded parts are kept as they are written.
* `Fault`: why a text is no URL.
* `Scheme`: the kinds of scheme, which have rules of their own for slashes and hosts.
-/

namespace Registrar
set_option autoImplicit false

structure Url where
  username : List Char
  password : Option (List Char)
  host : Option (List Char)
  port : Option Nat
  path : List Char
  query : List Char
  deriving DecidableEq, Repr

namespace Url

inductive Fault where
  | noScheme
  | emptyHost
  | badHost
  | badDomain
  | badDotted
  | badColoned
  | badPort
  deriving DecidableEq, Repr

/-! ## Schemes -/

inductive Scheme where
  | file
  /-- A scheme of the web, with the port that is meant when none is given. -/
  | web (port : Nat)
  | other
  deriving DecidableEq, Repr

namespace Scheme

def isSchemeChar (c : Char) : Bool := c.isAlphanum || c == '+' || c == '-' || c == '.'

def ofName (cs : List Char) : Scheme :=
  let name := Text.lower cs
  if name = "file".toList then file
  else if name = "http".toList ∨ name = "ws".toList then web 80
  else if name = "https".toList ∨ name = "wss".toList then web 443
  else if name = "ftp".toList then web 21
  else other

/-- A backslash is a slash outside the other schemes. -/
def isSlash (s : Scheme) (c : Char) : Bool := c == '/' || (c == '\\' && s != other)

/-- The character ends the part with the user and the host. -/
def endsAuthority (s : Scheme) (c : Char) : Bool := s.isSlash c || c == '?' || c == '#'

def defaultPort? : Scheme → Option Nat
  | web p => some p
  | file | other => none

end Scheme

end Url

end Registrar
