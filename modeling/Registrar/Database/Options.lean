import Registrar.Database.Error
import Registrar.Form
import Registrar.Text.Blank
import Registrar.Text.Numeral
import Registrar.Url.Parse

/-! # How to connect

What a URL and some variables say about a connection: where the server is, and whether the
connection has to be encrypted.

* `Options`: the answer; `Options.ofVariables`: what holds when a URL says nothing.
* `Options.Fault`: why a URL gives no options.
* `Options.read`: the parts of the URL from left to right, then the pairs of its query in order.
* `Endpoint`: the place to connect to.
-/

namespace Registrar.Database
open Text
set_option autoImplicit false

/-! ## Encryption -/

inductive Encryption where
  | disable
  | allow
  | prefer
  | require
  | verifyAuthority
  | verifyFull
  deriving DecidableEq, Repr

namespace Encryption

/-- The encryption with a name, in capital or small letters. -/
def ofName? (name : String) : Option Encryption :=
  match String.ofList (lower name.toList) with
  | "disable" => some disable
  | "allow" => some allow
  | "prefer" => some prefer
  | "require" => some require
  | "verify-ca" => some verifyAuthority
  | "verify-full" => some verifyFull
  | _ => none

/-- A connection without encryption is no answer. -/
def isNeeded : Encryption → Bool
  | disable | allow | prefer => false
  | require | verifyAuthority | verifyFull => true

end Encryption

/-! ## Options -/

structure Options where
  /-- The directory of a socket; it comes before the host. -/
  socket : Option String
  host : String
  port : Nat
  encryption : Encryption
  deriving DecidableEq, Repr

namespace Options

inductive Fault where
  | url (f : Url.Fault)
  /-- A part of the URL is no text. -/
  | encoding (f : Utf8.Flaw)
  | number (f : Numeral.Fault)
  | address
  | encryption (value : String)
  deriving DecidableEq, Repr

def defaultPort : Nat := 5432

def defaultHost : String := "localhost"

/-- What holds when a URL says nothing. A variable that does not parse is ignored. -/
def ofVariables (lookup : String → Option String) : Options where
  socket := none
  host := ((lookup "PGHOSTADDR").or (lookup "PGHOST")).getD defaultHost
  port := ((lookup "PGPORT").bind fun v => Numeral.bounded? 65535 v.toList).getD defaultPort
  encryption := ((lookup "PGSSLMODE").bind Encryption.ofName?).getD .prefer

/-! ## Parts of a URL -/

def decoded (cs : List Char) : Utf8.Bytes := Percent.decode (Utf8.encode (String.ofList cs))

def textOf (cs : List Char) : Except Fault String :=
  match Utf8.flaw? (decoded cs) with
  | some f => .error (.encoding f)
  | none => .ok (Utf8.decodeLossy (decoded cs))

/-- A host that begins with a slash is the directory of a socket. -/
def withHost (o : Options) (host : List Char) : Except Fault Options :=
  if (decoded host).head? = some 0x2F then
    (textOf host).map fun directory => { o with socket := some directory }
  else .ok { o with host := String.ofList host }

/-- The options with the host and the port of a URL; its other parts only have to be texts. -/
def withUrl (o : Options) (u : Url) : Except Fault Options := do
  let o ← match u.host with
    | none => .ok o
    | some host => o.withHost host
  let _ ← textOf u.username
  let _ ← textOf (u.password.getD [])
  let _ ← textOf (u.path.dropWhile (· == '/'))
  .ok { o with port := u.port.getD o.port }

/-! ## Pairs of a query -/

def number (bound : Nat) (s : String) : Except Fault Nat :=
  (Numeral.read bound s.toList).mapError .number

def isAddress (s : String) : Bool := Url.isDotted s.toList || Url.isColoned s.toList

/-- The options with one pair of a query; a pair with another name says nothing about them. -/
def withPair (o : Options) (p : String × String) : Except Fault Options :=
  match p.1 with
  | "sslmode" | "ssl-mode" =>
    match Encryption.ofName? p.2 with
    | none => .error (.encryption p.2)
    | some e => .ok { o with encryption := e }
  | "statement-cache-capacity" => (number 0xFFFFFFFFFFFFFFFF p.2).map fun _ => o
  | "host" =>
    if p.2.toList.head? = some '/' then .ok { o with socket := some p.2 }
    else .ok { o with host := p.2 }
  | "hostaddr" => if isAddress p.2 then .ok { o with host := p.2 } else .error .address
  | "port" => (number 65535 p.2).map fun n => { o with port := n }
  | _ => .ok o

def read (lookup : String → Option String) (url : String) : Except Fault Options := do
  let u ← (Url.parse url).mapError Fault.url
  let o ← (ofVariables lookup).withUrl u
  (Form.pairs (Utf8.encode (String.ofList u.query))).foldlM withPair o

end Options

/-! ## Endpoints -/

inductive Endpoint where
  | socket (path : String)
  | network (host : String) (port : Nat)
  deriving DecidableEq, Repr

/-- The socket in a directory, which is named for a port. -/
def Endpoint.inDirectory (directory : String) (port : Nat) : Endpoint :=
  socket (directory ++ "/.s.PGSQL." ++ toString port)

def Options.endpoint (o : Options) : Endpoint :=
  match o.socket with
  | some directory => .inDirectory directory o.port
  | none =>
    if o.host.toList.head? = some '/' then .inDirectory o.host o.port else .network o.host o.port

/-- A path that can be none. -/
def Endpoint.fault? : Endpoint → Option TransportFault
  | socket path =>
    if '\x00' ∈ path.toList then some .pathWithNul
    else if 108 ≤ path.utf8ByteSize then some .pathTooLong
    else none
  | network _ _ => none

end Registrar.Database
