import Registrar.Account.Service
import Registrar.Api.Answer
import Registrar.Api.Fields

/-! # Routes

* `Route`: the three paths that are served, each with the methods that it takes.
* `Endpoint`: what is done for a route and a method.
* `respond`: the response to a request, the records to log, and the store afterwards.

Every response may be used from any origin. `OPTIONS` is answered as a preflight request on every
path, before the request is logged.
-/

namespace Registrar.Api
open Http
set_option autoImplicit false

inductive Route where
  | register
  | login
  | health
  deriving DecidableEq, Repr

inductive Endpoint where
  | register
  | loginQuery
  | loginBody
  | health
  deriving DecidableEq, Repr

namespace Route

def path : Route → String
  | register => "/register"
  | login => "/login"
  | health => "/healthz"

def ofPath? (p : String) : Option Route := [register, login, health].find? fun r => r.path == p

def allow : Route → String
  | register => "POST"
  | login => "GET,HEAD,POST"
  | health => "GET,HEAD"

/-- What a method does on a route; `HEAD` does the same as `GET`. -/
def endpoint? (r : Route) (method : String) : Option Endpoint :=
  let isGet := method == "GET" || method == "HEAD"
  match r with
  | register => if method == "POST" then some .register else none
  | login =>
    if isGet then some .loginQuery else if method == "POST" then some .loginBody else none
  | health => if isGet then some .health else none

end Route

/-! ## Endpoints -/

section
variable {σ : Type} [Store σ]

def Endpoint.run (rules : Rules) (salt : Password.Salt) (r : Request) (s : σ) :
    Endpoint → Reply σ Response
  | .register =>
    match r.json?.bind Registration.ofJson? with
    | none => ⟨invalidBody, [.event .registerBodyRejected], [], s⟩
    | some registration => (Registrar.register rules salt registration s).map registerAnswer
  | .loginQuery =>
    match Credentials.ofQuery? r.target.query with
    | none => ⟨missingFields, [.event .loginQueryRejected], [], s⟩
    | some credentials => (Registrar.login rules credentials s).map loginAnswer
  | .loginBody =>
    match r.json?.bind Credentials.ofJson? with
    | none => ⟨invalidBody, [.event .loginBodyRejected], [], s⟩
    | some credentials => (Registrar.login rules credentials s).map loginAnswer
  | .health => .silent (.empty 200) s

end

/-! ## Headers -/

def originHeaders : List (String × String) :=
  [("access-control-allow-origin", "*"),
   ("vary", "origin, access-control-request-method, access-control-request-headers")]

def preflightHeaders : List (String × String) :=
  [("access-control-allow-headers", "*"), ("access-control-allow-methods", "*")]

def allowHeader (r : Route) : List (String × String) := [("allow", r.allow)]

/-- A response without a body for a target that no route serves. Its length is left unsaid when
the target has a path. -/
def unserved (target : Target) (r : Response) : Response :=
  if target.isRooted then r else r.withLength

/-- The answer to a preflight request; a route that is served adds what it allows. -/
def preflight (target : Target) : Response :=
  let r := (Response.empty 200).withHeaders (originHeaders ++ preflightHeaders)
  match Route.ofPath? target.path with
  | none => unserved target r
  | some route => r.withLength.withHeaders (allowHeader route)

/-- A response on a route that is served: with its length, and without its body for `HEAD`. -/
def dressed (method : String) (r : Response) : Response :=
  let r := r.withLength.withHeaders originHeaders
  if method == "HEAD" then r.withoutBody else r

/-! ## Requests -/

section
variable {σ : Type} [Store σ]

def dispatch (rules : Rules) (salt : Password.Salt) (r : Request) (s : σ) : Reply σ Response :=
  match Route.ofPath? r.target.path with
  | none => .silent (unserved r.target ((Response.empty 404).withHeaders originHeaders)) s
  | some route =>
    match route.endpoint? r.method with
    | none => .silent (dressed r.method ((Response.empty 405).withHeaders (allowHeader route))) s
    | some endpoint => (endpoint.run rules salt r s).map (dressed r.method)

def respond (rules : Rules) (salt : Password.Salt) (r : Request) (s : σ) : Reply σ Response :=
  if r.method == "OPTIONS" then .silent (preflight r.target) s
  else
    let reply := dispatch rules salt r s
    { reply with records := .request r.method r.target.path :: reply.records }

end

end Registrar.Api
