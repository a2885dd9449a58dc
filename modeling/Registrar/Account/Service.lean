import Registrar.Account.Error
import Registrar.Account.Store

/-! # Registration and login

* `Registration.validate`: the account to be stored, or what is wrong with the request.
* `register`: validate, then insert.
* `login`: look up the accounts with the username; one of them has to match.

Blankness decides only whether a field is given. What is stored and compared is what was sent.
-/

namespace Registrar
set_option autoImplicit false

/-! ## Validation -/

/-- The role, if the policy is met: a required role has to be given. -/
def Rules.role? (rules : Rules) (role : Option String) : Except AccountError (Option String) :=
  match rules.roles, given role with
  | .required, none => .error .missingFields
  | _, role => .ok role

/-- The account that a registration asks for, its password put into the form in which it is kept. -/
def Registration.validate (rules : Rules) (salt : Password.Salt) (r : Registration) :
    Except AccountError Account :=
  match given r.username, given r.email, given r.password with
  | some username, some email, some password =>
    match rules.role? r.role with
    | .error e => .error e
    | .ok role =>
      match rules.passwords.sealed salt password with
      | .error e => .error (.password e)
      | .ok password => .ok ⟨username, email, password, role⟩
  | _, _, _ => .error .missingFields

/-- A login with all required fields. -/
structure Attempt where
  username : String
  password : String
  role : Option String
  deriving DecidableEq, Repr

def Credentials.validate (rules : Rules) (c : Credentials) : Except AccountError Attempt :=
  match given c.username, given c.password with
  | some username, some password =>
    match rules.role? c.role with
    | .error e => .error e
    | .ok role => .ok ⟨username, password, role⟩
  | _, _ => .error .missingFields

/-- The row has the role asked for, if there is one, and a password that verifies. -/
def Attempt.matches (scheme : Password.Scheme) (c : Attempt) (a : Account) : Bool :=
  (match c.role with
    | some role => a.role == some role
    | none => true) &&
  scheme.verify a.password c.password

/-! ## The two services -/

variable {σ : Type} [Store σ]

/-- The event of a registration that got as far as the store. -/
def insertEvent (username : String) : Except StoreError Unit → Event
  | .ok () => .registered username
  | .error .conflict => .registrationConflict username
  | .error e => .insertFailed e

/-- What a registration gives for the answer of the store. -/
def insertResult : Except StoreError Unit → Except AccountError Unit
  | .ok () => .ok ()
  | .error .conflict => .error .conflict
  | .error e => .error (.store e)

theorem insertResult_eq_mapError (result : Except StoreError Unit) :
    insertResult result = result.mapError AccountError.ofStore := by
  cases result with
  | ok _ => rfl
  | error e => cases e <;> rfl

def register (rules : Rules) (salt : Password.Salt) (r : Registration) (s : σ) :
    Reply σ (Except AccountError Unit) :=
  match r.validate rules salt with
  | .error (.password e) => ⟨.error (.password e), [.event (.hashingFailed e)], [], s⟩
  | .error e => .silent (.error e) s
  | .ok account =>
    let reply := Store.insert account s
    ⟨insertResult reply.value,
      reply.records ++ [.event (insertEvent account.username reply.value)], reply.sent, reply.state⟩

def login (rules : Rules) (c : Credentials) (s : σ) : Reply σ (Except AccountError Unit) :=
  match c.validate rules with
  | .error e => .silent (.error e) s
  | .ok attempt =>
    let reply := Store.find attempt.username s
    match reply.value with
    | .error e =>
      ⟨.error (.ofStore e), reply.records ++ [.event (.lookupFailed e)], reply.sent, reply.state⟩
    | .ok rows =>
      if rows.any (attempt.matches rules.passwords) then
        ⟨.ok (), reply.records ++ [.event (.loginSucceeded attempt.username)], reply.sent,
          reply.state⟩
      else
        ⟨.error .invalidCredentials, reply.records ++ [.event (.loginRejected attempt.username)],
          reply.sent, reply.state⟩

end Registrar
