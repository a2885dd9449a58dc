import Registrar.Database.Error

/-! # Log records

* `Event`: what the registrar reports about its work, with a level, a text and named values.
* `Record`: an event, or the opening of a request.
-/

namespace Registrar
set_option autoImplicit false

inductive Level where
  | debug
  | info
  | warn
  | error
  deriving DecidableEq, Repr

def Level.name : Level → String
  | debug => "DEBUG"
  | info => "INFO"
  | warn => "WARN"
  | error => "ERROR"

inductive Event where
  | registered (username : String)
  | registrationConflict (username : String)
  | insertFailed (e : StoreError)
  | hashingFailed (e : Password.HashError)
  | rollbackFailed (e : Database.Error)
  | loginSucceeded (username : String)
  | loginRejected (username : String)
  | lookupFailed (e : StoreError)
  | registerBodyRejected
  | loginBodyRejected
  | loginQueryRejected
  deriving DecidableEq, Repr

namespace Event

def level : Event → Level
  | registered _ | loginSucceeded _ => .info
  | registrationConflict _ | rollbackFailed _ | loginRejected _ => .warn
  | insertFailed _ | hashingFailed _ | lookupFailed _ => .error
  | registerBodyRejected | loginBodyRejected | loginQueryRejected => .debug

def message : Event → String
  | registered _ => "account registered"
  | registrationConflict _ => "registration conflict"
  | insertFailed _ => "account insert failed"
  | hashingFailed _ => "password hashing failed"
  | rollbackFailed _ => "rollback after failed insert failed"
  | loginSucceeded _ => "login succeeded"
  | loginRejected _ => "login rejected"
  | lookupFailed _ => "account lookup failed"
  | registerBodyRejected => "register body rejected"
  | loginBodyRejected => "login body rejected"
  | loginQueryRejected => "login query rejected"

/-- The named values. The three events of a rejected body or query have an error too, in the words
of the decoder, which is left out. -/
def fields : Event → List (String × String)
  | registered u | registrationConflict u | loginSucceeded u | loginRejected u => [("username", u)]
  | insertFailed e | lookupFailed e => [("error", e.message)]
  | hashingFailed e => [("error", e.message)]
  | rollbackFailed e => [("error", e.message)]
  | registerBodyRejected | loginBodyRejected | loginQueryRejected => []

end Event

inductive Record where
  | request (method path : String)
  | event (e : Event)
  deriving DecidableEq, Repr

end Registrar
