import Registrar.Account.Basic
import Registrar.Text.Quoted

/-! # Failures of the database

* `ServerError`: an error that the database server sends: a severity, a code of five characters
  and a text.
* `TransportFault`: why no bytes can be exchanged with a server.
* `Error`: the causes for which a database access fails, and the wording of each.
* `Report`: an error as the server writes it, and what it means.
* `StoreError`: what a store reports: a clash of usernames or emails, or any other failure.
-/

namespace Registrar.Database
set_option autoImplicit false

/-! ## Errors of the server -/

inductive Severity where
  | panic
  | fatal
  | error
  | warning
  | notice
  | debug
  | info
  | log
  deriving DecidableEq, Repr

namespace Severity

/-- The severity with a name; names are in capitals. -/
def ofName? (name : String) : Option Severity :=
  match name with
  | "PANIC" => some panic
  | "FATAL" => some fatal
  | "ERROR" => some error
  | "WARNING" => some warning
  | "NOTICE" => some notice
  | "DEBUG" => some debug
  | "INFO" => some info
  | "LOG" => some log
  | _ => none

end Severity

structure ServerError where
  severity : Severity
  code : String
  message : String
  deriving DecidableEq, Repr

def uniqueViolation : String := "23505"

/-! ## Errors of the transport -/

inductive TransportFault where
  | noSuchFile
  | notDirectory
  | pathWithNul
  | pathTooLong
  | unknownHost
  | other (text : String)
  deriving DecidableEq, Repr

def TransportFault.message : TransportFault → String
  | noSuchFile => "No such file or directory (os error 2)"
  | notDirectory => "Not a directory (os error 20)"
  | pathWithNul => "paths must not contain interior null bytes"
  | pathTooLong => "path must be shorter than SUN_LEN"
  | unknownHost =>
    "failed to lookup address information: Temporary failure in name resolution"
  | other text => text

/-! ## All errors -/

inductive Error where
  | server (e : ServerError)
  | poolTimedOut
  | poolClosed
  | workerCrashed
  | beginFailed
  | rowNotFound
  | columnNotFound (name : String)
  | unexpectedData (text : String)
  | invalidArgument (text : String)
  | typeNotFound (name : String)
  | communication (f : TransportFault)
  | encryptionUnavailable
  | configuration (text : String)
  deriving DecidableEq, Repr

/-- Encryption is asked for, and there is none. -/
def noEncryption : String :=
  "TLS upgrade required by connect options but SQLx was built without TLS support enabled"

def Error.message : Error → String
  | server e => "error returned from database: " ++ e.message
  | poolTimedOut => "pool timed out while waiting for an open connection"
  | poolClosed => "attempted to acquire a connection on a closed pool"
  | workerCrashed => "attempted to communicate with a crashed background worker"
  | beginFailed => "got unexpected connection status after attempting to begin transaction"
  | rowNotFound => "no rows returned by a query that expected to return at least one row"
  | columnNotFound name => "no column found for name: " ++ name
  | unexpectedData text => "encountered unexpected or invalid data: " ++ text
  | invalidArgument text => text
  | typeNotFound name => "type named " ++ name ++ " not found"
  | communication f => "error communicating with database: " ++ f.message
  | encryptionUnavailable =>
    "error occurred while attempting to establish a TLS connection: " ++ noEncryption
  | configuration text => "error with configuration: " ++ text

/-- The server refused a row because of a unique constraint. -/
def Error.isUniqueViolation : Error → Bool
  | server e => e.code == uniqueViolation
  | _ => false

/-- The failure passes by itself: the server has too many connections, or is still starting. -/
def Error.passes : Error → Bool
  | server e => e.code == "53300" || e.code == "57P03"
  | _ => false

/-! ## Reports -/

structure Report where
  severity : String
  code : String
  message : String
  deriving DecidableEq, Repr

/-- The failure that a report means. One with an unknown severity cannot be read. -/
def Report.error (r : Report) : Error :=
  match Severity.ofName? r.severity with
  | some s => .server ⟨s, r.code, r.message⟩
  | none =>
    .unexpectedData
      ("Postgres protocol error (reading ErrorResponse): unknown severity: " ++
        Text.quote r.severity ++
        " (sqlx_postgres::message::response:47) (sqlx_postgres::message:138)")

end Registrar.Database

namespace Registrar
set_option autoImplicit false

inductive StoreError where
  | conflict
  | database (e : Database.Error)
  deriving DecidableEq, Repr

namespace StoreError

def message : StoreError → String
  | conflict => "username or email already exists"
  | database e => e.message

/-- A unique violation is a conflict; every other failure is passed on. -/
def ofDatabase (e : Database.Error) : StoreError :=
  if e.isUniqueViolation then conflict else database e

end StoreError

end Registrar
