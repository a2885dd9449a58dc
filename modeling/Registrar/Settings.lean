import Registrar.Account.Basic
import Registrar.Text.Numeral
import Registrar.Text.Quoted

/-! # Settings

The settings of a registrar, read from named text variables.

* `Variable`: the six variables.
* `Settings.Fault`: a required variable is missing, or a variable does not parse.
* `Settings.read`: the settings, or the fault of the first variable that has one.
-/

namespace Registrar
open Text
set_option autoImplicit false

inductive Variable where
  | databaseUrl
  | port
  | maxConnections
  | runMigrations
  | roleMode
  | passwordStorage
  deriving DecidableEq, Repr

def Variable.name : Variable → String
  | databaseUrl => "DATABASE_URL"
  | port => "PORT"
  | maxConnections => "DB_MAX_CONNECTIONS"
  | runMigrations => "RUN_MIGRATIONS"
  | roleMode => "ACCOUNT_ROLE_MODE"
  | passwordStorage => "PASSWORD_STORAGE"

structure Settings where
  databaseUrl : String
  port : Nat
  maxConnections : Nat
  runMigrations : Bool
  rules : Rules
  deriving DecidableEq, Repr

/-! ## Faults -/

inductive Settings.Fault where
  | missing (v : Variable)
  | invalid (v : Variable) (value : String)
  deriving DecidableEq, Repr

def Settings.Fault.message : Settings.Fault → String
  | missing v => v.name ++ " is required"
  | invalid v value => "invalid " ++ v.name ++ ": " ++ quote value

/-! ## Values -/

def switch? (s : String) : Option Bool :=
  let k := keyword s
  if k ∈ ["1", "true", "yes", "on"].map String.toList then some true
  else if k ∈ ["0", "false", "no", "off"].map String.toList then some false
  else none

def port? (s : String) : Option Nat := (Numeral.read 65535 (trim s.toList)).toOption

def defaultPort : Nat := 5000

def defaultMaxConnections : Nat := 5

/-- A positive number below 2^32, and the default for everything else. -/
def connectionLimit (s : Option String) : Nat :=
  ((s.bind fun s => (Numeral.read 0xFFFFFFFF (trim s.toList)).toOption).filter (0 < ·)).getD
    defaultMaxConnections

/-! ## Reading -/

/-- A variable that has a default when absent and has to parse when present. -/
def setting {α : Type} (lookup : String → Option String) (v : Variable) (default : α)
    (parse? : String → Option α) : Except Settings.Fault α :=
  match lookup v.name with
  | none => .ok default
  | some s =>
    match parse? s with
    | none => .error (.invalid v s)
    | some a => .ok a

def Settings.read (lookup : String → Option String) : Except Settings.Fault Settings := do
  let databaseUrl ←
    match given (lookup Variable.databaseUrl.name) with
    | none => .error (.missing .databaseUrl)
    | some url => .ok url
  let port ← setting lookup .port defaultPort port?
  let runMigrations ← setting lookup .runMigrations true switch?
  let roles ← setting lookup .roleMode .required RolePolicy.parse?
  let passwords ← setting lookup .passwordStorage .plaintext Password.Scheme.parse?
  .ok
    { databaseUrl, port, runMigrations, rules := ⟨roles, passwords⟩
      maxConnections := connectionLimit (lookup Variable.maxConnections.name) }

end Registrar
