import Registrar.Database.Start
import Registrar.EnvFile.Definitions

/-! # Starting the service

The stages of a start, each reached only if the one before it succeeded: the variables, the
settings, the options of the connection, the server, the pool with its migration, and the port.

* `StartupError.report`, `StartupError.exitCode`: how a failed start is reported.
* `startup`: the stages.
-/

namespace Registrar
open Text
set_option autoImplicit false

/-! ## Failures -/

inductive StartupError where
  /-- A variable cannot be given its value, and the process breaks off. -/
  | unassignable (name value : String)
  | settings (f : Settings.Fault)
  | options (f : Database.Options.Fault)
  | database (e : Database.StartError)
  | portTaken
  deriving DecidableEq, Repr

namespace StartupError
open Database

/-! ## Diagnostics -/

/-- Braces around the fields of a value. -/
def braced (name fields : String) : String := name ++ " \x7b " ++ fields ++ " \x7d"

def severityName : Severity → String
  | .panic => "Panic"
  | .fatal => "Fatal"
  | .error => "Error"
  | .warning => "Warning"
  | .notice => "Notice"
  | .debug => "Debug"
  | .info => "Info"
  | .log => "Log"

/-- A server error with all its fields; those that a peer never gives are shown as missing. -/
def serverDiagnostic (e : ServerError) : String :=
  braced "PgDatabaseError"
    ("severity: " ++ severityName e.severity ++ ", code: " ++ quote e.code ++
      ", message: " ++ quote e.message ++
      String.join (["detail", "hint", "position", "where", "schema", "table", "column",
        "data_type", "constraint", "file", "line", "routine"].map fun f => ", " ++ f ++ ": None"))

def transportDiagnostic : TransportFault → String
  | .noSuchFile => braced "Os" "code: 2, kind: NotFound, message: \"No such file or directory\""
  | .notDirectory => braced "Os" "code: 20, kind: NotADirectory, message: \"Not a directory\""
  | .pathWithNul => refusedPath TransportFault.pathWithNul.message
  | .pathTooLong => refusedPath TransportFault.pathTooLong.message
  | .unknownHost =>
    braced "Custom" ("kind: Uncategorized, error: " ++ quote TransportFault.unknownHost.message)
  | .other t => braced "Custom" ("kind: Other, error: " ++ quote t)
where
  refusedPath (text : String) : String :=
    braced "Error" ("kind: InvalidInput, message: " ++ quote text)

def databaseDiagnostic : Database.Error → String
  | .server e => "Database(" ++ serverDiagnostic e ++ ")"
  | .poolTimedOut => "PoolTimedOut"
  | .poolClosed => "PoolClosed"
  | .workerCrashed => "WorkerCrashed"
  | .beginFailed => "BeginFailed"
  | .rowNotFound => "RowNotFound"
  | .columnNotFound n => "ColumnNotFound(" ++ quote n ++ ")"
  | .unexpectedData t => "Protocol(" ++ quote t ++ ")"
  | .invalidArgument t => "InvalidArgument(" ++ quote t ++ ")"
  | .typeNotFound n => braced "TypeNotFound" ("type_name: " ++ quote n)
  | .communication f => "Io(" ++ transportDiagnostic f ++ ")"
  | .encryptionUnavailable => "Tls(" ++ quote noEncryption ++ ")"
  | .configuration t => "Configuration(" ++ quote t ++ ")"

def migrationDiagnostic : MigrationError → String
  | .execution e => "Execute(" ++ databaseDiagnostic e ++ ")"
  | .executionOf e v => "ExecuteMigration(" ++ databaseDiagnostic e ++ ", " ++ toString v ++ ")"
  | .dirty v => "Dirty(" ++ toString v ++ ")"
  | .missing v => "VersionMissing(" ++ toString v ++ ")"
  | .modified v => "VersionMismatch(" ++ toString v ++ ")"

def urlDiagnostic : Url.Fault → String
  | .noScheme => "RelativeUrlWithoutBase"
  | .emptyHost => "EmptyHost"
  | .badHost => "InvalidDomainCharacter"
  | .badDomain => "IdnaError"
  | .badDotted => "InvalidIpv4Address"
  | .badColoned => "InvalidIpv6Address"
  | .badPort => "InvalidPort"

def numberDiagnostic (f : Numeral.Fault) : String :=
  braced "ParseIntError"
    ("kind: " ++
      match f with
      | .empty => "Empty"
      | .badDigit => "InvalidDigit"
      | .tooLarge => "PosOverflow")

def encodingDiagnostic (f : Utf8.Flaw) : String :=
  braced "Utf8Error"
    ("valid_up_to: " ++ toString f.start ++ ", error_len: " ++
      match f.length with
      | none => "None"
      | some n => "Some(" ++ toString n ++ ")")

def optionsDiagnostic : Options.Fault → String
  | .url f => urlDiagnostic f
  | .encoding f => encodingDiagnostic f
  | .number f => numberDiagnostic f
  | .address => "AddrParseError(Ip)"
  | .encryption value =>
    databaseDiagnostic
      (.configuration ("unknown value " ++ quote value ++ " for \x60ssl_mode\x60"))

def diagnostic : StartupError → String
  | unassignable name value =>
    "failed to set environment variable \x60" ++ quote name ++ "\x60 to \x60" ++ quote value ++
      "\x60: file name contained an unexpected NUL byte"
  | settings (.missing v) => "Missing(" ++ quote v.name ++ ")"
  | settings (.invalid v value) =>
    braced "Invalid" ("key: " ++ quote v.name ++ ", value: " ++ quote value)
  | options f => "Configuration(" ++ optionsDiagnostic f ++ ")"
  | database (.database e) => databaseDiagnostic e
  | database (.migration e) => "Migrate(" ++ migrationDiagnostic e ++ ")"
  | portTaken => braced "Os" "code: 98, kind: AddrInUse, message: \"Address already in use\""

def breaksOff : StartupError → Bool
  | unassignable _ _ => true
  | settings _ | options _ | database _ | portTaken => false

/-- What is printed. Where a process breaks off, the place in the program is left out. -/
def report (e : StartupError) : String :=
  (if e.breaksOff then "" else "Error: ") ++ e.diagnostic ++ "\n"

def exitCode (e : StartupError) : Nat := if e.breaksOff then 101 else 1

end StartupError

/-! ## Stages -/

/-- What surrounds a start: the variables of the process, the text of the environment file, what
stands at each endpoint, and the ports that are taken. -/
structure Surroundings where
  environment : String → Option String
  envFile : Option String
  server : Database.Endpoint → Database.Reached
  isTaken : Nat → Bool

/-- The variables that count, or the one that cannot be given its value. -/
def Surroundings.load (w : Surroundings) :
    Except (String × String) (String → Option String) :=
  match w.envFile with
  | none => .ok w.environment
  | some text => EnvFile.load w.environment text

structure Startup where
  result : Except StartupError Settings
  sent : List Database.Statement

section
variable (w : Surroundings) (lookup : String → Option String)

/-- The stages from the connection on. -/
def Startup.ofSettings (settings : Settings) : Startup :=
  match Database.Options.read lookup settings.databaseUrl with
  | .error f => ⟨.error (.options f), []⟩
  | .ok o =>
    match Database.reach w.server o with
    | .error e => ⟨.error (.database (.database e)), []⟩
    | .ok p =>
      let s := Database.start settings p
      match s.pool with
      | .error e => ⟨.error (.database e), s.sent⟩
      | .ok _ =>
        if w.isTaken settings.port then ⟨.error .portTaken, s.sent⟩ else ⟨.ok settings, s.sent⟩

/-- The stages from the settings on. -/
def Startup.ofVariables : Startup :=
  match Settings.read lookup with
  | .error f => ⟨.error (.settings f), []⟩
  | .ok settings => .ofSettings w lookup settings

end

def startup (w : Surroundings) : Startup :=
  match w.load with
  | .error (name, value) => ⟨.error (.unassignable name value), []⟩
  | .ok lookup => .ofVariables w lookup

end Registrar
