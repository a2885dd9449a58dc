import Registrar.Startup

/-! # The command line

Reads the variables of the process and the file `.env` beside it, and reports the settings that the
service would start with, or why it would not start.
-/

namespace Registrar
set_option autoImplicit false

/-- The value of a name among bytes in which NUL ends each variable: what the first variable of that
name has after its equals sign, if it is UTF-8. -/
def valueAmong? (bytes : Text.Utf8.Bytes) (name : String) : Option String :=
  ((bytes.splitOn 0x00).find? fun v =>
      v.contains 0x3D && v.takeWhile (· != 0x3D) == Text.Utf8.encode name).bind fun v =>
    Text.Utf8.decode? ((v.dropWhile (· != 0x3D)).drop 1)

def readBytes? (path : String) : IO (Option Text.Utf8.Bytes) := do
  try
    let bytes ← IO.FS.readBinFile path
    return some bytes.toList
  catch _ => return none

def describe (s : Settings) : String :=
  Variable.port.name ++ "=" ++ toString s.port ++ "\n" ++
    Variable.maxConnections.name ++ "=" ++ toString s.maxConnections ++ "\n" ++
    Variable.runMigrations.name ++ "=" ++ toString s.runMigrations ++ "\n"

end Registrar

def main : IO UInt32 := do
  let environment := (← Registrar.readBytes? "/proc/self/environ").getD []
  let envFile ← Registrar.readBytes? ".env"
  let surroundings : Registrar.Surroundings :=
    ⟨Registrar.valueAmong? environment, envFile.map Registrar.EnvFile.textOf,
      fun _ => .peer .idle, fun _ => false⟩
  match (Registrar.startup surroundings).result with
  | .ok settings =>
    IO.print (Registrar.describe settings)
    return 0
  | .error e =>
    IO.eprint e.report
    return e.exitCode.toUInt32
