import Registrar.Database.Peer

/-! # The migration

The bundled migration creates the table of accounts. It is applied in a transaction of its own,
together with the record that it has been applied, and only if no such record is there yet.

* `MigrationError`: why a database cannot be brought up to date.
* `defect?`: what is wrong with the records of earlier migrations.
* `migrate`: the whole procedure, between taking and giving back a lock. After a failure the lock
  is not given back.
-/

namespace Registrar.Database
set_option autoImplicit false

def bundledVersion : Int := 20240101000000

inductive MigrationError where
  | execution (e : Error)
  | executionOf (e : Error) (version : Int)
  | dirty (version : Int)
  | missing (version : Int)
  | modified (version : Int)
  deriving DecidableEq, Repr

def MigrationError.message : MigrationError → String
  | execution e => "while executing migrations: " ++ e.message
  | executionOf e v => "while executing migration " ++ toString v ++ ": " ++ e.message
  | dirty v =>
    "migration " ++ toString v ++
      " is partially applied; fix and remove row from \x60_sqlx_migrations\x60 table"
  | missing v =>
    "migration " ++ toString v ++
      " was previously applied but is missing in the resolved migrations"
  | modified v => "migration " ++ toString v ++ " was previously applied but has been modified"

/-! ## Records of earlier migrations -/

/-- The version of the first record of a migration that was not applied to its end. -/
def dirty? (applied : List AppliedMigration) : Option Int :=
  (applied.find? fun m => !m.succeeded).map (·.version)

/-- The version of the first record that is not of the bundled migration. -/
def unknown? (applied : List AppliedMigration) : Option Int :=
  (applied.find? fun m => m.version != bundledVersion).map (·.version)

/-- The record of the bundled migration; the last one, if there are more. -/
def recorded? (applied : List AppliedMigration) : Option AppliedMigration :=
  (applied.filter fun m => m.version == bundledVersion).getLast?

/-! ## The procedure -/

/-- What has come of the procedure so far. -/
structure Progress where
  failure : Option MigrationError
  sent : List Statement
  peer : Peer

namespace Progress

/-- Go on, unless something has failed. -/
def andThen (a : Progress) (f : Peer → Progress) : Progress :=
  match a.failure with
  | some _ => a
  | none =>
    let b := f a.peer
    { b with sent := a.sent ++ b.sent }

def check (failure : Option MigrationError) (p : Peer) : Progress := ⟨failure, [], p⟩

def send (cs : List Command) (wrap : Error → MigrationError) (p : Peer) : Progress :=
  let r := p.executeAll (cs.map Statement.plain)
  ⟨r.failure.map wrap, r.sent, r.peer⟩

/-- Roll back if something has failed; the answer is ignored. -/
def orRollBack (a : Progress) : Progress :=
  match a.failure with
  | none => a
  | some _ =>
    { a with
      sent := a.sent ++ [.plain .rollback]
      peer := (a.peer.execute (.plain .rollback)).2 }

end Progress

open Progress

def applyBundled (p : Peer) : Progress :=
  (send [.beginTransaction] .execution p).andThen fun p =>
    (((send [.createUsers] (.executionOf · bundledVersion) p).andThen
      (send [.recordVersion, .commit] .execution)).orRollBack).andThen
        (send [.bookkeeping] .execution)

/-- Apply the bundled migration unless it is recorded with the same checksum. -/
def bringUpToDate (p : Peer) : Progress :=
  match recorded? p.applied with
  | none => applyBundled p
  | some m => check (if m.sameChecksum then none else some (.modified bundledVersion)) p

def migrate (p : Peer) : Progress :=
  (send [.currentDatabase, .lock, .bookkeeping, .dirtyVersions] .execution p).andThen fun p =>
    (check ((dirty? p.applied).map .dirty) p).andThen fun p =>
      (send [.appliedVersions] .execution p).andThen fun p =>
        (check ((unknown? p.applied).map .missing) p).andThen fun p =>
          (bringUpToDate p).andThen (send [.currentDatabase, .unlock] .execution)

end Registrar.Database
