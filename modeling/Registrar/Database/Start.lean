import Registrar.Database.Migration
import Registrar.Database.Options
import Registrar.Database.Pool
import Registrar.Settings

/-! # Opening the pool

A pool is opened by a first connection; then, unless the settings say otherwise, the database is
brought up to date.

* `Reached`: what stands at an endpoint; `reach`: the peer there.
* `start`: the pool over a peer.
-/

namespace Registrar.Database
set_option autoImplicit false

/-! ## The peer -/

/-- What a connection to an endpoint comes to. -/
inductive Reached where
  | peer (p : Peer)
  | failed (f : TransportFault)
  /-- No connection is made, however often it is tried. -/
  | silent

/-- The peer at the endpoint of the options. Encryption is never available. -/
def reach (server : Endpoint → Reached) (o : Options) : Except Error Peer :=
  match o.endpoint.fault? with
  | some f => .error (.communication f)
  | none =>
    match server o.endpoint with
    | .silent => .error .poolTimedOut
    | .failed f => .error (.communication f)
    | .peer p => if o.encryption.isNeeded then .error .encryptionUnavailable else .ok p

/-! ## The pool -/

inductive StartError where
  | database (e : Error)
  | migration (e : MigrationError)
  deriving DecidableEq, Repr

def StartError.message : StartError → String
  | database e => e.message
  | migration e => e.message

structure Started where
  pool : Except StartError Pool
  sent : List Statement

def start (settings : Settings) (p : Peer) : Started :=
  match p.refusal? with
  | some e => ⟨.error (.database e), []⟩
  | none =>
    if settings.runMigrations then
      let m := migrate p
      match m.failure with
      | some e => ⟨.error (.migration e), m.sent⟩
      | none => ⟨.ok (.opened m.peer), m.sent⟩
    else ⟨.ok (.opened p), []⟩

end Registrar.Database
