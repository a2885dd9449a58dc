import Registrar.Database.Error
import Registrar.Database.Statement

/-! # The other end of the connection

`Peer` is a database server as the registrar sees it: which statements it refuses and which rows
it answers. A refusal is used up: afterwards every statement with that command succeeds.

* `Peer.refusal?`: why no connection is had.
* `Peer.execute`: the answer to one statement.
* `Peer.executeAll`: statements in a row, up to the first that is refused.
-/

namespace Registrar.Database
set_option autoImplicit false

/-- A row of the table of migrations: whether its checksum is that of the bundled migration, and
whether it was applied to its end. -/
structure AppliedMigration where
  version : Int
  sameChecksum : Bool
  succeeded : Bool
  deriving DecidableEq, Repr

structure Peer where
  refusal : Option Report
  fault : Statement → Option Report
  rows : String → List Account
  applied : List AppliedMigration
  /-- The commands that failed already. -/
  spent : List Command

namespace Peer

/-- A server on which everything succeeds and nothing is found. -/
def idle : Peer where
  refusal := none
  fault := fun _ => none
  rows := fun _ => []
  applied := []
  spent := []

/-- Why no connection is had in the end. A refusal that passes by itself is answered by another
attempt. -/
def refusal? (p : Peer) : Option Error := (p.refusal.map Report.error).filter fun e => !e.passes

def execute (s : Statement) (p : Peer) : Option Error × Peer :=
  if s.command ∈ p.spent then (none, p)
  else
    match p.fault s with
    | none => (none, p)
    | some r => (some r.error, { p with spent := s.command :: p.spent })

/-- What came of statements in a row: why the last one failed, if it did, and those sent. -/
structure Run where
  failure : Option Error
  sent : List Statement
  peer : Peer

def executeAll : List Statement → Peer → Run
  | [], p => ⟨none, [], p⟩
  | s :: rest, p =>
    match p.execute s with
    | (some e, p) => ⟨some e, [s], p⟩
    | (none, p) =>
      let r := executeAll rest p
      ⟨r.failure, s :: r.sent, r.peer⟩

end Peer

end Registrar.Database
