import Registrar.Account.Store
import Registrar.Database.Peer

/-! # Accounts in a database

A pool of connections to a peer is a store. An insertion is a transaction; one that is left
unfinished, because its commit or its rollback failed, is rolled back once more when it is given
up. Where even that fails, the connection is lost, and the next access needs a new one.

* `Pool.connection`: the peer at the other end of a connection, if one is had.
* `Pool.insertAccount`, `Pool.findAccounts`: one access over a connection.
-/

namespace Registrar.Database
set_option autoImplicit false

structure Pool where
  peer : Peer
  isOpen : Bool
  isConnected : Bool

namespace Pool

/-! ## Connections -/

def opened (p : Peer) : Pool := ⟨p, true, true⟩

/-- The peer at the other end: of the connection that there is, or of a new one. -/
def connection (pool : Pool) : Except Error Peer :=
  if !pool.isOpen then .error .poolClosed
  else if pool.isConnected then .ok pool.peer
  else
    match pool.peer.refusal? with
    | some e => .error e
    | none => .ok pool.peer

/-- Give up a transaction: one more rollback, after whose failure the connection is lost. -/
def abandon (p : Peer) : Pool :=
  let r := p.execute (.plain .rollback)
  ⟨r.2, true, r.1.isNone⟩

/-! ## Accesses -/

def failed (e : Error) : Except StoreError Unit := .error (.ofDatabase e)

/-- After a refused insertion: roll back, and report if that fails. -/
def rollBack (e : Error) (sent : List Statement) (p : Peer) :
    Reply Pool (Except StoreError Unit) :=
  match p.execute (.plain .rollback) with
  | (none, p) => ⟨failed e, [], sent ++ [.plain .rollback], opened p⟩
  | (some r, p) =>
    ⟨failed e, [.event (.rollbackFailed r)], sent ++ [.plain .rollback, .plain .rollback],
      abandon p⟩

def commit (sent : List Statement) (p : Peer) : Reply Pool (Except StoreError Unit) :=
  match p.execute (.plain .commit) with
  | (none, p) => ⟨.ok (), [], sent ++ [.plain .commit], opened p⟩
  | (some e, p) => ⟨failed e, [], sent ++ [.plain .commit, .plain .rollback], abandon p⟩

def insertAccount (a : Account) (p : Peer) : Reply Pool (Except StoreError Unit) :=
  match p.execute (.plain .beginTransaction) with
  | (some e, p) => ⟨failed e, [], [.plain .beginTransaction], opened p⟩
  | (none, p) =>
    match p.execute (.insert a) with
    | (some e, p) => rollBack e [.plain .beginTransaction, .insert a] p
    | (none, p) => commit [.plain .beginTransaction, .insert a] p

/-- One look-up. A failure is never a conflict, whatever its code. -/
def findAccounts (username : String) (p : Peer) : Reply Pool (Except StoreError (List Account)) :=
  match p.execute (.select username) with
  | (some e, p) => ⟨.error (.database e), [], [.select username], opened p⟩
  | (none, p) => ⟨.ok (p.rows username), [], [.select username], opened p⟩

instance : Store Pool where
  insert a pool :=
    match pool.connection with
    | .error e => .silent (failed e) pool
    | .ok p => insertAccount a p
  find u pool :=
    match pool.connection with
    | .error e => .silent (.error (.database e)) pool
    | .ok p => findAccounts u p

end Pool

end Registrar.Database
