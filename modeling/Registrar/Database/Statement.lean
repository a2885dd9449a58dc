import Registrar.Account.Basic

/-! # Statements

* `Command`: the texts that are ever sent to the database. User data is never part of a text.
* `Statement`: a command with its parameters.
-/

namespace Registrar.Database
set_option autoImplicit false

inductive Command where
  | beginTransaction
  | commit
  | rollback
  | insertAccount
  | selectAccounts
  | createUsers
  | currentDatabase
  | lock
  | unlock
  | bookkeeping
  | dirtyVersions
  | appliedVersions
  | recordVersion
  deriving DecidableEq, Repr

def usersTable : String :=
"CREATE TABLE IF NOT EXISTS users (
    id          BIGSERIAL PRIMARY KEY,
    username    TEXT NOT NULL,
    email       TEXT NOT NULL,
    password    TEXT NOT NULL,
    role        TEXT,
    created_at  TIMESTAMPTZ NOT NULL DEFAULT now(),
    CONSTRAINT users_username_key UNIQUE (username),
    CONSTRAINT users_email_key UNIQUE (email)
);
"

/-- The text of a command; none for the migrator's own bookkeeping, which is not reported. -/
def Command.text? : Command → Option String
  | beginTransaction => some "BEGIN"
  | commit => some "COMMIT"
  | rollback => some "ROLLBACK"
  | insertAccount =>
    some "INSERT INTO users (username, email, password, role) VALUES ($1, $2, $3, $4)"
  | selectAccounts => some "SELECT username, email, password, role FROM users WHERE username = $1"
  | createUsers => some usersTable
  | currentDatabase | lock | unlock | bookkeeping | dirtyVersions | appliedVersions
  | recordVersion => none

structure Statement where
  command : Command
  parameters : List (Option String)
  deriving DecidableEq, Repr

namespace Statement

def plain (c : Command) : Statement := ⟨c, []⟩

def insert (a : Account) : Statement :=
  ⟨.insertAccount, [some a.username, some a.email, some a.password, a.role]⟩

def select (username : String) : Statement := ⟨.selectAccounts, [some username]⟩

end Statement

end Registrar.Database
