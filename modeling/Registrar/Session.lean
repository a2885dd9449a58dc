import Registrar.Account.Table
import Registrar.Call

/-! # Sessions over a table in memory

* `Session.Step`: a call, or something done to the table itself.
* `Session.Entry`: what is seen of a step: its outcome, its log records, and how many rows there
  are afterwards.
* `Session.run`: steps in a row, each with a salt of its own.
-/

namespace Registrar.Session
set_option autoImplicit false

inductive Step where
  | call (c : Call)
  | seed (a : Account)
  | rows
  | setAvailable (b : Bool)

structure Entry where
  outcome : Outcome
  records : List Record
  rowCount : Nat

def Entry.of (outcome : Outcome) (records : List Record) (t : Table) : Entry × Table :=
  (⟨outcome, records, t.rows.length⟩, t)

def step (rules : Rules) (salt : Password.Salt) (s : Step) (t : Table) : Entry × Table :=
  match s with
  | .call c =>
    let r := c.run rules salt t
    Entry.of r.value r.records r.state
  | .seed a => Entry.of .done [] (t.seed a)
  | .rows => Entry.of (.rows t.rows) [] t
  | .setAvailable b => Entry.of .done [] { t with available := b }

def run (rules : Rules) : List (Password.Salt × Step) → Table → List Entry × Table
  | [], t => ([], t)
  | (salt, s) :: rest, t =>
    let (e, t) := step rules salt s t
    let (es, t) := run rules rest t
    (e :: es, t)

end Registrar.Session
