import Registrar.Call
import Registrar.Database.Pool

/-! # Sessions over a pool

* `Step`: a call, made while the peer behaves in a given way, or the closing of the pool.
* `Entry`: what is seen of a step: its outcome, its log records, and the statements sent.
* `run`: steps in a row, each with a salt of its own.
-/

namespace Registrar.Database.Session
set_option autoImplicit false

inductive Step where
  | call (p : Peer) (c : Call)
  | closePool

structure Entry where
  outcome : Outcome
  records : List Record
  sent : List Statement

def step (rules : Rules) (salt : Password.Salt) (s : Step) (pool : Pool) : Entry × Pool :=
  match s with
  | .call p c =>
    let r := c.run rules salt { pool with peer := p }
    (⟨r.value, r.records, r.sent⟩, r.state)
  | .closePool => (⟨.done, [], []⟩, { pool with isOpen := false })

def run (rules : Rules) : List (Password.Salt × Step) → Pool → List Entry × Pool
  | [], pool => ([], pool)
  | (salt, s) :: rest, pool =>
    let (e, pool) := step rules salt s pool
    let (es, pool) := run rules rest pool
    (e :: es, pool)

end Registrar.Database.Session
