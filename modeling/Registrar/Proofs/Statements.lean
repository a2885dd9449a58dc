import Registrar.Database.Session
import Registrar.Proofs.Provenance
import Registrar.Proofs.Transaction
import Registrar.Proofs.Transport

/-! # Statements of a call

What a call sends to the database is one look-up, one insertion in a transaction of its own, or
nothing. The texts are fixed; what the user has sent is found in the parameters alone.

* `Call.IsServed`: the calls that do not reach past the services.
* `insertions`: the statements of an insertion, by where it ended.
* `Causes`: the statements that a call may send, and why.
* `Words`: the text and the parameters of one of them.
* `Session.poolAt`, `Session.entry_eq`: the pool that a step meets, and what is seen of the step.
* `Session.statements_of_call`: all of this at every step of every session.
-/

namespace Registrar
open Api Http Password
set_option autoImplicit false

def Call.IsServed : Call → Prop
  | .http _ | .register _ | .login _ => True
  | .insert _ | .find _ => False

namespace Database

/-! ## What a pool sends -/

/-- The statements of an insertion: all that can be sent, up to where it ended. -/
def insertions (a : Account) : List (List Statement) :=
  [[.plain .beginTransaction],
   [.plain .beginTransaction, .insert a, .plain .commit],
   [.plain .beginTransaction, .insert a, .plain .commit, .plain .rollback],
   [.plain .beginTransaction, .insert a, .plain .rollback],
   [.plain .beginTransaction, .insert a, .plain .rollback, .plain .rollback]]

theorem sent_commit (before : List Statement) (p : Peer) :
    (Pool.commit before p).sent = before ++ [.plain .commit] ∨
      (Pool.commit before p).sent = before ++ [.plain .commit, .plain .rollback] := by
  unfold Pool.commit
  split
  · exact .inl rfl
  · exact .inr rfl

theorem sent_rollBack (e : Error) (before : List Statement) (p : Peer) :
    (Pool.rollBack e before p).sent = before ++ [.plain .rollback] ∨
      (Pool.rollBack e before p).sent = before ++ [.plain .rollback, .plain .rollback] := by
  unfold Pool.rollBack
  split
  · exact .inl rfl
  · exact .inr rfl

theorem sent_insertAccount (a : Account) (p : Peer) :
    (Pool.insertAccount a p).sent ∈ insertions a := by
  unfold Pool.insertAccount
  split
  · simp [insertions]
  · split
    · rename_i e q _
      rcases sent_rollBack e [.plain .beginTransaction, .insert a] q with h | h <;>
        simp [h, insertions]
    · rename_i q _
      rcases sent_commit [.plain .beginTransaction, .insert a] q with h | h <;>
        simp [h, insertions]

theorem sent_insert (a : Account) (pool : Pool) :
    (Store.insert a pool).sent = [] ∨ (Store.insert a pool).sent ∈ insertions a := by
  simp only [Store.insert]
  split
  · exact .inl rfl
  · exact .inr (sent_insertAccount a _)

/-! ## What a call causes -/

inductive Causes (rules : Rules) (salt : Salt) (c : Call) : List Statement → Prop where
  | nothing : Causes rules salt c []
  | search {x : Credentials} {a : Attempt} (caller : c.LogsIn x)
      (valid : x.validate rules = .ok a) : Causes rules salt c [.select a.username]
  | insertion {x : Registration} {a : Account} {sent : List Statement} (caller : c.Registers x)
      (valid : x.validate rules salt = .ok a) (ended : sent ∈ insertions a) :
      Causes rules salt c sent

section
variable {rules : Rules} {salt : Salt} {c : Call}

theorem sent_register_of_connection {x : Registration} {a : Account} {pool : Pool} {q : Peer}
    (valid : x.validate rules salt = .ok a) (connected : pool.connection = .ok q) :
    (register rules salt x pool).sent ∈ insertions a := by
  rw [register_of_valid rules salt pool valid, Pool.insert_of_connection connected]
  exact sent_insertAccount a q

theorem sent_login_of_connection {x : Credentials} {a : Attempt} {pool : Pool} {q : Peer}
    (valid : x.validate rules = .ok a) (connected : pool.connection = .ok q) :
    (login rules x pool).sent = [.select a.username] := by
  have hfind : Store.find a.username pool = Pool.findAccounts a.username q := by
    simp only [Store.find, connected]
  rw [login_of_valid rules pool valid, hfind]
  exact Pool.sent_findAccounts a.username q

theorem causes_register {x : Registration} (caller : c.Registers x) (pool : Pool) :
    Causes rules salt c (register rules salt x pool).sent := by
  cases hv : x.validate rules salt with
  | error e =>
    obtain ⟨events, hr⟩ := register_of_invalid rules salt hv
    rw [hr]
    exact .nothing
  | ok a =>
    rw [register_of_valid rules salt pool hv]
    rcases sent_insert a pool with h | h
    · rw [h]
      exact .nothing
    · exact .insertion caller hv h

theorem causes_login {x : Credentials} (caller : c.LogsIn x) (pool : Pool) :
    Causes rules salt c (login rules x pool).sent := by
  cases hv : x.validate rules with
  | error e =>
    rw [login_of_invalid rules pool hv]
    exact .nothing
  | ok a =>
    rw [login_of_valid rules pool hv]
    rcases Pool.sent_find a.username pool with h | h
    · rw [h]
      exact .nothing
    · rw [h]
      exact .search caller hv

theorem causes_run (served : c.IsServed) (pool : Pool) :
    Causes rules salt c (c.run rules salt pool).sent := by
  cases h : c.task with
  | registration x =>
    rw [run_of_registration rules salt pool h]
    exact causes_register ((c.task_eq_registration_iff x).mp h) pool
  | login x =>
    rw [run_of_login rules salt pool h]
    exact causes_login ((c.task_eq_login_iff x).mp h) pool
  | insertion a =>
    rw [eq_insert_of_task h] at served
    cases served
  | search u =>
    rw [eq_find_of_task h] at served
    cases served
  | nothing =>
    obtain ⟨outcome, records, hr⟩ := run_of_nothing h
    rw [hr Pool rules salt pool]
    exact .nothing

end

/-! ## Texts and parameters -/

/-- A text with its parameters, as it may be sent for a call. -/
inductive Words (rules : Rules) (salt : Salt) (c : Call) :
    Option String → List (Option String) → Prop where
  | begin : Words rules salt c (some "BEGIN") []
  | commit : Words rules salt c (some "COMMIT") []
  | rollback : Words rules salt c (some "ROLLBACK") []
  | insert {x : Registration} {a : Account} {password : String} (caller : c.Registers x)
      (valid : x.validate rules salt = .ok a) (password_eq : x.password = some password)
      (stored : rules.passwords.sealed salt password = .ok a.password) :
      Words rules salt c
        (some "INSERT INTO users (username, email, password, role) VALUES ($1, $2, $3, $4)")
        [x.username, x.email, some a.password, if x.role.any Text.hasInk then x.role else none]
  | select {x : Credentials} {a : Attempt} (caller : c.LogsIn x)
      (valid : x.validate rules = .ok a) :
      Words rules salt c
        (some "SELECT username, email, password, role FROM users WHERE username = $1")
        [x.username]

section
variable {rules : Rules} {salt : Salt} {c : Call}

theorem words_insert {x : Registration} {a : Account} (caller : c.Registers x)
    (valid : x.validate rules salt = .ok a) :
    Words rules salt c (Statement.insert a).command.text? (Statement.insert a).parameters := by
  -- The row has the fields as they were sent, so the parameters are the caller's own.
  have hrow := Registration.row_of_validate valid
  obtain ⟨p, hp, hstored⟩ := hrow.password
  have h := Words.insert caller valid hp hstored
  rw [hrow.username, hrow.email, ← hrow.role] at h
  exact h

theorem words_select {x : Credentials} {a : Attempt} (caller : c.LogsIn x)
    (valid : x.validate rules = .ok a) :
    Words rules salt c (Statement.select a.username).command.text?
      (Statement.select a.username).parameters := by
  obtain ⟨hgiven, -⟩ := (Credentials.validate_eq_ok_iff rules x a).mp valid
  have h : Words rules salt c _ [x.username] := .select caller valid
  rw [((given_eq_some_iff _ _).mp hgiven).1] at h
  exact h

theorem mem_insertions {a : Account} {sent : List Statement} (h : sent ∈ insertions a)
    {s : Statement} (hs : s ∈ sent) :
    s = .plain .beginTransaction ∨ s = .insert a ∨ s = .plain .commit ∨ s = .plain .rollback := by
  simp only [insertions, List.mem_cons, List.not_mem_nil, or_false] at h
  rcases h with rfl | rfl | rfl | rfl | rfl <;> grind

theorem words_of_causes {sent : List Statement} (h : Causes rules salt c sent) {s : Statement}
    (hs : s ∈ sent) : Words rules salt c s.command.text? s.parameters := by
  cases h with
  | nothing => cases hs
  | search caller valid =>
    rw [List.mem_singleton.mp hs]
    exact words_select caller valid
  | insertion caller valid ended =>
    rcases mem_insertions ended hs with rfl | rfl | rfl | rfl
    · exact .begin
    · exact words_insert caller valid
    · exact .commit
    · exact .rollback

end

namespace Session

/-! ## Along a run -/

/-- The pool before step `i` of a run, or at its end. -/
def poolAt (rules : Rules) (pool : Pool) (steps : List (Salt × Step)) (i : Nat) : Pool :=
  (run rules (steps.take i) pool).2

theorem entry_eq (rules : Rules) {steps : List (Salt × Step)} {i : Nat} {salt : Salt}
    {s : Step} (hi : steps[i]? = some (salt, s)) (pool : Pool) :
    (run rules steps pool).1[i]? = some (step rules salt s (poolAt rules pool steps i)).1 := by
  induction steps generalizing i pool with
  | nil => cases hi
  | cons x steps ih =>
    cases i with
    | zero =>
      cases hi
      rfl
    | succ i => exact ih hi (step rules x.1 x.2 pool).2

/-- **One access, fixed texts, data in parameters alone.** At every step of every session over a
pool, whatever the server answers, a request or a call of a service sends one look-up, one insertion
or nothing; and each statement is one of five fixed texts with the fields of the caller as its
parameters. With a connection every valid login sends its look-up, and every valid registration an
insertion. -/
theorem statements_of_call (rules : Rules) (steps : List (Salt × Step)) (pool : Pool) (i : Nat)
    (salt : Salt) (p : Peer) (c : Call) (served : c.IsServed)
    (hi : steps[i]? = some (salt, .call p c)) :
    ∃ e, (run rules steps pool).1[i]? = some e ∧ Causes rules salt c e.sent ∧
      (∀ s ∈ e.sent, Words rules salt c s.command.text? s.parameters) ∧
      ∀ q, ({ poolAt rules pool steps i with peer := p } : Pool).connection = .ok q →
        (∀ x a, c.LogsIn x → x.validate rules = .ok a → e.sent = [.select a.username]) ∧
        ∀ x a, c.Registers x → x.validate rules salt = .ok a → e.sent ∈ insertions a := by
  have hcauses : Causes rules salt c
      (step rules salt (.call p c) (poolAt rules pool steps i)).1.sent :=
    causes_run served { poolAt rules pool steps i with peer := p }
  refine ⟨_, entry_eq rules hi pool, hcauses, fun s hs => words_of_causes hcauses hs, ?_⟩
  intro q connected
  constructor
  · intro x a caller valid
    have htask := (c.task_eq_login_iff x).mpr caller
    rw [step, run_of_login rules salt _ htask]
    exact sent_login_of_connection valid connected
  · intro x a caller valid
    have htask := (c.task_eq_registration_iff x).mpr caller
    rw [step, run_of_registration rules salt _ htask]
    exact sent_register_of_connection valid connected

/-- Both users send SQL. The commit of the registration is refused, so it is rolled back once
more. -/
theorem statements_of_call_quotes :
    let rules : Rules := ⟨.optional, .plaintext⟩
    let p : Peer := { Peer.idle with
      fault := fun s =>
        if s.command = .commit then some ⟨"ERROR", "40001", "could not serialize"⟩ else none }
    let registration : Call :=
      .register ⟨some "x'); DROP TABLE users; --", some "a@x.org", some "pw", some " "⟩
    let login : Call := .http ⟨"GET", .parse "/login?name=%27+OR+1%3D1&password=pw", [], []⟩
    let steps : List (Salt × Step) := [(.ofNat 1, .call p registration), (.ofNat 2, .call p login)]
    let entry (i : Nat) := (run rules steps (.opened .idle)).1[i]?
    (∃ e, entry 0 = some e ∧
      e.sent = [.plain .beginTransaction,
        .insert ⟨"x'); DROP TABLE users; --", "a@x.org", "pw", none⟩, .plain .commit,
        .plain .rollback] ∧
      ∀ s ∈ e.sent, Words rules (.ofNat 1) registration s.command.text? s.parameters) ∧
    ∃ e, entry 1 = some e ∧ e.sent = [.select "' OR 1=1"] ∧
      ∀ s ∈ e.sent, Words rules (.ofNat 2) login s.command.text? s.parameters := by
  intro rules p registration login steps entry
  obtain ⟨e, he, -, hwords, -⟩ :=
    statements_of_call rules steps (.opened .idle) 0 (.ofNat 1) p registration trivial rfl
  obtain ⟨e', he', -, hwords', hsent'⟩ :=
    statements_of_call rules steps (.opened .idle) 1 (.ofNat 2) p login trivial rfl
  refine ⟨⟨e, he, ?_, hwords⟩, e', he', ?_, hwords'⟩
  · have hsent : (entry 0).map Entry.sent = some [.plain .beginTransaction,
        .insert ⟨"x'); DROP TABLE users; --", "a@x.org", "pw", none⟩, .plain .commit,
        .plain .rollback] := rfl
    exact Option.some.inj ((congrArg (Option.map Entry.sent) he).symm.trans hsent)
  · have hcaller : login.LogsIn ⟨some "' OR 1=1", some "pw", none⟩ :=
      ⟨rfl, .inl ⟨List.mem_cons_self, by decide +kernel⟩⟩
    exact (hsent' _ rfl).1 _ ⟨"' OR 1=1", "pw", none⟩ hcaller rfl

end Session

end Database

end Registrar
