import Registrar.Proofs.Growth
import Registrar.Proofs.Transaction

/-! # A database that mirrors a table

A peer that keeps the two unique constraints over the rows of a table makes a pool a store that
cannot be told from the table.

* `Database.Peer.Mirrors`: the peer answers as the table would; `Peer.ofTable`: such a peer.
* `Agree`: a reply over the table and one over the pool give the same value and the same records,
  and what the one appends the other commits.
* `agree_insert`, `agree_find`, `agree_run`: one access and one call.
* `agree_session`: a whole run, with a peer that mirrors the table before every step.
-/

namespace Registrar
open Api Database Password
set_option autoImplicit false

/-! ## The mirror -/

theorem Table.clash_eq_true_iff (a b : Account) :
    Table.clash a b = true ↔ b.username = a.username ∨ b.email = a.email := by
  rw [Table.clash, Bool.or_eq_true, beq_iff_eq, beq_iff_eq]
  exact or_congr eq_comm eq_comm

/-- The peer answers as a database whose table has these rows and two unique constraints. -/
structure Database.Peer.Mirrors (p : Peer) (t : Table) : Prop where
  reachable : p.refusal? = none
  unspent : p.spent = []
  refuses_iff : ∀ a, (∃ r, p.fault (.insert a) = some r) ↔
    ∃ b ∈ t.rows, b.username = a.username ∨ b.email = a.email
  duplicate : ∀ a r, p.fault (.insert a) = some r → r.IsUniqueViolation
  rows : ∀ u, p.rows u = t.rows.filter fun b => b.username == u
  otherwise : ∀ s : Statement, s.command ≠ .insertAccount → p.fault s = none

namespace Database.Peer

theorem Mirrors.refuses_iff_clash {p : Peer} {t : Table} (h : p.Mirrors t) (a : Account) :
    (∃ r, p.fault (.insert a) = some r) ↔ ∃ b ∈ t.rows, Table.clash a b = true := by
  rw [h.refuses_iff]
  simp only [Table.clash_eq_true_iff]

/-- The refusals of a table: an insertion that clashes with a row is a duplicate. -/
def refusalOf (rows : List Account) (message : String) : Statement → Option Report
  | ⟨.insertAccount, some username :: some email :: _⟩ =>
    if rows.any fun b => b.username == username || b.email == email then
      some ⟨"ERROR", "23505", message⟩
    else none
  | _ => none

/-- A peer that answers as a table would, with any text for a refusal. -/
def ofTable (t : Table) (message : String) : Peer where
  refusal := none
  fault := refusalOf t.rows message
  rows := fun u => t.rows.filter fun b => b.username == u
  applied := []
  spent := []

theorem ofTable_mirrors (t : Table) (message : String) : (ofTable t message).Mirrors t where
  reachable := rfl
  unspent := rfl
  refuses_iff := by
    intro a
    simp [ofTable, refusalOf, Statement.insert]
  duplicate := by
    intro a r h
    simp only [ofTable, refusalOf, Statement.insert] at h
    split at h
    · cases h
      exact ⟨rfl, rfl⟩
    · cases h
  rows := fun u => rfl
  otherwise := by
    intro s hs
    obtain ⟨command, parameters⟩ := s
    cases command with
    | insertAccount => exact absurd rfl hs
    | _ => rfl

end Database.Peer

/-! ## Agreement of two replies -/

/-- A row as an insertion sends it. -/
def Account.parameters (a : Account) : List (Option String) := (Statement.insert a).parameters

/-- The parameters of the insertions that the statements of one call commit. -/
def committed (sent : List Statement) : List (List (Option String)) :=
  if .plain .commit ∈ sent ∧ .plain .rollback ∉ sent then
    (sent.filter fun s => s.command == .insertAccount).map (·.parameters)
  else []

theorem committed_insertion (a : Account) :
    committed [.plain .beginTransaction, .insert a, .plain .commit] = [a.parameters] := by
  simp [committed, Statement.plain, Statement.insert, Account.parameters]

theorem committed_of_no_commit {sent : List Statement} (h : .plain .commit ∉ sent) :
    committed sent = [] := by
  rw [committed, if_neg]
  intro hc
  exact h hc.1

/-- Two replies from the table `t` and from a pool that mirrors it cannot be told apart, and the
rows that the one appends are those that the other commits. -/
structure Agree {α : Type} (t : Table) (x : Reply Table α) (y : Reply Pool α) : Prop where
  value : x.value = y.value
  records : x.records = y.records
  available : x.state.available = true
  isOpen : y.state.isOpen = true
  rows : ∃ new : List Account,
    x.state.rows = t.rows ++ new ∧ committed y.sent = new.map Account.parameters

namespace Agree

variable {α β : Type} {t : Table} {pool : Pool}

theorem idle (up : t.available = true) (isOpen : pool.isOpen = true) (value : α)
    (records : List Record) :
    Agree t ⟨value, records, [], t⟩ ⟨value, records, [], pool⟩ where
  value := rfl
  records := rfl
  available := up
  isOpen := isOpen
  rows := ⟨[], (List.append_nil t.rows).symm, rfl⟩

/-- What is made of the value and the records of a reply depends on nothing else. -/
theorem lift {x : Reply Table α} {y : Reply Pool α} (h : Agree t x y) (f : α → β)
    (g : α → List Record → List Record) :
    Agree t ⟨f x.value, g x.value x.records, x.sent, x.state⟩
      ⟨f y.value, g y.value y.records, y.sent, y.state⟩ where
  value := congrArg f h.value
  records := by rw [h.value, h.records]
  available := h.available
  isOpen := h.isOpen
  rows := h.rows

end Agree

/-! ## One access -/

namespace Database.Pool

theorem isOpen_of_connection {pool : Pool} {p : Peer} (h : pool.connection = .ok p) :
    pool.isOpen = true := by
  unfold connection at h
  cases hopen : pool.isOpen with
  | true => rfl
  | false => simp [hopen] at h

theorem connection_of_isOpen {pool : Pool} (h : pool.isOpen = true)
    (reachable : pool.peer.refusal? = none) : pool.connection = .ok pool.peer := by
  unfold connection
  rw [h, reachable]
  cases pool.isConnected <;> rfl

end Database.Pool

section Access
variable {t : Table} {pool : Pool} {p : Peer} (up : t.available = true)
  (connected : pool.connection = .ok p) (mirrors : p.Mirrors t)
include up connected mirrors

theorem agree_insert (a : Account) : Agree t (Store.insert a t) (Store.insert a pool) := by
  have hbegin := mirrors.otherwise (.plain .beginTransaction) (by decide)
  have hcommit := mirrors.otherwise (.plain .commit) (by decide)
  have hrollback := mirrors.otherwise (.plain .rollback) (by decide)
  have hx : Store.insert a t = .silent (t.insert a).1 (t.insert a).2 := rfl
  rw [Pool.insert_of_connection connected a, hx]
  cases hi : p.fault (.insert a) with
  | none =>
    have hclash : ∀ b ∈ t.rows, Table.clash a b = false := by
      intro b hb
      rw [← Bool.not_eq_true]
      intro hab
      obtain ⟨r, hr⟩ := (mirrors.refuses_iff_clash a).mpr ⟨b, hb, hab⟩
      rw [hi] at hr
      cases hr
    have hok : (t.insert a).1 = .ok () := (Table.insert_ok_iff a t).mpr ⟨up, hclash⟩
    rw [Pool.insertAccount_of_no_fault hbegin hi hcommit, Table.insert_snd, hok]
    exact ⟨rfl, rfl, up, rfl, [a], rfl, committed_insertion a⟩
  | some r =>
    have hclash := (mirrors.refuses_iff_clash a).mp ⟨r, hi⟩
    have hconflict : (t.insert a).1 = .error .conflict :=
      (Table.insert_conflict_iff a t).mpr ⟨up, hclash⟩
    have hfailed : Pool.failed r.error = .error .conflict :=
      (Pool.failed_eq_conflict_iff r.error).mpr
        ((Report.isUniqueViolation_error r).mpr (mirrors.duplicate a r hi))
    rw [Pool.insertAccount_of_insert_fault mirrors.unspent hbegin hi hrollback,
      Table.insert_snd, hconflict, hfailed]
    refine ⟨rfl, rfl, up, rfl, [], (List.append_nil t.rows).symm, committed_of_no_commit ?_⟩
    simp [Statement.plain, Statement.insert]

theorem agree_find (u : String) : Agree t (Store.find u t) (Store.find u pool) := by
  have hselect := mirrors.otherwise (.select u) (by simp [Statement.select])
  have hy : Store.find u pool =
      ⟨.ok (t.rows.filter fun b => b.username == u), [], [.select u], Pool.opened p⟩ := by
    have hf : Store.find u pool = Pool.findAccounts u p := by simp only [Store.find, connected]
    rw [hf, Pool.findAccounts, Peer.execute_of_fault_none hselect]
    simp only [mirrors.rows u]
  rw [Table.find_of_available up, hy]
  refine ⟨rfl, rfl, up, rfl, [], (List.append_nil t.rows).symm, committed_of_no_commit ?_⟩
  simp [Statement.plain, Statement.select]

/-! ## One call -/

theorem agree_run (rules : Rules) (salt : Salt) (c : Call) :
    Agree t (c.run rules salt t) (c.run rules salt pool) := by
  have isOpen : pool.isOpen = true := Pool.isOpen_of_connection connected
  cases h : c.task with
  | registration x =>
    rw [run_of_registration rules salt t h, run_of_registration rules salt pool h]
    refine Agree.lift ?_ (c.shown registerAnswer) fun _ records => c.opening ++ records
    cases hv : x.validate rules salt with
    | error e =>
      obtain ⟨events, hr⟩ := register_of_invalid rules salt hv
      rw [hr Table t, hr Pool pool]
      exact .idle up isOpen (Except.error e) events
    | ok a =>
      rw [register_of_valid rules salt t hv, register_of_valid rules salt pool hv]
      exact (agree_insert up connected mirrors a).lift (Except.mapError AccountError.ofStore)
        fun value records => records ++ [.event (insertEvent a.username value)]
  | login x =>
    rw [run_of_login rules salt t h, run_of_login rules salt pool h]
    refine Agree.lift ?_ (c.shown loginAnswer) fun _ records => c.opening ++ records
    cases hv : x.validate rules with
    | error e =>
      rw [login_of_invalid rules t hv, login_of_invalid rules pool hv]
      exact .idle up isOpen (Except.error e) []
    | ok a =>
      rw [login_of_valid rules t hv, login_of_valid rules pool hv]
      exact (agree_find up connected mirrors a.username).lift
        (fun value => (a.verdict rules.passwords value).1)
        fun value records => records ++ [.event (a.verdict rules.passwords value).2]
  | insertion a =>
    rw [run_of_insertion rules salt t h, run_of_insertion rules salt pool h]
    exact (agree_insert up connected mirrors a).lift Outcome.stored fun _ records => records
  | search u =>
    rw [run_of_search rules salt t h, run_of_search rules salt pool h]
    exact (agree_find up connected mirrors u).lift Outcome.found fun _ records => records
  | nothing =>
    obtain ⟨outcome, records, hr⟩ := run_of_nothing h
    rw [hr Table rules salt t, hr Pool rules salt pool]
    exact .idle up isOpen outcome records

end Access

/-! ## A run -/

/-- A call, the salt drawn for it, and the peer that it meets. -/
structure Scripted where
  salt : Salt
  peer : Peer
  call : Call

namespace Scripted

def overTable (x : Scripted) : Salt × Session.Step := (x.salt, .call x.call)

def overPool (x : Scripted) : Salt × Database.Session.Step := (x.salt, .call x.peer x.call)

/-- Calls with peers that mirror the table as the calls leave it. -/
def mirroring (rules : Rules) (message : String) : List (Salt × Call) → Table → List Scripted
  | [], _ => []
  | (salt, c) :: rest, t =>
    ⟨salt, .ofTable t message, c⟩ ::
      mirroring rules message rest (Session.step rules salt (.call c) t).2

theorem mirroring_mirrors (rules : Rules) (message : String) (calls : List (Salt × Call))
    (t : Table) (i : Nat) (x : Scripted) (h : (mirroring rules message calls t)[i]? = some x) :
    x.peer.Mirrors
      (Session.tableAt rules t ((mirroring rules message calls t).map overTable) i) := by
  induction calls generalizing t i with
  | nil => cases h
  | cons c calls ih =>
    cases i with
    | zero =>
      cases h
      exact Peer.ofTable_mirrors t message
    | succ i => exact ih (Session.step rules c.1 (.call c.2) t).2 i h

end Scripted

/-- **A pool whose peer mirrors the table is the table.** Before every step the peer answers as
the table would at that point; then the two runs have the same outcomes and the same records, and
the insertions that the one commits are the rows that the other appends, in the same order. -/
theorem agree_session (rules : Rules) (t : Table) (pool : Pool) (steps : List Scripted)
    (up : t.available = true) (isOpen : pool.isOpen = true)
    (mirrors : ∀ (i : Nat) (x : Scripted), steps[i]? = some x →
      x.peer.Mirrors (Session.tableAt rules t (steps.map Scripted.overTable) i)) :
    let a := Session.run rules (steps.map Scripted.overTable) t
    let b := Database.Session.run rules (steps.map Scripted.overPool) pool
    a.1.map (fun e => (e.outcome, e.records)) = b.1.map (fun e => (e.outcome, e.records)) ∧
      ∃ new : List Account, a.2.rows = t.rows ++ new ∧
        b.1.flatMap (fun e => committed e.sent) = new.map Account.parameters := by
  induction steps generalizing t pool with
  | nil => exact ⟨rfl, [], (List.append_nil t.rows).symm, rfl⟩
  | cons x steps ih =>
    have hfirst : x.peer.Mirrors t := mirrors 0 x rfl
    have connected : ({ pool with peer := x.peer } : Pool).connection = .ok x.peer :=
      Pool.connection_of_isOpen isOpen hfirst.reachable
    have hcall := agree_run up connected hfirst rules x.salt x.call
    obtain ⟨hsame, new, hrows, hcommitted⟩ := ih _ _ hcall.available hcall.isOpen
      fun i y hy => mirrors (i + 1) y hy
    obtain ⟨first, hfirstRows, hfirstCommitted⟩ := hcall.rows
    refine ⟨?_, first ++ new, ?_, ?_⟩
    · exact List.cons_eq_cons.mpr ⟨Prod.ext hcall.value hcall.records, hsame⟩
    · rw [← List.append_assoc, ← hfirstRows]
      exact hrows
    · rw [List.map_append, ← hfirstCommitted, ← hcommitted]
      rfl

/-- Of a registration, an insertion with the same email and a login, the first is committed. -/
theorem agree_session_ann :
    let rules : Rules := ⟨.optional, .plaintext⟩
    let calls : List (Salt × Call) :=
      [(.ofNat 1, .register ⟨some "ann", some "a@x.org", some "pw", none⟩),
       (.ofNat 2, .insert ⟨"bob", "a@x.org", "pw", none⟩),
       (.ofNat 3, .login ⟨some "ann", some "pw", none⟩)]
    let steps := Scripted.mirroring rules "duplicate key" calls ⟨[], true⟩
    let a := Session.run rules (steps.map Scripted.overTable) ⟨[], true⟩
    let b := Database.Session.run rules (steps.map Scripted.overPool) (.opened .idle)
    a.1.map (fun e => (e.outcome, e.records)) = b.1.map (fun e => (e.outcome, e.records)) ∧
      b.1.flatMap (fun e => committed e.sent) =
        [[some "ann", some "a@x.org", some "pw", none]] := by
  intro rules calls steps a b
  obtain ⟨hsame, new, hrows, hcommitted⟩ :=
    agree_session rules ⟨[], true⟩ (.opened .idle) steps rfl rfl
      (Scripted.mirroring_mirrors rules "duplicate key" calls ⟨[], true⟩)
  refine ⟨hsame, ?_⟩
  have hann : a.2.rows = [⟨"ann", "a@x.org", "pw", none⟩] := by decide
  have hnew : new = [⟨"ann", "a@x.org", "pw", none⟩] := hrows.symm.trans hann
  rw [hcommitted, hnew]
  rfl

end Registrar
