import Registrar.Database.Session

/-! # The transaction of an insertion

An insertion over a connection sends `BEGIN`, the `INSERT` and `COMMIT`, each only if the one before
it succeeded, and rolls back what it cannot commit. The peer's part is a script: for each statement
a report of failure, or none.

* `firstFault`: the report that decides on the result.
* `insertAccount_of_…`: the whole reply, one lemma for each way in which a transaction ends.
* `InsertionLaw`, `insertion_law`: result, statements and warnings, for every script.
-/

namespace Registrar.Database
set_option autoImplicit false

/-! ## One statement -/

namespace Peer

theorem execute_of_fault_none {p : Peer} {s : Statement} (h : p.fault s = none) :
    p.execute s = (none, p) := by
  unfold execute
  rw [h]
  split <;> rfl

theorem execute_of_fault_some {p : Peer} {s : Statement} {r : Report}
    (unspent : s.command ∉ p.spent) (h : p.fault s = some r) :
    p.execute s = (some r.error, { p with spent := s.command :: p.spent }) := by
  unfold execute
  rw [if_neg unspent, h]

/-- A statement that succeeds leaves the peer as it was. -/
theorem eq_of_execute {p q : Peer} {s : Statement} (h : p.execute s = (none, q)) : q = p := by
  unfold execute at h
  repeat' split at h
  all_goals cases h
  all_goals rfl

end Peer

/-! ## Reports -/

/-- The report can be read, and it is of a unique violation. -/
def Report.IsUniqueViolation (r : Report) : Prop :=
  (Severity.ofName? r.severity).isSome = true ∧ r.code = "23505"

theorem Report.isUniqueViolation_error (r : Report) :
    r.error.isUniqueViolation = true ↔ r.IsUniqueViolation := by
  unfold Report.error Report.IsUniqueViolation
  cases Severity.ofName? r.severity with
  | none => simp [Error.isUniqueViolation]
  | some s => simp [Error.isUniqueViolation, uniqueViolation]

namespace Pool

theorem failed_eq_conflict_iff (e : Error) :
    failed e = .error .conflict ↔ e.isUniqueViolation = true := by
  unfold failed StoreError.ofDatabase
  cases e.isUniqueViolation <;> simp

theorem failed_eq_database_iff (e e' : Error) :
    failed e = .error (.database e') ↔ e = e' ∧ ¬e.isUniqueViolation = true := by
  unfold failed StoreError.ofDatabase
  cases e.isUniqueViolation <;> simp

/-! ## One insertion -/

theorem insert_of_connection {pool : Pool} {p : Peer} (h : pool.connection = .ok p)
    (a : Account) : Store.insert a pool = insertAccount a p := by
  simp only [Store.insert, h]

theorem eq_peer_of_connection {pool : Pool} {p : Peer} (h : pool.connection = .ok p) :
    p = pool.peer := by
  unfold connection at h
  repeat' split at h
  all_goals cases h
  all_goals rfl

section
variable {p : Peer} {a : Account} (unspent : p.spent = [])
include unspent

theorem insertAccount_of_begin_fault {r : Report}
    (hb : p.fault (.plain .beginTransaction) = some r) :
    insertAccount a p =
      ⟨failed r.error, [], [.plain .beginTransaction],
        opened { p with spent := [.beginTransaction] }⟩ := by
  have h : p.execute (.plain .beginTransaction) =
      (some r.error, { p with spent := [.beginTransaction] }) := by
    rw [Peer.execute_of_fault_some (by simp [unspent]) hb, unspent]
    rfl
  simp only [insertAccount, h]

theorem execute_insert_of_fault {r : Report} (hi : p.fault (.insert a) = some r) :
    p.execute (.insert a) = (some r.error, { p with spent := [.insertAccount] }) := by
  rw [Peer.execute_of_fault_some (by simp [unspent]) hi, unspent]
  rfl

theorem insertAccount_of_insert_fault {r : Report}
    (hb : p.fault (.plain .beginTransaction) = none) (hi : p.fault (.insert a) = some r)
    (hr : p.fault (.plain .rollback) = none) :
    insertAccount a p =
      ⟨failed r.error, [], [.plain .beginTransaction, .insert a, .plain .rollback],
        opened { p with spent := [.insertAccount] }⟩ := by
  have h : ({ p with spent := [.insertAccount] } : Peer).execute (.plain .rollback) =
      (none, { p with spent := [.insertAccount] }) := Peer.execute_of_fault_none hr
  simp only [insertAccount, Peer.execute_of_fault_none hb, execute_insert_of_fault unspent hi,
    rollBack, h]
  rfl

/-- The rollback of a refused insertion fails too: that is reported, and one more is sent. -/
theorem insertAccount_of_rollback_fault {r r' : Report}
    (hb : p.fault (.plain .beginTransaction) = none) (hi : p.fault (.insert a) = some r)
    (hr : p.fault (.plain .rollback) = some r') :
    insertAccount a p =
      ⟨failed r.error, [.event (.rollbackFailed r'.error)],
        [.plain .beginTransaction, .insert a, .plain .rollback, .plain .rollback],
        opened { p with spent := [.rollback, .insertAccount] }⟩ := by
  have h : ({ p with spent := [.insertAccount] } : Peer).execute (.plain .rollback) =
      (some r'.error, { p with spent := [.rollback, .insertAccount] }) :=
    Peer.execute_of_fault_some (by simp [Statement.plain]) hr
  have h' : ({ p with spent := [.rollback, .insertAccount] } : Peer).execute (.plain .rollback) =
      (none, { p with spent := [.rollback, .insertAccount] }) := rfl
  simp only [insertAccount, Peer.execute_of_fault_none hb, execute_insert_of_fault unspent hi,
    rollBack, h, abandon, h']
  rfl

/-- The transaction of a failed commit is rolled back when it is given up. -/
theorem insertAccount_of_commit_fault {r : Report}
    (hb : p.fault (.plain .beginTransaction) = none) (hi : p.fault (.insert a) = none)
    (hc : p.fault (.plain .commit) = some r) :
    insertAccount a p =
      ⟨failed r.error, [],
        [.plain .beginTransaction, .insert a, .plain .commit, .plain .rollback],
        abandon { p with spent := [.commit] }⟩ := by
  have h : p.execute (.plain .commit) = (some r.error, { p with spent := [.commit] }) := by
    rw [Peer.execute_of_fault_some (by simp [unspent]) hc, unspent]
    rfl
  simp only [insertAccount, Peer.execute_of_fault_none hb, Peer.execute_of_fault_none hi, commit,
    h]
  rfl

end

theorem insertAccount_of_no_fault {p : Peer} {a : Account}
    (hb : p.fault (.plain .beginTransaction) = none) (hi : p.fault (.insert a) = none)
    (hc : p.fault (.plain .commit) = none) :
    insertAccount a p =
      ⟨.ok (), [], [.plain .beginTransaction, .insert a, .plain .commit], opened p⟩ := by
  simp only [insertAccount, Peer.execute_of_fault_none hb, Peer.execute_of_fault_none hi, commit,
    Peer.execute_of_fault_none hc]
  rfl

/-! ## The law -/

/-- The first failure among the three statements that make an insertion. -/
def firstFault (p : Peer) (a : Account) : Option Report :=
  (p.fault (.plain .beginTransaction)).or
    ((p.fault (.insert a)).or (p.fault (.plain .commit)))

/-- One event and nothing else is logged, with this level, this text and these values. -/
def LogsOnly (records : List Record) (level : Level) (message : String)
    (fields : List (String × String)) : Prop :=
  ∃ e : Event, records = [.event e] ∧ e.level = level ∧ e.message = message ∧ e.fields = fields

/-- What an insertion replies when the peer follows a script. -/
structure InsertionLaw (p : Peer) (a : Account) (reply : Reply Pool (Except StoreError Unit)) :
    Prop where
  ok_iff : reply.value = .ok () ↔
    p.fault (.plain .beginTransaction) = none ∧ p.fault (.insert a) = none ∧
      p.fault (.plain .commit) = none
  sent_of_ok : reply.value = .ok () →
    reply.sent = [.plain .beginTransaction, .insert a, .plain .commit] ∧ reply.records = []
  begin_fails : ∀ r, p.fault (.plain .beginTransaction) = some r →
    reply.value = .error (.ofDatabase r.error) ∧ reply.sent = [.plain .beginTransaction] ∧
      reply.records = []
  /-- The error is that of the insertion, also if the rollback fails. -/
  insert_fails : ∀ r, p.fault (.plain .beginTransaction) = none → p.fault (.insert a) = some r →
    reply.value = .error (.ofDatabase r.error) ∧ .plain .commit ∉ reply.sent ∧
      match p.fault (.plain .rollback) with
      | none =>
        reply.sent = [.plain .beginTransaction, .insert a, .plain .rollback] ∧ reply.records = []
      | some r' =>
        reply.sent =
          [.plain .beginTransaction, .insert a, .plain .rollback, .plain .rollback] ∧
        reply.records = [.event (.rollbackFailed r'.error)] ∧
        LogsOnly reply.records .warn "rollback after failed insert failed"
          [("error", r'.error.message)]
  commit_fails : ∀ r, p.fault (.plain .beginTransaction) = none → p.fault (.insert a) = none →
    p.fault (.plain .commit) = some r →
      reply.value = .error (.ofDatabase r.error) ∧
        reply.sent =
          [.plain .beginTransaction, .insert a, .plain .commit, .plain .rollback] ∧
        reply.records = []
  conflict_iff : reply.value = .error .conflict ↔
    ∃ r, firstFault p a = some r ∧ r.IsUniqueViolation
  database_iff : ∀ e, reply.value = .error (.database e) ↔
    ∃ r, firstFault p a = some r ∧ r.error = e ∧ ¬r.IsUniqueViolation

theorem firstFault_eq_none_iff (p : Peer) (a : Account) :
    firstFault p a = none ↔
      p.fault (.plain .beginTransaction) = none ∧ p.fault (.insert a) = none ∧
        p.fault (.plain .commit) = none := by
  unfold firstFault
  rw [Option.or_eq_none_iff, Option.or_eq_none_iff]

/-- The result of an insertion is decided by the first failure. -/
theorem insertAccount_value {p : Peer} (a : Account) (unspent : p.spent = []) :
    (insertAccount a p).value =
      match firstFault p a with
      | none => .ok ()
      | some r => failed r.error := by
  unfold firstFault
  cases hb : p.fault (.plain .beginTransaction) with
  | some r =>
    rw [insertAccount_of_begin_fault unspent hb]
    rfl
  | none =>
    cases hi : p.fault (.insert a) with
    | some r =>
      cases hr : p.fault (.plain .rollback) with
      | none =>
        rw [insertAccount_of_insert_fault unspent hb hi hr]
        rfl
      | some r' =>
        rw [insertAccount_of_rollback_fault unspent hb hi hr]
        rfl
    | none =>
      cases hc : p.fault (.plain .commit) with
      | some r =>
        rw [insertAccount_of_commit_fault unspent hb hi hc]
        rfl
      | none =>
        rw [insertAccount_of_no_fault hb hi hc]
        rfl

theorem insertAccount_law {p : Peer} (a : Account) (unspent : p.spent = []) :
    InsertionLaw p a (insertAccount a p) where
  ok_iff := by
    rw [← firstFault_eq_none_iff, insertAccount_value a unspent]
    cases firstFault p a <;> simp [failed]
  sent_of_ok := by
    intro hok
    have hnone : firstFault p a = none := by
      rw [insertAccount_value a unspent] at hok
      cases hf : firstFault p a with
      | none => rfl
      | some r => simp [hf, failed] at hok
    obtain ⟨hb, hi, hc⟩ := (firstFault_eq_none_iff p a).mp hnone
    rw [insertAccount_of_no_fault hb hi hc]
    exact ⟨rfl, rfl⟩
  begin_fails := by
    intro r hb
    rw [insertAccount_of_begin_fault unspent hb]
    exact ⟨rfl, rfl, rfl⟩
  insert_fails := by
    intro r hb hi
    cases hr : p.fault (.plain .rollback) with
    | none =>
      rw [insertAccount_of_insert_fault unspent hb hi hr]
      exact ⟨rfl, by simp [Statement.plain, Statement.insert], rfl, rfl⟩
    | some r' =>
      rw [insertAccount_of_rollback_fault unspent hb hi hr]
      exact ⟨rfl, by simp [Statement.plain, Statement.insert], rfl, rfl,
        _, rfl, rfl, rfl, rfl⟩
  commit_fails := by
    intro r hb hi hc
    rw [insertAccount_of_commit_fault unspent hb hi hc]
    exact ⟨rfl, rfl, rfl⟩
  conflict_iff := by
    rw [insertAccount_value a unspent]
    cases hf : firstFault p a with
    | none => simp
    | some r => simp [failed_eq_conflict_iff, Report.isUniqueViolation_error]
  database_iff := by
    intro e
    rw [insertAccount_value a unspent]
    cases hf : firstFault p a with
    | none => simp
    | some r => simp [failed_eq_database_iff, Report.isUniqueViolation_error]

/-- **The law of an insertion**, at any point of any session that has a connection. -/
theorem insertion_law (rules : Rules) (before : List (Password.Salt × Session.Step)) (pool : Pool)
    {p : Peer} (a : Account) (unspent : p.spent = [])
    (connected :
      ({ (Session.run rules before pool).2 with peer := p } : Pool).connection = .ok p) :
    InsertionLaw p a
      (Store.insert a ({ (Session.run rules before pool).2 with peer := p } : Pool)) := by
  rw [insert_of_connection connected a]
  exact insertAccount_law a unspent

/-- After an insertion whose commit and rollback failed, a row that the server has already is
inserted over a new connection, and again the rollback fails. -/
theorem insertion_law_ann :
    let ann : Account := ⟨"ann", "a@x.org", "pw", none⟩
    let duplicate : Report := ⟨"ERROR", "23505", "duplicate key"⟩
    let lost : Report := ⟨"FATAL", "57P01", "terminating connection"⟩
    let first : Peer := { Peer.idle with
      fault := fun s => if s.command = .commit ∨ s.command = .rollback then some lost else none }
    let second : Peer := { Peer.idle with
      fault := fun s =>
        if s.command = .insertAccount then some duplicate
        else if s.command = .rollback then some lost
        else none }
    let before : List (Password.Salt × Session.Step) := [(.ofNat 1, .call first (.insert ann))]
    let reply := Store.insert ann
      ({ (Session.run ⟨.optional, .plaintext⟩ before (opened .idle)).2 with peer := second } : Pool)
    reply.value = .error .conflict ∧
      reply.sent = [.plain .beginTransaction, .insert ann, .plain .rollback, .plain .rollback] ∧
      LogsOnly reply.records .warn "rollback after failed insert failed"
        [("error", "error returned from database: terminating connection")] := by
  intro ann duplicate lost first second before reply
  have h : InsertionLaw second ann reply :=
    insertion_law ⟨.optional, .plaintext⟩ before (opened .idle) ann rfl rfl
  have hconflict := h.conflict_iff.mpr ⟨duplicate, rfl, by decide, rfl⟩
  obtain ⟨-, -, hsent, -, hrecords⟩ := h.insert_fails duplicate rfl rfl
  exact ⟨hconflict, hsent, hrecords⟩

end Pool

end Registrar.Database
