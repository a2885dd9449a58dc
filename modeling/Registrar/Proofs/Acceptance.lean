import Registrar.Proofs.Agreement
import Registrar.Proofs.Marks
import Registrar.Proofs.Statements

/-! # Accepted registrations

Who is named as registered in the log is who the store has accepted, and over a pool the store
accepts whatever it commits.

* `Call.accepted`: the account that a call asks the store to add, if the store accepts it.
* `registrants_run`: the log names those who are accepted.
* `Pool.Commits`: an insertion is accepted exactly if its commit is sent and succeeds.
* `committed_run`, `isSome_accepted_iff`: the same of calls.
-/

namespace Registrar
open Api Http Password
set_option autoImplicit false

/-! ## Who is registered -/

section Calls
variable {σ : Type} [Store σ] (rules : Rules) (salt : Salt) {s : σ}

/-- The account that a call asks the store to add, if the store accepts it. -/
def Call.accepted (c : Call) (s : σ) : Option Account :=
  (c.task.row? rules salt).filter fun a => (Store.insert a s).value.isOk

theorem registered?_insertEvent (a : Account) (result : Except StoreError Unit) :
    (insertEvent a.username result).mark?.toList.filterMap Mark.registered? =
      ((some a).filter fun _ => result.isOk).toList.map (·.username) := by
  rw [Event.mark?_eq]
  rcases result with (_ | _) | _ <;> rfl

theorem registered?_verdict (scheme : Scheme) (a : Attempt)
    (found : Except StoreError (List Account)) :
    (a.verdict scheme found).2.mark?.toList.filterMap Mark.registered? = [] := by
  unfold Attempt.verdict
  split
  · rw [Event.mark?_eq]
    rfl
  · split <;>
    · rw [Event.mark?_eq]
      rfl

/-- Unless a call reaches past the services, the log names those whom the store accepts. -/
theorem registrants_run (warns : OnlyWarns s) {c : Call} (hc : ∀ a, c ≠ .insert a) :
    registrants (c.run rules salt s).records =
      (c.accepted rules salt s).toList.map (·.username) := by
  unfold registrants
  cases h : c.task with
  | registration x =>
    rw [run_of_registration rules salt s h, Call.accepted, h, Task.row?]
    simp only [Call.deliver, marks_append, marks_opening, List.nil_append]
    cases hv : x.validate rules salt with
    | error e =>
      rw [register_of_error rules salt s hv]
      cases e <;> rfl
    | ok a =>
      rw [marks_register_of_valid warns hv, registered?_insertEvent]
      rfl
  | login x =>
    rw [run_of_login rules salt s h, Call.accepted, h, Task.row?]
    simp only [Call.deliver, marks_append, marks_opening, List.nil_append]
    cases hv : x.validate rules with
    | error e =>
      rw [login_of_invalid rules s hv]
      rfl
    | ok a =>
      rw [marks_login_of_valid warns hv, registered?_verdict]
      rfl
  | insertion a => exact absurd (eq_insert_of_task h) (hc a)
  | search _ | nothing =>
    rw [marks_run rules salt warns, Call.mark?, Call.accepted, h]
    rfl

end Calls

/-! ## What is committed -/

namespace Database

namespace Pool

/-- An insertion is accepted exactly if its commit is sent and succeeds. -/
structure Commits (p : Peer) (a : Account) (reply : Reply Pool (Except StoreError Unit)) :
    Prop where
  isOk_iff : reply.value.isOk = true ↔
    .plain .commit ∈ reply.sent ∧ (p.execute (.plain .commit)).1 = none
  committed : committed reply.sent = if reply.value.isOk then [a.parameters] else []

theorem commits_of_no_commit {p : Peer} {a : Account} {reply : Reply Pool (Except StoreError Unit)}
    (failed : reply.value.isOk = false) (h : .plain .commit ∉ reply.sent) : Commits p a reply where
  isOk_iff := by simp [failed, h]
  committed := by simp [failed, committed_of_no_commit h]

theorem commits_commit (a : Account) (p : Peer) :
    Commits p a (commit [.plain .beginTransaction, .insert a] p) := by
  unfold commit
  cases hcommit : p.execute (.plain .commit) with
  | mk failure q =>
    cases failure with
    | none =>
      refine ⟨by simp [hcommit, Except.isOk, Except.toBool], ?_⟩
      exact committed_insertion a
    | some e =>
      refine ⟨by simp [hcommit, failed, Except.isOk, Except.toBool], ?_⟩
      simp [committed, failed, Except.isOk, Except.toBool]

theorem commits_insertAccount (a : Account) (p : Peer) : Commits p a (insertAccount a p) := by
  unfold insertAccount
  split
  · exact commits_of_no_commit rfl (by simp [Statement.plain])
  · rename_i q hbegin
    obtain rfl := Peer.eq_of_execute hbegin
    split
    · rename_i e q' _
      refine commits_of_no_commit ?_ ?_
      · unfold rollBack
        split <;> rfl
      · rcases sent_rollBack e [.plain .beginTransaction, .insert a] q' with h | h
        · rw [h]
          simp [Statement.plain, Statement.insert]
        · rw [h]
          simp [Statement.plain, Statement.insert]
    · rename_i q' hinsert
      obtain rfl := Peer.eq_of_execute hinsert
      exact commits_commit a q'

theorem commits_insert (a : Account) (pool : Pool) :
    Commits pool.peer a (Store.insert a pool) := by
  cases hconnection : pool.connection with
  | error e =>
    have hinsert : Store.insert a pool = .silent (failed e) pool := by
      simp only [Store.insert, hconnection]
    rw [hinsert]
    exact commits_of_no_commit rfl (by simp [Reply.silent])
  | ok p =>
    obtain rfl := eq_peer_of_connection hconnection
    rw [insert_of_connection hconnection]
    exact commits_insertAccount a pool.peer

section
variable (rules : Rules) (salt : Salt) (c : Call) (pool : Pool)

theorem commit_not_mem_of_row? (h : c.task.row? rules salt = none) :
    .plain .commit ∉ (c.run rules salt pool).sent := by
  have heffect := congrArg Prod.fst (run_effect rules salt pool c)
  simp only [Task.effect, h] at heffect
  rw [heffect]
  cases c.task.username? rules with
  | none => simp
  | some u =>
    rcases sent_find u pool with hsent | hsent <;>
      simp [hsent, Statement.plain, Statement.select]

theorem sent_of_row? {a : Account} (h : c.task.row? rules salt = some a) :
    (c.run rules salt pool).sent = (Store.insert a pool).sent := by
  have heffect := congrArg Prod.fst (run_effect rules salt pool c)
  simp only [Task.effect, h] at heffect
  exact heffect

theorem committed_run :
    committed (c.run rules salt pool).sent =
      (c.accepted rules salt pool).toList.map Account.parameters := by
  unfold Call.accepted
  cases h : c.task.row? rules salt with
  | none => exact committed_of_no_commit (commit_not_mem_of_row? rules salt c pool h)
  | some a =>
    rw [sent_of_row? rules salt c pool h, (commits_insert a pool).committed]
    cases hok : (Store.insert a pool).value.isOk <;> simp [Option.filter, hok]

theorem isSome_accepted_iff :
    (c.accepted rules salt pool).isSome = true ↔
      .plain .commit ∈ (c.run rules salt pool).sent ∧
        (pool.peer.execute (.plain .commit)).1 = none := by
  unfold Call.accepted
  cases h : c.task.row? rules salt with
  | none => simp [commit_not_mem_of_row? rules salt c pool h]
  | some a =>
    rw [sent_of_row? rules salt c pool h, ← (commits_insert a pool).isOk_iff]
    cases hok : (Store.insert a pool).value.isOk <;> simp [Option.filter, hok]

end

end Pool

end Database

end Registrar
