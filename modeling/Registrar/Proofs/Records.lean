import Registrar.Database.Pool
import Registrar.Account.Table
import Registrar.Proofs.Service

/-! # The records of a call

A call logs the record that opens a request, if it is one, and after it events only: first those of
the store, then one of the service.

* `OnlyWarns`: a store that logs nothing by itself but failed rollbacks; tables and pools do so.
* `records_of_nothing`: a call that asks for nothing logs at most that it could not be read.
* `records_run`: the shape of all records.
-/

namespace Registrar
open Api Http Password
set_option autoImplicit false

/-! ## What stores log -/

/-- An insertion logs failed rollbacks at most, and a look-up nothing; nor is it ever a conflict. -/
structure OnlyWarns {σ : Type} [Store σ] (s : σ) : Prop where
  insert : ∀ a, ∃ es : List Database.Error,
    (Store.insert a s).records = es.map fun e => .event (.rollbackFailed e)
  find : ∀ u, (Store.find u s).records = []
  lookup : ∀ u, (Store.find u s).value ≠ .error .conflict

theorem Table.onlyWarns (t : Table) : OnlyWarns t where
  insert := fun _ => ⟨[], rfl⟩
  find := fun _ => rfl
  lookup := by
    intro u h
    have hvalue : (Store.find u t).value = t.find u := rfl
    rw [hvalue, Table.find] at h
    split at h <;> cases h

namespace Database.Pool

theorem records_commit (before : List Statement) (p : Peer) : (commit before p).records = [] := by
  unfold commit
  split <;> rfl

theorem records_rollBack (e : Error) (before : List Statement) (p : Peer) :
    ∃ es : List Error,
      (rollBack e before p).records = es.map fun e => .event (.rollbackFailed e) := by
  unfold rollBack
  split
  · exact ⟨[], rfl⟩
  · rename_i r q _
    exact ⟨[r], rfl⟩

theorem records_insertAccount (a : Account) (p : Peer) :
    ∃ es : List Error,
      (insertAccount a p).records = es.map fun e => .event (.rollbackFailed e) := by
  unfold insertAccount
  split
  · exact ⟨[], rfl⟩
  · split
    · exact records_rollBack _ _ _
    · exact ⟨[], records_commit _ _⟩

theorem onlyWarns (pool : Pool) : OnlyWarns pool where
  insert := by
    intro a
    simp only [Store.insert]
    split
    · exact ⟨[], rfl⟩
    · exact records_insertAccount a _
  find := by
    intro u
    simp only [Store.find]
    split
    · rfl
    · unfold findAccounts
      split <;> rfl
  lookup := by
    intro u
    simp only [Store.find]
    split
    · exact fun h => by cases h
    · unfold findAccounts
      split <;> exact fun h => by cases h

end Database.Pool

/-! ## What the services log -/

section Services
variable {σ : Type} [Store σ] (rules : Rules) (salt : Salt) {s : σ}

theorem records_register (warns : OnlyWarns s) (x : Registration) :
    ∃ events : List Event, (register rules salt x s).records = events.map .event := by
  cases hv : x.validate rules salt with
  | error e =>
    rw [register_of_error rules salt s hv]
    exact ⟨e.events, rfl⟩
  | ok a =>
    obtain ⟨es, hes⟩ := warns.insert a
    rw [register_of_valid rules salt s hv, hes]
    exact ⟨es.map .rollbackFailed ++ [insertEvent a.username (Store.insert a s).value], by simp⟩

theorem records_login (warns : OnlyWarns s) (x : Credentials) :
    ∃ events : List Event, (login rules x s).records = events.map .event := by
  cases hv : x.validate rules with
  | error e =>
    rw [login_of_invalid rules s hv]
    exact ⟨[], rfl⟩
  | ok a =>
    rw [login_of_valid rules s hv, warns.find]
    exact ⟨[(a.verdict rules.passwords (Store.find a.username s).value).2], rfl⟩

end Services

/-! ## What calls log -/

section Calls
variable {σ : Type} [Store σ] (rules : Rules) (salt : Salt) {s : σ}

/-- A call that asks for nothing logs at most that it cannot be read. -/
theorem records_of_nothing (s : σ) {c : Call} (h : c.task = .nothing) :
    ∃ events : List Event, (∀ x ∈ events, x ∈ unreadEvents) ∧
      (c.run rules salt s).records = c.opening ++ events.map .event := by
  cases c with
  | http r =>
    obtain ⟨response, events, hunread, hr⟩ := respond_of_idle h
    refine ⟨events, hunread, ?_⟩
    rw [Call.run, hr σ rules salt s]
    rfl
  | register _ | login _ | insert _ | find _ => cases h

/-- A request is opened by one record, and all records after it are events. -/
theorem records_run (warns : OnlyWarns s) (c : Call) :
    ∃ events : List Event, (c.run rules salt s).records = c.opening ++ events.map .event := by
  cases h : c.task with
  | registration x =>
    obtain ⟨events, hevents⟩ := records_register rules salt warns x
    exact ⟨events, by rw [run_of_registration rules salt s h, Call.deliver, hevents]⟩
  | login x =>
    obtain ⟨events, hevents⟩ := records_login rules warns x
    exact ⟨events, by rw [run_of_login rules salt s h, Call.deliver, hevents]⟩
  | insertion a =>
    obtain rfl := eq_insert_of_task h
    obtain ⟨es, hes⟩ := warns.insert a
    exact ⟨es.map .rollbackFailed, by simp [Call.run, Reply.map, hes, Call.opening]⟩
  | search u =>
    obtain rfl := eq_find_of_task h
    exact ⟨[], by simp [Call.run, Reply.map, warns.find, Call.opening]⟩
  | nothing =>
    obtain ⟨events, -, hevents⟩ := records_of_nothing rules salt s h
    exact ⟨events, hevents⟩

end Calls

end Registrar
