import Registrar.Proofs.Task

/-! # The two services over any store

* `Registration.validate_eq_ok_iff`, `Credentials.validate_eq_ok_iff`: what makes a request valid.
* `register_of_valid`, `login_of_valid`: what a service makes of the answer of the store.
* `run_effect`: a call touches a store by one insertion, by one look-up or not at all.
-/

namespace Registrar
open Api Http Password
set_option autoImplicit false

/-! ## Validation -/

theorem Rules.role?_eq_ok_iff (rules : Rules) (role x : Option String) :
    rules.role? role = .ok x ↔
      x = given role ∧ (rules.roles = .required → given role ≠ none) := by
  unfold Rules.role?
  cases rules.roles <;> cases given role <;> simp [eq_comm]

theorem Registration.validate_eq_ok_iff (rules : Rules) (salt : Salt) (r : Registration)
    (a : Account) :
    r.validate rules salt = .ok a ↔
      given r.username = some a.username ∧ given r.email = some a.email ∧
        (∃ p, given r.password = some p ∧ rules.passwords.sealed salt p = .ok a.password) ∧
        a.role = given r.role ∧ (rules.roles = .required → given r.role ≠ none) := by
  rw [← Rules.role?_eq_ok_iff]
  unfold Registration.validate
  cases hu : given r.username with
  | none => simp
  | some u =>
    cases he : given r.email with
    | none => simp
    | some e =>
      cases hp : given r.password with
      | none => simp
      | some p =>
        cases hr : rules.role? r.role with
        | error f => simp
        | ok role =>
          cases hs : rules.passwords.sealed salt p with
          | error f => simp [hs]
          | ok stored =>
            obtain ⟨username, email, password, role'⟩ := a
            simp [hs]

theorem Credentials.validate_eq_ok_iff (rules : Rules) (c : Credentials) (a : Attempt) :
    c.validate rules = .ok a ↔
      given c.username = some a.username ∧ given c.password = some a.password ∧
        a.role = given c.role ∧ (rules.roles = .required → given c.role ≠ none) := by
  rw [← Rules.role?_eq_ok_iff]
  unfold Credentials.validate
  cases hu : given c.username with
  | none => simp
  | some u =>
    cases hp : given c.password with
    | none => simp
    | some p =>
      cases hr : rules.role? c.role with
      | error f => simp
      | ok role =>
        obtain ⟨username, password, role'⟩ := a
        simp

theorem Credentials.validate_of_given {rules : Rules} {c : Credentials} {u p : String}
    (hu : given c.username = some u) (hp : given c.password = some p)
    (hrole : rules.roles = .required → given c.role ≠ none) :
    c.validate rules = .ok ⟨u, p, given c.role⟩ :=
  (Credentials.validate_eq_ok_iff rules c ⟨u, p, given c.role⟩).mpr ⟨hu, hp, rfl, hrole⟩

/-! ## Registration -/

section Services
variable {σ : Type} [Store σ] (rules : Rules) (salt : Salt) (s : σ)

/-- What is logged of an error that is met before the store is asked. -/
def AccountError.events : AccountError → List Event
  | password e => [.hashingFailed e]
  | missingFields | conflict | invalidCredentials | store _ => []

theorem register_of_error {r : Registration} {e : AccountError}
    (h : r.validate rules salt = .error e) :
    register rules salt r s = ⟨.error e, e.events.map .event, [], s⟩ := by
  cases e <;> simp only [register, h] <;> rfl

/-- A registration that is not valid ends before the store, in the same way over every store. -/
theorem register_of_invalid {r : Registration} {e : AccountError}
    (h : r.validate rules salt = .error e) :
    ∃ events, ∀ (σ : Type) [Store σ] (s : σ),
      register rules salt r s = ⟨.error e, events, [], s⟩ :=
  ⟨_, fun _ _ s => register_of_error rules salt s h⟩

theorem register_of_valid {r : Registration} {a : Account} (h : r.validate rules salt = .ok a) :
    register rules salt r s =
      ⟨(Store.insert a s).value.mapError AccountError.ofStore,
        (Store.insert a s).records ++ [.event (insertEvent a.username (Store.insert a s).value)],
        (Store.insert a s).sent, (Store.insert a s).state⟩ := by
  simp only [register, h, insertResult_eq_mapError]

/-! ## Login -/

theorem login_of_invalid {c : Credentials} {e : AccountError} (h : c.validate rules = .error e) :
    login rules c s = .silent (.error e) s := by
  simp only [login, h]

/-- What a login makes of the answer of the store. -/
def Attempt.verdict (scheme : Scheme) (a : Attempt) :
    Except StoreError (List Account) → Except AccountError Unit × Event
  | .error e => (.error (.ofStore e), .lookupFailed e)
  | .ok rows =>
    if rows.any (a.matches scheme) then (.ok (), .loginSucceeded a.username)
    else (.error .invalidCredentials, .loginRejected a.username)

theorem login_of_valid {c : Credentials} {a : Attempt} (h : c.validate rules = .ok a) :
    login rules c s =
      ⟨(a.verdict rules.passwords (Store.find a.username s).value).1,
        (Store.find a.username s).records ++
          [.event (a.verdict rules.passwords (Store.find a.username s).value).2],
        (Store.find a.username s).sent, (Store.find a.username s).state⟩ := by
  simp only [login, h, Attempt.verdict]
  cases (Store.find a.username s).value with
  | error e => rfl
  | ok rows =>
    cases hm : rows.any (a.matches rules.passwords) <;> simp [hm]

/-! ## The store in a call -/

/-- The statements that a task causes and the store that it leaves. -/
def Task.effect (task : Task) : List Database.Statement × σ :=
  match task.row? rules salt, task.username? rules with
  | some a, _ => ((Store.insert a s).sent, (Store.insert a s).state)
  | none, some u => ((Store.find u s).sent, (Store.find u s).state)
  | none, none => ([], s)

theorem run_effect (c : Call) :
    ((c.run rules salt s).sent, (c.run rules salt s).state) = c.task.effect rules salt s := by
  cases h : c.task with
  | registration x =>
    rw [run_of_registration rules salt s h]
    cases hv : x.validate rules salt with
    | error e =>
      obtain ⟨events, hr⟩ := register_of_invalid rules salt hv
      simp only [Call.deliver, hr, Task.effect, Task.row?, Task.username?, hv]
      rfl
    | ok a =>
      simp only [Call.deliver, register_of_valid rules salt s hv, Task.effect, Task.row?, hv]
      rfl
  | login x =>
    rw [run_of_login rules salt s h]
    cases hv : x.validate rules with
    | error e =>
      simp only [Call.deliver, login_of_invalid rules s hv, Task.effect, Task.row?,
        Task.username?, hv]
      rfl
    | ok a =>
      simp only [Call.deliver, login_of_valid rules s hv, Task.effect, Task.row?,
        Task.username?, hv]
      rfl
  | insertion a =>
    rw [run_of_insertion rules salt s h]
    rfl
  | search u =>
    rw [run_of_search rules salt s h]
    rfl
  | nothing =>
    obtain ⟨outcome, records, hr⟩ := run_of_nothing h
    rw [hr σ rules salt s]
    rfl

end Services

end Registrar
