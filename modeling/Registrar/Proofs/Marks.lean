import Registrar.Proofs.BodySize
import Registrar.Proofs.Provenance
import Registrar.Proofs.Records

/-! # Marks in the log

Six of the texts in a log tell what became of a registration or a login, four of them with a
username beside them. A call leaves exactly the mark that it earns by its outcome.

* `Mark`: what is told of an account; `Mark.read?`: read off a written text and its values.
* `marks`, `registrants`: what a log tells.
* `Call.mark?`: the mark that a call earns by its outcome.
* `Call.Lacks`: a required field is missing.
* `marks_run`: a call leaves the mark that it earns, and no other.
* `records_of_lacks`: a call in which a field is missing leaves nothing.
-/

namespace Registrar
open Api Http Password
set_option autoImplicit false

/-! ## Marks -/

inductive Mark where
  | registered (username : String)
  | conflict (username : String)
  | insertFailed
  | loggedIn (username : String)
  | refused (username : String)
  | lookupFailed
  deriving DecidableEq, Repr

def Mark.registered? : Mark → Option String
  | registered u => some u
  | conflict _ | insertFailed | loggedIn _ | refused _ | lookupFailed => none

/-- The mark that is read off a written text and the values beside it. -/
def Mark.read? (message : String) (fields : List (String × String)) : Option Mark :=
  if message = "account registered" then (fields.lookup "username").map .registered
  else if message = "registration conflict" then (fields.lookup "username").map .conflict
  else if message = "account insert failed" then (fields.lookup "error").map fun _ => .insertFailed
  else if message = "login succeeded" then (fields.lookup "username").map .loggedIn
  else if message = "login rejected" then (fields.lookup "username").map .refused
  else if message = "account lookup failed" then (fields.lookup "error").map fun _ => .lookupFailed
  else none

def Event.mark? (e : Event) : Option Mark := Mark.read? e.message e.fields

/-- No text stands for two of the marks, and each has the value that its mark is read from. -/
theorem Event.mark?_eq (e : Event) :
    e.mark? = match e with
      | registered u => some (.registered u)
      | registrationConflict u => some (.conflict u)
      | insertFailed _ => some .insertFailed
      | loginSucceeded u => some (.loggedIn u)
      | loginRejected u => some (.refused u)
      | lookupFailed _ => some .lookupFailed
      | hashingFailed _ | rollbackFailed _ | registerBodyRejected | loginBodyRejected
      | loginQueryRejected => none := by
  cases e <;> rfl

def Record.mark? : Record → Option Mark
  | event e => e.mark?
  | request _ _ => none

def marks (records : List Record) : List Mark := records.filterMap Record.mark?

@[simp] theorem marks_append (xs ys : List Record) : marks (xs ++ ys) = marks xs ++ marks ys :=
  List.filterMap_append

/-- The usernames that a log names as registered. -/
def registrants (records : List Record) : List String :=
  (marks records).filterMap Mark.registered?

theorem registrants_append (xs ys : List Record) :
    registrants (xs ++ ys) = registrants xs ++ registrants ys := by
  rw [registrants, marks_append, List.filterMap_append]
  rfl

theorem mem_registrants_iff (records : List Record) (u : String) :
    u ∈ registrants records ↔ .registered u ∈ marks records := by
  rw [registrants, List.mem_filterMap]
  constructor
  · rintro ⟨m, hm, hu⟩
    cases m <;> cases hu
    exact hm
  · intro h
    exact ⟨_, h, rfl⟩

/-! ## Answers -/

/-- The mark that the registration of a username earns by its outcome. -/
def Outcome.registrationMark? (username : String) : Outcome → Option Mark
  | response r =>
    if r.status = 201 then some (.registered username)
    else if r.status = 409 then some (.conflict username)
    else if r.status = 500 then some .insertFailed
    else none
  | account (.ok ()) => some (.registered username)
  | account (.error .conflict) => some (.conflict username)
  | account (.error (.store _)) => some .insertFailed
  | _ => none

/-- The mark that a login with a username earns by its outcome. -/
def Outcome.loginMark? (username : String) : Outcome → Option Mark
  | response r =>
    if r.status = 200 then some (.loggedIn username)
    else if r.status = 401 then some (.refused username)
    else if r.status = 500 then some .lookupFailed
    else none
  | account (.ok ()) => some (.loggedIn username)
  | account (.error .invalidCredentials) => some (.refused username)
  | account (.error (.store _)) => some .lookupFailed
  | _ => none

def Call.mark? (c : Call) (o : Outcome) : Option Mark :=
  match c.task with
  | .registration x => x.username.bind o.registrationMark?
  | .login x => x.username.bind o.loginMark?
  | .insertion _ | .search _ | .nothing => none

/-- The call is a registration or a login in which a required field is missing. -/
def Call.Lacks (rules : Rules) (c : Call) : Prop :=
  (∃ x, c.Registers x ∧ x.Lacks rules) ∨ ∃ x, c.LogsIn x ∧ x.Lacks rules

theorem registrationMark?_of_missing (c : Call) (u : String) :
    (c.shown registerAnswer (.error .missingFields)).registrationMark? u = none := by
  cases c with
  | http r =>
    simp only [Call.shown, Outcome.registrationMark?, status_dressed]
    rfl
  | register _ | login _ | insert _ | find _ => rfl

theorem loginMark?_of_missing (c : Call) (u : String) :
    (c.shown loginAnswer (.error .missingFields)).loginMark? u = none := by
  cases c with
  | http r =>
    simp only [Call.shown, Outcome.loginMark?, status_dressed]
    rfl
  | register _ | login _ | insert _ | find _ => rfl

theorem registrationMark?_of_stored (c : Call) (u : String) (result : Except StoreError Unit) :
    (c.shown registerAnswer (result.mapError .ofStore)).registrationMark? u =
      (insertEvent u result).mark? := by
  rw [Event.mark?_eq]
  cases c with
  | http r =>
    simp only [Call.shown, Outcome.registrationMark?, status_dressed]
    rcases result with (_ | _) | _ <;> rfl
  | register _ | login _ | insert _ | find _ => rcases result with (_ | _) | _ <;> rfl

theorem loginMark?_of_found (c : Call) (scheme : Scheme) (a : Attempt)
    {found : Except StoreError (List Account)} (h : found ≠ .error .conflict) :
    (c.shown loginAnswer (a.verdict scheme found).1).loginMark? a.username =
      (a.verdict scheme found).2.mark? := by
  rw [Event.mark?_eq]
  unfold Attempt.verdict
  cases found with
  | error e =>
    cases e with
    | conflict => exact absurd rfl h
    | database e =>
      cases c with
      | http r =>
        simp only [Call.shown, Outcome.loginMark?, status_dressed]
        rfl
      | register _ | login _ | insert _ | find _ => rfl
  | ok rows =>
    dsimp only
    cases c with
    | http r =>
      simp only [Call.shown, Outcome.loginMark?, status_dressed]
      split <;> rfl
    | register _ | login _ | insert _ | find _ => split <;> rfl

/-! ## One call -/

@[simp] theorem marks_opening (c : Call) : marks c.opening = [] := by
  cases c with
  | http r =>
    dsimp only [Call.opening]
    split <;> rfl
  | register _ | login _ | insert _ | find _ => rfl

@[simp] theorem marks_event (e : Event) : marks [.event e] = e.mark?.toList := by
  cases h : e.mark? <;> simp [marks, Record.mark?, h]

theorem marks_of_events {events : List Event} (h : ∀ e ∈ events, e.mark? = none) :
    marks (events.map .event) = [] := by
  refine List.filterMap_eq_nil_iff.mpr ?_
  intro x hx
  obtain ⟨e, he, rfl⟩ := List.mem_map.mp hx
  exact h e he

theorem mark?_of_unread {e : Event} (h : e ∈ unreadEvents) : e.mark? = none := by
  simp only [unreadEvents, List.mem_cons, List.not_mem_nil, or_false] at h
  rcases h with rfl | rfl | rfl <;> exact Event.mark?_eq _

theorem marks_of_rollbacks (es : List Database.Error) :
    marks (es.map fun e => .event (.rollbackFailed e)) = [] := by
  refine List.filterMap_eq_nil_iff.mpr ?_
  intro x hx
  obtain ⟨e, -, rfl⟩ := List.mem_map.mp hx
  exact Event.mark?_eq _

section Calls
variable {σ : Type} [Store σ] {rules : Rules} {salt : Salt} {s : σ}

theorem marks_register_of_valid (warns : OnlyWarns s) {x : Registration} {a : Account}
    (h : x.validate rules salt = .ok a) :
    marks (register rules salt x s).records =
      (insertEvent a.username (Store.insert a s).value).mark?.toList := by
  obtain ⟨es, hes⟩ := warns.insert a
  rw [register_of_valid rules salt s h]
  simp only [hes, marks_append, marks_of_rollbacks, List.nil_append, marks_event]

theorem marks_login_of_valid (warns : OnlyWarns s) {x : Credentials} {a : Attempt}
    (h : x.validate rules = .ok a) :
    marks (login rules x s).records =
      (a.verdict rules.passwords (Store.find a.username s).value).2.mark?.toList := by
  rw [login_of_valid rules s h]
  simp only [warns.find, List.nil_append, marks_event]

/-- Only a call of the service meets a password that cannot be hashed. -/
theorem validate_cases_of_task (rules : Rules) (salt : Salt) {c : Call} {x : Registration}
    (h : c.task = .registration x) :
    x.Lacks rules ∨
      (c = .register x ∧ x.validate rules salt = .error (.password .invalidPassword)) ∨
      ∃ a, x.validate rules salt = .ok a := by
  rcases Registration.validate_cases rules salt x with ⟨hlacks, -⟩ | ⟨p, hp, -, hlong, hv⟩ | hvalid
  · exact .inl hlacks
  · cases c with
    | http r =>
      rcases validate_of_posted (endpoint?_of_registration h).2 rules salt with hv' | ⟨a, hv'⟩ <;>
        · rw [hv] at hv'
          cases hv'
    | register y =>
      cases h
      exact .inr (.inl ⟨rfl, hv⟩)
    | login _ | insert _ | find _ => cases h
  · exact .inr (.inr hvalid)

theorem marks_of_registration (warns : OnlyWarns s) {c : Call} {x : Registration}
    (h : c.task = .registration x) :
    marks (c.run rules salt s).records = (c.mark? (c.run rules salt s).value).toList := by
  rw [run_of_registration rules salt s h]
  simp only [Call.deliver, marks_append, marks_opening, List.nil_append, Call.mark?, h]
  rcases validate_cases_of_task rules salt h with hlacks | ⟨rfl, hv⟩ | ⟨a, hv⟩
  · rw [register_of_lacks rules salt s hlacks]
    cases x.username with
    | none => rfl
    | some u =>
      simp only [Option.bind_some, registrationMark?_of_missing]
      rfl
  · rw [register_of_error rules salt s hv]
    cases x.username <;> rfl
  · rw [marks_register_of_valid warns hv, (Registration.row_of_validate hv).username,
      Option.bind_some, register_of_valid rules salt s hv, registrationMark?_of_stored]

theorem marks_of_login (warns : OnlyWarns s) {c : Call} {x : Credentials}
    (h : c.task = .login x) :
    marks (c.run rules salt s).records = (c.mark? (c.run rules salt s).value).toList := by
  rw [run_of_login rules salt s h]
  simp only [Call.deliver, marks_append, marks_opening, List.nil_append, Call.mark?, h]
  cases hv : x.validate rules with
  | error e =>
    rw [login_of_lacks rules s ((Credentials.validate_eq_error_iff rules x e).mp hv).2]
    cases x.username with
    | none => rfl
    | some u =>
      simp only [Option.bind_some, loginMark?_of_missing]
      rfl
  | ok a =>
    have husername := ((Credentials.validate_eq_ok_iff rules x a).mp hv).1
    rw [marks_login_of_valid warns hv, ((given_eq_some_iff _ _).mp husername).1, Option.bind_some,
      login_of_valid rules s hv, loginMark?_of_found c _ a (warns.lookup a.username)]

/-- A call leaves in the log the mark that its outcome earns, and no other. -/
theorem marks_run (rules : Rules) (salt : Salt) (warns : OnlyWarns s) (c : Call) :
    marks (c.run rules salt s).records = (c.mark? (c.run rules salt s).value).toList := by
  cases h : c.task with
  | registration x => exact marks_of_registration warns h
  | login x => exact marks_of_login warns h
  | insertion a =>
    obtain rfl := eq_insert_of_task h
    obtain ⟨es, hes⟩ := warns.insert a
    rw [Call.run, Reply.map, hes, marks_of_rollbacks]
    rfl
  | search u =>
    obtain rfl := eq_find_of_task h
    rw [Call.run, Reply.map, warns.find]
    rfl
  | nothing =>
    obtain ⟨events, hunread, hrecords⟩ := records_of_nothing rules salt s h
    rw [hrecords, marks_append, marks_opening, List.nil_append,
      marks_of_events fun e he => mark?_of_unread (hunread e he), Call.mark?, h]
    rfl

/-- With a missing field nothing is logged but the opening of a request. -/
theorem records_of_lacks (rules : Rules) (salt : Salt) (s : σ) {c : Call} (h : c.Lacks rules) :
    (c.run rules salt s).records = c.opening := by
  rcases h with ⟨x, hx, hlacks⟩ | ⟨x, hx, hlacks⟩
  · rw [run_of_registration rules salt s ((c.task_eq_registration_iff x).mpr hx), Call.deliver,
      register_of_lacks rules salt s hlacks, List.append_nil]
  · rw [run_of_login rules salt s ((c.task_eq_login_iff x).mpr hx), Call.deliver,
      login_of_lacks rules s hlacks, List.append_nil]

end Calls

end Registrar
