import Registrar.Call

/-! # What a call asks for

Below the transport a call is one of five tasks, and each task asks a store for at most one thing.

* `Call.task`: the task of a call.
* `Call.deliver`: the reply of a service as the caller sees it.
* `run_of_registration`, …, `run_of_nothing`: a call replies as its task does.
* `Task.row?`, `Task.username?`: what a task asks a store to add, and what to look up.
-/

namespace Registrar
open Api Http Password
set_option autoImplicit false

/-! ## Tasks -/

/-- What is left of a call once its transport is read. -/
inductive Task where
  | registration (r : Registration)
  | login (c : Credentials)
  | insertion (a : Account)
  | search (username : String)
  | nothing
  deriving DecidableEq

/-- What is done for a request; nothing for a preflight request, an unknown path and a method that
its route does not take. -/
def Http.Request.endpoint? (r : Request) : Option Endpoint :=
  if r.method == "OPTIONS" then none
  else (Route.ofPath? r.target.path).bind fun route => route.endpoint? r.method

def Http.Request.task (r : Request) : Task :=
  match r.endpoint? with
  | some .register =>
    match r.json?.bind Registration.ofJson? with
    | some x => .registration x
    | none => .nothing
  | some .loginQuery =>
    match Credentials.ofQuery? r.target.query with
    | some x => .login x
    | none => .nothing
  | some .loginBody =>
    match r.json?.bind Credentials.ofJson? with
    | some x => .login x
    | none => .nothing
  | some .health | none => .nothing

def Call.task : Call → Task
  | .http r => r.task
  | .register r => .registration r
  | .login c => .login c
  | .insert a => .insertion a
  | .find u => .search u

/-! ## The way back -/

/-- The record that opens a request; preflight requests and direct calls have none. -/
def Call.opening : Call → List Record
  | .http r => if r.method == "OPTIONS" then [] else [.request r.method r.target.path]
  | _ => []

/-- The result of a service as the caller sees it. -/
def Call.shown (c : Call) (answer : Except AccountError Unit → Response)
    (result : Except AccountError Unit) : Outcome :=
  match c with
  | .http r => .response (dressed r.method (answer result))
  | _ => .account result

def Call.deliver {σ : Type} (c : Call) (answer : Except AccountError Unit → Response)
    (reply : Reply σ (Except AccountError Unit)) : Reply σ Outcome :=
  ⟨c.shown answer reply.value, c.opening ++ reply.records, reply.sent, reply.state⟩

/-! ## A call replies as its task does -/

section Run
variable {σ : Type} [Store σ] (rules : Rules) (salt : Salt) (s : σ)

theorem respond_of_endpoint {r : Request} {e : Endpoint} (h : r.endpoint? = some e) :
    respond rules salt r s =
      ⟨dressed r.method (e.run rules salt r s).value,
        .request r.method r.target.path :: (e.run rules salt r s).records,
        (e.run rules salt r s).sent, (e.run rules salt r s).state⟩ := by
  unfold Http.Request.endpoint? at h
  split at h
  · cases h
  · rename_i notPreflight
    obtain ⟨route, hroute, hmethod⟩ := Option.bind_eq_some_iff.mp h
    simp only [respond, notPreflight, dispatch, hroute, hmethod, Reply.map]
    rfl

/-- Without an endpoint the response depends on the request alone. -/
theorem respond_of_no_endpoint {r : Request} (h : r.endpoint? = none) :
    ∃ response, ∀ (σ : Type) [Store σ] (rules : Rules) (salt : Salt) (s : σ),
      respond rules salt r s = ⟨response, (Call.http r).opening, [], s⟩ := by
  unfold Http.Request.endpoint? at h
  split at h
  · rename_i hp
    exact ⟨_, fun σ _ rules salt s => by simp only [respond, hp, Call.opening, if_true]; rfl⟩
  · rename_i hp
    cases hroute : Route.ofPath? r.target.path with
    | none =>
      exact ⟨_, fun σ _ rules salt s => by
        simp only [respond, hp, Call.opening, dispatch, hroute, Reply.silent]; rfl⟩
    | some route =>
      rw [hroute] at h
      have hmethod : route.endpoint? r.method = none := h
      exact ⟨_, fun σ _ rules salt s => by
        simp only [respond, hp, Call.opening, dispatch, hroute, hmethod, Reply.silent]; rfl⟩

theorem opening_of_endpoint {r : Request} {e : Endpoint} (h : r.endpoint? = some e) :
    (Call.http r).opening = [.request r.method r.target.path] := by
  unfold Http.Request.endpoint? at h
  split at h
  · cases h
  · rename_i hp
    simp only [Call.opening, hp]
    rfl

theorem endpoint?_of_registration {r : Request} {x : Registration}
    (h : r.task = .registration x) :
    r.endpoint? = some .register ∧ r.json?.bind Registration.ofJson? = some x := by
  unfold Http.Request.task at h
  repeat' split at h
  all_goals cases h
  rename_i he _ hx
  exact ⟨he, hx⟩

theorem endpoint?_of_login {r : Request} {x : Credentials} (h : r.task = .login x) :
    r.endpoint? = some .loginQuery ∧ Credentials.ofQuery? r.target.query = some x ∨
      r.endpoint? = some .loginBody ∧ r.json?.bind Credentials.ofJson? = some x := by
  unfold Http.Request.task at h
  repeat' split at h
  all_goals cases h
  · rename_i he _ hx
    exact .inl ⟨he, hx⟩
  · rename_i he _ hx
    exact .inr ⟨he, hx⟩

theorem task_ne_insertion (r : Request) (a : Account) : r.task ≠ .insertion a := by
  intro h
  unfold Http.Request.task at h
  repeat' split at h
  all_goals cases h

theorem task_ne_search (r : Request) (u : String) : r.task ≠ .search u := by
  intro h
  unfold Http.Request.task at h
  repeat' split at h
  all_goals cases h

theorem respond_of_registration {r : Request} {x : Registration} (h : r.task = .registration x) :
    respond rules salt r s =
      ⟨dressed r.method (registerAnswer (register rules salt x s).value),
        .request r.method r.target.path :: (register rules salt x s).records,
        (register rules salt x s).sent, (register rules salt x s).state⟩ := by
  obtain ⟨he, hx⟩ := endpoint?_of_registration h
  simp only [respond_of_endpoint rules salt s he, Endpoint.run, hx, Reply.map]

theorem respond_of_login {r : Request} {x : Credentials} (h : r.task = .login x) :
    respond rules salt r s =
      ⟨dressed r.method (loginAnswer (login rules x s).value),
        .request r.method r.target.path :: (login rules x s).records,
        (login rules x s).sent, (login rules x s).state⟩ := by
  rcases endpoint?_of_login h with ⟨he, hx⟩ | ⟨he, hx⟩ <;>
    simp only [respond_of_endpoint rules salt s he, Endpoint.run, hx, Reply.map]

theorem run_of_registration {c : Call} {x : Registration} (h : c.task = .registration x) :
    c.run rules salt s = c.deliver registerAnswer (register rules salt x s) := by
  cases c with
  | http r =>
    rw [Call.run, respond_of_registration rules salt s h, Call.deliver,
      opening_of_endpoint (endpoint?_of_registration h).1]
    rfl
  | register r =>
    cases h
    rfl
  | login _ | insert _ | find _ => cases h

theorem run_of_login {c : Call} {x : Credentials} (h : c.task = .login x) :
    c.run rules salt s = c.deliver loginAnswer (login rules x s) := by
  cases c with
  | http r =>
    have hopening : (Call.http r).opening = [.request r.method r.target.path] := by
      rcases endpoint?_of_login h with ⟨he, -⟩ | ⟨he, -⟩ <;> exact opening_of_endpoint he
    rw [Call.run, respond_of_login rules salt s h, Call.deliver, hopening]
    rfl
  | login c =>
    cases h
    rfl
  | register _ | insert _ | find _ => cases h

theorem eq_insert_of_task {c : Call} {a : Account} (h : c.task = .insertion a) :
    c = .insert a := by
  cases c with
  | http r => exact absurd h (task_ne_insertion r a)
  | insert b =>
    cases h
    rfl
  | register _ | login _ | find _ => cases h

theorem run_of_insertion {c : Call} {a : Account} (h : c.task = .insertion a) :
    c.run rules salt s = (Store.insert a s).map .stored := by
  rw [eq_insert_of_task h]
  rfl

theorem eq_find_of_task {c : Call} {u : String} (h : c.task = .search u) : c = .find u := by
  cases c with
  | http r => exact absurd h (task_ne_search r u)
  | find v =>
    cases h
    rfl
  | register _ | login _ | insert _ => cases h

theorem run_of_search {c : Call} {u : String} (h : c.task = .search u) :
    c.run rules salt s = (Store.find u s).map .found := by
  rw [eq_find_of_task h]
  rfl

/-- The events of a request that cannot be read. -/
def unreadEvents : List Event := [.registerBodyRejected, .loginQueryRejected, .loginBodyRejected]

theorem run_of_idle {r : Request} {e : Endpoint} (he : r.endpoint? = some e)
    (h : r.task = .nothing) :
    ∃ response, ∃ events : List Event, (∀ x ∈ events, x ∈ unreadEvents) ∧
      ∀ (σ : Type) [Store σ] (rules : Rules) (salt : Salt) (s : σ),
        e.run rules salt r s = ⟨response, events.map .event, [], s⟩ := by
  unfold Http.Request.task at h
  rw [he] at h
  cases e with
  | register =>
    cases hx : r.json?.bind Registration.ofJson? with
    | none =>
      refine ⟨invalidBody, [.registerBodyRejected], by decide, fun σ _ rules salt s => ?_⟩
      simp only [Endpoint.run, hx]
      rfl
    | some x => simp only [hx] at h; cases h
  | loginQuery =>
    cases hx : Credentials.ofQuery? r.target.query with
    | none =>
      refine ⟨missingFields, [.loginQueryRejected], by decide, fun σ _ rules salt s => ?_⟩
      simp only [Endpoint.run, hx]
      rfl
    | some x => simp only [hx] at h; cases h
  | loginBody =>
    cases hx : r.json?.bind Credentials.ofJson? with
    | none =>
      refine ⟨invalidBody, [.loginBodyRejected], by decide, fun σ _ rules salt s => ?_⟩
      simp only [Endpoint.run, hx]
      rfl
    | some x => simp only [hx] at h; cases h
  | health => exact ⟨.empty 200, [], by simp, fun σ _ rules salt s => rfl⟩

/-- A request that asks for nothing logs at most that it cannot be read. -/
theorem respond_of_idle {r : Request} (h : r.task = .nothing) :
    ∃ response, ∃ events : List Event, (∀ x ∈ events, x ∈ unreadEvents) ∧
      ∀ (σ : Type) [Store σ] (rules : Rules) (salt : Salt) (s : σ),
        respond rules salt r s =
          ⟨response, (Call.http r).opening ++ events.map .event, [], s⟩ := by
  cases he : r.endpoint? with
  | none =>
    obtain ⟨response, hr⟩ := respond_of_no_endpoint he
    exact ⟨response, [], by simp, by simpa using hr⟩
  | some e =>
    obtain ⟨response, events, hunread, hr⟩ := run_of_idle he h
    refine ⟨dressed r.method response, events, hunread, ?_⟩
    intro σ _ rules salt s
    rw [respond_of_endpoint rules salt s he, hr σ rules salt s, opening_of_endpoint he]
    rfl

theorem respond_of_nothing {r : Request} (h : r.task = .nothing) :
    ∃ response records, ∀ (σ : Type) [Store σ] (rules : Rules) (salt : Salt) (s : σ),
      respond rules salt r s = ⟨response, records, [], s⟩ := by
  obtain ⟨response, events, -, hr⟩ := respond_of_idle h
  exact ⟨response, _, hr⟩

/-- A call that asks for nothing replies the same over every store. -/
theorem run_of_nothing {c : Call} (h : c.task = .nothing) :
    ∃ outcome records, ∀ (σ : Type) [Store σ] (rules : Rules) (salt : Salt) (s : σ),
      c.run rules salt s = ⟨outcome, records, [], s⟩ := by
  cases c with
  | http r =>
    obtain ⟨response, records, hr⟩ := respond_of_nothing h
    refine ⟨.response response, records, ?_⟩
    intro σ _ rules salt s
    rw [Call.run, hr σ rules salt s]
    rfl
  | register _ | login _ | insert _ | find _ => cases h

end Run

/-! ## What a task asks of a store -/

def Task.row? (rules : Rules) (salt : Salt) : Task → Option Account
  | .registration r => (r.validate rules salt).toOption
  | .insertion a => some a
  | .login _ | .search _ | .nothing => none

theorem Task.row?_eq_some_iff (rules : Rules) (salt : Salt) (task : Task) (a : Account) :
    task.row? rules salt = some a ↔
      (∃ r, task = .registration r ∧ r.validate rules salt = .ok a) ∨ task = .insertion a := by
  cases task with
  | registration r =>
    have hok : (r.validate rules salt).toOption = some a ↔ r.validate rules salt = .ok a := by
      cases r.validate rules salt <;> simp [Except.toOption]
    simp [Task.row?, hok]
  | insertion b => simp [Task.row?]
  | login _ | search _ | nothing => simp [Task.row?]

def Task.username? (rules : Rules) : Task → Option String
  | .login c => (c.validate rules).toOption.map (·.username)
  | .search u => some u
  | .registration _ | .insertion _ | .nothing => none

end Registrar
