import Registrar.Proofs.Task

/-! # Which requests reach an endpoint

* `Endpoint.route`, `Endpoint.methods`: where an endpoint stands, and what it is asked by.
* `endpoint?_eq_some_iff`: an endpoint is reached by its methods on its path and in no other way.
* `Call.Registers`, `Call.LogsIn`: the calls that are registrations, and those that are logins.
* `Call.task_eq_registration_iff`, `Call.task_eq_login_iff`: these are their tasks.
-/

namespace Registrar
open Api Http Password
set_option autoImplicit false

namespace Api

def Endpoint.route : Endpoint → Route
  | register => .register
  | loginQuery | loginBody => .login
  | health => .health

def Endpoint.methods : Endpoint → List String
  | register | loginBody => ["POST"]
  | loginQuery | health => ["GET", "HEAD"]

theorem Route.ofPath?_eq_some_iff (p : String) (route : Route) :
    ofPath? p = some route ↔ p = route.path := by
  constructor
  · intro h
    have hfound := List.find?_some h
    exact (beq_iff_eq.mp hfound).symm
  · rintro rfl
    cases route <;> decide

theorem Route.endpoint?_eq_some_iff (route : Route) (method : String) (e : Endpoint) :
    route.endpoint? method = some e ↔ e.route = route ∧ method ∈ e.methods := by
  by_cases hget : method = "GET"
  · subst hget
    cases route <;> cases e <;> decide
  by_cases hhead : method = "HEAD"
  · subst hhead
    cases route <;> cases e <;> decide
  by_cases hpost : method = "POST"
  · subst hpost
    cases route <;> cases e <;> decide
  have hnone : route.endpoint? method = none := by
    cases route <;> simp [Route.endpoint?, hget, hhead, hpost]
  rw [hnone]
  cases e <;> simp [Endpoint.methods, hget, hhead, hpost]

end Api

theorem endpoint?_eq_some_iff (r : Request) (e : Endpoint) :
    r.endpoint? = some e ↔ r.target.path = e.route.path ∧ r.method ∈ e.methods := by
  unfold Http.Request.endpoint?
  split
  case isTrue hoptions =>
    rw [beq_iff_eq] at hoptions
    cases e <;> simp [hoptions, Endpoint.methods]
  case isFalse hoptions =>
    simp only [Option.bind_eq_some_iff, Route.ofPath?_eq_some_iff, Route.endpoint?_eq_some_iff]
    constructor
    · rintro ⟨route, hpath, rfl, hmethod⟩
      exact ⟨hpath, hmethod⟩
    · rintro ⟨hpath, hmethod⟩
      exact ⟨e.route, hpath, rfl, hmethod⟩

/-! ## Registrations and logins -/

def Call.Registers : Call → Registration → Prop
  | .register y, x => y = x
  | .http r, x =>
    r.method = "POST" ∧ r.target.path = "/register" ∧ r.json?.bind Registration.ofJson? = some x
  | .login _, _ | .insert _, _ | .find _, _ => False

def Call.LogsIn : Call → Credentials → Prop
  | .login y, x => y = x
  | .http r, x =>
    r.target.path = "/login" ∧
      (r.method ∈ ["GET", "HEAD"] ∧ Credentials.ofQuery? r.target.query = some x ∨
        r.method = "POST" ∧ r.json?.bind Credentials.ofJson? = some x)
  | .register _, _ | .insert _, _ | .find _, _ => False

theorem Call.task_eq_registration_iff (c : Call) (x : Registration) :
    c.task = .registration x ↔ c.Registers x := by
  cases c with
  | http r =>
    constructor
    · intro h
      obtain ⟨hendpoint, hread⟩ := endpoint?_of_registration h
      obtain ⟨hpath, hmethod⟩ := (endpoint?_eq_some_iff r .register).mp hendpoint
      exact ⟨List.mem_singleton.mp hmethod, hpath, hread⟩
    · rintro ⟨hmethod, hpath, hread⟩
      have hendpoint : r.endpoint? = some .register :=
        (endpoint?_eq_some_iff r .register).mpr ⟨hpath, List.mem_singleton.mpr hmethod⟩
      simp only [Call.task, Http.Request.task, hendpoint, hread]
  | register y => simp [Call.task, Call.Registers]
  | login _ | insert _ | find _ => simp [Call.task, Call.Registers]

theorem Call.task_eq_login_iff (c : Call) (x : Credentials) :
    c.task = .login x ↔ c.LogsIn x := by
  cases c with
  | http r =>
    constructor
    · intro h
      rcases endpoint?_of_login h with ⟨hendpoint, hread⟩ | ⟨hendpoint, hread⟩
      · obtain ⟨hpath, hmethod⟩ := (endpoint?_eq_some_iff r .loginQuery).mp hendpoint
        exact ⟨hpath, .inl ⟨hmethod, hread⟩⟩
      · obtain ⟨hpath, hmethod⟩ := (endpoint?_eq_some_iff r .loginBody).mp hendpoint
        exact ⟨hpath, .inr ⟨List.mem_singleton.mp hmethod, hread⟩⟩
    · rintro ⟨hpath, ⟨hmethod, hread⟩ | ⟨hmethod, hread⟩⟩
      · have hendpoint : r.endpoint? = some .loginQuery :=
          (endpoint?_eq_some_iff r .loginQuery).mpr ⟨hpath, hmethod⟩
        simp only [Call.task, Http.Request.task, hendpoint, hread]
      · have hendpoint : r.endpoint? = some .loginBody :=
          (endpoint?_eq_some_iff r .loginBody).mpr ⟨hpath, List.mem_singleton.mpr hmethod⟩
        simp only [Call.task, Http.Request.task, hendpoint, hread]
  | login y => simp [Call.task, Call.LogsIn]
  | register _ | insert _ | find _ => simp [Call.task, Call.LogsIn]

end Registrar
