import Registrar.Account.Table
import Registrar.Database.Pool
import Registrar.Proofs.Growth
import Registrar.Proofs.Routing

/-! # Rejections

A request is rejected before a store is asked, so two runs over whatever stores reject the same
requests and reject them in the same way.

* `Registration.Lacks`, `Credentials.Lacks`: a required field is missing.
* `Request.IsForAccounts`, `Request.IsRejected`: the requests that reach a service, and those of
  them that get no further.
* `status_eq_rejected_iff`: these are the ones that are answered with 400.
* `Unasked`: two replies over two stores, neither of which was asked for anything.
* `rejection_ignores_store`: rejections over two stores.
-/

namespace Registrar
open Api Http Password
set_option autoImplicit false

/-! ## Missing fields -/

def Registration.Lacks (rules : Rules) (x : Registration) : Prop :=
  given x.username = none ∨ given x.email = none ∨ given x.password = none ∨
    rules.roles = .required ∧ given x.role = none

def Credentials.Lacks (rules : Rules) (x : Credentials) : Prop :=
  given x.username = none ∨ given x.password = none ∨
    rules.roles = .required ∧ given x.role = none

theorem Rules.role?_eq_error_iff (rules : Rules) (role : Option String) (e : AccountError) :
    rules.role? role = .error e ↔
      e = .missingFields ∧ rules.roles = .required ∧ given role = none := by
  unfold Rules.role?
  cases rules.roles <;> cases given role <;> simp [eq_comm]

theorem Registration.validate_eq_missingFields_iff (rules : Rules) (salt : Salt)
    (x : Registration) : x.validate rules salt = .error .missingFields ↔ x.Lacks rules := by
  unfold Registration.validate Registration.Lacks
  cases hu : given x.username with
  | none => simp
  | some u =>
    cases he : given x.email with
    | none => simp
    | some e =>
      cases hp : given x.password with
      | none => simp
      | some p =>
        cases hr : rules.role? x.role with
        | error f =>
          have hlacks := (Rules.role?_eq_error_iff rules x.role f).mp hr
          simp [hlacks]
        | ok role =>
          have hno := ((Rules.role?_eq_ok_iff rules x.role role).mp hr).2
          cases hs : rules.passwords.sealed salt p <;> simp_all

theorem Credentials.validate_eq_error_iff (rules : Rules) (x : Credentials) (e : AccountError) :
    x.validate rules = .error e ↔ e = .missingFields ∧ x.Lacks rules := by
  unfold Credentials.validate Credentials.Lacks
  cases hu : given x.username with
  | none => simp [eq_comm]
  | some u =>
    cases hp : given x.password with
    | none => simp [eq_comm]
    | some p =>
      cases hr : rules.role? x.role with
      | error f =>
        have hlacks := (Rules.role?_eq_error_iff rules x.role f).mp hr
        simp [hlacks, eq_comm]
      | ok role =>
        have hno := ((Rules.role?_eq_ok_iff rules x.role role).mp hr).2
        simp_all

/-! ## Rejected by a service -/

section Services
variable {σ : Type} [Store σ] (rules : Rules) (salt : Salt) (s : σ)

theorem ofStore_ne_missingFields (e : StoreError) : AccountError.ofStore e ≠ .missingFields := by
  cases e <;> simp [AccountError.ofStore]

theorem register_of_lacks {x : Registration} (h : x.Lacks rules) :
    register rules salt x s = ⟨.error .missingFields, [], [], s⟩ := by
  have hv := (Registration.validate_eq_missingFields_iff rules salt x).mpr h
  simp only [register, hv]
  rfl

theorem register_eq_missingFields_iff (x : Registration) :
    (register rules salt x s).value = .error .missingFields ↔ x.Lacks rules := by
  constructor
  · intro h
    rw [← Registration.validate_eq_missingFields_iff rules salt]
    cases hv : x.validate rules salt with
    | error e =>
      obtain ⟨events, hr⟩ := register_of_invalid rules salt hv
      rw [hr] at h
      exact congrArg Except.error (Except.error.inj h)
    | ok a =>
      rw [register_of_valid rules salt s hv] at h
      cases hi : (Store.insert a s).value with
      | ok _ =>
        rw [hi] at h
        cases h
      | error e =>
        rw [hi] at h
        exact absurd (Except.error.inj h) (ofStore_ne_missingFields e)
  · intro h
    rw [register_of_lacks rules salt s h]

theorem login_of_lacks {x : Credentials} (h : x.Lacks rules) :
    login rules x s = ⟨.error .missingFields, [], [], s⟩ :=
  login_of_invalid rules s ((Credentials.validate_eq_error_iff rules x _).mpr ⟨rfl, h⟩)

theorem login_eq_missingFields_iff (x : Credentials) :
    (login rules x s).value = .error .missingFields ↔ x.Lacks rules := by
  constructor
  · intro h
    cases hv : x.validate rules with
    | error e => exact ((Credentials.validate_eq_error_iff rules x e).mp hv).2
    | ok a =>
      rw [login_of_valid rules s hv] at h
      unfold Attempt.verdict at h
      split at h
      · exact absurd (Except.error.inj h) (ofStore_ne_missingFields _)
      · split at h <;> cases h
  · intro h
    rw [login_of_lacks rules s h]

end Services

theorem status_registerAnswer_eq_rejected_iff (result : Except AccountError Unit) :
    (registerAnswer result).status = 400 ↔ result = .error .missingFields := by
  cases result with
  | ok _ => simp [registerAnswer, registered, success, Response.json]
  | error e =>
    cases e <;>
      simp [registerAnswer, registerFailure, missingFields, Api.conflict, invalidCredentials,
        Api.failure, Response.json]

theorem status_loginAnswer_eq_rejected_iff (result : Except AccountError Unit) :
    (loginAnswer result).status = 400 ↔ result = .error .missingFields := by
  cases result with
  | ok _ => simp [loginAnswer, loggedIn, success, Response.json]
  | error e =>
    cases e <;>
      simp [loginAnswer, loginFailure, missingFields, serverError, invalidCredentials,
        Api.failure, Response.json]

/-! ## Rejected over HTTP -/

/-- The request reaches one of the two services. -/
def Http.Request.IsForAccounts (r : Request) : Prop :=
  r.target.path = "/register" ∧ r.method = "POST" ∨
    r.target.path = "/login" ∧ r.method ∈ ["GET", "HEAD", "POST"]

/-- The request is for a service, and cannot be read or lacks a field. -/
def Http.Request.IsRejected (rules : Rules) (r : Request) : Prop :=
  r.IsForAccounts ∧ (∀ x, (Call.http r).Registers x → x.Lacks rules) ∧
    ∀ x, (Call.http r).LogsIn x → x.Lacks rules

theorem isForAccounts_iff (r : Request) :
    r.IsForAccounts ↔ ∃ e, r.endpoint? = some e ∧ e ≠ .health := by
  constructor
  · rintro (⟨hpath, hmethod⟩ | ⟨hpath, hmethod⟩)
    · exact ⟨.register,
        (endpoint?_eq_some_iff r .register).mpr ⟨hpath, List.mem_singleton.mpr hmethod⟩, by decide⟩
    · by_cases hpost : r.method = "POST"
      · exact ⟨.loginBody,
          (endpoint?_eq_some_iff r .loginBody).mpr ⟨hpath, List.mem_singleton.mpr hpost⟩,
          by decide⟩
      · have hquery : r.method ∈ ["GET", "HEAD"] := by simpa [hpost] using hmethod
        exact ⟨.loginQuery, (endpoint?_eq_some_iff r .loginQuery).mpr ⟨hpath, hquery⟩, by decide⟩
  · rintro ⟨e, he, hne⟩
    obtain ⟨hpath, hmethod⟩ := (endpoint?_eq_some_iff r e).mp he
    cases e with
    | register => exact .inl ⟨hpath, List.mem_singleton.mp hmethod⟩
    | loginQuery =>
      have hmem : r.method ∈ ["GET", "HEAD"] ++ ["POST"] := List.mem_append_left _ hmethod
      exact .inr ⟨hpath, hmem⟩
    | loginBody =>
      have hmem : r.method ∈ ["GET", "HEAD"] ++ ["POST"] := List.mem_append_right _ hmethod
      exact .inr ⟨hpath, hmem⟩
    | health => exact absurd rfl hne

theorem task_of_not_isForAccounts {r : Request} (h : ¬r.IsForAccounts) : r.task = .nothing := by
  unfold Http.Request.task
  cases he : r.endpoint? with
  | none => rfl
  | some e =>
    cases e with
    | health => rfl
    | register | loginQuery | loginBody =>
      exact absurd ((isForAccounts_iff r).mpr ⟨_, he, by decide⟩) h

section Status
variable {σ : Type} [Store σ] (rules : Rules) (salt : Salt) (s : σ)

theorem status_unserved (target : Target) (response : Response) :
    (unserved target response).status = response.status := by
  unfold unserved
  split <;> rfl

theorem status_preflight (target : Target) : (preflight target).status = 200 := by
  unfold preflight
  split
  · rw [status_unserved]
    rfl
  · rfl

theorem status_of_no_endpoint {r : Request} (h : r.endpoint? = none) :
    (respond rules salt r s).value.status ∈ [200, 404, 405] := by
  unfold Http.Request.endpoint? at h
  split at h
  case isTrue hoptions =>
    have hresponse : (respond rules salt r s).value = preflight r.target := by
      simp only [respond, hoptions, if_true]
      rfl
    rw [hresponse, status_preflight]
    decide
  case isFalse hoptions =>
    have hdispatch : (respond rules salt r s).value = (dispatch rules salt r s).value := by
      simp only [respond, hoptions]
      rfl
    rw [hdispatch, dispatch]
    cases hroute : Route.ofPath? r.target.path with
    | none =>
      have hstatus := status_unserved r.target ((Response.empty 404).withHeaders originHeaders)
      simp only [Reply.silent, hstatus]
      decide
    | some route =>
      rw [hroute] at h
      have hmethod : route.endpoint? r.method = none := h
      have h405 : 405 ∈ [200, 404, 405] := by decide
      simp only [hmethod, Reply.silent, status_dressed]
      exact h405

theorem status_of_nothing {r : Request} (h : r.task = .nothing) :
    (respond rules salt r s).value.status = 400 ↔ r.IsForAccounts := by
  rw [isForAccounts_iff]
  cases he : r.endpoint? with
  | none =>
    have hstatus := status_of_no_endpoint rules salt s he
    constructor
    · intro h400
      rw [h400] at hstatus
      exact absurd hstatus (by decide)
    · rintro ⟨e, hsome, -⟩
      cases hsome
  | some e =>
    rw [respond_of_endpoint rules salt s he, status_dressed]
    unfold Http.Request.task at h
    rw [he] at h
    cases e with
    | health => simp [Endpoint.run, Reply.silent, Response.empty]
    | register =>
      cases hread : r.json?.bind Registration.ofJson? with
      | some x => simp only [hread] at h; cases h
      | none =>
        simp only [Endpoint.run, hread]
        exact ⟨fun _ => ⟨_, rfl, by decide⟩, fun _ => rfl⟩
    | loginQuery =>
      cases hread : Credentials.ofQuery? r.target.query with
      | some x => simp only [hread] at h; cases h
      | none =>
        simp only [Endpoint.run, hread]
        exact ⟨fun _ => ⟨_, rfl, by decide⟩, fun _ => rfl⟩
    | loginBody =>
      cases hread : r.json?.bind Credentials.ofJson? with
      | some x => simp only [hread] at h; cases h
      | none =>
        simp only [Endpoint.run, hread]
        exact ⟨fun _ => ⟨_, rfl, by decide⟩, fun _ => rfl⟩

theorem isForAccounts_of_task {r : Request} (h : r.task ≠ .nothing) : r.IsForAccounts :=
  Classical.byContradiction fun hno => h (task_of_not_isForAccounts hno)

theorem isRejected_iff_task (r : Request) :
    r.IsRejected rules ↔ r.IsForAccounts ∧ (∀ x, r.task = .registration x → x.Lacks rules) ∧
      ∀ x, r.task = .login x → x.Lacks rules := by
  have hregistration : ∀ x, r.task = .registration x ↔ (Call.http r).Registers x :=
    (Call.http r).task_eq_registration_iff
  have hlogin : ∀ x, r.task = .login x ↔ (Call.http r).LogsIn x :=
    (Call.http r).task_eq_login_iff
  simp only [Http.Request.IsRejected, hregistration, hlogin]

theorem isRejected_of_registration {r : Request} {x : Registration}
    (h : r.task = .registration x) : r.IsRejected rules ↔ x.Lacks rules := by
  have haccounts : r.IsForAccounts := isForAccounts_of_task (by simp [h])
  simp [isRejected_iff_task, h, haccounts]

theorem isRejected_of_login {r : Request} {x : Credentials} (h : r.task = .login x) :
    r.IsRejected rules ↔ x.Lacks rules := by
  have haccounts : r.IsForAccounts := isForAccounts_of_task (by simp [h])
  simp [isRejected_iff_task, h, haccounts]

theorem isRejected_of_nothing {r : Request} (h : r.task = .nothing) :
    r.IsRejected rules ↔ r.IsForAccounts := by
  simp [isRejected_iff_task, h]

theorem status_eq_rejected_iff (r : Request) :
    (respond rules salt r s).value.status = 400 ↔ r.IsRejected rules := by
  cases htask : r.task with
  | registration x =>
    rw [isRejected_of_registration rules htask, respond_of_registration rules salt s htask,
      status_dressed, status_registerAnswer_eq_rejected_iff, register_eq_missingFields_iff]
  | login x =>
    rw [isRejected_of_login rules htask, respond_of_login rules salt s htask, status_dressed,
      status_loginAnswer_eq_rejected_iff, login_eq_missingFields_iff]
  | insertion a => exact absurd htask (task_ne_insertion r a)
  | search u => exact absurd htask (task_ne_search r u)
  | nothing => rw [isRejected_of_nothing rules htask, status_of_nothing rules salt s htask]

end Status

/-! ## Two replies -/

/-- The replies do not differ, nothing has been sent, and both stores are as they were. -/
structure Unasked {σ τ α : Type} (s : σ) (t : τ) (x : Reply σ α) (y : Reply τ α) : Prop where
  value : x.value = y.value
  records : x.records = y.records
  sent : x.sent = [] ∧ y.sent = []
  state : x.state = s ∧ y.state = t

theorem unasked_of_eq {σ τ α : Type} {s : σ} {t : τ} {x : Reply σ α} {y : Reply τ α} {value : α}
    {records : List Record} (hx : x = ⟨value, records, [], s⟩)
    (hy : y = ⟨value, records, [], t⟩) : Unasked s t x y := by
  rw [hx, hy]
  exact ⟨rfl, rfl, ⟨rfl, rfl⟩, ⟨rfl, rfl⟩⟩

section TwoRuns
variable {σ τ : Type} [Store σ] [Store τ] (rules : Rules) (salt salt' : Salt) (s : σ) (t : τ)

theorem unasked_of_nothing {r : Request} (h : r.task = .nothing) :
    Unasked s t (respond rules salt r s) (respond rules salt' r t) := by
  obtain ⟨response, records, hr⟩ := respond_of_nothing h
  exact unasked_of_eq (hr σ rules salt s) (hr τ rules salt' t)

theorem unasked_of_rejected {r : Request} (h : r.IsRejected rules) :
    Unasked s t (respond rules salt r s) (respond rules salt' r t) := by
  cases htask : r.task with
  | registration x =>
    have hlacks := (isRejected_of_registration rules htask).mp h
    rw [respond_of_registration rules salt s htask, respond_of_registration rules salt' t htask,
      register_of_lacks rules salt s hlacks, register_of_lacks rules salt' t hlacks]
    exact unasked_of_eq rfl rfl
  | login x =>
    have hlacks := (isRejected_of_login rules htask).mp h
    rw [respond_of_login rules salt s htask, respond_of_login rules salt' t htask,
      login_of_lacks rules s hlacks, login_of_lacks rules t hlacks]
    exact unasked_of_eq rfl rfl
  | insertion a => exact absurd htask (task_ne_insertion r a)
  | search u => exact absurd htask (task_ne_search r u)
  | nothing => exact unasked_of_nothing rules salt salt' s t htask

end TwoRuns

/-- **Rejections ignore the store.** Over two stores of any kind, in any states and under any salts:

* a request is answered with 400 over one exactly if it is over the other, which is so exactly if it
  cannot be read or lacks a field;
* its response and its log records are then the same, nothing is sent, and both stores stay;
* so it is, without a log record, for the services where a required field is missing;
* so it is for every request that does not reach a service, whatever its status. -/
theorem rejection_ignores_store {σ τ : Type} [Store σ] [Store τ] (rules : Rules)
    (salt salt' : Salt) (s : σ) (t : τ) :
    (∀ r, ((respond rules salt r s).value.status = 400 ↔
        (respond rules salt' r t).value.status = 400) ∧
      ((respond rules salt r s).value.status = 400 ↔ r.IsRejected rules) ∧
      ((respond rules salt r s).value.status = 400 →
        Unasked s t (respond rules salt r s) (respond rules salt' r t))) ∧
    (∀ x, ((register rules salt x s).value = .error .missingFields ↔
        (register rules salt' x t).value = .error .missingFields) ∧
      ((register rules salt x s).value = .error .missingFields →
        Unasked s t (register rules salt x s) (register rules salt' x t) ∧
          (register rules salt x s).records = [])) ∧
    (∀ x, ((login rules x s).value = .error .missingFields ↔
        (login rules x t).value = .error .missingFields) ∧
      ((login rules x s).value = .error .missingFields →
        Unasked s t (login rules x s) (login rules x t) ∧ (login rules x s).records = [])) ∧
    ∀ r : Request, ¬r.IsForAccounts →
      Unasked s t (respond rules salt r s) (respond rules salt' r t) := by
  refine ⟨?_, ?_, ?_, ?_⟩
  · intro r
    simp only [status_eq_rejected_iff, true_and]
    exact unasked_of_rejected rules salt salt' s t
  · intro x
    simp only [register_eq_missingFields_iff, true_and]
    intro h
    rw [register_of_lacks rules salt s h, register_of_lacks rules salt' t h]
    exact ⟨unasked_of_eq rfl rfl, rfl⟩
  · intro x
    simp only [login_eq_missingFields_iff, true_and]
    intro h
    rw [login_of_lacks rules s h, login_of_lacks rules t h]
    exact ⟨unasked_of_eq rfl rfl, rfl⟩
  · intro r h
    exact unasked_of_nothing rules salt salt' s t (task_of_not_isForAccounts h)

/-- Over a table that has her row and over a closed pool: Ann logs in without the role that is
required, Bob registers with a blank email, and somebody asks what may be posted. -/
theorem rejection_ignores_store_ann :
    let rules : Rules := ⟨.required, .plaintext⟩
    let t : Table := ⟨[⟨"ann", "a@x.org", "pw", some "user"⟩], true⟩
    let pool : Database.Pool := ⟨.idle, false, true⟩
    let login : Request := ⟨"GET", .parse "/login?name=ann&password=pw", [], []⟩
    let bob : Registration := ⟨some "bob", some " ", some "pw", some "user"⟩
    let preflight : Request := ⟨"OPTIONS", .parse "/register", [], []⟩
    ((respond rules (.ofNat 2) login pool).value.status = 400 ∧
      Unasked t pool (respond rules (.ofNat 1) login t) (respond rules (.ofNat 2) login pool)) ∧
    Unasked t pool (register rules (.ofNat 1) bob t) (register rules (.ofNat 2) bob pool) ∧
    Unasked t pool (respond rules (.ofNat 1) preflight t)
      (respond rules (.ofNat 2) preflight pool) := by
  intro rules t pool login bob preflight
  obtain ⟨hrequest, hregister, -, hother⟩ :=
    rejection_ignores_store rules (.ofNat 1) (.ofNat 2) t pool
  have hlogin : (respond rules (.ofNat 1) login t).value.status = 400 := by decide +kernel
  have hbob : (register rules (.ofNat 1) bob t).value = .error .missingFields := by rfl
  have hpreflight : ¬preflight.IsForAccounts := by
    simp [preflight, Http.Request.IsForAccounts]
  exact ⟨⟨(hrequest login).1.mp hlogin, (hrequest login).2.2 hlogin⟩,
    ((hregister bob).2 hbob).1, hother preflight hpreflight⟩

end Registrar
