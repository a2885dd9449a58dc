import Registrar.Proofs.Rejection

/-! # The two role policies

A request that names a role is served alike whether roles are required or optional. One that names
none is told that a field is missing where roles are required, whatever the store holds. So two
runs under the two policies agree until such a request comes.

* `Call.LacksRole`: the call is a registration or a login whose role is absent or blank.
* `Call.ReportsMissing`: the outcome by which a service says that a field is missing.
* `run_of_named_role`, `reportsMissing_of_lacksRole`: one call under the two policies.
* `role_policies_agree`: runs under the two policies, and where they may differ.
-/

namespace Registrar
open Api Password
set_option autoImplicit false

/-! ## Calls without a role -/

def Call.LacksRole (c : Call) : Prop :=
  (∃ x, c.Registers x ∧ given x.role = none) ∨ ∃ x, c.LogsIn x ∧ given x.role = none

/-- The outcome is that of a service which misses a field. A query that cannot be read has the same
response, but then no service is asked. -/
def Call.ReportsMissing (c : Call) (o : Outcome) : Prop :=
  (∃ x, c.Registers x ∧ o = c.shown registerAnswer (.error .missingFields)) ∨
    ∃ x, c.LogsIn x ∧ o = c.shown loginAnswer (.error .missingFields)

/-! ## One call -/

section Call
variable {σ : Type} [Store σ] (passwords : Scheme) (salt : Salt) (s : σ)

theorem role?_of_given {role : Option String} (named : given role ≠ none) :
    Rules.role? ⟨.required, passwords⟩ role = Rules.role? ⟨.optional, passwords⟩ role := by
  unfold Rules.role?
  cases h : given role with
  | none => exact absurd h named
  | some _ => rfl

theorem Registration.validate_of_named_role {x : Registration} (named : given x.role ≠ none) :
    x.validate ⟨.required, passwords⟩ salt = x.validate ⟨.optional, passwords⟩ salt := by
  simp only [Registration.validate, role?_of_given passwords named]

theorem Credentials.validate_of_named_role {x : Credentials} (named : given x.role ≠ none) :
    x.validate ⟨.required, passwords⟩ = x.validate ⟨.optional, passwords⟩ := by
  simp only [Credentials.validate, role?_of_given passwords named]

/-- The policy is asked in the validation only, and only about a role that is not there. -/
theorem run_of_named_role {c : Call} (named : ¬c.LacksRole) :
    c.run ⟨.required, passwords⟩ salt s = c.run ⟨.optional, passwords⟩ salt s := by
  cases htask : c.task with
  | registration x =>
    have hrole : given x.role ≠ none := fun hnone =>
      named (.inl ⟨x, (c.task_eq_registration_iff x).mp htask, hnone⟩)
    have hregister : register ⟨.required, passwords⟩ salt x s =
        register ⟨.optional, passwords⟩ salt x s := by
      simp only [register, Registration.validate_of_named_role passwords salt hrole]
    rw [run_of_registration _ salt s htask, run_of_registration _ salt s htask, hregister]
  | login x =>
    have hrole : given x.role ≠ none := fun hnone =>
      named (.inr ⟨x, (c.task_eq_login_iff x).mp htask, hnone⟩)
    have hlogin : login ⟨.required, passwords⟩ x s = login ⟨.optional, passwords⟩ x s := by
      simp only [login, Credentials.validate_of_named_role passwords hrole]
    rw [run_of_login _ salt s htask, run_of_login _ salt s htask, hlogin]
  | insertion a => rw [run_of_insertion _ salt s htask, run_of_insertion _ salt s htask]
  | search u => rw [run_of_search _ salt s htask, run_of_search _ salt s htask]
  | nothing =>
    obtain ⟨outcome, records, hrun⟩ := run_of_nothing htask
    rw [hrun, hrun]

/-- A missing role is noticed before the store is asked, so the store does not matter. -/
theorem reportsMissing_of_lacksRole {c : Call} (h : c.LacksRole) :
    c.ReportsMissing (c.run ⟨.required, passwords⟩ salt s).value := by
  rcases h with ⟨x, hcall, hnone⟩ | ⟨x, hcall, hnone⟩
  · have hlacks : x.Lacks ⟨.required, passwords⟩ := .inr (.inr (.inr ⟨rfl, hnone⟩))
    have htask : c.task = .registration x := (c.task_eq_registration_iff x).mpr hcall
    refine .inl ⟨x, hcall, ?_⟩
    rw [run_of_registration _ salt s htask, register_of_lacks _ salt s hlacks, Call.deliver]
  · have hlacks : x.Lacks ⟨.required, passwords⟩ := .inr (.inr ⟨rfl, hnone⟩)
    have htask : c.task = .login x := (c.task_eq_login_iff x).mpr hcall
    refine .inr ⟨x, hcall, ?_⟩
    rw [run_of_login _ salt s htask, login_of_lacks _ s hlacks, Call.deliver]

end Call

/-! ## Runs -/

namespace Session

variable (passwords : Scheme)

/-- Induction on the steps: each hands on one table under both policies. -/
theorem run_of_named_roles (steps : List (Salt × Step)) (t : Table)
    (named : ∀ salt c, (salt, Step.call c) ∈ steps → ¬c.LacksRole) :
    run ⟨.required, passwords⟩ steps t = run ⟨.optional, passwords⟩ steps t := by
  induction steps generalizing t with
  | nil => rfl
  | cons x steps ih =>
    obtain ⟨salt, s⟩ := x
    have hstep : step ⟨.required, passwords⟩ salt s t = step ⟨.optional, passwords⟩ salt s t := by
      cases s with
      | call c =>
        have hrun := run_of_named_role passwords salt t (named salt c List.mem_cons_self)
        simp only [step, hrun]
      | seed _ | rows | setAvailable _ => rfl
    have hrest := ih (step ⟨.optional, passwords⟩ salt s t).2 fun salt' c hc =>
      named salt' c (List.mem_cons_of_mem _ hc)
    simp only [run, hstep, hrest]

/-- A step without a role would be told so, whatever came before it. -/
theorem named_of_not_reported {steps : List (Salt × Step)} {t : Table}
    (complete : ∀ i salt c o, steps[i]? = some (salt, .call c) →
      outcomeAt ⟨.required, passwords⟩ t steps i = some o → ¬c.ReportsMissing o) :
    ∀ salt c, (salt, Step.call c) ∈ steps → ¬c.LacksRole := by
  intro salt c hc hlacks
  obtain ⟨i, hi⟩ := List.mem_iff_getElem?.mp hc
  exact complete i salt c _ hi (outcomeAt_eq hi)
    (reportsMissing_of_lacksRole passwords salt _ hlacks)

end Session

/-- **Roles required and roles optional.** In a run over a table in which, roles being required, no
call of a service is told that a field is missing, every step has the same outcome, the same records
and the same table where roles are optional.

Over any store, a call that is answered in different ways under the two policies is told that a
field is missing where roles are required, and it is a registration or a login whose role is absent
or blank. -/
theorem role_policies_agree (passwords : Scheme) :
    (∀ (t : Table) (steps : List (Salt × Session.Step)),
      (∀ i salt c o, steps[i]? = some (salt, .call c) →
        Session.outcomeAt ⟨.required, passwords⟩ t steps i = some o → ¬c.ReportsMissing o) →
      Session.run ⟨.required, passwords⟩ steps t = Session.run ⟨.optional, passwords⟩ steps t ∧
        ∀ i, Session.tableAt ⟨.required, passwords⟩ t steps i =
          Session.tableAt ⟨.optional, passwords⟩ t steps i) ∧
    ∀ (σ : Type) [Store σ] (salt : Salt) (c : Call) (s : σ),
      c.run ⟨.required, passwords⟩ salt s ≠ c.run ⟨.optional, passwords⟩ salt s →
        c.ReportsMissing (c.run ⟨.required, passwords⟩ salt s).value ∧ c.LacksRole := by
  constructor
  · intro t steps complete
    have named := Session.named_of_not_reported passwords complete
    refine ⟨Session.run_of_named_roles passwords steps t named, fun i => ?_⟩
    have hbefore := Session.run_of_named_roles passwords (steps.take i) t fun salt c hc =>
      named salt c (List.mem_of_mem_take hc)
    exact congrArg Prod.snd hbefore
  · intro σ _ salt c s hdiffer
    have hlacks : c.LacksRole := Classical.byContradiction fun named =>
      hdiffer (run_of_named_role passwords salt s named)
    exact ⟨reportsMissing_of_lacksRole passwords salt s hlacks, hlacks⟩

/-- Ann registers and logs in with her role; her login with a blank role is told that a field is
missing. -/
theorem role_policies_agree_ann :
    let ann : Registration := ⟨some "ann", some "a@x.org", some "pw", some "user"⟩
    let login : Http.Request := ⟨"GET", .parse "/login?name=ann&password=pw&role=user", [], []⟩
    let steps : List (Salt × Session.Step) :=
      [(.ofNat 1, .call (.register ann)), (.ofNat 2, .call (.http login))]
    let blank : Call := .login ⟨some "ann", some "pw", some " "⟩
    Session.run ⟨.required, .plaintext⟩ steps ⟨[], true⟩ =
        Session.run ⟨.optional, .plaintext⟩ steps ⟨[], true⟩ ∧
      blank.LacksRole := by
  intro ann login steps blank
  constructor
  · refine ((role_policies_agree .plaintext).1 ⟨[], true⟩ steps ?_).1
    have hsuccess : ∀ i < 2, (Session.outcomeAt ⟨.required, .plaintext⟩ ⟨[], true⟩ steps i).map
        Outcome.isSuccess = some true := by decide +kernel
    intro i salt c o hi ho hmissing
    have hlength : i < 2 := (List.getElem?_eq_some_iff.mp hi).1
    have hok : o.isSuccess = true := by
      have h := hsuccess i hlength
      rw [ho] at h
      exact Option.some.inj h
    have hfailed : o.isSuccess = false := by
      rcases hmissing with ⟨x, -, rfl⟩ | ⟨x, -, rfl⟩
      · exact isSuccess_shown_registerAnswer c _
      · exact isSuccess_shown_loginAnswer c _
    rw [hok] at hfailed
    cases hfailed
  · refine ((role_policies_agree .plaintext).2 Table (.ofNat 4) blank ⟨[], true⟩ ?_).2
    intro h
    exact absurd (congrArg Reply.records h) (by decide)

end Registrar
