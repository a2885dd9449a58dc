import Registrar.Proofs.Growth
import Registrar.Proofs.Login

/-! # Logins and the history of registrations

In a session that begins with an empty table and writes through the service only, the rows are the
successful registrations of the past. What a login is answered is therefore a matter of history:
some earlier step has registered these credentials, or none has.

* `Session.Registered`: a step of a run registers with success.
* `Registration.Opens`: a registration, once sealed, is open to credentials.
* `mem_rows_tableAt`: the rows of a table are the registrations before it.
* `login_iff_registered`: the answer to every login, and its permanence.
-/

namespace Registrar
open Api Password
set_option autoImplicit false

/-- The account of this registration, sealed under the salt, is open to the credentials. -/
structure Registration.Opens (scheme : Scheme) (salt : Salt) (r : Registration)
    (u p : String) (role : Option String) : Prop where
  username : r.username = some u
  password : ∃ p₀ stored,
    r.password = some p₀ ∧ scheme.sealed salt p₀ = .ok stored ∧ scheme.verify stored p = true
  role : ∀ wanted, role = some wanted → given r.role = some wanted

theorem Registration.opens_plaintext_iff (salt : Salt) (r : Registration) (u p : String)
    (role : Option String) :
    r.Opens .plaintext salt u p role ↔
      r.username = some u ∧ r.password = some p ∧
        ∀ wanted, role = some wanted → given r.role = some wanted := by
  constructor
  · rintro ⟨hu, ⟨p₀, stored, hp, hs, hv⟩, hr⟩
    have h₀ : p₀ = stored := by simpa [Scheme.sealed] using hs
    have h₁ : stored = p := by simpa [Scheme.verify] using hv
    exact ⟨hu, by rw [hp, h₀, h₁], hr⟩
  · rintro ⟨hu, hp, hr⟩
    exact ⟨hu, ⟨p, p, hp, rfl, by simp [Scheme.verify]⟩, hr⟩

/-- A row answers credentials as the registration that it comes from. -/
theorem Registration.fits_iff_opens {rules : Rules} {salt : Salt} {r : Registration} {b : Account}
    (hv : r.validate rules salt = .ok b) (a : Attempt) :
    a.Fits rules.passwords b ↔ r.Opens rules.passwords salt a.username a.password a.role := by
  obtain ⟨hu, -, ⟨p, hp, hs⟩, hr, -⟩ := (Registration.validate_eq_ok_iff rules salt r b).mp hv
  rw [given_eq_some_iff] at hu hp
  constructor
  · intro h
    refine ⟨by rw [hu.1, h.username], ⟨p, b.password, hp.1, hs, h.password⟩, ?_⟩
    intro wanted hw
    rw [← hr]
    exact h.role wanted hw
  · rintro ⟨hu', ⟨p₀, stored, hp', hs', hverify⟩, hr'⟩
    rw [hu.1, Option.some.injEq] at hu'
    rw [hp.1, Option.some.injEq] at hp'
    subst hp'
    rw [hs, Except.ok.injEq] at hs'
    refine ⟨hu', by rw [hs']; exact hverify, ?_⟩
    intro wanted hw
    rw [hr]
    exact hr' wanted hw

namespace Session

/-- Step `i` of a run registers with success. -/
def Registered (rules : Rules) (t : Table) (steps : List (Salt × Step)) (i : Nat) (salt : Salt)
    (r : Registration) : Prop :=
  ∃ c, steps[i]? = some (salt, .call c) ∧ c.task = .registration r ∧
    outcomeAt rules t steps i = some (c.shown registerAnswer (.ok ()))

/-- Rows are written through the service only. -/
def Step.Indirect (s : Step) : Prop := (∀ a, s ≠ .seed a) ∧ ∀ a, s ≠ .call (.insert a)

/-! ## The rows are the registrations -/

theorem added_of_registered {rules : Rules} {salt : Salt} {c : Call} {r : Registration}
    {t : Table} (ht : c.task = .registration r)
    (h : (step rules salt (.call c) t).1.outcome = c.shown registerAnswer (.ok ())) :
    ∃ a, r.validate rules salt = .ok a ∧ added rules salt (.call c) t = some a := by
  have ho : (step rules salt (.call c) t).1.outcome = (c.run rules salt t).value := rfl
  cases hv : r.validate rules salt with
  | error e =>
    obtain ⟨events, hr⟩ := register_of_invalid rules salt hv
    rw [ho, run_of_registration rules salt t ht, hr, Call.deliver] at h
    have hf := congrArg Outcome.isSuccess h
    simp only [isSuccess_shown_registerAnswer] at hf
    cases hf
  | ok a =>
    refine ⟨a, rfl, ?_⟩
    rw [added, h, isSuccess_shown_registerAnswer, Step.row?, ht, Task.row?, hv]
    rfl

theorem registered_of_added {rules : Rules} {salt : Salt} {s : Step} {t : Table} {a : Account}
    (hs : s.Indirect) (h : added rules salt s t = some a) :
    ∃ c r, s = .call c ∧ c.task = .registration r ∧ r.validate rules salt = .ok a ∧
      (step rules salt s t).1.outcome = c.shown registerAnswer (.ok ()) := by
  unfold added at h
  split at h
  case isFalse => cases h
  case isTrue hsuccess =>
    cases s with
    | call c =>
      have ho : (step rules salt (.call c) t).1.outcome = (c.run rules salt t).value := rfl
      rcases (Task.row?_eq_some_iff rules salt c.task a).mp h with ⟨r, ht, hv⟩ | ht
      · refine ⟨c, r, rfl, ht, hv, ?_⟩
        rw [ho, run_of_registration rules salt t ht, Call.deliver] at hsuccess ⊢
        rw [isSuccess_shown_registerAnswer, isOk_eq_true_iff] at hsuccess
        rw [hsuccess]
      · exact absurd (congrArg Step.call (eq_insert_of_task ht)) (hs.2 a)
    | seed b => exact absurd rfl (hs.1 b)
    | rows | setAvailable b => cases h

section
variable {rules : Rules} {t : Table} {steps : List (Salt × Step)}

/-- The rows before a step are what the earlier steps have registered. -/
theorem mem_rows_tableAt (empty : t.rows = []) (indirect : ∀ x ∈ steps, x.2.Indirect) (i : Nat)
    (a : Account) :
    a ∈ (tableAt rules t steps i).rows ↔
      ∃ j < i, ∃ salt r, Registered rules t steps j salt r ∧ r.validate rules salt = .ok a := by
  induction i with
  | zero => simp [empty]
  | succ i ih =>
    have hlt : ∀ P : Nat → Prop, (∃ j < i + 1, P j) ↔ (∃ j < i, P j) ∨ P i := by
      intro P
      constructor
      · rintro ⟨j, hj, hP⟩
        rcases Nat.lt_succ_iff_lt_or_eq.mp hj with hj | rfl
        · exact .inl ⟨j, hj, hP⟩
        · exact .inr hP
      · rintro (⟨j, hj, hP⟩ | hP)
        · exact ⟨j, Nat.lt_succ_of_lt hj, hP⟩
        · exact ⟨i, Nat.lt_succ_self i, hP⟩
    rw [hlt, ← ih]
    cases hi : steps[i]? with
    | none =>
      have hle : steps.length ≤ i := List.getElem?_eq_none_iff.mp hi
      rw [tableAt_of_length_le rules t hle, tableAt_of_length_le rules t (Nat.le_succ_of_le hle)]
      constructor
      · exact .inl
      · rintro (h | ⟨salt, r, ⟨c, hc, -⟩, -⟩)
        · exact h
        · rw [hi] at hc
          cases hc
    | some x =>
      obtain ⟨salt, s⟩ := x
      have hs : s.Indirect := indirect (salt, s) (List.mem_of_getElem? hi)
      rw [tableAt_succ hi, rows_step, List.mem_append, Option.mem_toList]
      refine or_congr_right ?_
      constructor
      · intro h
        obtain ⟨c, r, rfl, ht, hv, ho⟩ := registered_of_added hs h
        exact ⟨salt, r, ⟨c, hi, ht, by rw [outcomeAt_eq hi, ho]⟩, hv⟩
      · rintro ⟨salt', r, ⟨c, hc, ht, ho⟩, hv⟩
        rw [hi] at hc
        cases hc
        rw [outcomeAt_eq hi, Option.some.injEq] at ho
        obtain ⟨b, hb, hadded⟩ := added_of_registered ht ho
        rw [hv, Except.ok.injEq] at hb
        rw [hadded, hb]

theorem username_of_validate {salt : Salt} {r : Registration} {a : Account}
    (h : r.validate rules salt = .ok a) : r.username = some a.username :=
  ((given_eq_some_iff r.username a.username).mp
    ((Registration.validate_eq_ok_iff rules salt r a).mp h).1).1

theorem validate_of_registered {i : Nat} {salt : Salt} {r : Registration}
    (h : Registered rules t steps i salt r) :
    ∃ c a, steps[i]? = some (salt, .call c) ∧ r.validate rules salt = .ok a ∧
      added rules salt (.call c) (tableAt rules t steps i) = some a := by
  obtain ⟨c, hc, ht, ho⟩ := h
  rw [outcomeAt_eq hc, Option.some.injEq] at ho
  obtain ⟨a, hv, ha⟩ := added_of_registered ht ho
  exact ⟨c, a, hc, hv, ha⟩

/-- What an earlier step has registered is not registered again. -/
theorem not_registered_again (empty : t.rows = []) (indirect : ∀ x ∈ steps, x.2.Indirect)
    {i j : Nat} {salt salt' : Salt} {r r' : Registration} {u : String} (hij : i < j)
    (h : Registered rules t steps i salt r) (hu : r.username = some u)
    (hu' : r'.username = some u) : ¬ Registered rules t steps j salt' r' := by
  intro h'
  obtain ⟨-, a, -, hv, -⟩ := validate_of_registered h
  obtain ⟨c', a', -, hv', hadded⟩ := validate_of_registered h'
  have hmem : a ∈ (tableAt rules t steps j).rows :=
    (mem_rows_tableAt empty indirect j a).mpr ⟨i, hij, salt, r, h, hv⟩
  have hne := (fresh_of_added hadded a hmem).1
  rw [username_of_validate hv, Option.some.injEq] at hu
  rw [username_of_validate hv', Option.some.injEq] at hu'
  exact hne (hu'.trans hu.symm)

/-- No username is registered twice. -/
theorem registered_unique (empty : t.rows = []) (indirect : ∀ x ∈ steps, x.2.Indirect)
    {i j : Nat} {salt salt' : Salt} {r r' : Registration} {u : String}
    (h : Registered rules t steps i salt r) (h' : Registered rules t steps j salt' r')
    (hu : r.username = some u) (hu' : r'.username = some u) : i = j := by
  rcases Nat.lt_trichotomy i j with hij | hij | hij
  · exact absurd h' (not_registered_again empty indirect hij h hu hu')
  · exact hij
  · exact absurd h (not_registered_again empty indirect hij h' hu' hu)

/-! ## The answer to a login -/

theorem outcomeAt_of_login (rules : Rules) (t : Table) {i : Nat} {salt : Salt} {call : Call}
    {c : Credentials} (hi : steps[i]? = some (salt, .call call)) (ht : call.task = .login c) :
    outcomeAt rules t steps i =
      some (call.shown loginAnswer (login rules c (tableAt rules t steps i)).value) := by
  rw [outcomeAt_eq hi]
  exact congrArg (fun r => some (Reply.value r)) (run_of_login rules salt _ ht)

theorem login_eq_ok_iff_registered (empty : t.rows = []) (indirect : ∀ x ∈ steps, x.2.Indirect)
    {i : Nat} (up : (tableAt rules t steps i).available = true) {c : Credentials} {a : Attempt}
    (hv : c.validate rules = .ok a) :
    (login rules c (tableAt rules t steps i)).value = .ok () ↔
      ∃ j < i, ∃ salt r, Registered rules t steps j salt r ∧
        r.Opens rules.passwords salt a.username a.password a.role := by
  rw [login_eq_ok_iff hv up]
  constructor
  · rintro ⟨b, hb, hfits⟩
    obtain ⟨j, hj, salt, r, hr, hrb⟩ := (mem_rows_tableAt empty indirect i b).mp hb
    exact ⟨j, hj, salt, r, hr, (Registration.fits_iff_opens hrb a).mp hfits⟩
  · rintro ⟨j, hj, salt, r, hr, hopens⟩
    obtain ⟨-, b, -, hrb, -⟩ := validate_of_registered hr
    exact ⟨b, (mem_rows_tableAt empty indirect i b).mpr ⟨j, hj, salt, r, hr, hrb⟩,
      (Registration.fits_iff_opens hrb a).mpr hopens⟩

/-- After the registration of a username it alone decides on the username's logins. -/
theorem login_eq_ok_iff_opens (empty : t.rows = []) (indirect : ∀ x ∈ steps, x.2.Indirect)
    {i j : Nat} {salt : Salt} {r : Registration} (hr : Registered rules t steps j salt r)
    (hj : j < i) (up : (tableAt rules t steps i).available = true) {c : Credentials}
    {a : Attempt} (hv : c.validate rules = .ok a) (hu : r.username = some a.username) :
    (login rules c (tableAt rules t steps i)).value = .ok () ↔
      r.Opens rules.passwords salt a.username a.password a.role := by
  rw [login_eq_ok_iff_registered empty indirect up hv]
  constructor
  · rintro ⟨k, -, salt', r', hr', hopens⟩
    obtain rfl : k = j := registered_unique empty indirect hr' hr hopens.username hu
    obtain ⟨c₁, h₁, ht₁, -⟩ := hr
    obtain ⟨c₂, h₂, ht₂, -⟩ := hr'
    rw [h₁] at h₂
    cases h₂
    rw [ht₁] at ht₂
    cases ht₂
    exact hopens
  · intro hopens
    exact ⟨j, hj, salt, r, hr, hopens⟩

end

/-- **Logins follow the history.** In a run from an empty table that writes through the service
only, at every point where the table is available:

* a login with all required fields succeeds if and only if an earlier step has registered an
  account that is open to its credentials, and is otherwise refused for invalid credentials; over
  HTTP by the statuses 200 and 401;
* a username is registered once at most;
* once it is, the credentials accepted for it are those that this registration is open to. -/
theorem login_iff_registered (rules : Rules) (t : Table) (steps : List (Salt × Step))
    (empty : t.rows = []) (indirect : ∀ x ∈ steps, x.2.Indirect) :
    (∀ i salt call c u p, steps[i]? = some (salt, .call call) → call.task = .login c →
      (tableAt rules t steps i).available = true →
      given c.username = some u → given c.password = some p →
      (rules.roles = .required → given c.role ≠ none) →
      (outcomeAt rules t steps i = some (call.shown loginAnswer (.ok ())) ↔
        ∃ j < i, ∃ salt₀ r, Registered rules t steps j salt₀ r ∧
          r.Opens rules.passwords salt₀ u p (given c.role)) ∧
      (outcomeAt rules t steps i ≠ some (call.shown loginAnswer (.ok ())) →
        outcomeAt rules t steps i =
          some (call.shown loginAnswer (.error .invalidCredentials))) ∧
      ∀ request, call = .http request →
        ((outcomeAt rules t steps i).bind Outcome.status? = some 200 ↔
          ∃ j < i, ∃ salt₀ r, Registered rules t steps j salt₀ r ∧
            r.Opens rules.passwords salt₀ u p (given c.role)) ∧
        ((outcomeAt rules t steps i).bind Outcome.status? ≠ some 200 →
          (outcomeAt rules t steps i).bind Outcome.status? = some 401)) ∧
    (∀ i j salt₁ salt₂ r₁ r₂ u, Registered rules t steps i salt₁ r₁ →
      Registered rules t steps j salt₂ r₂ → r₁.username = some u → r₂.username = some u →
      i = j) ∧
    (∀ j salt₀ r u, Registered rules t steps j salt₀ r → r.username = some u →
      ∀ i > j, (tableAt rules t steps i).available = true → ∀ c p,
      given c.username = some u → given c.password = some p →
      (rules.roles = .required → given c.role ≠ none) →
      ((login rules c (tableAt rules t steps i)).value = .ok () ↔
        r.Opens rules.passwords salt₀ u p (given c.role))) ∧
    (rules.passwords = .plaintext → ∀ salt₀ (r : Registration) u p role,
      r.Opens rules.passwords salt₀ u p role ↔
        r.username = some u ∧ r.password = some p ∧
          ∀ wanted, role = some wanted → given r.role = some wanted) := by
  refine ⟨?_, ?_, ?_, ?_⟩
  · intro i salt call c u p hi ht up hu hp hrole
    have hv := Credentials.validate_of_given hu hp hrole
    have ho := outcomeAt_of_login rules t hi ht
    have hok : outcomeAt rules t steps i = some (call.shown loginAnswer (.ok ())) ↔
        (login rules c (tableAt rules t steps i)).value = .ok () := by
      rw [ho, Option.some.injEq, shown_loginAnswer_eq_ok_iff]
    rw [hok]
    refine ⟨login_eq_ok_iff_registered empty indirect up hv, ?_, ?_⟩
    · intro hno
      rw [ho, login_eq_invalidCredentials hv up fun h => hno (hok.mpr h)]
    · rintro request rfl
      rw [ho, Option.bind_some, status?_loginAnswer_eq_200_iff]
      refine ⟨login_eq_ok_iff_registered empty indirect up hv, fun hno => ?_⟩
      rw [ne_eq, status?_loginAnswer_eq_200_iff] at hno
      rw [login_eq_invalidCredentials hv up hno, status?_shown]
      rfl
  · intro i j salt₁ salt₂ r₁ r₂ u h₁ h₂ hu₁ hu₂
    exact registered_unique empty indirect h₁ h₂ hu₁ hu₂
  · intro j salt₀ r u hr hu i hij up c p hcu hcp hrole
    have hv := Credentials.validate_of_given hcu hcp hrole
    exact login_eq_ok_iff_opens empty indirect hr hij up hv hu
  · intro hplain salt₀ r u p role
    rw [hplain]
    exact Registration.opens_plaintext_iff salt₀ r u p role

/-- Ann registers, the store is lost and found again, and she logs in by a query; with a capital
in her password she does not. -/
theorem login_iff_registered_ann :
    let rules : Rules := ⟨.required, .plaintext⟩
    let query : Call := .http ⟨"GET", .parse "/login?name=ann&password=pw&role=user", [], []⟩
    let steps : List (Salt × Step) :=
      [(.ofNat 1, .call (.register ⟨some "ann", some "a@x.org", some "pw", some "user"⟩)),
       (.ofNat 2, .setAvailable false), (.ofNat 3, .setAvailable true), (.ofNat 4, .call query)]
    outcomeAt rules ⟨[], true⟩ steps 3 = some (query.shown loginAnswer (.ok ())) ∧
      (login rules ⟨some "ann", some "Pw", some "user"⟩
        (tableAt rules ⟨[], true⟩ steps 3)).value ≠ .ok () := by
  intro rules query steps
  have indirect : ∀ x ∈ steps, x.2.Indirect := by
    intro x hx
    simp only [steps, List.mem_cons, List.not_mem_nil, or_false] at hx
    rcases hx with rfl | rfl | rfl | rfl
    all_goals exact ⟨fun a => Step.noConfusion, fun a h => by simp [query] at h⟩
  have h := login_iff_registered rules ⟨[], true⟩ steps rfl indirect
  have registered : Registered rules ⟨[], true⟩ steps 0 (.ofNat 1)
      ⟨some "ann", some "a@x.org", some "pw", some "user"⟩ := ⟨_, rfl, rfl, rfl⟩
  have up : (tableAt rules ⟨[], true⟩ steps 3).available = true := by decide
  constructor
  · refine (h.1 3 (.ofNat 4) query ⟨some "ann", some "pw", some "user"⟩ "ann" "pw" rfl
      (by decide +kernel) up (by decide) (by decide) (by decide)).1.mpr
      ⟨0, by decide, _, _, registered, ?_⟩
    exact (h.2.2.2 rfl _ _ _ _ _).mpr ⟨rfl, rfl, by decide⟩
  · intro hlogin
    have hopens := (h.2.2.1 0 _ _ "ann" registered rfl 3 (by decide) up
      ⟨some "ann", some "Pw", some "user"⟩ "Pw" (by decide) (by decide) (by decide)).mp hlogin
    exact absurd ((h.2.2.2 rfl _ _ _ _ _).mp hopens).2.1 (by decide)

end Session

end Registrar
