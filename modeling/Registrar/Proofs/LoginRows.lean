import Registrar.Proofs.Growth
import Registrar.Proofs.Login
import Registrar.Proofs.Rejection
import Registrar.Proofs.StoredForm

/-! # A login and the rows of the table

Usernames and emails may be shared by many rows of a table. A login looks for one row that has all
that was sent, so it does not matter where that row stands or what else is in the table.

* `Credentials.Fits`: one row has the username, the password and the role that were sent.
* `login_eq_ok_iff_fits`: a login succeeds exactly if one row fits.
* `Rearranged`: rows moved and repeated, rows of other users added and removed.
* `login_of_rearranged`, `login_of_subset`, `login_without_role`: the same login over two tables,
  and two logins over the same table.
* `login_by_rows`: these for all calls that log in.
-/

namespace Registrar
open Api Password
set_option autoImplicit false

/-! ## One row -/

/-- The row has the username that was sent, a password that verifies, and the role that was sent
unless that is blank. -/
structure Credentials.Fits (scheme : Scheme) (x : Credentials) (b : Account) : Prop where
  username : x.username = some b.username
  password : ∃ p, x.password = some p ∧ scheme.verify b.password p = true
  role : ∀ role, x.role = some role → HasInk role → b.role = some role

theorem given_eq_some_iff_hasInk (field : Option String) (s : String) :
    given field = some s ↔ field = some s ∧ HasInk s := by
  rw [given_eq_some_iff, hasInk_eq_true_iff]

theorem Credentials.fits_iff {rules : Rules} {x : Credentials} {a : Attempt}
    (h : x.validate rules = .ok a) (b : Account) :
    x.Fits rules.passwords b ↔ a.Fits rules.passwords b := by
  obtain ⟨husername, hpassword, hrole, -⟩ := (Credentials.validate_eq_ok_iff rules x a).mp h
  rw [given_eq_some_iff] at husername hpassword
  have hwanted (role : String) : a.role = some role ↔ x.role = some role ∧ HasInk role := by
    rw [hrole, given_eq_some_iff_hasInk]
  constructor
  · intro hfits
    obtain ⟨p, hp, hverify⟩ := hfits.password
    constructor
    · have hsame := hfits.username
      rw [husername.1, Option.some.injEq] at hsame
      exact hsame.symm
    · rw [hpassword.1, Option.some.injEq] at hp
      rw [hp]
      exact hverify
    · intro role hr
      obtain ⟨hsent, hink⟩ := (hwanted role).mp hr
      exact hfits.role role hsent hink
  · intro hfits
    constructor
    · rw [husername.1, hfits.username]
    · exact ⟨a.password, hpassword.1, hfits.password⟩
    · intro role hsent hink
      exact hfits.role role ((hwanted role).mpr ⟨hsent, hink⟩)

/-! ## All rows -/

theorem Credentials.exists_attempt {rules : Rules} {x : Credentials} (complete : ¬x.Lacks rules) :
    ∃ a, x.validate rules = .ok a := by
  cases h : x.validate rules with
  | error e => exact absurd ((Credentials.validate_eq_error_iff rules x e).mp h).2 complete
  | ok a => exact ⟨a, rfl⟩

section
variable {rules : Rules} {x : Credentials} {t t' : Table}

theorem login_eq_ok_iff_fits (complete : ¬x.Lacks rules) (up : t.available = true) :
    (login rules x t).value = .ok () ↔ ∃ b ∈ t.rows, x.Fits rules.passwords b := by
  obtain ⟨a, ha⟩ := Credentials.exists_attempt complete
  simp only [login_eq_ok_iff ha up, Credentials.fits_iff ha]

theorem login_eq_refused (complete : ¬x.Lacks rules) (up : t.available = true)
    (h : (login rules x t).value ≠ .ok ()) :
    (login rules x t).value = .error .invalidCredentials := by
  obtain ⟨a, ha⟩ := Credentials.exists_attempt complete
  exact login_eq_invalidCredentials ha up h

/-- What is logged depends on the username and on the result. -/
theorem records_login_table {a : Attempt} (ha : x.validate rules = .ok a)
    (up : t.available = true) :
    (login rules x t).records = [.event (if (login rules x t).value.isOk then
      .loginSucceeded a.username else .loginRejected a.username)] := by
  rw [login_of_valid rules t ha, Table.find_of_available up, Reply.silent, Attempt.verdict]
  by_cases hmatch : ((t.rows.filter fun b => b.username == a.username).any
      (a.matches rules.passwords)) = true
  · rw [if_pos hmatch]
    rfl
  · rw [if_neg hmatch]
    rfl

/-- Two tables with the same rows for a username are the same for its logins. -/
theorem login_of_same_rows (complete : ¬x.Lacks rules) (up : t.available = true)
    (up' : t'.available = true)
    (same : ∀ b, x.username = some b.username → (b ∈ t.rows ↔ b ∈ t'.rows)) :
    (login rules x t').value = (login rules x t).value ∧
      (login rules x t').records = (login rules x t).records := by
  have hok : (login rules x t').value = .ok () ↔ (login rules x t).value = .ok () := by
    rw [login_eq_ok_iff_fits complete up', login_eq_ok_iff_fits complete up]
    constructor
    · rintro ⟨b, hb, hfits⟩
      exact ⟨b, (same b hfits.username).mpr hb, hfits⟩
    · rintro ⟨b, hb, hfits⟩
      exact ⟨b, (same b hfits.username).mp hb, hfits⟩
  have hvalue : (login rules x t').value = (login rules x t).value := by
    by_cases h : (login rules x t).value = .ok ()
    · rw [h, hok.mpr h]
    · rw [login_eq_refused complete up h, login_eq_refused complete up' (mt hok.mp h)]
  obtain ⟨a, ha⟩ := Credentials.exists_attempt complete
  refine ⟨hvalue, ?_⟩
  rw [records_login_table ha up', records_login_table ha up, hvalue]

end

/-! ## Two tables -/

/-- The rows of two tables that differ in order, in how often a row is there, and in rows with
other usernames. -/
inductive Rearranged (username : Option String) : List Account → List Account → Prop where
  | permuted {rows rows' : List Account} (perm : rows.Perm rows') : Rearranged username rows rows'
  | repeated {rows : List Account} {b : Account} (mem : b ∈ rows) :
      Rearranged username rows (b :: rows)
  | other {rows : List Account} {b : Account} (ne : username ≠ some b.username) :
      Rearranged username rows (b :: rows)
  | symm {rows rows' : List Account} (h : Rearranged username rows rows') :
      Rearranged username rows' rows
  | trans {rows rows' rows'' : List Account} (h : Rearranged username rows rows')
      (h' : Rearranged username rows' rows'') : Rearranged username rows rows''

theorem Rearranged.mem_iff {username : Option String} {rows rows' : List Account}
    (h : Rearranged username rows rows') {b : Account} (hb : username = some b.username) :
    b ∈ rows ↔ b ∈ rows' := by
  induction h with
  | permuted perm => exact perm.mem_iff
  | @repeated rows c mem =>
    rw [List.mem_cons]
    constructor
    · exact .inr
    · rintro (rfl | h)
      · exact mem
      · exact h
  | @other rows c ne =>
    rw [List.mem_cons]
    constructor
    · exact .inr
    · rintro (rfl | h)
      · exact absurd hb ne
      · exact h
  | symm _ ih => exact ih.symm
  | trans _ _ ih ih' => exact ih.trans ih'

section
variable {rules : Rules} {x : Credentials} {t t' : Table}

theorem login_of_rearranged (complete : ¬x.Lacks rules) (up : t.available = true)
    (up' : t'.available = true) (h : Rearranged x.username t.rows t'.rows) :
    (login rules x t').value = (login rules x t).value ∧
      (login rules x t').records = (login rules x t).records :=
  login_of_same_rows complete up up' fun _ hb => h.mem_iff hb

theorem login_of_subset (complete : ¬x.Lacks rules) (up : t.available = true)
    (up' : t'.available = true) (h : t.rows ⊆ t'.rows) (ok : (login rules x t).value = .ok ()) :
    (login rules x t').value = .ok () := by
  obtain ⟨b, hb, hfits⟩ := (login_eq_ok_iff_fits complete up).mp ok
  exact (login_eq_ok_iff_fits complete up').mpr ⟨b, h hb, hfits⟩

/-- A row that fits with a role fits without one. -/
theorem login_without_role (complete : ¬x.Lacks rules) (up : t.available = true)
    (optional : rules.roles = .optional) (ok : (login rules x t).value = .ok ()) :
    (login rules { x with role := none } t).value = .ok () := by
  have complete' : ¬{ x with role := none }.Lacks rules := by
    rintro (hu | hp | ⟨hrequired, -⟩)
    · exact complete (.inl hu)
    · exact complete (.inr (.inl hp))
    · rw [optional] at hrequired
      cases hrequired
  obtain ⟨b, hb, hfits⟩ := (login_eq_ok_iff_fits complete up).mp ok
  refine (login_eq_ok_iff_fits complete' up).mpr ⟨b, hb, hfits.username, hfits.password, ?_⟩
  intro role h
  cases h

end

/-! ## All calls that log in -/

theorem run_of_logsIn {c : Call} {x : Credentials} (logs : c.LogsIn x) (rules : Rules)
    (salt : Salt) (t : Table) :
    c.run rules salt t = c.deliver loginAnswer (login rules x t) :=
  run_of_login rules salt t ((c.task_eq_login_iff x).mpr logs)

theorem isSuccess_run_iff {c : Call} {x : Credentials} (logs : c.LogsIn x) (rules : Rules)
    (salt : Salt) (t : Table) :
    (c.run rules salt t).value.isSuccess = true ↔ (login rules x t).value = .ok () := by
  rw [run_of_logsIn logs, Call.deliver, isSuccess_shown_loginAnswer, isOk_eq_true_iff]

/-- **A login sees the rows one by one.** A call that logs in with all required fields, over a table
that is available, succeeds exactly if one row has the username, a password that verifies and the
role, if one was given; otherwise the credentials are refused. Over HTTP these are the statuses 200
and 401. So it does not matter in which order and how often the rows are there, nor what rows with
other usernames there are; more rows never undo a success; and where roles are optional, neither
does leaving out the role. -/
theorem login_by_rows (rules : Rules) (salt : Salt) (c : Call) (x : Credentials) (t : Table)
    (logs : c.LogsIn x) (complete : ¬x.Lacks rules) (up : t.available = true) :
    ((c.run rules salt t).value.isSuccess = true ↔ ∃ b ∈ t.rows, x.Fits rules.passwords b) ∧
      ((c.run rules salt t).value.isSuccess = false →
        (c.run rules salt t).value = c.shown loginAnswer (.error .invalidCredentials)) ∧
      (∀ t' : Table, t'.available = true → Rearranged x.username t.rows t'.rows →
        (c.run rules salt t').value = (c.run rules salt t).value ∧
          (c.run rules salt t').records = (c.run rules salt t).records) ∧
      (∀ t' : Table, t'.available = true → t.rows ⊆ t'.rows →
        (c.run rules salt t).value.isSuccess = true →
          (c.run rules salt t').value.isSuccess = true) ∧
      (∀ c' : Call, c'.LogsIn { x with role := none } → rules.roles = .optional →
        (c.run rules salt t).value.isSuccess = true →
          (c'.run rules salt t).value.isSuccess = true) ∧
      ∀ request, c = .http request →
        ((c.run rules salt t).value.status? = some 200 ↔
          ∃ b ∈ t.rows, x.Fits rules.passwords b) ∧
        ((c.run rules salt t).value.status? ≠ some 200 →
          (c.run rules salt t).value.status? = some 401) := by
  refine ⟨?_, ?_, ?_, ?_, ?_, ?_⟩
  · rw [isSuccess_run_iff logs, login_eq_ok_iff_fits complete up]
  · intro hfailed
    have hno : (login rules x t).value ≠ .ok () := by
      rw [ne_eq, ← isSuccess_run_iff logs rules salt, hfailed]
      decide
    rw [run_of_logsIn logs, Call.deliver, login_eq_refused complete up hno]
  · intro t' up' h
    obtain ⟨hvalue, hrecords⟩ := login_of_rearranged complete up up' h
    rw [run_of_logsIn logs, run_of_logsIn logs]
    exact ⟨by rw [Call.deliver, hvalue, Call.deliver], by rw [Call.deliver, hrecords, Call.deliver]⟩
  · intro t' up' hsubset
    rw [isSuccess_run_iff logs, isSuccess_run_iff logs]
    exact login_of_subset complete up up' hsubset
  · intro c' logs' optional
    rw [isSuccess_run_iff logs, isSuccess_run_iff logs']
    exact login_without_role complete up optional
  · rintro request rfl
    rw [run_of_logsIn logs, Call.deliver, status?_loginAnswer_eq_200_iff]
    refine ⟨login_eq_ok_iff_fits complete up, fun hno => ?_⟩
    rw [ne_eq, status?_loginAnswer_eq_200_iff] at hno
    rw [login_eq_refused complete up hno, status?_shown]
    rfl

/-- Two rows share Ann's username. Her new password is not good for her old role; it is good for the
new one, wherever that row stands, how often, and whatever else is there. -/
theorem login_by_rows_ann :
    let rules : Rules := ⟨.optional, .plaintext⟩
    let admin : Account := ⟨"ann", "a@x.org", "old", some "admin"⟩
    let user : Account := ⟨"ann", "b@x.org", "new", some "user"⟩
    let bob : Account := ⟨"bob", "a@x.org", "new", none⟩
    let t : Table := ⟨[admin, user, bob], true⟩
    let t' : Table := ⟨[user, admin, user], true⟩
    let asks (role : String) : Http.Request :=
      ⟨"GET", .parse ("/login?name=ann&password=new&role=" ++ role), [], []⟩
    let run (c : Call) (t : Table) : Reply Table Outcome := c.run rules (.ofNat 1) t
    (run (.http (asks "admin")) t).value.isSuccess = false ∧
      (run (.http (asks "user")) t).value.isSuccess = true ∧
      (run (.http (asks "user")) t').value = (run (.http (asks "user")) t).value ∧
      (run (.login ⟨some "ann", some "new", none⟩) t).value.isSuccess = true := by
  intro rules admin user bob t t' asks run
  have complete (role : String) : ¬Credentials.Lacks rules ⟨some "ann", some "new", some role⟩ := by
    have hname : given (some "ann") ≠ none := by decide
    have hpassword : given (some "new") ≠ none := by decide
    rintro (h | h | ⟨h, -⟩)
    · exact hname h
    · exact hpassword h
    · exact absurd h (by decide)
  have hadmin : (Call.http (asks "admin")).LogsIn ⟨some "ann", some "new", some "admin"⟩ :=
    ⟨rfl, .inl ⟨List.mem_cons_self, by decide +kernel⟩⟩
  have huser : (Call.http (asks "user")).LogsIn ⟨some "ann", some "new", some "user"⟩ :=
    ⟨rfl, .inl ⟨List.mem_cons_self, by decide +kernel⟩⟩
  obtain ⟨hrefused, -⟩ := login_by_rows rules (.ofNat 1) _ _ t hadmin (complete "admin") rfl
  obtain ⟨hfound, -, hsame, -, hwithout, -⟩ :=
    login_by_rows rules (.ofNat 1) _ _ t huser (complete "user") rfl
  have hok : (run (.http (asks "user")) t).value.isSuccess = true := by
    refine hfound.mpr ⟨user, by simp [t], rfl, ⟨"new", rfl, by decide⟩, ?_⟩
    intro role hrole _
    exact hrole
  have hrearranged : Rearranged (some "ann") t.rows t'.rows := by
    have hfront : Rearranged (some "ann") t.rows [bob, admin, user] :=
      .permuted (@List.perm_append_comm _ [admin, user] [bob])
    have hdrop : Rearranged (some "ann") [bob, admin, user] [admin, user] :=
      .symm (.other (by decide))
    have hrepeat : Rearranged (some "ann") [admin, user] t'.rows := .repeated (by simp)
    exact (hfront.trans hdrop).trans hrepeat
  refine ⟨?_, hok, (hsame t' rfl hrearranged).1, hwithout _ rfl rfl hok⟩
  rw [← Bool.not_eq_true]
  intro h
  obtain ⟨b, hb, hfits⟩ := hrefused.mp h
  have hrole := hfits.role "admin" rfl ⟨'a', by decide, by decide⟩
  obtain ⟨p, hp, hverify⟩ := hfits.password
  cases hp
  simp only [t, List.mem_cons, List.not_mem_nil, or_false] at hb
  rcases hb with rfl | rfl | rfl
  · exact absurd hverify (by decide)
  · exact absurd hrole (by decide)
  · exact absurd hrole (by decide)

end Registrar
