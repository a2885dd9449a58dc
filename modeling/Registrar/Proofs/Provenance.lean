import Registrar.Proofs.History
import Registrar.Proofs.Routing

/-! # Where the rows come from

The rows at any point of a session are those of the first table, then one for each earlier step
that reports a registration, an insertion or a seed, in the order of the steps.

* `Session.Step.Writes`: a step with this outcome has written a row.
* `Registration.Row`, `Session.Step.Carries`: the row is what the step has sent.
* `isSome_added_iff_writes`, `carries_of_added`: a step adds a row exactly if it writes one, and
  the row is its own.
* `rows_eq_history`: the rows of a session.
-/

namespace Registrar
open Api Http Password
set_option autoImplicit false

/-- The row has the fields of the registration as they were sent, the password sealed, and no role
if a blank one was sent. -/
structure Registration.Row (scheme : Scheme) (salt : Salt) (r : Registration) (a : Account) :
    Prop where
  username : r.username = some a.username
  email : r.email = some a.email
  password : ∃ p, r.password = some p ∧ scheme.sealed salt p = .ok a.password
  role : a.role = if r.role.any Text.hasInk then r.role else none

theorem given_eq_ite (field : Option String) :
    given field = if field.any Text.hasInk then field else none := by
  cases field with
  | none => rfl
  | some x => cases h : Text.hasInk x <;> simp [given, Option.filter, h]

theorem Registration.row_of_validate {rules : Rules} {salt : Salt} {r : Registration} {a : Account}
    (h : r.validate rules salt = .ok a) : r.Row rules.passwords salt a := by
  obtain ⟨hu, he, ⟨p, hp, hs⟩, hr, -⟩ := (Registration.validate_eq_ok_iff rules salt r a).mp h
  exact
    { username := ((given_eq_some_iff _ _).mp hu).1
      email := ((given_eq_some_iff _ _).mp he).1
      password := ⟨p, ((given_eq_some_iff _ _).mp hp).1, hs⟩
      role := by rw [hr, given_eq_ite] }

namespace Session

/-! ## Steps that write -/

/-- The step reports with this outcome that it has written a row. -/
def Step.Writes : Step → Outcome → Prop
  | .seed _, _ => True
  | .call (.insert _), o => o = .stored (.ok ())
  | .call (.register _), o => o = .account (.ok ())
  | .call (.http r), o =>
    r.method = "POST" ∧ r.target.path = "/register" ∧
      ∃ response, o = .response response ∧ response.status = 201
  | .call (.login _), _ | .call (.find _), _ | .rows, _ | .setAvailable _, _ => False

/-- The row is what the step has sent. -/
def Step.Carries (scheme : Scheme) (salt : Salt) : Step → Account → Prop
  | .seed b, a | .call (.insert b), a => a = b
  | .call (.register x), a => x.Row scheme salt a
  | .call (.http r), a =>
    ∃ x, r.json?.bind Registration.ofJson? = some x ∧ x.Row scheme salt a
  | .call (.login _), _ | .call (.find _), _ | .rows, _ | .setAvailable _, _ => False

theorem status_registerAnswer_eq_created_iff (result : Except AccountError Unit) :
    (registerAnswer result).status = 201 ↔ result = .ok () := by
  cases result with
  | ok _ => simp [registerAnswer, registered, success, Response.json]
  | error e =>
    cases e <;>
      simp [registerAnswer, registerFailure, missingFields, Api.conflict, invalidCredentials,
        Api.failure, Response.json]

section
variable {rules : Rules} {salt : Salt} {t : Table}

theorem indirect_http (r : Request) : (Step.call (.http r)).Indirect :=
  ⟨fun a => Step.noConfusion, fun a h => by cases h⟩

theorem isSome_added_http_iff (r : Request) :
    (added rules salt (.call (.http r)) t).isSome = true ↔
      (Step.call (.http r)).Writes (step rules salt (.call (.http r)) t).1.outcome := by
  have houtcome : (step rules salt (.call (.http r)) t).1.outcome =
      ((Call.http r).run rules salt t).value := rfl
  constructor
  · intro h
    obtain ⟨a, ha⟩ := Option.isSome_iff_exists.mp h
    obtain ⟨c, x, hc, htask, -, ho⟩ := registered_of_added (indirect_http r) ha
    cases hc
    obtain ⟨hendpoint, -⟩ := endpoint?_of_registration htask
    obtain ⟨hpath, hmethod⟩ := (endpoint?_eq_some_iff r .register).mp hendpoint
    refine ⟨List.mem_singleton.mp hmethod, hpath, _, ho, ?_⟩
    rw [status_dressed]
    rfl
  · rintro ⟨hmethod, hpath, response, ho, hstatus⟩
    have hendpoint : r.endpoint? = some .register :=
      (endpoint?_eq_some_iff r .register).mpr ⟨hpath, List.mem_singleton.mpr hmethod⟩
    rw [houtcome, Call.run, respond_of_endpoint rules salt t hendpoint, Reply.map,
      Outcome.response.injEq] at ho
    rw [← ho, status_dressed, Endpoint.run] at hstatus
    cases hx : r.json?.bind Registration.ofJson? with
    | none =>
      rw [hx] at hstatus
      cases hstatus
    | some x =>
      rw [hx] at hstatus
      have hok := (status_registerAnswer_eq_created_iff _).mp hstatus
      have htask : (Call.http r).task = .registration x := by
        simp only [Call.task, Http.Request.task, hendpoint, hx]
      have hregistered : (step rules salt (.call (.http r)) t).1.outcome =
          (Call.http r).shown registerAnswer (.ok ()) := by
        rw [houtcome, run_of_registration rules salt t htask, Call.deliver, hok]
      obtain ⟨a, -, ha⟩ := added_of_registered htask hregistered
      rw [ha]
      rfl

theorem isSome_added_register_iff (x : Registration) :
    (added rules salt (.call (.register x)) t).isSome = true ↔
      (Step.call (.register x)).Writes (step rules salt (.call (.register x)) t).1.outcome := by
  constructor
  · intro h
    obtain ⟨a, ha⟩ := Option.isSome_iff_exists.mp h
    have indirect : (Step.call (.register x)).Indirect :=
      ⟨fun a => Step.noConfusion, fun a h => by cases h⟩
    obtain ⟨c, y, hc, -, -, ho⟩ := registered_of_added indirect ha
    cases hc
    exact ho
  · intro ho
    have hregistered : (step rules salt (.call (.register x)) t).1.outcome =
        (Call.register x).shown registerAnswer (.ok ()) := ho
    obtain ⟨a, -, ha⟩ := added_of_registered rfl hregistered
    rw [ha]
    rfl

theorem isSome_added_iff_writes (s : Step) :
    (added rules salt s t).isSome = true ↔ s.Writes (step rules salt s t).1.outcome := by
  cases s with
  | seed a => exact iff_of_true rfl trivial
  | rows | setAvailable b => simp [added, Step.row?, Step.Writes]
  | call c =>
    cases c with
    | http r => exact isSome_added_http_iff r
    | register x => exact isSome_added_register_iff x
    | insert a =>
      have houtcome : (step rules salt (.call (.insert a)) t).1.outcome =
          .stored (t.insert a).1 := rfl
      simp only [added, houtcome, Outcome.isSuccess, Step.row?, Call.task, Task.row?, Step.Writes,
        Outcome.stored.injEq, ← isOk_eq_true_iff]
      split <;> simp_all
    | login x | find u => simp [added, Step.row?, Call.task, Task.row?, Step.Writes]

theorem carries_of_added {s : Step} {a : Account} (h : added rules salt s t = some a) :
    s.Carries rules.passwords salt a := by
  unfold added at h
  split at h
  case isFalse => cases h
  case isTrue =>
    cases s with
    | seed b => exact (Option.some.inj h).symm
    | rows | setAvailable b => cases h
    | call c =>
      rcases (Task.row?_eq_some_iff rules salt c.task a).mp h with ⟨x, htask, hv⟩ | htask
      · have hrow := Registration.row_of_validate hv
        cases c with
        | http r => exact ⟨x, (endpoint?_of_registration htask).2, hrow⟩
        | register y =>
          cases htask
          exact hrow
        | login _ | insert _ | find _ => cases htask
      · rw [eq_insert_of_task htask]
        rfl

end

/-! ## The rows of a session -/

/-- The row that step `i` of a run adds. -/
def addedAt (rules : Rules) (t : Table) (steps : List (Salt × Step)) (i : Nat) : Option Account :=
  steps[i]?.bind fun x => added rules x.1 x.2 (tableAt rules t steps i)

section
variable (rules : Rules) (t : Table) (steps : List (Salt × Step))

theorem rows_tableAt_succ (i : Nat) :
    (tableAt rules t steps (i + 1)).rows =
      (tableAt rules t steps i).rows ++ (addedAt rules t steps i).toList := by
  cases hi : steps[i]? with
  | none =>
    have hle : steps.length ≤ i := List.getElem?_eq_none_iff.mp hi
    rw [tableAt_of_length_le rules t hle, tableAt_of_length_le rules t (Nat.le_succ_of_le hle)]
    simp [addedAt, hi]
  | some x =>
    rw [tableAt_succ hi, rows_step, addedAt, hi]
    rfl

theorem rows_tableAt (n : Nat) :
    (tableAt rules t steps n).rows =
      t.rows ++ (List.range n).filterMap (addedAt rules t steps) := by
  induction n with
  | zero => simp
  | succ n ih =>
    rw [rows_tableAt_succ, ih, List.range_succ, List.filterMap_append, List.append_assoc]
    cases h : addedAt rules t steps n <;> simp [h]

theorem rows_isPrefix {i j : Nat} (h : i ≤ j) :
    (tableAt rules t steps i).rows <+: (tableAt rules t steps j).rows := by
  obtain ⟨k, rfl⟩ := Nat.exists_eq_add_of_le h
  induction k with
  | zero => exact List.prefix_rfl
  | succ k ih =>
    have hlast := rows_tableAt_succ rules t steps (i + k)
    rw [← Nat.add_assoc, hlast]
    exact (ih (Nat.le_add_right i k)).trans (List.prefix_append _ _)

theorem find_eq_filter {t : Table} (up : t.available = true) (u : String) :
    (Store.find u t).value = .ok (t.rows.filter fun a => a.username == u) := by
  rw [Table.find_of_available up]
  rfl

end

/-- **The table is the history.** At every point of every run the rows are those of the first table
followed by one for each earlier step that reports to have written one: a registration answered
with 201 or `ok`, an insertion answered with `ok`, or a seed. Each is the row that its step has
sent; every other step leaves the rows as they are, and no row is ever lost, moved or changed.
While the table is available, a search gives the rows with its username in their order. -/
theorem rows_eq_history (rules : Rules) (t : Table) (steps : List (Salt × Step)) :
    ∃ row : Nat → Option Account,
      (∀ i, (tableAt rules t steps i).rows = t.rows ++ (List.range i).filterMap row) ∧
      (∀ i salt s o, steps[i]? = some (salt, s) → outcomeAt rules t steps i = some o →
        ((row i).isSome = true ↔ s.Writes o) ∧ (∀ a ∈ row i, s.Carries rules.passwords salt a) ∧
        (¬s.Writes o → (tableAt rules t steps (i + 1)).rows = (tableAt rules t steps i).rows)) ∧
      (∀ i j, i ≤ j → (tableAt rules t steps i).rows <+: (tableAt rules t steps j).rows) ∧
      ∀ i u, (tableAt rules t steps i).available = true →
        (Store.find u (tableAt rules t steps i)).value =
          .ok ((tableAt rules t steps i).rows.filter fun a => a.username == u) := by
  refine ⟨addedAt rules t steps, rows_tableAt rules t steps, ?_,
    fun i j => rows_isPrefix rules t steps, fun i u up => find_eq_filter up u⟩
  intro i salt s o hi ho
  have hadded : addedAt rules t steps i = added rules salt s (tableAt rules t steps i) := by
    rw [addedAt, hi]
    rfl
  rw [outcomeAt_eq hi, Option.some.injEq] at ho
  have hwrites : (addedAt rules t steps i).isSome = true ↔ s.Writes o := by
    rw [hadded, isSome_added_iff_writes, ho]
  refine ⟨hwrites, ?_, ?_⟩
  · intro a ha
    rw [hadded] at ha
    exact carries_of_added ha
  · intro hno
    have hnone : addedAt rules t steps i = none := by
      rw [← Option.not_isSome_iff_eq_none, hwrites]
      exact hno
    rw [rows_tableAt_succ, hnone, Option.toList_none, List.append_nil]

/-- A registration under `name` with a blank role, and an insertion while the table is lost. -/
theorem rows_eq_history_ann :
    let rules : Rules := ⟨.optional, .plaintext⟩
    let request : Request :=
      ⟨"POST", .parse "/register", [("content-type", "application/json")], Text.Utf8.encode
        "\x7b\"name\":\"ann\",\"email\":\"a@x.org\",\"password\":\" pw \",\"role\":\" \"\x7d"⟩
    let steps : List (Salt × Step) :=
      [(.ofNat 1, .call (.http request)), (.ofNat 2, .setAvailable false),
       (.ofNat 3, .call (.insert ⟨"bob", "b@x.org", "pw", none⟩))]
    (tableAt rules ⟨[], true⟩ steps 3).rows = [⟨"ann", "a@x.org", " pw ", none⟩] := by
  intro rules request steps
  obtain ⟨row, hrows, hrow, -, -⟩ := rows_eq_history rules ⟨[], true⟩ steps
  have hanswer : (respond rules (.ofNat 1) request (⟨[], true⟩ : Table)).value.status = 201 := by
    decide +kernel
  have hdecoded : request.json?.bind Registration.ofJson? =
      some ⟨some "ann", some "a@x.org", some " pw ", some " "⟩ := by
    decide +kernel
  have hfirst : row 0 = some ⟨"ann", "a@x.org", " pw ", none⟩ := by
    obtain ⟨hwrites, hcarries, -⟩ := hrow 0 _ _ _ rfl rfl
    obtain ⟨a, ha⟩ := Option.isSome_iff_exists.mp
      (hwrites.mpr ⟨rfl, by decide, _, rfl, hanswer⟩)
    obtain ⟨x, hx, hsent⟩ := hcarries a ha
    rw [hdecoded, Option.some.injEq] at hx
    subst hx
    obtain ⟨p, hp, hsealed⟩ := hsent.password
    obtain ⟨username, email, password, role⟩ := a
    have husername : some "ann" = some username := hsent.username
    have hemail : some "a@x.org" = some email := hsent.email
    have hpassword : (Except.ok p : Except HashError String) = .ok password := hsealed
    have hrole : role = none := hsent.role
    cases husername
    cases hemail
    cases hpassword
    cases hp
    rw [ha, hrole]
  have hsecond : row 1 = none := by
    obtain ⟨hwrites, -, -⟩ := hrow 1 _ _ _ rfl rfl
    exact Option.not_isSome_iff_eq_none.mp hwrites.mp
  have hthird : row 2 = none := by
    obtain ⟨hwrites, -, -⟩ := hrow 2 _ _ _ rfl rfl
    refine Option.not_isSome_iff_eq_none.mp fun h => ?_
    have hstored : Outcome.stored (.error Table.unavailable) = .stored (.ok ()) := hwrites.mp h
    cases hstored
  rw [hrows 3]
  simp [List.range_succ, hfirst, hsecond, hthird]

end Session

end Registrar
