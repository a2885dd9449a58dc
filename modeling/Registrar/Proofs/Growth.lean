import Registrar.Proofs.Service
import Registrar.Session

/-! # How the table of a session grows

* `Outcome.isSuccess`: an outcome that reports success; `Outcome.status?`: its status over HTTP.
* `Session.added`: the row that a step adds; the one that it asks for, if it reports success.
* `rows_step`, `fresh_of_added`: a step appends that row and nothing else, and unless the row is
  seeded it clashes with no row that was there.
* `Session.tableAt`, `Session.outcomeAt`: the table before a step of a run, and the step's outcome.
-/

namespace Registrar
open Api Http Password
set_option autoImplicit false

/-! ## Outcomes that report success -/

/-- The outcome reports success: `ok`, or a status of 200 or 201. -/
def Outcome.isSuccess : Outcome → Bool
  | .response r => r.status == 200 || r.status == 201
  | .account result => result.isOk
  | .stored result => result.isOk
  | .found result => result.isOk
  | .rows _ | .done => true

@[simp] theorem status_dressed (method : String) (r : Response) :
    (dressed method r).status = r.status := by
  unfold dressed
  split <;> rfl

theorem isOk_eq_true_iff {ε : Type} (x : Except ε Unit) : x.isOk = true ↔ x = .ok () := by
  cases x <;> simp [Except.isOk, Except.toBool]

theorem isSuccess_shown {answer : Except AccountError Unit → Response}
    (h : ∀ result, (Outcome.response (answer result)).isSuccess = result.isOk) (c : Call)
    (result : Except AccountError Unit) : (c.shown answer result).isSuccess = result.isOk := by
  cases c with
  | http r =>
    rw [← h result, Call.shown, Outcome.isSuccess, Outcome.isSuccess, status_dressed]
  | register _ | login _ | insert _ | find _ => rfl

theorem isSuccess_shown_registerAnswer (c : Call) (result : Except AccountError Unit) :
    (c.shown registerAnswer result).isSuccess = result.isOk := by
  refine isSuccess_shown ?_ c result
  intro x
  cases x with
  | ok _ => rfl
  | error e => cases e <;> rfl

theorem isSuccess_shown_loginAnswer (c : Call) (result : Except AccountError Unit) :
    (c.shown loginAnswer result).isSuccess = result.isOk := by
  refine isSuccess_shown ?_ c result
  intro x
  cases x with
  | ok _ => rfl
  | error e => cases e <;> rfl

/-- The status of a response. What a direct call comes to has none. -/
def Outcome.status? : Outcome → Option Nat
  | .response r => some r.status
  | .account _ | .stored _ | .found _ | .rows _ | .done => none

theorem status?_shown (answer : Except AccountError Unit → Response) (r : Request)
    (result : Except AccountError Unit) :
    ((Call.http r).shown answer result).status? = some (answer result).status := by
  rw [Call.shown, Outcome.status?, status_dressed]

theorem status?_loginAnswer_eq_200_iff (r : Request) (result : Except AccountError Unit) :
    ((Call.http r).shown loginAnswer result).status? = some 200 ↔ result = .ok () := by
  rw [status?_shown]
  cases result with
  | ok _ => exact ⟨fun _ => rfl, fun _ => rfl⟩
  | error e =>
    constructor
    · cases e <;> exact nofun
    · exact nofun

theorem shown_loginAnswer_eq_ok_iff (c : Call) (result : Except AccountError Unit) :
    c.shown loginAnswer result = c.shown loginAnswer (.ok ()) ↔ result = .ok () := by
  constructor
  · intro h
    rw [← isOk_eq_true_iff, ← isSuccess_shown_loginAnswer c, h, isSuccess_shown_loginAnswer]
    rfl
  · intro h
    rw [h]

/-- A row that is asked for is reported as added if the store has added it. -/
theorem isSuccess_run {σ : Type} [Store σ] {rules : Rules} {salt : Salt} (s : σ) {c : Call}
    {a : Account} (h : c.task.row? rules salt = some a) :
    (c.run rules salt s).value.isSuccess = (Store.insert a s).value.isOk := by
  rcases (Task.row?_eq_some_iff rules salt c.task a).mp h with ⟨x, ht, hv⟩ | ht
  · rw [run_of_registration rules salt s ht, Call.deliver, isSuccess_shown_registerAnswer,
      register_of_valid rules salt s hv]
    cases (Store.insert a s).value <;> rfl
  · rw [run_of_insertion rules salt s ht]
    rfl

/-! ## One step -/

namespace Session

def Step.row? (rules : Rules) (salt : Salt) : Step → Option Account
  | .call c => c.task.row? rules salt
  | .seed a => some a
  | .rows | .setAvailable _ => none

/-- The row that a step adds: the one that it asks for, if it reports success. -/
def added (rules : Rules) (salt : Salt) (s : Step) (t : Table) : Option Account :=
  if (step rules salt s t).1.outcome.isSuccess then s.row? rules salt else none

theorem state_run_table (rules : Rules) (salt : Salt) (c : Call) (t : Table) :
    (c.run rules salt t).state =
      match c.task.row? rules salt with
      | some a => (t.insert a).2
      | none => t := by
  have h := congrArg Prod.snd (run_effect rules salt t c)
  simp only [Task.effect] at h
  rw [h]
  cases c.task.row? rules salt with
  | some a => rfl
  | none => cases c.task.username? rules <;> rfl

/-- A step appends the row that it adds, and leaves the other rows as they are. -/
theorem rows_step (rules : Rules) (salt : Salt) (s : Step) (t : Table) :
    (step rules salt s t).2.rows = t.rows ++ (added rules salt s t).toList := by
  cases s with
  | call c =>
    have hs : (step rules salt (.call c) t).2 = (c.run rules salt t).state := rfl
    have ho : (step rules salt (.call c) t).1.outcome = (c.run rules salt t).value := rfl
    rw [hs, added, ho, state_run_table, Step.row?]
    cases hr : c.task.row? rules salt with
    | none => simp
    | some a =>
      have hv : (Store.insert a t).value = (t.insert a).1 := rfl
      rw [isSuccess_run t hr, hv]
      simp only [Table.insert_snd]
      cases (t.insert a).1 <;> simp [Except.isOk, Except.toBool, Table.seed]
  | seed a => rfl
  | rows => exact (List.append_nil t.rows).symm
  | setAvailable b => exact (List.append_nil t.rows).symm

/-- A row that a call adds shares neither its username nor its email with a row that was there. -/
theorem fresh_of_added {rules : Rules} {salt : Salt} {c : Call} {t : Table} {a : Account}
    (h : added rules salt (.call c) t = some a) :
    ∀ b ∈ t.rows, a.username ≠ b.username ∧ a.email ≠ b.email := by
  have ho : (step rules salt (.call c) t).1.outcome = (c.run rules salt t).value := rfl
  unfold added at h
  rw [ho] at h
  split at h
  · rename_i hsuccess
    rw [isSuccess_run t h] at hsuccess
    have hok : (t.insert a).1 = .ok () := (isOk_eq_true_iff _).mp hsuccess
    intro b hb
    have hclash := ((Table.insert_ok_iff a t).mp hok).2 b hb
    simpa [Table.clash] using hclash
  · cases h

/-! ## A run -/

/-- The table before step `i` of a run, or at its end. -/
def tableAt (rules : Rules) (t : Table) (steps : List (Salt × Step)) (i : Nat) : Table :=
  (run rules (steps.take i) t).2

/-- The outcome of step `i` of a run. -/
def outcomeAt (rules : Rules) (t : Table) (steps : List (Salt × Step)) (i : Nat) :
    Option Outcome :=
  (run rules steps t).1[i]?.map (·.outcome)

theorem run_append (rules : Rules) (xs ys : List (Salt × Step)) (t : Table) :
    run rules (xs ++ ys) t =
      ((run rules xs t).1 ++ (run rules ys (run rules xs t).2).1,
        (run rules ys (run rules xs t).2).2) := by
  induction xs generalizing t with
  | nil => rfl
  | cons x xs ih =>
    simp only [List.cons_append, run, ih]

@[simp] theorem tableAt_zero (rules : Rules) (t : Table) (steps : List (Salt × Step)) :
    tableAt rules t steps 0 = t := rfl

theorem tableAt_succ {rules : Rules} {t : Table} {steps : List (Salt × Step)} {i : Nat}
    {salt : Salt} {s : Step} (h : steps[i]? = some (salt, s)) :
    tableAt rules t steps (i + 1) = (step rules salt s (tableAt rules t steps i)).2 := by
  unfold tableAt
  rw [List.take_add_one, h, run_append]
  rfl

theorem tableAt_of_length_le (rules : Rules) (t : Table) {steps : List (Salt × Step)} {i : Nat}
    (h : steps.length ≤ i) : tableAt rules t steps i = (run rules steps t).2 := by
  rw [tableAt, List.take_of_length_le h]

theorem outcomeAt_eq {rules : Rules} {t : Table} {steps : List (Salt × Step)} {i : Nat}
    {salt : Salt} {s : Step} (h : steps[i]? = some (salt, s)) :
    outcomeAt rules t steps i = some (step rules salt s (tableAt rules t steps i)).1.outcome := by
  induction steps generalizing t i with
  | nil => cases h
  | cons x steps ih =>
    cases i with
    | zero =>
      cases h
      rfl
    | succ i => exact ih h

/-- What the first table satisfies and every step keeps, every table of a run satisfies. -/
theorem tableAt_induction {rules : Rules} {t : Table} {steps : List (Salt × Step)}
    (I : Table → Prop) (start : I t)
    (keep : ∀ i salt s, steps[i]? = some (salt, s) → I (tableAt rules t steps i) →
      I (step rules salt s (tableAt rules t steps i)).2) (i : Nat) :
    I (tableAt rules t steps i) := by
  induction i with
  | zero => exact start
  | succ i ih =>
    cases h : steps[i]? with
    | none =>
      have hle : steps.length ≤ i := List.getElem?_eq_none_iff.mp h
      rw [tableAt_of_length_le rules t hle] at ih
      rwa [tableAt_of_length_le rules t (Nat.le_succ_of_le hle)]
    | some x =>
      rw [tableAt_succ h]
      exact keep i x.1 x.2 h ih

end Session

end Registrar
