import Mathlib.Data.Fintype.Defs
import Mathlib.Logic.Function.Basic
import Registrar.Account.Table
import Registrar.Proofs.Service

/-! # Registrations at the same time

Between the validation of a registration and its insertion other registrations, logins and searches
may come.

* `Concurrent.Action`: the two halves of a registration, and what only reads.
* `Concurrent.run`: actions in a row, over a table that they share.
* `run_alone`: the two halves without anything between them are the registration.
* `IsInterleaving`: each registration is validated once and then inserted once.
* `insertions`: the order in which the registrations are inserted.
-/

namespace Registrar.Concurrent
open Password
set_option autoImplicit false

/-! ## Actions -/

inductive Stage where
  | received
  | validated (a : Account)
  | answered (result : Except AccountError Unit)

inductive Action (n : Nat) where
  | validate (i : Fin n)
  | insert (i : Fin n)
  | login (c : Credentials)
  | find (username : String)
  deriving DecidableEq

structure State (n : Nat) where
  stage : Fin n → Stage
  table : Table

variable {n : Nat}

namespace State

def start (t : Table) : State n := ⟨fun _ => .received, t⟩

def advance (w : State n) (i : Fin n) (s : Stage) : State n :=
  { w with stage := Function.update w.stage i s }

def accepts (w : State n) (i : Fin n) : Bool :=
  match w.stage i with
  | .answered (.ok ()) => true
  | _ => false

@[simp] theorem stage_advance_self (w : State n) (i : Fin n) (s : Stage) :
    (w.advance i s).stage i = s := by
  simp [advance]

theorem stage_advance_ne (w : State n) {i j : Fin n} (s : Stage) (h : j ≠ i) :
    (w.advance i s).stage j = w.stage j := by
  simp [advance, Function.update_of_ne h]

theorem accepts_eq_true_iff (w : State n) (i : Fin n) :
    w.accepts i = true ↔ w.stage i = .answered (.ok ()) := by
  unfold accepts
  split <;> simp_all

theorem accepts_congr {w w' : State n} {i : Fin n} (h : w'.stage i = w.stage i) :
    w'.accepts i = w.accepts i := by
  unfold accepts
  rw [h]

end State

section
variable (rules : Rules) (requests : Fin n → Salt × Registration)

/-- A half of a registration that is not due changes nothing. -/
def step (w : State n) : Action n → State n
  | .validate i =>
    match w.stage i with
    | .received =>
      match (requests i).2.validate rules (requests i).1 with
      | .ok a => w.advance i (.validated a)
      | .error e => w.advance i (.answered (.error e))
    | _ => w
  | .insert i =>
    match w.stage i with
    | .validated a =>
      let reply := Store.insert a w.table
      { w.advance i (.answered (reply.value.mapError AccountError.ofStore)) with
        table := reply.state }
    | _ => w
  | .login c => { w with table := (Registrar.login rules c w.table).state }
  | .find u => { w with table := (Store.find u w.table).state }

def run (actions : List (Action n)) (w : State n) : State n :=
  actions.foldl (step rules requests) w

/-- The two halves of a registration without anything between them are the registration. -/
theorem run_alone (w : State n) (i : Fin n) (hi : w.stage i = .received) :
    run rules requests [.validate i, .insert i] w =
      { w.advance i (.answered (register rules (requests i).1 (requests i).2 w.table).value) with
        table := (register rules (requests i).1 (requests i).2 w.table).state } := by
  cases hv : (requests i).2.validate rules (requests i).1 with
  | error e =>
    obtain ⟨events, hr⟩ := register_of_invalid rules (requests i).1 hv
    simp [run, step, hi, hv, hr, State.advance]
  | ok a =>
    simp [run, step, hi, hv, register_of_valid rules (requests i).1 w.table hv, State.advance]

end

/-! ## Interleavings -/

namespace Action

/-- The action is one of the two halves of registration `i`. -/
def concerns (i : Fin n) : Action n → Bool
  | validate j => j == i
  | insert j => j == i
  | login _ | find _ => false

theorem concerns_validate (i : Fin n) : (Action.validate i).concerns i = true := by
  simp [concerns]

theorem concerns_insert (i : Fin n) : (Action.insert i).concerns i = true := by
  simp [concerns]

def inserted? : Action n → Option (Fin n)
  | insert i => some i
  | validate _ | login _ | find _ => none

end Action

/-- The registrations in the order of their insertions. -/
def insertions (actions : List (Action n)) : List (Fin n) := actions.filterMap Action.inserted?

/-- Every registration is validated once and then inserted once, with anything in between. -/
def IsInterleaving (actions : List (Action n)) : Prop :=
  ∀ i, actions.filter (Action.concerns i) = [.validate i, .insert i]

instance (actions : List (Action n)) : Decidable (IsInterleaving actions) :=
  inferInstanceAs (Decidable (∀ i, actions.filter (Action.concerns i) = [.validate i, .insert i]))

theorem mem_insertions (actions : List (Action n)) (i : Fin n) :
    i ∈ insertions actions ↔ .insert i ∈ actions := by
  unfold insertions
  rw [List.mem_filterMap]
  constructor
  · rintro ⟨a, ha, hi⟩
    cases a with
    | insert j =>
      cases hi
      exact ha
    | validate _ | login _ | find _ => cases hi
  · intro h
    exact ⟨.insert i, h, rfl⟩

theorem insertions_concat_insert (actions : List (Action n)) (i : Fin n) :
    insertions (actions ++ [.insert i]) = insertions actions ++ [i] := by
  simp [insertions, Action.inserted?]

theorem insertions_concat (actions : List (Action n)) {a : Action n} (h : a.inserted? = none) :
    insertions (actions ++ [a]) = insertions actions := by
  simp [insertions, h]

namespace IsInterleaving

variable {past rest : List (Action n)} {i : Fin n}

theorem insert_mem {actions : List (Action n)} (h : IsInterleaving actions) (i : Fin n) :
    .insert i ∈ actions := by
  have hm : Action.insert i ∈ actions.filter (Action.concerns i) := by
    rw [h i]
    exact List.mem_cons_of_mem _ (List.mem_singleton_self _)
  exact List.mem_of_mem_filter hm

/-- Every registration has one place in the order. -/
theorem count_insertions {actions : List (Action n)} (h : IsInterleaving actions) (i : Fin n) :
    (insertions actions).count i = 1 := by
  have hone : ∀ a : Action n,
      a.inserted?.filter (· == i) = if a.concerns i then a.inserted? else none := by
    intro a
    cases a with
    | insert j => simp [Action.inserted?, Action.concerns, Option.filter]
    | validate j => simp [Action.inserted?]
    | login _ | find _ => rfl
  have hfilter : (insertions actions).filter (· == i) = [i] := by
    calc (insertions actions).filter (· == i)
        = actions.filterMap fun a => a.inserted?.filter (· == i) := List.filter_filterMap
      _ = actions.filterMap fun a => if a.concerns i then a.inserted? else none := by
          simp only [hone]
      _ = (actions.filter (Action.concerns i)).filterMap Action.inserted? :=
          List.filterMap_filter.symm
      _ = [i] := by rw [h i]; rfl
  rw [List.count_eq_length_filter, hfilter]
  rfl

theorem filter_before_validate (h : IsInterleaving (past ++ .validate i :: rest)) :
    past.filter (Action.concerns i) = [] := by
  have hi := h i
  have hc := Action.concerns_validate i
  rw [List.filter_append, List.filter_cons_of_pos hc] at hi
  cases hp : past.filter (Action.concerns i) with
  | nil => rfl
  | cons x xs =>
    rw [hp, List.cons_append, List.cons.injEq] at hi
    cases xs <;> simp at hi

theorem filter_before_insert (h : IsInterleaving (past ++ .insert i :: rest)) :
    past.filter (Action.concerns i) = [.validate i] := by
  have hi := h i
  have hc := Action.concerns_insert i
  rw [List.filter_append, List.filter_cons_of_pos hc] at hi
  cases hp : past.filter (Action.concerns i) with
  | nil => simp [hp] at hi
  | cons x xs =>
    rw [hp, List.cons_append, List.cons.injEq] at hi
    cases xs with
    | nil => rw [hi.1]
    | cons y ys => simp at hi

theorem notMem_before_validate (h : IsInterleaving (past ++ .validate i :: rest)) {a : Action n}
    (ha : a.concerns i = true) : a ∉ past := by
  intro hm
  have hf := List.mem_filter_of_mem hm ha
  rw [h.filter_before_validate] at hf
  cases hf

theorem validate_before_insert (h : IsInterleaving (past ++ .insert i :: rest)) :
    .validate i ∈ past := by
  have hm : Action.validate i ∈ past.filter (Action.concerns i) := by
    rw [h.filter_before_insert]
    exact List.mem_singleton_self _
  exact List.mem_of_mem_filter hm

theorem insert_notMem_before_insert (h : IsInterleaving (past ++ .insert i :: rest)) :
    .insert i ∉ past := by
  intro hm
  have hf := List.mem_filter_of_mem hm (Action.concerns_insert i)
  rw [h.filter_before_insert] at hf
  simp at hf

end IsInterleaving

end Registrar.Concurrent
