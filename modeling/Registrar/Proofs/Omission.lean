import Registrar.Proofs.Provenance

/-! # Steps that leave no trace

A step of a session that adds no row, and does not make the table available or unavailable, leaves
the table as it was. So any choice of such steps can be left out of a run.

* `without`: a list without the items at some positions.
* `Session.IsIdle`: the step at a position adds no row and does not set the availability.
* `step_of_idle`: one idle step.
* `run_without`: a run without some of its idle steps, and which steps are idle.
-/

namespace Registrar
open Http Password
set_option autoImplicit false

/-! ## Leaving out -/

/-- The items whose positions are not dropped, in their order. -/
def without {α : Type} (dropped : Nat → Bool) (xs : List α) : List α :=
  (xs.zipIdx.filter fun x => !dropped x.2).map (·.1)

section
variable {α : Type} {dropped : Nat → Bool} (x : α) (xs : List α)

theorem without_tail :
    ((xs.zipIdx 1).filter fun x => !dropped x.2).map (·.1) =
      without (fun i => dropped (i + 1)) xs := by
  rw [List.zipIdx_succ, List.filter_map, List.map_map]
  rfl

theorem without_cons_of_dropped (h : dropped 0 = true) :
    without dropped (x :: xs) = without (fun i => dropped (i + 1)) xs := by
  rw [← without_tail, without, List.zipIdx_cons, List.filter_cons_of_neg (by simp [h])]

theorem without_cons_of_kept (h : dropped 0 = false) :
    without dropped (x :: xs) = x :: without (fun i => dropped (i + 1)) xs := by
  rw [← without_tail, without, List.zipIdx_cons, List.filter_cons_of_pos (by simp [h]),
    List.map_cons]

end

namespace Session

/-! ## One step -/

section
variable {rules : Rules} {salt : Salt} {s : Step} {t : Table}

theorem available_step (unset : ∀ b, s ≠ .setAvailable b) :
    (step rules salt s t).2.available = t.available := by
  cases s with
  | call c =>
    have hstate : (step rules salt (.call c) t).2 = (c.run rules salt t).state := rfl
    rw [hstate, state_run_table]
    cases c.task.row? rules salt with
    | none => rfl
    | some a =>
      simp only [Table.insert_snd]
      split <;> rfl
  | seed _ | rows => rfl
  | setAvailable b => exact absurd rfl (unset b)

/-- The table is its rows and whether it is available, and an idle step changes neither. -/
theorem step_of_idle (unset : ∀ b, s ≠ .setAvailable b)
    (h : (step rules salt s t).2.rows.length = t.rows.length) : (step rules salt s t).2 = t := by
  have hnone : (added rules salt s t).toList = [] := by
    rw [rows_step, List.length_append] at h
    exact List.eq_nil_of_length_eq_zero (by omega)
  have hrows : (step rules salt s t).2.rows = t.rows := by
    rw [rows_step, hnone, List.append_nil]
  have havailable : (step rules salt s t).2.available = t.available := available_step unset
  calc (step rules salt s t).2
      = ⟨(step rules salt s t).2.rows, (step rules salt s t).2.available⟩ := rfl
    _ = t := by rw [hrows, havailable]

end

/-! ## A run -/

/-- Step `i` of the run, if there is one, adds no row and does not set the availability. -/
structure IsIdle (rules : Rules) (t : Table) (steps : List (Salt × Step)) (i : Nat) : Prop where
  unset : ∀ salt b, steps[i]? ≠ some (salt, .setAvailable b)
  unchanged : (tableAt rules t steps (i + 1)).rows.length = (tableAt rules t steps i).rows.length

theorem IsIdle.tail {rules : Rules} {t : Table} {salt : Salt} {s : Step}
    {steps : List (Salt × Step)} {i : Nat} (h : IsIdle rules t ((salt, s) :: steps) (i + 1)) :
    IsIdle rules (step rules salt s t).2 steps i where
  unset := h.unset
  unchanged := h.unchanged

/-- Induction on the steps: a step that is left out hands on the table that it was given. -/
theorem run_without_idle (rules : Rules) (steps : List (Salt × Step)) (t : Table)
    (dropped : Nat → Bool) (idle : ∀ i, dropped i = true → IsIdle rules t steps i) :
    run rules (without dropped steps) t =
      (without dropped (run rules steps t).1, (run rules steps t).2) := by
  induction steps generalizing t dropped with
  | nil => rfl
  | cons x steps ih =>
    obtain ⟨salt, s⟩ := x
    have hrest := ih (step rules salt s t).2 (fun i => dropped (i + 1))
      fun i hi => (idle (i + 1) hi).tail
    cases hfirst : dropped 0 with
    | true =>
      have hidle := idle 0 hfirst
      have hsame : (step rules salt s t).2 = t :=
        step_of_idle (fun b hs => hidle.unset salt b (by rw [hs]; rfl)) hidle.unchanged
      rw [without_cons_of_dropped _ _ hfirst]
      simp only [run, without_cons_of_dropped _ _ hfirst]
      rw [hsame] at hrest ⊢
      exact hrest
    | false =>
      rw [without_cons_of_kept _ _ hfirst]
      simp only [run, without_cons_of_kept _ _ hfirst, hrest]

theorem isIdle_iff {rules : Rules} {t : Table} {steps : List (Salt × Step)} {i : Nat} {salt : Salt}
    {s : Step} {o : Outcome} (hi : steps[i]? = some (salt, s))
    (ho : outcomeAt rules t steps i = some o) :
    IsIdle rules t steps i ↔ (∀ b, s ≠ .setAvailable b) ∧ ¬s.Writes o := by
  rw [outcomeAt_eq hi, Option.some.injEq] at ho
  rw [← ho, ← isSome_added_iff_writes, Option.not_isSome_iff_eq_none]
  have hunset : (∀ salt b, steps[i]? ≠ some (salt, .setAvailable b)) ↔
      ∀ b, s ≠ .setAvailable b := by
    rw [hi]
    constructor
    · intro h b hs
      exact h salt b (by rw [hs])
    · intro h salt' b heq
      cases heq
      exact h b rfl
  have hunchanged :
      (tableAt rules t steps (i + 1)).rows.length = (tableAt rules t steps i).rows.length ↔
        added rules salt s (tableAt rules t steps i) = none := by
    rw [tableAt_succ hi, rows_step, List.length_append]
    cases added rules salt s (tableAt rules t steps i) <;> simp
  exact ⟨fun h => ⟨hunset.mp h.unset, hunchanged.mp h.unchanged⟩,
    fun h => ⟨hunset.mpr h.1, hunchanged.mpr h.2⟩⟩

/-- **Failed steps leave no trace.** From any table, leave out of a run any choice of its steps that
add no row and do not set the availability. The shorter run ends in the same table, and each step
that is left has the same outcome, the same records and the same number of rows as in the whole
run.

These steps are all but those that set the availability and those that report to have written a
row: a seed, an insertion that is answered with `ok`, and a registration that is answered with `ok`
or 201. -/
theorem run_without (rules : Rules) (steps : List (Salt × Step)) (t : Table) :
    (∀ dropped : Nat → Bool, (∀ i, dropped i = true → IsIdle rules t steps i) →
      run rules (without dropped steps) t =
        (without dropped (run rules steps t).1, (run rules steps t).2)) ∧
    ∀ i salt s o, steps[i]? = some (salt, s) → outcomeAt rules t steps i = some o →
      (IsIdle rules t steps i ↔ (∀ b, s ≠ .setAvailable b) ∧ ¬s.Writes o) := by
  constructor
  · intro dropped idle
    exact run_without_idle rules steps t dropped idle
  · intro i salt s o hi ho
    exact isIdle_iff hi ho

/-- A registration in which a field is missing, an insertion while the table is lost, and a search
are left out; a login that fails, and the steps that lose and find the table, are not. -/
theorem run_without_ann :
    let rules : Rules := ⟨.optional, .plaintext⟩
    let ann : Account := ⟨"ann", "a@x.org", "pw", none⟩
    let registration : Step := .call (.register ⟨some "bob", some "b@x.org", some "pw", none⟩)
    let login : Step := .call (.http ⟨"GET", .parse "/login?name=ann&password=PW", [], []⟩)
    let steps : List (Salt × Step) :=
      [(.ofNat 1, .call (.register ⟨some "ann", none, some "pw", none⟩)),
       (.ofNat 2, .setAvailable false), (.ofNat 3, .call (.insert ann)),
       (.ofNat 4, .setAvailable true), (.ofNat 5, .call (.find "ann")), (.ofNat 6, login),
       (.ofNat 7, registration)]
    let shorter : List (Salt × Step) :=
      [(.ofNat 2, .setAvailable false), (.ofNat 4, .setAvailable true), (.ofNat 6, login),
       (.ofNat 7, registration)]
    (run rules shorter ⟨[ann], true⟩).2 = (run rules steps ⟨[ann], true⟩).2 ∧
      (run rules shorter ⟨[ann], true⟩).1 =
        without (fun i => [0, 2, 4].contains i) (run rules steps ⟨[ann], true⟩).1 := by
  intro rules ann registration login steps shorter
  have hshorter : without (fun i => [0, 2, 4].contains i) steps = shorter := rfl
  have idle : ∀ i, [0, 2, 4].contains i = true → IsIdle rules ⟨[ann], true⟩ steps i := by
    intro i hi
    simp only [List.contains_iff_mem, List.mem_cons, List.not_mem_nil, or_false] at hi
    rcases hi with rfl | rfl | rfl
    all_goals exact ⟨fun salt b h => by simp [steps] at h, by decide⟩
  have h := (run_without rules steps ⟨[ann], true⟩).1 _ idle
  rw [hshorter] at h
  constructor
  · rw [h]
  · rw [h]

end Session

end Registrar
