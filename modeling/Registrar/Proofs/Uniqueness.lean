import Registrar.Proofs.Growth

/-! # No username and no email twice

* `Table.Distinct`: no two rows share a username, and no two share an email.
* `distinct_step`: every step but a seed keeps a table distinct.
* `distinct_tableAt`: so does a run, and what a call adds is new to any table.
-/

namespace Registrar
open Password
set_option autoImplicit false

structure Table.Distinct (t : Table) : Prop where
  usernames : (t.rows.map (·.username)).Nodup
  emails : (t.rows.map (·.email)).Nodup

namespace Session

theorem nodup_map_append {κ : Type} (key : Account → κ) {rows : List Account} {a : Account}
    (h : (rows.map key).Nodup) (fresh : ∀ b ∈ rows, key a ≠ key b) :
    ((rows ++ [a]).map key).Nodup := by
  rw [List.map_append, List.nodup_append]
  refine ⟨h, by simp, ?_⟩
  intro x hx y hy
  obtain ⟨b, hb, rfl⟩ := List.mem_map.mp hx
  obtain rfl : y = key a := by simpa using hy
  exact (fresh b hb).symm

theorem distinct_of_rows {t t' : Table} (h : t.Distinct) (hrows : t'.rows = t.rows) :
    t'.Distinct := by
  constructor
  · rw [hrows]
    exact h.usernames
  · rw [hrows]
    exact h.emails

theorem distinct_step (rules : Rules) (salt : Salt) {s : Step} {t : Table}
    (hs : ∀ a, s ≠ .seed a) (h : t.Distinct) : (step rules salt s t).2.Distinct := by
  have hrows := rows_step rules salt s t
  cases hadded : added rules salt s t with
  | none =>
    rw [hadded, Option.toList_none, List.append_nil] at hrows
    exact distinct_of_rows h hrows
  | some a =>
    rw [hadded, Option.toList_some] at hrows
    cases s with
    | call c =>
      have fresh := fresh_of_added hadded
      constructor
      · rw [hrows]
        exact nodup_map_append _ h.usernames fun b hb => (fresh b hb).1
      · rw [hrows]
        exact nodup_map_append _ h.emails fun b hb => (fresh b hb).2
    | seed b => exact absurd rfl (hs b)
    | rows | setAvailable b =>
      unfold added at hadded
      split at hadded <;> cases hadded

/-- **Uniqueness.** A run without seeds keeps a distinct table distinct; and in any run, over any
table, the row that a call adds has a username and an email that no row had. -/
theorem distinct_tableAt (rules : Rules) (t : Table) (steps : List (Salt × Step)) :
    (t.Distinct → (∀ x ∈ steps, ∀ a, x.2 ≠ .seed a) → ∀ i, (tableAt rules t steps i).Distinct) ∧
      ∀ i salt c, steps[i]? = some (salt, .call c) →
        ∃ new : Option Account,
          (tableAt rules t steps (i + 1)).rows = (tableAt rules t steps i).rows ++ new.toList ∧
            ∀ a ∈ new, ∀ b ∈ (tableAt rules t steps i).rows,
              a.username ≠ b.username ∧ a.email ≠ b.email := by
  constructor
  · intro h hseed
    refine tableAt_induction Table.Distinct h ?_
    intro i salt s hi hdistinct
    exact distinct_step rules salt (hseed (salt, s) (List.mem_of_getElem? hi)) hdistinct
  · intro i salt c hi
    refine ⟨added rules salt (.call c) (tableAt rules t steps i), ?_, ?_⟩
    · rw [tableAt_succ hi]
      exact rows_step rules salt (.call c) _
    · intro a ha
      exact fresh_of_added ha

/-- Over a table with one row, a registration with its email and an insertion with its username are
refused, and a registration with neither adds its row. -/
theorem distinct_tableAt_bob :
    let bob : Account := ⟨"bob", "b@x.org", "pw", none⟩
    let eve : Account := ⟨"eve", "e@x.org", "pw", none⟩
    let steps : List (Salt × Step) :=
      [(.ofNat 1, .call (.register ⟨some "ann", some "b@x.org", some "pw", none⟩)),
       (.ofNat 2, .call (.insert ⟨"bob", "c@x.org", "pw", none⟩)),
       (.ofNat 3, .call (.register ⟨some "eve", some "e@x.org", some "pw", none⟩)),
       (.ofNat 4, .setAvailable false)]
    (tableAt ⟨.optional, .plaintext⟩ ⟨[bob], true⟩ steps 2).rows = [bob] ∧
      (tableAt ⟨.optional, .plaintext⟩ ⟨[bob], true⟩ steps 3).rows = [bob, eve] ∧
      (tableAt ⟨.optional, .plaintext⟩ ⟨[bob], true⟩ steps 4).Distinct ∧
      ∃ new : Option Account,
        (tableAt ⟨.optional, .plaintext⟩ ⟨[bob], true⟩ steps 3).rows = [bob] ++ new.toList ∧
          new = some eve ∧ ∀ a ∈ new, ∀ b ∈ [bob], a.username ≠ b.username ∧ a.email ≠ b.email := by
  intro bob eve steps
  have h := distinct_tableAt ⟨.optional, .plaintext⟩ ⟨[bob], true⟩ steps
  have hbefore : (tableAt ⟨.optional, .plaintext⟩ ⟨[bob], true⟩ steps 2).rows = [bob] := by
    decide +kernel
  have hafter : (tableAt ⟨.optional, .plaintext⟩ ⟨[bob], true⟩ steps 3).rows = [bob, eve] := by
    decide +kernel
  refine ⟨hbefore, hafter, h.1 ⟨by decide, by decide⟩ ?_ 4, ?_⟩
  · intro x hx a
    simp only [steps, List.mem_cons, List.not_mem_nil, or_false] at hx
    rcases hx with rfl | rfl | rfl | rfl <;> exact Step.noConfusion
  · obtain ⟨new, hrows, hfresh⟩ := h.2 2 _ _ rfl
    rw [hbefore] at hrows hfresh
    refine ⟨new, hrows, ?_, hfresh⟩
    rw [hafter] at hrows
    cases new with
    | none => cases hrows
    | some a =>
      obtain rfl : eve = a := by simpa using hrows
      rfl

end Session

end Registrar
