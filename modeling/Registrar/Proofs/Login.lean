import Registrar.Account.Table
import Registrar.Proofs.Service

/-! # Login over a table

Over an available table a login with all required fields succeeds exactly if one row has the
username, a password that verifies and, where a role is asked for, the role; otherwise the
credentials are refused.
-/

namespace Registrar
open Password
set_option autoImplicit false

/-- The row has the username, the password verifies, and the role is the one asked for, if any. -/
structure Attempt.Fits (scheme : Scheme) (a : Attempt) (b : Account) : Prop where
  username : b.username = a.username
  password : scheme.verify b.password a.password = true
  role : ∀ wanted, a.role = some wanted → b.role = some wanted

theorem Attempt.matches_eq_true_iff (scheme : Scheme) (a : Attempt) (b : Account) :
    a.matches scheme b = true ↔
      (∀ wanted, a.role = some wanted → b.role = some wanted) ∧
        scheme.verify b.password a.password = true := by
  unfold Attempt.matches
  rw [Bool.and_eq_true]
  cases a.role <;> simp

theorem Attempt.fits_iff_matches (scheme : Scheme) (a : Attempt) (b : Account) :
    a.Fits scheme b ↔ b.username = a.username ∧ a.matches scheme b = true := by
  rw [Attempt.matches_eq_true_iff]
  constructor
  · intro h
    exact ⟨h.username, h.role, h.password⟩
  · rintro ⟨hu, hrole, hpassword⟩
    exact ⟨hu, hpassword, hrole⟩

theorem state_login (rules : Rules) (c : Credentials) (t : Table) :
    (login rules c t).state = t := by
  cases hv : c.validate rules with
  | error e =>
    rw [login_of_invalid rules t hv]
    rfl
  | ok a =>
    rw [login_of_valid rules t hv]
    rfl

theorem login_value_table {rules : Rules} {c : Credentials} {a : Attempt} {t : Table}
    (h : c.validate rules = .ok a) (up : t.available = true) :
    (login rules c t).value =
      if (t.rows.filter fun b => b.username == a.username).any (a.matches rules.passwords) then
        .ok ()
      else .error .invalidCredentials := by
  rw [login_of_valid rules t h, Table.find_of_available up, Reply.silent, Attempt.verdict]
  split <;> rfl

theorem login_eq_ok_iff {rules : Rules} {c : Credentials} {a : Attempt} {t : Table}
    (h : c.validate rules = .ok a) (up : t.available = true) :
    (login rules c t).value = .ok () ↔ ∃ b ∈ t.rows, a.Fits rules.passwords b := by
  have hany : (t.rows.filter fun b => b.username == a.username).any
      (a.matches rules.passwords) = true ↔ ∃ b ∈ t.rows, a.Fits rules.passwords b := by
    simp only [List.any_eq_true, List.mem_filter, beq_iff_eq, Attempt.fits_iff_matches, and_assoc]
  rw [login_value_table h up, ← hany]
  split <;> simp_all

/-- A login that does not succeed is refused; it never fails in another way. -/
theorem login_eq_invalidCredentials {rules : Rules} {c : Credentials} {a : Attempt} {t : Table}
    (h : c.validate rules = .ok a) (up : t.available = true)
    (hno : (login rules c t).value ≠ .ok ()) :
    (login rules c t).value = .error .invalidCredentials := by
  rw [login_value_table h up] at hno ⊢
  split at hno
  · exact absurd rfl hno
  · rename_i hm
    rw [if_neg hm]

end Registrar
