import Registrar.Account.Store

/-! # A table in memory

Rows in the order in which they came. While the table is not available, both store operations fail
as if no connection could be had.
-/

namespace Registrar
set_option autoImplicit false

structure Table where
  rows : List Account
  available : Bool
  deriving DecidableEq, Repr

namespace Table

/-- The rows clash: they share the username or the email. -/
def clash (a b : Account) : Bool := a.username == b.username || a.email == b.email

def unavailable : StoreError := .database .poolTimedOut

def seed (a : Account) (t : Table) : Table := { t with rows := t.rows ++ [a] }

def insert (a : Account) (t : Table) : Except StoreError Unit × Table :=
  if !t.available then (.error unavailable, t)
  else if t.rows.any (clash a) then (.error .conflict, t)
  else (.ok (), t.seed a)

def find (username : String) (t : Table) : Except StoreError (List Account) :=
  if !t.available then .error unavailable
  else .ok (t.rows.filter fun a => a.username == username)

/-! ## What an insertion does -/

theorem insert_ok_iff (a : Account) (t : Table) :
    (t.insert a).1 = .ok () ↔ t.available = true ∧ ∀ b ∈ t.rows, clash a b = false := by
  unfold insert
  cases up : t.available <;> cases taken : t.rows.any (clash a) <;> simp_all

theorem insert_conflict_iff (a : Account) (t : Table) :
    (t.insert a).1 = .error .conflict ↔ t.available = true ∧ ∃ b ∈ t.rows, clash a b = true := by
  unfold insert
  cases up : t.available <;> cases taken : t.rows.any (clash a) <;> simp_all [unavailable]

/-- The row comes last if it is accepted; otherwise nothing changes. -/
theorem insert_snd (a : Account) (t : Table) :
    (t.insert a).2 =
      match (t.insert a).1 with
      | .ok () => t.seed a
      | .error _ => t := by
  unfold insert
  cases t.available <;> cases t.rows.any (clash a) <;> rfl

/-! ## The table as a store -/

instance : Store Table where
  insert a t := .silent (t.insert a).1 (t.insert a).2
  find u t := .silent (t.find u) t

theorem find_of_available {t : Table} (up : t.available = true) (u : String) :
    Store.find u t = .silent (.ok (t.rows.filter fun a => a.username == u)) t := by
  have hfind : Store.find u t = .silent (t.find u) t := rfl
  rw [hfind, find, up]
  rfl

end Table

end Registrar
