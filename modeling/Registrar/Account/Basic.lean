import Registrar.Password.Scheme

/-! # Accounts and requests about them

* `Account`: a row of the table, its password in the form in which it is kept.
* `Registration`, `Credentials`: what a caller sends; every field may be missing.
* `RolePolicy`: whether every request has to name a role.
* `Rules`: the policy and the password scheme of a registrar.
-/

namespace Registrar
set_option autoImplicit false

structure Account where
  username : String
  email : String
  password : String
  role : Option String
  deriving DecidableEq, Repr

structure Registration where
  username : Option String
  email : Option String
  password : Option String
  role : Option String
  deriving DecidableEq, Repr

structure Credentials where
  username : Option String
  password : Option String
  role : Option String
  deriving DecidableEq, Repr

inductive RolePolicy where
  | required
  | optional
  deriving DecidableEq, Repr

def RolePolicy.parse? (s : String) : Option RolePolicy :=
  let k := Text.keyword s
  if k = "required".toList then some required
  else if k = "optional".toList then some optional
  else none

structure Rules where
  roles : RolePolicy
  passwords : Password.Scheme
  deriving DecidableEq, Repr

/-- A field that is present and not blank. -/
def given (field : Option String) : Option String := field.filter Text.hasInk

theorem given_eq_some_iff (field : Option String) (x : String) :
    given field = some x ↔ field = some x ∧ Text.hasInk x = true := by
  unfold given
  exact Option.filter_eq_some_iff

end Registrar
