import Registrar.Database.Error

/-! # Why a registration or a login fails -/

namespace Registrar
set_option autoImplicit false

inductive AccountError where
  | missingFields
  | conflict
  | invalidCredentials
  | password (e : Password.HashError)
  | store (e : StoreError)
  deriving DecidableEq, Repr

namespace AccountError

def message : AccountError → String
  | missingFields => "all fields are required"
  | conflict => "username or email already exists"
  | invalidCredentials => "invalid credentials"
  | password e => "password hashing failed: " ++ e.message
  | store e => e.message

/-- A conflict in the store is a conflict; every other failure stays the store's. -/
def ofStore : StoreError → AccountError
  | .conflict => conflict
  | e => store e

end AccountError

end Registrar
