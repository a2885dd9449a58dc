/-! # Failures of password hashing

The causes for which a password is not hashed, and the wording of each.
-/

namespace Registrar.Password
set_option autoImplicit false

inductive HashError where
  | unsupportedAlgorithm
  | cryptographic
  | duplicateParameter
  | invalidParameterName
  | tooManyParameters
  | invalidPassword
  | missingField
  | trailingText
  | invalidVersion
  deriving DecidableEq, Repr

def HashError.message : HashError → String
  | unsupportedAlgorithm => "unsupported algorithm"
  | cryptographic => "cryptographic error"
  | duplicateParameter => "duplicate parameter"
  | invalidParameterName => "invalid parameter name"
  | tooManyParameters => "maximum number of parameters reached"
  | invalidPassword => "invalid password"
  | missingField => "password hash string missing field"
  | trailingText => "password hash string contains trailing characters"
  | invalidVersion => "invalid algorithm version"

end Registrar.Password
