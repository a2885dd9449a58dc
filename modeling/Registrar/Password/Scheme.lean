import Registrar.Password.Hashed
import Registrar.Text.Blank

/-! # Password schemes

A scheme says what is stored for a password: the password itself, or a hash string under a salt.
-/

namespace Registrar.Password
set_option autoImplicit false

inductive Scheme where
  | plaintext
  | argon2
  deriving DecidableEq, Repr

namespace Scheme

def parse? (s : String) : Option Scheme :=
  let k := Text.keyword s
  if k = "plaintext".toList ∨ k = "plain".toList then some plaintext
  else if k = "argon2".toList ∨ k = "argon2id".toList then some argon2
  else none

def sealed (scheme : Scheme) (salt : Salt) (password : String) : Except HashError String :=
  match scheme with
  | plaintext => .ok password
  | argon2 => Hashed.sealed salt password

/-- The supplied password is the one that was stored. -/
def verify (scheme : Scheme) (stored supplied : String) : Bool :=
  match scheme with
  | plaintext => stored == supplied
  | argon2 => Hashed.verify stored supplied

end Scheme

end Registrar.Password
