import Registrar.Argon2.Hash
import Registrar.Password.Error
import Registrar.Password.Phc

/-! # Hashed passwords

* `Salt`: sixteen bytes.
* `Hashed.sealed`: the hash string of a password under a salt, at the standard cost.
* `Hashed.job?`: the hash that a hash string asks for, given a supplied password.
* `Hashed.verify`: a supplied password hashes to the hash in the string. A string that is no hash
  string, or asks for a hash that cannot be made, verifies nothing.
-/

namespace Registrar.Password
open Text Argon2
set_option autoImplicit false

structure Salt where
  bytes : List UInt8
  size : bytes.length = 16 := by decide

/-- The salt with the given number in its lowest bytes. -/
def Salt.ofNat (n : Nat) : Salt :=
  ⟨Digest.littleEndianBytes 16 n, Digest.length_littleEndianBytes 16 n⟩

namespace Hashed

/-- Passwords of this many bytes or more are not hashed. -/
def tooLong : Nat := 0x100000000

/-! ## Making a hash string -/

def standardJob (salt : Salt) (password : String) : Job :=
  ⟨.hybrid, .v19, .standard, Utf8.encode password, salt.bytes, [], 32⟩

/-- The hash string for a job at the standard cost, with the given hash. -/
def standardPhc (salt : Salt) (hash : List UInt8) : Phc where
  algorithm := Variant.hybrid.name.toList
  version := some Version.v19.number
  parameters :=
    [("m".toList, Numeral.digits Cost.standard.memory),
     ("t".toList, Numeral.digits Cost.standard.passes),
     ("p".toList, Numeral.digits Cost.standard.lanes)]
  salt := some (Base64.encode salt.bytes)
  hash := some hash

def sealed (salt : Salt) (password : String) : Except HashError String :=
  if (Utf8.encode password).length < tooLong then
    .ok (standardPhc salt (standardJob salt password).tag).render
  else .error .invalidPassword

/-! ## Checking against a hash string -/

structure Tuning where
  cost : Cost
  associated : List UInt8

/-- Bytes in base64, at most `n` of them. -/
def bytesUpTo? (n : Nat) (cs : List Char) : Option (List UInt8) :=
  (Base64.decode? cs).filter fun bs => bs.length ≤ n

/-- The effect of one parameter; of two with the same name the later one counts. A key identifier
has to be well formed and does not enter the hash. -/
def Tuning.set? (t : Tuning) (p : List Char × List Char) : Option Tuning :=
  if p.1 = "m".toList then
    (Phc.number? p.2).map fun n => { t with cost := { t.cost with memory := n } }
  else if p.1 = "t".toList then
    (Phc.number? p.2).map fun n => { t with cost := { t.cost with passes := n } }
  else if p.1 = "p".toList then
    (Phc.number? p.2).map fun n => { t with cost := { t.cost with lanes := n } }
  else if p.1 = "keyid".toList then (bytesUpTo? 8 p.2).map fun _ => t
  else if p.1 = "data".toList then
    (bytesUpTo? 32 p.2).map fun bs => { t with associated := bs }
  else none

def tuning? (ps : List (List Char × List Char)) : Option Tuning :=
  ps.foldlM Tuning.set? ⟨.standard, []⟩

/-- The version that a hash string names; 19 if it names none. -/
def version? : Option Nat → Option Version
  | none => some .v19
  | some n => Version.ofNumber? n

/-- The hash that a hash string asks for, and the hash that it gives. -/
def job? (h : Phc) (supplied : String) : Option (Job × List UInt8) := do
  let salt ← h.salt
  let hash ← h.hash
  let variant ← Variant.ofName? (String.ofList h.algorithm)
  let version ← version? h.version
  let tuning ← tuning? h.parameters
  let salt ← Base64.decode? salt
  let password := Utf8.encode supplied
  if tuning.cost.allowed && 8 ≤ salt.length && password.length < tooLong then
    some (⟨variant, version, tuning.cost, password, salt, tuning.associated, hash.length⟩, hash)
  else none

def verify (stored supplied : String) : Bool :=
  match (Phc.parse? stored).bind fun h => job? h supplied with
  | some (job, hash) => job.tag == hash
  | none => false

end Hashed

end Registrar.Password
