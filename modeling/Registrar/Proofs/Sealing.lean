import Registrar.Proofs.HashString

/-! # Sealing and verifying agree

A sealed password says in full how it was hashed, so whoever is verified against it is hashed in the
same way, and the hashes decide.

* `Hashed.output?`: the hash of a password under a salt at the standard cost, if it has one.
* `Phc.Describes`: the parts of a hash string say how a job was done and what came of it.
* `describes_standardPhc`: the parts that are written for a password do.
* `sealed_agrees_with_verify`: what is sealed, what is read back, and who is verified.
-/

namespace Registrar.Password
open Text Argon2
set_option autoImplicit false

/-! ## What a hash string says -/

/-- The parts name the algorithm, the version, the cost and the salt of a job and the hash that came
of it. None of them is left to a default. -/
structure Phc.Describes (h : Phc) (job : Job) : Prop where
  algorithm : h.algorithm = job.variant.name.toList
  version : h.version = some job.version.number
  parameters : h.parameters =
    [("m".toList, Numeral.digits job.cost.memory), ("t".toList, Numeral.digits job.cost.passes),
     ("p".toList, Numeral.digits job.cost.lanes)]
  salt : ∃ text, h.salt = some text ∧ Base64.decode? text = some job.salt
  hash : h.hash = some job.tag

namespace Hashed

/-- The hash of a password; one that is too long has none. -/
def output? (salt : Salt) (password : String) : Option (List UInt8) :=
  if (Utf8.encode password).length < tooLong then some (standardJob salt password).tag else none

theorem sealed_of_short {salt : Salt} {password : String}
    (short : (Utf8.encode password).length < tooLong) :
    sealed salt password =
      .ok (standardPhc salt (standardJob salt password).tag).render := by
  rw [sealed, if_pos short]

theorem describes_standardPhc (salt : Salt) (password : String) :
    (standardPhc salt (standardJob salt password).tag).Describes (standardJob salt password) where
  algorithm := rfl
  version := rfl
  parameters := rfl
  salt := ⟨Base64.encode salt.bytes, rfl, Base64.decode?_encode salt.bytes⟩
  hash := rfl

/-- Two passwords of which one is short enough have the same output exactly if the other one is
short enough too and the hashes are the same. -/
theorem output?_eq_iff {salt : Salt} {password : String}
    (short : (Utf8.encode password).length < tooLong) (supplied : String) :
    output? salt supplied = output? salt password ↔
      (Utf8.encode supplied).length < tooLong ∧
        (standardJob salt supplied).tag = (standardJob salt password).tag := by
  rw [output?, output?, if_pos short]
  split
  case isTrue h => simp [h]
  case isFalse h => simp [h]

/-- What is sealed is read back as the parts that it was made of. -/
theorem parse?_of_sealed {salt : Salt} {password stored : String}
    (h : sealed salt password = .ok stored) :
    Phc.parse? stored = some (standardPhc salt (standardJob salt password).tag) := by
  unfold sealed at h
  split at h
  case isTrue =>
    cases h
    exact Phc.parse?_render (wellFormed_standardPhc salt (Job.length_tag _))
  case isFalse => cases h

end Hashed

/-! ## Both schemes -/

/-- **Sealing and verifying agree.** Every password of less than 2^32 bytes is sealed under every
salt. The hash string is read back, with the algorithm, the version, the cost, the salt and the 32
bytes of the hash; a candidate that is verified against it is hashed by the same job, and verified
exactly if the output is the same. So the password itself is verified.

A password that is stored as it is verifies itself and nothing else. -/
theorem sealed_agrees_with_verify :
    (∀ (salt : Salt) (password : String), (Utf8.encode password).length < Hashed.tooLong →
      ∃ stored h, Scheme.argon2.sealed salt password = .ok stored ∧ Phc.parse? stored = some h ∧
        h.Describes (Hashed.standardJob salt password) ∧
        (Hashed.standardJob salt password).tag.length = 32 ∧
        (∀ q, (Utf8.encode q).length < Hashed.tooLong → Hashed.job? h q =
          some (Hashed.standardJob salt q, (Hashed.standardJob salt password).tag)) ∧
        (∀ q, Scheme.argon2.verify stored q = true ↔
          Hashed.output? salt q = Hashed.output? salt password) ∧
        Scheme.argon2.verify stored password = true) ∧
    ∀ (salt : Salt) (password : String), ∃ stored,
      Scheme.plaintext.sealed salt password = .ok stored ∧
        ∀ q, Scheme.plaintext.verify stored q = true ↔ q = password := by
  constructor
  · intro salt password short
    have size : (Hashed.standardJob salt password).tag.length = 32 := Job.length_tag _
    obtain ⟨stored, hsealed⟩ : ∃ stored, Hashed.sealed salt password = .ok stored :=
      ⟨_, Hashed.sealed_of_short short⟩
    have hverify : ∀ q, Hashed.verify stored q = true ↔
        Hashed.output? salt q = Hashed.output? salt password := by
      intro q
      rw [Hashed.output?_eq_iff short]
      exact Hashed.verify_of_sealed_iff hsealed q
    refine ⟨stored, _, hsealed, Hashed.parse?_of_sealed hsealed,
      Hashed.describes_standardPhc salt password, size, ?_, hverify, (hverify password).mpr rfl⟩
    intro q hq
    rw [Hashed.job?_standardPhc salt size, if_pos hq]
  · intro salt password
    refine ⟨password, rfl, fun q => ?_⟩
    rw [Scheme.verify, beq_iff_eq, eq_comm]

/-- The password of Ann is sealed, and she is verified. -/
theorem sealed_agrees_with_verify_ann :
    (Utf8.encode "pw").length < Hashed.tooLong ∧
      ∃ stored, Scheme.argon2.sealed (.ofNat 1) "pw" = .ok stored ∧
        Scheme.argon2.verify stored "pw" = true := by
  have short : (Utf8.encode "pw").length < Hashed.tooLong := by decide
  obtain ⟨stored, -, hsealed, -, -, -, -, -, hverify⟩ :=
    sealed_agrees_with_verify.1 (.ofNat 1) "pw" short
  exact ⟨short, stored, hsealed, hverify⟩

end Registrar.Password
