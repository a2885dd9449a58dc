/-! # Cost parameters of Argon2

* `Variant`: how the blocks that a new block depends on are chosen.
* `Version`: 16 or 19.
* `Cost`: memory in KiB, passes and lanes, with the limits that they keep.
-/

namespace Registrar.Argon2
set_option autoImplicit false

inductive Variant where
  | dataDependent
  | dataIndependent
  | hybrid
  deriving DecidableEq, Repr

namespace Variant

def name : Variant → String
  | dataDependent => "argon2d"
  | dataIndependent => "argon2i"
  | hybrid => "argon2id"

/-- The number under which a variant enters the initial hash. -/
def code : Variant → Nat
  | dataDependent => 0
  | dataIndependent => 1
  | hybrid => 2

def ofName? (s : String) : Option Variant :=
  [dataDependent, dataIndependent, hybrid].find? fun v => v.name = s

/-- The blocks of a segment are chosen without looking at memory: always, never, or in the first
half of the first pass. -/
def ignoresData (v : Variant) (pass slice : Nat) : Bool :=
  match v with
  | dataDependent => false
  | dataIndependent => true
  | hybrid => pass == 0 && slice < 2

end Variant

inductive Version where
  | v16
  | v19
  deriving DecidableEq, Repr

namespace Version

def number : Version → Nat
  | v16 => 16
  | v19 => 19

def ofNumber? (n : Nat) : Option Version := [v16, v19].find? fun v => v.number = n

end Version

structure Cost where
  memory : Nat
  passes : Nat
  lanes : Nat
  deriving DecidableEq, Repr

namespace Cost

/-- 19 MiB, two passes, one lane. -/
def standard : Cost := ⟨19456, 2, 1⟩

/-- At least one pass, one to 2^24 - 1 lanes, and eight blocks for each lane. -/
def allowed (c : Cost) : Bool :=
  1 ≤ c.passes && 1 ≤ c.lanes && c.lanes ≤ 0xFFFFFF && 8 * c.lanes ≤ c.memory

end Cost

end Registrar.Argon2
