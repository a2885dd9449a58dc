import Registrar.Argon2.Memory
import Registrar.Digest.Blake2b

/-! # The Argon2 hash

* `stretch`: a hash of any length from BLAKE2b, by chaining.
* `Job`: what is hashed and how.
* `Job.tag`: the hash: an initial digest of all inputs, the first two blocks of every lane
  stretched from it, the memory filled, and the last blocks of the lanes folded into the output.
-/

namespace Registrar.Argon2
open Digest
set_option autoImplicit false

/-! ## Hashes of any length -/

def chained (size : Nat) (input : List UInt8) : List UInt8 :=
  if size ≤ 64 then Blake2b.digest size input
  else
    let v := Blake2b.digest 64 input
    v.take 32 ++ chained (size - 32) v
  termination_by size

theorem length_chained (size : Nat) (input : List UInt8) : (chained size input).length = size := by
  fun_induction chained size input with
  | case1 size input short => simp [Blake2b.length_digest, Nat.min_eq_left short]
  | case2 size input long v ih =>
    simp only [List.length_append, List.length_take, ih, v, Blake2b.length_digest]
    omega

/-- A hash of `size` bytes; the size enters the hash. -/
def stretch (size : Nat) (input : List UInt8) : List UInt8 :=
  chained size (littleEndianBytes 4 size ++ input)

theorem length_stretch (size : Nat) (input : List UInt8) : (stretch size input).length = size :=
  length_chained _ _

/-! ## The hash -/

structure Job where
  variant : Variant
  version : Version
  cost : Cost
  password : List UInt8
  salt : List UInt8
  associated : List UInt8
  size : Nat

namespace Job

/-- A byte sequence after its length. -/
def counted (bs : List UInt8) : List UInt8 := littleEndianBytes 4 bs.length ++ bs

/-- The digest of every input; there is no secret key. -/
def seed (j : Job) : List UInt8 :=
  Blake2b.digest 64
    (([j.cost.lanes, j.size, j.cost.memory, j.cost.passes, j.version.number, j.variant.code].flatMap
        (littleEndianBytes 4)) ++
      counted j.password ++ counted j.salt ++ counted [] ++ counted j.associated)

/-- The memory with the first two blocks of every lane. -/
def start (j : Job) (l : Layout) : Array Block :=
  let seed := j.seed
  (List.range l.lanes).foldl (fun memory lane =>
    [0, 1].foldl (fun memory column =>
      memory.setIfInBounds (lane * l.columns + column)
        (Block.ofBytes (stretch 1024
          (seed ++ littleEndianBytes 4 column ++ littleEndianBytes 4 lane)))) memory)
    (Array.replicate l.blocks Block.zero)

/-- The exclusive or of the last block of every lane. -/
def folded (l : Layout) (memory : Array Block) : Block :=
  (List.range l.lanes).foldl (fun b lane =>
    b.xor (memory.getD (lane * l.columns + (l.columns - 1)) Block.zero)) Block.zero

def tag (j : Job) : List UInt8 :=
  let l := Layout.ofCost j.cost
  let memory := (Filling.mk j.variant j.version j.cost.passes l).fill (j.start l)
  stretch j.size (folded l memory).bytes

theorem length_tag (j : Job) : j.tag.length = j.size := length_stretch _ _

end Job

end Registrar.Argon2
