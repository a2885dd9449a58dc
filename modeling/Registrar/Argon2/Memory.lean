import Registrar.Argon2.Block
import Registrar.Argon2.Cost

/-! # Filling the memory

The memory is one row of blocks for each lane, cut into four slices; the part of a lane in a slice
is a segment.

* `Layout`: the lanes and the length of a segment.
* `Layout.areaSize`, `Layout.chosen`: the earlier blocks that a new block may depend on, and the
  one that a pair of random numbers picks among them.
* `Filling.fill`: every segment of every pass, in order.
-/

namespace Registrar.Argon2
set_option autoImplicit false

structure Layout where
  lanes : Nat
  segment : Nat
  deriving Repr

namespace Layout

/-- As many blocks as the memory holds, rounded down to four equal segments in every lane. -/
def ofCost (c : Cost) : Layout := ⟨c.lanes, c.memory / (4 * c.lanes)⟩

def columns (l : Layout) : Nat := 4 * l.segment

def blocks (l : Layout) : Nat := l.lanes * l.columns

end Layout

/-- A place where a block is about to be written. -/
structure Place where
  pass : Nat
  slice : Nat
  lane : Nat
  index : Nat

namespace Layout

variable (l : Layout)

def column (p : Place) : Nat := p.slice * l.segment + p.index

/-- How many blocks of a lane may be referred to from a place. -/
def areaSize (p : Place) (sameLane : Bool) : Nat :=
  let finished := if p.pass = 0 then p.slice * l.segment else l.columns - l.segment
  if sameLane then finished + p.index - 1
  else if p.index = 0 then finished - 1
  else finished

/-- The column of the first block that may be referred to. -/
def areaStart (p : Place) : Nat :=
  if p.pass = 0 ∨ p.slice = 3 then 0 else (p.slice + 1) * l.segment

/-- The lane and column of the block that a random word picks. -/
def chosen (p : Place) (random : UInt64) : Nat × Nat :=
  let low := random &&& 0xFFFFFFFF
  let high := (random >>> 32).toNat
  let lane := if p.pass = 0 ∧ p.slice = 0 then p.lane else high % l.lanes
  let size := l.areaSize p (lane == p.lane)
  let back := (UInt64.ofNat size * ((low * low) >>> 32)) >>> 32
  (lane, (l.areaStart p + (size - 1 - back.toNat)) % l.columns)

end Layout

/-! ## Segments -/

structure Filling where
  variant : Variant
  version : Version
  passes : Nat
  layout : Layout

namespace Filling

variable (f : Filling)

/-- The block of random words number `count` for a segment that does not look at memory. -/
def addresses (p : Place) (count : Nat) : Block :=
  let input := Block.ofWords ([p.pass, p.lane, p.slice, f.layout.blocks, f.passes,
    f.variant.code, count].map UInt64.ofNat)
  Block.zero.compress (Block.zero.compress input)

/-- Write the block of one place. -/
def write (p : Place) (random : UInt64) (previous : Block) (memory : Array Block) : Array Block :=
  let (lane, column) := f.layout.chosen p random
  let fresh := previous.compress (memory.getD (lane * f.layout.columns + column) Block.zero)
  let slot := p.lane * f.layout.columns + f.layout.column p
  if p.pass = 0 ∨ f.version = .v16 then memory.setIfInBounds slot fresh
  else memory.setIfInBounds slot (fresh.xor (memory.getD slot Block.zero))

/-- Write the last `left` blocks of a segment, with the random words at hand. -/
def finish (pass slice lane : Nat) : Nat → Block → Array Block → Array Block
  | 0, _, memory => memory
  | left + 1, words, memory =>
    let p : Place := ⟨pass, slice, lane, f.layout.segment - (left + 1)⟩
    let column := f.layout.column p
    let before := if column = 0 then f.layout.columns - 1 else column - 1
    let previous := memory.getD (lane * f.layout.columns + before) Block.zero
    if f.variant.ignoresData pass slice then
      let words :=
        if p.index ≠ 0 ∧ p.index % 128 = 0 then f.addresses p (p.index / 128 + 1) else words
      finish pass slice lane left words (f.write p (words.word (p.index % 128)) previous memory)
    else
      finish pass slice lane left words (f.write p previous.r0.w0 previous memory)

/-- Write a segment; the first two blocks of a lane are given. -/
def segment (memory : Array Block) (pass slice lane : Nat) : Array Block :=
  let words :=
    if f.variant.ignoresData pass slice then f.addresses ⟨pass, slice, lane, 0⟩ 1 else Block.zero
  let given := if pass = 0 ∧ slice = 0 then 2 else 0
  f.finish pass slice lane (f.layout.segment - given) words memory

/-- Every segment: pass by pass, slice by slice, lane by lane. -/
def fill (memory : Array Block) : Array Block :=
  (List.range f.passes).foldl (fun memory pass =>
    (List.range 4).foldl (fun memory slice =>
      (List.range f.layout.lanes).foldl (fun memory lane =>
        f.segment memory pass slice lane) memory) memory) memory

end Filling

end Registrar.Argon2
