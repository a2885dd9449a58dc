import Registrar.Digest.Words

/-! # Memory blocks of Argon2

A block is 1024 bytes, held as eight rows of sixteen words.

* `permute`: the mixing network with the multiplication-hardened mixing function.
* `transpose`: the eight columns of word pairs in the place of the eight rows.
* `compress`: two blocks into one: the network on every row, then on every column, of their
  exclusive or, which is added in once more at the end.
-/

namespace Registrar.Argon2
open Digest
set_option autoImplicit false

structure Block where
  r0 : Words
  r1 : Words
  r2 : Words
  r3 : Words
  r4 : Words
  r5 : Words
  r6 : Words
  r7 : Words

namespace Block

/-! ## Views -/

def rows (b : Block) : List Words := [b.r0, b.r1, b.r2, b.r3, b.r4, b.r5, b.r6, b.r7]

/-- The block with the given 128 words; missing ones are zero. -/
def ofWords (ws : List UInt64) : Block :=
  let row (i : Nat) : Words := Words.ofList (ws.drop (16 * i))
  ⟨row 0, row 1, row 2, row 3, row 4, row 5, row 6, row 7⟩

def ofBytes (bs : List UInt8) : Block := ofWords (wordsOf bs)

def bytes (b : Block) : List UInt8 := b.rows.flatMap fun r => r.toList.flatMap wordBytes

def zero : Block := ofWords []

def word (b : Block) (i : Nat) : UInt64 :=
  ((b.rows.getD (i / 16) b.r0).toList).getD (i % 16) 0

/-! ## Compression -/

/-- Addition hardened by twice the product of the lower halves. -/
@[inline] def hardAdd (x y : UInt64) : UInt64 :=
  x + y + 2 * ((x &&& 0xFFFFFFFF) * (y &&& 0xFFFFFFFF))

@[inline] def mix (a b c d : UInt64) : Quad :=
  let a := hardAdd a b
  let d := rotateRight (d ^^^ a) 32
  let c := hardAdd c d
  let b := rotateRight (b ^^^ c) 24
  let a := hardAdd a b
  let d := rotateRight (d ^^^ a) 16
  let c := hardAdd c d
  let b := rotateRight (b ^^^ c) 63
  ⟨a, b, c, d⟩

def permute (v : Words) : Words := network (fun _ => mix) v

def mapRows (f : Words → Words) (x : Block) : Block :=
  ⟨f x.r0, f x.r1, f x.r2, f x.r3, f x.r4, f x.r5, f x.r6, f x.r7⟩

def xor (x y : Block) : Block :=
  ⟨x.r0.xor y.r0, x.r1.xor y.r1, x.r2.xor y.r2, x.r3.xor y.r3,
    x.r4.xor y.r4, x.r5.xor y.r5, x.r6.xor y.r6, x.r7.xor y.r7⟩

/-- Two words of every row, one after the other. -/
@[inline] def pairs (f g : Words → UInt64) (x : Block) : Words :=
  ⟨f x.r0, g x.r0, f x.r1, g x.r1, f x.r2, g x.r2, f x.r3, g x.r3,
    f x.r4, g x.r4, f x.r5, g x.r5, f x.r6, g x.r6, f x.r7, g x.r7⟩

/-- Row `i` of the result is the pair `i` of each row. -/
def transpose (x : Block) : Block :=
  ⟨pairs (·.w0) (·.w1) x, pairs (·.w2) (·.w3) x,
    pairs (·.w4) (·.w5) x, pairs (·.w6) (·.w7) x,
    pairs (·.w8) (·.w9) x, pairs (·.w10) (·.w11) x,
    pairs (·.w12) (·.w13) x, pairs (·.w14) (·.w15) x⟩

def compress (x y : Block) : Block :=
  let r := x.xor y
  ((((r.mapRows permute).transpose).mapRows permute).transpose).xor r

end Block

end Registrar.Argon2
