import Registrar.Digest.Words

/-! # BLAKE2b

The unkeyed hash with an output of one to sixty-four bytes.

* `compress`: twelve rounds over one block of 128 bytes.
* `absorb`: the chain over all blocks; the last one, however short, is marked.
* `digest`: the first bytes of the final chain value.
-/

namespace Registrar.Digest.Blake2b
set_option autoImplicit false

/-! ## Constants -/

/-- The order in which each of the twelve rounds takes the words of the block. -/
def schedule : List (List Nat) :=
  [[0, 1, 2, 3, 4, 5, 6, 7, 8, 9, 10, 11, 12, 13, 14, 15],
   [14, 10, 4, 8, 9, 15, 13, 6, 1, 12, 0, 2, 11, 7, 5, 3],
   [11, 8, 12, 0, 5, 2, 15, 13, 10, 14, 3, 6, 7, 1, 9, 4],
   [7, 9, 3, 1, 13, 12, 11, 14, 2, 6, 5, 10, 4, 0, 15, 8],
   [9, 0, 5, 7, 2, 4, 10, 15, 14, 1, 11, 12, 6, 8, 3, 13],
   [2, 12, 6, 10, 0, 11, 8, 3, 4, 13, 7, 5, 15, 14, 1, 9],
   [12, 5, 1, 15, 14, 13, 4, 10, 0, 7, 6, 3, 9, 2, 8, 11],
   [13, 11, 7, 14, 12, 1, 3, 9, 5, 0, 15, 4, 8, 6, 2, 10],
   [6, 15, 14, 9, 11, 3, 0, 8, 12, 2, 13, 7, 1, 4, 10, 5],
   [10, 2, 8, 4, 7, 6, 1, 5, 15, 11, 9, 14, 3, 12, 13, 0],
   [0, 1, 2, 3, 4, 5, 6, 7, 8, 9, 10, 11, 12, 13, 14, 15],
   [14, 10, 4, 8, 9, 15, 13, 6, 1, 12, 0, 2, 11, 7, 5, 3]]

def initial : Quad × Quad :=
  (⟨0x6A09E667F3BCC908, 0xBB67AE8584CAA73B, 0x3C6EF372FE94F82B, 0xA54FF53A5F1D36F1⟩,
   ⟨0x510E527FADE682D1, 0x9B05688C2B3E6C1F, 0x1F83D9ABFB41BD6B, 0x5BE0CD19137E2179⟩)

/-! ## One block -/

@[inline] def mix (x y a b c d : UInt64) : Quad :=
  let a := a + b + x
  let d := rotateRight (d ^^^ a) 32
  let c := c + d
  let b := rotateRight (b ^^^ c) 24
  let a := a + b + y
  let d := rotateRight (d ^^^ a) 16
  let c := c + d
  let b := rotateRight (b ^^^ c) 63
  ⟨a, b, c, d⟩

/-- One round with the block's words in the given order. -/
def round (block : Array UInt64) (v : Words) (order : List Nat) : Words :=
  let word (i : Nat) : UInt64 := block.getD (order.getD i 0) 0
  network (fun i a b c d => mix (word (2 * i)) (word (2 * i + 1)) a b c d) v

/-- The chain value after a block, `count` bytes having been taken with it. -/
def compress (h : Quad × Quad) (block : List UInt8) (count : Nat) (last : Bool) : Quad × Quad :=
  let (p, q) := h
  let (i, j) := initial
  let start : Words :=
    ⟨p.a, p.b, p.c, p.d, q.a, q.b, q.c, q.d, i.a, i.b, i.c, i.d,
      j.a ^^^ UInt64.ofNat count, j.b ^^^ UInt64.ofNat (count / 0x10000000000000000),
      if last then ~~~ j.c else j.c, j.d⟩
  let v := schedule.foldl (round (wordsOf block).toArray) start
  (⟨p.a ^^^ v.w0 ^^^ v.w8, p.b ^^^ v.w1 ^^^ v.w9, p.c ^^^ v.w2 ^^^ v.w10, p.d ^^^ v.w3 ^^^ v.w11⟩,
   ⟨q.a ^^^ v.w4 ^^^ v.w12, q.b ^^^ v.w5 ^^^ v.w13, q.c ^^^ v.w6 ^^^ v.w14,
    q.d ^^^ v.w7 ^^^ v.w15⟩)

/-! ## All blocks -/

/-- The chain over the input, `count` bytes having been taken before it. -/
def absorb (h : Quad × Quad) (count : Nat) (input : List UInt8) : Quad × Quad :=
  if input.drop 128 = [] then
    compress h (input.take 128) (count + (input.take 128).length) true
  else
    absorb (compress h (input.take 128) (count + 128) false) (count + 128) (input.drop 128)
  termination_by input.length
  decreasing_by
    rename_i more
    have := List.length_pos_iff.mpr more
    simp only [List.length_drop] at *
    omega

def chainBytes (h : Quad × Quad) : List UInt8 :=
  [h.1.a, h.1.b, h.1.c, h.1.d, h.2.a, h.2.b, h.2.c, h.2.d].flatMap wordBytes

theorem length_chainBytes (h : Quad × Quad) : (chainBytes h).length = 64 := by
  simp [chainBytes, wordBytes, length_littleEndianBytes]

/-- The hash of `size` bytes, for `size` up to 64. -/
def digest (size : Nat) (input : List UInt8) : List UInt8 :=
  let (p, q) := initial
  (chainBytes (absorb (⟨p.a ^^^ 0x01010000 ^^^ UInt64.ofNat size, p.b, p.c, p.d⟩, q) 0 input)).take
    size

theorem length_digest (size : Nat) (input : List UInt8) :
    (digest size input).length = min size 64 := by
  simp [digest, length_chainBytes]

end Registrar.Digest.Blake2b
