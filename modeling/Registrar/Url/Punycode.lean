import Registrar.Text.Numeral

/-! # Punycode

A text beyond ASCII as ASCII: first its ASCII characters, then, after a hyphen, numbers of
variable length that say which character comes next and where it is put in.

* `threshold`, `adapt`: where a number may end, and how that follows the numbers seen.
* `encode`: a text as ASCII.
* `decode?`: the text that an encoded one stands for.
-/

namespace Registrar.Url.Punycode
open Text
set_option autoImplicit false

/-! ## Digits -/

def digit (d : Nat) : Char := Char.ofNat (if d < 26 then 97 + d else 22 + d)

def digit? (c : Char) : Option Nat :=
  if 'a' ≤ c ∧ c ≤ 'z' then some (c.toNat - 97)
  else if 'A' ≤ c ∧ c ≤ 'Z' then some (c.toNat - 65)
  else if Numeral.isDigit c then some (Numeral.digitValue c + 26)
  else none

/-- A digit below this ends a number, at the place `k`, which counts in steps of 36. -/
def threshold (k bias : Nat) : Nat :=
  if k ≤ bias then 1 else if bias + 26 ≤ k then 26 else k - bias

theorem threshold_pos (k bias : Nat) : 0 < threshold k bias := by
  unfold threshold
  split
  · omega
  · split <;> omega

def shrink (delta k : Nat) : Nat × Nat :=
  if 455 < delta then shrink (delta / 35) (k + 36) else (delta, k)
  termination_by delta
  decreasing_by omega

/-- The bias after a number `delta`, with `count` characters in place. -/
def adapt (delta count : Nat) (first : Bool) : Nat :=
  let delta := if first then delta / 700 else delta / 2
  let (delta, k) := shrink (delta + delta / count) 0
  k + 36 * delta / (delta + 38)

/-! ## Encoding -/

/-- The digits of a number from the place `k` on. -/
def digits (bias k n : Nat) : List Char :=
  let t := threshold k bias
  if n < t then [digit n]
  else digit (t + (n - t) % (36 - t)) :: digits bias (k + 36) ((n - t) / (36 - t))
  termination_by n
  decreasing_by
    have h := threshold_pos k bias
    exact Nat.lt_of_le_of_lt (Nat.div_le_self _ _) (by omega)

/-- The numbers so far, and the distance from the last place where a character was put in. -/
structure Progress where
  numbers : List Char
  char : Nat
  distance : Nat
  bias : Nat
  /-- How many characters are in place. -/
  count : Nat

/-- Pass over a character while `char` is put in at all its places; it is the first one that is
put in if only `basic` characters are in place. -/
def Progress.pass (basic char : Nat) (p : Progress) (c : Char) : Progress :=
  if c.toNat < char then { p with distance := p.distance + 1 }
  else if c.toNat = char then
    { p with
      numbers := p.numbers ++ digits p.bias 36 p.distance
      distance := 0
      bias := adapt p.distance (p.count + 1) (p.count == basic)
      count := p.count + 1 }
  else p

/-- Pass over a text with the next character that is put in. -/
def Progress.passAll (basic : Nat) (cs : List Char) (p : Progress) (char : Nat) : Progress :=
  let start := { p with distance := p.distance + (char - p.char) * (p.count + 1) }
  let p := cs.foldl (Progress.pass basic char) start
  { p with char := char + 1, distance := p.distance + 1 }

/-- The characters beyond ASCII are put in from the lowest to the highest. -/
def encode (cs : List Char) : List Char :=
  let basic := cs.filter fun c => c.toNat < 128
  let others := ((cs.map Char.toNat).filter (128 ≤ ·)).mergeSort.eraseDups
  let n := basic.length
  let p := others.foldl (Progress.passAll n cs) ⟨[], 128, 0, 72, n⟩
  basic ++ (if basic = [] then [] else ['-']) ++ p.numbers

/-! ## Decoding -/

/-- Weights of digits are below this. -/
def weightBound : Nat := 0x100000000

/-- The text so far, the last character put in and its place, and the number being read. -/
structure State where
  out : List Char
  char : Nat
  place : Nat
  bias : Nat
  /-- The place before this number. -/
  origin : Nat
  weight : Nat
  k : Nat

def State.start (out : List Char) : State := ⟨out, 128, 0, 72, 0, 1, 36⟩

/-- A number has ended: put a character in. -/
def State.insert? (s : State) : Option State :=
  let count := s.out.length + 1
  let char := s.char + s.place / count
  let place := s.place % count
  if char.isValidChar then
    some
      { out := s.out.insertIdx place (Char.ofNat char)
        char, place := place + 1, origin := place + 1, weight := 1, k := 36
        bias := adapt (s.place - s.origin) count (s.origin == 0) }
  else none

def State.read? (s : State) (c : Char) : Option State :=
  (digit? c).bind fun d =>
    let t := threshold s.k s.bias
    let s := { s with place := s.place + d * s.weight }
    let weight := s.weight * (36 - t)
    if d < t then s.insert?
    else if weight < weightBound then some { s with weight, k := s.k + 36 }
    else none

/-- The ASCII characters of an encoded text, and the numbers after the last hyphen. A hyphen at
the front ends nothing. -/
def split (cs : List Char) : List Char × List Char :=
  if '-' ∈ cs ∧ (cs.reverse.dropWhile (· != '-')).length ≠ 1 then
    ((cs.reverse.dropWhile (· != '-')).reverse.dropLast, (cs.reverse.takeWhile (· != '-')).reverse)
  else ([], cs)

/-- The encoded text, if it ends after a whole number. -/
def decode? (cs : List Char) : Option (List Char) :=
  let (basic, numbers) := split cs
  ((numbers.foldlM State.read? (State.start basic)).filter fun s => s.weight == 1).map (·.out)

end Registrar.Url.Punycode
