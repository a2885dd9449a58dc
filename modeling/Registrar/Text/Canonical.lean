import Registrar.Text.CombiningClass
import Registrar.Text.Composition

/-! # The canonical form of a text

Texts that are canonically the same have one canonical form, the normalization form C.

* `decomposed`: every character is split as far as it goes.
* `ordered`: the marks on a base are in the order of their classes.
* `composed`: a base and the marks on it are one character where there is one.
* `form`: all of this, one after the other.
-/

namespace Registrar.Text.Canonical
set_option autoImplicit false

/-! ## Splitting -/

/-- No character can be split more often, one part after the other. -/
def depth : Nat := 3

def parts : Nat → Char → List Char
  | 0, c => [c]
  | n + 1, c =>
    match split? c with
    | none => [c]
    | some (a, b) => parts n a ++ [b]

def decomposed (cs : List Char) : List Char := cs.flatMap (parts depth)

/-! ## Ordering -/

/-- A character with its class put in after those of a list in reverse, but before the marks of
higher classes at its end. -/
def insert (c : Nat × Char) : List (Nat × Char) → List (Nat × Char)
  | [] => [c]
  | d :: ds => if c.1 ≠ 0 ∧ c.1 < d.1 then d :: insert c ds else c :: d :: ds

def ordered (cs : List Char) : List Char :=
  let classed := cs.map fun c => (combiningClass c, c)
  (classed.foldl (fun ds c => insert c ds) []).reverse.map (·.2)

/-! ## Composing -/

/-- The rest of a text after a base, and after marks on it that stay, which are in reverse. A
character reaches the base if every mark between them is of a lower class. -/
def composeFrom (base : Char) (marks : List Char) : List Char → List Char
  | [] => base :: marks.reverse
  | c :: cs =>
    let reaches := marks.head?.all fun d => combiningClass d < combiningClass c
    match if reaches then compose? base c else none with
    | some d => composeFrom d marks cs
    | none =>
      if combiningClass c = 0 then base :: marks.reverse ++ composeFrom c [] cs
      else composeFrom base (c :: marks) cs

def composed (cs : List Char) : List Char :=
  let isMark (c : Char) : Bool := combiningClass c != 0
  match cs.dropWhile isMark with
  | [] => cs
  | c :: rest => cs.takeWhile isMark ++ composeFrom c [] rest

def form (cs : List Char) : List Char := composed (ordered (decomposed cs))

end Registrar.Text.Canonical
