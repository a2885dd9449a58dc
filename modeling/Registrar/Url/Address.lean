import Registrar.Text.Numeral

/-! # Internet addresses in text

* `isDotted`: four numbers below 256 with points between them.
* `isColoned`: eight groups of hexadecimal digits with colons between them, the last two possibly
  in dotted form, and one run of zero groups possibly left out.
* `endsInNumber`, `isLoose`: the lenient form of the first in the host of a URL: one to four
  numbers in base 8, 10 or 16, the last of which fills all the bytes that are left.
-/

namespace Registrar.Url
open Text
set_option autoImplicit false

/-! ## Strict forms -/

def isDotted (cs : List Char) : Bool :=
  let parts := cs.splitOn '.'
  parts.length == 4 && parts.all fun p => (Numeral.canonical? 255 p).isSome

def hexDigit? (c : Char) : Option Nat :=
  if Numeral.isDigit c then some (Numeral.digitValue c)
  else if 'a' ≤ c ∧ c ≤ 'f' then some (c.toNat - 87)
  else if 'A' ≤ c ∧ c ≤ 'F' then some (c.toNat - 55)
  else none

/-- One to four hexadecimal digits. -/
def isGroup (cs : List Char) : Bool :=
  1 ≤ cs.length && cs.length ≤ 4 && cs.all fun c => (hexDigit? c).isSome

/-- How many groups the pieces are; a dotted form at the end makes two. -/
def groupsOf? (dotted : Bool) : List (List Char) → Option Nat
  | [] => some 0
  | [p] => if isGroup p then some 1 else if dotted && isDotted p then some 2 else none
  | p :: rest => if isGroup p then (groupsOf? dotted rest).map (· + 1) else none

/-- How many groups a text is; none if it is empty. -/
def groups? (dotted : Bool) (cs : List Char) : Option Nat :=
  if cs = [] then some 0 else groupsOf? dotted (cs.splitOn ':')

/-- What stands before and after the first pair of colons. -/
def splitAtGap : List Char → Option (List Char × List Char)
  | ':' :: ':' :: r => some ([], r)
  | c :: r => (splitAtGap r).map fun (before, after) => (c :: before, after)
  | [] => none

def isColoned (cs : List Char) : Bool :=
  match splitAtGap cs with
  | none => groups? true cs == some 8
  | some (before, after) =>
    match groups? false before, groups? true after with
    | some m, some n => m + n ≤ 7
    | _, _ => false

/-! ## The lenient form -/

/-- The number that digits denote in a base. -/
def valueIn? (base : Nat) (cs : List Char) : Option Nat :=
  (cs.mapM fun c => (hexDigit? c).filter (· < base)).map (·.foldl (fun n d => base * n + d) 0)

/-- A number: after `0x` in base 16, after `0` in base 8, otherwise in base 10. -/
def number? : List Char → Option Nat
  | [] => none
  | '0' :: 'x' :: r | '0' :: 'X' :: r => valueIn? 16 r
  | '0' :: c :: r => valueIn? 8 (c :: r)
  | cs => valueIn? 10 cs

/-- The pieces between points, without an empty one at the end. -/
def pieces (cs : List Char) : List (List Char) :=
  let ps := cs.splitOn '.'
  if ps.getLast? = some [] then ps.dropLast else ps

/-- The last piece looks like a number, which makes the whole an address or nothing. -/
def endsInNumber (cs : List Char) : Bool :=
  match (pieces cs).getLast? with
  | none => false
  | some p => (!p.isEmpty && p.all Numeral.isDigit) || (number? p).isSome

/-- At most four numbers; all but the last fill one byte, the last one the rest. -/
def isLoose (cs : List Char) : Bool :=
  let ps := pieces cs
  match ps.mapM number? with
  | none => false
  | some ns =>
    ns.length ≤ 4 && ns.dropLast.all (· ≤ 255) &&
      (ns.getLast?.map fun n => decide (n < Nat.pow 256 (5 - ns.length))).getD false

end Registrar.Url
