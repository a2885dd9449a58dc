import Registrar.Json.Value

/-! # The tokens of a JSON text

A machine that takes one byte at a time.

* `Mode`: what the machine is in the middle of.
* `step`: the mode after a byte, and the tokens finished by it.
* `run`: the same for a byte sequence; a run can be cut anywhere.
* `scan`: the tokens of a byte sequence, if every part of it is one.

Strings and numbers are checked for their form only: what a string means is asked later, and of
some strings never.
-/

namespace Registrar.Json
open Text
open Text.Utf8 (Bytes)
set_option autoImplicit false

inductive Token where
  | beginObject
  | endObject
  | beginArray
  | endArray
  | colon
  | comma
  | atom (v : Value)
  | text (t : Written)

/-! ## Numbers -/

/-- How far a number has been read. -/
inductive NumberPart where
  | sign
  | zero
  | integer
  | point
  | fraction
  | exponent
  | exponentSign
  | exponentDigits
  deriving DecidableEq, Repr

def isDigitByte (b : UInt8) : Bool := 0x30 ≤ b && b ≤ 0x39

namespace NumberPart

def complete : NumberPart → Bool
  | zero | integer | fraction | exponentDigits => true
  | sign | point | exponent | exponentSign => false

/-- The part that a byte leads to, if the number goes on with it. -/
def next (p : NumberPart) (b : UInt8) : Option NumberPart :=
  let isExponent := b == 0x65 || b == 0x45
  match p with
  | sign => if b == 0x30 then some zero else if isDigitByte b then some integer else none
  | zero => if b == 0x2E then some point else if isExponent then some exponent else none
  | integer =>
    if isDigitByte b then some integer
    else if b == 0x2E then some point
    else if isExponent then some exponent
    else none
  | point => if isDigitByte b then some fraction else none
  | fraction =>
    if isDigitByte b then some fraction else if isExponent then some exponent else none
  | exponent =>
    if isDigitByte b then some exponentDigits
    else if b == 0x2B || b == 0x2D then some exponentSign
    else none
  | exponentSign => if isDigitByte b then some exponentDigits else none
  | exponentDigits => if isDigitByte b then some exponentDigits else none

end NumberPart

/-! ## The machine -/

/-- What the machine is in the middle of; what it has seen of a token is in reverse. -/
inductive Mode where
  | between
  | number (part : NumberPart) (seen : Bytes)
  | word (rest : Bytes) (v : Value)
  | text (seen : Written)
  | escape (seen : Written)
  | hex (digits : Nat) (value : UInt16) (seen : Written)

def isSpace (b : UInt8) : Bool := b == 0x20 || b == 0x09 || b == 0x0A || b == 0x0D

def hexDigit? (b : UInt8) : Option UInt16 :=
  if isDigitByte b then some (b.toUInt16 - 0x30)
  else if 0x41 ≤ b && b ≤ 0x46 then some (b.toUInt16 - 0x37)
  else if 0x61 ≤ b && b ≤ 0x66 then some (b.toUInt16 - 0x57)
  else none

/-- The byte that a one-letter escape stands for. -/
def escaped? (b : UInt8) : Option UInt8 :=
  if b == 0x22 || b == 0x5C || b == 0x2F then some b
  else if b == 0x62 then some 0x08
  else if b == 0x66 then some 0x0C
  else if b == 0x6E then some 0x0A
  else if b == 0x72 then some 0x0D
  else if b == 0x74 then some 0x09
  else none

/-- The mode and the tokens, the last one first. -/
abbrev Scan := Mode × List Token

def start (ts : List Token) (b : UInt8) : Option Scan :=
  if isSpace b then some (.between, ts)
  else if b == 0x22 then some (.text [], ts)
  else if b == 0x7B then some (.between, .beginObject :: ts)
  else if b == 0x7D then some (.between, .endObject :: ts)
  else if b == 0x5B then some (.between, .beginArray :: ts)
  else if b == 0x5D then some (.between, .endArray :: ts)
  else if b == 0x3A then some (.between, .colon :: ts)
  else if b == 0x2C then some (.between, .comma :: ts)
  else if b == 0x2D then some (.number .sign [b], ts)
  else if b == 0x30 then some (.number .zero [b], ts)
  else if isDigitByte b then some (.number .integer [b], ts)
  else if b == 0x6E then some (.word [0x75, 0x6C, 0x6C] .null, ts)
  else if b == 0x74 then some (.word [0x72, 0x75, 0x65] (.boolean true), ts)
  else if b == 0x66 then some (.word [0x61, 0x6C, 0x73, 0x65] (.boolean false), ts)
  else none

def step (m : Mode) (ts : List Token) (b : UInt8) : Option Scan :=
  match m with
  | .between => start ts b
  | .number part seen =>
    match part.next b with
    | some part => some (.number part (b :: seen), ts)
    | none =>
      if part.complete then start (.atom (.number seen.reverse) :: ts) b else none
  | .word [] _ => none
  | .word (c :: rest) v =>
    if b == c then
      some (if rest.isEmpty then (.between, .atom v :: ts) else (.word rest v, ts))
    else none
  | .text seen =>
    if b == 0x22 then some (.between, .text seen.reverse :: ts)
    else if b == 0x5C then some (.escape seen, ts)
    else if b < 0x20 then none
    else some (.text (.byte b :: seen), ts)
  | .escape seen =>
    if b == 0x75 then some (.hex 4 0 seen, ts)
    else (escaped? b).map fun c => (.text (.byte c :: seen), ts)
  | .hex digits value seen =>
    (hexDigit? b).map fun d =>
      let value := value * 16 + d
      if digits ≤ 1 then (.text (.unit value :: seen), ts) else (.hex (digits - 1) value seen, ts)

def run (m : Mode) (ts : List Token) : Bytes → Option Scan
  | [] => some (m, ts)
  | b :: bs =>
    match step m ts b with
    | some (m, ts) => run m ts bs
    | none => none

theorem run_append (m : Mode) (ts : List Token) (xs ys : Bytes) :
    run m ts (xs ++ ys) = (run m ts xs).bind fun s => run s.1 s.2 ys := by
  induction xs generalizing m ts with
  | nil => rfl
  | cons b xs ih =>
    simp only [List.cons_append, run]
    cases step m ts b with
    | none => rfl
    | some s => exact ih s.1 s.2

theorem run_append_of_run {m m' : Mode} {ts ts' : List Token} {xs : Bytes}
    (h : run m ts xs = some (m', ts')) (ys : Bytes) : run m ts (xs ++ ys) = run m' ts' ys := by
  rw [run_append, h]
  rfl

/-! ## Whole texts -/

/-- The tokens at the end of the text, if it does not end inside one. -/
def finish : Scan → Option (List Token)
  | (.between, ts) => some ts.reverse
  | (.number part seen, ts) =>
    if part.complete then some (.atom (.number seen.reverse) :: ts).reverse else none
  | (.word _ _, _) | (.text _, _) | (.escape _, _) | (.hex _ _ _, _) => none

def scan (bs : Bytes) : Option (List Token) := (run .between [] bs).bind finish

end Registrar.Json
