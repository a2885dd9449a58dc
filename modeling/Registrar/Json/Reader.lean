import Registrar.Json.Token

/-! # Reading JSON values

A machine that takes one token at a time and keeps the containers that are part way through in a
list, the innermost one first.

* `Frame`: a container part way through, its items or members in reverse.
* `State`: what is expected next.
* `parse?`: the value of a byte sequence that is one value and nothing else.
-/

namespace Registrar.Json
open Text
open Text.Utf8 (Bytes)
set_option autoImplicit false

inductive Frame where
  | array (items : List Value)
  | object (members : List (Written × Value)) (key : Written)

inductive State where
  | value (stack : List Frame)
  /-- The first item of an array, or its end. -/
  | firstItem (stack : List Frame)
  /-- The first key of an object, or its end. -/
  | firstKey (stack : List Frame)
  /-- A key, after a comma. -/
  | key (members : List (Written × Value)) (stack : List Frame)
  | colon (members : List (Written × Value)) (key : Written) (stack : List Frame)
  /-- Whatever may follow a value. -/
  | after (v : Value) (stack : List Frame)

namespace State

def startValue (stack : List Frame) : Token → Option State
  | .beginObject => some (firstKey stack)
  | .beginArray => some (firstItem stack)
  | .atom v => some (after v stack)
  | .text t => some (after (.string t) stack)
  | .endObject | .endArray | .colon | .comma => none

def next : State → Token → Option State
  | value stack, t => startValue stack t
  | firstItem stack, .endArray => some (after (.array []) stack)
  | firstItem stack, t => startValue (.array [] :: stack) t
  | firstKey stack, .endObject => some (after (.object []) stack)
  | firstKey stack, .text k => some (colon [] k stack)
  | key ms stack, .text k => some (colon ms k stack)
  | colon ms k stack, .colon => some (value (.object ms k :: stack))
  | after v (.array vs :: stack), .comma => some (value (.array (v :: vs) :: stack))
  | after v (.array vs :: stack), .endArray => some (after (.array (v :: vs).reverse) stack)
  | after v (.object ms k :: stack), .comma => some (key ((k, v) :: ms) stack)
  | after v (.object ms k :: stack), .endObject =>
    some (after (.object ((k, v) :: ms).reverse) stack)
  | _, _ => none

def run (s : State) : List Token → Option State
  | [] => some s
  | t :: ts =>
    match s.next t with
    | some s => run s ts
    | none => none

theorem run_append (s : State) (ts us : List Token) :
    s.run (ts ++ us) = (s.run ts).bind fun s => s.run us := by
  induction ts generalizing s with
  | nil => rfl
  | cons t ts ih =>
    simp only [List.cons_append, run]
    cases s.next t with
    | none => rfl
    | some s => exact ih s

end State

/-- The value of a token sequence that is one value and nothing else. -/
def ofTokens? (ts : List Token) : Option Value :=
  match (State.value []).run ts with
  | some (.after v []) => some v
  | _ => none

def parse? (bs : Bytes) : Option Value := (scan bs).bind ofTokens?

end Registrar.Json
