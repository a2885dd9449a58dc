import Registrar.Text.Utf8

/-! # Percent-encoded bytes

`%` with two hexadecimal digits stands for a byte. A percent sign that is followed by anything
else stands for itself.
-/

namespace Registrar.Text.Percent
open Text.Utf8 (Bytes)
set_option autoImplicit false

def hexValue? (b : UInt8) : Option UInt8 :=
  if 0x30 ≤ b ∧ b ≤ 0x39 then some (b - 0x30)
  else if 0x41 ≤ b ∧ b ≤ 0x46 then some (b - 0x37)
  else if 0x61 ≤ b ∧ b ≤ 0x66 then some (b - 0x57)
  else none

/-- The byte that the first two bytes give as hexadecimal digits. -/
def hexPair? (bs : Bytes) : Option UInt8 :=
  match bs with
  | x :: y :: _ =>
    match hexValue? x, hexValue? y with
    | some x, some y => some (16 * x + y)
    | _, _ => none
  | _ => none

/-- Every `%` with two hexadecimal digits replaced by the byte. -/
def decode : Bytes → Bytes
  | [] => []
  | c :: r =>
    if c = 0x25 then
      match hexPair? r with
      | some b => b :: decode (r.drop 2)
      | none => c :: decode r
    else c :: decode r
  termination_by bs => bs.length
  decreasing_by all_goals simp only [List.length_drop, List.length_cons]; omega

@[simp] theorem decode_nil : decode [] = [] := by rw [decode]

theorem decode_cons_of_ne {b : UInt8} (h : b ≠ 0x25) (r : Bytes) :
    decode (b :: r) = b :: decode r := by
  rw [decode, if_neg h]

theorem decode_escape {x y u v : UInt8} (hx : hexValue? x = some u) (hy : hexValue? y = some v)
    (r : Bytes) : decode (0x25 :: x :: y :: r) = (16 * u + v) :: decode r := by
  have hpair : hexPair? (x :: y :: r) = some (16 * u + v) := by simp only [hexPair?, hx, hy]
  rw [decode, if_pos rfl, hpair]
  rfl

end Registrar.Text.Percent
