import Registrar.Text.Utf8

/-! # JSON values

* `Written`: the content of a string as it is written: bytes, and code units given by their number.
  It need not be a text at all; `Written.toString?` is the text if it is one.
* `Value`: a value with its members in the order in which they are written.
-/

namespace Registrar.Json
open Text
open Text.Utf8 (Bytes)
set_option autoImplicit false

inductive Piece where
  | byte (b : UInt8)
  | unit (u : UInt16)
  deriving DecidableEq, Repr

abbrev Written := List Piece

inductive Value where
  | null
  | boolean (b : Bool)
  | number (text : Bytes)
  | string (t : Written)
  | array (items : List Value)
  | object (members : List (Written × Value))

/-! ## The text of a string -/

namespace Written

def isLead (u : UInt16) : Bool := 0xD800 ≤ u && u ≤ 0xDBFF

def isTrail (u : UInt16) : Bool := 0xDC00 ≤ u && u ≤ 0xDFFF

/-- The bytes of a character, in front of the bytes so far, which are in reverse. -/
def pushChar (n : Nat) (bs : Bytes) : Bytes := (String.utf8EncodeChar (Char.ofNat n)).reverse ++ bs

/-- The code point of a lead and a trail unit. -/
def joined (u v : UInt16) : Nat := 0x10000 + (u.toNat - 0xD800) * 0x400 + (v.toNat - 0xDC00)

/-- The bytes that are meant, after those so far in reverse; a lead unit without its trail unit, or
a trail unit on its own, means nothing. -/
def bytesFrom? (bs : Bytes) : Written → Option Bytes
  | [] => some bs.reverse
  | .byte b :: r => bytesFrom? (b :: bs) r
  | .unit u :: r =>
    if isLead u then
      match r with
      | .unit v :: r => if isTrail v then bytesFrom? (pushChar (joined u v) bs) r else none
      | _ => none
    else if isTrail u then none
    else bytesFrom? (pushChar u.toNat bs) r

/-- The text, if every unit has its partner and the bytes are UTF-8. -/
def toString? (t : Written) : Option String := (bytesFrom? [] t).bind Utf8.decode?

/-- A text, written as the bytes that it is. -/
def ofString (s : String) : Written := (Utf8.encode s).map .byte

theorem bytesFrom?_map_byte (bs cs : Bytes) :
    bytesFrom? bs (cs.map Piece.byte) = some (bs.reverse ++ cs) := by
  induction cs generalizing bs with
  | nil => simp [bytesFrom?]
  | cons c cs ih => simp [bytesFrom?, ih]

theorem toString?_ofString (s : String) : toString? (ofString s) = some s := by
  simp [toString?, ofString, bytesFrom?_map_byte, Utf8.decode?_encode]

end Written

end Registrar.Json
