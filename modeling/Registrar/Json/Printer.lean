import Registrar.Json.Value

/-! # Writing JSON values

Without any space. In a string, quotes, backslashes and the control characters below U+0020 are
escaped, and every other byte stands for itself; a code unit is written by its number.
-/

namespace Registrar.Json
open Text
open Text.Utf8 (Bytes)
set_option autoImplicit false

def hexByte (n : Nat) : UInt8 := UInt8.ofNat (if n < 10 then 0x30 + n else 0x57 + n)

/-- A code unit as an escape with four lower-case hexadecimal digits. -/
def unitEscape (n : Nat) : Bytes :=
  [0x5C, 0x75, hexByte (n / 4096 % 16), hexByte (n / 256 % 16), hexByte (n / 16 % 16),
    hexByte (n % 16)]

def Piece.render : Piece → Bytes
  | .unit u => unitEscape u.toNat
  | .byte b =>
    if b = 0x22 ∨ b = 0x5C then [0x5C, b]
    else if b = 0x08 then [0x5C, 0x62]
    else if b = 0x09 then [0x5C, 0x74]
    else if b = 0x0A then [0x5C, 0x6E]
    else if b = 0x0C then [0x5C, 0x66]
    else if b = 0x0D then [0x5C, 0x72]
    else if b < 0x20 then unitEscape b.toNat
    else [b]

def Written.render (t : Written) : Bytes := 0x22 :: t.flatMap Piece.render ++ [0x22]

namespace Value

mutual

def render : Value → Bytes
  | null => Utf8.encode "null"
  | boolean true => Utf8.encode "true"
  | boolean false => Utf8.encode "false"
  | number text => text
  | string t => Written.render t
  | array items => 0x5B :: renderItems items ++ [0x5D]
  | object members => 0x7B :: renderMembers members ++ [0x7D]

def renderItems : List Value → Bytes
  | [] => []
  | [v] => render v
  | v :: w :: rest => render v ++ 0x2C :: renderItems (w :: rest)

def renderMembers : List (Written × Value) → Bytes
  | [] => []
  | [(k, v)] => Written.render k ++ 0x3A :: render v
  | (k, v) :: m :: rest => Written.render k ++ 0x3A :: render v ++ 0x2C :: renderMembers (m :: rest)

end

end Value

end Registrar.Json
