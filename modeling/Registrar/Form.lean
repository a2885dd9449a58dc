import Registrar.Text.Percent

/-! # Form data

The pairs of a query string: pieces between ampersands, split at their first equals sign, with a
plus sign for a space and with percent-encoded bytes. Bytes that are no text are replaced.
-/

namespace Registrar.Form
open Text
open Text.Utf8 (Bytes)
set_option autoImplicit false

/-- A plus sign is a space. -/
def unplus (b : UInt8) : UInt8 := if b = 0x2B then 0x20 else b

def component (bs : Bytes) : String := Utf8.decodeLossy (Percent.decode (bs.map unplus))

/-- A piece split at its first equals sign; one without is a name with an empty value. -/
def pair (piece : Bytes) : String × String :=
  (component (piece.takeWhile (· != 0x3D)), component ((piece.dropWhile (· != 0x3D)).drop 1))

/-- The pairs of a query, in order; empty pieces are skipped. -/
def pairs (query : Bytes) : List (String × String) :=
  ((query.splitOn 0x26).filter fun piece => !piece.isEmpty).map pair

end Registrar.Form
