import Registrar.Text.Unprintable

/-! # Quoted text

How a value is shown inside a diagnostic: between double quotes, with a backslash before quotes
and backslashes, a short escape for NUL, tab, line feed and carriage return, and the code point in
hexadecimal for every other character that is not shown as itself.
-/

namespace Registrar.Text
set_option autoImplicit false

/-- The escape of a character by its code point, in lower-case hexadecimal. -/
def codePointEscape (c : Char) : List Char :=
  ['\\', 'u', '\x7b'] ++ Nat.toDigits 16 c.toNat ++ ['\x7d']

def quoteChar (c : Char) : List Char :=
  if c = '\x00' then ['\\', '0']
  else if c = '\t' then ['\\', 't']
  else if c = '\n' then ['\\', 'n']
  else if c = '\r' then ['\\', 'r']
  else if c = '"' ∨ c = '\\' then ['\\', c]
  else if isShown c then [c]
  else codePointEscape c

/-- The text between double quotes, with escapes. -/
def quote (s : String) : String :=
  String.ofList ('"' :: s.toList.flatMap quoteChar ++ ['"'])

end Registrar.Text
