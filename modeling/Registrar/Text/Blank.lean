/-! # Blank characters and ASCII case

* `isBlank`: the Unicode property White_Space, twenty-five characters.
* `trim`: a text without the blank characters at its two ends.
* `hasInk`: some character is not blank, which is what it takes for a field to count as given.
* `lower`: ASCII letters in lower case, every other character as it is.
-/

namespace Registrar.Text
set_option autoImplicit false

/-! ## White space -/

/-- The characters with the Unicode property White_Space. -/
def isBlank (c : Char) : Bool :=
  let n := c.toNat
  (0x09 ≤ n && n ≤ 0x0D) || n == 0x20 || n == 0x85 || n == 0xA0 || n == 0x1680 ||
    (0x2000 ≤ n && n ≤ 0x200A) || n == 0x2028 || n == 0x2029 || n == 0x202F || n == 0x205F ||
    n == 0x3000

def trimStart (cs : List Char) : List Char := cs.dropWhile isBlank

def trim (cs : List Char) : List Char := (trimStart (trimStart cs).reverse).reverse

/-- Some character of the text is not blank. -/
def hasInk (s : String) : Bool := s.toList.any fun c => !isBlank c

/-! ## ASCII case -/

/-- An ASCII capital in lower case; every other character is left alone. -/
def lowerChar (c : Char) : Char :=
  if 'A' ≤ c ∧ c ≤ 'Z' then Char.ofNat (c.toNat + 32) else c

def lower (cs : List Char) : List Char := cs.map lowerChar

/-- The form in which a keyword is recognised: no blank ends, ASCII letters in lower case. -/
def keyword (s : String) : List Char := lower (trim s.toList)

end Registrar.Text
