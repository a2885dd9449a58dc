/-! # Decimal numerals of bounded value

* `isDigit`, `digitValue`: the ten ASCII digits.
* `value`: the number that a list of digits denotes; leading zeros are allowed in any number.
* `bounded?`: an optional `+`, then at least one digit, with a value that stays within a bound.
* `read`: the same from left to right, with the reason for a refusal.
* `canonical?`: the same without sign and without leading zeros.
-/

namespace Registrar.Text.Numeral
set_option autoImplicit false

def isDigit (c : Char) : Bool := '0' ≤ c && c ≤ '9'

def digitValue (c : Char) : Nat := c.toNat - '0'.toNat

def value (cs : List Char) : Nat := cs.foldl (fun n c => 10 * n + digitValue c) 0

/-- The text without one leading plus sign, if there is one. -/
def unsigned : List Char → List Char
  | '+' :: cs => cs
  | cs => cs

/-- The value of an optional `+` and one or more digits, if it is at most `bound`. -/
def bounded? (bound : Nat) (cs : List Char) : Option Nat :=
  let ds := unsigned cs
  if ds ≠ [] ∧ ds.all isDigit = true ∧ value ds ≤ bound then some (value ds) else none

/-! ## Refusals -/

inductive Fault where
  | empty
  | badDigit
  | tooLarge
  deriving DecidableEq, Repr

/-- The number that digits denote after those that denote `n`. The first character that is no
digit, or that takes the value past the bound, decides. -/
def readFrom (bound n : Nat) : List Char → Except Fault Nat
  | [] => .ok n
  | c :: cs =>
    if isDigit c then
      if 10 * n + digitValue c ≤ bound then readFrom bound (10 * n + digitValue c) cs
      else .error .tooLarge
    else .error .badDigit

/-- The value of an optional `+` and one or more digits, or what is wrong with the text. -/
def read (bound : Nat) (cs : List Char) : Except Fault Nat :=
  if cs = [] then .error .empty
  else if unsigned cs = [] then .error .badDigit
  else readFrom bound 0 (unsigned cs)

theorem le_foldl_value (n : Nat) (cs : List Char) :
    n ≤ cs.foldl (fun n c => 10 * n + digitValue c) n := by
  induction cs generalizing n with
  | nil => exact Nat.le_refl n
  | cons c cs ih =>
    have rest := ih (10 * n + digitValue c)
    have step : n ≤ 10 * n + digitValue c := by omega
    exact Nat.le_trans step rest

theorem readFrom_eq_ok_iff (bound n m : Nat) (cs : List Char) (small : n ≤ bound) :
    readFrom bound n cs = .ok m ↔
      cs.all isDigit = true ∧ m ≤ bound ∧ cs.foldl (fun n c => 10 * n + digitValue c) n = m := by
  induction cs generalizing n with
  | nil =>
    simp only [readFrom, Except.ok.injEq, List.all_nil, List.foldl_nil, true_and]
    exact ⟨fun h => ⟨h ▸ small, h⟩, fun h => h.2⟩
  | cons c cs ih =>
    simp only [readFrom, List.all_cons, List.foldl_cons, Bool.and_eq_true]
    by_cases digit : isDigit c = true
    · by_cases fits : 10 * n + digitValue c ≤ bound
      · simp only [digit, fits, if_true, ih _ fits, true_and]
      · have grows := le_foldl_value (10 * n + digitValue c) cs
        simp only [digit, fits, if_true, if_false, reduceCtorEq, true_and, false_iff]
        intro h
        omega
    · simp [digit]

/-- Read from left to right, the same texts are numbers. -/
theorem read_eq_ok_iff (bound n : Nat) (cs : List Char) :
    read bound cs = .ok n ↔ bounded? bound cs = some n := by
  unfold read bounded? value
  by_cases none : cs = []
  · simp [none, unsigned]
  · by_cases bare : unsigned cs = []
    · simp [none, bare]
    · simp only [none, bare, if_false, readFrom_eq_ok_iff _ _ _ _ (Nat.zero_le bound), ne_eq,
        not_false_eq_true, true_and, Option.ite_none_right_eq_some, Option.some.injEq]
      exact ⟨fun h => ⟨⟨h.1, h.2.2 ▸ h.2.1⟩, h.2.2⟩, fun h => ⟨h.1.1, h.2 ▸ h.1.2, h.2⟩⟩

/-! ## Plain decimals -/

/-- The value of one or more digits without a superfluous leading zero, if it is at most `bound`. -/
def canonical? (bound : Nat) (cs : List Char) : Option Nat :=
  if cs ≠ [] ∧ cs.all isDigit = true ∧ (cs.head? = some '0' → cs = ['0']) ∧ value cs ≤ bound then
    some (value cs)
  else none

/-- The digits of a number, most significant first, without a superfluous zero. -/
def digits (n : Nat) : List Char := Nat.toDigits 10 n

theorem all_isDigit_digits (n : Nat) : (digits n).all isDigit = true := by
  rw [List.all_eq_true]
  intro c hc
  exact Nat.isDigit_of_mem_toDigits (by decide) (by decide) hc

theorem value_digits (n : Nat) : value (digits n) = n := by
  have h := Nat.ofDigitChars_ten_toDigits (n := n)
  rwa [Nat.ofDigitChars_eq_foldl] at h

/-- Only zero is written with a zero in front. -/
theorem eq_zero_of_head?_digits (n : Nat) (h : (digits n).head? = some '0') : n = 0 := by
  induction n using Nat.strongRecOn with
  | ind n ih =>
    by_cases small : n < 10
    · have all : ∀ m : Fin 10, m.val.digitChar = '0' → m.val = 0 := by decide
      rw [digits, Nat.toDigits_of_lt_base small, List.head?_cons, Option.some.injEq] at h
      exact all ⟨n, small⟩ h
    · have long : digits n = digits (n / 10) ++ [(n % 10).digitChar] :=
        Nat.toDigits_of_base_le (by decide) (by omega)
      have front : (digits n).head? = (digits (n / 10)).head? := by
        cases hq : digits (n / 10) with
        | nil => exact absurd hq Nat.toDigits_ne_nil
        | cons c cs => rw [long, hq, List.cons_append, List.head?_cons, List.head?_cons]
      have quotient := ih (n / 10) (by omega) (front ▸ h)
      omega

/-- The digits of a number within the bound are read back. -/
theorem canonical?_digits {bound n : Nat} (h : n ≤ bound) :
    canonical? bound (digits n) = some n := by
  have zero : (digits n).head? = some '0' → digits n = ['0'] := by
    intro hd
    rw [eq_zero_of_head?_digits n hd]
    rfl
  unfold canonical?
  rw [value_digits, if_pos ⟨Nat.toDigits_ne_nil, all_isDigit_digits n, zero, h⟩]

end Registrar.Text.Numeral
