import Mathlib.Data.List.Induction
import Mathlib.Data.Nat.Digits.Defs
import Registrar.Proofs.Configuration
import Registrar.Proofs.Trimming

/-! # Numbers among the settings

A port and a limit of connections are read digit by digit, and no number on the way may pass the
bound. So a text of any length gives its exact value or none, and never what is left of a value that
is too large.

* `Numeral.Spells`: an optional plus sign and digits, with their value in the decimal system.
* `value_eq_ofDigits`: the number built up from the left is that value.
* `Numeral.StandsFor`: a text spells a number between blank ends.
* `toOption_read_eq_some_iff`: reading within a bound gives the number that a text stands for.
* `numeric_settings_law`: both settings, alone and in a reading of all variables.
-/

namespace Registrar
open Text
set_option autoImplicit false

namespace Text.Numeral

/-! ## Decimal numbers -/

/-- An optional plus sign, then one or more ASCII digits that denote `n`. -/
def Spells (cs : List Char) (n : Nat) : Prop :=
  ∃ sign digits, cs = sign ++ digits ∧ (sign = [] ∨ sign = ['+']) ∧ digits ≠ [] ∧
    (∀ c ∈ digits, '0' ≤ c ∧ c ≤ '9') ∧ Nat.ofDigits 10 (digits.reverse.map digitValue) = n

theorem value_concat (cs : List Char) (c : Char) :
    value (cs ++ [c]) = 10 * value cs + digitValue c := by
  simp only [value, List.foldl_append, List.foldl_cons, List.foldl_nil]

/-- The digits come in from the left, and the powers of ten count from the right. -/
theorem value_eq_ofDigits (cs : List Char) :
    value cs = Nat.ofDigits 10 (cs.reverse.map digitValue) := by
  induction cs using List.reverseRecOn with
  | nil => rfl
  | append_singleton cs c ih =>
    rw [value_concat, ih, List.reverse_append]
    show _ = Nat.ofDigits 10 (digitValue c :: cs.reverse.map digitValue)
    rw [Nat.ofDigits_cons]
    exact Nat.add_comm _ _

theorem all_isDigit_iff (cs : List Char) :
    cs.all isDigit = true ↔ ∀ c ∈ cs, '0' ≤ c ∧ c ≤ '9' := by
  simp only [List.all_eq_true, isDigit, Bool.and_eq_true, decide_eq_true_eq]

theorem unsigned_digits {cs : List Char} (digits : ∀ c ∈ cs, '0' ≤ c ∧ c ≤ '9') :
    unsigned cs = cs := by
  cases cs with
  | nil => rfl
  | cons c cs =>
    have hplus : c ≠ '+' := by
      rintro rfl
      exact absurd (digits '+' List.mem_cons_self).1 (by decide)
    unfold unsigned
    split
    · rename_i hcons
      exact absurd (List.cons.inj hcons).1 hplus
    · rfl

theorem exists_sign (cs : List Char) :
    ∃ sign, cs = sign ++ unsigned cs ∧ (sign = [] ∨ sign = ['+']) := by
  unfold unsigned
  split
  · exact ⟨['+'], rfl, .inr rfl⟩
  · exact ⟨[], rfl, .inl rfl⟩

theorem bounded?_eq_some_iff (bound n : Nat) (cs : List Char) :
    bounded? bound cs = some n ↔ Spells cs n ∧ n ≤ bound := by
  unfold bounded?
  simp only [Option.ite_none_right_eq_some, Option.some.injEq, all_isDigit_iff]
  constructor
  · rintro ⟨⟨hne, hdigits, hbound⟩, rfl⟩
    obtain ⟨sign, hsplit, hsign⟩ := exists_sign cs
    exact ⟨⟨sign, unsigned cs, hsplit, hsign, hne, hdigits, (value_eq_ofDigits _).symm⟩, hbound⟩
  · rintro ⟨⟨sign, digits, rfl, hsign, hne, hdigits, hvalue⟩, hbound⟩
    have hunsigned : unsigned (sign ++ digits) = digits := by
      rcases hsign with rfl | rfl
      · exact unsigned_digits hdigits
      · rfl
    rw [hunsigned, value_eq_ofDigits, hvalue]
    exact ⟨⟨hne, hdigits, hbound⟩, rfl⟩

theorem Spells.unique {cs : List Char} {n m : Nat} (hn : Spells cs n) (hm : Spells cs m) :
    n = m := by
  have hread := (bounded?_eq_some_iff (max n m) n cs).mpr ⟨hn, Nat.le_max_left n m⟩
  rw [(bounded?_eq_some_iff (max n m) m cs).mpr ⟨hm, Nat.le_max_right n m⟩] at hread
  exact (Option.some.inj hread).symm

/-! ## Texts that stand for numbers -/

/-- Without its blank ends the text spells the number. -/
def StandsFor (s : String) (n : Nat) : Prop := ∃ core, Trims s.toList core ∧ Spells core n

theorem standsFor_iff (s : String) (n : Nat) : StandsFor s n ↔ Spells (trim s.toList) n := by
  constructor
  · rintro ⟨core, htrims, hspells⟩
    rw [trim_of_trims htrims]
    exact hspells
  · intro h
    exact ⟨_, trims_trim _, h⟩

theorem StandsFor.unique {s : String} {n m : Nat} (hn : StandsFor s n) (hm : StandsFor s m) :
    n = m :=
  ((standsFor_iff s n).mp hn).unique ((standsFor_iff s m).mp hm)

theorem toOption_eq_some_iff {ε α : Type} (x : Except ε α) (a : α) :
    x.toOption = some a ↔ x = .ok a := by
  cases x <;> simp [Except.toOption]

/-- Digit by digit within a bound, the same texts give the same numbers. -/
theorem toOption_read_eq_some_iff (bound n : Nat) (s : String) :
    (read bound (trim s.toList)).toOption = some n ↔ StandsFor s n ∧ n ≤ bound := by
  rw [toOption_eq_some_iff, read_eq_ok_iff, bounded?_eq_some_iff, standsFor_iff]

end Text.Numeral

/-! ## The two settings -/

open Text.Numeral

theorem port?_eq_some_iff (s : String) (n : Nat) :
    port? s = some n ↔ StandsFor s n ∧ n ≤ 65535 :=
  toOption_read_eq_some_iff 65535 n s

theorem port?_eq_none_iff (s : String) : port? s = none ↔ ¬∃ n, StandsFor s n ∧ n ≤ 65535 := by
  rw [Option.eq_none_iff_forall_ne_some, not_exists]
  exact forall_congr' fun n => not_congr (port?_eq_some_iff s n)

theorem connectionLimit_of_standsFor {s : String} {n : Nat} (h : StandsFor s n) (low : 1 ≤ n)
    (high : n ≤ 4294967295) : connectionLimit (some s) = n := by
  have hread := (toOption_read_eq_some_iff 4294967295 n s).mpr ⟨h, high⟩
  have hpos : 0 < n := low
  unfold connectionLimit
  rw [Option.bind_some, hread]
  simp [Option.filter, hpos]

theorem connectionLimit_of_other {s : String}
    (h : ¬∃ n, StandsFor s n ∧ 1 ≤ n ∧ n ≤ 4294967295) : connectionLimit (some s) = 5 := by
  unfold connectionLimit
  rw [Option.bind_some]
  cases hread : (read 4294967295 (trim s.toList)).toOption with
  | none => rfl
  | some n =>
    obtain ⟨hstands, hhigh⟩ := (toOption_read_eq_some_iff 4294967295 n s).mp hread
    have hzero : ¬0 < n := fun hpos => h ⟨n, hstands, hpos, hhigh⟩
    simp [Option.filter, hzero, defaultMaxConnections]

/-! ## In a reading of all variables -/

section
variable {lookup : String → Option String} {s : String} {settings : Settings}

theorem port_of_read (set : lookup Variable.port.name = some s)
    (h : Settings.read lookup = .ok settings) :
    StandsFor s settings.port ∧ settings.port ≤ 65535 := by
  have hchosen := (Settings.takes_of_read h).port
  rw [set] at hchosen
  cases hchosen with
  | parsed hport => exact (port?_eq_some_iff s settings.port).mp hport

theorem maxConnections_of_read (set : lookup Variable.maxConnections.name = some s)
    (h : Settings.read lookup = .ok settings) :
    settings.maxConnections = connectionLimit (some s) := by
  have hchosen := (Settings.takes_of_read h).maxConnections
  rw [set] at hchosen
  exact hchosen.unique (chosen_connectionLimit _)

/-- Only the database is looked at before the port. -/
theorem read_eq_invalid_port_iff (url : ∀ f, ¬Variable.databaseUrl.Offends
    (lookup Variable.databaseUrl.name) f) (set : lookup Variable.port.name = some s) :
    Settings.read lookup = .error (.invalid .port s) ↔ port? s = none := by
  rw [Settings.read_eq_error_iff]
  constructor
  · rintro ⟨_, v, _, -, hv, -⟩
    generalize lookup v.name = raw at hv
    cases hv with
    | refused h => exact h
  · intro hport
    refine ⟨[.databaseUrl], .port, _, rfl, ?_, by simpa using url⟩
    rw [set]
    exact .refused hport

end

/-! ## The law -/

/-- What a text gives as a port and as a limit of connections. -/
structure NumericLaw (s : String) : Prop where
  unique : ∀ n m, StandsFor s n → StandsFor s m → n = m
  port_iff : ∀ n, port? s = some n ↔ StandsFor s n ∧ n ≤ 65535
  accepted_iff : ∀ lookup : String → Option String, lookup Variable.port.name = some s →
    (∀ f, ¬Variable.databaseUrl.Offends (lookup Variable.databaseUrl.name) f) →
      (Settings.read lookup ≠ .error (.invalid .port s) ↔ ∃ n, StandsFor s n ∧ n ≤ 65535)
  port : ∀ lookup settings, lookup Variable.port.name = some s →
    Settings.read lookup = .ok settings → StandsFor s settings.port ∧ settings.port ≤ 65535
  limit : ∀ n, StandsFor s n → 1 ≤ n → n ≤ 4294967295 → connectionLimit (some s) = n
  limit_of_other : (¬∃ n, StandsFor s n ∧ 1 ≤ n ∧ n ≤ 4294967295) → connectionLimit (some s) = 5
  maxConnections : ∀ lookup settings, lookup Variable.maxConnections.name = some s →
    Settings.read lookup = .ok settings → settings.maxConnections = connectionLimit (some s)

/-- **Numbers of any length.** A text is accepted as a port exactly if between its blank ends it is
an optional plus sign and ASCII digits with a value of at most 65535, and the port is that value. As
a limit of connections it gives its value if that is at least 1 and below 2^32; every other text
gives 5. Both hold of the settings that are read. -/
theorem numeric_settings_law (s : String) : NumericLaw s where
  unique _ _ hn hm := hn.unique hm
  port_iff n := port?_eq_some_iff s n
  accepted_iff lookup set url := by
    rw [ne_eq, read_eq_invalid_port_iff url set, port?_eq_none_iff, Classical.not_not]
  port _ _ set h := port_of_read set h
  limit _ h low high := connectionLimit_of_standsFor h low high
  limit_of_other h := connectionLimit_of_other h
  maxConnections _ _ set h := maxConnections_of_read set h

/-- Zeros in front and blanks around do not count. One more than the largest port is no port at all,
and not the port 0, but it is a limit of connections. -/
theorem numeric_settings_law_largest :
    port? "\u2003+00065535\n" = some 65535 ∧ port? "65536" = none ∧
      connectionLimit (some "65536") = 65536 := by
  have hlargest : StandsFor "\u2003+00065535\n" 65535 :=
    ⟨"+00065535".toList, (trims_iff _ _).mpr (by decide), ['+'], "00065535".toList, rfl, .inr rfl,
      by decide, (all_isDigit_iff _).mp (by decide), by decide⟩
  have hnext : StandsFor "65536" 65536 :=
    ⟨"65536".toList, (trims_iff _ _).mpr (by decide), [], "65536".toList, rfl, .inl rfl,
      by decide, (all_isDigit_iff _).mp (by decide), by decide⟩
  have hlaw := numeric_settings_law "65536"
  refine ⟨((numeric_settings_law _).port_iff 65535).mpr ⟨hlargest, by decide⟩, ?_,
    hlaw.limit 65536 hnext (by decide) (by decide)⟩
  rw [Option.eq_none_iff_forall_ne_some]
  intro n hn
  obtain ⟨hstands, hsmall⟩ := (hlaw.port_iff n).mp hn
  have hvalue : n = 65536 := hlaw.unique n 65536 hstands hnext
  omega

example : ["0", "-0", "+", "", "\u0663", "1 2", "4294967296"].map
    (fun s => connectionLimit (some s)) = List.replicate 7 5 := by decide +kernel

end Registrar
