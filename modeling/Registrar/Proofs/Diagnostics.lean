import Mathlib.Data.List.Basic
import Registrar.Startup

/-! # Diagnostics

What is printed of a fault in the settings tells which fault it is: the name of the variable and,
whatever characters it has, the value.

* `unquoteChar?`: one character read off quoted text.
* `quote_append_inj`: where quoted text ends, and what it says, can be read off it.
* `quote_of_isPlain`: text of plain characters is quoted as it is.
* `report_settings_inj`: two faults that are reported alike are the same.
-/

namespace Registrar
open Text
set_option autoImplicit false

/-! ## Hexadecimal digits -/

/-- The value of a digit; letters are in lower case. -/
def hexValue (c : Char) : Nat := if c.isDigit then c.toNat - 48 else c.toNat - 87

theorem hexValue_digitChar {d : Nat} (h : d < 16) :
    hexValue d.digitChar = d ∧ d.digitChar ≠ '\x7d' := by
  have all : ∀ d : Fin 16, hexValue d.val.digitChar = d.val ∧ d.val.digitChar ≠ '\x7d' := by
    decide
  exact all ⟨d, h⟩

/-- The number is read back from its digits, and none of them is the brace after them. -/
theorem hexValue_toDigits (n : Nat) :
    (Nat.toDigits 16 n).foldl (fun v c => 16 * v + hexValue c) 0 = n ∧
      '\x7d' ∉ Nat.toDigits 16 n := by
  induction n using Nat.strongRecOn with
  | ind n ih =>
    by_cases small : n < 16
    · obtain ⟨hvalue, hbrace⟩ := hexValue_digitChar small
      rw [Nat.toDigits_of_lt_base small]
      exact ⟨by simp [hvalue], by simp [hbrace.symm]⟩
    · obtain ⟨hquotient, hdigits⟩ := ih (n / 16) (by omega)
      obtain ⟨hvalue, hbrace⟩ := hexValue_digitChar (Nat.mod_lt n (by decide : 16 > 0))
      rw [Nat.toDigits_of_base_le (by decide) (by omega)]
      constructor
      · rw [List.foldl_append, hquotient, List.foldl_cons, List.foldl_nil, hvalue]
        exact Nat.div_add_mod n 16
      · simp [hdigits, hbrace.symm]

/-! ## Quoted text -/

/-- The character for which a letter after a backslash stands. -/
def escaped? : Char → Option Char
  | '0' => some '\x00'
  | 't' => some '\t'
  | 'n' => some '\n'
  | 'r' => some '\r'
  | '"' => some '"'
  | '\\' => some '\\'
  | _ => none

/-- What comes after a backslash: a code point in braces, or a single letter. -/
def unescape? : List Char → Option (Char × List Char)
  | [] => none
  | 'u' :: r =>
    let digits := (r.drop 1).takeWhile (· != '\x7d')
    some (Char.ofNat (digits.foldl (fun v c => 16 * v + hexValue c) 0), r.drop (digits.length + 2))
  | c :: r => (escaped? c).map fun d => (d, r)

/-- One character is read off quoted text. -/
def unquoteChar? : List Char → Option (Char × List Char)
  | [] => none
  | c :: r => if c = '\\' then unescape? r else some (c, r)

theorem unquoteChar?_codePointEscape (c : Char) (r : List Char) :
    unquoteChar? (codePointEscape c ++ r) = some (c, r) := by
  obtain ⟨hvalue, hbrace⟩ := hexValue_toDigits c.toNat
  have hdigits : ((Nat.toDigits 16 c.toNat) ++ '\x7d' :: r).takeWhile (· != '\x7d') =
      Nat.toDigits 16 c.toNat := by
    have hall : ∀ d ∈ Nat.toDigits 16 c.toNat, (d != '\x7d') = true := by
      intro d hd
      simpa using fun h : d = '\x7d' => hbrace (h ▸ hd)
    rw [List.takeWhile_append_of_pos hall]
    simp
  simp [unquoteChar?, codePointEscape, unescape?, hdigits, hvalue]

theorem unquoteChar?_quoteChar (c : Char) (r : List Char) :
    unquoteChar? (quoteChar c ++ r) = some (c, r) := by
  by_cases hshort : c ∈ ['\x00', '\t', '\n', '\r', '"', '\\']
  · simp only [List.mem_cons, List.not_mem_nil, or_false] at hshort
    rcases hshort with rfl | rfl | rfl | rfl | rfl | rfl <;> rfl
  · simp only [List.mem_cons, List.not_mem_nil, or_false, not_or] at hshort
    obtain ⟨hnul, htab, hfeed, hreturn, hquote, hbackslash⟩ := hshort
    rw [quoteChar, if_neg hnul, if_neg htab, if_neg hfeed, if_neg hreturn,
      if_neg (not_or.mpr ⟨hquote, hbackslash⟩)]
    split
    · simp [unquoteChar?, hbackslash]
    · exact unquoteChar?_codePointEscape c r

theorem quoteChar_append_inj {c d : Char} {r s : List Char}
    (h : quoteChar c ++ r = quoteChar d ++ s) : c = d ∧ r = s := by
  have hread := unquoteChar?_quoteChar c r
  rw [h, unquoteChar?_quoteChar, Option.some.injEq, Prod.mk.injEq] at hread
  exact ⟨hread.1.symm, hread.2.symm⟩

/-- No character is written so that it could be the quote at the end. -/
theorem quoteChar_append_ne (c : Char) (r s : List Char) : quoteChar c ++ r ≠ '"' :: s := by
  intro h
  have hread := unquoteChar?_quoteChar c r
  rw [h] at hread
  obtain ⟨rfl, rfl⟩ : '"' = c ∧ s = r := by simpa [unquoteChar?] using hread
  simp [quoteChar] at h

theorem flatMap_quoteChar_inj {cs ds r s : List Char}
    (h : cs.flatMap quoteChar ++ '"' :: r = ds.flatMap quoteChar ++ '"' :: s) :
    cs = ds ∧ r = s := by
  induction cs generalizing ds with
  | nil =>
    cases ds with
    | nil => exact ⟨rfl, (List.cons.inj h).2⟩
    | cons d ds =>
      rw [List.flatMap_cons, List.append_assoc] at h
      exact absurd h.symm (quoteChar_append_ne d _ _)
  | cons c cs ih =>
    cases ds with
    | nil =>
      rw [List.flatMap_cons, List.append_assoc] at h
      exact absurd h (quoteChar_append_ne c _ _)
    | cons d ds =>
      rw [List.flatMap_cons, List.flatMap_cons, List.append_assoc, List.append_assoc] at h
      obtain ⟨rfl, hrest⟩ := quoteChar_append_inj h
      obtain ⟨rfl, hafter⟩ := ih hrest
      exact ⟨rfl, hafter⟩

/-- Quoted text says which text it is, and where it ends. -/
theorem quote_append_inj {a b r s : String} (h : quote a ++ r = quote b ++ s) :
    a = b ∧ r = s := by
  have hlists := congrArg String.toList h
  simp only [quote, String.toList_append, String.toList_ofList, List.cons_append,
    List.append_assoc, List.cons.injEq, true_and, List.nil_append] at hlists
  obtain ⟨hvalue, hrest⟩ := flatMap_quoteChar_inj hlists
  exact ⟨String.toList_inj.mp hvalue, String.toList_inj.mp hrest⟩

/-! ## Text that is shown as it is -/

/-- The ASCII characters that are shown as themselves, the quote and the backslash apart. -/
def isPlain (c : Char) : Bool :=
  0x20 ≤ c.toNat && c.toNat ≤ 0x7E && c != '"' && c != '\\'

theorem inRanges_eq_false (table : List (Nat × Nat)) {n : Nat} (low : 0x20 ≤ n) (high : n ≤ 0x7E)
    (apart : table.all (fun r => r.2 < 0x20 || 0x7E < r.1) = true) : inRanges table n = false := by
  rw [← Bool.not_eq_true, inRanges_iff]
  rintro ⟨r, hr, hfrom, hto⟩
  have hapart := List.all_eq_true.mp apart r hr
  simp only [Bool.or_eq_true, decide_eq_true_eq] at hapart
  omega

theorem isShown_of_ascii {c : Char} (low : 0x20 ≤ c.toNat) (high : c.toNat ≤ 0x7E) :
    isShown c = true := by
  have hnonspacing := inRanges_eq_false Mark.nonspacing low high (by decide +kernel)
  have hspacing := inRanges_eq_false Mark.spacingExtending low high (by decide +kernel)
  have hunprintable := inRanges_eq_false unprintable low high (by decide +kernel)
  have hignorable := inRanges_eq_false ignorable low high (by decide +kernel)
  simp [isShown, Mark.isExtending, Mark.isNonspacing, hnonspacing, hspacing, hunprintable,
    hignorable]

theorem quoteChar_of_isPlain {c : Char} (h : isPlain c = true) : quoteChar c = [c] := by
  simp only [isPlain, Bool.and_eq_true, decide_eq_true_eq, bne_iff_ne] at h
  obtain ⟨⟨⟨low, high⟩, hquote⟩, hbackslash⟩ := h
  have visible : ∀ d : Char, d.toNat < 0x20 → c ≠ d := by
    rintro d hd rfl
    omega
  rw [quoteChar, if_neg (visible _ (by decide)), if_neg (visible _ (by decide)),
    if_neg (visible _ (by decide)), if_neg (visible _ (by decide)),
    if_neg (not_or.mpr ⟨hquote, hbackslash⟩), if_pos (isShown_of_ascii low high)]

theorem quote_of_isPlain {s : String} (h : s.toList.all isPlain = true) :
    quote s = "\"" ++ (s ++ "\"") := by
  have hplain : s.toList.flatMap quoteChar = s.toList :=
    calc s.toList.flatMap quoteChar
      _ = s.toList.flatMap fun c => [c] :=
        List.flatMap_congr fun c hc => quoteChar_of_isPlain (List.all_eq_true.mp h c hc)
      _ = s.toList := List.flatMap_singleton' s.toList
  simp [quote, hplain]

/-! ## Faults in the settings -/

theorem Variable.name_inj {v w : Variable} (h : v.name = w.name) : v = w := by
  cases v <;> cases w <;> first | rfl | simp [Variable.name] at h

theorem Variable.quote_name (v : Variable) : quote v.name = "\"" ++ (v.name ++ "\"") := by
  cases v <;> exact quote_of_isPlain (by decide +kernel)

namespace StartupError

theorem report_missing_eq (v : Variable) :
    report (.settings (.missing v)) = "Error: " ++ ("Missing(" ++ (quote v.name ++ ")\n")) := by
  change "Error: " ++ ("Missing(" ++ quote v.name ++ ")") ++ "\n" = _
  simp only [String.append_assoc, String.reduceAppend]

theorem report_invalid_eq (v : Variable) (value : String) :
    report (.settings (.invalid v value)) =
      "Error: " ++ ("Invalid \x7b " ++ ("key: " ++ (quote v.name ++
        (", value: " ++ (quote value ++ " \x7d\n"))))) := by
  change "Error: " ++ braced "Invalid" ("key: " ++ quote v.name ++ ", value: " ++ quote value) ++
    "\n" = _
  simp only [braced, String.append_assoc, String.reduceAppend]

theorem report_missing (v : Variable) :
    report (.settings (.missing v)) = "Error: Missing(\"" ++ v.name ++ "\")\n" := by
  rw [report_missing_eq, v.quote_name]
  simp [← String.toList_inj]

theorem report_invalid (v : Variable) (value : String) :
    report (.settings (.invalid v value)) =
      "Error: Invalid \x7b key: \"" ++ v.name ++ "\", value: " ++ quote value ++ " \x7d\n" := by
  rw [report_invalid_eq, v.quote_name]
  simp [← String.toList_inj]

theorem report_migration (e : Database.MigrationError) :
    report (.database (.migration e)) = "Error: Migrate(" ++ migrationDiagnostic e ++ ")\n" := by
  change "Error: " ++ ("Migrate(" ++ migrationDiagnostic e ++ ")") ++ "\n" = _
  simp [← String.toList_inj]

/-- What is printed of a fault in the settings tells which it is. -/
theorem report_settings_inj {f g : Settings.Fault}
    (h : report (.settings f) = report (.settings g)) : f = g := by
  cases f with
  | missing v =>
    cases g with
    | missing w =>
      rw [report_missing_eq, report_missing_eq, String.append_right_inj,
        String.append_right_inj] at h
      rw [Variable.name_inj (quote_append_inj h).1]
    | invalid w value =>
      rw [report_missing, report_invalid] at h
      simp [← String.toList_inj] at h
  | invalid v value =>
    cases g with
    | missing w =>
      rw [report_missing, report_invalid] at h
      simp [← String.toList_inj] at h
    | invalid w value' =>
      rw [report_invalid_eq, report_invalid_eq, String.append_right_inj, String.append_right_inj,
        String.append_right_inj] at h
      obtain ⟨hname, hrest⟩ := quote_append_inj h
      obtain ⟨hvalue, -⟩ := quote_append_inj ((String.append_right_inj _).mp hrest)
      rw [Variable.name_inj hname, hvalue]

end StartupError

end Registrar
