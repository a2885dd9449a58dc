import Registrar.Text.Utf8

/-! # Base64 without padding

The standard alphabet, no padding characters, and only canonical texts: the bits that a last
incomplete group leaves over have to be zero, so every byte sequence has one text.
-/

namespace Registrar.Text.Base64
set_option autoImplicit false

/-! ## Sextets -/

/-- The character of a number below 64. -/
def symbol (n : Nat) : Char :=
  if n < 26 then Char.ofNat (65 + n)
  else if n < 52 then Char.ofNat (71 + n)
  else if n < 62 then Char.ofNat (n - 4)
  else if n = 62 then '+'
  else '/'

/-- The number of a character of the alphabet. -/
def sextet? (c : Char) : Option Nat :=
  if 'A' ≤ c ∧ c ≤ 'Z' then some (c.toNat - 65)
  else if 'a' ≤ c ∧ c ≤ 'z' then some (c.toNat - 71)
  else if '0' ≤ c ∧ c ≤ '9' then some (c.toNat + 4)
  else if c = '+' then some 62
  else if c = '/' then some 63
  else none

/-! ## Groups of three bytes -/

def encode : List UInt8 → List Char
  | a :: b :: c :: r =>
    let n := 65536 * a.toNat + 256 * b.toNat + c.toNat
    symbol (n / 262144) :: symbol (n / 4096 % 64) :: symbol (n / 64 % 64) :: symbol (n % 64) ::
      encode r
  | [a, b] =>
    let n := 1024 * a.toNat + 4 * b.toNat
    [symbol (n / 4096), symbol (n / 64 % 64), symbol (n % 64)]
  | [a] =>
    let n := 16 * a.toNat
    [symbol (n / 64), symbol (n % 64)]
  | [] => []

def ofSextets : List Nat → Option (List UInt8)
  | a :: b :: c :: d :: r =>
    let n := 262144 * a + 4096 * b + 64 * c + d
    (ofSextets r).map fun bs =>
      UInt8.ofNat (n / 65536) :: UInt8.ofNat (n / 256 % 256) :: UInt8.ofNat (n % 256) :: bs
  | [a, b, c] =>
    let n := 4096 * a + 64 * b + c
    if n % 4 = 0 then some [UInt8.ofNat (n / 1024), UInt8.ofNat (n / 4 % 256)] else none
  | [a, b] =>
    let n := 64 * a + b
    if n % 16 = 0 then some [UInt8.ofNat (n / 16)] else none
  | [_] => none
  | [] => some []

/-- The bytes that a canonical text stands for. -/
def decode? (cs : List Char) : Option (List UInt8) := (cs.mapM sextet?).bind ofSextets

/-! ## Reading what was written -/

theorem sextet?_symbol {n : Nat} (h : n < 64) : sextet? (symbol n) = some n := by
  have all : ∀ m : Fin 64, sextet? (symbol m) = some m.val := by decide
  exact all ⟨n, h⟩

private theorem byte_of_quotient {x : UInt8} {n : Nat} (h : n = x.toNat) : UInt8.ofNat n = x := by
  subst h; simp

theorem decode?_encode (bs : List UInt8) : decode? (encode bs) = some bs := by
  fun_induction encode bs with
  | case1 a b c r n ih =>
    have ha := a.toNat_lt
    have hb := b.toNat_lt
    have hc := c.toNat_lt
    obtain ⟨s, hs, hr⟩ : ∃ s, (encode r).mapM sextet? = some s ∧ ofSextets s = some r := by
      simpa [decode?, Option.bind_eq_some_iff] using ih
    have digit : ∀ m, sextet? (symbol (m % 64)) = some (m % 64) := fun m =>
      sextet?_symbol (Nat.mod_lt _ (by decide))
    have first : sextet? (symbol (n / 262144)) = some (n / 262144) :=
      sextet?_symbol (by simp only [n]; omega)
    have whole :
        262144 * (n / 262144) + 4096 * (n / 4096 % 64) + 64 * (n / 64 % 64) + n % 64 = n := by
      omega
    simp only [decode?, List.mapM_cons, first, digit, hs, Option.bind_eq_bind, Option.bind_some,
      Option.pure_def, ofSextets, whole, hr, Option.map_some]
    congr 1
    rw [byte_of_quotient (x := a) (by simp only [n]; omega),
      byte_of_quotient (x := b) (by simp only [n]; omega),
      byte_of_quotient (x := c) (by simp only [n]; omega)]
  | case2 a b n =>
    have ha := a.toNat_lt
    have hb := b.toNat_lt
    have digit : ∀ m, sextet? (symbol (m % 64)) = some (m % 64) := fun m =>
      sextet?_symbol (Nat.mod_lt _ (by decide))
    have first : sextet? (symbol (n / 4096)) = some (n / 4096) :=
      sextet?_symbol (by simp only [n]; omega)
    have whole : 4096 * (n / 4096) + 64 * (n / 64 % 64) + n % 64 = n := by omega
    have last : n % 4 = 0 := by simp only [n]; omega
    simp only [decode?, List.mapM_cons, List.mapM_nil, first, digit, Option.bind_eq_bind,
      Option.bind_some, Option.pure_def, ofSextets, whole, last, if_true]
    rw [byte_of_quotient (x := a) (by simp only [n]; omega),
      byte_of_quotient (x := b) (by simp only [n]; omega)]
  | case3 a n =>
    have ha := a.toNat_lt
    have digit : ∀ m, sextet? (symbol (m % 64)) = some (m % 64) := fun m =>
      sextet?_symbol (Nat.mod_lt _ (by decide))
    have first : sextet? (symbol (n / 64)) = some (n / 64) :=
      sextet?_symbol (by simp only [n]; omega)
    have whole : 64 * (n / 64) + n % 64 = n := by omega
    have last : n % 16 = 0 := by simp only [n]; omega
    simp only [decode?, List.mapM_cons, List.mapM_nil, first, digit, Option.bind_eq_bind,
      Option.bind_some, Option.pure_def, ofSextets, whole, last, if_true]
    rw [byte_of_quotient (x := a) (by simp only [n]; omega)]
  | case4 => rfl

/-! ## Only what was written is read -/

theorem symbol_of_sextet? {c : Char} {n : Nat} (h : sextet? c = some n) :
    n < 64 ∧ symbol n = c := by
  have number (m : Nat) (hm : m = c.toNat) : Char.ofNat m = c := by rw [hm, Char.ofNat_toNat]
  unfold sextet? at h
  split at h
  · rename_i hrange
    have hc : 65 ≤ c.toNat ∧ c.toNat ≤ 90 := hrange
    cases h
    refine ⟨by omega, ?_⟩
    rw [symbol, if_pos (by omega)]
    exact number _ (by omega)
  split at h
  · rename_i hrange
    have hc : 97 ≤ c.toNat ∧ c.toNat ≤ 122 := hrange
    cases h
    refine ⟨by omega, ?_⟩
    rw [symbol, if_neg (by omega), if_pos (by omega)]
    exact number _ (by omega)
  split at h
  · rename_i hrange
    have hc : 48 ≤ c.toNat ∧ c.toNat ≤ 57 := hrange
    cases h
    refine ⟨by omega, ?_⟩
    rw [symbol, if_neg (by omega), if_neg (by omega), if_pos (by omega)]
    exact number _ (by omega)
  split at h
  · rename_i hplus
    cases h
    exact ⟨by decide, hplus.symm⟩
  split at h
  · rename_i hslash
    cases h
    exact ⟨by decide, hslash.symm⟩
  · cases h

theorem encode_of_ofSextets {ns : List Nat} {bs : List UInt8} (small : ∀ n ∈ ns, n < 64)
    (h : ofSextets ns = some bs) : encode bs = ns.map symbol := by
  fun_induction ofSextets ns generalizing bs with
  | case1 a b c d r n =>
    rename_i ih
    simp only [List.mem_cons, forall_eq_or_imp] at small
    obtain ⟨ha, hb, hc, hd, hr⟩ := small
    obtain ⟨rest, hrest, rfl⟩ := Option.map_eq_some_iff.mp h
    have hn : n = 262144 * a + 4096 * b + 64 * c + d := rfl
    have whole :
        65536 * (n / 65536 % 2 ^ 8) + 256 * (n / 256 % 256 % 2 ^ 8) + n % 256 % 2 ^ 8 = n := by
      omega
    have first : n / 262144 = a := by omega
    have second : n / 4096 % 64 = b := by omega
    have third : n / 64 % 64 = c := by omega
    have fourth : n % 64 = d := by omega
    simp only [encode, UInt8.toNat_ofNat', whole, first, second, third, fourth, ih hr hrest,
      List.map_cons]
  | case2 a b c n =>
    rename_i even
    simp only [List.mem_cons, forall_eq_or_imp, List.not_mem_nil, false_implies, implies_true,
      and_true] at small
    obtain ⟨ha, hb, hc⟩ := small
    cases h
    have hn : n = 4096 * a + 64 * b + c := rfl
    have whole : 1024 * (n / 1024 % 2 ^ 8) + 4 * (n / 4 % 256 % 2 ^ 8) = n := by omega
    have first : n / 4096 = a := by omega
    have second : n / 64 % 64 = b := by omega
    have third : n % 64 = c := by omega
    simp only [encode, UInt8.toNat_ofNat', whole, first, second, third, List.map_cons, List.map_nil]
  | case4 a b n =>
    rename_i even
    simp only [List.mem_cons, forall_eq_or_imp, List.not_mem_nil, false_implies, implies_true,
      and_true] at small
    obtain ⟨ha, hb⟩ := small
    cases h
    have hn : n = 64 * a + b := rfl
    have whole : 16 * (n / 16 % 2 ^ 8) = n := by omega
    have first : n / 64 = a := by omega
    have second : n % 64 = b := by omega
    simp only [encode, UInt8.toNat_ofNat', whole, first, second, List.map_cons, List.map_nil]
  | case7 =>
    cases h
    rfl
  | case3 | case5 | case6 => cases h

theorem sextets_of_mapM {cs : List Char} {ns : List Nat} (h : cs.mapM sextet? = some ns) :
    (∀ n ∈ ns, n < 64) ∧ ns.map symbol = cs := by
  induction cs generalizing ns with
  | nil =>
    cases h
    exact ⟨by simp, rfl⟩
  | cons c cs ih =>
    simp only [List.mapM_cons, Option.bind_eq_bind, Option.bind_eq_some_iff, Option.pure_def,
      Option.some.injEq] at h
    obtain ⟨n, hn, rest, hrest, rfl⟩ := h
    obtain ⟨hsmall, hsymbol⟩ := symbol_of_sextet? hn
    obtain ⟨hall, hmap⟩ := ih hrest
    refine ⟨?_, by rw [List.map_cons, hsymbol, hmap]⟩
    simp only [List.mem_cons, forall_eq_or_imp]
    exact ⟨hsmall, hall⟩

/-- Every text that is read is the one that is written for its bytes. -/
theorem encode_of_decode? {cs : List Char} {bs : List UInt8} (h : decode? cs = some bs) :
    encode bs = cs := by
  obtain ⟨ns, hns, hbs⟩ := Option.bind_eq_some_iff.mp h
  obtain ⟨hsmall, hmap⟩ := sextets_of_mapM hns
  rw [encode_of_ofSextets hsmall hbs, hmap]

end Registrar.Text.Base64
