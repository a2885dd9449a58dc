import Registrar.Form
import Registrar.Http.Target

/-! # Form data as it is written

* `Coded`: the ways to write bytes: an unreserved byte as itself, a space as a plus sign, and any
  byte as a percent sign with two hexadecimal digits.
* `Pieces`: the ways to write pairs, each as a piece with an equals sign.
* `pairs_joined`: pieces with ampersands in between are read as the pairs that they write.
* `write`, `writePairs`: one way for every text.
* `parse_target`: the pieces after a path and a question mark are the query of the target.
-/

namespace Registrar
open Text Http
open Text.Utf8 (Bytes)
set_option autoImplicit false

/-! ## Lists and ASCII text -/

theorem takeWhile_bne_append {α : Type} [BEq α] [LawfulBEq α] {c : α} {xs ys : List α}
    (h : ∀ x ∈ xs, x ≠ c) : (xs ++ c :: ys).takeWhile (· != c) = xs := by
  have hxs : ∀ x ∈ xs, (x != c) = true := fun x hx => bne_iff_ne.mpr (h x hx)
  rw [List.takeWhile_append_of_pos hxs, List.takeWhile_cons, if_neg (by simp), List.append_nil]

theorem dropWhile_bne_append {α : Type} [BEq α] [LawfulBEq α] {c : α} {xs ys : List α}
    (h : ∀ x ∈ xs, x ≠ c) : (xs ++ c :: ys).dropWhile (· != c) = c :: ys := by
  have hxs : ∀ x ∈ xs, (x != c) = true := fun x hx => bne_iff_ne.mpr (h x hx)
  rw [List.dropWhile_append_of_pos hxs, List.dropWhile_cons, if_neg (by simp)]

namespace Text.Utf8

/-- The text with these bytes as its characters. -/
def ofAscii (bs : Bytes) : String := String.ofList (bs.map fun b => Char.ofNat b.toNat)

theorem toNat_ofNat_byte (b : UInt8) : (Char.ofNat b.toNat).toNat = b.toNat := by
  have hb := b.toNat_lt
  have hvalid : b.toNat.isValidChar := .inl (by omega)
  rw [Char.ofNat, dif_pos hvalid]
  rfl

theorem encode_ofAscii {bs : Bytes} (h : ∀ b ∈ bs, b < 0x80) : encode (ofAscii bs) = bs := by
  have hchars : encode (ofAscii bs) =
      bs.flatMap fun b => String.utf8EncodeChar (Char.ofNat b.toNat) := by
    simp [encode, ofAscii, List.utf8Encode, List.flatMap_map]
  rw [hchars]
  clear hchars
  induction bs with
  | nil => rfl
  | cons b bs ih =>
    have hb : b < 0x80 := h b List.mem_cons_self
    have hbyte : String.utf8EncodeChar (Char.ofNat b.toNat) = [b] := by
      have hnat : (Char.ofNat b.toNat).val.toNat = b.toNat := toNat_ofNat_byte b
      have hle : b.toNat ≤ 127 := Nat.le_of_lt_succ (UInt8.lt_iff_toNat_lt.mp hb)
      rw [String.utf8EncodeChar]
      simp [hnat, hle]
    rw [List.flatMap_cons, hbyte, ih fun x hx => h x (List.mem_cons_of_mem _ hx)]
    rfl

theorem mem_ofAscii {bs : Bytes} {c : Char} (h : c ∈ (ofAscii bs).toList) :
    ∃ b ∈ bs, c.toNat = b.toNat := by
  rw [ofAscii, String.toList_ofList] at h
  obtain ⟨b, hb, rfl⟩ := List.mem_map.mp h
  exact ⟨b, hb, toNat_ofNat_byte b⟩

end Text.Utf8

/-! ## Queries in targets -/

theorem Http.Target.parse_withQuery {path query : String} (rooted : path.toList.head? = some '/')
    (hpath : ∀ c ∈ path.toList, c ≠ '?' ∧ c ≠ '#') (hquery : ∀ c ∈ query.toList, c ≠ '#') :
    Target.parse (path ++ "?" ++ query) = ⟨path, some query⟩ := by
  obtain ⟨rest, hrest⟩ : ∃ rest, path.toList = '/' :: rest := by
    cases hp : path.toList with
    | nil =>
      rw [hp] at rooted
      cases rooted
    | cons c rest =>
      rw [hp, List.head?_cons, Option.some.injEq] at rooted
      exact ⟨rest, by rw [rooted]⟩
  have htext : (path ++ "?" ++ query).toList = path.toList ++ '?' :: query.toList := by
    simp [String.toList_append]
  have hall : ∀ c ∈ path.toList ++ '?' :: query.toList, (c != '#') = true := by
    intro c hc
    rw [List.mem_append, List.mem_cons] at hc
    rw [bne_iff_ne]
    rcases hc with hc | rfl | hc
    · exact (hpath c hc).2
    · decide
    · exact hquery c hc
  have hwhole : (path.toList ++ '?' :: query.toList).takeWhile (· != '#') =
      path.toList ++ '?' :: query.toList := by
    simpa using @List.takeWhile_append_of_pos _ _ _ [] hall
  have hfront : (path.toList ++ '?' :: query.toList).takeWhile (· != '?') = path.toList :=
    takeWhile_bne_append fun c hc => (hpath c hc).1
  have hback : (path.toList ++ '?' :: query.toList).dropWhile (· != '?') = '?' :: query.toList :=
    dropWhile_bne_append fun c hc => (hpath c hc).1
  have hparse : Target.parse (path ++ "?" ++ query) =
      Target.ofPath (path.toList ++ '?' :: query.toList) := by
    rw [Target.parse, htext, hrest]
    rfl
  have hne : path.toList ≠ [] := by
    rw [hrest]
    exact List.cons_ne_nil _ _
  rw [hparse, Target.ofPath, hwhole]
  simp only [hfront, hback, if_neg hne, String.ofList_toList]

namespace Form

/-! ## Written bytes -/

/-- Letters, digits and five marks: no separator, no sign with a meaning of its own. -/
def isUnreserved (b : UInt8) : Bool :=
  (0x30 ≤ b && b ≤ 0x39) || (0x41 ≤ b && b ≤ 0x5A) || (0x61 ≤ b && b ≤ 0x7A) ||
    [0x2A, 0x2D, 0x2E, 0x5F, 0x7E].contains b

def upperHex (n : Nat) : UInt8 := UInt8.ofNat (if n < 10 then 0x30 + n else 0x37 + n)

def lowerHex (n : Nat) : UInt8 := UInt8.ofNat (if n < 10 then 0x30 + n else 0x57 + n)

/-- The digits for a number below sixteen. -/
def hexDigits (n : Nat) : Bytes := [upperHex n, lowerHex n]

/-- The first bytes are a way to write the second. -/
inductive Coded : Bytes → Bytes → Prop where
  | nil : Coded [] []
  | plain {b : UInt8} {w bs : Bytes} :
    isUnreserved b = true → Coded w bs → Coded (b :: w) (b :: bs)
  | space {w bs : Bytes} : Coded w bs → Coded (0x2B :: w) (0x20 :: bs)
  | escape {b x y : UInt8} {w bs : Bytes} :
    x ∈ hexDigits (b.toNat / 16) → y ∈ hexDigits (b.toNat % 16) → Coded w bs →
      Coded (0x25 :: x :: y :: w) (b :: bs)

theorem hexValue?_of_mem_hexDigits {n : Nat} {x : UInt8} (hn : n < 16) (h : x ∈ hexDigits n) :
    Percent.hexValue? x = some (UInt8.ofNat n) := by
  have all : ∀ n : Fin 16, ∀ x ∈ hexDigits n, Percent.hexValue? x = some (UInt8.ofNat n) := by
    decide +kernel
  exact all ⟨n, hn⟩ x h

theorem isUnreserved_of_mem_hexDigits {n : Nat} {x : UInt8} (hn : n < 16)
    (h : x ∈ hexDigits n) : isUnreserved x = true := by
  have all : ∀ n : Fin 16, ∀ x ∈ hexDigits n, isUnreserved x = true := by decide +kernel
  exact all ⟨n, hn⟩ x h

theorem ne_of_isUnreserved {b c : UInt8} (hb : isUnreserved b = true)
    (hc : isUnreserved c = false) : b ≠ c := by
  rintro rfl
  rw [hc] at hb
  cases hb

theorem unplus_of_isUnreserved {b : UInt8} (h : isUnreserved b = true) : unplus b = b :=
  if_neg (ne_of_isUnreserved h (by decide))

theorem ofNat_halves (b : UInt8) :
    16 * UInt8.ofNat (b.toNat / 16) + UInt8.ofNat (b.toNat % 16) = b := by
  apply UInt8.toNat_inj.mp
  have hsixteen : (16 : UInt8).toNat = 16 := rfl
  have hb := b.toNat_lt
  simp only [UInt8.toNat_add, UInt8.toNat_mul, UInt8.toNat_ofNat', hsixteen]
  omega

theorem decode_of_coded {w bs : Bytes} (h : Coded w bs) :
    Percent.decode (w.map unplus) = bs := by
  induction h with
  | nil => exact Percent.decode_nil
  | @plain b w bs hb _ ih =>
    have hne : b ≠ 0x25 := ne_of_isUnreserved hb (by decide)
    rw [List.map_cons, unplus_of_isUnreserved hb, Percent.decode_cons_of_ne hne, ih]
  | @space w bs _ ih =>
    -- The plus sign is a space before any percent sign is looked at.
    have hplus : unplus 0x2B = 0x20 := rfl
    rw [List.map_cons, hplus, Percent.decode_cons_of_ne (by decide), ih]
  | @escape b x y w bs hx hy _ ih =>
    have hhigh : b.toNat / 16 < 16 := Nat.div_lt_of_lt_mul b.toNat_lt
    have hlow : b.toNat % 16 < 16 := Nat.mod_lt _ (by decide)
    have hpercent : unplus 0x25 = 0x25 := rfl
    rw [List.map_cons, List.map_cons, List.map_cons, hpercent,
      unplus_of_isUnreserved (isUnreserved_of_mem_hexDigits hhigh hx),
      unplus_of_isUnreserved (isUnreserved_of_mem_hexDigits hlow hy),
      Percent.decode_escape (hexValue?_of_mem_hexDigits hhigh hx)
        (hexValue?_of_mem_hexDigits hlow hy), ih, ofNat_halves]

theorem component_of_coded {w : Bytes} {s : String} (h : Coded w (Utf8.encode s)) :
    component w = s := by
  rw [component, decode_of_coded h, Utf8.decodeLossy_encode]

theorem Coded.mem_cases {w bs : Bytes} (h : Coded w bs) :
    ∀ x ∈ w, isUnreserved x = true ∨ x = 0x2B ∨ x = 0x25 := by
  induction h with
  | nil => simp
  | plain hb _ ih =>
    intro x hx
    rcases List.mem_cons.mp hx with rfl | hx
    · exact .inl hb
    · exact ih x hx
  | space _ ih =>
    intro x hx
    rcases List.mem_cons.mp hx with rfl | hx
    · exact .inr (.inl rfl)
    · exact ih x hx
  | @escape b _ _ _ _ hx' hy' _ ih =>
    intro x hx
    simp only [List.mem_cons] at hx
    rcases hx with rfl | rfl | rfl | hx
    · exact .inr (.inr rfl)
    · exact .inl (isUnreserved_of_mem_hexDigits (Nat.div_lt_of_lt_mul b.toNat_lt) hx')
    · exact .inl (isUnreserved_of_mem_hexDigits (Nat.mod_lt _ (by decide)) hy')
    · exact ih x hx

theorem Coded.ne_of_mem {w bs : Bytes} (h : Coded w bs) {c : UInt8}
    (hc : isUnreserved c = false ∧ c ≠ 0x2B ∧ c ≠ 0x25) : ∀ x ∈ w, x ≠ c := by
  intro x hx
  rcases h.mem_cases x hx with hu | rfl | rfl
  · exact ne_of_isUnreserved hu hc.1
  · exact hc.2.1.symm
  · exact hc.2.2.symm

theorem Coded.lt_of_mem {w bs : Bytes} (h : Coded w bs) : ∀ x ∈ w, x < 0x80 := by
  intro x hx
  rcases h.mem_cases x hx with hu | rfl | rfl
  · refine Decidable.byContradiction fun hlarge => ?_
    simp only [isUnreserved, Bool.or_eq_true, Bool.and_eq_true, decide_eq_true_eq,
      List.contains_iff_mem, List.mem_cons, List.not_mem_nil, or_false, UInt8.le_iff_toNat_le,
      UInt8.lt_iff_toNat_lt, ← UInt8.toNat_inj, UInt8.reduceToNat] at hu hlarge
    omega
  · decide
  · decide

/-! ## Pieces -/

/-- The pieces write the pairs. -/
inductive Pieces : List (String × String) → List Bytes → Prop where
  | nil : Pieces [] []
  | cons {k v : String} {kvs : List (String × String)} {wk wv : Bytes} {ps : List Bytes} :
    Coded wk (Utf8.encode k) → Coded wv (Utf8.encode v) → Pieces kvs ps →
      Pieces ((k, v) :: kvs) ((wk ++ 0x3D :: wv) :: ps)

def joined (ps : List Bytes) : Bytes := [0x26].intercalate ps

theorem pair_of_coded {wk wv : Bytes} {k v : String} (hk : Coded wk (Utf8.encode k))
    (hv : Coded wv (Utf8.encode v)) : pair (wk ++ 0x3D :: wv) = (k, v) := by
  have hkey : ∀ x ∈ wk, x ≠ 0x3D := hk.ne_of_mem (by decide)
  rw [pair, takeWhile_bne_append hkey, dropWhile_bne_append hkey, List.drop_one, List.tail_cons,
    component_of_coded hk, component_of_coded hv]

theorem map_pair_of_pieces {kvs : List (String × String)} {ps : List Bytes} (h : Pieces kvs ps) :
    ps.map pair = kvs := by
  induction h with
  | nil => rfl
  | cons hk hv _ ih => rw [List.map_cons, pair_of_coded hk hv, ih]

theorem Pieces.forall_mem {kvs : List (String × String)} {ps : List Bytes} (h : Pieces kvs ps)
    {P : UInt8 → Prop} (hsep : P 0x3D) (hcoded : ∀ w bs, Coded w bs → ∀ x ∈ w, P x) :
    ∀ p ∈ ps, ∀ x ∈ p, P x := by
  induction h with
  | nil => simp
  | @cons k v kvs wk wv ps hk hv _ ih =>
    intro p hp
    rcases List.mem_cons.mp hp with rfl | hp
    · intro x hx
      simp only [List.mem_append, List.mem_cons] at hx
      rcases hx with hx | rfl | hx
      · exact hcoded _ _ hk x hx
      · exact hsep
      · exact hcoded _ _ hv x hx
    · exact ih p hp

theorem Pieces.isEmpty_of_mem {kvs : List (String × String)} {ps : List Bytes}
    (h : Pieces kvs ps) : ∀ p ∈ ps, p.isEmpty = false := by
  induction h with
  | nil => simp
  | cons _ _ _ ih =>
    intro p hp
    rcases List.mem_cons.mp hp with rfl | hp
    · simp
    · exact ih p hp

theorem forall_mem_joined {ps : List Bytes} {P : UInt8 → Prop} (hsep : P 0x26)
    (h : ∀ p ∈ ps, ∀ x ∈ p, P x) : ∀ x ∈ joined ps, P x := by
  induction ps with
  | nil => simp [joined]
  | cons p ps ih =>
    have hrest := ih fun q hq => h q (List.mem_cons_of_mem _ hq)
    have hfirst := h p List.mem_cons_self
    by_cases hne : ps = []
    · subst hne
      rwa [joined, List.intercalate_singleton]
    · intro x hx
      rw [joined, List.intercalate_cons_of_ne_nil hne, List.append_assoc] at hx
      rcases List.mem_append.mp hx with hx | hx
      · exact hfirst x hx
      · rcases List.mem_cons.mp hx with rfl | hx
        · exact hsep
        · exact hrest x hx

theorem pairs_joined {kvs : List (String × String)} {ps : List Bytes} (h : Pieces kvs ps) :
    pairs (joined ps) = kvs := by
  have hpieces : ((joined ps).splitOn 0x26).filter (fun p => !p.isEmpty) = ps := by
    -- Without any piece there is still one empty part, and it is skipped.
    by_cases hne : ps = []
    · subst hne
      rfl
    · have hsep : ∀ p ∈ ps, (0x26 : UInt8) ∉ p := by
        intro p hp hmem
        exact h.forall_mem (by decide) (fun _ _ hw => hw.ne_of_mem (by decide)) p hp 0x26 hmem rfl
      rw [joined, List.splitOn_intercalate 0x26 hsep hne, List.filter_eq_self]
      intro p hp
      rw [h.isEmpty_of_mem p hp]
      rfl
  rw [pairs, hpieces, map_pair_of_pieces h]

/-! ## A writer -/

/-- One way to write bytes: nothing is escaped without need, and in upper case. -/
def write (bs : Bytes) : Bytes :=
  bs.flatMap fun b =>
    if isUnreserved b then [b]
    else if b = 0x20 then [0x2B]
    else [0x25, upperHex (b.toNat / 16), upperHex (b.toNat % 16)]

theorem coded_write (bs : Bytes) : Coded (write bs) bs := by
  induction bs with
  | nil => exact .nil
  | cons b bs ih =>
    have hcons : write (b :: bs) = write [b] ++ write bs := by simp [write]
    rw [hcons]
    by_cases hb : isUnreserved b = true
    · simpa [write, hb] using Coded.plain hb ih
    · by_cases hspace : b = 0x20
      · subst hspace
        exact .space ih
      · simpa [write, hb, hspace] using
          Coded.escape List.mem_cons_self List.mem_cons_self ih

def writePairs (kvs : List (String × String)) : List Bytes :=
  kvs.map fun p => write (Utf8.encode p.1) ++ 0x3D :: write (Utf8.encode p.2)

theorem pieces_writePairs (kvs : List (String × String)) : Pieces kvs (writePairs kvs) := by
  induction kvs with
  | nil => exact .nil
  | cons p kvs ih => exact .cons (coded_write _) (coded_write _) ih

example : joined (writePairs [("name", "a&b c"), ("role", "")]) =
    Utf8.encode "name=a%26b+c&role=" := by decide +kernel

/-! ## In a target -/

/-- Pieces after a path are the query, and its bytes are theirs. -/
theorem parse_target (path : String) {kvs : List (String × String)} {ps : List Bytes}
    (h : Pieces kvs ps) (rooted : path.toList.head? = some '/')
    (hpath : ∀ c ∈ path.toList, c ≠ '?' ∧ c ≠ '#') :
    Target.parse (path ++ "?" ++ Utf8.ofAscii (joined ps)) =
        ⟨path, some (Utf8.ofAscii (joined ps))⟩ ∧
      Utf8.encode (Utf8.ofAscii (joined ps)) = joined ps := by
  have hmem : ∀ x ∈ joined ps, x < 0x80 ∧ x ≠ 0x23 := by
    refine forall_mem_joined (by decide) (h.forall_mem (by decide) ?_)
    intro w bs hw x hx
    exact ⟨hw.lt_of_mem x hx, hw.ne_of_mem (by decide) x hx⟩
  constructor
  · refine Target.parse_withQuery rooted hpath ?_
    rintro c hc rfl
    obtain ⟨b, hb, hnat⟩ := Utf8.mem_ofAscii hc
    exact (hmem b hb).2 (UInt8.toNat_inj.mp hnat.symm)
  · exact Utf8.encode_ofAscii fun x hx => (hmem x hx).1

end Form

end Registrar
