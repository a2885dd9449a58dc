import Registrar.Json.Token

/-! # The tokens of a JSON text, as a grammar

What a token looks like, said by what its parts are and not by how it is read.

* `IsNumber`: a sign, a whole part, a fraction and an exponent.
* `Content`: what stands between the quotes of a string. Bytes from U+0020 on stand for
  themselves, whether they are UTF-8 or not.
* `Lexeme`: the bytes of one token.
* `isNumber_iff`: the number parts of the scanning machine accept the numbers.
-/

namespace Registrar.Json
open Text
open Text.Utf8 (Bytes)
set_option autoImplicit false

/-! ## The grammar of tokens -/

/-- Space, tab, line feed and carriage return. -/
def blanks : List UInt8 := [0x20, 0x09, 0x0A, 0x0D]

def Blank (w : Bytes) : Prop := ∀ b ∈ w, b ∈ blanks

def Digits (ds : Bytes) : Prop := ∀ d ∈ ds, isDigitByte d = true

/-- The part before the point: zero, or digits that do not begin with zero. -/
def IsWhole (n : Bytes) : Prop :=
  n = [0x30] ∨ ∃ d ds, n = d :: ds ∧ d ≠ 0x30 ∧ isDigitByte d = true ∧ Digits ds

def IsFraction (f : Bytes) : Prop :=
  f = [] ∨ ∃ d ds, f = 0x2E :: d :: ds ∧ isDigitByte d = true ∧ Digits ds

/-- Digits, with or without a sign. -/
def IsPower (n : Bytes) : Prop :=
  ∃ d ds, isDigitByte d = true ∧ Digits ds ∧
    (n = d :: ds ∨ n = 0x2B :: d :: ds ∨ n = 0x2D :: d :: ds)

def IsExponent (x : Bytes) : Prop := x = [] ∨ ∃ e n, x = e :: n ∧ e ∈ [0x65, 0x45] ∧ IsPower n

def IsUnsigned (text : Bytes) : Prop :=
  ∃ n f x, text = n ++ (f ++ x) ∧ IsWhole n ∧ IsFraction f ∧ IsExponent x

def IsNumber (text : Bytes) : Prop :=
  IsUnsigned text ∨ ∃ unsigned, text = 0x2D :: unsigned ∧ IsUnsigned unsigned

/-- The escapes of one letter, with the bytes that they stand for. -/
def letterEscapes : List (UInt8 × UInt8) :=
  [(0x22, 0x22), (0x5C, 0x5C), (0x2F, 0x2F), (0x62, 0x08), (0x66, 0x0C), (0x6E, 0x0A),
   (0x72, 0x0D), (0x74, 0x09)]

/-- The number that hexadecimal digits give. -/
def hexValue? (hs : Bytes) : Option UInt16 :=
  hs.foldlM (fun v h => (hexDigit? h).map fun d => v * 16 + d) 0

/-- What is written between two quotes, and its bytes. -/
inductive Content : Written → Bytes → Prop where
  | nil : Content [] []
  | byte {t : Written} {bs : Bytes} {b : UInt8} (quote : b ≠ 0x22) (backslash : b ≠ 0x5C)
      (large : ¬b < 0x20) (rest : Content t bs) : Content (.byte b :: t) (b :: bs)
  | escape {t : Written} {bs : Bytes} {e c : UInt8} (letter : (e, c) ∈ letterEscapes)
      (rest : Content t bs) : Content (.byte c :: t) (0x5C :: e :: bs)
  | unit {t : Written} {bs hs : Bytes} {u : UInt16} (four : hs.length = 4)
      (value : hexValue? hs = some u) (rest : Content t bs) :
      Content (.unit u :: t) (0x5C :: 0x75 :: (hs ++ bs))

inductive Lexeme : Token → Bytes → Prop where
  | beginObject : Lexeme .beginObject [0x7B]
  | endObject : Lexeme .endObject [0x7D]
  | beginArray : Lexeme .beginArray [0x5B]
  | endArray : Lexeme .endArray [0x5D]
  | colon : Lexeme .colon [0x3A]
  | comma : Lexeme .comma [0x2C]
  | null : Lexeme (.atom .null) [0x6E, 0x75, 0x6C, 0x6C]
  | yes : Lexeme (.atom (.boolean true)) [0x74, 0x72, 0x75, 0x65]
  | no : Lexeme (.atom (.boolean false)) [0x66, 0x61, 0x6C, 0x73, 0x65]
  | number {text : Bytes} (number : IsNumber text) : Lexeme (.atom (.number text)) text
  | text {t : Written} {bs : Bytes} (content : Content t bs) :
      Lexeme (.text t) (0x22 :: (bs ++ [0x22]))

/-! ## Small facts -/

theorem blank_nil : Blank [] := by
  intro b hb
  cases hb

theorem blank_append_iff (a b : Bytes) : Blank (a ++ b) ↔ Blank a ∧ Blank b := by
  simp [Blank, or_imp, forall_and]

theorem isSpace_iff (b : UInt8) : isSpace b = true ↔ b ∈ blanks := by
  simp [isSpace, blanks, or_assoc]

theorem blank_append_singleton {w : Bytes} {b : UInt8} (h : Blank w) (hb : isSpace b = true) :
    Blank (w ++ [b]) := by
  rw [blank_append_iff]
  refine ⟨h, ?_⟩
  intro c hc
  rw [List.mem_singleton.mp hc]
  exact (isSpace_iff b).mp hb

theorem digits_nil : Digits [] := by
  intro d hd
  cases hd

theorem digits_cons_iff (d : UInt8) (ds : Bytes) :
    Digits (d :: ds) ↔ isDigitByte d = true ∧ Digits ds := by
  simp [Digits]

theorem escaped?_eq_some_iff (e c : UInt8) : escaped? e = some c ↔ (e, c) ∈ letterEscapes := by
  simp only [escaped?, letterEscapes, List.mem_cons, List.not_mem_nil, or_false, Prod.mk.injEq,
    Bool.or_eq_true, beq_iff_eq]
  constructor
  · intro h
    split at h
    · rename_i he
      rcases he with (rfl | rfl) | rfl <;> cases h <;> simp
    · repeat' split at h
      all_goals cases h
      all_goals simp_all
  · rintro (⟨rfl, rfl⟩ | ⟨rfl, rfl⟩ | ⟨rfl, rfl⟩ | ⟨rfl, rfl⟩ | ⟨rfl, rfl⟩ | ⟨rfl, rfl⟩ |
      ⟨rfl, rfl⟩ | ⟨rfl, rfl⟩) <;> rfl

theorem Content.append {t u : Written} {bs cs : Bytes} (h : Content t bs) (h' : Content u cs) :
    Content (t ++ u) (bs ++ cs) := by
  induction h with
  | nil => exact h'
  | byte quote backslash large _ ih => exact .byte quote backslash large ih
  | escape letter _ ih => exact .escape letter ih
  | unit four value _ ih =>
    simp only [List.cons_append, List.append_assoc]
    exact .unit four value ih

/-! ## Numbers -/

namespace NumberPart

/-- From this part on the bytes complete a number. -/
def Accepts (p : NumberPart) (bs : Bytes) : Prop :=
  ∃ q, bs.foldlM next p = some q ∧ q.complete = true

theorem accepts_nil_iff (p : NumberPart) : p.Accepts [] ↔ p.complete = true := by
  simp [Accepts]

theorem accepts_cons_iff (p : NumberPart) (b : UInt8) (bs : Bytes) :
    p.Accepts (b :: bs) ↔ ∃ q, p.next b = some q ∧ q.Accepts bs := by
  simp only [Accepts, List.foldlM_cons, Option.bind_eq_bind, Option.bind_eq_some_iff]
  constructor
  · rintro ⟨r, ⟨q, hq, hr⟩, hc⟩
    exact ⟨q, hq, r, hr, hc⟩
  · rintro ⟨q, hq, r, hr, hc⟩
    exact ⟨r, ⟨q, hq, hr⟩, hc⟩

/-! ### The exponent -/

theorem accepts_exponentDigits_iff (bs : Bytes) : exponentDigits.Accepts bs ↔ Digits bs := by
  induction bs with
  | nil => simp [accepts_nil_iff, complete, digits_nil]
  | cons b bs ih =>
    rw [accepts_cons_iff, digits_cons_iff, next]
    by_cases hb : isDigitByte b = true <;> simp [hb, ih]

theorem accepts_exponentSign_iff (bs : Bytes) :
    exponentSign.Accepts bs ↔ ∃ d ds, bs = d :: ds ∧ isDigitByte d = true ∧ Digits ds := by
  cases bs with
  | nil => simp [accepts_nil_iff, complete]
  | cons b bs =>
    rw [accepts_cons_iff, next]
    by_cases hb : isDigitByte b = true <;> simp [hb, accepts_exponentDigits_iff, and_assoc]

theorem isPower_cons_iff (b : UInt8) (bs : Bytes) :
    IsPower (b :: bs) ↔
      isDigitByte b = true ∧ Digits bs ∨ b ∈ [0x2B, 0x2D] ∧ exponentSign.Accepts bs := by
  rw [accepts_exponentSign_iff]
  constructor
  · rintro ⟨d, ds, hd, hds, h | h | h⟩
    · cases h
      exact .inl ⟨hd, hds⟩
    · cases h
      exact .inr ⟨by simp, d, ds, rfl, hd, hds⟩
    · cases h
      exact .inr ⟨by simp, d, ds, rfl, hd, hds⟩
  · rintro (⟨hd, hds⟩ | ⟨hb, d, ds, rfl, hd, hds⟩)
    · exact ⟨b, bs, hd, hds, .inl rfl⟩
    · simp only [List.mem_cons, List.not_mem_nil, or_false] at hb
      rcases hb with rfl | rfl
      · exact ⟨d, ds, hd, hds, .inr (.inl rfl)⟩
      · exact ⟨d, ds, hd, hds, .inr (.inr rfl)⟩

theorem accepts_exponent_iff (bs : Bytes) : exponent.Accepts bs ↔ IsPower bs := by
  have unsigned : isDigitByte 0x2B = false ∧ isDigitByte 0x2D = false := by decide
  cases bs with
  | nil => simp [accepts_nil_iff, complete, IsPower]
  | cons b bs =>
    rw [accepts_cons_iff, isPower_cons_iff, next]
    by_cases hb : isDigitByte b = true
    · have hno : b ≠ 0x2B ∧ b ≠ 0x2D := by
        constructor <;> rintro rfl <;> simp [unsigned] at hb
      simp [hb, hno, accepts_exponentDigits_iff]
    · by_cases hsign : b = 0x2B ∨ b = 0x2D <;> simp [hb, hsign]

theorem isExponent_cons_iff (b : UInt8) (bs : Bytes) :
    IsExponent (b :: bs) ↔ b ∈ [0x65, 0x45] ∧ exponent.Accepts bs := by
  simp [IsExponent, accepts_exponent_iff, and_assoc]

/-! ### The fraction -/

/-- Digits, and then something of another kind. -/
def DigitsThen (T : Bytes → Prop) (bs : Bytes) : Prop :=
  ∃ ds x, bs = ds ++ x ∧ Digits ds ∧ T x

theorem digitsThen_of_digit {T : Bytes → Prop} (noDigit : ∀ d x, T (d :: x) → isDigitByte d = false)
    {b : UInt8} (hb : isDigitByte b = true) (bs : Bytes) :
    DigitsThen T (b :: bs) ↔ DigitsThen T bs := by
  constructor
  · rintro ⟨ds, x, h, hds, hx⟩
    cases ds with
    | nil =>
      obtain rfl : b :: bs = x := h
      rw [noDigit b bs hx] at hb
      cases hb
    | cons d ds =>
      obtain ⟨rfl, rfl⟩ := List.cons_eq_cons.mp h
      exact ⟨ds, x, rfl, ((digits_cons_iff b ds).mp hds).2, hx⟩
  · rintro ⟨ds, x, rfl, hds, hx⟩
    exact ⟨b :: ds, x, rfl, (digits_cons_iff b ds).mpr ⟨hb, hds⟩, hx⟩

theorem digitsThen_of_not_digit {T : Bytes → Prop} {b : UInt8} (hb : ¬isDigitByte b = true)
    (bs : Bytes) : DigitsThen T (b :: bs) ↔ T (b :: bs) := by
  constructor
  · rintro ⟨ds, x, h, hds, hx⟩
    cases ds with
    | nil =>
      obtain rfl : b :: bs = x := h
      exact hx
    | cons d ds =>
      obtain ⟨rfl, rfl⟩ := List.cons_eq_cons.mp h
      exact absurd ((digits_cons_iff b ds).mp hds).1 hb
  · intro h
    exact ⟨[], b :: bs, rfl, digits_nil, h⟩

theorem isExponent_noDigit (d : UInt8) (x : Bytes) (h : IsExponent (d :: x)) :
    isDigitByte d = false := by
  have hd := ((isExponent_cons_iff d x).mp h).1
  simp only [List.mem_cons, List.not_mem_nil, or_false] at hd
  rcases hd with rfl | rfl <;> rfl

theorem accepts_fraction_iff (bs : Bytes) : fraction.Accepts bs ↔ DigitsThen IsExponent bs := by
  induction bs with
  | nil =>
    refine iff_of_true ((accepts_nil_iff _).mpr rfl) ⟨[], [], rfl, digits_nil, .inl rfl⟩
  | cons b bs ih =>
    rw [accepts_cons_iff, next]
    by_cases hb : isDigitByte b = true
    · rw [digitsThen_of_digit isExponent_noDigit hb, ← ih]
      simp [hb]
    · rw [digitsThen_of_not_digit hb, isExponent_cons_iff]
      by_cases he : b = 0x65 ∨ b = 0x45 <;> simp [hb, he]

theorem accepts_point_iff (bs : Bytes) :
    point.Accepts bs ↔ ∃ d ds, bs = d :: ds ∧ isDigitByte d = true ∧ DigitsThen IsExponent ds := by
  cases bs with
  | nil => simp [accepts_nil_iff, complete]
  | cons b bs =>
    rw [accepts_cons_iff, next]
    by_cases hb : isDigitByte b = true <;> simp [hb, accepts_fraction_iff, and_assoc]

/-! ### The whole number -/

/-- What may follow the whole part. -/
def IsTail (bs : Bytes) : Prop := ∃ f x, bs = f ++ x ∧ IsFraction f ∧ IsExponent x

theorem isTail_cons_iff (b : UInt8) (bs : Bytes) :
    IsTail (b :: bs) ↔
      b = 0x2E ∧ point.Accepts bs ∨ b ∈ [0x65, 0x45] ∧ exponent.Accepts bs := by
  rw [← isExponent_cons_iff, accepts_point_iff]
  constructor
  · rintro ⟨f, x, h, rfl | ⟨d, ds, rfl, hd, hds⟩, hx⟩
    · obtain rfl : b :: bs = x := h
      exact .inr hx
    · obtain ⟨rfl, rfl⟩ := List.cons_eq_cons.mp h
      exact .inl ⟨rfl, d, ds ++ x, rfl, hd, ds, x, rfl, hds, hx⟩
  · rintro (⟨rfl, d, _, rfl, hd, ds, x, rfl, hds, hx⟩ | h)
    · exact ⟨0x2E :: d :: ds, x, rfl, .inr ⟨d, ds, rfl, hd, hds⟩, hx⟩
    · exact ⟨[], b :: bs, rfl, .inl rfl, h⟩

theorem isTail_noDigit (d : UInt8) (x : Bytes) (h : IsTail (d :: x)) : isDigitByte d = false := by
  rcases (isTail_cons_iff d x).mp h with ⟨rfl, -⟩ | ⟨hd, -⟩
  · rfl
  · simp only [List.mem_cons, List.not_mem_nil, or_false] at hd
    rcases hd with rfl | rfl <;> rfl

theorem isTail_nil : IsTail [] := ⟨[], [], rfl, .inl rfl, .inl rfl⟩

theorem accepts_zero_iff (bs : Bytes) : zero.Accepts bs ↔ IsTail bs := by
  cases bs with
  | nil => exact iff_of_true ((accepts_nil_iff _).mpr rfl) isTail_nil
  | cons b bs =>
    rw [accepts_cons_iff, isTail_cons_iff, next]
    by_cases hpoint : b = 0x2E
    · subst hpoint
      simp
    · by_cases he : b = 0x65 ∨ b = 0x45 <;> simp [hpoint, he]

theorem accepts_integer_iff (bs : Bytes) : integer.Accepts bs ↔ DigitsThen IsTail bs := by
  induction bs with
  | nil => exact iff_of_true ((accepts_nil_iff _).mpr rfl) ⟨[], [], rfl, digits_nil, isTail_nil⟩
  | cons b bs ih =>
    rw [accepts_cons_iff, next]
    by_cases hb : isDigitByte b = true
    · rw [digitsThen_of_digit isTail_noDigit hb, ← ih]
      simp [hb]
    · rw [digitsThen_of_not_digit hb, isTail_cons_iff]
      by_cases hpoint : b = 0x2E
      · subst hpoint
        simp [hb]
      · by_cases he : b = 0x65 ∨ b = 0x45 <;> simp [hb, hpoint, he]

theorem isUnsigned_iff (bs : Bytes) : IsUnsigned bs ↔ ∃ n y, bs = n ++ y ∧ IsWhole n ∧ IsTail y := by
  constructor
  · rintro ⟨n, f, x, rfl, hn, hf, hx⟩
    exact ⟨n, f ++ x, rfl, hn, f, x, rfl, hf, hx⟩
  · rintro ⟨n, _, rfl, hn, f, x, rfl, hf, hx⟩
    exact ⟨n, f, x, rfl, hn, hf, hx⟩

theorem isUnsigned_cons_iff (b : UInt8) (bs : Bytes) :
    IsUnsigned (b :: bs) ↔
      b = 0x30 ∧ zero.Accepts bs ∨ b ≠ 0x30 ∧ isDigitByte b = true ∧ integer.Accepts bs := by
  rw [isUnsigned_iff, accepts_zero_iff, accepts_integer_iff]
  constructor
  · rintro ⟨n, y, h, rfl | ⟨d, ds, rfl, hzero, hd, hds⟩, hy⟩
    · obtain ⟨rfl, rfl⟩ := List.cons_eq_cons.mp h
      exact .inl ⟨rfl, hy⟩
    · obtain ⟨rfl, rfl⟩ := List.cons_eq_cons.mp h
      exact .inr ⟨hzero, hd, ds, y, rfl, hds, hy⟩
  · rintro (⟨rfl, hy⟩ | ⟨hzero, hb, ds, y, rfl, hds, hy⟩)
    · exact ⟨[0x30], bs, rfl, .inl rfl, hy⟩
    · exact ⟨b :: ds, y, rfl, .inr ⟨b, ds, rfl, hzero, hb, hds⟩, hy⟩

theorem accepts_sign_iff (bs : Bytes) : sign.Accepts bs ↔ IsUnsigned bs := by
  cases bs with
  | nil =>
    refine iff_of_false (fun h => ?_) ?_
    · cases (accepts_nil_iff _).mp h
    · rintro ⟨n, f, x, h, rfl | ⟨d, ds, rfl, -⟩, -⟩ <;> cases h
  | cons b bs =>
    rw [accepts_cons_iff, isUnsigned_cons_iff, next]
    by_cases hzero : b = 0x30
    · subst hzero
      simp
    · by_cases hb : isDigitByte b = true <;> simp [hzero, hb]

/-- The part that the first byte of a number leads to. -/
def first? (b : UInt8) : Option NumberPart := if b == 0x2D then some sign else sign.next b

theorem ne_minus_of_next {b : UInt8} {p : NumberPart} (h : sign.next b = some p) :
    ¬(b == 0x2D) = true := by
  rw [beq_iff_eq]
  rintro rfl
  cases h

end NumberPart

/-- A number is a first byte that leads to a part, and bytes that complete it from there. -/
theorem isNumber_iff (text : Bytes) :
    IsNumber text ↔
      ∃ b bs p, text = b :: bs ∧ NumberPart.first? b = some p ∧ p.Accepts bs := by
  constructor
  · rintro (h | ⟨bs, rfl, h⟩)
    · rw [← NumberPart.accepts_sign_iff] at h
      cases text with
      | nil => cases (NumberPart.accepts_nil_iff _).mp h
      | cons b bs =>
        obtain ⟨p, hp, hbs⟩ := (NumberPart.accepts_cons_iff _ _ _).mp h
        refine ⟨b, bs, p, rfl, ?_, hbs⟩
        rw [NumberPart.first?, if_neg (NumberPart.ne_minus_of_next hp), hp]
    · exact ⟨0x2D, bs, .sign, rfl, rfl, (NumberPart.accepts_sign_iff bs).mpr h⟩
  · rintro ⟨b, bs, p, rfl, hp, hbs⟩
    rw [NumberPart.first?] at hp
    split at hp
    case isTrue hminus =>
      cases hp
      rw [beq_iff_eq] at hminus
      subst hminus
      exact .inr ⟨bs, rfl, (NumberPart.accepts_sign_iff bs).mp hbs⟩
    case isFalse =>
      refine .inl ((NumberPart.accepts_sign_iff _).mp ?_)
      exact (NumberPart.accepts_cons_iff _ _ _).mpr ⟨p, hp, hbs⟩

end Registrar.Json
