/-! # UTF-8

* `encode`: the bytes of a text.
* `decode?`: the text that a byte sequence is, if it is well formed.
* `decodeLossy`: the same, with U+FFFD for each maximal ill-formed part. A part is the longest
  beginning of a character that the bytes offer, or a single byte that begins none.
* `flaw?`: where the first ill-formed part stands.
-/

namespace Registrar.Text.Utf8
set_option autoImplicit false

abbrev Bytes := List UInt8

/-! ## Well-formed text -/

def encode (s : String) : Bytes := s.toByteArray.data.toList

def decode? (bs : Bytes) : Option String := String.fromUTF8? ⟨bs.toArray⟩

theorem decode?_encode (s : String) : decode? (encode s) = some s := by
  have bytes : (⟨(encode s).toArray⟩ : ByteArray) = s.toByteArray := by simp [encode]
  rw [decode?, bytes, String.fromUTF8?, dif_pos s.isValidUTF8]
  rfl

theorem encode_of_decode? {bs : Bytes} {s : String} (h : decode? bs = some s) : encode s = bs := by
  unfold decode? String.fromUTF8? at h
  split at h
  · cases h
    simp [encode, String.fromUTF8]
  · cases h

theorem encode_eq_flatMap (s : String) : encode s = s.toList.flatMap String.utf8EncodeChar := by
  have hs : s.toByteArray = s.toList.utf8Encode := by
    rw [← String.toByteArray_ofList, String.ofList_toList]
  simp [encode, hs, List.utf8Encode]

/-! ## The bytes of one character -/

/-- Among the bytes of a character only the first can begin one. -/
theorem utf8EncodeChar_eq_cons (c : Char) :
    ∃ b bs, String.utf8EncodeChar c = b :: bs ∧ b.IsUTF8FirstByte ∧
      ∀ x ∈ bs, ¬x.IsUTF8FirstByte := by
  obtain ⟨b, bs, hc⟩ := List.exists_cons_of_ne_nil (String.utf8EncodeChar_ne_nil (c := c))
  have hfirst (i : Nat) (hi : i < (b :: bs).length) : (b :: bs)[i].IsUTF8FirstByte ↔ i = 0 := by
    have h := @UInt8.isUTF8FirstByte_getElem_utf8EncodeChar c i (hc ▸ hi)
    simpa only [hc] using h
  refine ⟨b, bs, hc, (hfirst 0 (by simp)).mpr rfl, ?_⟩
  intro x hx
  obtain ⟨i, hi, rfl⟩ := List.getElem_of_mem hx
  have hx := hfirst (i + 1) (by simpa using hi)
  simpa using hx

/-- A character can be told from its bytes, whatever comes after them. -/
theorem utf8EncodeChar_append_inj {c d : Char} {xs ys : Bytes}
    (h : String.utf8EncodeChar c ++ xs = String.utf8EncodeChar d ++ ys) : c = d ∧ xs = ys := by
  have hbytes := congrArg (fun bs => ByteArray.utf8DecodeChar? bs.toByteArray 0) h
  simp only [List.toByteArray_append, ByteArray.utf8DecodeChar?_utf8EncodeChar_append,
    Option.some.injEq] at hbytes
  subst hbytes
  exact ⟨rfl, List.append_cancel_left h⟩

/-! ## Replacement of ill-formed parts -/

/-- How many bytes follow a first byte, and the least and greatest second byte. -/
def following (b : UInt8) : Option (Nat × UInt8 × UInt8) :=
  if 0xC2 ≤ b ∧ b ≤ 0xDF then some (1, 0x80, 0xBF)
  else if b = 0xE0 then some (2, 0xA0, 0xBF)
  else if b = 0xED then some (2, 0x80, 0x9F)
  else if 0xE1 ≤ b ∧ b ≤ 0xEF then some (2, 0x80, 0xBF)
  else if b = 0xF0 then some (3, 0x90, 0xBF)
  else if 0xF1 ≤ b ∧ b ≤ 0xF3 then some (3, 0x80, 0xBF)
  else if b = 0xF4 then some (3, 0x80, 0x8F)
  else none

/-- The bytes after a first byte that can belong to its character: at most `n` of them, the first
between `lo` and `hi` and the others continuation bytes. -/
def continuation (n : Nat) (lo hi : UInt8) : Bytes → Bytes
  | [] => []
  | b :: bs =>
    match n with
    | 0 => []
    | n + 1 => if lo ≤ b ∧ b ≤ hi then b :: continuation n 0x80 0xBF bs else []

/-- The character at the front of a byte sequence, if a well-formed one stands there, and the number
of bytes that it, or the ill-formed part in its place, takes after the first. -/
def front (b : UInt8) (bs : Bytes) : Option Char × Nat :=
  if b < 0x80 then (some (Char.ofNat b.toNat), 0)
  else
    match following b with
    | none => (none, 0)
    | some (n, lo, hi) =>
      let tail := continuation n lo hi bs
      if tail.length = n then
        let lead := b.toNat % Nat.pow 2 (6 - n)
        (some (Char.ofNat (tail.foldl (fun v t => 64 * v + t.toNat % 64) lead)), n)
      else (none, tail.length)

def replacement : Char := Char.ofNat 0xFFFD

/-- The characters of a byte sequence, ill-formed parts replaced, in front of `shown` reversed. -/
def replaceFrom (shown : List Char) : Bytes → List Char
  | [] => shown.reverse
  | b :: bs =>
    replaceFrom ((front b bs).1.getD replacement :: shown) (bs.drop (front b bs).2)
  termination_by bs => bs.length
  decreasing_by simp only [List.length_drop, List.length_cons]; omega

/-- The text of a byte sequence, with U+FFFD for each maximal ill-formed part. -/
def decodeLossy (bs : Bytes) : String :=
  (decode? bs).getD (String.ofList (replaceFrom [] bs))

theorem decodeLossy_encode (s : String) : decodeLossy (encode s) = s := by
  simp [decodeLossy, decode?_encode]

/-! ## The first ill-formed part -/

/-- Where an ill-formed part begins, and how long it is unless the end of the bytes cuts it off. -/
structure Flaw where
  start : Nat
  length : Option Nat
  deriving DecidableEq, Repr

/-- Whether the first byte begins a character that needs more bytes than there are. -/
def isCutOff (b : UInt8) (bs : Bytes) : Bool :=
  (following b).isSome && (front b bs).2 == bs.length

def flawFrom (start : Nat) : Bytes → Option Flaw
  | [] => none
  | b :: bs =>
    match (front b bs).1 with
    | none => some ⟨start, if isCutOff b bs then none else some ((front b bs).2 + 1)⟩
    | some _ => flawFrom (start + (front b bs).2 + 1) (bs.drop (front b bs).2)
  termination_by bs => bs.length
  decreasing_by simp only [List.length_drop, List.length_cons]; omega

def flaw? (bs : Bytes) : Option Flaw := flawFrom 0 bs

end Registrar.Text.Utf8
