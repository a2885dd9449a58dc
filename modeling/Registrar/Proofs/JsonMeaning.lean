import Registrar.Proofs.JsonText

/-! # What a written string means

A string is written with the UTF-8 bytes of its characters and with code units given by their
numbers: one unit for a character below U+10000, a lead unit and a trail unit for the others. A unit
without its partner and bytes that are not UTF-8 mean nothing.

* `Written.Denotes`: the characters that are written, said without reading them.
* `bytes?_of_denotes`, `denotes_of_bytes?`: a written string stands for the bytes of the characters
  that it denotes, and for those only.
* `toString?_eq_some_iff`: what is read of a written string is what it denotes.
* `Datum`, `Value.datum`: what a value means, without its spelling.
-/

namespace Registrar.Json
open Text
open Text.Utf8 (Bytes)
set_option autoImplicit false

/-! ## Characters and their spellings -/

/-- The string is written with these characters, each in one of three ways. -/
inductive Written.Denotes : Written → List Char → Prop where
  | nil : Denotes [] []
  | char {c : Char} {t : Written} {cs : List Char} (rest : Denotes t cs) :
      Denotes ((String.utf8EncodeChar c).map .byte ++ t) (c :: cs)
  | unit {c : Char} {u : UInt16} {t : Written} {cs : List Char} (number : u.toNat = c.toNat)
      (rest : Denotes t cs) : Denotes (.unit u :: t) (c :: cs)
  | pair {c : Char} {u v : UInt16} {t : Written} {cs : List Char}
      (lead : 0xD800 ≤ u.toNat ∧ u.toNat ≤ 0xDBFF) (trail : 0xDC00 ≤ v.toNat ∧ v.toNat ≤ 0xDFFF)
      (number : c.toNat = 0x10000 + (u.toNat - 0xD800) * 0x400 + (v.toNat - 0xDC00))
      (rest : Denotes t cs) : Denotes (.unit u :: .unit v :: t) (c :: cs)

namespace Written

theorem isLead_iff (u : UInt16) : isLead u = true ↔ 0xD800 ≤ u.toNat ∧ u.toNat ≤ 0xDBFF := by
  simp [isLead, UInt16.le_iff_toNat_le]

theorem isTrail_iff (u : UInt16) : isTrail u = true ↔ 0xDC00 ≤ u.toNat ∧ u.toNat ≤ 0xDFFF := by
  simp [isTrail, UInt16.le_iff_toNat_le]

/-- No character has the number of a lead or a trail. -/
theorem not_surrogate_of_char {c : Char} {u : UInt16} (h : u.toNat = c.toNat) :
    isLead u = false ∧ isTrail u = false := by
  have hc : c.toNat.isValidChar := c.valid
  rw [← h] at hc
  rw [← Bool.not_eq_true, ← Bool.not_eq_true, isLead_iff, isTrail_iff]
  rcases hc with hc | hc <;> omega

theorem toNat_ofNat_of_not_surrogate {u : UInt16} (lead : isLead u = false)
    (trail : isTrail u = false) : (Char.ofNat u.toNat).toNat = u.toNat := by
  rw [← Bool.not_eq_true] at lead trail
  rw [isLead_iff] at lead
  rw [isTrail_iff] at trail
  have hu := u.toNat_lt
  have hvalid : u.toNat.isValidChar := by
    unfold Nat.isValidChar
    omega
  rw [Char.ofNat, dif_pos hvalid]
  rfl

theorem toNat_ofNat_joined {u v : UInt16} (lead : isLead u = true) (trail : isTrail v = true) :
    (Char.ofNat (joined u v)).toNat = joined u v := by
  rw [isLead_iff] at lead
  rw [isTrail_iff] at trail
  have hvalid : (joined u v).isValidChar := by
    unfold joined Nat.isValidChar
    omega
  rw [Char.ofNat, dif_pos hvalid]
  rfl

/-! ## The bytes of a string -/

theorem bytesFrom?_pair {u v : UInt16} (lead : isLead u = true) (trail : isTrail v = true)
    (bs : Bytes) (t : Written) :
    bytesFrom? bs (.unit u :: .unit v :: t) = bytesFrom? (pushChar (joined u v) bs) t := by
  simp [bytesFrom?, lead, trail]

theorem pushChar_append (n : Nat) (bs before : Bytes) :
    pushChar n (bs ++ before) = pushChar n bs ++ before := by
  simp [pushChar]

/-- What has been read before stands in front of what is read. -/
theorem bytesFrom?_append (before bs : Bytes) (t : Written) :
    bytesFrom? (bs ++ before) t = (bytesFrom? bs t).map (before.reverse ++ ·) := by
  induction bs, t using bytesFrom?.induct with
  | case1 bs => simp [bytesFrom?]
  | case2 bs b r ih => exact ih
  | case3 bs u lead v r trail ih =>
    rw [bytesFrom?_pair lead trail, bytesFrom?_pair lead trail, pushChar_append, ih]
  | case4 bs u lead v r trail => simp [bytesFrom?, lead, trail]
  | case5 bs u r lead alone =>
    rcases r with _ | ⟨_ | v, r⟩
    · simp [bytesFrom?, lead]
    · simp [bytesFrom?, lead]
    · exact absurd rfl (alone v r)
  | case6 bs u r lead trail =>
    rcases r with _ | ⟨_ | v, r⟩ <;> simp [bytesFrom?, lead, trail]
  | case7 bs u r lead trail ih =>
    rw [Bool.not_eq_true] at lead trail
    rw [bytesFrom?_unit lead trail, bytesFrom?_unit lead trail, pushChar_append, ih]

/-- The bytes that a written string stands for. -/
def bytes? (t : Written) : Option Bytes := bytesFrom? [] t

theorem bytes?_byte (b : UInt8) (t : Written) : bytes? (.byte b :: t) = (bytes? t).map (b :: ·) :=
  bytesFrom?_append [b] [] t

theorem bytes?_bytes (bs : Bytes) (t : Written) :
    bytes? (bs.map .byte ++ t) = (bytes? t).map (bs ++ ·) := by
  induction bs with
  | nil => simp
  | cons b bs ih =>
    rw [List.map_cons, List.cons_append, bytes?_byte, ih, Option.map_map]
    rfl

theorem bytesFrom?_pushChar (c : Char) (t : Written) :
    bytesFrom? (pushChar c.toNat []) t = (bytes? t).map (String.utf8EncodeChar c ++ ·) := by
  have hpush : pushChar c.toNat [] = [] ++ (String.utf8EncodeChar c).reverse := by
    simp [pushChar]
  rw [hpush, bytesFrom?_append, List.reverse_reverse]
  rfl

theorem bytes?_unit {c : Char} {u : UInt16} (number : u.toNat = c.toNat) (t : Written) :
    bytes? (.unit u :: t) = (bytes? t).map (String.utf8EncodeChar c ++ ·) := by
  obtain ⟨lead, trail⟩ := not_surrogate_of_char number
  rw [bytes?, bytesFrom?_unit lead trail, number, bytesFrom?_pushChar]

theorem bytes?_pair {c : Char} {u v : UInt16} (lead : isLead u = true) (trail : isTrail v = true)
    (number : c.toNat = joined u v) (t : Written) :
    bytes? (.unit u :: .unit v :: t) = (bytes? t).map (String.utf8EncodeChar c ++ ·) := by
  rw [bytes?, bytesFrom?_pair lead trail, ← number, bytesFrom?_pushChar]

/-- The bytes of what denotes some characters are the bytes of these. -/
theorem bytes?_of_denotes {t : Written} {cs : List Char} (h : Denotes t cs) :
    bytes? t = some (cs.flatMap String.utf8EncodeChar) := by
  induction h with
  | nil => rfl
  | char rest ih => rw [bytes?_bytes, ih]; rfl
  | unit number rest ih => rw [bytes?_unit number, ih]; rfl
  | @pair c u v t cs lead trail number rest ih =>
    rw [bytes?_pair ((isLead_iff u).mpr lead) ((isTrail_iff v).mpr trail) number, ih]
    rfl

/-! ## The characters of a string -/

/-- A written string that begins with a unit begins with a character, of one unit or of two. -/
theorem exists_char_of_unit {u : UInt16} {r : Written} {bs : Bytes}
    (h : bytes? (.unit u :: r) = some bs) :
    ∃ c r' cs, bs = String.utf8EncodeChar c ++ cs ∧ bytes? r' = some cs ∧
      ∀ ds, Denotes r' ds → Denotes (.unit u :: r) (c :: ds) := by
  by_cases lead : isLead u = true
  · rcases r with _ | ⟨b | v, r⟩
    · simp [bytes?, bytesFrom?, lead] at h
    · simp [bytes?, bytesFrom?, lead] at h
    · by_cases trail : isTrail v = true
      · have number := toNat_ofNat_joined lead trail
        rw [bytes?_pair lead trail number] at h
        obtain ⟨cs, hcs, rfl⟩ := Option.map_eq_some_iff.mp h
        refine ⟨_, r, cs, rfl, hcs, ?_⟩
        intro ds rest
        exact .pair ((isLead_iff u).mp lead) ((isTrail_iff v).mp trail) number rest
      · simp [bytes?, bytesFrom?, lead, trail] at h
  · rw [Bool.not_eq_true] at lead
    by_cases trail : isTrail u = true
    · rcases r with _ | ⟨b | v, r⟩ <;> simp [bytes?, bytesFrom?, lead, trail] at h
    · rw [Bool.not_eq_true] at trail
      have number := (toNat_ofNat_of_not_surrogate lead trail).symm
      rw [bytes?_unit number] at h
      obtain ⟨cs, hcs, rfl⟩ := Option.map_eq_some_iff.mp h
      refine ⟨_, r, cs, rfl, hcs, ?_⟩
      intro ds rest
      exact .unit number rest

theorem eq_nil_of_bytes? {t : Written} (h : bytes? t = some []) : t = [] := by
  match t with
  | [] => rfl
  | .byte b :: r =>
    rw [bytes?_byte] at h
    simp at h
  | .unit u :: r =>
    obtain ⟨c, r', cs, hbs, -⟩ := exists_char_of_unit h
    have hne := String.utf8EncodeChar_ne_nil (c := c)
    simp [hne] at hbs

/-- Bytes that begin no character can only have been written as they are. -/
theorem exists_bytes_of_bytes? {xs ys : Bytes} (inner : ∀ x ∈ xs, ¬x.IsUTF8FirstByte) {t : Written}
    (h : bytes? t = some (xs ++ ys)) : ∃ r, t = xs.map .byte ++ r ∧ bytes? r = some ys := by
  induction xs generalizing t with
  | nil => exact ⟨t, rfl, h⟩
  | cons x xs ih =>
    match t with
    | [] => cases h
    | .byte b :: r =>
      rw [bytes?_byte] at h
      obtain ⟨cs, hcs, heq⟩ := Option.map_eq_some_iff.mp h
      obtain ⟨rfl, rfl⟩ := List.cons.inj heq
      obtain ⟨r', rfl, hr'⟩ := ih (fun x hx => inner x (List.mem_cons_of_mem _ hx)) hcs
      exact ⟨r', rfl, hr'⟩
    | .unit u :: r =>
      obtain ⟨c, r', cs, hbs, -⟩ := exists_char_of_unit h
      obtain ⟨b, bs, hc, hfirst, -⟩ := Utf8.utf8EncodeChar_eq_cons c
      rw [hc] at hbs
      obtain ⟨rfl, -⟩ := List.cons.inj hbs
      exact absurd hfirst (inner x List.mem_cons_self)

theorem denotes_of_bytes? {t : Written} {cs : List Char}
    (h : bytes? t = some (cs.flatMap String.utf8EncodeChar)) : Denotes t cs := by
  induction cs generalizing t with
  | nil =>
    rw [eq_nil_of_bytes? h]
    exact .nil
  | cons c cs ih =>
    rw [List.flatMap_cons] at h
    obtain ⟨b, bs, hc, -, inner⟩ := Utf8.utf8EncodeChar_eq_cons c
    match t with
    | [] =>
      rw [hc] at h
      cases h
    | .byte b' :: r =>
      -- The byte begins the character `c`. No unit can have given the bytes after it, since those
      -- of a unit begin a character of their own.
      rw [bytes?_byte] at h
      obtain ⟨ys, hys, heq⟩ := Option.map_eq_some_iff.mp h
      rw [hc] at heq
      obtain ⟨rfl, rfl⟩ := List.cons.inj heq
      obtain ⟨r', rfl, hr'⟩ := exists_bytes_of_bytes? inner hys
      have hdenotes := Denotes.char (c := c) (ih hr')
      rw [hc] at hdenotes
      exact hdenotes
    | .unit u :: r =>
      obtain ⟨d, r', ys, hbs, hr', hdenotes⟩ := exists_char_of_unit h
      obtain ⟨rfl, rfl⟩ := Utf8.utf8EncodeChar_append_inj hbs
      exact hdenotes cs (ih hr')

/-- What is read of a written string is what it denotes. -/
theorem toString?_eq_some_iff (t : Written) (s : String) :
    t.toString? = some s ↔ t.Denotes s.toList := by
  rw [toString?, Option.bind_eq_some_iff]
  constructor
  · rintro ⟨bs, hbs, hs⟩
    rw [← Utf8.encode_of_decode? hs, Utf8.encode_eq_flatMap] at hbs
    exact denotes_of_bytes? hbs
  · intro h
    have hbytes := bytes?_of_denotes h
    rw [← Utf8.encode_eq_flatMap] at hbytes
    exact ⟨_, hbytes, Utf8.decode?_encode s⟩

end Written

/-! ## What a value means -/

/-- A value without its spelling. A string has a text or none, and so has a key; a number is left as
it is written. -/
inductive Datum where
  | null
  | boolean (b : Bool)
  | number (text : Bytes)
  | string (s : Option String)
  | array (items : List Datum)
  | object (members : List (Option String × Datum))

namespace Value

mutual

def datum : Value → Datum
  | null => .null
  | boolean b => .boolean b
  | number text => .number text
  | string t => .string t.toString?
  | array items => .array (itemData items)
  | object members => .object (memberData members)

def itemData : List Value → List Datum
  | [] => []
  | v :: vs => datum v :: itemData vs

def memberData : List (Written × Value) → List (Option String × Datum)
  | [] => []
  | (k, v) :: ms => (k.toString?, datum v) :: memberData ms

end

end Value

end Registrar.Json
