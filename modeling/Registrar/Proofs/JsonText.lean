import Registrar.Json.Printer
import Registrar.Json.Reader

/-! # Reading what was written

An object whose members are strings and nulls is read back from its text. A string may come back
in another spelling, since some control characters are written by their numbers; the text that it
means is the same.

* `Written.respelled`: the spelling in which a printed string is read.
* `toString?_respelled`: it means the same text.
* `run_render`: a printed string is one token.
* `parse?_render_flat`: a printed object is read back.
-/

namespace Registrar.Json
open Text
open Text.Utf8 (Bytes)
set_option autoImplicit false

/-! ## Spelling -/

/-- The control characters that have no escape with a letter. -/
def isUnnamed (b : UInt8) : Bool := b < 0x20 && [0x08, 0x09, 0x0A, 0x0C, 0x0D].all (b != ·)

def Piece.respelled : Piece → Piece
  | .unit u => .unit u
  | .byte b => if isUnnamed b then .unit b.toUInt16 else .byte b

theorem Piece.respelled_unit (u : UInt16) : (Piece.unit u).respelled = .unit u := rfl

theorem Piece.respelled_byte (b : UInt8) :
    (Piece.byte b).respelled = if isUnnamed b then .unit b.toUInt16 else .byte b := rfl

def Written.respelled (t : Written) : Written := t.map Piece.respelled

namespace Written

theorem respelled_cons (p : Piece) (t : Written) :
    respelled (p :: t) = p.respelled :: respelled t := rfl

theorem toNat_toUInt16_of_isUnnamed {b : UInt8} (h : isUnnamed b = true) :
    b.toUInt16.toNat = b.toNat ∧ b.toNat < 32 := by
  have hsmall : b < 0x20 := by
    rw [isUnnamed, Bool.and_eq_true, decide_eq_true_eq] at h
    exact h.1
  exact ⟨UInt8.toNat_toUInt16 b, UInt8.lt_iff_toNat_lt.mp hsmall⟩

theorem not_surrogate_of_isUnnamed {b : UInt8} (h : isUnnamed b = true) :
    isLead b.toUInt16 = false ∧ isTrail b.toUInt16 = false := by
  obtain ⟨hnat, hsmall⟩ := toNat_toUInt16_of_isUnnamed h
  simp only [isLead, isTrail, Bool.and_eq_false_iff, decide_eq_false_iff_not,
    UInt16.le_iff_toNat_le, hnat, UInt16.reduceToNat]
  omega

theorem pushChar_of_isUnnamed {b : UInt8} (h : isUnnamed b = true) (bs : Bytes) :
    pushChar b.toUInt16.toNat bs = b :: bs := by
  obtain ⟨hnat, hsmall⟩ := toNat_toUInt16_of_isUnnamed h
  have all : ∀ n : Fin 32, String.utf8EncodeChar (Char.ofNat n.val) = [UInt8.ofNat n.val] := by
    decide
  rw [pushChar, hnat, all ⟨b.toNat, hsmall⟩, UInt8.ofNat_toNat]
  rfl

/-- Outside the surrogates a unit is a character. -/
theorem bytesFrom?_unit {u : UInt16} (hlead : isLead u = false) (htrail : isTrail u = false)
    (bs : Bytes) (t : Written) :
    bytesFrom? bs (.unit u :: t) = bytesFrom? (pushChar u.toNat bs) t := by
  rcases t with _ | ⟨_ | _, _⟩ <;> simp [bytesFrom?, hlead, htrail]

theorem bytesFrom?_respelled (bs : Bytes) (t : Written) :
    bytesFrom? bs t.respelled = bytesFrom? bs t := by
  fun_induction bytesFrom? bs t with
  | case1 bs => rfl
  | case2 bs b r ih =>
    rw [respelled_cons]
    by_cases h : isUnnamed b = true
    · obtain ⟨hlead, htrail⟩ := not_surrogate_of_isUnnamed h
      rw [Piece.respelled_byte, if_pos h, bytesFrom?_unit hlead htrail, pushChar_of_isUnnamed h, ih]
    · rw [Piece.respelled_byte, if_neg h, bytesFrom?, ih]
  | case3 bs u hlead v r htrail ih =>
    simp only [respelled_cons, Piece.respelled_unit, bytesFrom?, hlead, htrail, if_true, ih]
  | case4 bs u hlead v r htrail =>
    simp only [respelled_cons, Piece.respelled_unit, bytesFrom?, hlead, htrail, if_true]
    rfl
  | case5 bs u r hlead alone =>
    -- A byte that becomes a unit is too small to become the partner of a lead.
    cases r with
    | nil => simp [respelled, Piece.respelled_unit, bytesFrom?, hlead]
    | cons p r =>
      cases p with
      | unit v => exact absurd rfl (alone v r)
      | byte b =>
        simp only [respelled_cons, Piece.respelled_unit, Piece.respelled_byte]
        by_cases h : isUnnamed b = true
        · simp [h, bytesFrom?, hlead, (not_surrogate_of_isUnnamed h).2]
        · simp [h, bytesFrom?, hlead]
  | case6 bs u r hlead htrail =>
    rw [respelled_cons, Piece.respelled_unit]
    rcases respelled r with _ | ⟨_ | _, _⟩ <;> simp [bytesFrom?, hlead, htrail]
  | case7 bs u r hlead htrail ih =>
    rw [respelled_cons, Piece.respelled_unit,
      bytesFrom?_unit (Bool.eq_false_iff.mpr hlead) (Bool.eq_false_iff.mpr htrail), ih]

theorem toString?_respelled (t : Written) : t.respelled.toString? = t.toString? := by
  rw [toString?, bytesFrom?_respelled, toString?]

end Written

/-! ## Strings -/

theorem hexDigit?_hexByte (n : Nat) :
    hexDigit? (hexByte (n % 16)) = some (UInt16.ofNat (n % 16)) := by
  have all : ∀ n : Fin 16, hexDigit? (hexByte n) = some (UInt16.ofNat n) := by decide
  exact all ⟨n % 16, Nat.mod_lt n (by decide)⟩

theorem ofNat_quarters (u : UInt16) :
    ((UInt16.ofNat (u.toNat / 4096 % 16) * 16 + UInt16.ofNat (u.toNat / 256 % 16)) * 16 +
      UInt16.ofNat (u.toNat / 16 % 16)) * 16 + UInt16.ofNat (u.toNat % 16) = u := by
  apply UInt16.toNat_inj.mp
  have hsixteen : (16 : UInt16).toNat = 16 := rfl
  have hu := u.toNat_lt
  simp only [UInt16.toNat_add, UInt16.toNat_mul, UInt16.toNat_ofNat', hsixteen]
  omega

theorem run_unitEscape (u : UInt16) (seen : Written) (ts : List Token) :
    run (.text seen) ts (unitEscape u.toNat) = some (.text (.unit u :: seen), ts) := by
  have hopen : run (.text seen) ts [0x5C, 0x75] = some (.hex 4 0 seen, ts) := rfl
  have hdigits : run (.hex 4 0 seen) ts [hexByte (u.toNat / 4096 % 16),
      hexByte (u.toNat / 256 % 16), hexByte (u.toNat / 16 % 16), hexByte (u.toNat % 16)] =
      some (.text (.unit u :: seen), ts) := by
    simp [run, step, hexDigit?_hexByte, ofNat_quarters]
  exact (run_append_of_run hopen _).trans hdigits

theorem run_piece (p : Piece) (seen : Written) (ts : List Token) :
    run (.text seen) ts p.render = some (.text (p.respelled :: seen), ts) := by
  cases p with
  | unit u => exact run_unitEscape u seen ts
  | byte b =>
    -- Seven bytes have an escape with a letter of their own; of the others the small ones are
    -- written by their numbers and come back as units.
    by_cases hnamed : b ∈ [0x22, 0x5C, 0x08, 0x09, 0x0A, 0x0C, 0x0D]
    · simp only [List.mem_cons, List.not_mem_nil, or_false] at hnamed
      rcases hnamed with rfl | rfl | rfl | rfl | rfl | rfl | rfl <;> rfl
    · simp only [List.mem_cons, List.not_mem_nil, or_false, not_or] at hnamed
      by_cases hsmall : b < 0x20
      · have hrender : (Piece.byte b).render = unitEscape b.toUInt16.toNat := by
          simp [Piece.render, hnamed, hsmall]
        have hunnamed : isUnnamed b = true := by simp [isUnnamed, hnamed, hsmall]
        rw [hrender, run_unitEscape, Piece.respelled_byte, if_pos hunnamed]
      · simp [Piece.render, Piece.respelled_byte, run, step, isUnnamed, hnamed, hsmall]

theorem run_pieces (t seen : Written) (ts : List Token) :
    run (.text seen) ts (t.flatMap Piece.render) =
      some (.text (t.respelled.reverse ++ seen), ts) := by
  induction t generalizing seen with
  | nil => rfl
  | cons p t ih =>
    rw [List.flatMap_cons, run_append_of_run (run_piece p seen ts), ih]
    simp [Written.respelled]

theorem run_render (t : Written) (ts : List Token) :
    run .between ts t.render = some (.between, .text t.respelled :: ts) := by
  have hopen : run .between ts [0x22] = some (.text [], ts) := rfl
  have hclose : run (.text (t.respelled.reverse ++ [])) ts [0x22] =
      some (.between, .text t.respelled :: ts) := by
    have h : run (.text (t.respelled.reverse ++ [])) ts [0x22] =
      some (.between, .text (t.respelled.reverse ++ []).reverse :: ts) := rfl
    rw [h, List.append_nil, List.reverse_reverse]
  have hrender : t.render = [0x22] ++ (t.flatMap Piece.render ++ [0x22]) := rfl
  rw [hrender, run_append_of_run hopen, run_append_of_run (run_pieces t [] ts), hclose]

/-! ## Objects of strings and nulls -/

/-- A member that is a string or null. -/
abbrev FlatMember := Written × Option Written

def Value.ofOption : Option Written → Value
  | none => .null
  | some t => .string t

def FlatMember.member (m : FlatMember) : Written × Value := (m.1, .ofOption m.2)

def FlatMember.respelled (m : FlatMember) : FlatMember :=
  (m.1.respelled, m.2.map Written.respelled)

def Value.flat (ms : List FlatMember) : Value := .object (ms.map FlatMember.member)

def valueToken : Option Written → Token
  | none => .atom .null
  | some t => .text t

def memberTokens : List FlatMember → List Token
  | [] => []
  | [(k, v)] => [.text k, .colon, valueToken v]
  | (k, v) :: m :: ms => .text k :: .colon :: valueToken v :: .comma :: memberTokens (m :: ms)

theorem run_renderValue (v : Option Written) (ts : List Token) :
    run .between ts (Value.ofOption v).render =
      some (.between, valueToken (v.map Written.respelled) :: ts) := by
  cases v with
  | none => rfl
  | some t => exact run_render t ts

theorem run_member (k : Written) (v : Option Written) (ts : List Token) :
    run .between ts (k.render ++ 0x3A :: (Value.ofOption v).render) =
      some (.between,
        valueToken (v.map Written.respelled) :: .colon :: .text k.respelled :: ts) := by
  have hcolon : run .between (.text k.respelled :: ts) [0x3A] =
      some (.between, .colon :: .text k.respelled :: ts) := rfl
  have hsplit : k.render ++ 0x3A :: (Value.ofOption v).render =
      k.render ++ ([0x3A] ++ (Value.ofOption v).render) := rfl
  rw [hsplit, run_append_of_run (run_render k ts), run_append_of_run hcolon, run_renderValue]

theorem run_renderMembers (ms : List FlatMember) (ts : List Token) :
    run .between ts (Value.renderMembers (ms.map FlatMember.member)) =
      some (.between, (memberTokens (ms.map FlatMember.respelled)).reverse ++ ts) := by
  induction ms generalizing ts with
  | nil => rfl
  | cons m ms ih =>
    obtain ⟨k, v⟩ := m
    cases ms with
    | nil =>
      simp only [List.map_cons, List.map_nil, FlatMember.member, Value.renderMembers, run_member]
      rfl
    | cons m ms =>
      have hcomma : ∀ us, run .between us [0x2C] = some (.between, .comma :: us) := fun us => rfl
      have hsplit : Value.renderMembers (((k, v) :: m :: ms).map FlatMember.member) =
          (k.render ++ 0x3A :: (Value.ofOption v).render) ++
            ([0x2C] ++ Value.renderMembers ((m :: ms).map FlatMember.member)) := by
        simp [FlatMember.member, Value.renderMembers]
      rw [hsplit, run_append_of_run (run_member k v ts), run_append_of_run (hcomma _), ih]
      simp [FlatMember.respelled, memberTokens]

theorem scan_render_flat (ms : List FlatMember) :
    scan (Value.flat ms).render =
      some (.beginObject :: memberTokens (ms.map FlatMember.respelled) ++ [.endObject]) := by
  have hopen : run .between [] [0x7B] = some (.between, [.beginObject]) := rfl
  have hclose : ∀ us, run .between us [0x7D] = some (.between, .endObject :: us) := fun us => rfl
  have hrender : (Value.flat ms).render =
      [0x7B] ++ (Value.renderMembers (ms.map FlatMember.member) ++ [0x7D]) := by
    simp [Value.flat, Value.render]
  rw [scan, hrender, run_append_of_run hopen, run_append_of_run (run_renderMembers ms _), hclose]
  simp [finish]

/-! ## From the tokens to the object -/

theorem run_member_tokens (k : Written) (v : Option Written) (before : List (Written × Value))
    (stack : List Frame) (ts : List Token) :
    (State.key before stack).run (.text k :: .colon :: valueToken v :: ts) =
      (State.after (.ofOption v) (.object before k :: stack)).run ts := by
  cases v <;> rfl

/-- After the comma of an object, or at its first key, the members that are left end it. -/
theorem run_memberTokens (m : FlatMember) (ms : List FlatMember)
    (before : List (Written × Value)) (stack : List Frame) :
    (State.key before stack).run (memberTokens (m :: ms) ++ [.endObject]) =
      some (.after (.object (before.reverse ++ (m :: ms).map FlatMember.member)) stack) := by
  -- Induction on the members that are left; those already read pile up in `before`, reversed.
  induction ms generalizing m before with
  | nil =>
    obtain ⟨k, v⟩ := m
    have hend : (State.after (.ofOption v) (.object before k :: stack)).run [.endObject] =
        some (.after (.object ((k, .ofOption v) :: before).reverse) stack) := rfl
    rw [memberTokens]
    refine (run_member_tokens k v before stack [.endObject]).trans ?_
    rw [hend, List.reverse_cons]
    rfl
  | cons n ms ih =>
    obtain ⟨k, v⟩ := m
    have hcomma : ∀ ts, (State.after (.ofOption v) (.object before k :: stack)).run (.comma :: ts) =
        (State.key ((k, .ofOption v) :: before) stack).run ts := fun ts => rfl
    rw [memberTokens]
    refine (run_member_tokens k v before stack _).trans ?_
    refine (hcomma (memberTokens (n :: ms) ++ [.endObject])).trans ?_
    rw [ih n ((k, .ofOption v) :: before), List.reverse_cons, List.append_assoc]
    rfl

theorem parse?_render_flat (ms : List FlatMember) :
    parse? (Value.flat ms).render = some (.flat (ms.map FlatMember.respelled)) := by
  rw [parse?, scan_render_flat, Option.bind_some, ofTokens?]
  cases ms with
  | nil => rfl
  | cons m ms =>
    have hfirst : (State.value []).run (.beginObject ::
        memberTokens ((m :: ms).map FlatMember.respelled) ++ [.endObject]) =
        (State.key [] []).run
          (memberTokens ((m :: ms).map FlatMember.respelled) ++ [.endObject]) := by
      cases ms <;> rfl
    rw [hfirst, List.map_cons, run_memberTokens]
    rfl

end Registrar.Json
