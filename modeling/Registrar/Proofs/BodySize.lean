import Registrar.Proofs.BodyShape
import Registrar.Proofs.Rejection

/-! # A password from a body can be hashed

A text that is read from a body takes no more bytes than the body, and a body is limited. So a
password that is too long to be hashed is never met over HTTP: a registration that is posted lacks
a field or is valid.

* `Json.Written.size`: the bytes that it takes to write a string, without its quotes.
* `Json.Value.Shows`: a string is a value, or one of the items or members of a value.
* `size_le_of_spells`: a string that shows in a JSON text fits into it.
* `Registration.validate_cases`: the three ways in which a validation ends.
* `validate_of_posted`: the two that are left for a registration that is posted.
-/

namespace Registrar
open Http Password Text
open Text.Utf8 (Bytes)
set_option autoImplicit false

/-! ## Strings in a JSON text -/

namespace Json

def Piece.size : Piece → Nat
  | .byte _ => 1
  | .unit _ => 6

def Written.size : Written → Nat
  | [] => 0
  | p :: t => p.size + Written.size t

@[simp] theorem size_cons (p : Piece) (t : Written) :
    Written.size (p :: t) = p.size + Written.size t := rfl

theorem length_pushChar_le (n : Nat) (bs : Bytes) :
    (Written.pushChar n bs).length ≤ bs.length + 4 := by
  have h := Char.utf8Size_le_four (Char.ofNat n)
  simp only [Written.pushChar, List.length_append, List.length_reverse,
    String.length_utf8EncodeChar]
  omega

/-- What a string means takes no more bytes than what is written. -/
theorem length_bytesFrom?_le {bs out : Bytes} {t : Written}
    (h : Written.bytesFrom? bs t = some out) : out.length ≤ bs.length + t.size := by
  fun_induction Written.bytesFrom? bs t with
  | case1 bs =>
    cases h
    simp
  | case2 bs b r ih =>
    have hrest := ih h
    simp only [size_cons, Piece.size, List.length_cons] at hrest ⊢
    omega
  | case3 bs u hlead v r htrail ih =>
    have hrest := ih h
    have hchar := length_pushChar_le (Written.joined u v) bs
    simp only [size_cons, Piece.size]
    omega
  | case4 | case5 | case6 => cases h
  | case7 bs u r hlead htrail ih =>
    have hrest := ih h
    have hchar := length_pushChar_le u.toNat bs
    simp only [size_cons, Piece.size]
    omega

theorem length_encode_le {t : Written} {s : String} (h : t.toString? = some s) :
    (Utf8.encode s).length ≤ t.size := by
  obtain ⟨bs, hbytes, hdecode⟩ := Option.bind_eq_some_iff.mp h
  have hbound := length_bytesFrom?_le hbytes
  rw [Utf8.encode_of_decode? hdecode]
  simpa using hbound

theorem size_le_of_content {t : Written} {bs : Bytes} (h : Content t bs) : t.size ≤ bs.length := by
  induction h with
  | nil => exact Nat.le_refl 0
  | byte _ _ _ _ ih | escape _ _ ih =>
    simp only [size_cons, Piece.size, List.length_cons]
    omega
  | unit four _ _ ih =>
    simp only [size_cons, Piece.size, List.length_cons, List.length_append, four]
    omega

inductive Value.Shows (t : Written) : Value → Prop where
  | self : Shows t (.string t)
  | item {vs : List Value} (mem : .string t ∈ vs) : Shows t (.array vs)
  | member {ms : List (Written × Value)} (mem : ∃ m ∈ ms, m.2 = .string t) : Shows t (.object ms)

/-- What a phrase shows; of items and members only those that are strings themselves. -/
def Phrase.Shows (t : Written) : Phrase → Prop
  | .value v | .text v => v.Shows t
  | .items vs => .string t ∈ vs
  | .member m => m.2 = .string t
  | .members ms => ∃ m ∈ ms, m.2 = .string t

theorem size_le_of_spells {p : Phrase} {bs : Bytes} {t : Written} (h : Spells p bs)
    (shows : p.Shows t) : t.size ≤ bs.length := by
  induction h with
  | atom lexeme => cases lexeme <;> cases shows
  | string lexeme =>
    cases shows
    cases lexeme with
    | text content =>
      have hcontent := size_le_of_content content
      simp only [List.length_cons, List.length_append]
      omega
  | array _ ih =>
    cases shows with
    | item mem =>
      have hitems := ih mem
      simp only [List.length_cons, List.length_append]
      omega
  | object _ ih =>
    cases shows with
    | member mem =>
      have hmembers := ih mem
      simp only [List.length_cons, List.length_append]
      omega
  | text _ _ _ ih =>
    have hvalue := ih shows
    simp only [List.length_append]
    omega
  | noItems => cases shows
  | lastItem _ ih =>
    rw [Phrase.Shows, List.mem_singleton] at shows
    subst shows
    exact ih .self
  | moreItems _ _ ihItem ihRest =>
    simp only [List.length_append, List.length_cons]
    rcases List.mem_cons.mp shows with rfl | hrest
    · have hitem := ihItem .self
      omega
    · have hitems := ihRest hrest
      omega
  | @member k v _ _ _ _ _ _ _ _ ih =>
    obtain rfl : v = .string t := shows
    have hvalue := ih .self
    simp only [List.length_append, List.length_cons]
    omega
  | noMembers =>
    obtain ⟨m, hm, -⟩ := shows
    cases hm
  | lastMember _ ih =>
    obtain ⟨m, hm, hstring⟩ := shows
    rw [List.mem_singleton.mp hm] at hstring
    exact ih hstring
  | moreMembers _ _ ihMember ihRest =>
    obtain ⟨m, hm, hstring⟩ := shows
    simp only [List.length_append, List.length_cons]
    rcases List.mem_cons.mp hm with rfl | hrest
    · have hmember := ihMember hstring
      omega
    · have hmembers := ihRest ⟨m, hrest, hstring⟩
      omega

end Json

/-! ## Fields of a body -/

/-- A field that is read from a value is a string that shows in it. -/
theorem exists_shows_of_fields? {names : List String} {v : Json.Value}
    {fields : List (Option String)} {s : String} (h : fields? names v = some fields)
    (hs : some s ∈ fields) : ∃ t, t.toString? = some s ∧ v.Shows t := by
  have hmem : some (some s) ∈ fields.map some := List.mem_map.mpr ⟨some s, hs, rfl⟩
  cases v with
  | object ms =>
    obtain ⟨pairs, hpairs, hread⟩ := Option.bind_eq_some_iff.mp h
    rw [mapM_eq_some_iff_map] at hread
    rw [← hread] at hmem
    obtain ⟨name, -, hfield⟩ := List.mem_map.mp hmem
    obtain ⟨w, hw, hvalue⟩ := mem_of_field? hfield
    obtain ⟨m, hm, -, hmw⟩ := mem_of_members? hpairs hw
    obtain ⟨t, ht, hts⟩ := (Json.Value.field?_eq_some_some_iff w s).mp hvalue
    exact ⟨t, hts, .member ⟨m, hm, hmw.trans ht⟩⟩
  | array vs =>
    obtain ⟨-, hread⟩ := (fields?_array_eq_some_iff names vs fields).mp h
    rw [← hread] at hmem
    obtain ⟨w, hw, hvalue⟩ := List.mem_map.mp hmem
    obtain ⟨t, rfl, hts⟩ := (Json.Value.field?_eq_some_some_iff w s).mp hvalue
    exact ⟨t, hts, .item hw⟩
  | null | boolean _ | number _ | string _ => cases h

theorem length_le_of_fields? {names : List String} {bs : Bytes} {v : Json.Value}
    {fields : List (Option String)} {s : String} (hparse : Json.parse? bs = some v)
    (h : fields? names v = some fields) (hs : some s ∈ fields) :
    (Utf8.encode s).length ≤ bs.length := by
  obtain ⟨t, hts, shows⟩ := exists_shows_of_fields? h hs
  exact Nat.le_trans (Json.length_encode_le hts)
    (Json.size_le_of_spells ((Json.parse?_eq_some_iff bs v).mp hparse) shows)

theorem Registration.password_mem_of_ofFields? {fields : List (Option String)} {x : Registration}
    (h : Registration.ofFields? fields = some x) : x.password ∈ fields := by
  unfold Registration.ofFields? at h
  split at h
  · cases h
    simp
  · cases h

theorem length_password_of_posted {r : Request} {x : Registration} {p : String}
    (h : r.json?.bind Registration.ofJson? = some x) (hp : x.password = some p) :
    (Utf8.encode p).length ≤ Request.bodyLimit := by
  obtain ⟨v, hv, hread⟩ := Option.bind_eq_some_iff.mp h
  obtain ⟨-, hlimit, hparse⟩ := (Http.Request.json?_eq_some_iff r v).mp hv
  obtain ⟨fields, hfields, hx⟩ := Option.bind_eq_some_iff.mp hread
  have hmem : some p ∈ fields := hp ▸ Registration.password_mem_of_ofFields? hx
  exact Nat.le_trans (length_le_of_fields? hparse hfields hmem) hlimit

/-! ## The end of a validation -/

theorem Scheme.sealed_eq_error_iff (scheme : Scheme) (salt : Salt) (password : String)
    (e : HashError) :
    scheme.sealed salt password = .error e ↔
      scheme = .argon2 ∧ e = .invalidPassword ∧
        Hashed.tooLong ≤ (Utf8.encode password).length := by
  cases scheme with
  | plaintext => simp [Scheme.sealed]
  | argon2 =>
    by_cases short : (Utf8.encode password).length < Hashed.tooLong
    · simp [Scheme.sealed, Hashed.sealed, short]
    · simp [Scheme.sealed, Hashed.sealed, short, Nat.le_of_not_lt short, eq_comm]

/-- A registration lacks a field, has a password that is too long to be hashed, or is valid. -/
theorem Registration.validate_cases (rules : Rules) (salt : Salt) (x : Registration) :
    (x.Lacks rules ∧ x.validate rules salt = .error .missingFields) ∨
      (∃ p, x.password = some p ∧ rules.passwords = .argon2 ∧
        Hashed.tooLong ≤ (Utf8.encode p).length ∧
        x.validate rules salt = .error (.password .invalidPassword)) ∨
      ∃ a, x.validate rules salt = .ok a := by
  cases hv : x.validate rules salt with
  | ok a => exact .inr (.inr ⟨a, rfl⟩)
  | error e =>
    by_cases hlacks : x.Lacks rules
    · rw [(Registration.validate_eq_missingFields_iff rules salt x).mpr hlacks] at hv
      exact .inl ⟨hlacks, hv.symm⟩
    · refine .inr (.inl ?_)
      -- With all fields given, only the sealing is left to fail.
      unfold Registration.Lacks at hlacks
      obtain ⟨u, hu⟩ := Option.ne_none_iff_exists'.mp fun h => hlacks (.inl h)
      obtain ⟨m, hm⟩ := Option.ne_none_iff_exists'.mp fun h => hlacks (.inr (.inl h))
      obtain ⟨p, hp⟩ := Option.ne_none_iff_exists'.mp fun h => hlacks (.inr (.inr (.inl h)))
      have hr : rules.role? x.role = .ok (given x.role) :=
        (Rules.role?_eq_ok_iff rules x.role _).mpr
          ⟨rfl, fun hrequired h => hlacks (.inr (.inr (.inr ⟨hrequired, h⟩)))⟩
      cases hs : rules.passwords.sealed salt p with
      | ok stored => simp [Registration.validate, hu, hm, hp, hr, hs] at hv
      | error f =>
        obtain ⟨hscheme, rfl, hlong⟩ := (Scheme.sealed_eq_error_iff _ _ _ _).mp hs
        simp only [Registration.validate, hu, hm, hp, hr, hs] at hv
        exact ⟨p, ((given_eq_some_iff _ _).mp hp).1, hscheme, hlong, hv.symm⟩

/-- A registration that is posted is valid unless it lacks a field. -/
theorem validate_of_posted {r : Request} {x : Registration}
    (h : r.json?.bind Registration.ofJson? = some x) (rules : Rules) (salt : Salt) :
    x.validate rules salt = .error .missingFields ∨ ∃ a, x.validate rules salt = .ok a := by
  rcases Registration.validate_cases rules salt x with ⟨-, hlacks⟩ | ⟨p, hp, -, hlong, -⟩ | hvalid
  · exact .inl hlacks
  · have hshort := length_password_of_posted h hp
    unfold Hashed.tooLong at hlong
    unfold Request.bodyLimit at hshort
    omega
  · exact .inr hvalid

end Registrar
