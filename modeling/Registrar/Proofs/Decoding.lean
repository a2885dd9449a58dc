import Mathlib.Data.List.Forall2
import Registrar.Proofs.BodyShape
import Registrar.Proofs.JsonGrammar
import Registrar.Proofs.JsonMeaning
import Registrar.Proofs.SameBody

/-! # The fields of a body

What the two requests take from the text of an object, said of its members and not of the bytes.

* `Http.Request.Carries`: a request whose body is the text of an object with some members.
* `Readable`, `Holds`: when the field with a name can be read, and what it is.
* `field?_eq_some_iff`: these two are what is read of one field.
* `Decodes`: what is read of several fields.
* `decodes_of_carries`: registrations and credentials are read so.
-/

namespace Registrar
open Http
set_option autoImplicit false

/-! ## Members -/

/-- The members of an object: the texts of their keys and what their values mean. -/
abbrev Members := List (String × Json.Datum)

/-- The body is the text of an object with these members, sent as JSON and not too long. Blanks,
and how keys and strings are spelled, are left open. -/
structure Http.Request.Carries (r : Request) (members : Members) : Prop where
  typed : r.hasJsonType = true
  fits : r.body.length ≤ Request.bodyLimit
  written : ∃ ms : List (Json.Written × Json.Value), Json.Spells (.text (.object ms)) r.body ∧
    List.Forall₂ (fun m p => m.1.Denotes p.1.toList ∧ m.2.datum = p.2) ms members

/-- The values of the members with a name, in their order. -/
def valuesOf {β : Type} (pairs : List (String × β)) (name : String) : List β :=
  (pairs.filter fun p => p.1 == name).map (·.2)

/-- The field with a name can be read: it is there once at most, as null or as a text. -/
structure Readable (members : Members) (name : String) : Prop where
  once : (valuesOf members name).length ≤ 1
  text : ∀ d ∈ valuesOf members name, d = .null ∨ ∃ s, d = .string (some s)

/-- The field with a name has this value; it has none if it is null or missing. -/
def Holds (members : Members) (name : String) (value : Option String) : Prop :=
  ∀ s, value = some s ↔ .string (some s) ∈ valuesOf members name

/-- The members whose names are among the names given. -/
def known (names : List String) (members : Members) : Members :=
  members.filter fun m => names.contains m.1

theorem exists_members? {ms : List (Json.Written × Json.Value)} {members : Members}
    (h : List.Forall₂ (fun m p => m.1.Denotes p.1.toList ∧ m.2.datum = p.2) ms members) :
    ∃ pairs, members? ms = some pairs ∧ pairs.map (fun p => (p.1, p.2.datum)) = members := by
  induction h with
  | nil => exact ⟨[], rfl, rfl⟩
  | @cons m p ms members hm _ ih =>
    obtain ⟨pairs, hpairs, hmembers⟩ := ih
    obtain ⟨hkey, hvalue⟩ := hm
    rw [← Json.Written.toString?_eq_some_iff] at hkey
    refine ⟨(p.1, m.2) :: pairs, ?_, ?_⟩
    · unfold members? at hpairs ⊢
      simp [List.mapM_cons, hkey, hpairs]
    · rw [List.map_cons, hmembers, hvalue]

/-! ## One field -/

/-- The same reading as `Json.Value.field?`, from the meaning of a value. -/
def Json.Datum.field? : Json.Datum → Option (Option String)
  | .null => some none
  | .string s => s.map some
  | _ => none

theorem Json.Value.field?_datum (v : Json.Value) : v.datum.field? = v.field? := by
  cases v <;> rfl

theorem field?_eq_match {β : Type} (read : β → Option (Option String)) (pairs : List (String × β))
    (name : String) :
    field? read pairs name =
      match valuesOf pairs name with
      | [] => some none
      | [v] => read v
      | _ => none := by
  unfold field? valuesOf
  cases pairs.filter fun p => p.1 == name with
  | nil => rfl
  | cons p ps => cases ps <;> rfl

theorem valuesOf_map {β γ : Type} (f : β → γ) (pairs : List (String × β)) (name : String) :
    valuesOf (pairs.map fun p => (p.1, f p.2)) name = (valuesOf pairs name).map f := by
  simp [valuesOf, List.filter_map, Function.comp_def]

theorem field?_datum (pairs : List (String × Json.Value)) (name : String) :
    field? Json.Datum.field? (pairs.map fun p => (p.1, p.2.datum)) name =
      field? Json.Value.field? pairs name := by
  rw [field?_eq_match, field?_eq_match, valuesOf_map]
  match valuesOf pairs name with
  | [] => rfl
  | [v] => exact v.field?_datum
  | v :: w :: vs => rfl

theorem Json.Datum.field?_eq_some_iff (d : Json.Datum) (value : Option String) :
    d.field? = some value ↔
      (d = .null ∨ ∃ s, d = .string (some s)) ∧ ∀ s, value = some s ↔ d = .string (some s) := by
  cases d with
  | null => cases value <;> simp [Json.Datum.field?]
  | string s =>
    cases s with
    | none => simp [Json.Datum.field?]
    | some s =>
      cases value with
      | none => simp [Json.Datum.field?]
      | some s' => simp [Json.Datum.field?, eq_comm]
  | boolean b => simp [Json.Datum.field?]
  | number text => simp [Json.Datum.field?]
  | array items => simp [Json.Datum.field?]
  | object members => simp [Json.Datum.field?]

theorem field?_eq_some_iff (members : Members) (name : String) (value : Option String) :
    field? Json.Datum.field? members name = some value ↔
      Readable members name ∧ Holds members name value := by
  rw [field?_eq_match]
  have hreadable : Readable members name ↔ (valuesOf members name).length ≤ 1 ∧
      ∀ d ∈ valuesOf members name, d = .null ∨ ∃ s, d = .string (some s) :=
    ⟨fun h => ⟨h.once, h.text⟩, fun h => ⟨h.1, h.2⟩⟩
  rw [hreadable]
  unfold Holds
  match valuesOf members name with
  | [] => cases value <;> simp
  | [d] => simpa [eq_comm] using d.field?_eq_some_iff value
  | d :: d' :: ds => simp

/-- A field that can be read has a value, or none. -/
theorem exists_holds {members : Members} {name : String} (h : Readable members name) :
    ∃ value, Holds members name value := by
  have hread : ∃ value, field? Json.Datum.field? members name = some value := by
    rw [field?_eq_match]
    match hv : valuesOf members name with
    | [] => exact ⟨none, rfl⟩
    | [d] =>
      rcases h.text d (by simp [hv]) with rfl | ⟨s, rfl⟩
      · exact ⟨none, rfl⟩
      · exact ⟨some s, rfl⟩
    | d :: d' :: ds =>
      have honce := h.once
      simp [hv] at honce
  obtain ⟨value, hvalue⟩ := hread
  exact ⟨value, ((field?_eq_some_iff members name value).mp hvalue).2⟩

theorem field?_eq_of_perm {members members' : Members} {name : String}
    (h : (valuesOf members name).Perm (valuesOf members' name)) :
    field? Json.Datum.field? members name = field? Json.Datum.field? members' name := by
  rw [field?_eq_match, field?_eq_match]
  have hlength := h.length_eq
  match hv : valuesOf members name with
  | [] =>
    rw [hv] at h
    rw [h.nil_eq]
  | [d] =>
    rw [hv] at h
    rw [List.singleton_perm.mp h]
  | d :: d' :: ds =>
    rw [hv] at hlength
    match hw : valuesOf members' name with
    | [] => simp [hw] at hlength
    | [d] => simp [hw] at hlength
    | _ :: _ :: _ => rfl

theorem valuesOf_known {names : List String} {name : String} (h : name ∈ names)
    (members : Members) : valuesOf (known names members) name = valuesOf members name := by
  unfold valuesOf known
  rw [List.filter_filter]
  congr 1
  apply List.filter_congr
  intro p _
  by_cases hp : p.1 = name
  · simp [hp, h]
  · simp [hp]

/-! ## Several fields -/

theorem Http.Request.Carries.exists_object {r : Request} {members : Members}
    (h : r.Carries members) :
    ∃ ms, r.json? = some (.object ms) ∧
      ∀ names, fields? names (.object ms) = names.mapM (field? Json.Datum.field? members) := by
  obtain ⟨ms, hspells, hmembers⟩ := h.written
  have hparse := (Json.parse?_eq_some_iff _ _).mpr hspells
  refine ⟨ms, (r.json?_eq_some_iff _).mpr ⟨h.typed, h.fits, hparse⟩, ?_⟩
  intro names
  obtain ⟨pairs, hpairs, rfl⟩ := exists_members? hmembers
  rw [fields?, hpairs, Option.bind_some]
  congr 1
  funext name
  exact (field?_datum pairs name).symm

/-- What is read of the fields with some names, from a request with some members: `make` tells what
is made of the values. -/
structure Decodes {α : Type} (names : List String) (make : (String → Option String) → α)
    (decode : Request → Option α) (r : Request) (members : Members) : Prop where
  accepted : (decode r).isSome = true ↔ ∀ name ∈ names, Readable members name
  fields : ∀ x, decode r = some x →
    ∃ value : String → Option String, (∀ name ∈ names, Holds members name (value name)) ∧
      x = make value
  unchanged : ∀ r' members', Request.Carries r' members' →
    (known names members').Perm (known names members) → decode r' = decode r

section
variable {α : Type} {names : List String} {make : (String → Option String) → α}
  {ofFields? : List (Option String) → Option α} {ofJson? : Json.Value → Option α}

/-- All fields are read exactly if each of them can be read. -/
theorem mapM_field?_eq_some_iff (members : Members) (values : List (Option String)) :
    names.mapM (field? Json.Datum.field? members) = some values ↔
      ∃ value : String → Option String,
        (∀ name ∈ names, Readable members name ∧ Holds members name (value name)) ∧
          values = names.map value := by
  rw [mapM_eq_some_iff_map]
  constructor
  · intro h
    refine ⟨fun name => (field? Json.Datum.field? members name).join, ?_, ?_⟩
    · intro name hname
      have hmem := List.mem_map_of_mem (f := field? Json.Datum.field? members) hname
      rw [h] at hmem
      obtain ⟨value, -, hvalue⟩ := List.mem_map.mp hmem
      rw [← field?_eq_some_iff]
      show field? Json.Datum.field? members name =
        some (field? Json.Datum.field? members name).join
      rw [← hvalue, Option.join_some]
    · have hjoin := congrArg (List.map Option.join) h
      rw [List.map_map, List.map_map] at hjoin
      have hid : Option.join ∘ some = (id : Option String → Option String) := rfl
      rw [hid, List.map_id] at hjoin
      exact hjoin.symm
  · rintro ⟨value, hvalue, rfl⟩
    rw [List.map_map]
    apply List.map_congr_left
    intro name hname
    exact (field?_eq_some_iff members name (value name)).mpr (hvalue name hname)

theorem bind_ofFields?_eq_some_iff
    (hmake : ∀ value, ofFields? (names.map value) = some (make value)) (members : Members) (x : α) :
    (names.mapM (field? Json.Datum.field? members)).bind ofFields? = some x ↔
      ∃ value : String → Option String,
        (∀ name ∈ names, Readable members name ∧ Holds members name (value name)) ∧
          x = make value := by
  rw [Option.bind_eq_some_iff]
  constructor
  · rintro ⟨values, hvalues, hx⟩
    obtain ⟨value, hvalue, rfl⟩ := (mapM_field?_eq_some_iff members values).mp hvalues
    rw [hmake, Option.some.injEq] at hx
    exact ⟨value, hvalue, hx.symm⟩
  · rintro ⟨value, hvalue, rfl⟩
    exact ⟨_, (mapM_field?_eq_some_iff members _).mpr ⟨value, hvalue, rfl⟩, hmake value⟩

theorem mapM_field?_eq_of_perm {members members' : Members}
    (h : (known names members').Perm (known names members)) :
    names.mapM (field? Json.Datum.field? members') =
      names.mapM (field? Json.Datum.field? members) := by
  have hfield (name : String) (hname : name ∈ names) :
      field? Json.Datum.field? members' name = field? Json.Datum.field? members name := by
    apply field?_eq_of_perm
    rw [← valuesOf_known hname members', ← valuesOf_known hname members]
    exact (h.filter _).map _
  apply Option.ext
  intro values
  rw [mapM_eq_some_iff_map, mapM_eq_some_iff_map, List.map_congr_left hfield]

theorem decodes_of_carries {r : Request} {members : Members} (h : r.Carries members)
    (hmake : ∀ value, ofFields? (names.map value) = some (make value))
    (hread : ∀ v, ofJson? v = (fields? names v).bind ofFields?) :
    Decodes names make (fun r => r.json?.bind ofJson?) r members := by
  have hdecode {r : Request} {members : Members} (h : r.Carries members) :
      r.json?.bind ofJson? =
        (names.mapM (field? Json.Datum.field? members)).bind ofFields? := by
    obtain ⟨ms, hjson, hfields⟩ := h.exists_object
    rw [hjson, Option.bind_some, hread, hfields]
  constructor
  · rw [hdecode h, Option.isSome_iff_exists]
    constructor
    · rintro ⟨x, hx⟩ name hname
      obtain ⟨value, hvalue, -⟩ := (bind_ofFields?_eq_some_iff hmake members x).mp hx
      exact (hvalue name hname).1
    · intro hreadable
      have hholds (name : String) (hname : name ∈ names) := exists_holds (hreadable name hname)
      choose! value hvalue using hholds
      refine ⟨make value, (bind_ofFields?_eq_some_iff hmake members _).mpr ⟨value, ?_, rfl⟩⟩
      exact fun name hname => ⟨hreadable name hname, hvalue name hname⟩
  · intro x hx
    rw [hdecode h] at hx
    obtain ⟨value, hvalue, hmade⟩ := (bind_ofFields?_eq_some_iff hmake members x).mp hx
    exact ⟨value, fun name hname => (hvalue name hname).2, hmade⟩
  · intro r' members' h' hperm
    show r'.json?.bind ofJson? = r.json?.bind ofJson?
    rw [hdecode h', hdecode h, mapM_field?_eq_of_perm hperm]

end

/-- **The fields of a body.** A request that carries some members is read as a registration exactly
if each of its five fields is there once at most, as null or as a text, and the values are those
texts; the username is taken before the name. It is read as credentials in the same way from four
fields, the name before the username. Neither reading depends on the order of the members, nor on
members with other names. -/
theorem decodes_of_object (r : Request) (members : Members) (h : r.Carries members) :
    Decodes ["username", "name", "email", "password", "role"]
        (fun value => (⟨(value "username").or (value "name"), value "email", value "password",
          value "role"⟩ : Registration))
        (fun r => r.json?.bind Registration.ofJson?) r members ∧
      Decodes ["name", "username", "password", "role"]
        (fun value => (⟨(value "name").or (value "username"), value "password",
          value "role"⟩ : Credentials))
        (fun r => r.json?.bind Credentials.ofJson?) r members := by
  constructor
  · exact decodes_of_carries h (fun value => rfl) (fun v => rfl)
  · exact decodes_of_carries h (fun value => rfl) (fun v => rfl)

/-- Ann's body with an escaped key, a character of two units, blanks, and members with another name
that speak of a username; and her body without all that, in another order. -/
theorem decodes_of_object_ann :
    let posted (body : String) : Request :=
      ⟨"POST", .parse "/register", [("content-type", "application/json")], Text.Utf8.encode body⟩
    let r := posted ("\x7b \"x\": \x7b\"username\": 1\x7d, \"name\":null,\n\"x\": [[]]," ++
      " \"usern\\u0061me\" : \"an\\uD83D\\uDE00\", \"role\": \"b\\/c\"\x7d ")
    let r' := posted "\x7b\"role\":\"b/c\",\"username\":\"an😀\",\"name\":null\x7d"
    r.json?.bind Registration.ofJson? = some ⟨some "an😀", none, none, some "b/c"⟩ ∧
      r'.json?.bind Registration.ofJson? = r.json?.bind Registration.ofJson? ∧
      r'.json?.bind Credentials.ofJson? = r.json?.bind Credentials.ofJson? := by
  intro posted r r'
  let text := Json.Written.ofString
  let escaped : Json.Written := text "usern" ++ .unit 0x61 :: text "me"
  let smiling : Json.Written := text "an" ++ [.unit 0xD83D, .unit 0xDE00]
  let name : String × Json.Datum := ("name", .null)
  let username : String × Json.Datum := ("username", .string (some "an😀"))
  let role : String × Json.Datum := ("role", .string (some "b/c"))
  have carries : r.Carries
      [("x", .object [(some "username", .number [0x31])]), name, ("x", .array [.array []]),
       username, role] := by
    let written : List (Json.Written × Json.Value) :=
      [(text "x", .object [(text "username", .number [0x31])]), (text "name", .null),
       (text "x", .array [.array []]), (escaped, .string smiling),
       (text "role", .string (text "b/c"))]
    refine ⟨Http.Request.hasJsonType_of_headers rfl, by decide +kernel, written, ?_, ?_⟩
    · exact (Json.parse?_eq_some_iff _ _).mp rfl
    · simp only [written, List.forall₂_cons, ← Json.Written.toString?_eq_some_iff]
      have hescaped : escaped.toString? = some "username" := by decide +kernel
      have hsmiling : smiling.toString? = some "an😀" := by decide +kernel
      exact ⟨⟨rfl, rfl⟩, ⟨rfl, rfl⟩, ⟨rfl, rfl⟩, ⟨hescaped, congrArg Json.Datum.string hsmiling⟩,
        ⟨rfl, rfl⟩, .nil⟩
  have carries' : r'.Carries [role, username, name] := by
    let written : List (Json.Written × Json.Value) :=
      [(text "role", .string (text "b/c")), (text "username", .string (text "an😀")),
       (text "name", .null)]
    refine ⟨Http.Request.hasJsonType_of_headers rfl, by decide +kernel, written, ?_, ?_⟩
    · exact (Json.parse?_eq_some_iff _ _).mp rfl
    · simp only [written, List.forall₂_cons, ← Json.Written.toString?_eq_some_iff]
      exact ⟨⟨rfl, rfl⟩, ⟨rfl, rfl⟩, ⟨rfl, rfl⟩, .nil⟩
  obtain ⟨registration, credentials⟩ := decodes_of_object r _ carries
  refine ⟨by decide +kernel, ?_, ?_⟩
  · exact registration.unchanged r' _ carries' (List.reverse_perm [name, username, role])
  · exact credentials.unchanged r' _ carries' (List.reverse_perm [name, username, role])

end Registrar
