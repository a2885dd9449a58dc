import Registrar.Proofs.JsonGrammar
import Registrar.Proofs.SameBody
import Registrar.Proofs.Transport

/-! # Bodies that are taken and bodies that are refused

A body posted for a registration or for a login has to spell an object, or an array that lists
exactly the fields in their order. Every other byte sequence is refused before the store is asked
for anything. So an array can register an account, and so can an object that is no text, as long as
its ill-formed bytes stand in a string that is skipped.

* `IsObjectText`: UTF-8 that spells one object.
* `ListsFields`: bytes that spell an array of strings and nulls, with the fields that they mean.
* `Refuses`: the reply to a body that is refused.
* `refuses_unless_shaped`: what is refused, and what becomes of an array of fields.
* `registers_beyond_objects`: two bodies that are no object texts and register an account.
-/

namespace Registrar
open Api Http Password Text
open Text.Utf8 (Bytes)
set_option autoImplicit false

/-! ## Shapes -/

def SpellsObject (bs : Bytes) : Prop := ∃ ms, Json.Spells (.text (.object ms)) bs

def IsObjectText (bs : Bytes) : Prop := (Utf8.decode? bs).isSome = true ∧ SpellsObject bs

/-- An array of strings and nulls; a null means a field that is absent. -/
def ListsFields (fields : List (Option String)) (bs : Bytes) : Prop :=
  ∃ vs, Json.Spells (.text (.array vs)) bs ∧ vs.map Json.Value.field? = fields.map some

theorem mapM_eq_some_iff_map {α β : Type} (f : α → Option β) (xs : List α) (ys : List β) :
    xs.mapM f = some ys ↔ xs.map f = ys.map some := by
  induction xs generalizing ys with
  | nil => cases ys <;> simp
  | cons x xs ih =>
    rw [List.mapM_cons]
    cases ys with
    | nil =>
      cases f x with
      | none => simp
      | some y => cases xs.mapM f <;> simp
    | cons y ys =>
      simp only [Option.bind_eq_bind, Option.bind_eq_some_iff, List.map_cons, List.cons_eq_cons,
        ← ih, Option.pure_def, Option.some.injEq]
      constructor
      · rintro ⟨z, hz, zs, hzs, rfl, rfl⟩
        exact ⟨hz, hzs⟩
      · rintro ⟨hz, hzs⟩
        exact ⟨y, hz, ys, hzs, rfl, rfl⟩

theorem fields?_array_eq_some_iff (names : List String) (vs : List Json.Value)
    (fields : List (Option String)) :
    fields? names (.array vs) = some fields ↔
      fields.length = names.length ∧ vs.map Json.Value.field? = fields.map some := by
  simp only [fields?, Option.ite_none_right_eq_some, mapM_eq_some_iff_map]
  constructor
  · rintro ⟨hlength, hfields⟩
    have := congrArg List.length hfields
    simp only [List.length_map] at this
    exact ⟨this.symm.trans hlength, hfields⟩
  · rintro ⟨hlength, hfields⟩
    have := congrArg List.length hfields
    simp only [List.length_map] at this
    exact ⟨this.trans hlength, hfields⟩

/-! ## What is read -/

theorem spellsObject_iff (bs : Bytes) :
    SpellsObject bs ↔ ∃ ms, Json.parse? bs = some (.object ms) := by
  simp only [SpellsObject, Json.parse?_eq_some_iff]

theorem listsFields_iff (fields : List (Option String)) (bs : Bytes) :
    ListsFields fields bs ↔
      ∃ vs, Json.parse? bs = some (.array vs) ∧
        vs.map Json.Value.field? = fields.map some := by
  simp only [ListsFields, Json.parse?_eq_some_iff]

section Read
variable {α : Type} {names : List String} {ofFields? : List (Option String) → Option α}
  {r : Request}

/-- A body from which fields are read spells an object, or an array with one item for each. -/
theorem shape_of_read {x : α}
    (h : r.json?.bind (fun v => (fields? names v).bind ofFields?) = some x) :
    SpellsObject r.body ∨ ∃ fields, fields.length = names.length ∧ ListsFields fields r.body := by
  obtain ⟨v, hjson, hread⟩ := Option.bind_eq_some_iff.mp h
  obtain ⟨fields, hfields, -⟩ := Option.bind_eq_some_iff.mp hread
  obtain ⟨-, -, hparse⟩ := (Http.Request.json?_eq_some_iff r v).mp hjson
  cases v with
  | object ms => exact .inl ((spellsObject_iff _).mpr ⟨ms, hparse⟩)
  | array vs =>
    obtain ⟨hlength, hvs⟩ := (fields?_array_eq_some_iff names vs fields).mp hfields
    exact .inr ⟨fields, hlength, (listsFields_iff _ _).mpr ⟨vs, hparse, hvs⟩⟩
  | null | boolean _ | number _ | string _ => cases hfields

theorem unread_of_shape (object : ¬SpellsObject r.body)
    (array : ∀ fields, fields.length = names.length → ¬ListsFields fields r.body) :
    r.json?.bind (fun v => (fields? names v).bind ofFields?) = none := by
  cases hread : r.json?.bind (fun v => (fields? names v).bind ofFields?) with
  | none => rfl
  | some x =>
    rcases shape_of_read hread with h | ⟨fields, hlength, h⟩
    · exact absurd h object
    · exact absurd h (array fields hlength)

theorem read_of_listsFields {fields : List (Option String)} (h : ListsFields fields r.body)
    (hlength : fields.length = names.length) (type : r.hasJsonType = true)
    (limit : r.body.length ≤ Request.bodyLimit) :
    r.json?.bind (fun v => (fields? names v).bind ofFields?) = ofFields? fields := by
  obtain ⟨vs, hparse, hvs⟩ := (listsFields_iff _ _).mp h
  have hjson : r.json? = some (.array vs) :=
    (Http.Request.json?_eq_some_iff r _).mpr ⟨type, limit, hparse⟩
  have hfields : fields? names (.array vs) = some fields :=
    (fields?_array_eq_some_iff names vs fields).mpr ⟨hlength, hvs⟩
  rw [hjson, Option.bind_some, hfields, Option.bind_some]

end Read

/-! ## What is answered -/

/-- The reply to a request that is refused for its body; nothing else has happened. -/
structure Refuses {σ : Type} (r : Request) (e : Event) (s : σ) (reply : Reply σ Response) :
    Prop where
  status : reply.value.status = 400
  body : reply.value.body = Utf8.encode "\x7b\"error\":\"Invalid JSON body\"\x7d"
  records : reply.records = [.request r.method r.target.path, .event e]
  sent : reply.sent = []
  state : reply.state = s

section Answers
variable {σ : Type} [Store σ] {rules : Rules} {salt : Salt} {r : Request} {s : σ}

theorem refuses_of_run {endpoint : Endpoint} {e : Event} (posted : r.method = "POST")
    (hendpoint : r.endpoint? = some endpoint)
    (h : endpoint.run rules salt r s = ⟨invalidBody, [.event e], [], s⟩) :
    Refuses r e s (respond rules salt r s) := by
  have hno : r.method ≠ "HEAD" := by
    rw [posted]
    decide
  rw [respond_of_endpoint rules salt s hendpoint, h]
  exact
    { status := status_dressed r.method invalidBody
      body := (body_dressed hno invalidBody).trans rfl
      records := rfl
      sent := rfl
      state := rfl }

theorem refuses_register (posted : r.method = "POST") (path : r.target.path = "/register")
    (object : ¬SpellsObject r.body)
    (array : ∀ fields, fields.length = 5 → ¬ListsFields fields r.body) :
    Refuses r .registerBodyRejected s (respond rules salt r s) := by
  have hendpoint : r.endpoint? = some .register :=
    (endpoint?_eq_some_iff r .register).mpr ⟨path, List.mem_singleton.mpr posted⟩
  have hread : r.json?.bind Registration.ofJson? = none := unread_of_shape object array
  exact refuses_of_run posted hendpoint (by simp only [Endpoint.run, hread])

theorem refuses_login (posted : r.method = "POST") (path : r.target.path = "/login")
    (object : ¬SpellsObject r.body)
    (array : ∀ fields, fields.length = 4 → ¬ListsFields fields r.body) :
    Refuses r .loginBodyRejected s (respond rules salt r s) := by
  have hendpoint : r.endpoint? = some .loginBody :=
    (endpoint?_eq_some_iff r .loginBody).mpr ⟨path, List.mem_singleton.mpr posted⟩
  have hread : r.json?.bind Credentials.ofJson? = none := unread_of_shape object array
  exact refuses_of_run posted hendpoint (by simp only [Endpoint.run, hread])

end Answers

/-- **Which shapes of a body are refused.** Over every store and in every state, a body that spells
neither an object nor an array of exactly the fields is answered with 400, and nothing is asked of
the store. An array of exactly the fields is no error: it is taken as if its items had been sent
under the names of the fields. -/
theorem refuses_unless_shaped {σ : Type} [Store σ] (rules : Rules) (salt : Salt) (s : σ)
    (r : Request) (posted : r.method = "POST") :
    (r.target.path = "/register" →
      (¬SpellsObject r.body → (∀ fields, fields.length = 5 → ¬ListsFields fields r.body) →
        Refuses r .registerBodyRejected s (respond rules salt r s)) ∧
      ∀ username name email password role,
        ListsFields [username, name, email, password, role] r.body →
        r.hasJsonType = true → r.body.length ≤ Request.bodyLimit →
          Conveys r registerAnswer
            (register rules salt ⟨username.or name, email, password, role⟩ s)
            (respond rules salt r s)) ∧
    (r.target.path = "/login" →
      (¬SpellsObject r.body → (∀ fields, fields.length = 4 → ¬ListsFields fields r.body) →
        Refuses r .loginBodyRejected s (respond rules salt r s)) ∧
      ∀ name username password role,
        ListsFields [name, username, password, role] r.body →
        r.hasJsonType = true → r.body.length ≤ Request.bodyLimit →
          Conveys r loginAnswer (login rules ⟨name.or username, password, role⟩ s)
            (respond rules salt r s)) := by
  have hmethod : r.method ≠ "HEAD" ∧ r.method ≠ "OPTIONS" := by
    rw [posted]
    decide
  refine ⟨fun path => ⟨refuses_register posted path, ?_⟩,
    fun path => ⟨refuses_login posted path, ?_⟩⟩
  · intro username name email password role h type limit
    have htask : (Call.http r).task = .registration ⟨username.or name, email, password, role⟩ :=
      (Call.task_eq_registration_iff _ _).mpr ⟨posted, path, read_of_listsFields h rfl type limit⟩
    exact conveys_of_deliver hmethod (run_of_registration rules salt s htask)
  · intro name username password role h type limit
    have htask : (Call.http r).task = .login ⟨name.or username, password, role⟩ :=
      (Call.task_eq_login_iff _ _).mpr
        ⟨path, .inr ⟨posted, read_of_listsFields h rfl type limit⟩⟩
    exact conveys_of_deliver hmethod (run_of_login rules salt s htask)

/-- A string is refused on both paths; so is an array with an item too few. -/
theorem refuses_unless_shaped_ann :
    let posted (path body : String) : Request :=
      ⟨"POST", .parse path, [("content-type", "application/json")], Utf8.encode body⟩
    let string := posted "/register" "\"ann\""
    let short := posted "/login" " [\"ann\", null, \"pw\"]"
    let listed := posted "/register" "[\"ann\", null, \"a@x.org\", \"pw\", \"user\"]"
    let rules : Rules := ⟨.required, .plaintext⟩
    let t : Table := ⟨[], true⟩
    Refuses string .registerBodyRejected t (respond rules (.ofNat 1) string t) ∧
      Refuses short .loginBodyRejected t (respond rules (.ofNat 2) short t) ∧
      Conveys listed registerAnswer
        (register rules (.ofNat 3) ⟨some "ann", some "a@x.org", some "pw", some "user"⟩ t)
        (respond rules (.ofNat 3) listed t) := by
  intro posted string short listed rules t
  have hstring : Json.parse? string.body = some (.string (.ofString "ann")) := rfl
  have hshort : Json.parse? short.body =
      some (.array [.string (.ofString "ann"), .null, .string (.ofString "pw")]) := rfl
  have hlisted : Json.parse? listed.body =
      some (.array [.string (.ofString "ann"), .null, .string (.ofString "a@x.org"),
        .string (.ofString "pw"), .string (.ofString "user")]) := rfl
  refine ⟨?_, ?_, ?_⟩
  · refine ((refuses_unless_shaped rules (.ofNat 1) t string rfl).1 rfl).1 ?_ ?_
    · simp only [spellsObject_iff, hstring]
      simp
    · simp only [listsFields_iff, hstring]
      simp
  · refine ((refuses_unless_shaped rules (.ofNat 2) t short rfl).2 rfl).1 ?_ ?_
    · simp only [spellsObject_iff, hshort]
      simp
    · intro fields hlength h
      obtain ⟨vs, hparse, hvs⟩ := (listsFields_iff _ _).mp h
      rw [hshort] at hparse
      cases hparse
      have := congrArg List.length hvs
      simp [hlength] at this
  · refine ((refuses_unless_shaped rules (.ofNat 3) t listed rfl).1 rfl).2 (some "ann") none
      (some "a@x.org") (some "pw") (some "user") ?_ (Http.Request.hasJsonType_of_headers rfl)
      (by decide)
    exact (listsFields_iff _ _).mpr ⟨_, hlisted, rfl⟩

/-- Ann registers with an array, and with an object that has an ill-formed byte in a string which is
skipped. Neither is the text of an object, and neither is refused. -/
theorem registers_beyond_objects :
    let posted (body : Bytes) : Request :=
      ⟨"POST", .parse "/register", [("content-type", "application/json")], body⟩
    let array := posted (Utf8.encode "[\"ann\",null,\"a@x.org\",\"pw\",\"user\"]")
    let illFormed := posted
      (Utf8.encode ("\x7b\"username\":\"ann\",\"email\":\"a@x.org\",\"password\":\"pw\"," ++
        "\"role\":\"user\",\"x\":\"") ++ [0xFF] ++ Utf8.encode "\"\x7d")
    let rules : Rules := ⟨.required, .plaintext⟩
    let ann : Account := ⟨"ann", "a@x.org", "pw", some "user"⟩
    ∀ r ∈ [array, illFormed], ¬IsObjectText r.body ∧
      (respond rules (.ofNat 1) r (⟨[], true⟩ : Table)).value.status = 201 ∧
      (respond rules (.ofNat 1) r (⟨[], true⟩ : Table)).state.rows = [ann] := by
  intro posted array illFormed rules ann r hr
  have hcases : r = array ∨ r = illFormed := by
    simpa only [List.mem_cons, List.not_mem_nil, or_false] using hr
  rcases hcases with rfl | rfl
  · refine ⟨?_, by rfl, by rfl⟩
    rintro ⟨-, hobject⟩
    obtain ⟨ms, hms⟩ := (spellsObject_iff _).mp hobject
    have hparse : Json.parse? array.body =
        some (.array [.string (.ofString "ann"), .null, .string (.ofString "a@x.org"),
          .string (.ofString "pw"), .string (.ofString "user")]) := rfl
    rw [hparse] at hms
    cases hms
  · refine ⟨?_, by rfl, by rfl⟩
    rintro ⟨htext, -⟩
    have hno : (Utf8.decode? illFormed.body).isSome = false := by decide +kernel
    rw [hno] at htext
    cases htext

end Registrar
