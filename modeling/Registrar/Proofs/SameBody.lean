import Registrar.Proofs.Fields
import Registrar.Proofs.HashString
import Registrar.Proofs.Provenance

/-! # A login with the body of a registration

The bytes with which an account was registered are good for its login, as often as one likes, for
the rest of the session.

* `Registration.credentials`: what a login takes of a registration.
* `login_credentials_of_row`: where the row of a registration is in the table, a login with its
  credentials succeeds.
* `Request.json?_eq_some_iff`: what two requests with the same body have in common.
* `login_of_same_body`: the login along a run.
-/

namespace Registrar
open Api Http Password
set_option autoImplicit false

/-! ## The row of a registration -/

def Registration.credentials (x : Registration) : Credentials := ⟨x.username, x.password, x.role⟩

section
variable {rules : Rules} {salt : Salt} {x : Registration} {a : Account}

/-- The credentials of a valid registration are valid, and its own row fits them. -/
theorem Registration.exists_fits_of_validate (h : x.validate rules salt = .ok a) :
    ∃ attempt, x.credentials.validate rules = .ok attempt ∧
      attempt.Fits rules.passwords a := by
  obtain ⟨hu, -, ⟨p, hp, hsealed⟩, hr, hneeded⟩ :=
    (Registration.validate_eq_ok_iff rules salt x a).mp h
  refine ⟨⟨a.username, p, given x.role⟩, Credentials.validate_of_given hu hp hneeded, ?_⟩
  exact
    { username := rfl
      password := Scheme.verify_of_sealed hsealed
      role := fun wanted hw => hr.trans hw }

theorem login_credentials_of_row {t : Table} (h : x.validate rules salt = .ok a)
    (ha : a ∈ t.rows) (up : t.available = true) :
    (login rules x.credentials t).value = .ok () := by
  obtain ⟨attempt, hv, hfits⟩ := Registration.exists_fits_of_validate h
  exact (login_eq_ok_iff hv up).mpr ⟨a, ha, hfits⟩

end

/-! ## The same bytes in two requests -/

theorem Http.Request.json?_eq_some_iff (r : Request) (v : Json.Value) :
    r.json? = some v ↔
      r.hasJsonType = true ∧ r.body.length ≤ Request.bodyLimit ∧
        Json.parse? r.body = some v := by
  simp only [Http.Request.json?, Option.ite_none_right_eq_some, Bool.and_eq_true,
    decide_eq_true_eq, and_assoc]

theorem Http.Request.hasJsonType_of_headers {r : Request}
    (h : r.headers = [("content-type", "application/json")]) : r.hasJsonType = true := by
  unfold Http.Request.hasJsonType Http.Request.header?
  rw [h]
  decide

theorem task_of_same_body {r r' : Request} {x : Registration}
    {ms : List (Json.Written × Json.Value)} (hr : r.json?.bind Registration.ofJson? = some x)
    (hbody : r'.body = r.body) (htype : r'.hasJsonType = true)
    (hms : Json.parse? r.body = some (.object ms))
    (agree : ∀ u n, (Json.Value.object ms).Gives "username" u →
      (Json.Value.object ms).Gives "name" n → u = n)
    (hendpoint : r'.endpoint? = some .loginBody) : r'.task = .login x.credentials := by
  obtain ⟨v, hv, hx⟩ := Option.bind_eq_some_iff.mp hr
  obtain ⟨-, hlength, hparse⟩ := (Http.Request.json?_eq_some_iff r v).mp hv
  rw [hms, Option.some.injEq] at hparse
  subst hparse
  have hjson : r'.json? = some (.object ms) :=
    (Http.Request.json?_eq_some_iff r' _).mpr ⟨htype, hbody ▸ hlength, hbody ▸ hms⟩
  have hcredentials : r'.json?.bind Credentials.ofJson? = some x.credentials := by
    rw [hjson]
    exact Credentials.ofJson?_of_registration hx agree
  simp only [Http.Request.task, hendpoint, hcredentials]

namespace Session

/-! ## Along a run -/

section
variable {rules : Rules} {t : Table} {steps : List (Salt × Step)}

/-- A request answered with 201 has registered what its body says, and the row is there from the
next step on. -/
theorem exists_row_of_created {i j : Nat} {salt : Salt} {r : Request} {response : Response}
    (hi : steps[i]? = some (salt, .call (.http r))) (hmethod : r.method = "POST")
    (hpath : r.target.path = "/register")
    (ho : outcomeAt rules t steps i = some (.response response)) (hstatus : response.status = 201)
    (hij : i < j) :
    ∃ x a, r.json?.bind Registration.ofJson? = some x ∧ x.validate rules salt = .ok a ∧
      a ∈ (tableAt rules t steps j).rows := by
  rw [outcomeAt_eq hi, Option.some.injEq] at ho
  have hwrites : (added rules salt (.call (.http r)) (tableAt rules t steps i)).isSome = true :=
    (isSome_added_http_iff r).mpr ⟨hmethod, hpath, response, ho, hstatus⟩
  obtain ⟨a, ha⟩ := Option.isSome_iff_exists.mp hwrites
  obtain ⟨c, x, hc, htask, hv, -⟩ := registered_of_added (indirect_http r) ha
  cases hc
  refine ⟨x, a, (endpoint?_of_registration htask).2, hv, ?_⟩
  -- The row is the last one after step `i`, and rows are never lost.
  have hnext : a ∈ (tableAt rules t steps (i + 1)).rows := by
    rw [tableAt_succ hi, rows_step, ha, Option.toList_some]
    exact List.mem_append_right _ List.mem_cons_self
  exact (rows_isPrefix rules t steps hij).subset hnext

end

/-- **One body for both.** Let a body be the text of an object that does not give two usernames
that differ. If it is posted for registration and answered with 201, then at every later step at
which the table is available the same bytes, posted for login, are answered with 200. -/
theorem login_of_same_body (rules : Rules) (t : Table) (steps : List (Salt × Step)) (i j : Nat)
    (salt salt' : Salt) (r r' : Request) (response : Response)
    (ms : List (Json.Written × Json.Value))
    (registration : r.method = "POST" ∧ r.target.path = "/register")
    (created : outcomeAt rules t steps i = some (.response response) ∧ response.status = 201)
    (login : r'.method = "POST" ∧ r'.target.path = "/login" ∧ r'.hasJsonType = true)
    (same : r'.body = r.body) (object : Json.parse? r.body = some (.object ms))
    (agree : ∀ u n, (Json.Value.object ms).Gives "username" u →
      (Json.Value.object ms).Gives "name" n → u = n)
    (hi : steps[i]? = some (salt, .call (.http r)))
    (hj : steps[j]? = some (salt', .call (.http r'))) (later : i < j)
    (up : (tableAt rules t steps j).available = true) :
    ∃ answer, outcomeAt rules t steps j = some (.response answer) ∧ answer.status = 200 := by
  obtain ⟨hmethod, hpath, htype⟩ := login
  obtain ⟨x, a, hx, hv, ha⟩ := exists_row_of_created hi registration.1 registration.2 created.1
    created.2 later
  have hendpoint : r'.endpoint? = some .loginBody :=
    (endpoint?_eq_some_iff r' .loginBody).mpr ⟨hpath, List.mem_singleton.mpr hmethod⟩
  have htask := task_of_same_body hx same htype object agree hendpoint
  have hanswer := outcomeAt_of_login rules t hj htask
  rw [login_credentials_of_row hv ha up] at hanswer
  refine ⟨_, hanswer, ?_⟩
  rw [status_dressed]
  rfl

/-- Ann's body gives her name under both keys, once with an escape, and a blank role. The table is
lost and found again before she logs in. -/
theorem login_of_same_body_ann :
    let rules : Rules := ⟨.optional, .plaintext⟩
    let body := Text.Utf8.encode
      ("\x7b\"username\":\"ann\",\"name\":\"an\\u006e\",\"email\":\"a@x.org\"," ++
        "\"password\":\"pw\",\"role\":\" \"\x7d")
    let posted (path : String) : Request :=
      ⟨"POST", .parse path, [("content-type", "application/json")], body⟩
    let steps : List (Salt × Step) :=
      [(.ofNat 1, .call (.http (posted "/register"))), (.ofNat 2, .setAvailable false),
       (.ofNat 3, .setAvailable true), (.ofNat 4, .call (.http (posted "/login")))]
    ∃ answer, outcomeAt rules ⟨[], true⟩ steps 3 = some (.response answer) ∧
      answer.status = 200 := by
  intro rules body posted steps
  let members : List (Json.Written × Json.Value) :=
    [(.ofString "username", .string (.ofString "ann")),
     (.ofString "name", .string [.byte 0x61, .byte 0x6E, .unit 0x6E]),
     (.ofString "email", .string (.ofString "a@x.org")),
     (.ofString "password", .string (.ofString "pw")),
     (.ofString "role", .string (.ofString " "))]
  have object : Json.parse? body = some (.object members) := rfl
  have agree : ∀ u n, (Json.Value.object members).Gives "username" u →
      (Json.Value.object members).Gives "name" n → u = n := by
    have same : ∀ u ∈ texts members "username", ∀ n ∈ texts members "name", u = n := by
      decide +kernel
    intro u n hu hn
    exact same u ((gives_object_iff _ _ _).mp hu) n ((gives_object_iff _ _ _).mp hn)
  exact login_of_same_body rules ⟨[], true⟩ steps 0 3 _ _ (posted "/register") (posted "/login") _
    members ⟨rfl, rfl⟩ ⟨rfl, rfl⟩ ⟨rfl, rfl, Http.Request.hasJsonType_of_headers rfl⟩ rfl object
    agree rfl rfl (by decide) (by decide)

end Session

end Registrar
