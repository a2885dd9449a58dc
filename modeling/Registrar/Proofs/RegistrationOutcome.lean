import Registrar.Proofs.BodySize
import Registrar.Proofs.Provenance
import Registrar.Proofs.SameBody

/-! # The outcome of a registration over HTTP

What is answered to a request that posts a registration, and what becomes of the table, said
without the services and stores between the two.

* `Registration.IsComplete`: no required field is missing or blank.
* `Http.Request.Reads`: a request from which a registration is read.
* `Verdict`: the five ways in which such a request ends, no two of which go together.
* `exists_verdict`, `respond_of_verdict`: one of them always applies, and it is the response.
* `respond_iff_verdict`: both in one.
-/

namespace Registrar
open Api Http Password
set_option autoImplicit false

/-! ## What is read -/

/-- The field is not there, or all its characters are blank. -/
def IsMissing (field : Option String) : Prop :=
  ∀ s, field = some s → ∀ c ∈ s.toList, Text.isBlank c = true

structure Registration.IsComplete (rules : Rules) (x : Registration) : Prop where
  username : ¬IsMissing x.username
  email : ¬IsMissing x.email
  password : ¬IsMissing x.password
  role : rules.roles = .required → ¬IsMissing x.role

/-- The content type is one of JSON, the body is not too long, and it is a registration. -/
structure Http.Request.Reads (r : Request) (x : Registration) : Prop where
  typed : r.hasJsonType = true
  fits : r.body.length ≤ 2097152
  decoded : (Json.parse? r.body).bind Registration.ofJson? = some x

theorem given_eq_none_iff (field : Option String) : given field = none ↔ IsMissing field := by
  cases field with
  | none => simp [given, IsMissing]
  | some s =>
    have hink : Text.hasInk s = false ↔ IsMissing (some s) := by
      simp [Text.hasInk, IsMissing]
    rw [← hink]
    cases h : Text.hasInk s <;> simp [given, Option.filter, h]

theorem Registration.isComplete_iff (rules : Rules) (x : Registration) :
    x.IsComplete rules ↔ ¬x.Lacks rules := by
  unfold Registration.Lacks
  simp only [given_eq_none_iff, not_or, not_and]
  exact ⟨fun h => ⟨h.username, h.email, h.password, h.role⟩,
    fun ⟨hu, he, hp, hr⟩ => ⟨hu, he, hp, hr⟩⟩

theorem Http.Request.reads_iff (r : Request) (x : Registration) :
    r.Reads x ↔ r.json?.bind Registration.ofJson? = some x := by
  constructor
  · intro h
    obtain ⟨v, hparse, hx⟩ := Option.bind_eq_some_iff.mp h.decoded
    rw [(r.json?_eq_some_iff v).mpr ⟨h.typed, h.fits, hparse⟩]
    exact hx
  · intro h
    obtain ⟨v, hv, hx⟩ := Option.bind_eq_some_iff.mp h
    obtain ⟨typed, fits, hparse⟩ := (r.json?_eq_some_iff v).mp hv
    exact ⟨typed, fits, by rw [hparse]; exact hx⟩

/-! ## What is answered -/

/-- A response with this body, as it is sent. -/
def answer (status : Nat) (body : String) : Response :=
  ⟨status,
    [("content-length", String.ofList (Nat.toDigits 10 (Text.Utf8.encode body).length)),
     ("content-type", "application/json"), ("access-control-allow-origin", "*"),
     ("vary", "origin, access-control-request-method, access-control-request-headers")],
    Text.Utf8.encode body⟩

/-- How a request that posts a registration ends: its response and the table afterwards. -/
inductive Verdict (rules : Rules) (salt : Salt) (t : Table) (r : Request) :
    Response → Table → Prop where
  | unread (refused : r.hasJsonType = false ∨ 2097152 < r.body.length ∨
      (Json.parse? r.body).bind Registration.ofJson? = none) :
      Verdict rules salt t r (answer 400 "\x7b\"error\":\"Invalid JSON body\"\x7d") t
  | incomplete {x : Registration} (reads : r.Reads x) (lacking : ¬x.IsComplete rules) :
      Verdict rules salt t r (answer 400 "\x7b\"error\":\"All fields are required\"\x7d") t
  | unavailable {x : Registration} (reads : r.Reads x) (complete : x.IsComplete rules)
      (down : t.available = false) :
      Verdict rules salt t r
        (answer 500 "\x7b\"error\":\"pool timed out while waiting for an open connection\"\x7d") t
  | conflict {x : Registration} {b : Account} (reads : r.Reads x) (complete : x.IsComplete rules)
      (up : t.available = true) (mem : b ∈ t.rows)
      (clash : x.username = some b.username ∨ x.email = some b.email) :
      Verdict rules salt t r
        (answer 409 "\x7b\"error\":\"Username or Email already exists\"\x7d") t
  | registered {x : Registration} {a : Account} (reads : r.Reads x) (complete : x.IsComplete rules)
      (up : t.available = true)
      (free : ∀ b ∈ t.rows, x.username ≠ some b.username ∧ x.email ≠ some b.email)
      (row : x.Row rules.passwords salt a) :
      Verdict rules salt t r
        (answer 201 "\x7b\"message\":\"User registered successfully\"\x7d")
        ⟨t.rows ++ [a], t.available⟩

theorem Registration.Row.unique {scheme : Scheme} {salt : Salt} {x : Registration} {a b : Account}
    (ha : x.Row scheme salt a) (hb : x.Row scheme salt b) : a = b := by
  obtain ⟨p, hp, hsealed⟩ := ha.password
  obtain ⟨p', hp', hsealed'⟩ := hb.password
  rw [hp, Option.some.injEq] at hp'
  subst hp'
  have husername := ha.username.symm.trans hb.username
  have hemail := ha.email.symm.trans hb.email
  have hpassword := hsealed.symm.trans hsealed'
  have hrole := ha.role.trans hb.role.symm
  obtain ⟨username, email, password, role⟩ := a
  simp_all

theorem Registration.Row.clash_iff {scheme : Scheme} {salt : Salt} {x : Registration} {a : Account}
    (h : x.Row scheme salt a) (b : Account) :
    Table.clash a b = true ↔ x.username = some b.username ∨ x.email = some b.email := by
  rw [h.username, h.email, Option.some.injEq, Option.some.injEq, Table.clash, Bool.or_eq_true,
    beq_iff_eq, beq_iff_eq]

section
variable {rules : Rules} {salt : Salt} {t t' : Table} {r : Request} {response : Response}

/-! ## What the services do -/

theorem exists_row_of_reads {x : Registration} (reads : r.Reads x) (complete : x.IsComplete rules)
    (salt : Salt) : ∃ a, x.validate rules salt = .ok a ∧ x.Row rules.passwords salt a := by
  rcases validate_of_posted ((r.reads_iff x).mp reads) rules salt with hlacks | ⟨a, ha⟩
  · have hlacks := (Registration.validate_eq_missingFields_iff rules salt x).mp hlacks
    exact absurd hlacks ((Registration.isComplete_iff rules x).mp complete)
  · exact ⟨a, ha, Registration.row_of_validate ha⟩

variable (method : r.method = "POST") (path : r.target.path = "/register")

include method path

theorem respond_of_reads {x : Registration} (reads : r.Reads x) (salt : Salt) (t : Table) :
    (respond rules salt r t).value =
        dressed "POST" (registerAnswer (register rules salt x t).value) ∧
      (respond rules salt r t).state = (register rules salt x t).state := by
  have hregisters : (Call.http r).Registers x := ⟨method, path, (r.reads_iff x).mp reads⟩
  have htask := ((Call.http r).task_eq_registration_iff x).mpr hregisters
  rw [respond_of_registration rules salt t htask, method]
  exact ⟨rfl, rfl⟩

theorem respond_of_complete {x : Registration} (reads : r.Reads x) (complete : x.IsComplete rules)
    (salt : Salt) (t : Table) :
    ∃ a, x.Row rules.passwords salt a ∧
      (respond rules salt r t).value =
        dressed "POST" (registerAnswer ((t.insert a).1.mapError .ofStore)) ∧
      (respond rules salt r t).state = (t.insert a).2 := by
  obtain ⟨a, ha, row⟩ := exists_row_of_reads reads complete salt
  obtain ⟨hvalue, hstate⟩ := respond_of_reads method path reads salt t
  refine ⟨a, row, ?_, ?_⟩
  · rw [hvalue, register_of_valid rules salt t ha]
    rfl
  · rw [hstate, register_of_valid rules salt t ha]
    rfl

theorem respond_of_unread
    (refused : r.hasJsonType = false ∨ 2097152 < r.body.length ∨
      (Json.parse? r.body).bind Registration.ofJson? = none) :
    (respond rules salt r t).value = dressed "POST" invalidBody ∧
      (respond rules salt r t).state = t := by
  have hendpoint : r.endpoint? = some .register :=
    (endpoint?_eq_some_iff r .register).mpr ⟨path, List.mem_singleton.mpr method⟩
  have hnone : r.json?.bind Registration.ofJson? = none := by
    rw [Option.eq_none_iff_forall_ne_some]
    intro x hx
    have reads := (r.reads_iff x).mpr hx
    rcases refused with h | h | h
    · rw [reads.typed] at h
      cases h
    · exact absurd reads.fits (Nat.not_le_of_lt h)
    · rw [reads.decoded] at h
      cases h
  rw [respond_of_endpoint rules salt t hendpoint, Endpoint.run, hnone, method]
  exact ⟨rfl, rfl⟩

/-! ## The verdict -/

theorem respond_of_verdict (h : Verdict rules salt t r response t') :
    (respond rules salt r t).value = response ∧ (respond rules salt r t).state = t' := by
  -- In each case the services are followed to a response without variables, which is the answer
  -- byte for byte.
  cases h with
  | unread refused => exact respond_of_unread method path refused
  | @incomplete x reads lacking =>
    rw [Registration.isComplete_iff] at lacking
    have hlacks : x.Lacks rules := Classical.not_not.mp lacking
    obtain ⟨hvalue, hstate⟩ := respond_of_reads method path reads salt t
    rw [hvalue, hstate, register_of_lacks rules salt t hlacks]
    exact ⟨rfl, rfl⟩
  | @unavailable x reads complete down =>
    obtain ⟨a, -, hvalue, hstate⟩ := respond_of_complete method path reads complete salt t
    have hinsert : t.insert a = (.error Table.unavailable, t) := by
      simp [Table.insert, down]
    rw [hvalue, hstate, hinsert]
    exact ⟨rfl, rfl⟩
  | @conflict x b reads complete up mem clash =>
    obtain ⟨a, row, hvalue, hstate⟩ := respond_of_complete method path reads complete salt t
    have hconflict : (t.insert a).1 = .error .conflict :=
      (Table.insert_conflict_iff a t).mpr ⟨up, b, mem, (row.clash_iff b).mpr clash⟩
    rw [hvalue, hstate, Table.insert_snd, hconflict]
    exact ⟨rfl, rfl⟩
  | @registered x a reads complete up free row =>
    obtain ⟨b, row', hvalue, hstate⟩ := respond_of_complete method path reads complete salt t
    have hsame : b = a := row'.unique row
    subst hsame
    have hok : (t.insert b).1 = .ok () := by
      refine (Table.insert_ok_iff b t).mpr ⟨up, ?_⟩
      intro c hc
      rw [← Bool.not_eq_true, row.clash_iff, not_or]
      exact free c hc
    rw [hvalue, hstate, Table.insert_snd, hok]
    exact ⟨rfl, rfl⟩

omit method path

theorem exists_verdict (rules : Rules) (salt : Salt) (t : Table) (r : Request) :
    ∃ response t', Verdict rules salt t r response t' := by
  -- The guards one after another, in the order in which they are tried.
  by_cases hreads : ∃ x, r.Reads x
  · obtain ⟨x, reads⟩ := hreads
    by_cases complete : x.IsComplete rules
    · by_cases up : t.available = true
      · by_cases hclash : ∃ b ∈ t.rows, x.username = some b.username ∨ x.email = some b.email
        · obtain ⟨b, mem, clash⟩ := hclash
          exact ⟨_, _, .conflict reads complete up mem clash⟩
        · obtain ⟨a, -, row⟩ := exists_row_of_reads reads complete salt
          refine ⟨_, _, .registered reads complete up ?_ row⟩
          intro b mem
          rw [← not_or]
          exact fun clash => hclash ⟨b, mem, clash⟩
      · rw [Bool.not_eq_true] at up
        exact ⟨_, _, .unavailable reads complete up⟩
    · exact ⟨_, _, .incomplete reads complete⟩
  · refine ⟨_, _, .unread (Classical.byContradiction ?_)⟩
    intro hread
    rw [not_or, not_or, Bool.not_eq_false, Nat.not_lt, ← ne_eq, Option.ne_none_iff_exists'] at hread
    obtain ⟨typed, fits, x, decoded⟩ := hread
    exact hreads ⟨x, typed, fits, decoded⟩

end

/-- **The outcome of a registration.** A request that posts a registration ends in one of five ways,
tried in this order: its body is not read, a required field is missing, the table is not available,
a row has the username or the email, or the row is added. Only the last way changes the table, and
over an available table none is a failure of the server. -/
theorem respond_iff_verdict (rules : Rules) (salt : Salt) (t : Table) (r : Request)
    (method : r.method = "POST") (path : r.target.path = "/register") :
    (∀ response t', Verdict rules salt t r response t' ↔
      (respond rules salt r t).value = response ∧ (respond rules salt r t).state = t') ∧
      ((respond rules salt r t).state ≠ t → (respond rules salt r t).value.status = 201) ∧
      (t.available = true → (respond rules salt r t).value.status < 500) := by
  obtain ⟨response, t', h⟩ := exists_verdict rules salt t r
  obtain ⟨hvalue, hstate⟩ := respond_of_verdict method path h
  refine ⟨?_, ?_, ?_⟩
  · intro response' t''
    constructor
    · exact respond_of_verdict method path
    · rintro ⟨rfl, rfl⟩
      rw [hvalue, hstate]
      exact h
  · rw [hvalue, hstate]
    intro hne
    cases h with
    | registered => rfl
    | unread | incomplete | unavailable | conflict => exact absurd rfl hne
  · rw [hvalue]
    intro up
    cases h with
    | unavailable reads complete down =>
      rw [up] at down
      cases down
    | unread | incomplete | conflict | registered => decide

/-- Ann's username is taken in one row and her email in another; then both are free, and last the
table is lost. -/
theorem respond_iff_verdict_ann :
    let rules : Rules := ⟨.optional, .plaintext⟩
    let r : Request := ⟨"POST", .parse "/register", [("content-type", "application/json")],
      Text.Utf8.encode ("\x7b\"name\":\"ann\",\"email\":\"a@x.org\",\"password\":\"pw\"," ++
        "\"role\":\" \"\x7d")⟩
    let bob : Account := ⟨"bob", "b@x.org", "y", none⟩
    let taken : Table := ⟨[bob, ⟨"ann", "c@x.org", "x", none⟩, ⟨"eve", "a@x.org", "z", none⟩], true⟩
    let respond (t : Table) : Reply Table Response := respond rules (.ofNat 1) r t
    (respond taken).value =
        answer 409 "\x7b\"error\":\"Username or Email already exists\"\x7d" ∧
      (respond taken).state = taken ∧
      (respond ⟨[bob], true⟩).value =
        answer 201 "\x7b\"message\":\"User registered successfully\"\x7d" ∧
      (respond ⟨[bob], true⟩).state = ⟨[bob, ⟨"ann", "a@x.org", "pw", none⟩], true⟩ ∧
      (respond ⟨[bob], false⟩).value.status = 500 := by
  intro rules r bob taken respond
  let x : Registration := ⟨some "ann", some "a@x.org", some "pw", some " "⟩
  have reads : r.Reads x :=
    ⟨Http.Request.hasJsonType_of_headers rfl, by decide +kernel, by decide +kernel⟩
  have complete : x.IsComplete rules := by
    rw [Registration.isComplete_iff]
    rintro (h | h | h | ⟨h, -⟩) <;> exact absurd h (by decide)
  have verdict (t : Table) := (respond_iff_verdict rules (.ofNat 1) t r rfl rfl).1
  have row : x.Row rules.passwords (.ofNat 1) ⟨"ann", "a@x.org", "pw", none⟩ :=
    ⟨rfl, rfl, ⟨"pw", rfl, rfl⟩, by decide⟩
  have free : ∀ b ∈ [bob], x.username ≠ some b.username ∧ x.email ≠ some b.email := by
    decide
  obtain ⟨htaken, hkept⟩ := (verdict taken _ _).mp
    (.conflict reads complete rfl (List.mem_cons_of_mem _ List.mem_cons_self) (.inl rfl))
  obtain ⟨hfree, hadded⟩ := (verdict ⟨[bob], true⟩ _ _).mp (.registered reads complete rfl free row)
  obtain ⟨hlost, -⟩ := (verdict ⟨[bob], false⟩ _ _).mp (.unavailable reads complete rfl)
  exact ⟨htaken, hkept, hfree, hadded, congrArg Response.status hlost⟩

end Registrar
