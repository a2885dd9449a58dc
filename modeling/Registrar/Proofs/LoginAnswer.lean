import Registrar.Proofs.Login
import Registrar.Proofs.Provenance
import Registrar.Proofs.Routing
import Registrar.Proofs.Transaction
import Registrar.Proofs.Transport

/-! # What the answer to a login tells

The response to a login with all required fields is one of three, whoever logs in and whatever the
store has: it says that the look-up failed, that some row found is the user's, or that none is.

* `Request.Attempts`: a request that logs in with all required fields.
* `Attempt.Recognizes`: some row has the role asked for and a password that verifies.
* `LookupFails`: a store fails to look up a username.
* `login_reveals_one_bit`: the responses of two runs.
-/

namespace Registrar
open Api Http Password Text
set_option autoImplicit false

structure Http.Request.Attempts (rules : Rules) (r : Request) (a : Attempt) : Prop where
  method : r.method = "GET" ∨ r.method = "POST"
  credentials : ∃ c, (Call.http r).LogsIn c ∧ c.validate rules = .ok a

/-! ## Rows that are recognized -/

def Attempt.Recognizes (scheme : Scheme) (a : Attempt) (rows : List Account) : Prop :=
  ∃ b ∈ rows, (∀ wanted, a.role = some wanted → b.role = some wanted) ∧
    scheme.verify b.password a.password = true

/-- Why a row is not recognized. -/
inductive Attempt.Misses (scheme : Scheme) (a : Attempt) (b : Account) : Prop where
  | role {wanted : String} (asked : a.role = some wanted) (other : b.role ≠ some wanted)
  | password (wrong : scheme.verify b.password a.password = false)
  | format (hashed : scheme = .argon2) (unparsed : Phc.parse? b.password = none)

theorem Attempt.any_matches_eq_true_iff (scheme : Scheme) (a : Attempt) (rows : List Account) :
    rows.any (a.matches scheme) = true ↔ a.Recognizes scheme rows := by
  simp only [List.any_eq_true, Attempt.matches_eq_true_iff, Attempt.Recognizes]

theorem Scheme.verify_of_unparsed {stored : String} (h : Phc.parse? stored = none)
    (supplied : String) : Scheme.argon2.verify stored supplied = false := by
  simp only [Scheme.verify, Hashed.verify, h, Option.bind_none]

theorem Attempt.not_recognizes {scheme : Scheme} {a : Attempt} {rows : List Account}
    (h : ∀ b ∈ rows, a.Misses scheme b) : ¬a.Recognizes scheme rows := by
  rintro ⟨b, hb, hrole, hverify⟩
  cases h b hb with
  | role asked other => exact other (hrole _ asked)
  | password wrong =>
    rw [wrong] at hverify
    cases hverify
  | format hashed unparsed =>
    rw [hashed, Scheme.verify_of_unparsed unparsed] at hverify
    cases hverify

/-! ## Look-ups that fail -/

def LookupFails {σ : Type} [Store σ] (username : String) (s : σ) : Prop :=
  ∃ e, (Store.find username s).value = .error e

theorem Table.lookupFails_iff (u : String) (t : Table) :
    LookupFails u t ↔ t.available = false := by
  have hvalue : (Store.find u t).value = t.find u := rfl
  rw [LookupFails, hvalue, Table.find]
  cases t.available <;> simp

namespace Database.Pool

theorem lookupFails_of_closed {pool : Pool} (h : pool.isOpen = false) (u : String) :
    LookupFails u pool := by
  have hconnection : pool.connection = .error .poolClosed := by simp [connection, h]
  exact ⟨.database .poolClosed, by simp only [Store.find, hconnection]; rfl⟩

/-- The code of the report does not matter, nor does its severity. -/
theorem lookupFails_of_fault {pool : Pool} {p : Peer} {report : Report} {u : String}
    (connected : pool.connection = .ok p) (unspent : Command.selectAccounts ∉ p.spent)
    (h : p.fault (.select u) = some report) : LookupFails u pool := by
  have hexecute := Peer.execute_of_fault_some (s := .select u) unspent h
  exact ⟨.database report.error, by simp only [Store.find, connected, findAccounts, hexecute]⟩

end Database.Pool

/-! ## The three responses -/

section Responses
variable {σ : Type} [Store σ] {rules : Rules} {r : Request} {a : Attempt} (salt : Salt) (s : σ)

theorem dressed_of_attempts (h : r.Attempts rules a) (response : Response) :
    dressed r.method response = dressed "GET" response := by
  rcases h.method with hm | hm
  · rw [hm]
  · rw [hm]
    rfl

theorem respond_of_attempts (h : r.Attempts rules a) :
    (respond rules salt r s).value =
      dressed "GET"
        (loginAnswer (a.verdict rules.passwords (Store.find a.username s).value).1) := by
  obtain ⟨c, hcaller, hvalid⟩ := h.credentials
  have htask : r.task = .login c := (Call.task_eq_login_iff (.http r) c).mpr hcaller
  rw [respond_of_login rules salt s htask, login_of_valid rules s hvalid, dressed_of_attempts h]

theorem respond_of_lookupFails (h : r.Attempts rules a) (fails : LookupFails a.username s) :
    (respond rules salt r s).value = dressed "GET" serverError := by
  obtain ⟨e, he⟩ := fails
  rw [respond_of_attempts salt s h, he]
  cases e <;> rfl

theorem respond_of_recognizes (h : r.Attempts rules a) {rows : List Account}
    (found : (Store.find a.username s).value = .ok rows)
    (known : a.Recognizes rules.passwords rows) :
    (respond rules salt r s).value = dressed "GET" loggedIn := by
  rw [respond_of_attempts salt s h, found, Attempt.verdict,
    if_pos ((a.any_matches_eq_true_iff rules.passwords rows).mpr known)]
  rfl

theorem respond_of_not_recognizes (h : r.Attempts rules a) {rows : List Account}
    (found : (Store.find a.username s).value = .ok rows)
    (unknown : ¬a.Recognizes rules.passwords rows) :
    (respond rules salt r s).value = dressed "GET" invalidCredentials := by
  rw [← a.any_matches_eq_true_iff] at unknown
  rw [respond_of_attempts salt s h, found, Attempt.verdict, if_neg unknown]
  rfl

end Responses

/-- **A login tells one bit.** For two logins with all required fields, by query or by body, over
two stores of any kind:

* where both look-ups fail, the responses are the same, with status 500 and no detail;
* where both succeed, the responses are the same if both find a row that is recognized or neither
  does, whatever else the stores have and whoever logs in; the status is 200 or 401;
* rows of another role, with another password or with a text that is no hash string are all refused
  alike.

A look-up fails over a table that is not available, over a closed pool, and where the server reports
an error for it, whichever error it is. -/
theorem login_reveals_one_bit {σ τ : Type} [Store σ] [Store τ] (rules : Rules)
    (salt salt' : Salt) (s : σ) (t : τ) (r r' : Request) (a a' : Attempt)
    (h : r.Attempts rules a) (h' : r'.Attempts rules a') :
    (LookupFails a.username s →
      (respond rules salt r s).value.status = 500 ∧
      (respond rules salt r s).value.body = Utf8.encode "\x7b\"error\":\"Server error\"\x7d" ∧
      (LookupFails a'.username t →
        (respond rules salt r s).value = (respond rules salt' r' t).value)) ∧
    (∀ rows, (Store.find a.username s).value = .ok rows →
      (a.Recognizes rules.passwords rows →
        (respond rules salt r s).value.status = 200 ∧
        (respond rules salt r s).value.body =
          Utf8.encode "\x7b\"message\":\"Login successful\"\x7d") ∧
      (¬a.Recognizes rules.passwords rows →
        (respond rules salt r s).value.status = 401 ∧
        (respond rules salt r s).value.body =
          Utf8.encode "\x7b\"error\":\"Invalid credentials\"\x7d") ∧
      ∀ rows', (Store.find a'.username t).value = .ok rows' →
        (a.Recognizes rules.passwords rows ↔ a'.Recognizes rules.passwords rows') →
          (respond rules salt r s).value = (respond rules salt' r' t).value) ∧
    (∀ rows, (∀ b ∈ rows, a.Misses rules.passwords b) → ¬a.Recognizes rules.passwords rows) ∧
    (∀ u (t : Table), LookupFails u t ↔ t.available = false) ∧
    (∀ u (pool : Database.Pool), pool.isOpen = false → LookupFails u pool) ∧
    ∀ u (pool : Database.Pool) p report, pool.connection = .ok p →
      Database.Command.selectAccounts ∉ p.spent → p.fault (.select u) = some report →
        LookupFails u pool := by
  refine ⟨?_, ?_, fun _ => Attempt.not_recognizes, Table.lookupFails_iff,
    fun u _ closed => Database.Pool.lookupFails_of_closed closed u,
    fun _ _ _ _ => Database.Pool.lookupFails_of_fault⟩
  · intro fails
    rw [respond_of_lookupFails salt s h fails]
    refine ⟨rfl, rfl, ?_⟩
    intro fails'
    rw [respond_of_lookupFails salt' t h' fails']
  · intro rows found
    refine ⟨?_, ?_, ?_⟩
    · intro known
      rw [respond_of_recognizes salt s h found known]
      exact ⟨rfl, rfl⟩
    · intro unknown
      rw [respond_of_not_recognizes salt s h found unknown]
      exact ⟨rfl, rfl⟩
    · intro rows' found' same
      by_cases known : a.Recognizes rules.passwords rows
      · rw [respond_of_recognizes salt s h found known,
          respond_of_recognizes salt' t h' found' (same.mp known)]
      · have unknown' : ¬a'.Recognizes rules.passwords rows' := fun hk => known (same.mpr hk)
        rw [respond_of_not_recognizes salt s h found known,
          respond_of_not_recognizes salt' t h' found' unknown']

/-- Ann has a wrong password, and nobody knows Bob. Then the table is lost, and a server reports a
unique violation for a look-up. -/
theorem login_reveals_one_bit_ann :
    let rules : Rules := ⟨.optional, .plaintext⟩
    let ann : Request := ⟨"GET", .parse "/login?name=ann&password=guess", [], []⟩
    let bob : Request := ⟨"POST", .parse "/login", [("content-type", "application/json")],
      Utf8.encode "\x7b\"username\":\"bob\",\"password\":\"pw\"\x7d"⟩
    let t : Table := ⟨[⟨"ann", "a@x.org", "pw", none⟩], true⟩
    let lost : Table := ⟨[], false⟩
    let pool : Database.Pool := .opened .idle
    let failing : Database.Pool := .opened
      { Database.Peer.idle with fault := fun _ => some ⟨"ERROR", "23505", "duplicate key"⟩ }
    (respond rules (.ofNat 1) ann t).value = (respond rules (.ofNat 2) bob pool).value ∧
      (respond rules (.ofNat 3) ann lost).value =
        (respond rules (.ofNat 4) bob failing).value ∧
      (respond rules (.ofNat 3) ann lost).value.status = 500 := by
  intro rules ann bob t lost pool failing
  have hann : ann.Attempts rules ⟨"ann", "guess", none⟩ :=
    { method := .inl rfl
      credentials := ⟨⟨some "ann", some "guess", none⟩,
        ⟨rfl, .inl ⟨List.mem_cons_self, by decide +kernel⟩⟩, rfl⟩ }
  have hbob : bob.Attempts rules ⟨"bob", "pw", none⟩ :=
    { method := .inr rfl
      credentials := ⟨⟨some "bob", some "pw", none⟩, ⟨rfl, .inr ⟨rfl, by rfl⟩⟩, rfl⟩ }
  obtain ⟨-, hfound, hmiss, -⟩ :=
    login_reveals_one_bit rules (.ofNat 1) (.ofNat 2) t pool ann bob _ _ hann hbob
  obtain ⟨hfails, -, -, htable, -, hpool⟩ :=
    login_reveals_one_bit rules (.ofNat 3) (.ofNat 4) lost failing ann bob _ _ hann hbob
  have hlost : LookupFails "ann" lost := (htable "ann" lost).mpr rfl
  have hfailing : LookupFails "bob" failing :=
    hpool "bob" failing _ ⟨"ERROR", "23505", "duplicate key"⟩ rfl (by decide) rfl
  obtain ⟨hstatus, -, hsame⟩ := hfails hlost
  refine ⟨?_, hsame hfailing, hstatus⟩
  have hguess : ¬Attempt.Recognizes .plaintext ⟨"ann", "guess", none⟩ t.rows := by
    refine hmiss t.rows ?_
    intro b hb
    rw [List.mem_singleton.mp hb]
    exact .password (by decide)
  have hnobody : ¬Attempt.Recognizes .plaintext ⟨"bob", "pw", none⟩ [] :=
    Attempt.not_recognizes (by simp)
  exact (hfound t.rows rfl).2.2 [] rfl ⟨fun h => absurd h hguess, fun h => absurd h hnobody⟩

end Registrar
