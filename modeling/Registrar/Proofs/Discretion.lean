import Registrar.Proofs.BodySize
import Registrar.Proofs.Records
import Registrar.Proofs.Transaction

/-! # Passwords and the log

Two runs whose requests differ in the password alone log the same, unless their answers differ.

* `Alike`: two replies with the same value and the same records.
* `IgnoresPasswords`: a store whose insertions do not depend on the password. A table is one, and
  so is a pool over a server whose script is by command.
* `records_register_of_value`, `records_login_of_status`: the services in two runs.
* `Discreet`: nothing that is logged over a store tells a password.
* `passwords_stay_out_of_log`: tables are discreet, and pools are.
-/

namespace Registrar
open Api Http Password
set_option autoImplicit false

/-! ## Stores that ignore passwords -/

structure Alike {σ α : Type} (x y : Reply σ α) : Prop where
  value : x.value = y.value
  records : x.records = y.records

def IgnoresPasswords {σ : Type} [Store σ] (s : σ) : Prop :=
  ∀ (a : Account) (password : String),
    Alike (Store.insert { a with password := password } s) (Store.insert a s)

theorem Table.ignoresPasswords (t : Table) : IgnoresPasswords t := by
  intro a password
  have hclash : clash { a with password := password } = clash a := rfl
  have hvalue : (t.insert { a with password := password }).1 = (t.insert a).1 := by
    unfold insert
    rw [hclash]
    split
    · rfl
    · split <;> rfl
  exact ⟨hvalue, rfl⟩

namespace Database

/-- The server refuses the one row if it refuses the other, and for the same reason. -/
def Peer.IgnoresPasswords (p : Peer) : Prop :=
  ∀ (a : Account) (password : String),
    p.fault (.insert { a with password := password }) = p.fault (.insert a)

/-- What is refused depends on the text of a statement, and not on its parameters. -/
def Peer.IsByCommand (p : Peer) : Prop :=
  ∀ s s' : Statement, s.command = s'.command → p.fault s = p.fault s'

theorem Peer.IsByCommand.ignoresPasswords {p : Peer} (h : p.IsByCommand) : p.IgnoresPasswords :=
  fun _ _ => h _ _ rfl

theorem Peer.IgnoresPasswords.execute {p : Peer} (h : p.IgnoresPasswords) (a : Account)
    (password : String) :
    p.execute (.insert { a with password := password }) = p.execute (.insert a) := by
  unfold Peer.execute
  rw [h a password]
  rfl

namespace Pool

theorem alike_commit (before before' : List Statement) (p : Peer) :
    Alike (commit before p) (commit before' p) := by
  unfold commit
  split <;> exact ⟨rfl, rfl⟩

theorem alike_rollBack (e : Error) (before before' : List Statement) (p : Peer) :
    Alike (rollBack e before p) (rollBack e before' p) := by
  unfold rollBack
  split <;> exact ⟨rfl, rfl⟩

theorem alike_insertAccount {p : Peer} (ignores : p.IgnoresPasswords) (a : Account)
    (password : String) :
    Alike (insertAccount { a with password := password } p) (insertAccount a p) := by
  unfold insertAccount
  cases hbegin : p.execute (.plain .beginTransaction) with
  | mk failure q =>
    cases failure with
    | some e => exact ⟨rfl, rfl⟩
    | none =>
      obtain rfl := Peer.eq_of_execute hbegin
      simp only [ignores.execute a password]
      split
      · exact alike_rollBack _ _ _ _
      · exact alike_commit _ _ _

theorem ignoresPasswords {pool : Pool} (h : pool.peer.IgnoresPasswords) :
    Registrar.IgnoresPasswords pool := by
  intro a password
  simp only [Store.insert]
  cases hconnection : pool.connection with
  | error e => exact ⟨rfl, rfl⟩
  | ok p =>
    obtain rfl := eq_peer_of_connection hconnection
    exact alike_insertAccount h a password

end Pool

end Database

/-! ## The services in two runs -/

section Services
variable {σ : Type} [Store σ] {rules : Rules} {s : σ}

/-- Of two registrations that differ in the password, both valid, the accounts differ in it. -/
theorem validate_of_password {salt salt' : Salt} {x : Registration} {p : Option String}
    {a a' : Account} (h : x.validate rules salt = .ok a)
    (h' : ({ x with password := p } : Registration).validate rules salt' = .ok a') :
    a' = { a with password := a'.password } := by
  obtain ⟨husername, hemail, -, hrole, -⟩ := (Registration.validate_eq_ok_iff _ _ _ _).mp h
  obtain ⟨husername', hemail', -, hrole', -⟩ := (Registration.validate_eq_ok_iff _ _ _ _).mp h'
  have hu : a.username = a'.username := Option.some.inj (husername.symm.trans husername')
  have he : a.email = a'.email := Option.some.inj (hemail.symm.trans hemail')
  have hr : a.role = a'.role := hrole.trans hrole'.symm
  rw [hu, he, hr]

theorem records_register_of_valid (ignores : IgnoresPasswords s) {salt salt' : Salt}
    {x : Registration} {p : Option String} {a a' : Account} (h : x.validate rules salt = .ok a)
    (h' : ({ x with password := p } : Registration).validate rules salt' = .ok a') :
    (register rules salt x s).records =
      (register rules salt' { x with password := p } s).records := by
  have ha := validate_of_password h h'
  have hinsert := ignores a a'.password
  rw [← ha] at hinsert
  have husername : a'.username = a.username := by rw [ha]
  rw [register_of_valid rules salt s h, register_of_valid rules salt' s h']
  simp only [hinsert.value, hinsert.records, husername]

/-- An error that is met before the store is asked is none of the store's. -/
theorem ne_ofStore_of_validate {salt : Salt} {x : Registration} {e : AccountError}
    (h : x.validate rules salt = .error e) (f : StoreError) : e ≠ .ofStore f := by
  rintro rfl
  rcases Registration.validate_cases rules salt x with ⟨-, hv⟩ | ⟨-, -, -, -, hv⟩ | ⟨a, hv⟩ <;>
    rw [h] at hv <;> cases f <;> cases hv

theorem value_register_of_valid_ne {salt salt' : Salt} {x x' : Registration} {a : Account}
    {e : AccountError} (h : x.validate rules salt = .ok a)
    (h' : x'.validate rules salt' = .error e) :
    (register rules salt x s).value ≠ (register rules salt' x' s).value := by
  rw [register_of_valid rules salt s h, register_of_error rules salt' s h']
  cases (Store.insert a s).value with
  | ok _ => exact fun heq => by cases heq
  | error f =>
    intro heq
    exact ne_ofStore_of_validate h' f (Except.error.inj heq).symm

/-- Of two registrations with the same result the records do not tell the passwords. -/
theorem records_register_of_value (ignores : IgnoresPasswords s) {salt salt' : Salt}
    {x : Registration} {p : Option String}
    (h : (register rules salt x s).value =
      (register rules salt' { x with password := p } s).value) :
    (register rules salt x s).records =
      (register rules salt' { x with password := p } s).records := by
  cases hv : x.validate rules salt with
  | ok a =>
    cases hv' : ({ x with password := p } : Registration).validate rules salt' with
    | ok a' => exact records_register_of_valid ignores hv hv'
    | error e => exact absurd h (value_register_of_valid_ne hv hv')
  | error e =>
    cases hv' : ({ x with password := p } : Registration).validate rules salt' with
    | ok a' => exact absurd h.symm (value_register_of_valid_ne hv' hv)
    | error e' =>
      rw [register_of_error rules salt s hv, register_of_error rules salt' s hv'] at h ⊢
      rw [Except.error.inj h]

/-- A registration that is posted and lacks nothing is valid. -/
theorem exists_valid_of_posted {r : Request} {x : Registration}
    (hread : r.json?.bind Registration.ofJson? = some x) (hgiven : ¬x.Lacks rules) (salt : Salt) :
    ∃ a, x.validate rules salt = .ok a := by
  rcases validate_of_posted hread rules salt with hv | hv
  · exact absurd ((Registration.validate_eq_missingFields_iff rules salt x).mp hv) hgiven
  · exact hv

theorem status_register_eq_rejected_iff (salt : Salt) (x : Registration) :
    (registerAnswer (register rules salt x s).value).status = 400 ↔ x.Lacks rules := by
  rw [status_registerAnswer_eq_rejected_iff, register_eq_missingFields_iff]

/-- Two registrations that are posted log the same if both lack a field or neither does. -/
theorem records_register_of_posted (ignores : IgnoresPasswords s) {salt salt' : Salt}
    {r r' : Request} {x : Registration} {p : Option String}
    (hread : r.json?.bind Registration.ofJson? = some x)
    (hread' : r'.json?.bind Registration.ofJson? = some { x with password := p })
    (hboth : x.Lacks rules ↔ ({ x with password := p } : Registration).Lacks rules) :
    (register rules salt x s).records =
      (register rules salt' { x with password := p } s).records := by
  by_cases hlacks : x.Lacks rules
  · rw [register_of_lacks rules salt s hlacks, register_of_lacks rules salt' s (hboth.mp hlacks)]
  · obtain ⟨a, hv⟩ := exists_valid_of_posted hread hlacks salt
    obtain ⟨a', hv'⟩ := exists_valid_of_posted hread' (fun h => hlacks (hboth.mpr h)) salt'
    exact records_register_of_valid ignores hv hv'

theorem lacks_iff_of_given {x : Registration} {p : Option String}
    (hgiven : given x.password ≠ none) (hgiven' : given p ≠ none) :
    x.Lacks rules ↔ ({ x with password := p } : Registration).Lacks rules := by
  simp only [Registration.Lacks, hgiven, hgiven', false_or]

theorem lacks_iff_of_status {salt salt' : Salt} {x x' : Registration}
    (h : (registerAnswer (register rules salt x s).value).status =
      (registerAnswer (register rules salt' x' s).value).status) :
    x.Lacks rules ↔ x'.Lacks rules := by
  rw [← status_register_eq_rejected_iff (s := s) salt, h, status_register_eq_rejected_iff]

/-! ## Logins in two runs -/

/-- Of what is found for one username, the status tells which event is logged. -/
theorem Attempt.verdict_eq_of_status {scheme : Scheme} {a a' : Attempt}
    (husername : a.username = a'.username) (found : Except StoreError (List Account))
    (h : (loginAnswer (a.verdict scheme found).1).status =
      (loginAnswer (a'.verdict scheme found).1).status) :
    (a.verdict scheme found).2 = (a'.verdict scheme found).2 := by
  cases found with
  | error e => rfl
  | ok rows =>
    unfold Attempt.verdict at h ⊢
    dsimp only at h ⊢
    cases hm : rows.any (a.matches scheme) <;> cases hm' : rows.any (a'.matches scheme) <;>
      simp only [hm, hm'] at h ⊢
    · exact congrArg Event.loginRejected husername
    · cases h
    · cases h
    · exact congrArg Event.loginSucceeded husername

theorem status_login_eq_rejected_iff (c : Credentials) :
    (loginAnswer (login rules c s).value).status = 400 ↔ c.Lacks rules := by
  rw [status_loginAnswer_eq_rejected_iff, login_eq_missingFields_iff]

theorem exists_valid_of_given {c : Credentials} (hgiven : ¬c.Lacks rules) :
    ∃ a, c.validate rules = .ok a := by
  cases hv : c.validate rules with
  | ok a => exact ⟨a, rfl⟩
  | error e => exact absurd ((Credentials.validate_eq_error_iff rules c e).mp hv).2 hgiven

/-- Two logins of a username whose answers have the same status log the same. -/
theorem records_login_of_status {c c' : Credentials} (husername : c.username = c'.username)
    (h : (loginAnswer (login rules c s).value).status =
      (loginAnswer (login rules c' s).value).status) :
    (login rules c s).records = (login rules c' s).records := by
  have hboth : c.Lacks rules ↔ c'.Lacks rules := by
    rw [← status_login_eq_rejected_iff (s := s), h, status_login_eq_rejected_iff]
  by_cases hlacks : c.Lacks rules
  · rw [login_of_lacks rules s hlacks, login_of_lacks rules s (hboth.mp hlacks)]
  · obtain ⟨a, hv⟩ := exists_valid_of_given hlacks
    obtain ⟨a', hv'⟩ := exists_valid_of_given fun h => hlacks (hboth.mpr h)
    have hu := ((Credentials.validate_eq_ok_iff rules c a).mp hv).1
    have hu' := ((Credentials.validate_eq_ok_iff rules c' a').mp hv').1
    rw [← husername, hu, Option.some.injEq] at hu'
    rw [login_of_valid rules s hv, login_of_valid rules s hv'] at h ⊢
    simp only [← hu'] at h ⊢
    rw [Attempt.verdict_eq_of_status hu' _ h]

end Services

/-! ## Requests in two runs -/

def Http.Request.withQuery (r : Request) (query : Option String) : Request :=
  { r with target := { r.target with query := query } }

section Requests
variable {σ : Type} [Store σ] {rules : Rules} {s : σ} {salt salt' : Salt} {r r' : Request}

theorem records_respond_of_registers {x x' : Registration} (hx : (Call.http r).Registers x)
    (hx' : (Call.http r').Registers x')
    (h : (register rules salt x s).records = (register rules salt' x' s).records) :
    (respond rules salt r s).records = (respond rules salt' r' s).records := by
  rw [respond_of_registration rules salt s (((Call.http r).task_eq_registration_iff x).mpr hx),
    respond_of_registration rules salt' s (((Call.http r').task_eq_registration_iff x').mpr hx'),
    h, hx.1, hx'.1, hx.2.1, hx'.2.1]

theorem status_respond_of_registers {x : Registration} (hx : (Call.http r).Registers x) :
    (respond rules salt r s).value.status =
      (registerAnswer (register rules salt x s).value).status := by
  rw [respond_of_registration rules salt s (((Call.http r).task_eq_registration_iff x).mpr hx),
    status_dressed]

theorem records_respond_of_logsIn {c c' : Credentials} (hmethod : r.method = r'.method)
    (hc : (Call.http r).LogsIn c) (hc' : (Call.http r').LogsIn c')
    (husername : c.username = c'.username)
    (h : (respond rules salt r s).value.status = (respond rules salt' r' s).value.status) :
    (respond rules salt r s).records = (respond rules salt' r' s).records := by
  rw [respond_of_login rules salt s (((Call.http r).task_eq_login_iff c).mpr hc),
    respond_of_login rules salt' s (((Call.http r').task_eq_login_iff c').mpr hc')] at h ⊢
  rw [status_dressed, status_dressed] at h
  simp only [records_login_of_status husername h, hmethod, hc.1, hc'.1]

theorem run_withQuery {e : Endpoint} (h : e ≠ .loginQuery) (query : Option String) :
    e.run rules salt (r.withQuery query) s = e.run rules salt r s := by
  cases e with
  | loginQuery => exact absurd rfl h
  | register | loginBody | health => rfl

/-- Only a login by query looks at the query. -/
theorem respond_withQuery (h : r.endpoint? ≠ some .loginQuery) (query : Option String) :
    respond rules salt (r.withQuery query) s = respond rules salt r s := by
  have hendpoint : (r.withQuery query).endpoint? = r.endpoint? := rfl
  cases he : r.endpoint? with
  | some e =>
    have hother : e ≠ .loginQuery := by
      rintro rfl
      exact h he
    rw [respond_of_endpoint rules salt s (hendpoint.trans he), respond_of_endpoint rules salt s he,
      run_withQuery hother]
    rfl
  | none =>
    have hdispatch : r.method ≠ "OPTIONS" →
        dispatch rules salt (r.withQuery query) s = dispatch rules salt r s := by
      intro hoptions
      simp only [Http.Request.endpoint?, beq_iff_eq, hoptions, if_false] at he
      simp only [dispatch, Http.Request.withQuery]
      cases hroute : Route.ofPath? r.target.path with
      | none => rfl
      | some route =>
        rw [hroute, Option.bind_some] at he
        simp only [he]
    unfold respond
    by_cases hoptions : r.method = "OPTIONS"
    · simp only [Http.Request.withQuery, hoptions, beq_self_eq_true, if_true]
      rfl
    · rw [hdispatch hoptions]
      rfl

/-- Two queries of one user, or two that cannot be read. -/
theorem records_respond_of_user (h : r.endpoint? = some .loginQuery) {query : Option String}
    (huser : (Credentials.ofQuery? r.target.query).map (·.username) =
      (Credentials.ofQuery? query).map (·.username))
    (hstatus : (respond rules salt r s).value.status =
      (respond rules salt' (r.withQuery query) s).value.status) :
    (respond rules salt r s).records = (respond rules salt' (r.withQuery query) s).records := by
  have h' : (r.withQuery query).endpoint? = some .loginQuery := h
  obtain ⟨hpath, hmethod⟩ := (endpoint?_eq_some_iff r .loginQuery).mp h
  cases hread : Credentials.ofQuery? r.target.query with
  | some c =>
    rw [hread] at huser
    obtain ⟨c', hread', husername⟩ := Option.map_eq_some_iff.mp huser.symm
    exact records_respond_of_logsIn rfl ⟨hpath, .inl ⟨hmethod, hread⟩⟩
      ⟨hpath, .inl ⟨hmethod, hread'⟩⟩ husername.symm hstatus
  | none =>
    have hread' : Credentials.ofQuery? (r.withQuery query).target.query = none := by
      rw [hread] at huser
      exact Option.map_eq_none_iff.mp huser.symm
    rw [respond_of_endpoint rules salt s h, respond_of_endpoint rules salt' s h']
    simp only [Endpoint.run, hread, hread']
    rfl

end Requests

/-- What stands for a request in the log ends where its query begins. -/
theorem Http.Target.not_mem_path (uri : String) : '?' ∉ (Target.parse uri).path.toList := by
  have hpath : ∀ cs, '?' ∉ (Target.ofPath cs).path.toList := by
    intro cs
    unfold Target.ofPath
    dsimp only
    split
    · decide
    · intro hmem
      rw [String.toList_ofList] at hmem
      exact absurd (List.all_eq_true.mp List.all_takeWhile _ hmem) (by decide)
  unfold Target.parse
  split
  · decide
  · exact hpath _
  · split
    · exact hpath _
    · decide

/-! ## The log -/

/-- Nothing that is logged over the store tells a password. -/
structure Discreet {σ : Type} [Store σ] (rules : Rules) (s : σ) : Prop where
  /-- A request is opened with its method and its path, and the rest are events. -/
  opening : ∀ salt r, ∃ events : List Event,
    (respond rules salt r s).records = (Call.http r).opening ++ events.map .event
  posted : ∀ salt salt' r r' x p, (Call.http r).Registers x →
    (Call.http r').Registers { x with password := p } →
    (respond rules salt r s).value.status = (respond rules salt' r' s).value.status →
      (respond rules salt r s).records = (respond rules salt' r' s).records
  /-- Two passwords that are not blank are not told apart, nor are the salts. -/
  sealed : ∀ salt salt' r r' x p, (Call.http r).Registers x →
    (Call.http r').Registers { x with password := p } → given x.password ≠ none →
    given p ≠ none → (respond rules salt r s).records = (respond rules salt' r' s).records
  attempted : ∀ salt salt' (r r' : Request) c p, r.method = r'.method → (Call.http r).LogsIn c →
    (Call.http r').LogsIn { c with password := p } →
    (respond rules salt r s).value.status = (respond rules salt' r' s).value.status →
      (respond rules salt r s).records = (respond rules salt' r' s).records
  register : ∀ salt salt' x p,
    (register rules salt x s).value = (register rules salt' { x with password := p } s).value →
      (register rules salt x s).records =
        (Registrar.register rules salt' { x with password := p } s).records
  login : ∀ c p,
    (login rules c s).value = (login rules { c with password := p } s).value →
      (login rules c s).records = (Registrar.login rules { c with password := p } s).records
  /-- Of the query of a login its username is logged at most. -/
  queried : ∀ salt salt' (r : Request) query, r.endpoint? = some .loginQuery →
    (Credentials.ofQuery? r.target.query).map (·.username) =
      (Credentials.ofQuery? query).map (·.username) →
    (respond rules salt r s).value.status =
      (respond rules salt' (r.withQuery query) s).value.status →
      (respond rules salt r s).records = (respond rules salt' (r.withQuery query) s).records
  /-- No other request depends on its query. -/
  unqueried : ∀ salt r query, r.endpoint? ≠ some .loginQuery →
    respond rules salt (r.withQuery query) s = respond rules salt r s

theorem IgnoresPasswords.discreet {σ : Type} [Store σ] {s : σ} (ignores : IgnoresPasswords s)
    (warns : OnlyWarns s) (rules : Rules) : Discreet rules s where
  opening := by
    intro salt r
    exact records_run rules salt warns (.http r)
  posted := by
    intro salt salt' r r' x p hx hx' h
    rw [status_respond_of_registers hx, status_respond_of_registers hx'] at h
    exact records_respond_of_registers hx hx'
      (records_register_of_posted ignores hx.2.2 hx'.2.2 (lacks_iff_of_status h))
  sealed := by
    intro salt salt' r r' x p hx hx' hgiven hgiven'
    exact records_respond_of_registers hx hx'
      (records_register_of_posted ignores hx.2.2 hx'.2.2 (lacks_iff_of_given hgiven hgiven'))
  attempted := by
    intro salt salt' r r' c p hmethod hc hc' h
    exact records_respond_of_logsIn hmethod hc hc' rfl h
  register := by
    intro salt salt' x p h
    exact records_register_of_value ignores h
  login := by
    intro c p h
    exact records_login_of_status rfl (congrArg (fun result => (loginAnswer result).status) h)
  queried := by
    intro salt salt' r query h huser hstatus
    exact records_respond_of_user h huser hstatus
  unqueried := by
    intro salt r query h
    exact respond_withQuery h query

/-- **Passwords stay out of the log.** Over a table, and over a pool whose server does not tell
passwords apart, whatever state either is in:

* two registrations or logins that differ in the password, over HTTP or by a call of the service,
  log the same records unless their answers differ;
* two posted registrations with a password each log the same whatever comes of them, under any
  salts;
* a request is opened by its method and its path, which has no query in it; two queries of one
  user are told apart by the status only, and no other request depends on its query.

A server does not tell passwords apart if the script that it follows is by command. -/
theorem passwords_stay_out_of_log (rules : Rules) :
    (∀ t : Table, Discreet rules t) ∧
    (∀ pool : Database.Pool, pool.peer.IgnoresPasswords → Discreet rules pool) ∧
    (∀ p : Database.Peer, p.IsByCommand → p.IgnoresPasswords) ∧
    ∀ uri, '?' ∉ (Target.parse uri).path.toList := by
  refine ⟨?_, ?_, fun p => Database.Peer.IsByCommand.ignoresPasswords, Target.not_mem_path⟩
  · intro t
    exact t.ignoresPasswords.discreet t.onlyWarns rules
  · intro pool ignores
    exact (Database.Pool.ignoresPasswords ignores).discreet pool.onlyWarns rules

/-- Two passwords for Ann that are hashed under two salts, while her insertion and its rollback
fail, and two guesses at the password that she has in the end. -/
theorem passwords_stay_out_of_log_ann :
    let hashed : Rules := ⟨.optional, .argon2⟩
    let plain : Rules := ⟨.optional, .plaintext⟩
    let lost : Database.Report := ⟨"FATAL", "57P01", "terminating connection"⟩
    let failing : Database.Peer := { Database.Peer.idle with
      fault := fun s =>
        if s.command = .insertAccount ∨ s.command = .rollback then some lost else none }
    let post (password : String) : Request :=
      ⟨"POST", .parse "/register", [("content-type", "application/json")], Text.Utf8.encode
        ("\x7b\"name\":\"ann\",\"email\":\"a@x.org\",\"password\":\"" ++ password ++ "\"\x7d")⟩
    let guess : Request := ⟨"GET", .parse "/login?name=ann&password=guess", [], []⟩
    let t : Table := ⟨[⟨"ann", "a@x.org", "pw", none⟩], true⟩
    (respond hashed (.ofNat 1) (post "pw") (Database.Pool.opened failing)).records =
        (respond hashed (.ofNat 2) (post "secret") (Database.Pool.opened failing)).records ∧
      (respond plain (.ofNat 1) guess t).records =
        (respond plain (.ofNat 1) (guess.withQuery (some "name=ann&password=PW")) t).records := by
  intro hashed plain lost failing post guess t
  have hcommand : failing.IsByCommand := by
    intro s s' h
    simp only [failing, h]
  obtain ⟨-, hpool, hscript, -⟩ := passwords_stay_out_of_log hashed
  obtain ⟨htable, -, -, -⟩ := passwords_stay_out_of_log plain
  have hfirst : (Call.http (post "pw")).Registers
      ⟨some "ann", some "a@x.org", some "pw", none⟩ := ⟨rfl, by decide, by decide +kernel⟩
  have hsecond : (Call.http (post "secret")).Registers
      ⟨some "ann", some "a@x.org", some "secret", none⟩ := ⟨rfl, by decide, by decide +kernel⟩
  constructor
  · exact (hpool (.opened failing) (hscript failing hcommand)).sealed (.ofNat 1) (.ofNat 2)
      (post "pw") (post "secret") _ (some "secret") hfirst hsecond (by decide) (by decide)
  · exact (htable t).queried (.ofNat 1) (.ofNat 1) guess (some "name=ann&password=PW")
      (by decide) (by decide +kernel) (by decide +kernel)

end Registrar
