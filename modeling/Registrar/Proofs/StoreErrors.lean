import Registrar.Proofs.JsonMeaning
import Registrar.Proofs.Records
import Registrar.Proofs.RegistrationOutcome
import Registrar.Proofs.Transaction
import Registrar.Proofs.Transport

/-! # What becomes of an error of the database

A failure in the transaction of a registration is classified twice: by the pool, which tells a
conflict from other errors, and by the service, which does so again in its own way. Whatever
statement fails, and whatever the server says, both agree.

* `parse?_body_json`: the body of a response is read back.
* `value_register_ne`: a conflict never passes as another error of the store.
* `respond_of_fault`: the response to a registration whose transaction fails.
* `Classified`, `classified_of_fault`: its status, its body and its last log record.
-/

namespace Registrar
open Api Database Http Password
set_option autoImplicit false

/-! ## Bodies -/

/-- The body of a response means its one member, whatever its text is. -/
theorem parse?_body_json (status : Nat) (name text : String) :
    ∃ v, Json.parse? (Response.json status name text).body = some v ∧
      v.datum = .object [(some name, .string (some text))] := by
  have hparse := Json.parse?_render_flat [(.ofString name, some (.ofString text))]
  refine ⟨_, hparse, ?_⟩
  simp only [Json.Value.flat, List.map_cons, List.map_nil, Json.FlatMember.respelled,
    Json.FlatMember.member, Option.map_some, Json.Value.ofOption, Json.Value.datum,
    Json.Value.memberData, Json.Written.toString?_respelled, Json.Written.toString?_ofString]

/-! ## The two classifications -/

section
variable {σ : Type} [Store σ] (rules : Rules) (salt : Salt) (s : σ)

theorem mapError_ofStore_ne (result : Except StoreError Unit) :
    result.mapError AccountError.ofStore ≠ .error (.store .conflict) := by
  intro h
  cases result with
  | ok _ => cases h
  | error e => cases e <;> cases h

theorem value_register_ne (x : Registration) :
    (register rules salt x s).value ≠ .error (.store .conflict) := by
  rcases Registration.validate_cases rules salt x with ⟨-, hv⟩ | ⟨p, -, -, -, hv⟩ | ⟨a, hv⟩
  · rw [register_of_error rules salt s hv]
    simp
  · rw [register_of_error rules salt s hv]
    simp
  · rw [register_of_valid rules salt s hv]
    exact mapError_ofStore_ne _

end

/-! ## A transaction that fails -/

section
variable {rules : Rules} {salt : Salt} {r : Request} {x : Registration} {a : Account} {pool : Pool}
  {p : Peer} {report : Report}

theorem value_insert_of_fault (connected : pool.connection = .ok p) (unspent : p.spent = [])
    (first : Pool.firstFault p a = some report) :
    (Store.insert a pool).value = .error (.ofDatabase report.error) := by
  rw [Pool.insert_of_connection connected, Pool.insertAccount_value a unspent, first]
  rfl

/-- The response shows the error of the server as the two conversions classify it. -/
theorem respond_of_fault (registers : (Call.http r).Registers x)
    (valid : x.validate rules salt = .ok a) (connected : pool.connection = .ok p)
    (unspent : p.spent = []) (first : Pool.firstFault p a = some report) :
    (respond rules salt r pool).value =
        dressed "POST" (registerFailure (.ofStore (.ofDatabase report.error))) ∧
      ∃ warnings : List Database.Error, (respond rules salt r pool).records =
        .request "POST" "/register" :: warnings.map (fun e => .event (.rollbackFailed e)) ++
          [.event (insertEvent a.username (.error (.ofDatabase report.error)))] := by
  have htask := ((Call.http r).task_eq_registration_iff x).mpr registers
  have hvalue := value_insert_of_fault connected unspent first
  obtain ⟨method, path, -⟩ := registers
  obtain ⟨warnings, hwarnings⟩ := (Pool.onlyWarns pool).insert a
  rw [respond_of_registration rules salt pool htask, register_of_valid rules salt pool valid,
    hvalue, hwarnings, method, path]
  exact ⟨rfl, warnings, rfl⟩

end

/-- What is logged of a request that posts a registration: its opening, failed rollbacks if there
are any, and last one event. -/
def LogsLast (records : List Record) (level : Level) (message : String)
    (fields : List (String × String)) : Prop :=
  ∃ (warnings : List Database.Error) (last : Event),
    records = .request "POST" "/register" ::
      warnings.map (fun e => .event (.rollbackFailed e)) ++ [.event last] ∧
    last.level = level ∧ last.message = message ∧ last.fields = fields

/-- How a registration for a username ends if the first failure in its transaction has this code and
this text. -/
structure Classified (username code text : String) (reply : Reply Pool Response) : Prop where
  conflict_iff : reply.value.status = 409 ↔ code = "23505"
  conflict : code = "23505" →
    reply.value = answer 409 "\x7b\"error\":\"Username or Email already exists\"\x7d" ∧
      LogsLast reply.records .warn "registration conflict" [("username", username)]
  failure : code ≠ "23505" →
    reply.value.status = 500 ∧
      (∃ v, Json.parse? reply.value.body = some v ∧ v.datum =
        .object [(some "error", .string (some ("error returned from database: " ++ text)))]) ∧
      LogsLast reply.records .error "account insert failed"
        [("error", "error returned from database: " ++ text)]

theorem StoreError.ofDatabase_server (e : ServerError) :
    StoreError.ofDatabase (.server e) =
      if e.code = "23505" then .conflict else .database (.server e) := by
  simp [StoreError.ofDatabase, Error.isUniqueViolation, uniqueViolation]

theorem Database.Report.error_of_readable {report : Report}
    (readable : (Severity.ofName? report.severity).isSome = true) :
    ∃ severity, report.error = .server ⟨severity, report.code, report.message⟩ := by
  obtain ⟨severity, h⟩ := Option.isSome_iff_exists.mp readable
  exact ⟨severity, by simp [Report.error, h]⟩

/-- **The code of the first failure decides.** Let a valid registration be posted, and let the peer
make `BEGIN`, the `INSERT` or `COMMIT` fail with any code and any text, the severity being one of a
server. The code of the first failure alone decides between a conflict and another error, in the
status, in the body and in the log; the text of another error is in the body and in the log as the
server has sent it. The response is the one that the two conversions give, and a conflict is never
passed on as another error of the store. -/
theorem classified_of_fault (rules : Rules) (salt : Salt) (r : Request) (x : Registration)
    (a : Account) (pool : Pool) (p : Peer) (report : Report)
    (registers : (Call.http r).Registers x) (valid : x.validate rules salt = .ok a)
    (connected : pool.connection = .ok p) (unspent : p.spent = [])
    (first : Pool.firstFault p a = some report)
    (readable : (Severity.ofName? report.severity).isSome = true) :
    Classified a.username report.code report.message (respond rules salt r pool) ∧
      (respond rules salt r pool).value =
        dressed "POST" (registerFailure (.ofStore (.ofDatabase report.error))) ∧
      ∀ (σ : Type) [Store σ] (s : σ) (y : Registration),
        (register rules salt y s).value ≠ .error (.store .conflict) := by
  obtain ⟨hvalue, warnings, hrecords⟩ := respond_of_fault registers valid connected unspent first
  obtain ⟨severity, herror⟩ := Report.error_of_readable readable
  refine ⟨?_, hvalue, fun σ _ s y => value_register_ne rules salt s y⟩
  by_cases hcode : report.code = "23505"
  · have hstore : StoreError.ofDatabase report.error = .conflict := by
      rw [herror, StoreError.ofDatabase_server, if_pos hcode]
    rw [hstore] at hvalue hrecords
    constructor
    · rw [hvalue]
      exact iff_of_true rfl hcode
    · intro _
      exact ⟨hvalue, warnings, _, hrecords, rfl, rfl, rfl⟩
    · intro hne
      exact absurd hcode hne
  · have hstore : StoreError.ofDatabase report.error = .database report.error := by
      rw [herror, StoreError.ofDatabase_server, if_neg hcode]
    have hmessage : report.error.message = "error returned from database: " ++ report.message := by
      rw [herror]
      rfl
    rw [hstore] at hvalue hrecords
    constructor
    · rw [hvalue, status_dressed]
      refine iff_of_false ?_ hcode
      simp [registerFailure, AccountError.ofStore, Api.failure, Response.json]
    · intro h
      exact absurd h hcode
    · intro _
      rw [← hmessage]
      refine ⟨?_, ?_, warnings, _, hrecords, rfl, rfl, rfl⟩
      · rw [hvalue, status_dressed]
        rfl
      · rw [hvalue, body_dressed (by decide)]
        exact parse?_body_json 500 "error" report.error.message

/-- The commit of Ann's row is refused as a duplicate; the next time the insertion fails, and so
does the rollback, with a text that has to be escaped. -/
theorem classified_of_fault_ann :
    let rules : Rules := ⟨.optional, .plaintext⟩
    let r : Request := ⟨"POST", .parse "/register", [("content-type", "application/json")],
      Text.Utf8.encode "\x7b\"name\":\"ann\",\"email\":\"a@x.org\",\"password\":\"pw\"\x7d"⟩
    let failing (commands : List Command) (report : Report) : Pool :=
      .opened { Peer.idle with
        fault := fun s => if s.command ∈ commands then some report else none }
    let duplicate : Pool := failing [.commit] ⟨"ERROR", "23505", "duplicate key"⟩
    let broken : Pool := failing [.insertAccount, .rollback] ⟨"FATAL", "57P01", "\"é\"\n"⟩
    let reply (pool : Pool) : Reply Pool Response := respond rules (.ofNat 1) r pool
    (reply duplicate).value.status = 409 ∧ (reply broken).value.status = 500 ∧
      ∃ v, Json.parse? (reply broken).value.body = some v ∧ v.datum =
        .object [(some "error", .string (some "error returned from database: \"é\"\n"))] := by
  intro rules r failing duplicate broken reply
  let x : Registration := ⟨some "ann", some "a@x.org", some "pw", none⟩
  have registers : (Call.http r).Registers x := ⟨rfl, rfl, by decide +kernel⟩
  have valid : x.validate rules (.ofNat 1) = .ok ⟨"ann", "a@x.org", "pw", none⟩ := rfl
  obtain ⟨hduplicate, -, -⟩ := classified_of_fault rules (.ofNat 1) r _ _ duplicate duplicate.peer
    ⟨"ERROR", "23505", "duplicate key"⟩ registers valid rfl rfl rfl (by decide)
  obtain ⟨hbroken, -, -⟩ := classified_of_fault rules (.ofNat 1) r _ _ broken broken.peer
    ⟨"FATAL", "57P01", "\"é\"\n"⟩ registers valid rfl rfl rfl (by decide)
  obtain ⟨hstatus, hbody, -⟩ := hbroken.failure (by decide)
  exact ⟨hduplicate.conflict_iff.mpr rfl, hstatus, hbody⟩

end Registrar
