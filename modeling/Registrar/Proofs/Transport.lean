import Registrar.Database.Pool
import Registrar.Proofs.Fields
import Registrar.Proofs.FormCoding
import Registrar.Proofs.Growth
import Registrar.Proofs.JsonText
import Registrar.Proofs.Login
import Registrar.Proofs.Routing

/-! # The services over HTTP

A request that carries the fields of a registration or of credentials, as form data in its query or
as an object in its body, is answered as the service answers those fields.

* `Request.Queries`, `Request.Posts`: the requests that carry fields.
* `Conveys`: a response is the result of a service, and nothing else has happened.
* `task_of_queries`, `task_of_posts_login`, `task_of_posts_register`: what is carried is read.
* `conveys_services`: all three transports.
-/

namespace Registrar
open Api Http Password Text
set_option autoImplicit false

/-! ## Requests that carry fields -/

def Credentials.fields (name username : Option String) (c : Credentials) :
    List (String × Option String) :=
  [("name", name), ("username", username), ("password", c.password), ("role", c.role)]

def Registration.fields (username name : Option String) (x : Registration) :
    List (String × Option String) :=
  [("username", username), ("name", name), ("email", x.email), ("password", x.password),
   ("role", x.role)]

def Json.FlatMember.ofField (f : String × Option String) : FlatMember :=
  (.ofString f.1, f.2.map .ofString)

/-- The object with these fields, an absent one as null. -/
def Json.Value.ofFields (sent : List (String × Option String)) : Json.Value :=
  .flat (sent.map .ofField)

/-- The request has the fields in its query, those that are present; no query at all says the same
as an empty one. -/
structure Http.Request.Queries (path : String) (fields : List (String × Option String))
    (r : Request) : Prop where
  method : r.method = "GET"
  path : r.target.path = path
  query : ∃ kvs ps, Sends (kvs.map fun p => (p.1, some p.2)) fields ∧ Form.Pieces kvs ps ∧
    Utf8.encode (r.target.query.getD "") = Form.joined ps

/-- The request has the fields in its body, which is the text of an object. -/
structure Http.Request.Posts (path : String) (fields : List (String × Option String))
    (r : Request) : Prop where
  method : r.method = "POST"
  path : r.target.path = path
  type : r.hasJsonType = true
  body : ∃ sent, Sends sent fields ∧ r.body = (Json.Value.ofFields sent).render
  length : r.body.length ≤ Request.bodyLimit

/-! ## Fields as they are read -/

def readField (f : String × Option String) : Json.Written × Json.Value :=
  (Json.FlatMember.ofField f).respelled.member

theorem parse?_render_ofFields (sent : List (String × Option String)) :
    Json.parse? (Json.Value.ofFields sent).render = some (.object (sent.map readField)) := by
  rw [Json.Value.ofFields, Json.parse?_render_flat, Json.Value.flat, List.map_map, List.map_map]
  rfl

theorem toString?_readField (f : String × Option String) :
    (readField f).1.toString? = some f.1 := by
  have hkey : (readField f).1 = (Json.Written.ofString f.1).respelled := rfl
  rw [hkey, Json.Written.toString?_respelled, Json.Written.toString?_ofString]

theorem field?_readField (f : String × Option String) : (readField f).2.field? = some f.2 := by
  obtain ⟨name, o⟩ := f
  cases o with
  | none => rfl
  | some s =>
    have hvalue : (readField (name, some s)).2 =
        .string (Json.Written.ofString s).respelled := rfl
    rw [hvalue, Json.Value.field?, Json.Written.toString?_respelled,
      Json.Written.toString?_ofString, Option.map_some]

theorem members?_map_readField (sent : List (String × Option String)) :
    members? (sent.map readField) = some (sent.map fun f => (f.1, (readField f).2)) := by
  unfold members?
  induction sent with
  | nil => rfl
  | cons f sent ih =>
    rw [List.map_cons, List.mapM_cons, ih, toString?_readField]
    rfl

theorem exists_members_of_sends {sent fields : List (String × Option String)}
    (h : Sends sent fields) (distinct : (fields.map (·.1)).Nodup) :
    ∃ ms pairs, Json.parse? (Json.Value.ofFields sent).render = some (.object ms) ∧
      members? ms = some pairs ∧
      ∀ name o, (name, o) ∈ fields → field? Json.Value.field? pairs name = some o := by
  refine ⟨_, _, parse?_render_ofFields sent, members?_map_readField sent, ?_⟩
  intro name o ho
  refine field?_of_sends h distinct ?_ ho
  rw [List.map_map]
  exact List.map_congr_left fun f _ => congrArg (Prod.mk f.1) (field?_readField f)

theorem Credentials.distinct_fields (name username : Option String) (c : Credentials) :
    ((c.fields name username).map (·.1)).Nodup := by
  simp [Credentials.fields]

theorem Registration.distinct_fields (username name : Option String) (x : Registration) :
    ((x.fields username name).map (·.1)).Nodup := by
  simp [Registration.fields]

theorem Credentials.ofQuery?_of_sends {name username : Option String} {c : Credentials}
    (hname : name.or username = c.username) {kvs : List (String × String)}
    (h : Sends (kvs.map fun p => (p.1, some p.2)) (c.fields name username))
    {query : Option String} (hpairs : Form.pairs (Utf8.encode (query.getD "")) = kvs) :
    Credentials.ofQuery? query = some c := by
  have hread : kvs.map (fun p => (p.1, (some (some p.2) : Option (Option String)))) =
      (kvs.map fun p => (p.1, some p.2)).map fun f => (f.1, some f.2) := by
    simp
  have hfield : ∀ k o, (k, o) ∈ c.fields name username →
      field? (fun s : String => some (some s)) kvs k = some o := by
    intro k o ho
    exact field?_of_sends h (c.distinct_fields name username) hread ho
  have h₁ := hfield "name" name (by simp [Credentials.fields])
  have h₂ := hfield "username" username (by simp [Credentials.fields])
  have h₃ := hfield "password" c.password (by simp [Credentials.fields])
  have h₄ := hfield "role" c.role (by simp [Credentials.fields])
  simp only [Credentials.ofQuery?, hpairs, Credentials.fieldNames, List.mapM_cons, List.mapM_nil,
    h₁, h₂, h₃, h₄]
  simp [Credentials.ofFields?, hname]

theorem Credentials.ofJson?_of_sends {name username : Option String} {c : Credentials}
    (hname : name.or username = c.username) {sent : List (String × Option String)}
    (h : Sends sent (c.fields name username)) :
    (Json.parse? (Json.Value.ofFields sent).render).bind Credentials.ofJson? = some c := by
  obtain ⟨ms, pairs, hparse, hms, hfield⟩ :=
    exists_members_of_sends h (c.distinct_fields name username)
  rw [hparse, Option.bind_some]
  exact (Credentials.ofJson?_object_iff ms c).mpr
    ⟨pairs, name, username, hms, hfield _ _ (by simp [Credentials.fields]),
      hfield _ _ (by simp [Credentials.fields]), hfield _ _ (by simp [Credentials.fields]),
      hfield _ _ (by simp [Credentials.fields]), hname.symm⟩

theorem Registration.ofJson?_of_sends {username name : Option String} {x : Registration}
    (hname : username.or name = x.username) {sent : List (String × Option String)}
    (h : Sends sent (x.fields username name)) :
    (Json.parse? (Json.Value.ofFields sent).render).bind Registration.ofJson? = some x := by
  obtain ⟨ms, pairs, hparse, hms, hfield⟩ :=
    exists_members_of_sends h (x.distinct_fields username name)
  rw [hparse, Option.bind_some]
  exact (Registration.ofJson?_object_iff ms x).mpr
    ⟨pairs, username, name, hms, hfield _ _ (by simp [Registration.fields]),
      hfield _ _ (by simp [Registration.fields]), hfield _ _ (by simp [Registration.fields]),
      hfield _ _ (by simp [Registration.fields]), hfield _ _ (by simp [Registration.fields]),
      hname.symm⟩

/-! ## What the requests ask for -/

theorem task_of_queries {name username : Option String} {c : Credentials} {r : Request}
    (hname : name.or username = c.username)
    (h : r.Queries "/login" (c.fields name username)) : r.task = .login c := by
  obtain ⟨kvs, ps, hsends, hpieces, hquery⟩ := h.query
  have hpairs : Form.pairs (Utf8.encode (r.target.query.getD "")) = kvs := by
    rw [hquery, Form.pairs_joined hpieces]
  have hmethod : r.method ∈ ["GET", "HEAD"] := h.method ▸ List.mem_cons_self
  exact (Call.task_eq_login_iff (.http r) c).mpr
    ⟨h.path, .inl ⟨hmethod, Credentials.ofQuery?_of_sends hname hsends hpairs⟩⟩

theorem queries_of_uri {fields : List (String × Option String)} {kvs : List (String × String)}
    {ps : List Utf8.Bytes} (hsends : Sends (kvs.map fun p => (p.1, some p.2)) fields)
    (hpieces : Form.Pieces kvs ps) {r : Request} (hmethod : r.method = "GET")
    (htarget : r.target = .parse ("/login" ++ "?" ++ Utf8.ofAscii (Form.joined ps))) :
    r.Queries "/login" fields := by
  obtain ⟨hparse, hbytes⟩ := Form.parse_target "/login" hpieces rfl (by simp)
  rw [hparse] at htarget
  exact
    { method := hmethod
      path := by rw [htarget]
      query := ⟨kvs, ps, hsends, hpieces, by rw [htarget]; exact hbytes⟩ }

theorem json?_of_posts {path : String} {fields : List (String × Option String)} {r : Request}
    (h : r.Posts path fields) :
    ∃ sent, Sends sent fields ∧
      r.json? = Json.parse? (Json.Value.ofFields sent).render := by
  obtain ⟨sent, hsends, hbody⟩ := h.body
  refine ⟨sent, hsends, ?_⟩
  rw [Http.Request.json?, h.type, decide_eq_true h.length, hbody]
  rfl

theorem task_of_posts_login {name username : Option String} {c : Credentials} {r : Request}
    (hname : name.or username = c.username)
    (h : r.Posts "/login" (c.fields name username)) : r.task = .login c := by
  obtain ⟨sent, hsends, hjson⟩ := json?_of_posts h
  have hread : r.json?.bind Credentials.ofJson? = some c := by
    rw [hjson, Credentials.ofJson?_of_sends hname hsends]
  exact (Call.task_eq_login_iff (.http r) c).mpr ⟨h.path, .inr ⟨h.method, hread⟩⟩

theorem task_of_posts_register {username name : Option String} {x : Registration} {r : Request}
    (hname : username.or name = x.username)
    (h : r.Posts "/register" (x.fields username name)) : r.task = .registration x := by
  obtain ⟨sent, hsends, hjson⟩ := json?_of_posts h
  have hread : r.json?.bind Registration.ofJson? = some x := by
    rw [hjson, Registration.ofJson?_of_sends hname hsends]
  exact (Call.task_eq_registration_iff (.http r) x).mpr ⟨h.method, h.path, hread⟩

/-! ## The answers -/

/-- The reply to a request is that of a service: its result as a response, the same events after
the record of the request, the same statements, and the same store afterwards. -/
structure Conveys {σ : Type} (r : Request) (answer : Except AccountError Unit → Response)
    (direct : Reply σ (Except AccountError Unit)) (reply : Reply σ Response) : Prop where
  status : reply.value.status = (answer direct.value).status
  body : reply.value.body = (answer direct.value).body
  records : reply.records = .request r.method r.target.path :: direct.records
  sent : reply.sent = direct.sent
  state : reply.state = direct.state

theorem body_dressed {method : String} (h : method ≠ "HEAD") (r : Response) :
    (dressed method r).body = r.body := by
  have hno : (method == "HEAD") = false := beq_eq_false_iff_ne.mpr h
  rw [dressed, hno]
  rfl

theorem conveys_of_deliver {σ : Type} {r : Request} {answer : Except AccountError Unit → Response}
    {direct : Reply σ (Except AccountError Unit)} {reply : Reply σ Response}
    (hmethod : r.method ≠ "HEAD" ∧ r.method ≠ "OPTIONS")
    (h : reply.map .response = (Call.http r).deliver answer direct) :
    Conveys r answer direct reply := by
  have hopening : (Call.http r).opening = [.request r.method r.target.path] := by
    have hno : (r.method == "OPTIONS") = false := beq_eq_false_iff_ne.mpr hmethod.2
    rw [Call.opening, hno]
    rfl
  have hvalue : reply.value = dressed r.method (answer direct.value) :=
    Outcome.response.inj (congrArg Reply.value h)
  exact
    { status := by rw [hvalue, status_dressed]
      body := by rw [hvalue, body_dressed hmethod.1]
      records := by
        have hrecords : reply.records = (Call.http r).opening ++ direct.records :=
          congrArg Reply.records h
        rw [hrecords, hopening]
        rfl
      sent := congrArg Reply.sent h
      state := congrArg Reply.state h }

theorem Database.Pool.sent_findAccounts (u : String) (p : Database.Peer) :
    (findAccounts u p).sent = [.select u] := by
  unfold findAccounts
  split <;> rfl

theorem Database.Pool.sent_find (u : String) (pool : Database.Pool) :
    (Store.find u pool).sent = [] ∨ (Store.find u pool).sent = [.select u] := by
  simp only [Store.find]
  split
  · exact .inl rfl
  · exact .inr (sent_findAccounts u _)

theorem sent_login_pool (rules : Rules) (c : Credentials) (pool : Database.Pool) :
    ∀ x ∈ (login rules c pool).sent, x.command = .selectAccounts := by
  cases hv : c.validate rules with
  | error e =>
    rw [login_of_invalid rules pool hv]
    intro x hx
    cases hx
  | ok a =>
    rw [login_of_valid rules pool hv]
    intro x hx
    rcases Database.Pool.sent_find a.username pool with h | h <;> rw [h] at hx
    · cases hx
    · rw [List.mem_singleton.mp hx]
      rfl

/-- **HTTP is a faithful transport.** Over every store, in every state and under all rules:

* a login by a query and a login by a body, with the fields in any order and the absent ones left
  out or, in a body, null, are answered alike, as the service answers the credentials;
* every way to write the fields as form data after `/login?` makes such a login by a query;
* a registration by a body is answered as the service answers it under the same salt.

A login leaves the table as it is, and asks a database for nothing but rows. -/
theorem conveys_services {σ : Type} [Store σ] (rules : Rules) (salt : Salt) (s : σ) :
    (∀ (c : Credentials) name username r, name.or username = c.username →
      r.Queries "/login" (c.fields name username) ∨ r.Posts "/login" (c.fields name username) →
        Conveys r loginAnswer (login rules c s) (respond rules salt r s)) ∧
    (∀ fields kvs ps (r : Request), Sends (kvs.map fun p => (p.1, some p.2)) fields →
      Form.Pieces kvs ps → r.method = "GET" →
      r.target = .parse ("/login" ++ "?" ++ Utf8.ofAscii (Form.joined ps)) →
        r.Queries "/login" fields) ∧
    (∀ (x : Registration) username name r, username.or name = x.username →
      r.Posts "/register" (x.fields username name) →
        Conveys r registerAnswer (register rules salt x s) (respond rules salt r s)) ∧
    (∀ c (t : Table), (login rules c t).state = t) ∧
    ∀ c (pool : Database.Pool), ∀ x ∈ (login rules c pool).sent, x.command = .selectAccounts := by
  refine ⟨?_, ?_, ?_, state_login rules, sent_login_pool rules⟩
  · intro c name username r hname h
    have htask : (Call.http r).task = .login c :=
      h.elim (task_of_queries hname) (task_of_posts_login hname)
    have hmethod : r.method ≠ "HEAD" ∧ r.method ≠ "OPTIONS" := by
      rcases h with h | h <;> rw [h.method] <;> decide
    exact conveys_of_deliver hmethod (run_of_login rules salt s htask)
  · intro fields kvs ps r hsends hpieces hmethod htarget
    exact queries_of_uri hsends hpieces hmethod htarget
  · intro x username name r hname h
    have hmethod : r.method ≠ "HEAD" ∧ r.method ≠ "OPTIONS" := by
      rw [h.method]
      decide
    have htask : (Call.http r).task = .registration x := task_of_posts_register hname h
    exact conveys_of_deliver hmethod (run_of_registration rules salt s htask)

/-- Ann's password has a quotation mark, a tab, an ampersand and a letter beyond ASCII. She
registers with a body, and logs in by a query and by a body that leaves her role out. -/
theorem conveys_services_ann :
    let rules : Rules := ⟨.optional, .plaintext⟩
    let password := "\"\t&\u00E9"
    let ann : Registration := ⟨some "ann", some "a@x.org", some password, none⟩
    let login : Credentials := ⟨some "ann", some password, none⟩
    let posted (path : String) (sent : List (String × Option String)) : Request :=
      ⟨"POST", .parse path, [("content-type", "application/json")],
        (Json.Value.ofFields sent).render⟩
    let registration := posted "/register" (ann.fields (some "ann") none)
    let body := posted "/login" [("username", some "ann"), ("password", some password)]
    let query : Request := ⟨"GET", .parse "/login?password=%22%09%26%C3%A9&name=ann", [], []⟩
    let empty : Table := ⟨[], true⟩
    let t : Table := ⟨[⟨"ann", "a@x.org", password, none⟩], true⟩
    Conveys registration registerAnswer (register rules (.ofNat 1) ann empty)
        (respond rules (.ofNat 1) registration empty) ∧
      Conveys body loginAnswer (Registrar.login rules login t) (respond rules (.ofNat 2) body t) ∧
      Conveys query loginAnswer (Registrar.login rules login t)
        (respond rules (.ofNat 3) query t) := by
  intro rules password ann login posted registration body query empty t
  have hregistration : registration.Posts "/register" (ann.fields (some "ann") none) :=
    { method := rfl
      path := rfl
      type := by decide
      body := ⟨_, Sends.refl (ann.distinct_fields (some "ann") none), rfl⟩
      length := by decide +kernel }
  have hbody : body.Posts "/login" (login.fields none (some "ann")) :=
    { method := rfl
      path := rfl
      type := by decide
      body := ⟨_, (Sends.refl (login.distinct_fields none (some "ann"))).filter, rfl⟩
      length := by decide +kernel }
  have hquery : query.Queries "/login" (login.fields (some "ann") none) := by
    have hsends : Sends [("password", some password), ("name", some "ann")]
        (login.fields (some "ann") none) :=
      (Sends.refl (login.distinct_fields (some "ann") none)).filter.perm (by decide)
    exact (conveys_services rules (.ofNat 3) t).2.1 _ [("password", password), ("name", "ann")] _
      query hsends (Form.pieces_writePairs _) rfl (by decide +kernel)
  exact ⟨(conveys_services rules (.ofNat 1) empty).2.2.1 ann (some "ann") none registration rfl
      hregistration,
    (conveys_services rules (.ofNat 2) t).1 login none (some "ann") body rfl (.inr hbody),
    (conveys_services rules (.ofNat 3) t).1 login (some "ann") none query rfl (.inl hquery)⟩

end Registrar
