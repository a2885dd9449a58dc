import Registrar.Proofs.Acceptance

/-! # The log as an audit trail

What is answered to registrations and logins can be read off the log, in order and one to one.

* `Seen`: a step as it is seen; `Seen.IsMarked`: it leaves the mark that it earns.
* `IsTrail`: the marks in a log are those that the steps of a run earn.
* `registrants_log`: who is named as registered has the rows that a run adds.
* `log_is_audit_trail`: sessions over tables and over pools.
-/

namespace Registrar
open Api Http Password
set_option autoImplicit false

/-! ## Runs -/

/-- A step as it is seen: the call, if it is one, its outcome, and its records. -/
structure Seen where
  call : Option Call
  outcome : Outcome
  records : List Record

namespace Seen

def mark? (x : Seen) : Option Mark := x.call.bind fun c => c.mark? x.outcome

/-- The step leaves the mark that it earns, and nothing at all if a field is missing. -/
structure IsMarked (rules : Rules) (x : Seen) : Prop where
  marks : marks x.records = x.mark?.toList
  missing : ∀ c, x.call = some c → c.Lacks rules → x.records = c.opening

theorem isMarked_call {σ : Type} [Store σ] (rules : Rules) (salt : Salt) {s : σ}
    (warns : OnlyWarns s) (c : Call) :
    IsMarked rules ⟨some c, (c.run rules salt s).value, (c.run rules salt s).records⟩ where
  marks := marks_run rules salt warns c
  missing := by
    intro c' hc hlacks
    cases hc
    exact records_of_lacks rules salt s hlacks

theorem isMarked_silent (rules : Rules) (o : Outcome) : IsMarked rules ⟨none, o, []⟩ where
  marks := rfl
  missing := fun _ hc => by cases hc

end Seen

/-- The marks in the log are those that the steps earn, in their order. -/
structure IsTrail (rules : Rules) (log : List Record) (seen : List Seen) : Prop where
  marks : marks log = seen.filterMap Seen.mark?
  step : ∀ x ∈ seen, x.IsMarked rules

namespace IsTrail

theorem nil (rules : Rules) : IsTrail rules [] [] where
  marks := rfl
  step := by simp

theorem cons {rules : Rules} {x : Seen} {log : List Record} {seen : List Seen}
    (first : x.IsMarked rules) (rest : IsTrail rules log seen) :
    IsTrail rules (x.records ++ log) (x :: seen) where
  marks := by
    rw [marks_append, first.marks, rest.marks, List.filterMap_cons]
    cases x.mark? <;> rfl
  step := by
    intro y hy
    rcases List.mem_cons.mp hy with rfl | hy
    · exact first
    · exact rest.step y hy

end IsTrail

namespace Session

def Step.call? : Step → Option Call
  | .call c => some c
  | .seed _ | .rows | .setAvailable _ => none

def log (rules : Rules) (steps : List (Salt × Step)) (t : Table) : List Record :=
  (run rules steps t).1.flatMap (·.records)

def seen (rules : Rules) (steps : List (Salt × Step)) (t : Table) : List Seen :=
  (steps.zip (run rules steps t).1).map fun x => ⟨x.1.2.call?, x.2.outcome, x.2.records⟩

theorem isMarked_step (rules : Rules) (salt : Salt) (s : Step) (t : Table) :
    Seen.IsMarked rules
      ⟨s.call?, (step rules salt s t).1.outcome, (step rules salt s t).1.records⟩ := by
  cases s with
  | call c => exact Seen.isMarked_call rules salt t.onlyWarns c
  | seed _ | rows | setAvailable _ => exact Seen.isMarked_silent rules _

theorem isTrail_run (rules : Rules) (steps : List (Salt × Step)) (t : Table) :
    IsTrail rules (log rules steps t) (seen rules steps t) := by
  induction steps generalizing t with
  | nil => exact .nil rules
  | cons x steps ih => exact .cons (isMarked_step rules x.1 x.2 t) (ih _)

theorem added_call (rules : Rules) (salt : Salt) (c : Call) (t : Table) :
    added rules salt (.call c) t = c.accepted rules salt t := by
  have houtcome : (step rules salt (.call c) t).1.outcome = (c.run rules salt t).value := rfl
  rw [added, houtcome, Step.row?, Call.accepted]
  cases h : c.task.row? rules salt with
  | none => simp
  | some a =>
    rw [isSuccess_run t h]
    cases hok : (Store.insert a t).value.isOk <;> simp [Option.filter, hok]

theorem registrants_step (rules : Rules) (salt : Salt) {s : Step} (indirect : s.Indirect)
    (t : Table) :
    registrants (step rules salt s t).1.records =
      (added rules salt s t).toList.map (·.username) := by
  cases s with
  | call c =>
    rw [added_call]
    exact registrants_run rules salt t.onlyWarns fun a h => indirect.2 a (congrArg Step.call h)
  | seed a => exact absurd rfl (indirect.1 a)
  | rows | setAvailable b => rfl

/-- Those whom the log names as registered have the rows that the run has added. -/
theorem registrants_log (rules : Rules) (steps : List (Salt × Step))
    (indirect : ∀ x ∈ steps, x.2.Indirect) (t : Table) :
    ∃ new : List Account, (run rules steps t).2.rows = t.rows ++ new ∧
      registrants (log rules steps t) = new.map (·.username) := by
  induction steps generalizing t with
  | nil => exact ⟨[], (List.append_nil _).symm, rfl⟩
  | cons x steps ih =>
    obtain ⟨salt, s⟩ := x
    obtain ⟨new, hrows, hnames⟩ :=
      ih (fun y hy => indirect y (List.mem_cons_of_mem _ hy)) (step rules salt s t).2
    refine ⟨(added rules salt s t).toList ++ new, ?_, ?_⟩
    · rw [← List.append_assoc, ← rows_step]
      exact hrows
    · have hlog : log rules ((salt, s) :: steps) t =
          (step rules salt s t).1.records ++ log rules steps (step rules salt s t).2 := rfl
      rw [hlog, registrants_append, List.map_append, hnames,
        registrants_step rules salt (indirect _ List.mem_cons_self)]

end Session

namespace Database.Session

def Step.call? : Step → Option Call
  | .call _ c => some c
  | .closePool => none

def log (rules : Rules) (steps : List (Salt × Step)) (pool : Pool) : List Record :=
  (run rules steps pool).1.flatMap (·.records)

def seen (rules : Rules) (steps : List (Salt × Step)) (pool : Pool) : List Seen :=
  (steps.zip (run rules steps pool).1).map fun x => ⟨x.1.2.call?, x.2.outcome, x.2.records⟩

theorem isMarked_step (rules : Rules) (salt : Salt) (s : Step) (pool : Pool) :
    Seen.IsMarked rules
      ⟨s.call?, (step rules salt s pool).1.outcome, (step rules salt s pool).1.records⟩ := by
  cases s with
  | call p c => exact Seen.isMarked_call rules salt (Pool.onlyWarns _) c
  | closePool => exact Seen.isMarked_silent rules _

theorem isTrail_run (rules : Rules) (steps : List (Salt × Step)) (pool : Pool) :
    IsTrail rules (log rules steps pool) (seen rules steps pool) := by
  induction steps generalizing pool with
  | nil => exact .nil rules
  | cons x steps ih => exact .cons (isMarked_step rules x.1 x.2 pool) (ih _)

/-- The step does not reach past the services to add a row. -/
def Step.Indirect (s : Step) : Prop := ∀ p a, s ≠ .call p (.insert a)

theorem registrants_step (rules : Rules) (salt : Salt) {s : Step} (indirect : s.Indirect)
    (pool : Pool) :
    ∃ new : List Account,
      committed (step rules salt s pool).1.sent = new.map Account.parameters ∧
        registrants (step rules salt s pool).1.records = new.map (·.username) := by
  cases s with
  | closePool => exact ⟨[], rfl, rfl⟩
  | call p c =>
    have hc : ∀ a, c ≠ .insert a := fun a h => indirect p a (congrArg (Step.call p) h)
    exact ⟨_, Pool.committed_run rules salt c { pool with peer := p },
      registrants_run rules salt (Pool.onlyWarns _) hc⟩

/-- Those whom the log names as registered have the rows that the run has committed. -/
theorem registrants_log (rules : Rules) (steps : List (Salt × Step))
    (indirect : ∀ x ∈ steps, x.2.Indirect) (pool : Pool) :
    ∃ new : List Account,
      (run rules steps pool).1.flatMap (fun e => committed e.sent) =
        new.map Account.parameters ∧
      registrants (log rules steps pool) = new.map (·.username) := by
  induction steps generalizing pool with
  | nil => exact ⟨[], rfl, rfl⟩
  | cons x steps ih =>
    obtain ⟨salt, s⟩ := x
    obtain ⟨first, hcommitted, hregistered⟩ :=
      registrants_step rules salt (indirect _ List.mem_cons_self) pool
    obtain ⟨new, hrows, hnames⟩ :=
      ih (fun y hy => indirect y (List.mem_cons_of_mem _ hy)) (step rules salt s pool).2
    refine ⟨first ++ new, ?_, ?_⟩
    · rw [List.map_append, ← hcommitted, ← hrows]
      rfl
    · have hlog : log rules ((salt, s) :: steps) pool =
          (step rules salt s pool).1.records ++ log rules steps (step rules salt s pool).2 := rfl
      rw [hlog, registrants_append, List.map_append, hnames, hregistered]

/-- A registration is logged exactly if its commit is sent and succeeds. -/
theorem registered_iff_commits (rules : Rules) (steps : List (Salt × Step)) (pool : Pool) {i : Nat}
    {salt : Salt} {p : Peer} {c : Call} {e : Entry} (hi : steps[i]? = some (salt, .call p c))
    (indirect : (Step.call p c).Indirect) (he : (run rules steps pool).1[i]? = some e) :
    (∃ u, .registered u ∈ marks e.records) ↔
      .plain .commit ∈ e.sent ∧ (p.execute (.plain .commit)).1 = none := by
  have hc : ∀ a, c ≠ .insert a := fun a h => indirect p a (congrArg (Step.call p) h)
  have hentry := entry_eq rules hi pool
  rw [he, Option.some.injEq] at hentry
  let met : Pool := { poolAt rules pool steps i with peer := p }
  have hregistered := registrants_run rules salt (Pool.onlyWarns met) hc
  have hcommits := Pool.isSome_accepted_iff rules salt c met
  rw [hentry]
  simp only [step, ← mem_registrants_iff]
  rw [hregistered, ← hcommits]
  cases c.accepted rules salt met <;> simp

end Database.Session

/-- **The log is an audit trail.** In every run over a table, and in every run over a pool whatever
the server answers:

* the marks in the log, read off the texts and the values that are written, are those that the
  registrations and logins earn by their outcomes, in the order of the steps; no step leaves more
  than one, and a step in which a required field is missing logs nothing but the opening of its
  request;
* if rows are written through the services only, those who are logged as registered are the users
  of the rows that the run appends to the table, or commits over the pool, in the same order;
* over a pool a registration is logged if and only if its commit is sent and succeeds. -/
theorem log_is_audit_trail (rules : Rules) :
    (∀ (steps : List (Salt × Session.Step)) (t : Table),
      IsTrail rules (Session.log rules steps t) (Session.seen rules steps t) ∧
      ((∀ x ∈ steps, x.2.Indirect) →
        ∃ new : List Account, (Session.run rules steps t).2.rows = t.rows ++ new ∧
          registrants (Session.log rules steps t) = new.map (·.username))) ∧
    ∀ (steps : List (Salt × Database.Session.Step)) (pool : Database.Pool),
      IsTrail rules (Database.Session.log rules steps pool)
        (Database.Session.seen rules steps pool) ∧
      ((∀ x ∈ steps, x.2.Indirect) →
        (∃ new : List Account,
          (Database.Session.run rules steps pool).1.flatMap (fun e => committed e.sent) =
            new.map Account.parameters ∧
          registrants (Database.Session.log rules steps pool) = new.map (·.username)) ∧
        ∀ (i : Nat) salt p c e, steps[i]? = some (salt, .call p c) →
          (Database.Session.run rules steps pool).1[i]? = some e →
          ((∃ u, .registered u ∈ marks e.records) ↔
            .plain .commit ∈ e.sent ∧ (p.execute (.plain .commit)).1 = none)) := by
  constructor
  · intro steps t
    exact ⟨Session.isTrail_run rules steps t,
      fun indirect => Session.registrants_log rules steps indirect t⟩
  · intro steps pool
    refine ⟨Database.Session.isTrail_run rules steps pool, fun indirect => ⟨?_, ?_⟩⟩
    · exact Database.Session.registrants_log rules steps indirect pool
    · intro i salt p c e hi he
      exact Database.Session.registered_iff_commits rules steps pool hi
        (indirect _ (List.mem_of_getElem? hi)) he

/-- Ann registers, Bob has her email, the table is lost and found again while both go on; and a
server refuses the commit of a third. -/
theorem log_is_audit_trail_ann :
    let rules : Rules := ⟨.optional, .plaintext⟩
    let registers (u email : String) : Call := .register ⟨some u, some email, some "pw", none⟩
    let logsIn (query : String) : Call := .http ⟨"GET", .parse ("/login?" ++ query), [], []⟩
    let steps : List (Salt × Session.Step) :=
      [registers "ann" "a@x.org", registers "bob" "a@x.org", registers "bob" " "].map
          (fun c => (.ofNat 1, .call c)) ++
        (.ofNat 2, .setAvailable false) ::
        [registers "bob" "b@x.org", logsIn "name=ann&password=pw"].map
          (fun c => (.ofNat 3, .call c)) ++
        (.ofNat 4, .setAvailable true) ::
        [logsIn "name=ann&password=guess", logsIn "name=ann&password=pw", logsIn "name=ann"].map
          (fun c => (.ofNat 5, .call c))
    let refusing : Database.Peer := { Database.Peer.idle with
      fault := fun s =>
        if s.command = .commit then some ⟨"ERROR", "40001", "could not serialize"⟩ else none }
    let overPool : List (Salt × Database.Session.Step) :=
      [(.ofNat 6, .call refusing (registers "eve" "e@x.org"))]
    marks (Session.log rules steps ⟨[], true⟩) =
        [.registered "ann", .conflict "bob", .insertFailed, .lookupFailed, .refused "ann",
          .loggedIn "ann"] ∧
      (Session.run rules steps ⟨[], true⟩).2.rows.map (·.username) = ["ann"] ∧
      ∃ e, (Database.Session.run rules overPool (.opened .idle)).1[0]? = some e ∧
        ¬∃ u, .registered u ∈ marks e.records := by
  intro rules registers logsIn steps refusing overPool
  obtain ⟨htable, hpool⟩ := log_is_audit_trail rules
  have hmarks : marks (Session.log rules steps ⟨[], true⟩) =
      [.registered "ann", .conflict "bob", .insertFailed, .lookupFailed, .refused "ann",
        .loggedIn "ann"] := by
    rw [(htable steps ⟨[], true⟩).1.marks]
    decide +kernel
  have indirect : ∀ x ∈ steps, x.2.Indirect := by
    intro x hx
    simp only [steps, List.map_cons, List.map_nil, List.cons_append, List.nil_append,
      List.mem_cons, List.not_mem_nil, or_false] at hx
    rcases hx with rfl | rfl | rfl | rfl | rfl | rfl | rfl | rfl | rfl | rfl
    all_goals exact ⟨fun a => Session.Step.noConfusion, fun a h => by simp [registers, logsIn] at h⟩
  have indirect' : ∀ x ∈ overPool, x.2.Indirect := by
    intro x hx p a h
    rw [List.mem_singleton.mp hx] at h
    cases h
  refine ⟨hmarks, ?_, _, rfl, ?_⟩
  · obtain ⟨new, hrows, hnames⟩ := (htable steps ⟨[], true⟩).2 indirect
    rw [hrows, List.nil_append, ← hnames, registrants, hmarks]
    rfl
  · intro hregistered
    obtain ⟨-, hsucceeds⟩ :=
      (((hpool overPool (.opened .idle)).2 indirect').2 0 _ _ _ _ rfl rfl).mp hregistered
    cases hsucceeds

end Registrar
