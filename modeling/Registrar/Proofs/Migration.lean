import Mathlib.Data.List.Nodup
import Registrar.Database.Start
import Registrar.Proofs.Transaction

/-! # The course of a start that migrates

A start connects, asks for the records of earlier migrations, and applies the bundled one in a
transaction if it is not among them. It ends at the first thing that goes wrong.

* `Peer.Accepts`, `Peer.Refuses`: how a peer answers to commands in a row.
* `shown`: the statements that are no bookkeeping of the migrator.
* `Peer.Opens`, `Peer.Lists`, `Peer.IsReady`: how far a start gets before it applies anything.
* `Halts`, `Aborts`, `Course`: all ways in which a start ends; `course_start`: it ends in one.
* `bundled_migration_law`: when the transaction begins, what a pool and a failure mean, which defect
  is reported, and that a second start applies nothing.
-/

namespace Registrar.Database
set_option autoImplicit false

/-! ## Commands in a row -/

/-- The peer does not refuse the command, or not any more. -/
def Peer.Accepts (p : Peer) (c : Command) : Prop := (p.execute (.plain c)).1 = none

/-- The first of the commands that is not accepted is refused with an error. -/
def Peer.Refuses (p : Peer) (cs : List Command) (e : Error) : Prop :=
  ∃ before c after, cs = before ++ c :: after ∧ (∀ b ∈ before, p.Accepts b) ∧
    (p.execute (.plain c)).1 = some e

theorem Peer.execute_of_accepts {p : Peer} {c : Command} (h : p.Accepts c) :
    p.execute (.plain c) = (none, p) := by
  have hfirst : p.execute (.plain c) = (none, (p.execute (.plain c)).2) := Prod.ext h rfl
  rw [hfirst, Peer.eq_of_execute hfirst]

theorem Peer.accepts_or_refuses (p : Peer) (cs : List Command) :
    (∀ c ∈ cs, p.Accepts c) ∨ ∃ e, p.Refuses cs e := by
  induction cs with
  | nil => exact .inl fun c hc => nomatch hc
  | cons c cs ih =>
    cases hc : (p.execute (.plain c)).1 with
    | some e => exact .inr ⟨e, [], c, cs, rfl, fun b hb => (nomatch hb), hc⟩
    | none =>
      rcases ih with hall | ⟨e, before, d, after, rfl, haccepted, hrefused⟩
      · exact .inl (List.forall_mem_cons.mpr ⟨hc, hall⟩)
      · have hbefore : ∀ b ∈ c :: before, p.Accepts b := List.forall_mem_cons.mpr ⟨hc, haccepted⟩
        exact .inr ⟨e, c :: before, d, after, rfl, hbefore, hrefused⟩

/-! ## What is shown of a procedure -/

/-- The statements that are no bookkeeping. -/
def shown (sent : List Statement) : List Statement := sent.filter fun s => s.command.text?.isSome

theorem mem_shown_iff {s : Statement} (text : s.command.text?.isSome = true)
    (sent : List Statement) : s ∈ shown sent ↔ s ∈ sent := by
  rw [shown, List.mem_filter, and_iff_left text]

theorem shown_of_bookkeeping {cs : List Command} (h : ∀ c ∈ cs, c.text? = none) :
    shown (cs.map Statement.plain) = [] := by
  rw [shown, List.filter_eq_nil_iff]
  intro s hs
  obtain ⟨c, hc, rfl⟩ := List.mem_map.mp hs
  rw [Statement.plain, h c hc]
  exact Bool.false_ne_true

namespace Progress

/-- What the caller sees of a procedure: its failure and the statements shown. -/
def seen (a : Progress) : Option MigrationError × List Statement := (a.failure, shown a.sent)

theorem seen_andThen_of_failure {a : Progress} {e : MigrationError} (h : a.failure = some e)
    (f : Peer → Progress) : (a.andThen f).seen = a.seen := by
  simp only [andThen, h]

theorem seen_andThen {a : Progress} (h : a.failure = none) (f : Peer → Progress) :
    (a.andThen f).seen = ((f a.peer).failure, shown a.sent ++ shown (f a.peer).sent) := by
  simp only [andThen, h, seen, shown, List.filter_append]

theorem seen_check_andThen (failure : Option MigrationError) (p : Peer) (f : Peer → Progress) :
    ((check failure p).andThen f).seen =
      match failure with
      | some e => (some e, [])
      | none => (f p).seen := by
  cases failure <;> rfl

section
variable {p : Peer} {c : Command} {cs : List Command} (wrap : Error → MigrationError)

@[simp] theorem send_nil : send [] wrap p = ⟨none, [], p⟩ := rfl

theorem send_cons_of_accepts (h : p.Accepts c) :
    send (c :: cs) wrap p =
      ⟨(send cs wrap p).failure, .plain c :: (send cs wrap p).sent, (send cs wrap p).peer⟩ := by
  simp only [send, List.map_cons, Peer.executeAll, Peer.execute_of_accepts h]

theorem send_cons_of_refused {e : Error} (h : (p.execute (.plain c)).1 = some e) :
    send (c :: cs) wrap p = ⟨some (wrap e), [.plain c], (p.execute (.plain c)).2⟩ := by
  have hexecute : p.execute (.plain c) = (some e, (p.execute (.plain c)).2) := Prod.ext h rfl
  simp only [send, List.map_cons, Peer.executeAll]
  rw [hexecute]
  rfl

theorem send_of_accepts (h : ∀ c ∈ cs, p.Accepts c) :
    send cs wrap p = ⟨none, cs.map Statement.plain, p⟩ := by
  induction cs with
  | nil => rfl
  | cons c cs ih =>
    rw [send_cons_of_accepts wrap (h c List.mem_cons_self),
      ih fun d hd => h d (List.mem_cons_of_mem c hd)]
    rfl

/-- Nothing is sent after the refused command. -/
theorem send_of_refuses {e : Error} (h : p.Refuses cs e) :
    (send cs wrap p).failure = some (wrap e) ∧
      ∃ first, (send cs wrap p).sent = first.map Statement.plain ∧ first ⊆ cs := by
  obtain ⟨before, c, after, rfl, haccepted, hrefused⟩ := h
  induction before with
  | nil =>
    rw [List.nil_append, send_cons_of_refused wrap hrefused]
    exact ⟨rfl, [c], rfl, by simp⟩
  | cons b before ih =>
    obtain ⟨hfailure, first, hsent, hsub⟩ := ih fun d hd => haccepted d (List.mem_cons_of_mem b hd)
    rw [List.cons_append, send_cons_of_accepts wrap (haccepted b List.mem_cons_self)]
    exact ⟨hfailure, b :: first, by rw [hsent]; rfl, List.cons_subset_cons b hsub⟩

variable (bookkeeping : ∀ c ∈ cs, c.text? = none)
include bookkeeping

theorem seen_send_of_accepts (h : ∀ c ∈ cs, p.Accepts c) (f : Peer → Progress) :
    ((send cs wrap p).andThen f).seen = (f p).seen := by
  rw [send_of_accepts wrap h, seen_andThen rfl, shown_of_bookkeeping bookkeeping]
  rfl

theorem seen_send_of_refuses {e : Error} (h : p.Refuses cs e) (f : Peer → Progress) :
    ((send cs wrap p).andThen f).seen = (some (wrap e), []) := by
  obtain ⟨hfailure, first, hsent, hsub⟩ := send_of_refuses wrap h
  rw [seen_andThen_of_failure hfailure, seen, hfailure, hsent,
    shown_of_bookkeeping fun c hc => bookkeeping c (hsub hc)]

end

end Progress

/-! ## Before anything is applied -/

/-- What is sent before the records of earlier migrations are looked at. -/
def opening : List Command := [.currentDatabase, .lock, .bookkeeping, .dirtyVersions]

/-- The connection is made and the opening accepted. -/
structure Peer.Opens (p : Peer) : Prop where
  connected : p.refusal? = none
  accepted : ∀ c ∈ opening, p.Accepts c

/-- No record is of a migration that was broken off, and the records are listed. -/
structure Peer.Lists (p : Peer) : Prop extends p.Opens where
  clean : ∀ m ∈ p.applied, m.succeeded = true
  listed : p.Accepts .appliedVersions

/-- No record is of a migration that is not known. -/
structure Peer.IsReady (p : Peer) : Prop extends p.Lists where
  known : ∀ m ∈ p.applied, m.version = bundledVersion

theorem dirty?_eq_none_iff (applied : List AppliedMigration) :
    dirty? applied = none ↔ ∀ m ∈ applied, m.succeeded = true := by
  simp [dirty?]

theorem unknown?_eq_none_iff (applied : List AppliedMigration) :
    unknown? applied = none ↔ ∀ m ∈ applied, m.version = bundledVersion := by
  simp [unknown?]

theorem recorded?_eq_none_iff (applied : List AppliedMigration) :
    recorded? applied = none ↔ ∀ m ∈ applied, m.version ≠ bundledVersion := by
  simp [recorded?]

theorem mem_of_recorded? {applied : List AppliedMigration} {m : AppliedMigration}
    (h : recorded? applied = some m) : m ∈ applied ∧ m.version = bundledVersion := by
  simpa using List.mem_filter.mp (List.mem_of_getLast? h)

/-! ## The ways in which a start ends -/

/-- The start ends before anything is applied. -/
inductive Halts (p : Peer) : StartError → Prop
  | unconnected {e : Error} (refused : p.refusal? = some e) : Halts p (.database e)
  | unopened {e : Error} (connected : p.refusal? = none) (refused : p.Refuses opening e) :
    Halts p (.migration (.execution e))
  | dirty {v : Int} (opens : p.Opens) (first : dirty? p.applied = some v) :
    Halts p (.migration (.dirty v))
  | unlisted {e : Error} (opens : p.Opens) (clean : ∀ m ∈ p.applied, m.succeeded = true)
    (refused : (p.execute (.plain .appliedVersions)).1 = some e) :
    Halts p (.migration (.execution e))
  | missing {v : Int} (lists : p.Lists) (first : unknown? p.applied = some v) :
    Halts p (.migration (.missing v))

/-- The transaction of the bundled migration fails, with these statements shown. -/
inductive Aborts (p : Peer) : MigrationError → List Command → Prop
  | unbegun {e : Error} (refused : (p.execute (.plain .beginTransaction)).1 = some e) :
    Aborts p (.execution e) [.beginTransaction]
  | uncreated {e : Error} (begun : p.Accepts .beginTransaction)
    (refused : (p.execute (.plain .createUsers)).1 = some e) :
    Aborts p (.executionOf e bundledVersion) [.beginTransaction, .createUsers, .rollback]
  | unrecorded {e : Error} (begun : p.Accepts .beginTransaction)
    (created : p.Accepts .createUsers)
    (refused : (p.execute (.plain .recordVersion)).1 = some e) :
    Aborts p (.execution e) [.beginTransaction, .createUsers, .rollback]
  | uncommitted {e : Error} (begun : p.Accepts .beginTransaction)
    (created : p.Accepts .createUsers) (recorded : p.Accepts .recordVersion)
    (refused : (p.execute (.plain .commit)).1 = some e) :
    Aborts p (.execution e) [.beginTransaction, .createUsers, .commit, .rollback]

/-- Why the lock is not given back, if it is not. -/
def Peer.unlockFailure? (p : Peer) : Option MigrationError :=
  (p.execute (.plain .unlock)).1.map .execution

/-- The bundled migration with its record, in a transaction. -/
def bundledTransaction : List Command := [.beginTransaction, .createUsers, .recordVersion, .commit]

inductive Course (p : Peer) : Option StartError → List Command → Prop
  | halted {e : StartError} (h : Halts p e) : Course p (some e) []
  | modified {m : AppliedMigration} (ready : p.IsReady) (record : recorded? p.applied = some m)
    (changed : m.sameChecksum = false) :
    Course p (some (.migration (.modified bundledVersion))) []
  | unchanged {m : AppliedMigration} {failure : Option StartError} (ready : p.IsReady)
    (record : recorded? p.applied = some m) (same : m.sameChecksum = true)
    (closed : failure = p.unlockFailure?.map .migration) : Course p failure []
  | aborted {e : MigrationError} {cs : List Command} (ready : p.IsReady)
    (due : recorded? p.applied = none) (h : Aborts p e cs) : Course p (some (.migration e)) cs
  | applied {failure : Option StartError} (ready : p.IsReady) (due : recorded? p.applied = none)
    (accepted : ∀ c ∈ bundledTransaction, p.Accepts c)
    (closed : failure = p.unlockFailure?.map .migration) :
    Course p failure [.beginTransaction, .createUsers, .commit]

/-! ## What is seen of each way -/

/-- Why a start gives no pool. -/
def Started.failure? (s : Started) : Option StartError :=
  match s.pool with
  | .error e => some e
  | .ok _ => none

section
variable {p : Peer}

open Progress

theorem seen_migrate_of_opens (opens : p.Opens) :
    (migrate p).seen =
      match dirty? p.applied with
      | some v => (some (.dirty v), [])
      | none =>
        ((send [.appliedVersions] .execution p).andThen fun p =>
          (check ((unknown? p.applied).map .missing) p).andThen fun p =>
            (bringUpToDate p).andThen (send [.currentDatabase, .unlock] .execution)).seen := by
  have hopening : (migrate p).seen = _ :=
    seen_send_of_accepts .execution (by decide) opens.accepted _
  rw [hopening, seen_check_andThen]
  cases dirty? p.applied <;> rfl

theorem seen_migrate_of_lists (lists : p.Lists) :
    (migrate p).seen =
      match unknown? p.applied with
      | some v => (some (.missing v), [])
      | none => ((bringUpToDate p).andThen (send [.currentDatabase, .unlock] .execution)).seen := by
  have hlisted : ∀ c ∈ [Command.appliedVersions], p.Accepts c := by simpa using lists.listed
  rw [seen_migrate_of_opens lists.toOpens, (dirty?_eq_none_iff p.applied).mpr lists.clean]
  rw [seen_send_of_accepts .execution (by decide) hlisted, seen_check_andThen]
  cases unknown? p.applied <;> rfl

theorem seen_migrate_of_halts {e : MigrationError} (h : Halts p (.migration e)) :
    (migrate p).seen = (some e, []) := by
  cases h with
  | unopened _ refused => exact seen_send_of_refuses .execution (by decide) refused _
  | dirty opens first => rw [seen_migrate_of_opens opens, first]
  | unlisted opens clean refused =>
    rw [seen_migrate_of_opens opens, (dirty?_eq_none_iff p.applied).mpr clean]
    exact seen_send_of_refuses .execution (by decide) ⟨[], _, [], rfl, by simp, refused⟩ _
  | missing lists first => rw [seen_migrate_of_lists lists, first]

theorem seen_applyBundled_of_aborts {e : MigrationError} {cs : List Command} (h : Aborts p e cs) :
    (applyBundled p).seen = (some e, cs.map Statement.plain) := by
  cases h with
  | unbegun refused =>
    simp only [applyBundled, send_cons_of_refused _ refused, andThen]
    rfl
  | uncreated begun refused =>
    simp only [applyBundled, send_cons_of_accepts _ begun, send_nil, send_cons_of_refused _ refused,
      andThen, orRollBack]
    rfl
  | unrecorded begun created refused =>
    simp only [applyBundled, send_cons_of_accepts _ begun, send_cons_of_accepts _ created, send_nil,
      send_cons_of_refused _ refused, andThen, orRollBack]
    rfl
  | uncommitted begun created recorded refused =>
    simp only [applyBundled, send_cons_of_accepts _ begun, send_cons_of_accepts _ created,
      send_cons_of_accepts _ recorded, send_nil, send_cons_of_refused _ refused, andThen,
      orRollBack]
    rfl

theorem applyBundled_of_accepts (accepted : ∀ c ∈ bundledTransaction, p.Accepts c)
    (bookkeeping : p.Accepts .bookkeeping) :
    applyBundled p =
      ⟨none, (bundledTransaction ++ [Command.bookkeeping]).map Statement.plain, p⟩ := by
  obtain ⟨begun, created, recorded, committed⟩ : p.Accepts .beginTransaction ∧
      p.Accepts .createUsers ∧ p.Accepts .recordVersion ∧ p.Accepts .commit := by
    simpa [bundledTransaction] using accepted
  simp only [applyBundled, send_cons_of_accepts _ begun, send_cons_of_accepts _ created,
    send_cons_of_accepts _ recorded, send_cons_of_accepts _ committed,
    send_cons_of_accepts _ bookkeeping, send_nil, andThen, orRollBack]
  rfl

theorem seen_closing (ready : p.IsReady) :
    (send [.currentDatabase, .unlock] .execution p).seen = (p.unlockFailure?, []) := by
  have hdatabase : p.Accepts .currentDatabase := ready.accepted _ (by decide)
  rw [send_cons_of_accepts _ hdatabase, Peer.unlockFailure?]
  cases h : (p.execute (.plain .unlock)).1 with
  | none =>
    rw [send_cons_of_accepts _ h, send_nil]
    rfl
  | some e =>
    rw [send_cons_of_refused _ h]
    rfl

theorem seen_migrate_of_isReady (ready : p.IsReady) :
    (migrate p).seen =
      ((bringUpToDate p).andThen (send [.currentDatabase, .unlock] .execution)).seen := by
  rw [seen_migrate_of_lists ready.toLists, (unknown?_eq_none_iff p.applied).mpr ready.known]

theorem seen_migrate_of_recorded (ready : p.IsReady) {m : AppliedMigration}
    (record : recorded? p.applied = some m) :
    (migrate p).seen =
      if m.sameChecksum then (p.unlockFailure?, []) else (some (.modified bundledVersion), []) := by
  simp only [seen_migrate_of_isReady ready, bringUpToDate, record, seen_check_andThen]
  cases m.sameChecksum with
  | true => exact seen_closing ready
  | false => rfl

theorem seen_migrate_of_aborts (ready : p.IsReady) (due : recorded? p.applied = none)
    {e : MigrationError} {cs : List Command} (h : Aborts p e cs) :
    (migrate p).seen = (some e, cs.map Statement.plain) := by
  have haborted := seen_applyBundled_of_aborts h
  simp only [seen_migrate_of_isReady ready, bringUpToDate, due]
  rw [seen_andThen_of_failure (congrArg Prod.fst haborted), haborted]

theorem seen_migrate_of_accepts (ready : p.IsReady) (due : recorded? p.applied = none)
    (accepted : ∀ c ∈ bundledTransaction, p.Accepts c) :
    (migrate p).seen =
      (p.unlockFailure?,
        [.plain .beginTransaction, .plain .createUsers, .plain .commit]) := by
  have happlied := applyBundled_of_accepts accepted (ready.accepted _ (by decide))
  have hclosing := seen_closing ready
  simp only [seen, Prod.mk.injEq] at hclosing
  simp only [seen_migrate_of_isReady ready, bringUpToDate, due, happlied]
  rw [seen_andThen rfl, hclosing.1, hclosing.2]
  rfl

/-- A start has a connection, and then is seen as its migration is, or it has none. -/
theorem seen_start {settings : Settings} (on : settings.runMigrations = true)
    (connected : p.refusal? = none) {failure : Option MigrationError} {sent : List Statement}
    (h : (migrate p).seen = (failure, sent)) :
    (start settings p).failure? = failure.map .migration ∧
      shown (start settings p).sent = sent := by
  simp only [seen, Prod.mk.injEq] at h
  simp only [start, connected, on, if_true, ← h.1, ← h.2]
  cases (migrate p).failure <;> exact ⟨rfl, rfl⟩

theorem seen_of_course {settings : Settings} (on : settings.runMigrations = true)
    {failure : Option StartError} {cs : List Command} (h : Course p failure cs) :
    (start settings p).failure? = failure ∧
      shown (start settings p).sent = cs.map Statement.plain := by
  cases h with
  | halted h =>
    cases h with
    | unconnected refused =>
      simp only [start, refused]
      exact ⟨rfl, rfl⟩
    | unopened connected refused =>
      exact seen_start on connected (seen_migrate_of_halts (.unopened connected refused))
    | dirty opens first =>
      exact seen_start on opens.connected (seen_migrate_of_halts (.dirty opens first))
    | unlisted opens clean refused =>
      exact seen_start on opens.connected (seen_migrate_of_halts (.unlisted opens clean refused))
    | missing lists first =>
      exact seen_start on lists.connected (seen_migrate_of_halts (.missing lists first))
  | modified ready record changed =>
    have hseen := seen_migrate_of_recorded ready record
    rw [changed] at hseen
    exact seen_start on ready.connected hseen
  | unchanged ready record same closed =>
    have hseen := seen_migrate_of_recorded ready record
    rw [same] at hseen
    rw [closed]
    exact seen_start on ready.connected hseen
  | aborted ready due h => exact seen_start on ready.connected (seen_migrate_of_aborts ready due h)
  | applied ready due accepted closed =>
    rw [closed]
    exact seen_start on ready.connected (seen_migrate_of_accepts ready due accepted)

end

/-! ## Every start ends in one of them -/

theorem Peer.halts_or_isReady (p : Peer) : (∃ e, Halts p e) ∨ p.IsReady := by
  cases hrefusal : p.refusal? with
  | some e => exact .inl ⟨_, .unconnected hrefusal⟩
  | none =>
    rcases p.accepts_or_refuses opening with hopened | ⟨e, hrefused⟩
    case inr => exact .inl ⟨_, .unopened hrefusal hrefused⟩
    have opens : p.Opens := ⟨hrefusal, hopened⟩
    cases hdirty : dirty? p.applied with
    | some v => exact .inl ⟨_, .dirty opens hdirty⟩
    | none =>
      have clean := (dirty?_eq_none_iff p.applied).mp hdirty
      cases hlisted : (p.execute (.plain .appliedVersions)).1 with
      | some e => exact .inl ⟨_, .unlisted opens clean hlisted⟩
      | none =>
        have lists : p.Lists := ⟨opens, clean, hlisted⟩
        cases hunknown : unknown? p.applied with
        | some v => exact .inl ⟨_, .missing lists hunknown⟩
        | none => exact .inr ⟨lists, (unknown?_eq_none_iff p.applied).mp hunknown⟩

theorem Peer.aborts_or_accepts (p : Peer) :
    (∃ e cs, Aborts p e cs) ∨ ∀ c ∈ bundledTransaction, p.Accepts c := by
  cases hbegun : (p.execute (.plain .beginTransaction)).1 with
  | some e => exact .inl ⟨_, _, .unbegun hbegun⟩
  | none =>
    cases hcreated : (p.execute (.plain .createUsers)).1 with
    | some e => exact .inl ⟨_, _, .uncreated hbegun hcreated⟩
    | none =>
      cases hrecorded : (p.execute (.plain .recordVersion)).1 with
      | some e => exact .inl ⟨_, _, .unrecorded hbegun hcreated hrecorded⟩
      | none =>
        cases hcommitted : (p.execute (.plain .commit)).1 with
        | some e => exact .inl ⟨_, _, .uncommitted hbegun hcreated hrecorded hcommitted⟩
        | none =>
          refine .inr fun c hc => ?_
          simp only [bundledTransaction, List.mem_cons, List.not_mem_nil, or_false] at hc
          rcases hc with rfl | rfl | rfl | rfl <;> assumption

theorem Peer.exists_course (p : Peer) : ∃ failure cs, Course p failure cs := by
  rcases p.halts_or_isReady with ⟨e, hhalts⟩ | ready
  · exact ⟨_, _, .halted hhalts⟩
  · cases hrecorded : recorded? p.applied with
    | some m =>
      cases hsame : m.sameChecksum with
      | true => exact ⟨_, _, .unchanged ready hrecorded hsame rfl⟩
      | false => exact ⟨_, _, .modified ready hrecorded hsame⟩
    | none =>
      rcases p.aborts_or_accepts with ⟨e, cs, haborts⟩ | haccepted
      · exact ⟨_, _, .aborted ready hrecorded haborts⟩
      · exact ⟨_, _, .applied ready hrecorded haccepted rfl⟩

theorem course_start {settings : Settings} (on : settings.runMigrations = true) (p : Peer) :
    ∃ cs, shown (start settings p).sent = cs.map Statement.plain ∧
      Course p (start settings p).failure? cs := by
  obtain ⟨failure, cs, hcourse⟩ := p.exists_course
  obtain ⟨hfailure, hsent⟩ := seen_of_course on hcourse
  exact ⟨cs, hsent, hfailure.symm ▸ hcourse⟩

/-! ## What the ways have in common -/

theorem Started.failure?_eq_some_iff (s : Started) (e : StartError) :
    s.failure? = some e ↔ s.pool = .error e := by
  unfold Started.failure?
  cases s.pool <;> simp

theorem Started.failure?_eq_none_iff (s : Started) :
    s.failure? = none ↔ ∃ pool, s.pool = .ok pool := by
  unfold Started.failure?
  cases s.pool <;> simp

theorem plain_mem_sent_iff {sent : List Statement} {cs : List Command}
    (h : shown sent = cs.map Statement.plain) {c : Command} (text : c.text?.isSome = true) :
    .plain c ∈ sent ↔ c ∈ cs := by
  rw [← mem_shown_iff (s := .plain c) text, h, List.mem_map]
  constructor
  · rintro ⟨d, hd, heq⟩
    obtain rfl : d = c := congrArg Statement.command heq
    exact hd
  · intro hc
    exact ⟨c, hc, rfl⟩

section
variable {p : Peer} {failure : Option StartError} {cs : List Command}

theorem Course.isReady_of_begins (h : Course p failure cs) (begun : .beginTransaction ∈ cs) :
    p.IsReady ∧ recorded? p.applied = none := by
  cases h with
  | halted _ | modified _ _ _ | unchanged _ _ _ _ => cases begun
  | aborted ready due _ | applied ready due _ _ => exact ⟨ready, due⟩

theorem begins_of_isReady {settings : Settings} (on : settings.runMigrations = true)
    (ready : p.IsReady) (due : recorded? p.applied = none) :
    .plain .beginTransaction ∈ (start settings p).sent := by
  rcases p.aborts_or_accepts with ⟨e, cs, haborts⟩ | haccepted
  · have hseen := seen_of_course on (.aborted ready due haborts)
    refine (plain_mem_sent_iff hseen.2 rfl).mpr ?_
    cases haborts <;> exact List.mem_cons_self
  · have hseen := seen_of_course on (.applied ready due haccepted rfl)
    exact (plain_mem_sent_iff hseen.2 rfl).mpr List.mem_cons_self

/-- A transaction that is begun, but whose migration or record is refused, is rolled back. -/
theorem Course.rolls_back (h : Course p failure cs) (begun : .beginTransaction ∈ cs)
    (accepted : p.Accepts .beginTransaction)
    (fails : ¬(p.Accepts .createUsers ∧ p.Accepts .recordVersion)) :
    .commit ∉ cs ∧ .rollback ∈ cs ∧ ∃ e, failure = some e := by
  cases h with
  | halted _ | modified _ _ _ | unchanged _ _ _ _ => cases begun
  | aborted _ _ h =>
    cases h with
    | unbegun refused =>
      rw [Peer.Accepts, refused] at accepted
      cases accepted
    | uncreated _ _ => exact ⟨by decide, by decide, _, rfl⟩
    | unrecorded _ _ _ => exact ⟨by decide, by decide, _, rfl⟩
    | uncommitted _ created recorded _ => exact absurd ⟨created, recorded⟩ fails
  | applied _ _ all _ => exact absurd ⟨all _ (by decide), all _ (by decide)⟩ fails

theorem Course.cases_of_success (h : Course p none cs) :
    (cs = [] ∧ p.IsReady ∧ ∃ m, recorded? p.applied = some m ∧ m.sameChecksum = true) ∨
      (cs = [.beginTransaction, .createUsers, .commit] ∧ p.IsReady ∧
        recorded? p.applied = none ∧ ∀ c ∈ bundledTransaction, p.Accepts c) := by
  cases h with
  | unchanged ready record same _ => exact .inl ⟨rfl, ready, _, record, same⟩
  | applied ready due accepted _ => exact .inr ⟨rfl, ready, due, accepted⟩

theorem not_of_closed {e : MigrationError} (defect : ∀ f, e ≠ .execution f) :
    some (StartError.migration e) ≠ p.unlockFailure?.map .migration := by
  unfold Peer.unlockFailure?
  intro h
  cases hunlock : (p.execute (.plain .unlock)).1 with
  | none => simp [hunlock] at h
  | some f => exact defect f (by simpa [hunlock] using h)

theorem Course.of_dirty {v : Int} (h : Course p (some (.migration (.dirty v))) cs) :
    p.Opens ∧ dirty? p.applied = some v := by
  cases h with
  | halted h =>
    cases h with
    | dirty opens first => exact ⟨opens, first⟩
  | unchanged _ _ _ closed | applied _ _ _ closed => exact absurd closed (not_of_closed (by simp))
  | aborted _ _ h => cases h

theorem Course.of_missing {v : Int} (h : Course p (some (.migration (.missing v))) cs) :
    p.Lists ∧ unknown? p.applied = some v := by
  cases h with
  | halted h =>
    cases h with
    | missing lists first => exact ⟨lists, first⟩
  | unchanged _ _ _ closed | applied _ _ _ closed => exact absurd closed (not_of_closed (by simp))
  | aborted _ _ h => cases h

theorem Course.of_modified {v : Int} (h : Course p (some (.migration (.modified v))) cs) :
    p.IsReady ∧ v = bundledVersion ∧
      ∃ m, recorded? p.applied = some m ∧ m.sameChecksum = false := by
  cases h with
  | halted h => cases h
  | modified ready record changed => exact ⟨ready, rfl, _, record, changed⟩
  | unchanged _ _ _ closed | applied _ _ _ closed => exact absurd closed (not_of_closed (by simp))
  | aborted _ _ h => cases h

end

/-! ## A second start -/

/-- The records after the bundled migration is applied, if it was not recorded before. -/
def recordBundled (applied : List AppliedMigration) : List AppliedMigration :=
  if applied.any fun m => m.version == bundledVersion then applied
  else applied ++ [⟨bundledVersion, true, true⟩]

/-- A later peer: nothing is refused, and the records are completed. -/
def Peer.later (p : Peer) : Peer := { Peer.idle with applied := recordBundled p.applied }

theorem course_of_recorded {applied : List AppliedMigration} {m : AppliedMigration}
    (clean : ∀ m ∈ applied, m.succeeded = true) (known : ∀ m ∈ applied, m.version = bundledVersion)
    (record : recorded? applied = some m) (same : m.sameChecksum = true) :
    Course { Peer.idle with applied } none [] := by
  have accepts : ∀ c, Peer.Accepts { Peer.idle with applied } c := fun c => rfl
  have ready : Peer.IsReady { Peer.idle with applied } :=
    { connected := rfl
      accepted := fun c _ => accepts c
      clean := clean
      listed := accepts _
      known := known }
  exact .unchanged ready record same rfl

theorem course_of_recordBundled {p : Peer} {cs : List Command} (h : Course p none cs) :
    Course p.later none [] := by
  unfold Peer.later
  rcases h.cases_of_success with ⟨-, ready, m, record, same⟩ | ⟨-, ready, due, -⟩
  · have hany : (p.applied.any fun m => m.version == bundledVersion) = true := by
      obtain ⟨hmem, hversion⟩ := mem_of_recorded? record
      exact List.any_eq_true.mpr ⟨m, hmem, beq_iff_eq.mpr hversion⟩
    rw [recordBundled, if_pos hany]
    exact course_of_recorded ready.clean ready.known record same
  · have hnone := (recorded?_eq_none_iff p.applied).mp due
    have hany : ¬(p.applied.any fun m => m.version == bundledVersion) = true := by
      simpa using hnone
    rw [recordBundled, if_neg hany]
    refine course_of_recorded ?_ ?_ (m := ⟨bundledVersion, true, true⟩) ?_ rfl
    · simpa [or_imp, forall_and] using ready.clean
    · simpa [or_imp, forall_and] using ready.known
    · simp [recorded?]

/-! ## The law -/

/-- What a start that migrates does at a peer. -/
structure MigrationLaw (p : Peer) (s : Started) : Prop where
  begins_iff : .plain .beginTransaction ∈ s.sent ↔
    p.IsReady ∧ ∀ m ∈ p.applied, m.version ≠ bundledVersion
  pool_ok : ∀ pool, s.pool = .ok pool →
    (shown s.sent = [] ∧ ∃ m ∈ p.applied, m.version = bundledVersion ∧ m.succeeded = true ∧
        m.sameChecksum = true) ∨
      shown s.sent = [.plain .beginTransaction, .plain .createUsers, .plain .commit] ∧
        ∀ c ∈ bundledTransaction, p.Accepts c
  /-- The transaction is begun, and the table or the record of the migration is refused. -/
  rolls_back : .plain .beginTransaction ∈ s.sent → p.Accepts .beginTransaction →
    ¬(p.Accepts .createUsers ∧ p.Accepts .recordVersion) →
      .plain .commit ∉ s.sent ∧ .plain .rollback ∈ s.sent ∧ ∃ e, s.pool = .error e
  dirty_iff : ∀ v, s.pool = .error (.migration (.dirty v)) ↔
    p.Opens ∧ dirty? p.applied = some v
  missing_iff : ∀ v, s.pool = .error (.migration (.missing v)) ↔
    p.Lists ∧ unknown? p.applied = some v
  modified_iff : ∀ v, s.pool = .error (.migration (.modified v)) ↔
    p.IsReady ∧ v = bundledVersion ∧
      ∃ m ∈ p.applied, m.version = bundledVersion ∧ m.sameChecksum = false

theorem recorded?_of_mem {applied : List AppliedMigration}
    (distinct : (applied.map (·.version)).Nodup) {m : AppliedMigration} (hm : m ∈ applied)
    (hversion : m.version = bundledVersion) : recorded? applied = some m := by
  cases h : recorded? applied with
  | none => exact absurd hversion ((recorded?_eq_none_iff applied).mp h m hm)
  | some m' =>
    obtain ⟨hm', hversion'⟩ := mem_of_recorded? h
    rw [List.inj_on_of_nodup_map distinct hm' hm (hversion'.trans hversion.symm)]

theorem migrationLaw_start {settings : Settings} (on : settings.runMigrations = true) (p : Peer)
    (distinct : (p.applied.map (·.version)).Nodup) : MigrationLaw p (start settings p) := by
  obtain ⟨cs, hshown, hcourse⟩ := course_start on p
  have failed : ∀ e, Course p (some e) [] → (start settings p).pool = .error e := fun e h =>
    ((start settings p).failure?_eq_some_iff e).mp (seen_of_course on h).1
  have hmem := fun (c : Command) text => plain_mem_sent_iff (c := c) hshown text
  refine
    { begins_iff := ?_, pool_ok := ?_, rolls_back := ?_
      dirty_iff := ?_, missing_iff := ?_, modified_iff := ?_ }
  · rw [hmem _ rfl, ← recorded?_eq_none_iff]
    refine ⟨hcourse.isReady_of_begins, fun ⟨ready, due⟩ => ?_⟩
    exact (hmem _ rfl).mp (begins_of_isReady on ready due)
  · intro pool hpool
    rw [(Started.failure?_eq_none_iff _).mpr ⟨pool, hpool⟩] at hcourse
    rcases hcourse.cases_of_success with ⟨rfl, ready, m, record, same⟩ | ⟨rfl, -, -, accepted⟩
    · obtain ⟨hm, hversion⟩ := mem_of_recorded? record
      exact .inl ⟨hshown, m, hm, hversion, ready.clean m hm, same⟩
    · exact .inr ⟨hshown, accepted⟩
  · rw [hmem _ rfl, hmem _ rfl, hmem _ rfl]
    intro begun accepted fails
    obtain ⟨hcommit, hrollback, e, he⟩ := hcourse.rolls_back begun accepted fails
    exact ⟨hcommit, hrollback, e, (Started.failure?_eq_some_iff _ e).mp he⟩
  · intro v
    constructor
    · intro h
      rw [(Started.failure?_eq_some_iff _ _).mpr h] at hcourse
      exact hcourse.of_dirty
    · rintro ⟨opens, first⟩
      exact failed _ (.halted (.dirty opens first))
  · intro v
    constructor
    · intro h
      rw [(Started.failure?_eq_some_iff _ _).mpr h] at hcourse
      exact hcourse.of_missing
    · rintro ⟨lists, first⟩
      exact failed _ (.halted (.missing lists first))
  · intro v
    constructor
    · intro h
      rw [(Started.failure?_eq_some_iff _ _).mpr h] at hcourse
      obtain ⟨ready, hv, m, record, changed⟩ := hcourse.of_modified
      obtain ⟨hm, hversion⟩ := mem_of_recorded? record
      exact ⟨ready, hv, m, hm, hversion, changed⟩
    · rintro ⟨ready, rfl, m, hm, hversion, changed⟩
      exact failed _ (.modified ready (recorded?_of_mem distinct hm hversion) changed)

/-- **The bundled migration.** Let a start migrate at a peer whose records have distinct versions.
The transaction is begun exactly if the connection and every statement before it succeed, no record
is of a migration that was broken off or is not known, and the bundled one is not on record. There
is a pool only if either nothing was shown and the bundled migration is on record with its checksum, or
the transaction is all that was shown and all of it was accepted. If the table or the record is
refused, the transaction is rolled back and there is no pool. A migration that was broken off is
reported before an unknown one, and that before one that was modified.

After a start that gives a pool, a start with the completed records and without any refusal gives a
pool and shows nothing. -/
theorem bundled_migration_law {settings : Settings} (on : settings.runMigrations = true) (p : Peer)
    (distinct : (p.applied.map (·.version)).Nodup) :
    MigrationLaw p (start settings p) ∧
      ((∃ pool, (start settings p).pool = .ok pool) →
        (∃ pool, (start settings p.later).pool = .ok pool) ∧
          shown (start settings p.later).sent = []) := by
  refine ⟨migrationLaw_start on p distinct, fun hpool => ?_⟩
  obtain ⟨cs, -, hcourse⟩ := course_start on p
  rw [(Started.failure?_eq_none_iff _).mpr hpool] at hcourse
  obtain ⟨hfailure, hshown⟩ := seen_of_course on (course_of_recordBundled hcourse)
  exact ⟨(Started.failure?_eq_none_iff _).mp hfailure, hshown⟩

/-- A new database is migrated; one that refuses the table is left as it was, and one on which a
later migration was broken off is not touched. -/
theorem bundled_migration_law_new :
    let settings : Settings := ⟨"postgres://h/d", 5000, 5, true, ⟨.required, .plaintext⟩⟩
    let refusing : Peer := { Peer.idle with
      fault := fun s =>
        if s.command = .createUsers then some ⟨"ERROR", "42501", "permission denied"⟩ else none }
    let broken : Peer := { Peer.idle with applied := [⟨bundledVersion + 1, true, false⟩] }
    shown (start settings Peer.idle).sent =
        [.plain .beginTransaction, .plain .createUsers, .plain .commit] ∧
      shown (start settings Peer.idle.later).sent = [] ∧
      .plain .commit ∉ (start settings refusing).sent ∧
      (start settings broken).pool = .error (.migration (.dirty (bundledVersion + 1))) := by
  intro settings refusing broken
  have on : settings.runMigrations = true := rfl
  have hpool : (start settings Peer.idle).pool = .ok _ := rfl
  obtain ⟨hnew, hlater⟩ := bundled_migration_law on Peer.idle (by decide)
  obtain ⟨hrefusing, -⟩ := bundled_migration_law on refusing (by decide)
  obtain ⟨hbroken, -⟩ := bundled_migration_law on broken (by decide)
  refine ⟨?_, (hlater ⟨_, hpool⟩).2, ?_, ?_⟩
  · rcases hnew.pool_ok _ hpool with ⟨-, m, hm, -⟩ | ⟨hshown, -⟩
    · cases hm
    · exact hshown
  · have hbegun : .plain .beginTransaction ∈ (start settings refusing).sent := by decide
    refine (hrefusing.rolls_back hbegun rfl ?_).1
    exact fun h => absurd h.1 (by unfold Peer.Accepts; decide)
  · exact (hbroken.dirty_iff _).mpr ⟨⟨rfl, by unfold Peer.Accepts; decide⟩, rfl⟩

end Registrar.Database
