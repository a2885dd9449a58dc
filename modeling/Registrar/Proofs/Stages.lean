import Registrar.Proofs.Configuration
import Registrar.Proofs.Diagnostics
import Registrar.Proofs.EnvDefinitions

/-! # The order of the stages of a start

A start ends at the first stage that fails, and reports that stage and no other.

* `Surroundings.Unconnected`, `Surroundings.Connects`: the connection between the settings and the
  migration, which is `Settings.migration`.
* `ofSettings_eq`: a start by these stages; `startup_of_…`: what becomes of each.
* `StartupLaw`: what is printed and what is sent, by the stage that is reached.
* `startup_in_order`: the variables that count, and the stages in their order.
-/

namespace Registrar
open Database Text
set_option autoImplicit false

/-! ## Connections -/

namespace Database

/-- The refusal of a server that has too many connections, or is still starting. It is answered by
another attempt. -/
structure Report.Passes (r : Report) : Prop where
  readable : ∃ s, Severity.ofName? r.severity = some s
  code : r.code = "53300" ∨ r.code = "57P03"

theorem Report.passes_error_iff (r : Report) : r.error.passes = true ↔ r.Passes := by
  unfold Report.error
  cases hseverity : Severity.ofName? r.severity with
  | none =>
    constructor
    · intro h
      cases h
    · rintro ⟨⟨s, hs⟩, -⟩
      rw [hs] at hseverity
      cases hseverity
  | some s =>
    simp only [Error.passes, Bool.or_eq_true, beq_iff_eq]
    exact ⟨fun h => ⟨⟨s, hseverity⟩, h⟩, fun h => h.code⟩

theorem Peer.refusal?_eq_some_iff (p : Peer) (e : Error) :
    p.refusal? = some e ↔ ∃ r, p.refusal = some r ∧ ¬r.Passes ∧ e = r.error := by
  unfold Peer.refusal?
  cases p.refusal with
  | none => simp
  | some r =>
    simp only [Option.map_some, Option.filter_eq_some_iff, Option.some.injEq,
      ← Report.passes_error_iff, exists_eq_left']
    constructor
    · rintro ⟨rfl, h⟩
      exact ⟨by simpa using h, rfl⟩
    · rintro ⟨h, rfl⟩
      exact ⟨rfl, by simpa using h⟩

theorem Peer.refusal?_eq_none_iff (p : Peer) :
    p.refusal? = none ↔ ∀ r, p.refusal = some r → r.Passes := by
  rw [Option.eq_none_iff_forall_ne_some]
  simp only [ne_eq, p.refusal?_eq_some_iff, not_exists, not_and]
  constructor
  · intro h r hr
    exact Classical.byContradiction fun hpasses => h _ r hr hpasses rfl
  · intro h e r hr hpasses
    exact absurd (h r hr) hpasses

end Database

section
variable (w : Surroundings) (lookup : String → Option String) (settings : Settings)

/-- The connection cannot be made, and how that is printed: its options have a fault, the server
that they name is not reached, or it refuses, and not for a while only. -/
inductive Surroundings.Unconnected : StartupError → String → Prop
  | options {f : Options.Fault} (h : Options.read lookup settings.databaseUrl = .error f) :
    Unconnected (.options f) ("Configuration(" ++ StartupError.optionsDiagnostic f ++ ")")
  | unreached {o : Options} {e : Database.Error}
    (configured : Options.read lookup settings.databaseUrl = .ok o)
    (h : reach w.server o = .error e) :
    Unconnected (.database (.database e)) (StartupError.databaseDiagnostic e)
  | refused {o : Options} {p : Peer} {r : Report}
    (configured : Options.read lookup settings.databaseUrl = .ok o)
    (reached : reach w.server o = .ok p) (refusal : p.refusal = some r) (h : ¬r.Passes) :
    Unconnected (.database (.database r.error)) (StartupError.databaseDiagnostic r.error)

/-- The settings are read and the connection is made. -/
structure Surroundings.Connects (p : Peer) : Prop where
  configured : Settings.read lookup = .ok settings
  reached : ∃ o, Options.read lookup settings.databaseUrl = .ok o ∧ reach w.server o = .ok p
  admitted : ∀ r, p.refusal = some r → r.Passes

end

/-! ## A start by its stages -/

/-- The migration, or nothing if it is switched off. -/
def Settings.migration (settings : Settings) (p : Peer) : Progress :=
  if settings.runMigrations then migrate p else ⟨none, [], p⟩

theorem start_of_connected (settings : Settings) {p : Peer} (connected : p.refusal? = none) :
    start settings p =
      match (settings.migration p).failure with
      | some e => ⟨.error (.migration e), (settings.migration p).sent⟩
      | none => ⟨.ok (.opened (settings.migration p).peer), (settings.migration p).sent⟩ := by
  simp only [start, connected, Settings.migration]
  split <;> rfl

section
variable {w : Surroundings} {lookup : String → Option String} {settings : Settings}

theorem ofVariables_of_misconfigured {f : Settings.Fault} (h : Settings.read lookup = .error f) :
    Startup.ofVariables w lookup = ⟨.error (.settings f), []⟩ := by
  rw [Startup.ofVariables, h]

theorem ofVariables_of_unconnected {e : StartupError} {text : String}
    (configured : Settings.read lookup = .ok settings)
    (h : w.Unconnected lookup settings e text) :
    Startup.ofVariables w lookup = ⟨.error e, []⟩ := by
  rw [Startup.ofVariables, configured]
  cases h with
  | options hread => simp only [Startup.ofSettings, hread]
  | unreached hread hreach => simp only [Startup.ofSettings, hread, hreach]
  | @refused o p r hread hreach hrefusal hpasses =>
    have hrefused := (p.refusal?_eq_some_iff r.error).mpr ⟨r, hrefusal, hpasses, rfl⟩
    simp only [Startup.ofSettings, hread, hreach, start, hrefused]

theorem ofVariables_of_connects {p : Peer} (h : w.Connects lookup settings p) :
    Startup.ofVariables w lookup =
      match (settings.migration p).failure with
      | some e => ⟨.error (.database (.migration e)), (settings.migration p).sent⟩
      | none =>
        ⟨if w.isTaken settings.port then .error .portTaken else .ok settings,
          (settings.migration p).sent⟩ := by
  obtain ⟨configured, ⟨o, hread, hreach⟩, admitted⟩ := h
  have hadmitted := p.refusal?_eq_none_iff.mpr admitted
  simp only [Startup.ofVariables, configured, Startup.ofSettings, hread, hreach,
    start_of_connected settings hadmitted]
  cases (settings.migration p).failure with
  | some e => rfl
  | none => cases w.isTaken settings.port <;> rfl

/-- The settings have a fault, or the connection fails, or there are both. -/
theorem connects_or_not (w : Surroundings) (lookup : String → Option String) :
    (∃ f, Settings.read lookup = .error f) ∨
      (∃ settings e text, Settings.read lookup = .ok settings ∧
        w.Unconnected lookup settings e text) ∨
      ∃ settings p, w.Connects lookup settings p := by
  cases configured : Settings.read lookup with
  | error f => exact .inl ⟨f, rfl⟩
  | ok settings =>
    refine .inr ?_
    cases hread : Options.read lookup settings.databaseUrl with
    | error f => exact .inl ⟨settings, _, _, rfl, .options hread⟩
    | ok o =>
      cases hreach : reach w.server o with
      | error e => exact .inl ⟨settings, _, _, rfl, .unreached hread hreach⟩
      | ok p =>
        cases hrefusal : p.refusal? with
        | none =>
          exact .inr ⟨settings, p, configured, ⟨o, hread, hreach⟩,
            p.refusal?_eq_none_iff.mp hrefusal⟩
        | some e =>
          obtain ⟨r, hr, hpasses, -⟩ := (p.refusal?_eq_some_iff e).mp hrefusal
          exact .inl ⟨settings, _, _, rfl, .refused hread hreach hr hpasses⟩

end

/-! ## The law -/

/-- The start fails with an error, of which this is printed, after these statements. -/
structure Startup.Fails (s : Startup) (e : StartupError) (printed : String)
    (sent : List Statement) : Prop where
  result : s.result = .error e
  printed : e.report = printed
  exitCode : e.exitCode = 1
  sent : s.sent = sent

/-- The start has come to its last stage: the port was free or taken. -/
def Startup.Binds (s : Startup) : Prop :=
  s.result = .error .portTaken ∨ ∃ settings, s.result = .ok settings

/-- What a start prints and sends, by the stage that it reaches. -/
structure StartupLaw (w : Surroundings) (lookup : String → Option String) (s : Startup) :
    Prop where
  missing : ∀ v, Settings.read lookup = .error (.missing v) →
    s.Fails (.settings (.missing v)) ("Error: Missing(\"" ++ v.name ++ "\")\n") []
  invalid : ∀ v value, Settings.read lookup = .error (.invalid v value) →
    s.Fails (.settings (.invalid v value))
      ("Error: Invalid \x7b key: \"" ++ v.name ++ "\", value: " ++ quote value ++ " \x7d\n") []
  connection : ∀ settings e text, Settings.read lookup = .ok settings →
    w.Unconnected lookup settings e text → s.Fails e ("Error: " ++ text ++ "\n") []
  migration : ∀ settings p e, w.Connects lookup settings p →
    (settings.migration p).failure = some e →
    s.Fails (.database (.migration e))
      ("Error: Migrate(" ++ StartupError.migrationDiagnostic e ++ ")\n")
      (settings.migration p).sent
  binds_iff : s.Binds ↔
    ∃ settings p, w.Connects lookup settings p ∧ (settings.migration p).failure = none
  /-- Whatever the server does and has recorded. -/
  off : ∀ v, lookup Variable.runMigrations.name = some v → switch? v = some false → s.sent = []

section
variable (w : Surroundings) (lookup : String → Option String)

theorem binds_ofVariables_iff :
    (Startup.ofVariables w lookup).Binds ↔
      ∃ settings p, w.Connects lookup settings p ∧ (settings.migration p).failure = none := by
  constructor
  · intro h
    rcases connects_or_not w lookup with ⟨f, hread⟩ | ⟨settings, e, text, configured, hfails⟩ |
      ⟨settings, p, connects⟩
    · simp [Startup.Binds, ofVariables_of_misconfigured hread] at h
    · rw [Startup.Binds, ofVariables_of_unconnected configured hfails] at h
      cases hfails <;> simp at h
    · cases migrated : (settings.migration p).failure with
      | none => exact ⟨settings, p, connects, migrated⟩
      | some e => simp [Startup.Binds, ofVariables_of_connects connects, migrated] at h
  · rintro ⟨settings, p, connects, migrated⟩
    rw [Startup.Binds, ofVariables_of_connects connects, migrated]
    cases w.isTaken settings.port with
    | true => exact .inl rfl
    | false => exact .inr ⟨settings, rfl⟩

theorem Settings.runMigrations_of_off {lookup : String → Option String} {settings : Settings}
    (h : Settings.read lookup = .ok settings) {v : String}
    (set : lookup Variable.runMigrations.name = some v) (off : switch? v = some false) :
    settings.runMigrations = false := by
  have hchosen := (Settings.takes_of_read h).runMigrations
  rw [set] at hchosen
  cases hchosen with
  | parsed hread => exact Option.some.inj (hread.symm.trans off)

theorem sent_ofVariables_of_off {v : String} (set : lookup Variable.runMigrations.name = some v)
    (off : switch? v = some false) : (Startup.ofVariables w lookup).sent = [] := by
  rcases connects_or_not w lookup with ⟨f, hread⟩ | ⟨settings, e, text, configured, hfails⟩ |
    ⟨settings, p, connects⟩
  · rw [ofVariables_of_misconfigured hread]
  · rw [ofVariables_of_unconnected configured hfails]
  · have hskipped : settings.migration p = ⟨none, [], p⟩ := by
      simp [Settings.migration, Settings.runMigrations_of_off connects.configured set off]
    rw [ofVariables_of_connects connects, hskipped]

theorem report_of_unconnected {w : Surroundings} {lookup : String → Option String}
    {settings : Settings} {e : StartupError} {text : String}
    (h : w.Unconnected lookup settings e text) :
    e.report = "Error: " ++ text ++ "\n" ∧ e.exitCode = 1 := by
  cases h <;> exact ⟨rfl, rfl⟩

theorem startupLaw_ofVariables : StartupLaw w lookup (Startup.ofVariables w lookup) where
  missing v h := by
    rw [ofVariables_of_misconfigured h]
    exact ⟨rfl, StartupError.report_missing v, rfl, rfl⟩
  invalid v value h := by
    rw [ofVariables_of_misconfigured h]
    exact ⟨rfl, StartupError.report_invalid v value, rfl, rfl⟩
  connection settings e text configured h := by
    rw [ofVariables_of_unconnected configured h]
    exact ⟨rfl, (report_of_unconnected h).1, (report_of_unconnected h).2, rfl⟩
  migration settings p e connects failed := by
    rw [ofVariables_of_connects connects, failed]
    exact ⟨rfl, StartupError.report_migration e, rfl, rfl⟩
  binds_iff := binds_ofVariables_iff w lookup
  off v set off := sent_ofVariables_of_off w lookup set off

end

/-! ## The variables -/

section
variable {w : Surroundings}

theorem Surroundings.load_eq (w : Surroundings) :
    w.load = EnvFile.load w.environment (w.envFile.getD "") := by
  unfold Surroundings.load
  cases w.envFile <;> rfl

theorem startup_of_breaksAt {name value : String}
    (h : EnvFile.BreaksAt w.environment (w.envFile.getD "") name value) :
    startup w = ⟨.error (.unassignable name value), []⟩ := by
  rw [startup, w.load_eq, EnvFile.load_of_breaksAt h]

theorem startup_of_completes {lookup : String → Option String}
    (whole : ∀ name value, ¬EnvFile.BreaksAt w.environment (w.envFile.getD "") name value)
    (h : EnvFile.Completes w.environment (w.envFile.getD "") lookup) :
    startup w = .ofVariables w lookup := by
  rw [startup, w.load_eq, EnvFile.load_of_not_breaksAt whole, (EnvFile.completes_iff _ _ _).mp h]

/-- The start without a file, but with variables that are completed already. -/
def Surroundings.completed (w : Surroundings) (lookup : String → Option String) : Surroundings :=
  { w with environment := lookup, envFile := none }

end

/-- **The order of the stages.** The definitions of the environment file before its first malformed
line are made one after the other, but for those of variables that there are already. If one that
is made has NUL in its value, the process breaks off there, and nothing is sent. Otherwise the
variables that count are those of the process, completed by the first definition of each other.

If the settings read from them have a fault, that fault is printed and nothing is sent; no two
faults are printed alike. Otherwise a connection that fails is reported, and nothing is sent, where
a refusal that passes by itself is no failure; otherwise a migration that fails is reported; and the
port comes only after all of these have succeeded. Nothing is sent while the migration is switched
off. Of the file nothing but its definitions counts, so that a malformed line alone makes no start
fail. -/
theorem startup_in_order (w : Surroundings) :
    let text := w.envFile.getD ""
    (∀ name value, EnvFile.BreaksAt w.environment text name value →
      startup w = ⟨.error (.unassignable name value), []⟩ ∧
        (StartupError.unassignable name value).exitCode = 101) ∧
    ((∀ name value, ¬EnvFile.BreaksAt w.environment text name value) →
      (∃ lookup, EnvFile.Completes w.environment text lookup) ∧
      ∀ lookup, EnvFile.Completes w.environment text lookup →
        StartupLaw w lookup (startup w) ∧ startup (w.completed lookup) = startup w) ∧
    ∀ f g, (StartupError.settings f).report = (StartupError.settings g).report → f = g := by
  refine ⟨fun name value h => ⟨startup_of_breaksAt h, rfl⟩, fun whole => ⟨?_, ?_⟩,
    fun f g => StartupError.report_settings_inj⟩
  · exact ⟨_, EnvFile.completes_completed _ _⟩
  · intro lookup completes
    rw [startup_of_completes whole completes]
    exact ⟨startupLaw_ofVariables w lookup, rfl⟩

/-- The empty port of the process is not replaced by that of the file, whose fourth line is
malformed. With the port of the file there would be no statement either; and a name that has a
value already is not given the NUL of the file, but without that value it is what ends the start. -/
theorem startup_in_order_half_loaded :
    let text := "DATABASE_URL=postgres://h/d\nRUN_MIGRATIONS=off\nPORT=7\nA B\nRUN_MIGRATIONS=on\n"
    let w : Surroundings :=
      ⟨fun n => if n = "PORT" then some "" else none, some text, fun _ => .peer .idle,
        fun _ => false⟩
    let nul : Surroundings := { w with envFile := some "PORT=\x00\n" }
    (startup w).result = .error (.settings (.invalid .port "")) ∧
      (startup { w with environment := fun _ => none }).sent = [] ∧
      (startup nul).result = .error (.settings (.missing .databaseUrl)) ∧
      startup { nul with environment := fun _ => none } =
        ⟨.error (.unassignable "PORT" "\x00"), []⟩ := by
  intro text w nul
  have hlaw := ((startup_in_order w).2.1
    (EnvFile.not_breaksAt_of_isOk (by decide +kernel))).2 _ (EnvFile.completes_completed _ _)
  have hfree := ((startup_in_order { w with environment := fun _ => none }).2.1
    (EnvFile.not_breaksAt_of_isOk (by decide +kernel))).2 _ (EnvFile.completes_completed _ _)
  have hnul := ((startup_in_order nul).2.1
    (EnvFile.not_breaksAt_of_isOk (by decide +kernel))).2 _ (EnvFile.completes_completed _ _)
  have hbreaks : EnvFile.BreaksAt (fun _ => none) "PORT=\x00\n" "PORT" "\x00" := by
    refine (EnvFile.breaksAt_iff _ _ _ _).mpr ⟨[], [], by decide +kernel, ?_, rfl, rfl, by decide⟩
    intro n v _ h
    cases h
  exact ⟨(hlaw.1.invalid .port "" (by decide +kernel)).result,
    hfree.1.off "off" (by decide +kernel) (by decide +kernel),
    (hnul.1.missing .databaseUrl (by decide +kernel)).result,
    ((startup_in_order { nul with environment := fun _ => none }).1 _ _ hbreaks).1⟩

/-- Not every refusal is reported: a server with too many connections refuses the first attempt, and
yet statements are sent and the port is tried. Nor is every fault in the settings: where they would
be read from variables with NUL in one of them, the start ends before. -/
theorem startup_asks_again_or_breaks_off :
    let busy : Peer := { Peer.idle with refusal := some ⟨"ERROR", "53300", "too many clients"⟩ }
    let crowded : Surroundings :=
      ⟨fun n => if n = "DATABASE_URL" then some "postgres://h/d" else none, none,
        fun _ => .peer busy, fun _ => true⟩
    let text := "DATABASE_URL=postgres://h/d\nPORT=\x00\n"
    let nul : Surroundings := ⟨fun _ => none, some text, fun _ => .peer .idle, fun _ => false⟩
    ((startup crowded).result = .error .portTaken ∧
      Statement.plain .beginTransaction ∈ (startup crowded).sent) ∧
    Settings.read
        (EnvFile.completed nul.environment (EnvFile.definitions nul.environment text)) =
      .error (.invalid .port "\x00") ∧
    (startup nul).result ≠ .error (.settings (.invalid .port "\x00")) := by
  decide +kernel

end Registrar
