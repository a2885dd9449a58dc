import Registrar.Settings

/-! # Settings are read in full or refused for the first fault

Five of the six variables can be at fault. They are looked at in a fixed order, and the first one
that is at fault is reported with its text as it is; if there is none, every field of the settings
comes from its own variable.

* `Variable.Offends`: what is wrong with the text of a variable.
* `FirstFault`: the fault of the first variable that has one.
* `Settings.Takes`: where the fields of the settings come from.
* `read_eq_ok_iff`, `read_eq_error_iff`: both ways in which a reading ends.
* `reading_law`: these, the limit of connections, and two readings side by side.
-/

namespace Registrar
open Text
set_option autoImplicit false

/-! ## Faults -/

/-- The text does not parse. The database and the limit of connections take any text. -/
def Variable.Refuses : Variable → String → Prop
  | .port, s => port? s = none
  | .runMigrations, s => switch? s = none
  | .roleMode, s => RolePolicy.parse? s = none
  | .passwordStorage, s => Password.Scheme.parse? s = none
  | .databaseUrl, _ | .maxConnections, _ => False

/-- What is wrong with a variable that has the given text, or none. -/
inductive Variable.Offends : Variable → Option String → Settings.Fault → Prop where
  | absent : Offends .databaseUrl none (.missing .databaseUrl)
  | blank {s : String} (h : ∀ c ∈ s.toList, isBlank c = true) :
      Offends .databaseUrl (some s) (.missing .databaseUrl)
  | refused {v : Variable} {s : String} (h : v.Refuses s) : Offends v (some s) (.invalid v s)

/-- The variables that can be at fault, in the order in which they are looked at. -/
def Variable.checked : List Variable :=
  [.databaseUrl, .port, .runMigrations, .roleMode, .passwordStorage]

/-- The fault of the first variable that has one. -/
def FirstFault (lookup : String → Option String) (f : Settings.Fault) : Prop :=
  ∃ before v after, Variable.checked = before ++ v :: after ∧ v.Offends (lookup v.name) f ∧
    ∀ u ∈ before, ∀ g, ¬u.Offends (lookup u.name) g

theorem Variable.Offends.unique {v : Variable} {raw : Option String} {f g : Settings.Fault}
    (hf : v.Offends raw f) (hg : v.Offends raw g) : f = g := by
  cases hf with
  | absent =>
    cases hg
    rfl
  | blank h =>
    cases hg with
    | blank _ => rfl
    | refused h' => exact h'.elim
  | refused h =>
    cases hg with
    | blank _ => exact h.elim
    | refused _ => rfl

/-- Of two first faults neither comes before the other. -/
theorem FirstFault.unique {lookup : String → Option String} {f g : Settings.Fault}
    (hf : FirstFault lookup f) (hg : FirstFault lookup g) : f = g := by
  obtain ⟨before, v, after, hsplit, hv, hbefore⟩ := hf
  obtain ⟨before', v', after', hsplit', hv', hbefore'⟩ := hg
  rw [hsplit, List.append_eq_append_iff] at hsplit'
  rcases hsplit' with ⟨rest, hrest, hcons⟩ | ⟨rest, hrest, hcons⟩
  · cases rest with
    | nil =>
      cases hcons
      exact hv.unique hv'
    | cons u rest =>
      cases hcons
      exact absurd hv (hbefore' v (by simp [hrest]) f)
  · cases rest with
    | nil =>
      cases hcons
      exact hv.unique hv'
    | cons u rest =>
      cases hcons
      exact absurd hv' (hbefore v' (by simp [hrest]) g)

/-! ## One variable -/

theorem given_eq_none_of_offends {raw : Option String} {f : Settings.Fault}
    (h : Variable.databaseUrl.Offends raw f) : given raw = none := by
  cases h with
  | absent => rfl
  | @blank s hblank =>
    have hink : hasInk s = false := by
      rw [hasInk, List.any_eq_false]
      intro c hc
      simp [hblank c hc]
    simp [given, Option.filter, hink]
  | refused h => exact h.elim

theorem offends_of_given_eq_none {raw : Option String} (h : given raw = none) :
    Variable.databaseUrl.Offends raw (.missing .databaseUrl) := by
  cases raw with
  | none => exact .absent
  | some s =>
    refine .blank ?_
    intro c hc
    have hink : hasInk s = false := by
      rw [← Bool.not_eq_true]
      intro hink
      rw [(given_eq_some_iff (some s) s).mpr ⟨rfl, hink⟩] at h
      cases h
    rw [hasInk, List.any_eq_false] at hink
    simpa using hink c hc

/-- The default for no text, and what the text parses to otherwise. -/
inductive Chosen {α : Type} (parse? : String → Option α) (default : α) :
    Option String → α → Prop where
  | absent : Chosen parse? default none default
  | parsed {s : String} {a : α} (h : parse? s = some a) : Chosen parse? default (some s) a

section
variable {α : Type} {parse? : String → Option α} {default a b : α} {raw : Option String}
  {lookup : String → Option String} {v : Variable} {f : Settings.Fault}

theorem Chosen.unique (ha : Chosen parse? default raw a) (hb : Chosen parse? default raw b) :
    a = b := by
  cases ha with
  | absent =>
    cases hb
    rfl
  | parsed h =>
    cases hb with
    | parsed h' => exact Option.some.inj (h.symm.trans h')

theorem setting_eq_ok_iff :
    setting lookup v default parse? = .ok a ↔ Chosen parse? default (lookup v.name) a := by
  unfold setting
  cases lookup v.name with
  | none =>
    constructor
    · intro h
      cases h
      exact .absent
    · intro h
      cases h
      rfl
  | some s =>
    cases hparse : parse? s with
    | none =>
      constructor
      · intro h
        simp [hparse] at h
      · intro h
        cases h with
        | parsed h' => simp [h'] at hparse
    | some b =>
      simp only [hparse]
      constructor
      · intro h
        cases h
        exact .parsed hparse
      · intro h
        cases h with
        | parsed h' => rw [Option.some.inj (hparse.symm.trans h')]

theorem setting_eq_error_iff :
    setting lookup v default parse? = .error f ↔
      ∃ s, lookup v.name = some s ∧ parse? s = none ∧ f = .invalid v s := by
  unfold setting
  cases lookup v.name with
  | none => simp
  | some s => cases hparse : parse? s <;> simp [hparse, eq_comm]

theorem offends_of_setting (refuses : ∀ s, v.Refuses s ↔ parse? s = none)
    (h : setting lookup v default parse? = .error f) : v.Offends (lookup v.name) f := by
  obtain ⟨s, hs, hparse, rfl⟩ := setting_eq_error_iff.mp h
  rw [hs]
  exact .refused ((refuses s).mpr hparse)

theorem not_offends_of_chosen (refuses : ∀ s, v.Refuses s ↔ parse? s = none)
    (hv : v ≠ .databaseUrl) (h : Chosen parse? default (lookup v.name) a) :
    ¬v.Offends (lookup v.name) f := by
  intro hoffends
  generalize lookup v.name = raw at h hoffends
  cases hoffends with
  | absent => exact hv rfl
  | blank _ => exact hv rfl
  | refused hrefused =>
    cases h with
    | parsed h' =>
      rw [(refuses _).mp hrefused] at h'
      cases h'

/-- A reading that fails from here on fails for this variable, or the variable has no fault. -/
theorem offends_or_of_bind {β : Type} {k : α → Except Settings.Fault β}
    (refuses : ∀ s, v.Refuses s ↔ parse? s = none) (hv : v ≠ .databaseUrl)
    (h : setting lookup v default parse? >>= k = .error f) :
    v.Offends (lookup v.name) f ∨
      (∀ g, ¬v.Offends (lookup v.name) g) ∧ ∃ a, k a = .error f := by
  cases hsetting : setting lookup v default parse? with
  | error g =>
    rw [hsetting] at h
    cases h
    exact .inl (offends_of_setting refuses hsetting)
  | ok a =>
    rw [hsetting] at h
    have hchosen := setting_eq_ok_iff.mp hsetting
    exact .inr ⟨fun _ => not_offends_of_chosen refuses hv hchosen, a, h⟩

end

theorem one_le_connectionLimit (raw : Option String) : 1 ≤ connectionLimit raw := by
  unfold connectionLimit
  generalize raw.bind _ = parsed
  cases parsed with
  | none => decide
  | some n =>
    by_cases hn : 0 < n
    · have hfilter : (some n).filter (fun m => decide (0 < m)) = some n := by
        simp [Option.filter, hn]
      rw [hfilter]
      exact hn
    · have hfilter : (some n).filter (fun m => decide (0 < m)) = none := by
        simp [Option.filter, hn]
      rw [hfilter]
      decide

/-! ## All variables -/

/-- Every field comes from its own variable, or from a default of its own. -/
structure Settings.Takes (lookup : String → Option String) (settings : Settings) : Prop where
  databaseUrl : lookup Variable.databaseUrl.name = some settings.databaseUrl
  ink : ∃ c ∈ settings.databaseUrl.toList, isBlank c = false
  port : Chosen port? 5000 (lookup Variable.port.name) settings.port
  maxConnections : Chosen (fun s => some (connectionLimit (some s))) 5
    (lookup Variable.maxConnections.name) settings.maxConnections
  runMigrations : Chosen switch? true (lookup Variable.runMigrations.name) settings.runMigrations
  roles : Chosen RolePolicy.parse? .required (lookup Variable.roleMode.name) settings.rules.roles
  passwords : Chosen Password.Scheme.parse? .plaintext (lookup Variable.passwordStorage.name)
    settings.rules.passwords

section
variable {lookup : String → Option String} {settings : Settings} {f : Settings.Fault}

theorem exists_of_bind_eq_ok {ε α β : Type} {x : Except ε α} {f : α → Except ε β} {b : β}
    (h : x >>= f = .ok b) : ∃ a, x = .ok a ∧ f a = .ok b := by
  cases x with
  | error e => cases h
  | ok a => exact ⟨a, rfl, h⟩

theorem chosen_connectionLimit (raw : Option String) :
    Chosen (fun s => some (connectionLimit (some s))) 5 raw (connectionLimit raw) := by
  cases raw with
  | none => exact .absent
  | some s => exact .parsed rfl

theorem Settings.takes_of_read (h : Settings.read lookup = .ok settings) :
    settings.Takes lookup := by
  simp only [Settings.read] at h
  split at h
  · cases h
  · rename_i url hurl
    obtain ⟨hraw, hink⟩ := (given_eq_some_iff _ _).mp hurl
    obtain ⟨_, hsame, h⟩ := exists_of_bind_eq_ok h
    cases hsame
    obtain ⟨port, hport, h⟩ := exists_of_bind_eq_ok h
    obtain ⟨runMigrations, hrun, h⟩ := exists_of_bind_eq_ok h
    obtain ⟨roles, hroles, h⟩ := exists_of_bind_eq_ok h
    obtain ⟨passwords, hpasswords, h⟩ := exists_of_bind_eq_ok h
    cases h
    exact
      { databaseUrl := hraw
        ink := by simpa [hasInk] using hink
        port := setting_eq_ok_iff.mp hport
        maxConnections := chosen_connectionLimit _
        runMigrations := setting_eq_ok_iff.mp hrun
        roles := setting_eq_ok_iff.mp hroles
        passwords := setting_eq_ok_iff.mp hpasswords }

theorem Settings.Takes.given_databaseUrl (h : settings.Takes lookup) :
    given (lookup Variable.databaseUrl.name) = some settings.databaseUrl := by
  have hink : hasInk settings.databaseUrl = true := by simpa [hasInk] using h.ink
  exact (given_eq_some_iff _ _).mpr ⟨h.databaseUrl, hink⟩

theorem Settings.read_of_takes (h : settings.Takes lookup) :
    Settings.read lookup = .ok settings := by
  have hurl := h.given_databaseUrl
  have hport : setting lookup .port defaultPort port? = .ok settings.port :=
    setting_eq_ok_iff.mpr h.port
  have hlimit := h.maxConnections.unique (chosen_connectionLimit _)
  simp only [Settings.read, hurl, hport, setting_eq_ok_iff.mpr h.runMigrations,
    setting_eq_ok_iff.mpr h.roles, setting_eq_ok_iff.mpr h.passwords, ← hlimit]
  rfl

theorem Settings.read_eq_ok_iff : Settings.read lookup = .ok settings ↔ settings.Takes lookup :=
  ⟨Settings.takes_of_read, Settings.read_of_takes⟩

theorem Settings.Takes.not_offends (h : settings.Takes lookup) (v : Variable) :
    ¬v.Offends (lookup v.name) f := by
  cases v with
  | databaseUrl =>
    intro hoffends
    have hnone := given_eq_none_of_offends hoffends
    rw [h.given_databaseUrl] at hnone
    cases hnone
  | port => exact not_offends_of_chosen (fun _ => Iff.rfl) (by decide) h.port
  | maxConnections =>
    refine not_offends_of_chosen (fun s => ?_) (by decide) h.maxConnections
    simp [Variable.Refuses]
  | runMigrations => exact not_offends_of_chosen (fun _ => Iff.rfl) (by decide) h.runMigrations
  | roleMode => exact not_offends_of_chosen (fun _ => Iff.rfl) (by decide) h.roles
  | passwordStorage => exact not_offends_of_chosen (fun _ => Iff.rfl) (by decide) h.passwords

theorem Settings.firstFault_of_read (h : Settings.read lookup = .error f) :
    FirstFault lookup f := by
  simp only [Settings.read] at h
  split at h
  · rename_i hurl
    cases h
    exact ⟨[], .databaseUrl, _, rfl, offends_of_given_eq_none hurl, by simp⟩
  rename_i url hurl
  have hgiven : ∀ g, ¬Variable.databaseUrl.Offends (lookup Variable.databaseUrl.name) g := by
    intro g hoffends
    rw [given_eq_none_of_offends hoffends] at hurl
    cases hurl
  -- Each variable is at fault here, or no longer when the next one is looked at.
  have h : (setting lookup .port defaultPort port? >>= _) = .error f := h
  obtain hbad | ⟨hport, _, h⟩ := offends_or_of_bind (fun _ => Iff.rfl) (by decide) h
  · exact ⟨[.databaseUrl], .port, _, rfl, hbad, by simpa using hgiven⟩
  obtain hbad | ⟨hrun, _, h⟩ := offends_or_of_bind (fun _ => Iff.rfl) (by decide) h
  · exact ⟨[.databaseUrl, .port], .runMigrations, _, rfl, hbad, by simpa using ⟨hgiven, hport⟩⟩
  obtain hbad | ⟨hroles, _, h⟩ := offends_or_of_bind (fun _ => Iff.rfl) (by decide) h
  · exact ⟨[.databaseUrl, .port, .runMigrations], .roleMode, _, rfl, hbad,
      by simpa using ⟨hgiven, hport, hrun⟩⟩
  obtain hbad | ⟨-, _, h⟩ := offends_or_of_bind (fun _ => Iff.rfl) (by decide) h
  · exact ⟨[.databaseUrl, .port, .runMigrations, .roleMode], .passwordStorage, _, rfl, hbad,
      by simpa using ⟨hgiven, hport, hrun, hroles⟩⟩
  cases h

theorem Settings.read_eq_error_iff : Settings.read lookup = .error f ↔ FirstFault lookup f := by
  constructor
  · exact Settings.firstFault_of_read
  · intro h
    cases hread : Settings.read lookup with
    | ok settings =>
      obtain ⟨_, v, _, -, hv, -⟩ := h
      exact absurd hv ((Settings.takes_of_read hread).not_offends v)
    | error g => rw [h.unique (Settings.firstFault_of_read hread)]

end

/-! ## The law of a reading -/

/-- Two settings have the same value for a variable. -/
def Variable.SameIn : Variable → Settings → Settings → Prop
  | .databaseUrl, s, t => s.databaseUrl = t.databaseUrl
  | .port, s, t => s.port = t.port
  | .maxConnections, s, t => s.maxConnections = t.maxConnections
  | .runMigrations, s, t => s.runMigrations = t.runMigrations
  | .roleMode, s, t => s.rules.roles = t.rules.roles
  | .passwordStorage, s, t => s.rules.passwords = t.rules.passwords

/-- How a reading ends, and what its end depends on. -/
structure ReadingLaw (lookup : String → Option String) : Prop where
  fails_iff : (∃ f, Settings.read lookup = .error f) ↔
    ∃ (v : Variable) (f : Settings.Fault), v.Offends (lookup v.name) f
  error_iff : ∀ f, Settings.read lookup = .error f ↔ FirstFault lookup f
  ok_iff : ∀ settings, Settings.read lookup = .ok settings ↔ settings.Takes lookup
  limited : ∀ settings, Settings.read lookup = .ok settings → 1 ≤ settings.maxConnections
  /-- Whatever the limit of connections is set to. -/
  lenient : ∀ lookup' : String → Option String,
    (∀ v : Variable, v ≠ .maxConnections → lookup' v.name = lookup v.name) →
      ∀ f, Settings.read lookup' = .error f ↔ Settings.read lookup = .error f
  /-- No other names are looked up. -/
  closed : ∀ lookup' : String → Option String, (∀ v : Variable, lookup' v.name = lookup v.name) →
    Settings.read lookup' = Settings.read lookup
  apart : ∀ (lookup' : String → Option String) (settings settings' : Settings),
    Settings.read lookup = .ok settings → Settings.read lookup' = .ok settings' →
      ∀ v : Variable, lookup' v.name = lookup v.name → v.SameIn settings settings'

section
variable {lookup lookup' : String → Option String}

theorem FirstFault.congr (same : ∀ v : Variable, v ≠ .maxConnections →
    lookup' v.name = lookup v.name) {f : Settings.Fault} (h : FirstFault lookup f) :
    FirstFault lookup' f := by
  obtain ⟨before, v, after, hsplit, hv, hbefore⟩ := h
  have hchecked : ∀ u ∈ before ++ v :: after, u ≠ .maxConnections := by
    rw [← hsplit]
    decide
  refine ⟨before, v, after, hsplit, ?_, ?_⟩
  · rw [same v (hchecked v (by simp))]
    exact hv
  · intro u hu g
    rw [same u (hchecked u (by simp [hu]))]
    exact hbefore u hu g

theorem sameIn_of_read {settings settings' : Settings} (h : Settings.read lookup = .ok settings)
    (h' : Settings.read lookup' = .ok settings') {v : Variable}
    (same : lookup' v.name = lookup v.name) : v.SameIn settings settings' := by
  have htakes := Settings.takes_of_read h
  have htakes' := Settings.takes_of_read h'
  cases v with
  | databaseUrl =>
    have hurl := htakes'.databaseUrl
    rw [same, htakes.databaseUrl] at hurl
    exact Option.some.inj hurl
  | port => exact htakes.port.unique (same ▸ htakes'.port)
  | maxConnections => exact htakes.maxConnections.unique (same ▸ htakes'.maxConnections)
  | runMigrations => exact htakes.runMigrations.unique (same ▸ htakes'.runMigrations)
  | roleMode => exact htakes.roles.unique (same ▸ htakes'.roles)
  | passwordStorage => exact htakes.passwords.unique (same ▸ htakes'.passwords)

theorem exists_fault_iff (lookup : String → Option String) :
    (∃ f, Settings.read lookup = .error f) ↔
      ∃ (v : Variable) (f : Settings.Fault), v.Offends (lookup v.name) f := by
  constructor
  · rintro ⟨f, h⟩
    obtain ⟨_, v, _, -, hv, -⟩ := Settings.firstFault_of_read h
    exact ⟨v, f, hv⟩
  · rintro ⟨v, f, hv⟩
    cases hread : Settings.read lookup with
    | error g => exact ⟨g, rfl⟩
    | ok settings => exact absurd hv ((Settings.takes_of_read hread).not_offends v)

theorem read_congr (same : ∀ v : Variable, lookup' v.name = lookup v.name) :
    Settings.read lookup' = Settings.read lookup := by
  simp only [Settings.read, setting, same]

/-- **All settings, or the first fault.** A reading fails exactly if the database is not given or a
variable that is set does not parse, with the limit of connections never among these; it then
reports the first such variable and its text as it is. Otherwise the database is as it was given, a
variable that is not set has its default, and at least one connection is allowed. Nothing depends on
any other name, and no field of the settings on the variable of another one. -/
theorem reading_law (lookup : String → Option String) : ReadingLaw lookup where
  fails_iff := exists_fault_iff lookup
  error_iff _ := Settings.read_eq_error_iff
  ok_iff _ := Settings.read_eq_ok_iff
  limited settings h := by
    have hlimit := (Settings.takes_of_read h).maxConnections.unique (chosen_connectionLimit _)
    rw [hlimit]
    exact one_le_connectionLimit _
  lenient lookup' same f := by
    have hsame : ∀ v : Variable, v ≠ .maxConnections → lookup v.name = lookup' v.name :=
      fun v hv => (same v hv).symm
    rw [Settings.read_eq_error_iff, Settings.read_eq_error_iff]
    exact ⟨FirstFault.congr hsame, FirstFault.congr same⟩
  closed _ same := read_congr same
  apart _ _ _ h h' _ same := sameIn_of_read h h' same

end

/-- The port and the scheme are both wrong: the port is reported, blanks and all. A wrong limit of
connections alone is not reported, and a blank before the database is kept. -/
theorem reading_law_two_faults :
    let url := " postgres://h/d"
    let wrong (n : String) : Option String :=
      if n = "DATABASE_URL" then some url
      else if n = "PORT" then some " 80a "
      else if n = "PASSWORD_STORAGE" then some "md5"
      else none
    let lax (n : String) : Option String :=
      if n = "DATABASE_URL" then some url
      else if n = "DB_MAX_CONNECTIONS" then some "0"
      else none
    Settings.read wrong = .error (.invalid .port " 80a ") ∧
      Settings.read lax = .ok ⟨url, 5000, 5, true, .required, .plaintext⟩ := by
  intro url wrong lax
  have hurl : ∃ c ∈ url.toList, isBlank c = false := ⟨'p', by decide, by decide⟩
  have hport : port? " 80a " = none := by decide +kernel
  have hlimit : connectionLimit (some "0") = 5 := by decide +kernel
  constructor
  · refine ((reading_law wrong).error_iff _).mpr
      ⟨[.databaseUrl], .port, _, rfl, .refused hport, ?_⟩
    simp only [List.mem_singleton, forall_eq]
    intro g h
    have hnone : given (some url) = none := given_eq_none_of_offends h
    exact absurd hnone (by decide)
  · refine ((reading_law lax).ok_iff _).mpr ⟨rfl, hurl, .absent, .parsed ?_, .absent, .absent,
      .absent⟩
    rw [hlimit]

end Registrar
