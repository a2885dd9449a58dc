import Registrar.Proofs.HashString
import Registrar.Proofs.Statements
import Registrar.Proofs.Trimming

/-! # The form of a stored account

Whoever gets into the table comes through the validation of a registration, so every row, and every
row that is sent to a database, has a username, an email and a password that are not blank.

* `HasInk`: some character of a text is not blank; that is what is left after trimming.
* `IsStandardHash`: a hash string at the standard cost.
* `Account.WellFormed`: the form of a row, one field for each column.
* `wellFormed_of_validate`: what the validation of a registration lets through.
* `stored_wellFormed`: the rows of sessions, and the insertions that are sent to a database.
-/

namespace Registrar
open Password
set_option autoImplicit false

/-! ## Text that is not blank -/

def HasInk (s : String) : Prop := ∃ c ∈ s.toList, Text.isBlank c = false

theorem hasInk_eq_true_iff (s : String) : Text.hasInk s = true ↔ HasInk s := by
  simp [Text.hasInk, HasInk]

theorem trim_ne_nil_iff (s : String) : Text.trim s.toList ≠ [] ↔ HasInk s := by
  rw [ne_eq, Text.trim_eq_nil_iff, HasInk]
  simp

theorem hasInk_of_given {field : Option String} {s : String} (h : given field = some s) :
    HasInk s :=
  (hasInk_eq_true_iff s).mp ((given_eq_some_iff field s).mp h).2

/-! ## Hash strings -/

/-- The cost is the standard one, the salt has 22 characters and the hash 43. -/
def IsStandardHash (s : String) : Prop :=
  ∃ salt hash : List Char,
    s.toList = "$argon2id$v=19$m=19456,t=2,p=1$".toList ++ salt ++ '$' :: hash ∧
      salt.length = 22 ∧ '$' ∉ salt ∧ hash.length = 43 ∧ '$' ∉ hash

theorem toList_render_standardPhc (salt : Salt) (hash : List UInt8) :
    (Hashed.standardPhc salt hash).render.toList =
      "$argon2id$v=19$m=19456,t=2,p=1$".toList ++ Text.Base64.encode salt.bytes ++
        '$' :: Text.Base64.encode hash := by
  rw [Phc.render, String.toList_ofList]
  have hfields : (Hashed.standardPhc salt hash).fields =
      ["v=19".toList, "m=19456,t=2,p=1".toList, Text.Base64.encode salt.bytes,
        Text.Base64.encode hash] := by
    rfl
  have hprefix : "$argon2id$v=19$m=19456,t=2,p=1$".toList =
      ('$' :: (Hashed.standardPhc salt hash).algorithm) ++ ('$' :: "v=19".toList) ++
        ('$' :: "m=19456,t=2,p=1".toList) ++ ['$'] := by
    rfl
  rw [hfields, hprefix]
  simp only [List.flatMap_cons, List.flatMap_nil, List.append_assoc, List.cons_append,
    List.nil_append, List.append_nil]

theorem isStandardHash_of_sealed {salt : Salt} {password stored : String}
    (h : Hashed.sealed salt password = .ok stored) : IsStandardHash stored := by
  have hdollar : Phc.isValueChar '$' = false := by decide
  have hlength : (Hashed.standardJob salt password).tag.length = 32 := Argon2.Job.length_tag _
  unfold Hashed.sealed at h
  split at h
  · cases h
    refine ⟨_, _, toList_render_standardPhc _ _, ?_, ?_, ?_, ?_⟩
    · rw [length_encode, salt.size]
    · exact Phc.notMem_of_all (all_isValueChar_encode _) hdollar
    · rw [length_encode, hlength]
    · exact Phc.notMem_of_all (all_isValueChar_encode _) hdollar
  · cases h

theorem hasInk_of_isStandardHash {s : String} (h : IsStandardHash s) : HasInk s := by
  obtain ⟨salt, hash, hs, -⟩ := h
  exact ⟨'$', by simp [hs], by decide⟩

/-! ## Rows -/

/-- The form of a row, where `sent` is the password that the user has sent. -/
structure Account.WellFormed (rules : Rules) (sent : String) (a : Account) : Prop where
  username : HasInk a.username
  email : HasInk a.email
  password : HasInk a.password
  role : ∀ role, a.role = some role → HasInk role
  required : rules.roles = .required → a.role ≠ none
  hashed : rules.passwords = .argon2 → IsStandardHash a.password
  plain : rules.passwords = .plaintext → a.password = sent

/-- What a registration asks to store is well formed. -/
theorem wellFormed_of_validate {rules : Rules} {salt : Salt} {x : Registration} {a : Account}
    (h : x.validate rules salt = .ok a) :
    ∃ sent, x.password = some sent ∧ a.WellFormed rules sent := by
  obtain ⟨husername, hemail, ⟨sent, hsent, hsealed⟩, hrole, hrequired⟩ :=
    (Registration.validate_eq_ok_iff rules salt x a).mp h
  have hhashed : rules.passwords = .argon2 → IsStandardHash a.password := by
    intro hscheme
    rw [hscheme] at hsealed
    exact isStandardHash_of_sealed hsealed
  have hplain : rules.passwords = .plaintext → a.password = sent := by
    intro hscheme
    rw [hscheme] at hsealed
    exact (Except.ok.inj hsealed).symm
  refine ⟨sent, ((given_eq_some_iff _ _).mp hsent).1, ?_⟩
  exact
    { username := hasInk_of_given husername
      email := hasInk_of_given hemail
      password := by
        cases hscheme : rules.passwords with
        | plaintext =>
          rw [hplain hscheme]
          exact hasInk_of_given hsent
        | argon2 => exact hasInk_of_isStandardHash (hhashed hscheme)
      role := by
        intro role hsome
        exact hasInk_of_given (hrole.symm.trans hsome)
      required := by
        intro hmode
        rw [hrole]
        exact hrequired hmode
      hashed := hhashed
      plain := hplain }

/-! ## Tables and databases -/

theorem wellFormed_tableAt {rules : Rules} {t : Table} {steps : List (Salt × Session.Step)}
    (empty : t.rows = []) (indirect : ∀ x ∈ steps, x.2.Indirect) {i : Nat} {a : Account}
    (ha : a ∈ (Session.tableAt rules t steps i).rows) :
    ∃ j < i, ∃ salt x sent, Session.Registered rules t steps j salt x ∧
      x.Row rules.passwords salt a ∧ x.password = some sent ∧ a.WellFormed rules sent := by
  obtain ⟨j, hj, salt, x, hregistered, hv⟩ :=
    (Session.mem_rows_tableAt empty indirect i a).mp ha
  obtain ⟨sent, hsent, hform⟩ := wellFormed_of_validate hv
  exact ⟨j, hj, salt, x, sent, hregistered, Registration.row_of_validate hv, hsent, hform⟩

namespace Database

theorem eq_insert_of_causes {rules : Rules} {salt : Salt} {c : Call} {sent : List Statement}
    (h : Causes rules salt c sent) {s : Statement} (hs : s ∈ sent)
    (hinsert : s.command = .insertAccount) :
    ∃ x a, c.Registers x ∧ x.validate rules salt = .ok a ∧ s = .insert a := by
  cases h with
  | nothing => cases hs
  | search _ _ =>
    rw [List.mem_singleton.mp hs] at hinsert
    cases hinsert
  | insertion caller valid ended =>
    rcases mem_insertions ended hs with rfl | rfl | rfl | rfl
    · cases hinsert
    · exact ⟨_, _, caller, valid, rfl⟩
    · cases hinsert
    · cases hinsert

/-- Whatever the server answers, a call that is served inserts well-formed rows only. -/
theorem wellFormed_sent {rules : Rules} {steps : List (Salt × Session.Step)} {pool : Pool} {i : Nat}
    {salt : Salt} {p : Peer} {c : Call} (served : c.IsServed)
    (hi : steps[i]? = some (salt, .call p c)) {e : Session.Entry}
    (he : (Session.run rules steps pool).1[i]? = some e) {s : Statement} (hs : s ∈ e.sent)
    (hinsert : s.command = .insertAccount) :
    ∃ x a sent, c.Registers x ∧ s = .insert a ∧ x.Row rules.passwords salt a ∧
      x.password = some sent ∧ a.WellFormed rules sent := by
  rw [Session.entry_eq rules hi pool, Option.some.injEq] at he
  subst he
  obtain ⟨x, a, caller, hv, rfl⟩ := eq_insert_of_causes (causes_run served _) hs hinsert
  obtain ⟨sent, hsent, hform⟩ := wellFormed_of_validate hv
  exact ⟨x, a, sent, caller, rfl, Registration.row_of_validate hv, hsent, hform⟩

end Database

/-- **Rows are well formed.** In every session from an empty table that writes through the service
only, every row at every point comes from the registration of an earlier step. Its username, its
email and its password are not blank, nor is its role if it has one, which it has wherever roles are
required; its password is a hash string at the standard cost, or the password that was sent.

The parameters of every insertion that a request or a call of a service sends to a database are such
a row, in every session and whatever the server answers. A text is not blank exactly if something is
left of it after trimming. -/
theorem stored_wellFormed (rules : Rules) :
    (∀ (t : Table) (steps : List (Salt × Session.Step)), t.rows = [] →
      (∀ x ∈ steps, x.2.Indirect) → ∀ i, ∀ a ∈ (Session.tableAt rules t steps i).rows,
        ∃ j < i, ∃ salt x sent, Session.Registered rules t steps j salt x ∧
          x.Row rules.passwords salt a ∧ x.password = some sent ∧ a.WellFormed rules sent) ∧
    (∀ (steps : List (Salt × Database.Session.Step)) (pool : Database.Pool) (i : Nat) salt p c e,
      c.IsServed → steps[i]? = some (salt, .call p c) →
      (Database.Session.run rules steps pool).1[i]? = some e →
        ∀ s ∈ e.sent, s.command = .insertAccount →
          ∃ x a sent, c.Registers x ∧ s = .insert a ∧ x.Row rules.passwords salt a ∧
            x.password = some sent ∧ a.WellFormed rules sent) ∧
    ∀ s, HasInk s ↔ Text.trim s.toList ≠ [] := by
  refine ⟨?_, ?_, fun s => (trim_ne_nil_iff s).symm⟩
  · intro t steps empty indirect i a ha
    exact wellFormed_tableAt empty indirect ha
  · intro steps pool i salt p c e served hi he s hs hinsert
    exact Database.wellFormed_sent served hi he hs hinsert

/-- Ann registers with blanks around her password and a blank role, over a table and, hashed, over a
pool whose server refuses the row. -/
theorem stored_wellFormed_ann :
    let ann : Call := .register ⟨some "ann", some "a@x.org", some " pw ", some " "⟩
    let row : Account := ⟨"ann", "a@x.org", " pw ", none⟩
    let plain : Rules := ⟨.optional, .plaintext⟩
    let hashed : Rules := ⟨.optional, .argon2⟩
    let refusing : Database.Peer := { Database.Peer.idle with
      fault := fun s =>
        if s.command = .insertAccount then some ⟨"ERROR", "23505", "duplicate key"⟩ else none }
    row.WellFormed plain " pw " ∧
      ∃ e, (Database.Session.run hashed [(.ofNat 2, .call refusing ann)] (.opened .idle)).1[0]? =
          some e ∧
        e.sent.map (·.command) = [.beginTransaction, .insertAccount, .rollback] ∧
        ∀ s ∈ e.sent, s.command = .insertAccount →
          ∃ a : Account, s = .insert a ∧ IsStandardHash a.password := by
  intro ann row plain hashed refusing
  constructor
  · have indirect : ∀ x ∈ [((.ofNat 1 : Salt), Session.Step.call ann)], x.2.Indirect := by
      intro x hx
      rw [List.mem_singleton.mp hx]
      exact ⟨fun a => Session.Step.noConfusion, fun a h => by simp [ann] at h⟩
    have hrow : row ∈ (Session.tableAt plain ⟨[], true⟩ [(.ofNat 1, .call ann)] 1).rows := by
      decide
    obtain ⟨j, hj, salt, x, sent, ⟨c, hc, htask, -⟩, -, hsent, hform⟩ :=
      (stored_wellFormed plain).1 ⟨[], true⟩ _ rfl indirect 1 row hrow
    obtain rfl : j = 0 := by omega
    cases hc
    cases htask
    cases hsent
    exact hform
  · refine ⟨_, rfl, rfl, ?_⟩
    intro s hs hinsert
    obtain ⟨x, a, sent, -, hs', -, -, hform⟩ :=
      (stored_wellFormed hashed).2.1 [(.ofNat 2, .call refusing ann)] (.opened .idle) 0 _ _ ann _
        trivial rfl rfl s hs hinsert
    exact ⟨a, hs', hform.hashed rfl⟩

end Registrar
