import Mathlib.Data.Fin.VecNotation
import Mathlib.Data.List.Nodup
import Registrar.Proofs.Interleaving
import Registrar.Proofs.Login
import Registrar.Proofs.Uniqueness

/-! # First come, first served

Whatever the order of the actions, the insertions alone decide on the answers.

* `Overlap`, `Late`: what a registration is refused for.
* `Settled`: what the past actions have settled; every action of an interleaving keeps it.
* `Resolved`, `resolved_of_interleaving`: answers and table at the end of an interleaving.
-/

namespace Registrar.Concurrent
open Password
set_option autoImplicit false

variable {n : Nat}

/-! ## What the past has settled -/

def Overlap (a b : Account) : Prop := a.username = b.username ∨ a.email = b.email

theorem clash_eq_true_iff_overlap (a b : Account) : Table.clash a b = true ↔ Overlap a b := by
  rw [Table.clash, Bool.or_eq_true, beq_iff_eq, beq_iff_eq]
  rfl

/-- The registration overlaps a row that was there, or an accepted one that is inserted before. -/
def Late (accounts : Fin n → Account) (t : Table) (accepted : Fin n → Bool) (order : List (Fin n))
    (i : Fin n) : Prop :=
  (∃ b ∈ t.rows, Overlap (accounts i) b) ∨
    ∃ j, accepted j = true ∧ [j, i].Sublist order ∧ Overlap (accounts i) (accounts j)

theorem Late.mono {accounts : Fin n → Account} {t : Table} {accepted accepted' : Fin n → Bool}
    {order : List (Fin n)} {i : Fin n} (h : Late accounts t accepted order i)
    (keep : ∀ j ∈ order, accepted' j = accepted j) (more : List (Fin n)) :
    Late accounts t accepted' (order ++ more) i := by
  rcases h with h | ⟨j, hj, hbefore, hoverlap⟩
  · exact .inl h
  · have hmem : j ∈ order := hbefore.subset List.mem_cons_self
    exact .inr ⟨j, by rw [keep j hmem, hj], hbefore.trans (List.sublist_append_left _ _), hoverlap⟩

/-- After the past actions: the registrations are as far as their halves have come, the rows are
those of the accepted ones in the order of their insertions, and a refused one was too late. -/
structure Settled (accounts : Fin n → Account) (t : Table) (past : List (Action n))
    (w : State n) : Prop where
  available : w.table.available = true
  distinct : w.table.Distinct
  received : ∀ i, .validate i ∉ past → w.stage i = .received
  validated : ∀ i, .validate i ∈ past → .insert i ∉ past → w.stage i = .validated (accounts i)
  answered : ∀ i, .insert i ∈ past → w.stage i = .answered (.ok ()) ∨
    w.stage i = .answered (.error .conflict) ∧ Late accounts t w.accepts (insertions past) i
  rows : w.table.rows = t.rows ++ ((insertions past).filter w.accepts).map accounts

namespace Settled

theorem start (accounts : Fin n → Account) {t : Table} (up : t.available = true)
    (distinct : t.Distinct) : Settled accounts t [] (.start t) where
  available := up
  distinct := distinct
  received := fun _ _ => rfl
  validated := fun i hi => absurd hi List.not_mem_nil
  answered := fun i hi => absurd hi List.not_mem_nil
  rows := by simp [State.start, insertions]

variable {accounts : Fin n → Account} {t : Table} {past : List (Action n)} {w : State n}

theorem read (h : Settled accounts t past w) {a : Action n} (ha : ∀ i, a.concerns i = false) :
    Settled accounts t (past ++ [a]) w := by
  have hmem : ∀ {b : Action n} {i : Fin n}, b.concerns i = true → (b ∈ past ++ [a] ↔ b ∈ past) := by
    intro b i hb
    have hne : b ≠ a := by
      rintro rfl
      rw [ha i] at hb
      cases hb
    simp [hne]
  have hvalidate : ∀ i, .validate i ∈ past ++ [a] ↔ .validate i ∈ past :=
    fun i => hmem (Action.concerns_validate i)
  have hinsert : ∀ i, .insert i ∈ past ++ [a] ↔ .insert i ∈ past :=
    fun i => hmem (Action.concerns_insert i)
  have hinsertions : insertions (past ++ [a]) = insertions past := by
    refine insertions_concat past ?_
    cases a with
    | insert i =>
      have hi := ha i
      rw [Action.concerns_insert] at hi
      cases hi
    | validate _ | login _ | find _ => rfl
  exact
    { available := h.available
      distinct := h.distinct
      received := fun i hi => h.received i (mt (hvalidate i).mpr hi)
      validated := fun i hi hno => h.validated i ((hvalidate i).mp hi) (mt (hinsert i).mpr hno)
      answered := fun i hi => by rw [hinsertions]; exact h.answered i ((hinsert i).mp hi)
      rows := by rw [hinsertions]; exact h.rows }

/-- The answers of the past stay when another registration advances. -/
theorem answered_advance (h : Settled accounts t past w) {i : Fin n} (hnew : .insert i ∉ past)
    {w' : State n} (hw : ∀ j, j ≠ i → w'.stage j = w.stage j) (more : List (Fin n)) {j : Fin n}
    (hj : .insert j ∈ past) :
    w'.stage j = .answered (.ok ()) ∨ w'.stage j = .answered (.error .conflict) ∧
      Late accounts t w'.accepts (insertions past ++ more) j := by
  have hne : ∀ {k}, .insert k ∈ past → k ≠ i := by
    rintro k hk rfl
    exact hnew hk
  rw [hw j (hne hj)]
  refine (h.answered j hj).imp_right fun ⟨hs, hlate⟩ => ⟨hs, hlate.mono ?_ more⟩
  intro k hk
  exact State.accepts_congr (hw k (hne ((mem_insertions past k).mp hk)))

theorem filter_advance {i : Fin n} (hnew : .insert i ∉ past) {w' : State n}
    (hw : ∀ j, j ≠ i → w'.stage j = w.stage j) :
    (insertions past).filter w'.accepts = (insertions past).filter w.accepts := by
  refine List.filter_congr fun j hj => State.accepts_congr (hw j ?_)
  rintro rfl
  exact hnew ((mem_insertions past j).mp hj)

theorem validate {i : Fin n} (h : Settled accounts t past w)
    (hfirst : ∀ a : Action n, a.concerns i = true → a ∉ past) :
    Settled accounts t (past ++ [.validate i]) (w.advance i (.validated (accounts i))) := by
  have hnew : .insert i ∉ past := hfirst _ (Action.concerns_insert i)
  have hinsertions : insertions (past ++ [.validate i]) = insertions past :=
    insertions_concat past rfl
  have hother : ∀ j, j ≠ i → (w.advance i (.validated (accounts i))).stage j = w.stage j :=
    fun j hj => State.stage_advance_ne w _ hj
  refine
    { available := h.available, distinct := h.distinct, received := ?received,
      validated := ?validated, answered := ?answered, rows := ?rows }
  case received =>
    intro j hj
    rw [List.mem_append, List.mem_singleton, not_or] at hj
    rw [hother j fun e => hj.2 (by rw [e])]
    exact h.received j hj.1
  case validated =>
    intro j hj hno
    by_cases hji : j = i
    · rw [hji, State.stage_advance_self]
    · rw [hother j hji]
      refine h.validated j ?_ fun hi => hno (List.mem_append_left _ hi)
      simpa [hji] using hj
  case answered =>
    intro j hj
    have hpast : .insert j ∈ past := by simpa using hj
    rw [hinsertions, ← List.append_nil (insertions past)]
    exact h.answered_advance hnew hother [] hpast
  case rows =>
    rw [hinsertions, filter_advance hnew hother]
    exact h.rows

section Insert
variable {i : Fin n} (h : Settled accounts t past w) (hvalidated : .validate i ∈ past)
  (hnew : .insert i ∉ past) {w' : State n} (hother : ∀ j, j ≠ i → w'.stage j = w.stage j)
include h hvalidated hnew hother

theorem received_insert (j : Fin n) (hj : .validate j ∉ past ++ [Action.insert i]) :
    w'.stage j = .received := by
  have hpast : .validate j ∉ past := fun hm => hj (List.mem_append_left _ hm)
  have hji : j ≠ i := by
    rintro rfl
    exact hpast hvalidated
  rw [hother j hji]
  exact h.received j hpast

theorem validated_insert (j : Fin n) (hj : .validate j ∈ past ++ [Action.insert i])
    (hno : .insert j ∉ past ++ [Action.insert i]) : w'.stage j = .validated (accounts j) := by
  have hji : j ≠ i := by
    rintro rfl
    exact hno (List.mem_append_right _ (List.mem_singleton_self _))
  rw [hother j hji]
  exact h.validated j (by simpa using hj) fun hm => hno (List.mem_append_left _ hm)

/-- An insertion that overlaps no row is accepted, and its row comes last. -/
theorem accept (hi : w'.stage i = .answered (.ok ())) (htable : w'.table = w.table.seed (accounts i))
    (fresh : ∀ b ∈ w.table.rows, ¬Overlap (accounts i) b) :
    Settled accounts t (past ++ [.insert i]) w' := by
  have haccepts : w'.accepts i = true := (w'.accepts_eq_true_iff i).mpr hi
  have hrows : w'.table.rows = w.table.rows ++ [accounts i] := by rw [htable]; rfl
  refine
    { available := by rw [htable]; exact h.available
      distinct := ⟨?usernames, ?emails⟩
      received := h.received_insert hvalidated hnew hother
      validated := h.validated_insert hvalidated hnew hother
      answered := ?answered
      rows := ?rows }
  case usernames =>
    rw [hrows]
    exact Session.nodup_map_append _ h.distinct.usernames fun b hb => (not_or.mp (fresh b hb)).1
  case emails =>
    rw [hrows]
    exact Session.nodup_map_append _ h.distinct.emails fun b hb => (not_or.mp (fresh b hb)).2
  case answered =>
    intro j hj
    rw [insertions_concat_insert]
    by_cases hji : j = i
    · rw [hji]
      exact .inl hi
    · exact h.answered_advance hnew hother [i] (by simpa [hji] using hj)
  case rows =>
    rw [hrows, h.rows, insertions_concat_insert, List.filter_append, filter_advance hnew hother]
    simp [haccepts]

/-- An insertion that overlaps a row is refused, and the table stays as it is. -/
theorem refuse (hi : w'.stage i = .answered (.error .conflict)) (htable : w'.table = w.table)
    (taken : ∃ b ∈ w.table.rows, Overlap (accounts i) b) :
    Settled accounts t (past ++ [.insert i]) w' := by
  have haccepts : w'.accepts i = false := by simp [State.accepts, hi]
  have hsame : ∀ {j}, j ∈ insertions past → w'.accepts j = w.accepts j := by
    intro j hj
    refine State.accepts_congr (hother j ?_)
    rintro rfl
    exact hnew ((mem_insertions past j).mp hj)
  -- The row that is overlapped was there from the beginning or came with an earlier insertion.
  have hlate : Late accounts t w'.accepts (insertions past ++ [i]) i := by
    obtain ⟨b, hb, hoverlap⟩ := taken
    rw [h.rows, List.mem_append, List.mem_map] at hb
    rcases hb with hb | ⟨j, hj, rfl⟩
    · exact .inl ⟨b, hb, hoverlap⟩
    · obtain ⟨hmem, hj⟩ := List.mem_filter.mp hj
      have hbefore : [j].Sublist (insertions past) := List.singleton_sublist.mpr hmem
      exact .inr ⟨j, by rw [hsame hmem, hj], hbefore.append (List.Sublist.refl [i]), hoverlap⟩
  refine
    { available := by rw [htable]; exact h.available
      distinct := by rw [htable]; exact h.distinct
      received := h.received_insert hvalidated hnew hother
      validated := h.validated_insert hvalidated hnew hother
      answered := ?answered
      rows := ?rows }
  case answered =>
    intro j hj
    rw [insertions_concat_insert]
    by_cases hji : j = i
    · rw [hji]
      exact .inr ⟨hi, hlate⟩
    · exact h.answered_advance hnew hother [i] (by simpa [hji] using hj)
  case rows =>
    rw [htable, h.rows, insertions_concat_insert, List.filter_append, filter_advance hnew hother]
    simp [haccepts]

end Insert

/-! ## One action, and all -/

variable {rules : Rules} {requests : Fin n → Salt × Registration}

theorem step_insert {i : Fin n} (h : Settled accounts t past w) (hvalidated : .validate i ∈ past)
    (hnew : .insert i ∉ past) :
    Settled accounts t (past ++ [.insert i]) (step rules requests w (.insert i)) := by
  have hstage := h.validated i hvalidated hnew
  have hstep : step rules requests w (.insert i) =
      { w.advance i
          (.answered ((w.table.insert (accounts i)).1.mapError AccountError.ofStore)) with
        table := (w.table.insert (accounts i)).2 } := by
    simp only [step, hstage]
    rfl
  have hother : ∀ j, j ≠ i → (step rules requests w (.insert i)).stage j = w.stage j := by
    intro j hj
    rw [hstep]
    exact State.stage_advance_ne w _ hj
  have hself : (step rules requests w (.insert i)).stage i =
      .answered ((w.table.insert (accounts i)).1.mapError AccountError.ofStore) := by
    rw [hstep]
    exact State.stage_advance_self w i _
  have htable : (step rules requests w (.insert i)).table = (w.table.insert (accounts i)).2 := by
    rw [hstep]
  rw [Table.insert_snd] at htable
  by_cases taken : ∃ b ∈ w.table.rows, Overlap (accounts i) b
  · have hconflict : (w.table.insert (accounts i)).1 = .error .conflict := by
      simpa only [Table.insert_conflict_iff, clash_eq_true_iff_overlap, h.available, true_and]
        using taken
    rw [hconflict] at hself htable
    exact h.refuse hvalidated hnew hother hself htable taken
  · have fresh : ∀ b ∈ w.table.rows, ¬Overlap (accounts i) b := fun b hb ho => taken ⟨b, hb, ho⟩
    have hok : (w.table.insert (accounts i)).1 = .ok () := by
      simpa only [Table.insert_ok_iff, ← Bool.not_eq_true, clash_eq_true_iff_overlap, h.available,
        true_and] using fresh
    rw [hok] at hself htable
    exact h.accept hvalidated hnew hother hself htable fresh

theorem step_of_interleaving
    (valid : ∀ i, (requests i).2.validate rules (requests i).1 = .ok (accounts i)) {a : Action n}
    {rest : List (Action n)} (h : Settled accounts t past w)
    (interleaved : IsInterleaving (past ++ a :: rest)) :
    Settled accounts t (past ++ [a]) (step rules requests w a) := by
  cases a with
  | validate i =>
    have hfirst : ∀ a : Action n, a.concerns i = true → a ∉ past :=
      fun a ha => interleaved.notMem_before_validate ha
    have hstage := h.received i (hfirst _ (Action.concerns_validate i))
    have hstep : step rules requests w (.validate i) = w.advance i (.validated (accounts i)) := by
      simp only [step, hstage, valid]
    rw [hstep]
    exact h.validate hfirst
  | insert i =>
    exact step_insert h interleaved.validate_before_insert
      interleaved.insert_notMem_before_insert
  | login c =>
    have hstep : step rules requests w (.login c) = w := by simp only [step, state_login]
    rw [hstep]
    exact h.read fun i => rfl
  | find u => exact h.read fun i => rfl

theorem run_of_interleaving
    (valid : ∀ i, (requests i).2.validate rules (requests i).1 = .ok (accounts i))
    {rest : List (Action n)} (h : Settled accounts t past w)
    (interleaved : IsInterleaving (past ++ rest)) :
    Settled accounts t (past ++ rest) (run rules requests rest w) := by
  -- Induction on the actions to come; each moves over to the past, which stays settled.
  induction rest generalizing past w with
  | nil =>
    rw [List.append_nil]
    exact h
  | cons a rest ih =>
    have hsplit : past ++ a :: rest = past ++ [a] ++ rest := by simp
    have hstep := h.step_of_interleaving valid interleaved
    rw [hsplit] at interleaved ⊢
    exact ih hstep interleaved

end Settled

/-! ## The end of an interleaving -/

/-- In a column without repetitions the rows that were there and the accepted ones are apart. -/
theorem apart_of_nodup {κ : Type} (key : Account → κ) {accounts : Fin n → Account}
    {rows : List Account} {accepted : List (Fin n)}
    (h : ((rows ++ accepted.map accounts).map key).Nodup) :
    (∀ i ∈ accepted, ∀ b ∈ rows, key (accounts i) ≠ key b) ∧
      ∀ i ∈ accepted, ∀ j ∈ accepted, i ≠ j → key (accounts i) ≠ key (accounts j) := by
  rw [List.map_append, List.nodup_append, List.map_map] at h
  obtain ⟨-, hnodup, hdisjoint⟩ := h
  constructor
  · intro i hi b hb heq
    exact hdisjoint (key b) (List.mem_map_of_mem hb) (key (accounts i))
      (List.mem_map_of_mem (f := key ∘ accounts) hi) heq.symm
  · intro i hi j hj hij heq
    exact hij (List.inj_on_of_nodup_map hnodup hi hj heq)

/-- Every registration has its answer; the accepted ones are in the table in the order of their
insertions, do not overlap, and leave no other that could have been accepted in its turn. -/
structure Resolved (accounts : Fin n → Account) (t : Table) (order : List (Fin n))
    (w : State n) : Prop where
  once : ∀ i, order.count i = 1
  answered : ∀ i, w.stage i = .answered (.ok ()) ∨ w.stage i = .answered (.error .conflict)
  rows : w.table.rows = t.rows ++ (order.filter w.accepts).map accounts
  apart_initial : ∀ i, w.accepts i = true → ∀ b ∈ t.rows, ¬Overlap (accounts i) b
  apart : ∀ i j, w.accepts i = true → w.accepts j = true → i ≠ j →
    ¬Overlap (accounts i) (accounts j)
  distinct : w.table.Distinct
  late : ∀ i, w.stage i = .answered (.error .conflict) → Late accounts t w.accepts order i
  single : 0 < n → (∀ i, ∀ b ∈ t.rows, ¬Overlap (accounts i) b) →
    ((∀ i j, (accounts i).username = (accounts j).username) ∨
      ∀ i j, (accounts i).email = (accounts j).email) →
    ∃ i, w.stage i = .answered (.ok ()) ∧ ∀ j ≠ i, w.stage j = .answered (.error .conflict)

section
variable {accounts : Fin n → Account} {t : Table} {w : State n}

/-- If any two of the registrations overlap and none overlaps a row, one of them is accepted. -/
theorem exists_single
    (answered : ∀ i, w.stage i = .answered (.ok ()) ∨ w.stage i = .answered (.error .conflict))
    {order : List (Fin n)}
    (late : ∀ i, w.stage i = .answered (.error .conflict) → Late accounts t w.accepts order i)
    (apart : ∀ i j, w.accepts i = true → w.accepts j = true → i ≠ j →
      ¬Overlap (accounts i) (accounts j))
    (pos : 0 < n) (free : ∀ i, ∀ b ∈ t.rows, ¬Overlap (accounts i) b)
    (overlap : ∀ i j, Overlap (accounts i) (accounts j)) :
    ∃ i, w.stage i = .answered (.ok ()) ∧ ∀ j ≠ i, w.stage j = .answered (.error .conflict) := by
  -- Were the first one refused, what it came too late for would be an accepted one.
  have hsome : ∃ i, w.accepts i = true := by
    rcases answered ⟨0, pos⟩ with hok | hconflict
    · exact ⟨_, (w.accepts_eq_true_iff _).mpr hok⟩
    · rcases late _ hconflict with ⟨b, hb, hoverlap⟩ | ⟨j, hj, -⟩
      · exact absurd hoverlap (free _ b hb)
      · exact ⟨j, hj⟩
  obtain ⟨i, hi⟩ := hsome
  refine ⟨i, (w.accepts_eq_true_iff i).mp hi, ?_⟩
  intro j hji
  refine (answered j).resolve_left fun hok => ?_
  exact apart j i ((w.accepts_eq_true_iff j).mpr hok) hi hji (overlap j i)

end

/-- **First come, first served.** However the halves of valid registrations, logins and searches
are interleaved over an available table without repetitions, each registration is accepted or
refused for a conflict; the rows of the accepted ones are appended in the order of their insertions
and overlap neither each other nor a row that was there; and a refused one overlaps such a row or
an accepted one that came before it. -/
theorem resolved_of_interleaving (rules : Rules) (requests : Fin n → Salt × Registration)
    (accounts : Fin n → Account) (t : Table) (actions : List (Action n))
    (valid : ∀ i, (requests i).2.validate rules (requests i).1 = .ok (accounts i))
    (up : t.available = true) (distinct : t.Distinct) (interleaved : IsInterleaving actions) :
    Resolved accounts t (insertions actions) (run rules requests actions (.start t)) := by
  have h : Settled accounts t actions (run rules requests actions (.start t)) :=
    (Settled.start accounts up distinct).run_of_interleaving valid interleaved
  have hinsert : ∀ i, .insert i ∈ actions := interleaved.insert_mem
  have hmem : ∀ i, (run rules requests actions (.start t)).accepts i = true →
      i ∈ (insertions actions).filter (run rules requests actions (.start t)).accepts :=
    fun i hi => List.mem_filter.mpr ⟨(mem_insertions actions i).mpr (hinsert i), hi⟩
  have husernames := h.distinct.usernames
  have hemails := h.distinct.emails
  rw [h.rows] at husernames hemails
  obtain ⟨hinitialUsername, hotherUsername⟩ := apart_of_nodup _ husernames
  obtain ⟨hinitialEmail, hotherEmail⟩ := apart_of_nodup _ hemails
  have answered := fun i => (h.answered i (hinsert i)).imp_right And.left
  have late : ∀ i, (run rules requests actions (.start t)).stage i = .answered (.error .conflict) →
      Late accounts t (run rules requests actions (.start t)).accepts (insertions actions) i := by
    intro i hi
    rcases h.answered i (hinsert i) with hok | ⟨-, hlate⟩
    · rw [hok] at hi
      cases hi
    · exact hlate
  have apart : ∀ i j, (run rules requests actions (.start t)).accepts i = true →
      (run rules requests actions (.start t)).accepts j = true → i ≠ j →
      ¬Overlap (accounts i) (accounts j) := by
    intro i j hi hj hij
    exact not_or.mpr ⟨hotherUsername i (hmem i hi) j (hmem j hj) hij,
      hotherEmail i (hmem i hi) j (hmem j hj) hij⟩
  refine
    { once := interleaved.count_insertions
      answered := answered
      rows := h.rows
      apart_initial := fun i hi b hb =>
        not_or.mpr ⟨hinitialUsername i (hmem i hi) b hb, hinitialEmail i (hmem i hi) b hb⟩
      apart := apart
      distinct := h.distinct
      late := late
      single := ?single }
  intro pos free shared
  refine exists_single answered late apart pos free ?_
  intro i j
  exact shared.imp (fun husername => husername i j) fun hemail => hemail i j

/-- Over a table with one row, the second of three registrations is inserted last: it shares its
username with the first and its email with the third, and is refused. -/
theorem resolved_of_interleaving_three :
    let bob : Account := ⟨"bob", "b@x.org", "pw", none⟩
    let ann : Account := ⟨"ann", "a@x.org", "p1", none⟩
    let eve : Account := ⟨"eve", "e@x.org", "p3", none⟩
    let requests : Fin 3 → Salt × Registration :=
      ![(.ofNat 1, ⟨some "ann", some "a@x.org", some "p1", none⟩),
        (.ofNat 2, ⟨some "ann", some "e@x.org", some "p2", some " "⟩),
        (.ofNat 3, ⟨some "eve", some "e@x.org", some "p3", none⟩)]
    let actions : List (Action 3) :=
      [.validate 1, .validate 2, .find "ann", .insert 2, .validate 0,
        .login ⟨some "eve", some "p3", none⟩, .insert 0, .insert 1]
    let w := run ⟨.optional, .plaintext⟩ requests actions (.start ⟨[bob], true⟩)
    IsInterleaving actions ∧ w.stage 1 = .answered (.error .conflict) ∧
      w.table.rows = [bob, eve, ann] := by
  intro bob ann eve requests actions w
  have interleaved : IsInterleaving actions := by decide
  have h : Resolved ![ann, ⟨"ann", "e@x.org", "p2", none⟩, eve] ⟨[bob], true⟩ (insertions actions) w :=
    resolved_of_interleaving ⟨.optional, .plaintext⟩ requests _ ⟨[bob], true⟩ actions (by decide) rfl
      ⟨by decide, by decide⟩ interleaved
  have haccepts : (insertions actions).filter w.accepts = [2, 0] := by decide
  have hrefused : w.stage 1 ≠ .answered (.ok ()) := by
    rw [Ne, ← w.accepts_eq_true_iff]
    decide
  refine ⟨interleaved, (h.answered 1).resolve_left hrefused, ?_⟩
  rw [h.rows, haccepts]
  rfl

end Registrar.Concurrent
