import Mathlib.Data.List.Induction
import Registrar.EnvFile.Definitions

/-! # What an environment file defines

Whether a line is well formed is a matter of its text alone. Which value it gives to its name may
depend on the variables that are given, and on the lines before it.

* `isWellFormed`: whether a line can be read.
* `Defines`: the definitions of well-formed lines, read in order.
* `definitions_eq_iff`: a file defines what its lines before the first malformed one define.
* `Storable`, `Refuses`: whether a process can hold all that is added, or what it cannot hold.
* `assign_append`: definitions that can be made are made, and then the others are tried.
* `Completes`, `BreaksAt`: the variables completed by a file, or the definition at which its load
  breaks off; `load_of_breaksAt`, `load_of_not_breaksAt`: it is `load` that gives them.
-/

namespace Registrar.EnvFile
open Text
set_option autoImplicit false

/-! ## Well-formed lines -/

section
variable (f g : String → Option String)

/-- Variables are looked up for the value only: what is being read goes on in the same way. -/
theorem reading_readChar {p q : Partial} (h : p.1 = q.1) (c : Char) :
    (readChar f p c).map Prod.fst = (readChar g q c).map Prod.fst := by
  obtain ⟨reading, out⟩ := p
  obtain ⟨_, out'⟩ := q
  cases h
  cases reading with
  | comment => rfl
  | escape quoted => cases hescaped : escaped? c <;> simp [readChar, hescaped]
  | strong | ended | name _ _ | braced _ _ | text _ =>
    simp only [readChar]
    repeat' split
    all_goals rfl

theorem readings_cases {a b : Option Partial} (h : a.map Prod.fst = b.map Prod.fst) :
    (a = none ∧ b = none) ∨ ∃ p q, a = some p ∧ b = some q ∧ p.1 = q.1 := by
  cases a <;> cases b
  · exact .inl ⟨rfl, rfl⟩
  · cases h
  · cases h
  · exact .inr ⟨_, _, rfl, rfl, Option.some.inj h⟩

theorem reading_foldlM (cs : List Char) {p q : Partial} (h : p.1 = q.1) :
    (cs.foldlM (readChar f) p).map Prod.fst = (cs.foldlM (readChar g) q).map Prod.fst := by
  induction cs generalizing p q with
  | nil => exact congrArg some h
  | cons c cs ih =>
    rw [List.foldlM_cons, List.foldlM_cons]
    rcases readings_cases (reading_readChar f g h c) with ⟨hp, hq⟩ | ⟨p', q', hp, hq, hsame⟩
    · rw [hp, hq]
      rfl
    · rw [hp, hq]
      exact ih hsame

theorem isSome_finishValue {p q : Partial} (h : p.1 = q.1) :
    (finishValue f p).isSome = (finishValue g q).isSome := by
  obtain ⟨reading, out⟩ := p
  obtain ⟨_, out'⟩ := q
  cases h
  cases reading with
  | text quoted | escape quoted | name quoted _ => cases quoted <;> rfl
  | strong | braced _ _ | ended | comment => rfl

theorem isSome_value? (cs : List Char) : (value? f cs).isSome = (value? g cs).isSome := by
  have hread := reading_foldlM f g cs (p := (.text false, [])) rfl
  unfold value?
  rcases readings_cases hread with ⟨hf, hg⟩ | ⟨p, q, hf, hg, hsame⟩
  · rw [hf, hg]
    rfl
  · rw [hf, hg]
    exact isSome_finishValue f g hsame

theorem isSome_parse? (cs : List Char) : (Line.parse? f cs).isSome = (Line.parse? g cs).isSome := by
  simp only [Line.parse?]
  split
  · rfl
  · cases takeTarget (trim cs) with
    | none => rfl
    | some target =>
      simp only [Option.bind_eq_bind, Option.bind_some]
      split
      · rfl
      · simpa [Option.isSome_bind] using isSome_value? f g (trimStart target.2)

end

/-- Whether a line can be read, whatever the variables are. A line that never ends cannot. -/
def isWellFormed : Option (List Char) → Bool
  | none => false
  | some cs => (Line.parse? (fun _ => none) cs).isSome

/-! ## Definitions in order -/

/-- What a line adds to the definitions. -/
def Line.definitions : Line → List (String × String)
  | nothing => []
  | definition n v => [(n, v)]

/-- The value of a name that is mentioned after some definitions: the one that is given, or else
the one of its first definition. -/
def visible (given : String → Option String) (defs : List (String × String)) :
    String → Option String :=
  resolve fun n => (given n).or (defs.lookup n)

/-- Lines that are all well formed, and their definitions in order. -/
inductive Defines (given : String → Option String) :
    List (Option (List Char)) → List (String × String) → Prop
  | nil : Defines given [] []
  | snoc {ls : List (Option (List Char))} {defs : List (String × String)} {cs : List Char}
    {line : Line} (before : Defines given ls defs)
    (parsed : Line.parse? (visible given defs) cs = some line) :
    Defines given (ls ++ [some cs]) (defs ++ line.definitions)

section
variable {given : String → Option String} {defs : List (String × String)}

theorem loadFrom_cons {cs : List Char} {line : Line}
    (parsed : Line.parse? (visible given defs) cs = some line) (rest : List (Option (List Char))) :
    loadFrom given defs (some cs :: rest) = loadFrom given (defs ++ line.definitions) rest := by
  rw [visible] at parsed
  rw [loadFrom, parsed]
  cases line with
  | nothing => rw [Line.definitions, List.append_nil]
  | definition n v => rfl

theorem loadFrom_of_malformed {rest : List (Option (List Char))}
    (malformed : ∀ l ∈ rest.head?, isWellFormed l = false) : loadFrom given defs rest = defs := by
  cases rest with
  | nil => rfl
  | cons l rest =>
    have hl := malformed l rfl
    cases l with
    | none => rfl
    | some cs =>
      have hnone : (Line.parse? (visible given defs) cs).isSome = false :=
        (isSome_parse? _ _ cs).trans hl
      rw [visible, Option.isSome_eq_false_iff, Option.isNone_iff_eq_none] at hnone
      rw [loadFrom, hnone]

/-- Reading on after the lines that have been read. -/
theorem defines_loadFrom {ls : List (Option (List Char))} (read : Defines given ls defs)
    (rest : List (Option (List Char))) :
    Defines given (ls ++ rest.takeWhile isWellFormed) (loadFrom given defs rest) := by
  induction rest generalizing ls defs with
  | nil => simpa [loadFrom] using read
  | cons l rest ih =>
    cases hl : isWellFormed l with
    | false =>
      have hstop : loadFrom given defs (l :: rest) = defs :=
        loadFrom_of_malformed (by simpa using hl)
      simpa [hstop, hl] using read
    | true =>
      cases l with
      | none => cases hl
      | some cs =>
        obtain ⟨line, parsed⟩ := Option.isSome_iff_exists.mp
          ((isSome_parse? (visible given defs) _ cs).trans hl)
        have hnext := ih (read.snoc parsed)
        rw [List.append_assoc] at hnext
        rw [loadFrom_cons parsed, List.takeWhile_cons_of_pos hl]
        exact hnext

theorem Defines.unique {ls : List (Option (List Char))} {defs' : List (String × String)}
    (h : Defines given ls defs) (h' : Defines given ls defs') : defs = defs' := by
  induction h generalizing defs' with
  | nil =>
    generalize hls : ([] : List (Option (List Char))) = ls at h'
    cases h' with
    | nil => rfl
    | snoc _ _ => simp at hls
  | @snoc ls defs cs line _ parsed ih =>
    generalize hls : ls ++ [some cs] = ls' at h'
    cases h' with
    | nil => simp at hls
    | snoc before parsed' =>
      obtain ⟨rfl, hlast⟩ := List.append_inj' hls rfl
      obtain rfl : cs = _ := by simpa using hlast
      obtain rfl := ih before
      rw [parsed] at parsed'
      rw [Option.some.inj parsed']

end

/-- A file defines what its lines before the first malformed one define. -/
theorem definitions_eq_iff (given : String → Option String) (text : String)
    (defs : List (String × String)) :
    definitions given text = defs ↔ Defines given ((lines text).takeWhile isWellFormed) defs := by
  have hread : Defines given ((lines text).takeWhile isWellFormed) (definitions given text) :=
    defines_loadFrom .nil (lines text)
  constructor
  · rintro rfl
    exact hread
  · exact hread.unique

/-! ## Variables one after the other -/

section
variable (given : String → Option String)

/-- The variables with definitions added: a variable that is given keeps its value, and of several
definitions the first counts. -/
def completed (defs : List (String × String)) (n : String) : Option String :=
  (given n).or (defs.lookup n)

/-- No value that is added has NUL in it. -/
def Storable (defs : List (String × String)) : Prop :=
  ∀ n v, given n = none → defs.lookup n = some v → '\x00' ∉ v.toList

/-- The definition at which the assignment breaks off: the first that is made, not skipped, and has
NUL in its value. -/
def Refuses (defs : List (String × String)) (name value : String) : Prop :=
  ∃ before after, defs = before ++ (name, value) :: after ∧ Storable given before ∧
    given name = none ∧ before.lookup name = none ∧ '\x00' ∈ value.toList

variable {given} {defs : List (String × String)} {n v : String}

theorem lookup_concat (m : String) :
    (defs ++ [(n, v)]).lookup m = (defs.lookup m).or (if m = n then some v else none) := by
  rw [List.lookup_append, List.lookup_cons, List.lookup_nil]
  by_cases h : m = n
  · simp [h]
  · simp [h, beq_eq_false_iff_ne.mpr h]

theorem Storable.of_concat (h : Storable given (defs ++ [(n, v)])) : Storable given defs := by
  intro m u hm hu
  refine h m u hm ?_
  rw [lookup_concat, hu, Option.some_or]

/-- A variable that has a value keeps it. -/
theorem completed_concat_of_isSome (h : (completed given defs n).isSome = true) :
    completed given (defs ++ [(n, v)]) = completed given defs := by
  funext m
  unfold completed at h ⊢
  rw [lookup_concat]
  by_cases hm : m = n
  · subst hm
    rw [← Option.or_assoc, Option.or_of_isSome h]
  · rw [if_neg hm, Option.or_none]

theorem completed_concat_of_none (h : completed given defs n = none) :
    completed given (defs ++ [(n, v)]) = withVariable (completed given defs) n v := by
  funext m
  unfold completed at h ⊢
  rw [withVariable, lookup_concat, ← Option.or_assoc]
  by_cases hm : m = n
  · subst hm
    rw [h, if_pos rfl, Option.none_or]
  · rw [if_neg hm, if_neg hm, Option.or_none]

/-- The definitions that can be made are made, and then the others are tried. -/
theorem assign_append (stored : Storable given defs) (rest : List (String × String)) :
    assign given (defs ++ rest) = assign (completed given defs) rest := by
  induction defs using List.reverseRecOn generalizing rest with
  | nil =>
    have hnone : completed given [] = given := funext fun n => Option.or_none
    rw [hnone, List.nil_append]
  | append_singleton defs d ih =>
    obtain ⟨n, v⟩ := d
    rw [List.append_assoc, ih stored.of_concat, List.singleton_append, assign]
    by_cases hset : (completed given defs n).isSome = true
    · rw [if_pos hset, completed_concat_of_isSome hset]
    · have hfree : completed given defs n = none := by simpa using hset
      have hvalue : '\x00' ∉ v.toList := by
        obtain ⟨hgiven, hdefs⟩ := Option.or_eq_none_iff.mp hfree
        exact stored n v hgiven (by rw [lookup_concat, hdefs, if_pos rfl, Option.none_or])
      rw [if_neg hset, if_neg hvalue, completed_concat_of_none hfree]

theorem assign_of_storable (stored : Storable given defs) :
    assign given defs = .ok (completed given defs) := by
  simpa [assign] using assign_append stored []

theorem assign_of_refuses (h : Refuses given defs n v) : assign given defs = .error (n, v) := by
  obtain ⟨before, after, rfl, stored, hgiven, hbefore, hnul⟩ := h
  have hfree : completed given before n = none := Option.or_eq_none_iff.mpr ⟨hgiven, hbefore⟩
  rw [assign_append stored, assign, hfree, if_neg (by simp), if_pos hnul]

theorem storable_or_refuses (given : String → Option String) (defs : List (String × String)) :
    Storable given defs ∨ ∃ n v, Refuses given defs n v := by
  induction defs using List.reverseRecOn with
  | nil => exact .inl fun n v _ h => by cases h
  | append_singleton defs d ih =>
    obtain ⟨n, v⟩ := d
    rcases ih with stored | ⟨m, u, before, after, rfl, hfirst⟩
    · by_cases hnul : given n = none ∧ defs.lookup n = none ∧ '\x00' ∈ v.toList
      · exact .inr ⟨n, v, defs, [], rfl, stored, hnul⟩
      · refine .inl fun m u hm hu => ?_
        rw [lookup_concat] at hu
        rcases Option.or_eq_some_iff.mp hu with hu | ⟨hdefs, hu⟩
        · exact stored m u hm hu
        · obtain ⟨rfl, rfl⟩ : m = n ∧ v = u := by simpa using hu
          exact fun hu => hnul ⟨hm, hdefs, hu⟩
    · exact .inr ⟨m, u, before, after ++ [(n, v)], by simp, hfirst⟩

end

/-! ## Completed variables -/

/-- The variables completed by a file. -/
structure Completes (given : String → Option String) (text : String)
    (lookup : String → Option String) : Prop where
  /-- A variable that is given is not replaced, not even if its value is empty. -/
  kept : ∀ n v, given n = some v → lookup n = some v
  /-- Any other variable has the value of its first definition before the first malformed line. -/
  added : ∃ defs, Defines given ((lines text).takeWhile isWellFormed) defs ∧
    ∀ n, given n = none → ∀ v, lookup n = some v ↔
      ∃ before after, defs = before ++ (n, v) :: after ∧ ∀ d ∈ before, d.1 ≠ n

/-- The definition at which the load of a file breaks off. -/
def BreaksAt (given : String → Option String) (text name value : String) : Prop :=
  ∃ defs, Defines given ((lines text).takeWhile isWellFormed) defs ∧ Refuses given defs name value

section
variable (given : String → Option String) (text : String)

theorem completes_completed : Completes given text (completed given (definitions given text)) where
  kept n v h := by rw [completed, h, Option.some_or]
  added := by
    refine ⟨definitions given text, (definitions_eq_iff given text _).mp rfl, fun n h v => ?_⟩
    rw [completed, h, Option.none_or, List.lookup_eq_some_iff]
    simp only [bne_iff_ne, ne_eq, eq_comm (a := n)]

theorem completes_iff (lookup : String → Option String) :
    Completes given text lookup ↔ lookup = completed given (definitions given text) := by
  constructor
  · intro h
    have hload := completes_completed given text
    obtain ⟨defs, hdefs, hadded⟩ := h.added
    obtain ⟨defs', hdefs', hadded'⟩ := hload.added
    obtain rfl := hdefs.unique hdefs'
    funext n
    cases hn : given n with
    | some v => rw [h.kept n v hn, hload.kept n v hn]
    | none => exact Option.ext fun v => (hadded n hn v).trans (hadded' n hn v).symm
  · rintro rfl
    exact completes_completed given text

theorem breaksAt_iff (name value : String) :
    BreaksAt given text name value ↔ Refuses given (definitions given text) name value := by
  constructor
  · rintro ⟨defs, hdefs, hrefuses⟩
    rwa [(definitions_eq_iff given text defs).mpr hdefs]
  · intro h
    exact ⟨_, (definitions_eq_iff given text _).mp rfl, h⟩

variable {given text}

theorem load_of_breaksAt {name value : String} (h : BreaksAt given text name value) :
    load given text = .error (name, value) :=
  assign_of_refuses ((breaksAt_iff given text name value).mp h)

theorem not_breaksAt_of_isOk (h : (load given text).isOk = true) (name value : String) :
    ¬BreaksAt given text name value := by
  intro hbreaks
  rw [load_of_breaksAt hbreaks] at h
  cases h

theorem load_of_not_breaksAt (h : ∀ name value, ¬BreaksAt given text name value) :
    load given text = .ok (completed given (definitions given text)) := by
  rcases storable_or_refuses given (definitions given text) with stored | ⟨n, v, hrefuses⟩
  · exact assign_of_storable stored
  · exact absurd ((breaksAt_iff given text n v).mpr hrefuses) (h n v)

end

end Registrar.EnvFile
