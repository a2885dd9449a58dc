import Registrar.Api.Fields

/-! # Fields of an object

* `Json.Value.Gives`: an object has a member with a key and a string.
* `gives_object_iff`: what an object gives can be computed.
* `gives_of_field?`: a field that is read is given.
* `Registration.ofJson?_object_iff`, `Credentials.ofJson?_object_iff`: what the two requests take
  from the members of an object.
* `Credentials.ofJson?_of_registration`: what is read as a registration is also read as credentials.
-/

namespace Registrar
set_option autoImplicit false

/-- The value is an object that has a member with this key and this string, however written. -/
def Json.Value.Gives (v : Json.Value) (key s : String) : Prop :=
  ∃ members, v = .object members ∧
    ∃ m ∈ members, m.1.toString? = some key ∧ ∃ t, m.2 = .string t ∧ t.toString? = some s

def texts (ms : List (Json.Written × Json.Value)) (key : String) : List String :=
  (ms.filter fun m => m.1.toString? == some key).filterMap fun m => m.2.field?.join

/-! ## One field -/

theorem Json.Value.field?_eq_some_some_iff (v : Json.Value) (s : String) :
    v.field? = some (some s) ↔ ∃ t, v = .string t ∧ t.toString? = some s := by
  cases v <;> simp [Json.Value.field?]

theorem gives_object_iff (ms : List (Json.Written × Json.Value)) (key s : String) :
    (Json.Value.object ms).Gives key s ↔ s ∈ texts ms key := by
  simp only [Json.Value.Gives, texts, Json.Value.object.injEq, List.mem_filterMap, List.mem_filter,
    beq_iff_eq, Option.join_eq_some_iff, Json.Value.field?_eq_some_some_iff, and_assoc,
    exists_eq_left']

theorem mem_of_field? {β : Type} {read : β → Option (Option String)} {pairs : List (String × β)}
    {name s : String} (h : field? read pairs name = some (some s)) :
    ∃ v, (name, v) ∈ pairs ∧ read v = some (some s) := by
  unfold field? at h
  split at h
  · cases h
  · rename_i p hp
    have hmem : p ∈ pairs.filter fun p => p.1 == name := by
      rw [hp]
      exact List.mem_singleton_self p
    obtain ⟨hp, hname⟩ := List.mem_filter.mp hmem
    rw [beq_iff_eq] at hname
    exact ⟨p.2, by rw [← hname]; exact hp, h⟩
  · cases h

theorem mem_of_members? {ms : List (Json.Written × Json.Value)}
    {pairs : List (String × Json.Value)} (h : members? ms = some pairs) {p : String × Json.Value}
    (hp : p ∈ pairs) : ∃ m ∈ ms, m.1.toString? = some p.1 ∧ m.2 = p.2 := by
  unfold members? at h
  induction ms generalizing pairs with
  | nil =>
    cases h
    cases hp
  | cons m ms ih =>
    rw [List.mapM_cons] at h
    obtain ⟨q, hq, h⟩ := Option.bind_eq_some_iff.mp h
    obtain ⟨qs, hqs, h⟩ := Option.bind_eq_some_iff.mp h
    cases h
    rcases List.mem_cons.mp hp with rfl | hp
    · obtain ⟨k, hk, rfl⟩ := Option.map_eq_some_iff.mp hq
      exact ⟨m, List.mem_cons_self, hk, rfl⟩
    · obtain ⟨m', hm', hkey⟩ := ih hqs hp
      exact ⟨m', List.mem_cons_of_mem _ hm', hkey⟩

theorem gives_of_field? {ms : List (Json.Written × Json.Value)}
    {pairs : List (String × Json.Value)} (hms : members? ms = some pairs) {name s : String}
    (h : field? Json.Value.field? pairs name = some (some s)) :
    (Json.Value.object ms).Gives name s := by
  obtain ⟨v, hmem, hread⟩ := mem_of_field? h
  obtain ⟨m, hm, hkey, rfl⟩ := mem_of_members? hms hmem
  exact ⟨ms, rfl, m, hm, hkey, (Json.Value.field?_eq_some_some_iff m.2 s).mp hread⟩

/-! ## The two requests -/

/-- A registration has five fields, the first two of which give the username. -/
theorem Registration.ofJson?_object_iff (ms : List (Json.Written × Json.Value))
    (x : Registration) :
    Registration.ofJson? (.object ms) = some x ↔
      ∃ pairs username name, members? ms = some pairs ∧
        field? Json.Value.field? pairs "username" = some username ∧
        field? Json.Value.field? pairs "name" = some name ∧
        field? Json.Value.field? pairs "email" = some x.email ∧
        field? Json.Value.field? pairs "password" = some x.password ∧
        field? Json.Value.field? pairs "role" = some x.role ∧ x.username = username.or name := by
  obtain ⟨u, e, p, r⟩ := x
  simp only [Registration.ofJson?, fields?, Registration.fieldNames, List.mapM_cons, List.mapM_nil,
    Option.bind_eq_bind, Option.pure_def, Option.bind_eq_some_iff, Option.some.injEq]
  constructor
  · rintro ⟨_, ⟨pairs, hms, username, hu, _, ⟨name, hn, _, ⟨email, he, _, ⟨password, hp, _,
      ⟨role, hr, _, rfl, rfl⟩, rfl⟩, rfl⟩, rfl⟩, rfl⟩, h⟩
    cases h
    exact ⟨pairs, username, name, hms, hu, hn, he, hp, hr, rfl⟩
  · rintro ⟨pairs, username, name, hms, hu, hn, he, hp, hr, rfl⟩
    exact ⟨_, ⟨pairs, hms, username, hu, _, ⟨name, hn, _, ⟨e, he, _, ⟨p, hp, _,
      ⟨r, hr, _, rfl, rfl⟩, rfl⟩, rfl⟩, rfl⟩, rfl⟩, rfl⟩

/-- Credentials have four fields, the first two of which give the username. -/
theorem Credentials.ofJson?_object_iff (ms : List (Json.Written × Json.Value))
    (c : Credentials) :
    Credentials.ofJson? (.object ms) = some c ↔
      ∃ pairs name username, members? ms = some pairs ∧
        field? Json.Value.field? pairs "name" = some name ∧
        field? Json.Value.field? pairs "username" = some username ∧
        field? Json.Value.field? pairs "password" = some c.password ∧
        field? Json.Value.field? pairs "role" = some c.role ∧ c.username = name.or username := by
  obtain ⟨u, p, r⟩ := c
  simp only [Credentials.ofJson?, fields?, Credentials.fieldNames, List.mapM_cons, List.mapM_nil,
    Option.bind_eq_bind, Option.pure_def, Option.bind_eq_some_iff, Option.some.injEq]
  constructor
  · rintro ⟨_, ⟨pairs, hms, name, hn, _, ⟨username, hu, _, ⟨password, hp, _,
      ⟨role, hr, _, rfl, rfl⟩, rfl⟩, rfl⟩, rfl⟩, h⟩
    cases h
    exact ⟨pairs, name, username, hms, hn, hu, hp, hr, rfl⟩
  · rintro ⟨pairs, name, username, hms, hn, hu, hp, hr, rfl⟩
    exact ⟨_, ⟨pairs, hms, name, hn, _, ⟨username, hu, _, ⟨p, hp, _,
      ⟨r, hr, _, rfl, rfl⟩, rfl⟩, rfl⟩, rfl⟩, rfl⟩

theorem or_comm_of_agree {x y : Option String} (agree : ∀ u n, x = some u → y = some n → u = n) :
    y.or x = x.or y := by
  cases x with
  | none => simp
  | some u =>
    cases y with
    | none => rfl
    | some n => rw [agree u n rfl rfl]

/-- An object that is read as a registration is read as credentials with the same fields, unless it
gives two usernames that differ. -/
theorem Credentials.ofJson?_of_registration {ms : List (Json.Written × Json.Value)}
    {x : Registration} (h : Registration.ofJson? (.object ms) = some x)
    (agree : ∀ u n, (Json.Value.object ms).Gives "username" u →
      (Json.Value.object ms).Gives "name" n → u = n) :
    Credentials.ofJson? (.object ms) = some ⟨x.username, x.password, x.role⟩ := by
  obtain ⟨pairs, username, name, hms, hu, hn, -, hp, hr, hx⟩ :=
    (Registration.ofJson?_object_iff ms x).mp h
  refine (Credentials.ofJson?_object_iff ms _).mpr
    ⟨pairs, name, username, hms, hn, hu, hp, hr, ?_⟩
  rw [hx]
  refine (or_comm_of_agree ?_).symm
  rintro u n rfl rfl
  exact agree u n (gives_of_field? hms hu) (gives_of_field? hms hn)

/-! ## Fields that are sent -/

/-- What is sent of some fields: in any order and none of them twice, all that are present, and
the absent ones or not. -/
structure Sends (sent fields : List (String × Option String)) : Prop where
  distinct : (sent.map (·.1)).Nodup
  subset : ∀ f ∈ sent, f ∈ fields
  present : ∀ name s, (name, some s) ∈ fields → (name, some s) ∈ sent

theorem Sends.refl {fields : List (String × Option String)}
    (distinct : (fields.map (·.1)).Nodup) : Sends fields fields :=
  ⟨distinct, fun _ h => h, fun _ _ h => h⟩

theorem Sends.perm {sent sent' fields : List (String × Option String)} (h : Sends sent fields)
    (hperm : sent.Perm sent') : Sends sent' fields where
  distinct := (hperm.map _).nodup_iff.mp h.distinct
  subset := fun f hf => h.subset f (hperm.mem_iff.mpr hf)
  present := fun name s hf => hperm.mem_iff.mp (h.present name s hf)

theorem Sends.filter {sent fields : List (String × Option String)} (h : Sends sent fields) :
    Sends (sent.filter fun f => f.2.isSome) fields where
  distinct := (List.filter_sublist.map _).nodup h.distinct
  subset := fun f hf => h.subset f (List.mem_filter.mp hf).1
  present := fun name s hf => List.mem_filter.mpr ⟨h.present name s hf, rfl⟩

section
variable {β : Type} {read : β → Option (Option String)} {pairs : List (String × β)}

theorem field?_of_mem (distinct : (pairs.map (·.1)).Nodup) {name : String} {v : β}
    (h : (name, v) ∈ pairs) : field? read pairs name = read v := by
  have hfilter : (pairs.filter fun p => p.1 == name) = [(name, v)] := by
    induction pairs with
    | nil => cases h
    | cons p pairs ih =>
      rw [List.map_cons, List.nodup_cons] at distinct
      rcases List.mem_cons.mp h with rfl | hrest
      · have hnone : (pairs.filter fun p => p.1 == name) = [] := by
          rw [List.filter_eq_nil_iff]
          intro q hq heq
          exact distinct.1 (List.mem_map.mpr ⟨q, hq, beq_iff_eq.mp heq⟩)
        rw [List.filter_cons, if_pos (beq_self_eq_true name), hnone]
      · have hne : ¬(p.1 == name) = true := by
          rw [beq_iff_eq]
          rintro rfl
          exact distinct.1 (List.mem_map.mpr ⟨_, hrest, rfl⟩)
        rw [List.filter_cons, if_neg hne, ih distinct.2 hrest]
  simp only [field?, hfilter]

theorem field?_of_notMem {name : String} (h : name ∉ pairs.map (·.1)) :
    field? read pairs name = some none := by
  have hfilter : (pairs.filter fun p => p.1 == name) = [] := by
    rw [List.filter_eq_nil_iff]
    intro p hp heq
    exact h (List.mem_map.mpr ⟨p, hp, beq_iff_eq.mp heq⟩)
  simp only [field?, hfilter]

/-- A field that is sent, or that is absent and not sent, is read as it is. -/
theorem field?_of_sends {sent fields : List (String × Option String)} (h : Sends sent fields)
    (distinct : (fields.map (·.1)).Nodup)
    (hread : pairs.map (fun p => (p.1, read p.2)) = sent.map fun f => (f.1, some f.2))
    {name : String} {o : Option String} (ho : (name, o) ∈ fields) :
    field? read pairs name = some o := by
  have hkeys : pairs.map (·.1) = sent.map (·.1) := by
    have := congrArg (List.map (·.1)) hread
    simpa only [List.map_map, Function.comp_def] using this
  by_cases hmem : name ∈ sent.map (·.1)
  · obtain ⟨⟨name', o'⟩, hf, rfl⟩ := List.mem_map.mp hmem
    -- The names of the fields are distinct, so the value that is sent is the one asked for.
    have hone : field? some fields name' = some o := field?_of_mem distinct ho
    rw [field?_of_mem distinct (h.subset _ hf), Option.some.injEq] at hone
    subst hone
    have hpair : (name', some o') ∈ pairs.map fun p => (p.1, read p.2) := by
      rw [hread]
      exact List.mem_map.mpr ⟨_, hf, rfl⟩
    obtain ⟨⟨k, v⟩, hp, heq⟩ := List.mem_map.mp hpair
    obtain ⟨rfl, hv⟩ := Prod.mk.inj heq
    rw [field?_of_mem (hkeys ▸ h.distinct) hp]
    exact hv
  · have hnone : o = none := by
      cases o with
      | none => rfl
      | some s => exact absurd (List.mem_map.mpr ⟨_, h.present name s ho, rfl⟩) hmem
    rw [hnone]
    exact field?_of_notMem (hkeys ▸ hmem)

end

end Registrar
