import Registrar.Proofs.LoginRows
import Registrar.Proofs.Sealing

/-! # Only full hash strings are verified

Under the hashing scheme a stored text that is not a hash string in full verifies no password. So
rows that were stored under another scheme let nobody in, not even with the stored text itself.

* `IsFullHash`: a variant, perhaps a version and parameters, then the salt and the hash.
* `parse?_split`: the fields of a hash string that has a salt and a hash.
* `isFullHash_of_verify`: a text that verifies a password has all of them.
* `login_of_foreign`: rows with other texts let nobody in.
* `verifies_full_hashes_only`: both for all texts, stores and calls.
-/

namespace Registrar
open Api Password Text Argon2
set_option autoImplicit false

namespace Password

/-! ## Full hash strings -/

/-- The text begins with a variant between dollar signs. -/
def NamesVariant (s : String) : Prop :=
  ∃ front ∈ ["$argon2d$", "$argon2i$", "$argon2id$"], front.toList <+: s.toList

instance (s : String) : Decidable (NamesVariant s) :=
  inferInstanceAs (Decidable (∃ front ∈ (_ : List String), front.toList <+: s.toList))

/-- Fields that may stand between the variant and the salt: a version and parameters. -/
structure AreOptions (options : List (List Char)) : Prop where
  few : options.length ≤ 2
  named : ∀ f ∈ options, '=' ∈ f
  plain : ∀ f ∈ options, '$' ∉ f

/-- After the variant and its options come the salt and the hash, in base64. -/
def IsFullHash (s : String) : Prop :=
  ∃ (v : Variant) (options : List (List Char)) (salt hash : List UInt8),
    s.toList = (v.name.toList :: options ++ [Base64.encode salt, Base64.encode hash]).flatMap
      (fun f => '$' :: f) ∧
    AreOptions options ∧ (8 ≤ salt.length ∧ salt.length ≤ 48) ∧ 10 ≤ hash.length ∧ hash.length ≤ 64

theorem namesVariant_of_isFullHash {s : String} (h : IsFullHash s) : NamesVariant s := by
  obtain ⟨v, options, salt, hash, hs, -⟩ := h
  -- The next field, an option or the salt, brings the second dollar sign.
  obtain ⟨rest, hrest⟩ : ∃ rest, (options ++ [Base64.encode salt, Base64.encode hash]).flatMap
      (fun f => '$' :: f) = '$' :: rest := by
    cases options with
    | nil => exact ⟨_, rfl⟩
    | cons f fs => exact ⟨_, rfl⟩
  rw [List.cons_append, List.flatMap_cons, hrest] at hs
  cases v with
  | dataDependent => exact ⟨"$argon2d$", by simp, rest, hs.symm⟩
  | dataIndependent => exact ⟨"$argon2i$", by simp, rest, hs.symm⟩
  | hybrid => exact ⟨"$argon2id$", by simp, rest, hs.symm⟩

/-! ## The fields of a hash string -/

/-- A piece between separators has no separator. -/
theorem notMem_of_mem_splitOn (c : Char) (cs : List Char) : ∀ f ∈ cs.splitOn c, c ∉ f := by
  induction cs with
  | nil => simp
  | cons d cs ih =>
    obtain ⟨g, gs, hsplit⟩ := List.exists_cons_of_ne_nil (List.splitOn_ne_nil c cs)
    rw [hsplit] at ih
    rw [List.splitOn_cons_eq_if_modifyHead, hsplit]
    intro f hf
    by_cases hd : d = c
    · simp only [hd, beq_self_eq_true, if_true, List.mem_cons] at hf
      rcases hf with rfl | hf
      · exact List.not_mem_nil
      · exact ih f (List.mem_cons.mpr hf)
    · have hne : (d == c) = false := by simpa using hd
      simp only [hne, Bool.false_eq_true, if_false, List.modifyHead_cons, List.mem_cons] at hf
      rcases hf with rfl | hf
      · rw [List.mem_cons, not_or]
        exact ⟨fun h => hd h.symm, ih g List.mem_cons_self⟩
      · exact ih f (List.mem_cons_of_mem g hf)

namespace Phc

theorem takeVersion_split {fields rest : List (List Char)} {version : Option Nat}
    (h : takeVersion fields = some (version, rest)) :
    ∃ options, fields = options ++ rest ∧ options.length ≤ 1 ∧ ∀ f ∈ options, '=' ∈ f := by
  unfold takeVersion at h
  split at h
  · rename_i cs fields
    split at h
    · cases h
      exact ⟨[], rfl, by decide, by simp⟩
    · obtain ⟨n, -, hn⟩ := Option.map_eq_some_iff.mp h
      cases hn
      exact ⟨['v' :: '=' :: cs], rfl, by simp, by simp⟩
  · cases h
    exact ⟨[], rfl, by decide, by simp⟩

theorem takeParameters_split {fields rest : List (List Char)}
    {parameters : List (List Char × List Char)}
    (h : takeParameters fields = some (parameters, rest)) :
    ∃ options, fields = options ++ rest ∧ options.length ≤ 1 ∧ ∀ f ∈ options, '=' ∈ f := by
  cases fields with
  | nil =>
    cases h
    exact ⟨[], rfl, by decide, by simp⟩
  | cons f fields =>
    simp only [takeParameters] at h
    split at h
    · rename_i hequals
      obtain ⟨ps, -, hps⟩ := Option.map_eq_some_iff.mp h
      cases hps
      exact ⟨[f], rfl, by simp, by simpa using hequals⟩
    · cases h
      exact ⟨[], rfl, by decide, by simp⟩

theorem takeSalt_split {fields rest : List (List Char)} {salt : List Char}
    (h : takeSalt fields = some (some salt, rest)) :
    fields = salt :: rest ∧ isSalt salt = true := by
  cases fields with
  | nil => cases h
  | cons f fields =>
    simp only [takeSalt] at h
    split at h
    · rename_i hsalt
      cases h
      exact ⟨rfl, hsalt⟩
    · cases h

theorem takeHash_split {fields rest : List (List Char)} {hash : List UInt8}
    (h : takeHash fields = some (some hash, rest)) :
    ∃ text, fields = text :: rest ∧ hash? text = some hash := by
  cases fields with
  | nil => cases h
  | cons f fields =>
    obtain ⟨bs, hbs, hsame⟩ := Option.map_eq_some_iff.mp h
    cases hsame
    exact ⟨f, rfl, hbs⟩

/-- Where a salt and a hash are found, they are the last two fields. -/
theorem ofFields_split {algorithm : List Char} {fields : List (List Char)} {p : Phc}
    (h : ofFields algorithm fields = some p) {salt : List Char} {hash : List UInt8}
    (hsalt : p.salt = some salt) (hhash : p.hash = some hash) :
    p.algorithm = algorithm ∧ ∃ options text, fields = options ++ [salt, text] ∧
      options.length ≤ 2 ∧ (∀ f ∈ options, '=' ∈ f) ∧ isSalt salt = true ∧
        hash? text = some hash := by
  simp only [ofFields, Option.bind_eq_bind, Option.bind_eq_some_iff, Prod.exists] at h
  obtain ⟨version, afterVersion, hversion, parameters, afterParameters, hparameters, salt',
    afterSalt, htakeSalt, hash', afterHash, htakeHash, h⟩ := h
  split at h
  case isFalse => cases h
  case isTrue hnone =>
    cases h
    obtain ⟨first, hfirst, hfirstLength, hfirstNamed⟩ := takeVersion_split hversion
    obtain ⟨second, hsecond, hsecondLength, hsecondNamed⟩ := takeParameters_split hparameters
    cases hsalt
    cases hhash
    obtain ⟨hrest, hsalt⟩ := takeSalt_split htakeSalt
    obtain ⟨text, htext, hhash⟩ := takeHash_split htakeHash
    refine ⟨rfl, first ++ second, text, ?_, ?_, ?_, hsalt, hhash⟩
    · rw [hfirst, hsecond, hrest, htext, hnone, List.append_assoc]
    · rw [List.length_append]
      omega
    · intro f hf
      rcases List.mem_append.mp hf with hf | hf
      · exact hfirstNamed f hf
      · exact hsecondNamed f hf

theorem parse?_split {s : String} {p : Phc} (h : parse? s = some p) {salt : List Char}
    {hash : List UInt8} (hsalt : p.salt = some salt) (hhash : p.hash = some hash) :
    ∃ options text,
      s.toList = (p.algorithm :: options ++ [salt, text]).flatMap (fun f => '$' :: f) ∧
        AreOptions options ∧ isSalt salt = true ∧ hash? text = some hash := by
  have hpieces : ['$'].intercalate (s.toList.splitOn '$') = s.toList :=
    List.intercalate_splitOn '$'
  have hplain := notMem_of_mem_splitOn '$' s.toList
  unfold parse? at h
  split at h
  case h_2 => cases h
  case h_1 algorithm fields hsplit =>
    split at h
    case isFalse => cases h
    case isTrue =>
      obtain ⟨rfl, options, text, rfl, hlength, hnamed, hsaltText, hhashText⟩ :=
        ofFields_split h hsalt hhash
      rw [hsplit] at hpieces hplain
      rw [intercalate_cons, List.nil_append] at hpieces
      refine ⟨options, text, hpieces.symm, ⟨hlength, hnamed, ?_⟩, hsaltText, hhashText⟩
      intro f hf
      exact hplain f (by simp [hf])

end Phc

/-! ## Texts that verify a password -/

theorem name_of_ofName? {s : String} {v : Variant} (h : Variant.ofName? s = some v) :
    v.name = s := by
  have hname := List.find?_some h
  simpa using hname

namespace Hashed

/-- A hash is asked for only where a variant, a salt and a hash are named. -/
theorem job?_parts {h : Phc} {supplied : String} {asked : Job × List UInt8}
    (hjob : job? h supplied = some asked) :
    ∃ (v : Variant) (text : List Char) (salt hash : List UInt8),
      h.algorithm = v.name.toList ∧ h.salt = some text ∧ h.hash = some hash ∧
        Base64.decode? text = some salt ∧ 8 ≤ salt.length := by
  simp only [job?, Option.bind_eq_bind, Option.bind_eq_some_iff] at hjob
  obtain ⟨text, htext, hash, hhash, v, hv, version, -, tuning, -, salt, hsalt, hjob⟩ := hjob
  split at hjob
  case isFalse => cases hjob
  case isTrue hallowed =>
    simp only [Bool.and_eq_true, decide_eq_true_eq] at hallowed
    refine ⟨v, text, salt, hash, ?_, htext, hhash, hsalt, hallowed.1.2⟩
    rw [name_of_ofName? hv, String.toList_ofList]

theorem isFullHash_of_verify {stored supplied : String} (h : verify stored supplied = true) :
    IsFullHash stored := by
  obtain ⟨p, asked, hparse, hjob⟩ :
      ∃ p asked, Phc.parse? stored = some p ∧ job? p supplied = some asked := by
    unfold verify at h
    split at h
    case h_1 job hash hasked =>
      obtain ⟨p, hparse, hjob⟩ := Option.bind_eq_some_iff.mp hasked
      exact ⟨p, _, hparse, hjob⟩
    case h_2 => cases h
  obtain ⟨v, text, salt, hash, halgorithm, hsalt, hhash, hdecode, hlong⟩ := job?_parts hjob
  obtain ⟨options, hashText, hstored, hoptions, hisSalt, hread⟩ :=
    Phc.parse?_split hparse hsalt hhash
  obtain ⟨hhashDecode, hsize⟩ := Option.filter_eq_some_iff.mp hread
  have hsaltText : text = Base64.encode salt := (Base64.encode_of_decode? hdecode).symm
  have hhashText : hashText = Base64.encode hash := (Base64.encode_of_decode? hhashDecode).symm
  simp only [Bool.and_eq_true, decide_eq_true_eq] at hsize
  refine ⟨v, options, salt, hash, ?_, hoptions, ⟨hlong, ?_⟩, hsize.1, hsize.2⟩
  · rw [hstored, halgorithm, hsaltText, hhashText]
  · simp only [Phc.isSalt, Bool.and_eq_true, decide_eq_true_eq, hsaltText, length_encode] at hisSalt
    omega

end Hashed

end Password

/-! ## Logins over other rows -/

/-- The stored password does not begin with a variant, or is no hash string in full. -/
def Account.IsForeign (b : Account) : Prop := ¬(NamesVariant b.password ∧ IsFullHash b.password)

theorem Account.isForeign_of_not_namesVariant {b : Account} (h : ¬NamesVariant b.password) :
    b.IsForeign := fun hfull => h hfull.1

theorem Account.IsForeign.not_verify {b : Account} (h : b.IsForeign) (supplied : String) :
    Scheme.argon2.verify b.password supplied = false := by
  rw [← Bool.not_eq_true]
  intro hverify
  have hfull : IsFullHash b.password := Hashed.isFullHash_of_verify hverify
  exact h ⟨namesVariant_of_isFullHash hfull, hfull⟩

theorem Credentials.exists_attempt_named {rules : Rules} {x : Credentials}
    (complete : ¬x.Lacks rules) :
    ∃ a, x.validate rules = .ok a ∧ x.username = some a.username := by
  obtain ⟨a, ha⟩ := Credentials.exists_attempt complete
  obtain ⟨husername, -⟩ := (Credentials.validate_eq_ok_iff rules x a).mp ha
  exact ⟨a, ha, ((given_eq_some_iff _ _).mp husername).1⟩

/-- Whatever kind of store it is, a login that finds foreign rows only is refused. -/
theorem login_of_foreign {σ : Type} [Store σ] {s : σ} {roles : RolePolicy} {x : Credentials}
    (complete : ¬x.Lacks ⟨roles, .argon2⟩) {u : String} (hu : x.username = some u)
    {rows : List Account} (found : (Store.find u s).value = .ok rows)
    (foreign : ∀ b ∈ rows, b.IsForeign) :
    (login ⟨roles, .argon2⟩ x s).value = .error .invalidCredentials := by
  obtain ⟨a, ha, husername⟩ := Credentials.exists_attempt_named complete
  have hsame : u = a.username := Option.some.inj (hu.symm.trans husername)
  have hno : rows.any (a.matches .argon2) = false := by
    rw [List.any_eq_false]
    intro b hb
    rw [Attempt.matches_eq_true_iff, (foreign b hb).not_verify]
    simp
  rw [login_of_valid _ s ha, ← hsame, found, Attempt.verdict]
  simp only [hno, Bool.false_eq_true, if_false]

theorem login_of_foreign_table {t : Table} {roles : RolePolicy} {x : Credentials}
    (complete : ¬x.Lacks ⟨roles, .argon2⟩)
    (foreign : ∀ b ∈ t.rows, x.username = some b.username → b.IsForeign) :
    (login ⟨roles, .argon2⟩ x t).value =
      .error (if t.available then .invalidCredentials else .store Table.unavailable) := by
  obtain ⟨a, ha, hu⟩ := Credentials.exists_attempt_named complete
  cases up : t.available with
  | true =>
    have found := congrArg Reply.value (Table.find_of_available up a.username)
    refine login_of_foreign complete hu found ?_
    intro b hb
    simp only [List.mem_filter, beq_iff_eq] at hb
    exact foreign b hb.1 (by rw [hu, hb.2])
  | false =>
    have hfind : (Store.find a.username t).value = .error Table.unavailable := by
      show t.find a.username = _
      rw [Table.find, up]
      rfl
    rw [login_of_valid _ t ha, hfind]
    rfl

/-- **Under the hashing scheme only full hash strings verify.** A stored text that verifies any
password begins with one of the three variants, and after it come a salt and a hash in full, with at
most a version and parameters before them.

So a login with all required fields that finds only rows left by another scheme is refused, whatever
password is sent, even the stored text itself, over HTTP by the status 401. That holds over every
kind of store whose look-up succeeds. Over a table the look-up fails only if the table is not
available; then the status is 500. -/
theorem verifies_full_hashes_only :
    (∀ stored supplied, Scheme.argon2.verify stored supplied = true →
      NamesVariant stored ∧ IsFullHash stored) ∧
    (∀ {σ : Type} [Store σ] (s : σ) (roles : RolePolicy) (salt : Salt) (c : Call) (x : Credentials)
      (u : String) (rows : List Account), c.LogsIn x → ¬x.Lacks ⟨roles, .argon2⟩ →
        x.username = some u → (Store.find u s).value = .ok rows → (∀ b ∈ rows, b.IsForeign) →
          (c.run ⟨roles, .argon2⟩ salt s).value =
              c.shown loginAnswer (.error .invalidCredentials) ∧
            ∀ request, c = .http request →
              (c.run ⟨roles, .argon2⟩ salt s).value.status? = some 401) ∧
    ∀ (t : Table) (roles : RolePolicy) (salt : Salt) (c : Call) (x : Credentials), c.LogsIn x →
      ¬x.Lacks ⟨roles, .argon2⟩ → (∀ b ∈ t.rows, x.username = some b.username → b.IsForeign) →
        (c.run ⟨roles, .argon2⟩ salt t).value = c.shown loginAnswer
            (.error (if t.available then .invalidCredentials else .store Table.unavailable)) ∧
          ∀ request, c = .http request →
            (c.run ⟨roles, .argon2⟩ salt t).value.status? =
              some (if t.available then 401 else 500) := by
  refine ⟨?_, ?_, ?_⟩
  · intro stored supplied hverify
    have hfull : IsFullHash stored := Hashed.isFullHash_of_verify hverify
    exact ⟨namesVariant_of_isFullHash hfull, hfull⟩
  · intro σ _ s roles salt c x u rows logs complete hu found foreign
    rw [run_of_login _ salt s ((c.task_eq_login_iff x).mpr logs), Call.deliver,
      login_of_foreign complete hu found foreign]
    refine ⟨rfl, ?_⟩
    rintro request rfl
    rw [status?_shown]
    rfl
  · intro t roles salt c x logs complete foreign
    rw [run_of_logsIn logs, Call.deliver, login_of_foreign_table complete foreign]
    refine ⟨rfl, ?_⟩
    rintro request rfl
    rw [status?_shown]
    cases t.available <;> rfl

/-- Ann's password is kept as it was sent, and hashing begins only now. It lets her in no more, over
a table and over the rows that a server gives. Sealed anew it is a full hash string. -/
theorem verifies_full_hashes_only_ann :
    let rules : Rules := ⟨.optional, .argon2⟩
    let ann : Account := ⟨"ann", "a@x.org", "pw", none⟩
    let asks : Call := .http ⟨"GET", .parse "/login?name=ann&password=pw", [], []⟩
    let t : Table := ⟨[ann], true⟩
    let pool : Database.Pool := .opened { Database.Peer.idle with rows := fun _ => [ann] }
    (asks.run rules (.ofNat 1) t).value = .response (dressed "GET" Api.invalidCredentials) ∧
      (asks.run rules (.ofNat 1) pool).value = .response (dressed "GET" Api.invalidCredentials) ∧
      ∃ stored, Scheme.argon2.sealed (.ofNat 1) "pw" = .ok stored ∧ IsFullHash stored := by
  intro rules ann asks t pool
  have logs : asks.LogsIn ⟨some "ann", some "pw", none⟩ :=
    ⟨rfl, .inl ⟨List.mem_cons_self, by decide +kernel⟩⟩
  have complete : ¬Credentials.Lacks rules ⟨some "ann", some "pw", none⟩ := by
    rintro (h | h | ⟨h, -⟩)
    · exact absurd h (by decide)
    · exact absurd h (by decide)
    · cases h
  have foreign : ∀ b ∈ [ann], b.IsForeign := by
    intro b hb
    rw [List.mem_singleton.mp hb]
    exact Account.isForeign_of_not_namesVariant (by decide)
  obtain ⟨hfull, hstore, htable⟩ := verifies_full_hashes_only
  refine ⟨?_, ?_, ?_⟩
  · exact (htable t .optional (.ofNat 1) asks _ logs complete fun b hb _ => foreign b hb).1
  · exact (hstore pool .optional (.ofNat 1) asks _ "ann" [ann] logs complete rfl rfl foreign).1
  · have short : (Text.Utf8.encode "pw").length < Hashed.tooLong := by decide
    have hsealed : Scheme.argon2.sealed (.ofNat 1) "pw" = .ok _ := Hashed.sealed_of_short short
    exact ⟨_, hsealed, (hfull _ "pw" (Scheme.verify_of_sealed hsealed)).2⟩

end Registrar
