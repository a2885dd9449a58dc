import Registrar.Password.Scheme

/-! # Hash strings are read back

Whatever is written as a password hash string is read back as the parts that it was made of. So a
candidate is verified against a sealed password exactly if its hash under the same salt is the same.

* `Phc.WellFormed`: the parts keep the limits of the format.
* `takeVersion_of_version`, …: one field at the front, whatever follows it.
* `parse?_render`: a well-formed hash string is read back.
* `Hashed.verify_of_sealed_iff`: who is verified against a sealed password.
* `Scheme.verify_of_sealed`: the password itself is, under either scheme.
-/

namespace Registrar.Password
open Text Argon2
set_option autoImplicit false

/-! ## Texts in base64 -/

theorem isValueChar_symbol (n : Nat) : Phc.isValueChar (Base64.symbol n) = true := by
  by_cases h : n < 64
  · have all : ∀ m : Fin 64, Phc.isValueChar (Base64.symbol m) = true := by decide
    exact all ⟨n, h⟩
  · have hlast : Base64.symbol n = '/' := by
      unfold Base64.symbol
      rw [if_neg (by omega), if_neg (by omega), if_neg (by omega), if_neg (by omega)]
    rw [hlast]
    rfl

theorem all_isValueChar_encode (bs : List UInt8) :
    (Base64.encode bs).all Phc.isValueChar = true := by
  fun_induction Base64.encode bs with
  | case1 a b c r n ih => simp [isValueChar_symbol, ih]
  | case2 a b n => simp [isValueChar_symbol]
  | case3 a n => simp [isValueChar_symbol]
  | case4 => rfl

theorem length_encode (bs : List UInt8) : (Base64.encode bs).length = (4 * bs.length + 2) / 3 := by
  fun_induction Base64.encode bs with
  | case1 a b c r n ih =>
    simp only [List.length_cons, ih]
    omega
  | case2 a b n => simp
  | case3 a n => simp
  | case4 => rfl

namespace Phc

/-! ## Separators -/

theorem isValueChar_of_isNameChar {c : Char} (h : isNameChar c = true) : isValueChar c = true := by
  simp only [isNameChar, Bool.or_eq_true] at h
  rcases h with (h | h) | h <;> simp [isValueChar, h]

theorem isValueChar_of_isDigit {c : Char} (h : Numeral.isDigit c = true) :
    isValueChar c = true := by
  simp [isValueChar, h]

theorem notMem_of_all {cs : List Char} (h : cs.all isValueChar = true) {c : Char}
    (hc : isValueChar c = false) : c ∉ cs := by
  intro hm
  rw [List.all_eq_true.mp h c hm] at hc
  cases hc

theorem all_of_isName {cs : List Char} (h : isName cs = true) : cs.all isValueChar = true := by
  simp only [isName, Bool.and_eq_true] at h
  exact List.all_eq_true.mpr fun c hc =>
    isValueChar_of_isNameChar (List.all_eq_true.mp h.2 c hc)

theorem all_of_isValue {cs : List Char} (h : isValue cs = true) : cs.all isValueChar = true := by
  simp only [isValue, Bool.and_eq_true] at h
  exact h.2

theorem all_of_isSalt {cs : List Char} (h : isSalt cs = true) : cs.all isValueChar = true := by
  simp only [isSalt, Bool.and_eq_true] at h
  exact h.2

theorem all_digits (n : Nat) : (Numeral.digits n).all isValueChar = true :=
  List.all_eq_true.mpr fun c hc =>
    isValueChar_of_isDigit (List.all_eq_true.mp (Numeral.all_isDigit_digits n) c hc)

theorem intercalate_cons {α : Type} (c : α) (f : List α) (fs : List (List α)) :
    [c].intercalate (f :: fs) = f ++ fs.flatMap fun g => c :: g := by
  induction fs generalizing f with
  | nil => simp
  | cons g fs ih => simp [ih]

/-! ## Well-formed parts -/

def parameterText (p : List Char × List Char) : List Char := p.1 ++ '=' :: p.2

def parametersText (ps : List (List Char × List Char)) : List Char :=
  [','].intercalate (ps.map parameterText)

/-- The parts keep the limits of the format, and no later part stands without the salt. -/
structure WellFormed (h : Phc) : Prop where
  algorithm : isName h.algorithm = true
  version : ∀ n ∈ h.version, n ≤ largest
  parameters : ∀ p ∈ h.parameters, isName p.1 = true ∧ isValue p.2 = true
  short : (parametersText h.parameters).length ≤ 127
  salt : ∀ s ∈ h.salt, isSalt s = true
  hash : ∀ bs ∈ h.hash, 10 ≤ bs.length ∧ bs.length ≤ 64
  salted : h.salt = none → h.hash = none
  /-- Without a version a parameter at the front must not look like one. -/
  unversioned : h.version = none → ∀ p ∈ h.parameters.head?, p.1 ≠ ['v']

/-! ## One field at the front -/

theorem number?_digits {n : Nat} (h : n ≤ largest) : number? (Numeral.digits n) = some n := by
  have hlength : (Numeral.digits n).length ≤ 10 := by
    refine (Nat.length_toDigits_le_iff (by decide) (by decide)).mpr ?_
    unfold largest at h
    omega
  have hvalue : isValue (Numeral.digits n) = true := by
    simp only [isValue, all_digits, Bool.and_true, decide_eq_true_eq]
    omega
  rw [number?, if_pos hvalue, Numeral.canonical?_digits h]

theorem takeVersion_of_version {n : Nat} (h : n ≤ largest) (fields : List (List Char)) :
    takeVersion (('v' :: '=' :: Numeral.digits n) :: fields) = some (some n, fields) := by
  have hcomma : ',' ∉ Numeral.digits n := notMem_of_all (all_digits n) (by decide)
  simp only [takeVersion, hcomma, if_false, number?_digits h, Option.map_some]

theorem takeVersion_of_no_version {fields : List (List Char)}
    (h : ∀ f ∈ fields.head?, ∀ cs, f ≠ 'v' :: '=' :: cs) :
    takeVersion fields = some (none, fields) := by
  unfold takeVersion
  split
  · rename_i cs rest
    exact absurd rfl (h _ rfl cs)
  · rfl

theorem parameter?_parameterText {p : List Char × List Char} (hname : isName p.1 = true)
    (hvalue : isValue p.2 = true) : parameter? (parameterText p) = some p := by
  have hsplit : (parameterText p).splitOn '=' = [p.1, p.2] := by
    have hjoin : parameterText p = ['='].intercalate [p.1, p.2] := by
      rw [intercalate_cons]
      simp [parameterText]
    rw [hjoin]
    refine List.splitOn_intercalate '=' ?_ (List.cons_ne_nil _ _)
    intro f hf
    simp only [List.mem_cons, List.not_mem_nil, or_false] at hf
    rcases hf with rfl | rfl
    · exact notMem_of_all (all_of_isName hname) (by decide)
    · exact notMem_of_all (all_of_isValue hvalue) (by decide)
  simp only [parameter?, hsplit, hname, hvalue, Bool.and_self, if_true]

/-- Of the characters that no name and no value has, only the equals sign is in a parameter. -/
theorem notMem_parameterText {p : List Char × List Char} (hname : isName p.1 = true)
    (hvalue : isValue p.2 = true) {c : Char} (hc : isValueChar c = false) (hequals : c ≠ '=') :
    c ∉ parameterText p := by
  unfold parameterText
  rw [List.mem_append, List.mem_cons, not_or, not_or]
  exact ⟨notMem_of_all (all_of_isName hname) hc, hequals, notMem_of_all (all_of_isValue hvalue) hc⟩

theorem dollar_notMem_parametersText {ps : List (List Char × List Char)}
    (h : ∀ p ∈ ps, isName p.1 = true ∧ isValue p.2 = true) : '$' ∉ parametersText ps := by
  have hone : ∀ p ∈ ps, '$' ∉ parameterText p := fun p hp =>
    notMem_parameterText (h p hp).1 (h p hp).2 (by decide) (by decide)
  cases ps with
  | nil => simp [parametersText]
  | cons p ps =>
    rw [parametersText, List.map_cons, intercalate_cons, List.mem_append, not_or]
    refine ⟨hone p List.mem_cons_self, ?_⟩
    simp only [List.mem_flatMap, List.mem_map, List.mem_cons]
    rintro ⟨f, ⟨q, hq, rfl⟩, hcomma | hm⟩
    · exact absurd hcomma (by decide)
    · exact hone q (List.mem_cons_of_mem _ hq) hm

theorem parameters?_parametersText {ps : List (List Char × List Char)} (hne : ps ≠ [])
    (h : ∀ p ∈ ps, isName p.1 = true ∧ isValue p.2 = true)
    (short : (parametersText ps).length ≤ 127) : parameters? (parametersText ps) = some ps := by
  have hsplit : (parametersText ps).splitOn ',' = ps.map parameterText := by
    refine List.splitOn_intercalate ',' ?_ (by simpa using hne)
    intro f hf
    obtain ⟨p, hp, rfl⟩ := List.mem_map.mp hf
    exact notMem_parameterText (h p hp).1 (h p hp).2 (by decide) (by decide)
  have hmap : ∀ qs : List (List Char × List Char),
      (∀ p ∈ qs, isName p.1 = true ∧ isValue p.2 = true) →
        (qs.map parameterText).mapM parameter? = some qs := by
    intro qs hqs
    induction qs with
    | nil => rfl
    | cons q qs ih =>
      have hq := hqs q List.mem_cons_self
      rw [List.map_cons, List.mapM_cons, parameter?_parameterText hq.1 hq.2,
        ih fun p hp => hqs p (List.mem_cons_of_mem _ hp)]
      rfl
  rw [parameters?, if_pos short, hsplit, hmap ps h]

theorem takeParameters_of_parameters {ps : List (List Char × List Char)} (hne : ps ≠ [])
    (h : ∀ p ∈ ps, isName p.1 = true ∧ isValue p.2 = true)
    (short : (parametersText ps).length ≤ 127) (fields : List (List Char)) :
    takeParameters (parametersText ps :: fields) = some (ps, fields) := by
  have hequals : '=' ∈ parametersText ps := by
    obtain ⟨p, qs, rfl⟩ := List.exists_cons_of_ne_nil hne
    rw [parametersText, List.map_cons, intercalate_cons, parameterText]
    simp
  simp only [takeParameters, hequals, if_true, parameters?_parametersText hne h short,
    Option.map_some]

theorem takeParameters_of_no_parameters {fields : List (List Char)}
    (h : ∀ f ∈ fields.head?, '=' ∉ f) : takeParameters fields = some ([], fields) := by
  cases fields with
  | nil => rfl
  | cons f fields => simp only [takeParameters, h f rfl, if_false]

/-! ## All fields -/

section
variable {h : Phc} (wf : h.WellFormed)
include wf

/-- The fields from the salt on, in which no equals sign stands. -/
def saltAndHash (h : Phc) : List (List Char) := h.salt.toList ++ (h.hash.map Base64.encode).toList

def parameterField (h : Phc) : List (List Char) :=
  if h.parameters = [] then [] else [parametersText h.parameters]

omit wf in
theorem fields_eq (h : Phc) :
    h.fields = (h.version.map fun n => 'v' :: '=' :: Numeral.digits n).toList ++
      (h.parameterField ++ h.saltAndHash) := by
  simp only [fields, parameterField, saltAndHash, List.append_assoc]
  rfl

theorem all_of_mem_saltAndHash {f : List Char} (hf : f ∈ h.saltAndHash) :
    f.all isValueChar = true := by
  rw [saltAndHash, List.mem_append, Option.mem_toList, Option.mem_toList,
    Option.map_eq_some_iff] at hf
  rcases hf with hf | ⟨bs, -, rfl⟩
  · exact all_of_isSalt (wf.salt f hf)
  · exact all_isValueChar_encode bs

theorem takeParameters_fields :
    takeParameters (h.parameterField ++ h.saltAndHash) = some (h.parameters, h.saltAndHash) := by
  by_cases hnone : h.parameters = []
  · rw [parameterField, if_pos hnone, List.nil_append, hnone]
    refine takeParameters_of_no_parameters fun f hf => ?_
    exact notMem_of_all (all_of_mem_saltAndHash wf (List.mem_of_mem_head? hf)) (by decide)
  · rw [parameterField, if_neg hnone]
    exact takeParameters_of_parameters hnone wf.parameters wf.short h.saltAndHash

theorem not_version_of_head {f : List Char} (hversion : h.version = none)
    (hf : f ∈ (h.parameterField ++ h.saltAndHash).head?) (cs : List Char) :
    f ≠ 'v' :: '=' :: cs := by
  rintro rfl
  by_cases hnone : h.parameters = []
  · rw [parameterField, if_pos hnone, List.nil_append] at hf
    have hall := all_of_mem_saltAndHash wf (List.mem_of_mem_head? hf)
    exact notMem_of_all hall (c := '=') (by decide) (by simp)
  · obtain ⟨p, ps, hps⟩ := List.exists_cons_of_ne_nil hnone
    have hp : p ∈ h.parameters := by rw [hps]; exact List.mem_cons_self
    have hequals : '=' ∉ p.1 := notMem_of_all (all_of_isName (wf.parameters p hp).1) (by decide)
    have hfirst : p.1 ≠ ['v'] := wf.unversioned hversion p (by rw [hps]; rfl)
    rw [parameterField, if_neg hnone, List.singleton_append, List.head?_cons, Option.mem_def,
      Option.some.injEq, hps, parametersText, List.map_cons, intercalate_cons, parameterText] at hf
    cases hname : p.1 with
    | nil => simp [hname] at hf
    | cons c name =>
      rw [hname] at hf hequals hfirst
      cases name with
      | nil => simp_all
      | cons d name => simp_all

theorem takeVersion_fields :
    takeVersion h.fields = some (h.version, h.parameterField ++ h.saltAndHash) := by
  rw [fields_eq]
  cases hversion : h.version with
  | none => exact takeVersion_of_no_version fun f hf => not_version_of_head wf hversion hf
  | some n => exact takeVersion_of_version (wf.version n hversion) _

theorem takeSalt_saltAndHash :
    takeSalt h.saltAndHash = some (h.salt, (h.hash.map Base64.encode).toList) := by
  cases hsalt : h.salt with
  | none => simp [saltAndHash, hsalt, wf.salted hsalt, takeSalt]
  | some s => simp [saltAndHash, hsalt, takeSalt, wf.salt s hsalt]

theorem takeHash_hash : takeHash (h.hash.map Base64.encode).toList = some (h.hash, []) := by
  cases hhash : h.hash with
  | none => rfl
  | some bs =>
    obtain ⟨hlow, hhigh⟩ := wf.hash bs hhash
    have hread : hash? (Base64.encode bs) = some bs := by
      simp [hash?, Base64.decode?_encode, Option.filter, hlow, hhigh]
    rw [Option.map_some, Option.toList_some, takeHash, hread]
    rfl

theorem dollar_notMem_fields {f : List Char} (hf : f ∈ h.fields) : '$' ∉ f := by
  rw [fields_eq, List.mem_append, List.mem_append, Option.mem_toList,
    Option.map_eq_some_iff] at hf
  rcases hf with ⟨n, -, rfl⟩ | hf | hf
  · simp [notMem_of_all (all_digits n) (c := '$') (by decide)]
  · rw [parameterField] at hf
    split at hf
    · cases hf
    · rw [List.mem_singleton] at hf
      rw [hf]
      exact dollar_notMem_parametersText wf.parameters
  · exact notMem_of_all (all_of_mem_saltAndHash wf hf) (by decide)

theorem splitOn_render : h.render.toList.splitOn '$' = [] :: h.algorithm :: h.fields := by
  have hrender : h.render.toList = ['$'].intercalate ([] :: h.algorithm :: h.fields) := by
    rw [intercalate_cons, List.nil_append, render, String.toList_ofList]
  rw [hrender]
  refine List.splitOn_intercalate '$' ?_ (List.cons_ne_nil _ _)
  intro f hf
  rcases List.mem_cons.mp hf with rfl | hf
  · exact List.not_mem_nil
  rcases List.mem_cons.mp hf with rfl | hf
  · exact notMem_of_all (all_of_isName wf.algorithm) (by decide)
  · exact dollar_notMem_fields wf hf

/-- A well-formed hash string is read back as its parts. -/
theorem parse?_render : parse? h.render = some h := by
  rw [parse?, splitOn_render wf]
  simp only [wf.algorithm, if_true, ofFields, takeVersion_fields wf, takeParameters_fields wf,
    takeSalt_saltAndHash wf, takeHash_hash wf, Option.bind_eq_bind, Option.bind_some]

end

end Phc

/-! ## Sealed passwords -/

namespace Hashed

def standardParameters : List (List Char × List Char) :=
  [("m".toList, Numeral.digits Cost.standard.memory),
   ("t".toList, Numeral.digits Cost.standard.passes),
   ("p".toList, Numeral.digits Cost.standard.lanes)]

theorem parameters_standardPhc (salt : Salt) (hash : List UInt8) :
    (standardPhc salt hash).parameters = standardParameters := rfl

theorem wellFormed_standardPhc (salt : Salt) {hash : List UInt8} (size : hash.length = 32) :
    (standardPhc salt hash).WellFormed where
  algorithm := (by decide : Phc.isName Variant.hybrid.name.toList = true)
  version := by
    intro n hn
    cases hn
    decide
  parameters := by
    rw [parameters_standardPhc]
    decide
  short := by
    rw [parameters_standardPhc]
    decide
  salt := by
    intro s hs
    cases hs
    have hlength : (Base64.encode salt.bytes).length = 22 := by rw [length_encode, salt.size]
    simp [Phc.isSalt, hlength, all_isValueChar_encode]
  hash := by
    intro bs hbs
    cases hbs
    omega
  salted := by
    intro h
    cases h
  unversioned := by
    intro h
    cases h

/-- A candidate is hashed as the password was, under the same salt and at the same cost. -/
theorem job?_standardPhc (salt : Salt) {hash : List UInt8} (size : hash.length = 32)
    (supplied : String) :
    job? (standardPhc salt hash) supplied =
      if (Utf8.encode supplied).length < tooLong then some (standardJob salt supplied, hash)
      else none := by
  have hvariant :
      Variant.ofName? (String.ofList (standardPhc salt hash).algorithm) = some .hybrid := by
    have hname : (standardPhc salt hash).algorithm = Variant.hybrid.name.toList := rfl
    rw [hname, String.ofList_toList]
    rfl
  have htuning : tuning? (standardPhc salt hash).parameters = some ⟨.standard, []⟩ := by
    rw [parameters_standardPhc]
    rfl
  have hversion : version? (standardPhc salt hash).version = some .v19 := rfl
  have hsalt : (standardPhc salt hash).salt = some (Base64.encode salt.bytes) := rfl
  have hhash : (standardPhc salt hash).hash = some hash := rfl
  have hallowed : Cost.standard.allowed = true := rfl
  simp only [job?, hsalt, hhash, hvariant, hversion, htuning, Base64.decode?_encode,
    Option.bind_eq_bind, Option.bind_some, hallowed, salt.size, size, standardJob]
  simp

theorem verify_of_sealed_iff {salt : Salt} {password stored : String}
    (h : sealed salt password = .ok stored) (supplied : String) :
    verify stored supplied = true ↔
      (Utf8.encode supplied).length < tooLong ∧
        (standardJob salt supplied).tag = (standardJob salt password).tag := by
  have size : (standardJob salt password).tag.length = 32 := Job.length_tag _
  unfold sealed at h
  split at h
  case isFalse => cases h
  case isTrue =>
    cases h
    rw [verify, Phc.parse?_render (wellFormed_standardPhc salt size), Option.bind_some,
      job?_standardPhc salt size]
    by_cases short : (Utf8.encode supplied).length < tooLong <;> simp [short]

end Hashed

theorem Scheme.verify_of_sealed {scheme : Scheme} {salt : Salt} {password stored : String}
    (h : scheme.sealed salt password = .ok stored) : scheme.verify stored password = true := by
  cases scheme with
  | plaintext =>
    cases h
    exact beq_self_eq_true password
  | argon2 =>
    refine (Hashed.verify_of_sealed_iff h password).mpr ⟨?_, rfl⟩
    refine Decidable.byContradiction fun long => ?_
    rw [Scheme.sealed, Hashed.sealed, if_neg long] at h
    cases h

end Registrar.Password
