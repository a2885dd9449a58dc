import Mathlib.Data.List.Forall2
import Registrar.Proofs.Trimming
import Registrar.Settings

/-! # Keywords among the settings

A switch, a role policy and a password scheme are each given by one of a few words. Blank characters
around the word and the case of its ASCII letters do not matter; everything else does.

* `SameLetter`: the same character, or one ASCII letter in both cases.
* `lower_eq_iff`: two texts are the same in lower case exactly if they are letter by letter.
* `trim_lower`: letters change case inside the core.
* `RecognizesWords`: a reader accepts the words of its values, in any case and between blanks.
* `settings_recognize_words`: the three readers do.
-/

namespace Registrar
open Text
set_option autoImplicit false

namespace Text

/-! ## The case of ASCII letters -/

def IsCapital (c : Char) : Prop := 'A' ≤ c ∧ c ≤ 'Z'

/-- The same character, or the same ASCII letter in the other case. -/
inductive SameLetter : Char → Char → Prop where
  | same (c : Char) : SameLetter c c
  | lowered {c d : Char} (capital : IsCapital c) (shift : d.toNat = c.toNat + 32) : SameLetter c d
  | raised {c d : Char} (capital : IsCapital d) (shift : c.toNat = d.toNat + 32) : SameLetter c d

theorem isCapital_iff (c : Char) : IsCapital c ↔ 65 ≤ c.toNat ∧ c.toNat ≤ 90 := Iff.rfl

theorem toNat_lowerChar_of_capital {c : Char} (h : IsCapital c) :
    (lowerChar c).toNat = c.toNat + 32 := by
  have hc := (isCapital_iff c).mp h
  have hvalid : (c.toNat + 32).isValidChar := by
    left
    omega
  have hlower : lowerChar c = Char.ofNat (c.toNat + 32) := if_pos h
  rw [hlower, Char.ofNat, dif_pos hvalid]
  rfl

theorem lowerChar_of_not_capital {c : Char} (h : ¬IsCapital c) : lowerChar c = c := if_neg h

theorem sameLetter_iff (c d : Char) : SameLetter c d ↔ lowerChar c = lowerChar d := by
  constructor
  · intro h
    cases h with
    | same => rfl
    | lowered capital shift =>
      have hc := (isCapital_iff c).mp capital
      have hd : ¬IsCapital d := by
        rw [isCapital_iff]
        omega
      apply Char.toNat_inj.mp
      rw [toNat_lowerChar_of_capital capital, lowerChar_of_not_capital hd, shift]
    | raised capital shift =>
      have hd := (isCapital_iff d).mp capital
      have hc : ¬IsCapital c := by
        rw [isCapital_iff]
        omega
      apply Char.toNat_inj.mp
      rw [toNat_lowerChar_of_capital capital, lowerChar_of_not_capital hc, shift]
  · intro h
    have hnat : (lowerChar c).toNat = (lowerChar d).toNat := by rw [h]
    by_cases hc : IsCapital c
    · by_cases hd : IsCapital d
      · rw [toNat_lowerChar_of_capital hc, toNat_lowerChar_of_capital hd] at hnat
        have hsame : c = d := Char.toNat_inj.mp (by omega)
        rw [hsame]
        exact .same d
      · rw [toNat_lowerChar_of_capital hc, lowerChar_of_not_capital hd] at hnat
        exact .lowered hc hnat.symm
    · by_cases hd : IsCapital d
      · rw [lowerChar_of_not_capital hc, toNat_lowerChar_of_capital hd] at hnat
        exact .raised hd hnat
      · rw [lowerChar_of_not_capital hc, lowerChar_of_not_capital hd] at h
        rw [h]
        exact .same d

/-- Two texts are the same in lower case exactly if they are letter by letter. -/
theorem lower_eq_iff (cs ds : List Char) :
    lower cs = lower ds ↔ List.Forall₂ SameLetter cs ds := by
  have hsame : SameLetter = fun c d => lowerChar c = lowerChar d := by
    funext c d
    exact propext (sameLetter_iff c d)
  rw [lower, lower, ← List.forall₂_eq_eq_eq, List.forall₂_map_left_iff, List.forall₂_map_right_iff,
    hsame]

/-! ## Blank characters and letters -/

theorem isBlank_lowerChar (c : Char) : isBlank (lowerChar c) = isBlank c := by
  by_cases hc : IsCapital c
  · have hrange := (isCapital_iff c).mp hc
    have hink : ∀ d : Char, 65 ≤ d.toNat → d.toNat ≤ 122 → isBlank d = false := by
      intro d hlow hhigh
      simp only [isBlank, Bool.or_eq_false_iff, Bool.and_eq_false_iff, decide_eq_false_iff_not,
        beq_eq_false_iff_ne]
      omega
    have hlower := toNat_lowerChar_of_capital hc
    rw [hink c (by omega) (by omega), hink (lowerChar c) (by omega) (by omega)]
  · rw [lowerChar_of_not_capital hc]

/-- Letters change case inside the core. -/
theorem trim_lower (cs : List Char) : trim (lower cs) = lower (trim cs) :=
  trim_map isBlank_lowerChar cs

theorem isAscii_of_lowerChar {c : Char} (h : (lowerChar c).toNat < 128) : c.toNat < 128 := by
  by_cases hc : IsCapital c
  · have hrange := (isCapital_iff c).mp hc
    omega
  · rwa [lowerChar_of_not_capital hc] at h

/-! ## Keywords -/

theorem keyword_padded {front back : String} (hfront : ∀ c ∈ front.toList, isBlank c = true)
    (hback : ∀ c ∈ back.toList, isBlank c = true) (s : String) :
    keyword (front ++ s ++ back) = keyword s := by
  rw [keyword, String.toList_append, String.toList_append, trim_padded hfront hback]
  rfl

theorem keyword_of_sameLetters {s t : String} (h : List.Forall₂ SameLetter s.toList t.toList) :
    keyword s = keyword t := by
  rw [keyword, keyword, ← trim_lower, ← trim_lower, (lower_eq_iff _ _).mpr h]

/-- A word that is its own lower case, made of ASCII characters that are not blank. -/
def IsWord (w : String) : Prop :=
  ∀ c ∈ w.toList, lowerChar c = c ∧ c.toNat < 128 ∧ isBlank c = false

instance (w : String) : Decidable (IsWord w) :=
  List.decidableBAll (fun c => lowerChar c = c ∧ c.toNat < 128 ∧ isBlank c = false) w.toList

theorem lower_of_isWord {w : String} (h : IsWord w) : lower w.toList = w.toList := by
  have hid : w.toList.map lowerChar = w.toList.map id :=
    List.map_congr_left fun c hc => (h c hc).1
  rw [lower, hid, List.map_id]

/-- The core of a text is some word, letter by letter. -/
def Shows (s word : String) : Prop :=
  ∃ core, Trims s.toList core ∧ List.Forall₂ SameLetter core word.toList

theorem shows_iff {w : String} (h : IsWord w) (s : String) :
    Shows s w ↔ keyword s = w.toList := by
  have hlower := lower_of_isWord h
  constructor
  · rintro ⟨core, htrims, hsame⟩
    rw [keyword, trim_of_trims htrims, (lower_eq_iff _ _).mpr hsame, hlower]
  · intro hkeyword
    refine ⟨trim s.toList, trims_trim _, (lower_eq_iff _ _).mp ?_⟩
    rw [hlower]
    exact hkeyword

/-- A text that shows a word is as plain as the word. -/
theorem plain_of_shows {s w : String} (word : IsWord w) (h : Shows s w) {core : List Char}
    (htrims : Trims s.toList core) {c : Char} (hc : c ∈ core) :
    c.toNat < 128 ∧ isBlank c = false := by
  have hkeyword := (shows_iff word s).mp h
  have hmem : lowerChar c ∈ w.toList := by
    rw [← hkeyword, keyword, trim_of_trims htrims]
    exact List.mem_map_of_mem hc
  obtain ⟨-, hascii, hink⟩ := word _ hmem
  rw [isBlank_lowerChar] at hink
  exact ⟨isAscii_of_lowerChar hascii, hink⟩

end Text

/-! ## Readers of keywords -/

/-- A reader gives a value for the words of that value and for nothing else. It takes them with
blank characters at both ends and in any case, which has to be that of ASCII letters. -/
structure RecognizesWords {α : Type} (parse? : String → Option α) (words : α → List String) :
    Prop where
  accepts_iff : ∀ s a, parse? s = some a ↔ ∃ w ∈ words a, Shows s w
  padded : ∀ front s back : String, (∀ c ∈ front.toList, isBlank c = true) →
    (∀ c ∈ back.toList, isBlank c = true) → parse? (front ++ s ++ back) = parse? s
  recased : ∀ s t : String, List.Forall₂ SameLetter s.toList t.toList → parse? t = parse? s
  plain : ∀ s a, parse? s = some a → ∀ core, Trims s.toList core →
    ∀ c ∈ core, c.toNat < 128 ∧ isBlank c = false

theorem recognizesWords_of_keyword {α : Type} {parse? : String → Option α}
    {words : α → List String} (hwords : ∀ a, ∀ w ∈ words a, IsWord w)
    (hparse : ∀ s a, parse? s = some a ↔ ∃ w ∈ words a, keyword s = w.toList) :
    RecognizesWords parse? words := by
  have hsame : ∀ s t, keyword s = keyword t → parse? s = parse? t := by
    intro s t h
    apply Option.ext
    intro a
    rw [hparse, hparse, h]
  have haccepts : ∀ s a, parse? s = some a ↔ ∃ w ∈ words a, Shows s w := by
    intro s a
    rw [hparse]
    constructor
    · rintro ⟨w, hw, h⟩
      exact ⟨w, hw, (shows_iff (hwords a w hw) s).mpr h⟩
    · rintro ⟨w, hw, h⟩
      exact ⟨w, hw, (shows_iff (hwords a w hw) s).mp h⟩
  refine ⟨haccepts, ?_, ?_, ?_⟩
  · intro front s back hfront hback
    exact hsame _ _ (keyword_padded hfront hback s)
  · intro s t h
    exact (hsame _ _ (keyword_of_sameLetters h)).symm
  · intro s a h core htrims c hc
    obtain ⟨w, hw, hshows⟩ := (haccepts s a).mp h
    exact plain_of_shows (hwords a w hw) hshows htrims hc

/-! ## The three settings -/

def switchWords : Bool → List String
  | true => ["1", "true", "yes", "on"]
  | false => ["0", "false", "no", "off"]

def RolePolicy.words : RolePolicy → List String
  | .required => ["required"]
  | .optional => ["optional"]

def Password.Scheme.words : Password.Scheme → List String
  | .plaintext => ["plaintext", "plain"]
  | .argon2 => ["argon2", "argon2id"]

/-- Of two choices that exclude each other the first one does not hide the second. -/
theorem choice_eq_some_iff {α : Type} {p q : Prop} [Decidable p] [Decidable q] {a b c : α}
    (apart : p → ¬q) :
    (if p then some a else if q then some b else none) = some c ↔ p ∧ a = c ∨ q ∧ b = c := by
  by_cases hp : p
  · simp [hp, apart hp]
  · by_cases hq : q <;> simp [hp, hq]

/-- No text has the letters of two different words. -/
theorem apart_of_words {k : List Char} {ws ws' : List String} (apart : ∀ w ∈ ws, w ∉ ws') :
    (∃ w ∈ ws, k = w.toList) → ¬∃ w ∈ ws', k = w.toList := by
  rintro ⟨w, hw, rfl⟩ ⟨w', hw', h⟩
  have hsame : w = w' := String.toList_inj.mp h
  exact apart w hw (hsame ▸ hw')

theorem switch?_eq_some_iff (s : String) (b : Bool) :
    switch? s = some b ↔ ∃ w ∈ switchWords b, keyword s = w.toList := by
  have hmem (ws : List String) :
      keyword s ∈ ws.map String.toList ↔ ∃ w ∈ ws, keyword s = w.toList := by
    simp only [List.mem_map, eq_comm]
  have hpick := choice_eq_some_iff (a := true) (b := false) (c := b)
    (apart_of_words (k := keyword s) (show ∀ w ∈ switchWords true, w ∉ switchWords false by decide))
  simp only [switch?, hmem]
  refine hpick.trans ?_
  cases b <;> simp

theorem RolePolicy.parse?_eq_some_iff (s : String) (r : RolePolicy) :
    RolePolicy.parse? s = some r ↔ ∃ w ∈ r.words, keyword s = w.toList := by
  have hpick := choice_eq_some_iff (a := RolePolicy.required) (b := .optional) (c := r)
    (apart_of_words (k := keyword s)
      (show ∀ w ∈ RolePolicy.required.words, w ∉ RolePolicy.optional.words by decide))
  simp only [RolePolicy.words, List.mem_singleton, exists_eq_left] at hpick
  refine hpick.trans ?_
  cases r <;> simp [RolePolicy.words]

theorem Password.Scheme.parse?_eq_some_iff (s : String) (scheme : Password.Scheme) :
    Password.Scheme.parse? s = some scheme ↔ ∃ w ∈ scheme.words, keyword s = w.toList := by
  have hpick := choice_eq_some_iff (a := Password.Scheme.plaintext) (b := .argon2) (c := scheme)
    (apart_of_words (k := keyword s)
      (show ∀ w ∈ Password.Scheme.plaintext.words, w ∉ Password.Scheme.argon2.words by decide))
  simp only [Password.Scheme.words, List.mem_cons, List.not_mem_nil, or_false, or_and_right,
    exists_or, exists_eq_left] at hpick
  refine hpick.trans ?_
  cases scheme <;> simp [Password.Scheme.words]

/-- **Keywords of the settings.** A switch, a role policy and a password scheme are each recognised
by their words alone. White space around the word and the case of its ASCII letters do not matter;
no other character stands for a letter, and nothing blank may stand inside. -/
theorem settings_recognize_words :
    RecognizesWords switch? switchWords ∧ RecognizesWords RolePolicy.parse? RolePolicy.words ∧
      RecognizesWords Password.Scheme.parse? Password.Scheme.words := by
  refine ⟨recognizesWords_of_keyword ?_ switch?_eq_some_iff,
    recognizesWords_of_keyword ?_ RolePolicy.parse?_eq_some_iff,
    recognizesWords_of_keyword ?_ Password.Scheme.parse?_eq_some_iff⟩
  · intro b
    cases b <;> decide
  · intro r
    cases r <;> decide
  · intro scheme
    cases scheme <;> decide

/-- White space of any kind around a word and capitals in it are allowed; a long s or a dotless i
for a letter and a space inside are not. -/
theorem settings_recognize_words_foreign :
    switch? "\u2003YeS\u00A0" = some true ∧ switch? "ye\u017F" = none ∧
      RolePolicy.parse? "opt\u0131onal" = none ∧ Password.Scheme.parse? "plain text" = none := by
  obtain ⟨hswitch, hrole, hscheme⟩ := settings_recognize_words
  have hyes : switch? "yes" = some true :=
    (hswitch.accepts_iff "yes" true).mpr ⟨"yes", by decide, (shows_iff (by decide) _).mpr rfl⟩
  have hcase : List.Forall₂ SameLetter "yes".toList "YeS".toList :=
    .cons (.raised ⟨by decide, by decide⟩ rfl)
      (.cons (.same 'e') (.cons (.raised ⟨by decide, by decide⟩ rfl) .nil))
  refine ⟨?_, ?_, ?_, ?_⟩
  · have hfront : "\u2003".toList.all isBlank = true := by decide
    have hback : "\u00A0".toList.all isBlank = true := by decide
    have hpadded :=
      hswitch.padded _ "YeS" _ (List.all_eq_true.mp hfront) (List.all_eq_true.mp hback)
    rw [hswitch.recased "yes" "YeS" hcase, hyes] at hpadded
    exact hpadded
  · rw [Option.eq_none_iff_forall_ne_some]
    intro b h
    have hplain := hswitch.plain _ b h _ (trims_trim _) '\u017F' (by decide)
    exact absurd hplain.1 (by decide)
  · rw [Option.eq_none_iff_forall_ne_some]
    intro r h
    have hplain := hrole.plain _ r h _ (trims_trim _) '\u0131' (by decide)
    exact absurd hplain.1 (by decide)
  · rw [Option.eq_none_iff_forall_ne_some]
    intro scheme h
    have hplain := hscheme.plain _ scheme h _ (trims_trim _) ' ' (by decide)
    exact absurd hplain.2 (by decide)

end Registrar
