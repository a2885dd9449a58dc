import Registrar.Json.Reader
import Registrar.Proofs.JsonScan

/-! # JSON texts as a grammar

* `Spells`: the bytes of a value, of a value with blanks around it, of the items of an array and of
  the members of an object.
* `Reading`: what the bytes so far are in each state of the reading machine; `reading_next`.
* `spells_of_parse?`, `parse?_of_spells`: a byte sequence is read as a value exactly if it spells
  that value.
-/

namespace Registrar.Json
open Text
open Text.Utf8 (Bytes)
set_option autoImplicit false

/-! ## The grammar -/

/-- What can be spelled; a text is a value with blanks around it. -/
inductive Phrase where
  | value (v : Value)
  | text (v : Value)
  | items (vs : List Value)
  | member (m : Written × Value)
  | members (ms : List (Written × Value))

inductive Spells : Phrase → Bytes → Prop where
  | atom {v : Value} {bs : Bytes} (lexeme : Lexeme (.atom v) bs) : Spells (.value v) bs
  | string {t : Written} {bs : Bytes} (lexeme : Lexeme (.text t) bs) :
      Spells (.value (.string t)) bs
  | array {vs : List Value} {bs : Bytes} (items : Spells (.items vs) bs) :
      Spells (.value (.array vs)) (0x5B :: (bs ++ [0x5D]))
  | object {ms : List (Written × Value)} {bs : Bytes} (members : Spells (.members ms) bs) :
      Spells (.value (.object ms)) (0x7B :: (bs ++ [0x7D]))
  | text {v : Value} {a bs b : Bytes} (before : Blank a) (value : Spells (.value v) bs)
      (after : Blank b) : Spells (.text v) (a ++ bs ++ b)
  | noItems {w : Bytes} (blank : Blank w) : Spells (.items []) w
  | lastItem {v : Value} {bs : Bytes} (item : Spells (.text v) bs) : Spells (.items [v]) bs
  | moreItems {v v' : Value} {vs : List Value} {bs cs : Bytes} (item : Spells (.text v) bs)
      (rest : Spells (.items (v' :: vs)) cs) : Spells (.items (v :: v' :: vs)) (bs ++ 0x2C :: cs)
  | member {k : Written} {v : Value} {a ks b bs : Bytes} (before : Blank a)
      (key : Lexeme (.text k) ks) (after : Blank b) (value : Spells (.text v) bs) :
      Spells (.member (k, v)) (a ++ ks ++ b ++ 0x3A :: bs)
  | noMembers {w : Bytes} (blank : Blank w) : Spells (.members []) w
  | lastMember {m : Written × Value} {bs : Bytes} (member : Spells (.member m) bs) :
      Spells (.members [m]) bs
  | moreMembers {m m' : Written × Value} {ms : List (Written × Value)} {bs cs : Bytes}
      (member : Spells (.member m) bs) (rest : Spells (.members (m' :: ms)) cs) :
      Spells (.members (m :: m' :: ms)) (bs ++ 0x2C :: cs)

/-! ## What has been read -/

/-- Things read so far, the last one first, each with a comma after it. -/
inductive Listed {α : Type} (one : α → Phrase) : List α → Bytes → Prop where
  | nil : Listed one [] []
  | cons {xs : List α} {x : α} {p bs : Bytes} (before : Listed one xs p)
      (last : Spells (one x) bs) : Listed one (x :: xs) (p ++ bs ++ [0x2C])

/-- What stands before the next value, inside containers that are part way through. -/
inductive Before : List Frame → Bytes → Prop where
  | nil : Before [] []
  | array {stack : List Frame} {vs : List Value} {p a l : Bytes} (outer : Before stack p)
      (blank : Blank a) (items : Listed .text vs l) :
      Before (.array vs :: stack) (p ++ a ++ 0x5B :: l)
  | object {stack : List Frame} {ms : List (Written × Value)} {k : Written}
      {p a l b ks c : Bytes} (outer : Before stack p) (blank : Blank a)
      (members : Listed .member ms l) (before : Blank b) (key : Lexeme (.text k) ks)
      (after : Blank c) :
      Before (.object ms k :: stack) (p ++ a ++ 0x7B :: (l ++ b ++ ks ++ c ++ [0x3A]))

def Reading (p : Bytes) : State → Prop
  | .value stack => Before stack p
  | .firstItem stack => Before (.array [] :: stack) p
  | .firstKey stack => ∃ q a, p = q ++ a ++ [0x7B] ∧ Before stack q ∧ Blank a
  | .key ms stack =>
    ∃ q a l, p = q ++ a ++ 0x7B :: l ∧ Before stack q ∧ Blank a ∧ Listed .member ms l
  | .colon ms k stack =>
    ∃ q a l b ks, p = q ++ a ++ 0x7B :: (l ++ b ++ ks) ∧ Before stack q ∧ Blank a ∧
      Listed .member ms l ∧ Blank b ∧ Lexeme (.text k) ks
  | .after v stack => ∃ q a bs, p = q ++ a ++ bs ∧ Before stack q ∧ Blank a ∧ Spells (.value v) bs

theorem spells_items_of_listed {vs : List Value} {l : Bytes} (h : Listed .text vs l) {v : Value}
    {rest : List Value} {bs : Bytes} (hrest : Spells (.items (v :: rest)) bs) :
    Spells (.items (vs.reverse ++ v :: rest)) (l ++ bs) := by
  induction h generalizing v rest bs with
  | nil => exact hrest
  | cons before last ih =>
    have hmore := ih (.moreItems last hrest)
    simpa using hmore

theorem spells_members_of_listed {ms : List (Written × Value)} {l : Bytes}
    (h : Listed .member ms l) {m : Written × Value} {rest : List (Written × Value)} {bs : Bytes}
    (hrest : Spells (.members (m :: rest)) bs) :
    Spells (.members (ms.reverse ++ m :: rest)) (l ++ bs) := by
  induction h generalizing m rest bs with
  | nil => exact hrest
  | cons before last ih =>
    have hmore := ih (.moreMembers last hrest)
    simpa using hmore

section
variable {p w bs : Bytes} {stack : List Frame} {t : Token} {s s' : State}

theorem reading_startValue (h : Before stack p) (hw : Blank w) (hbs : Lexeme t bs)
    (hnext : State.startValue stack t = some s') : Reading (p ++ w ++ bs) s' := by
  cases t with
  | beginObject =>
    cases hnext
    cases hbs
    exact ⟨p, w, rfl, h, hw⟩
  | beginArray =>
    cases hnext
    cases hbs
    exact .array h hw .nil
  | atom v =>
    cases hnext
    exact ⟨p, w, bs, rfl, h, hw, .atom hbs⟩
  | text k =>
    cases hnext
    exact ⟨p, w, bs, rfl, h, hw, .string hbs⟩
  | endObject | endArray | colon | comma => cases hnext

theorem reading_after {v : Value} (h : Reading p (.after v stack)) (hw : Blank w)
    (hbs : Lexeme t bs) (hnext : (State.after v stack).next t = some s') :
    Reading (p ++ w ++ bs) s' := by
  obtain ⟨q, a, vs, rfl, hbefore, ha, hv⟩ := h
  have htext : Spells (.text v) (a ++ vs ++ w) := .text ha hv hw
  cases hbefore with
  | nil => cases t <;> cases hnext
  | @array stack us q' a' l outer blank items =>
    cases t with
    | comma =>
      cases hnext
      cases hbs
      have hlisted := Listed.cons items htext
      have hbefore := Before.array outer blank hlisted
      simpa [Reading] using hbefore
    | endArray =>
      cases hnext
      cases hbs
      have harray : Spells (.value (.array (v :: us).reverse))
          (0x5B :: (l ++ (a ++ vs ++ w) ++ [0x5D])) := by
        rw [List.reverse_cons]
        exact .array (spells_items_of_listed items (.lastItem htext))
      exact ⟨q', a', _, by simp, outer, blank, harray⟩
    | beginObject | endObject | beginArray | colon | atom _ | text _ => cases hnext
  | @object stack ms k q' a' l b ks c outer blank members before key after =>
    have hmember : Spells (.member (k, v)) (b ++ ks ++ c ++ 0x3A :: (a ++ vs ++ w)) :=
      .member before key after htext
    cases t with
    | comma =>
      cases hnext
      cases hbs
      exact ⟨q', a', _, by simp, outer, blank, .cons members hmember⟩
    | endObject =>
      cases hnext
      cases hbs
      have hobject : Spells (.value (.object ((k, v) :: ms).reverse))
          (0x7B :: (l ++ (b ++ ks ++ c ++ 0x3A :: (a ++ vs ++ w)) ++ [0x7D])) := by
        rw [List.reverse_cons]
        exact .object (spells_members_of_listed members (.lastMember hmember))
      exact ⟨q', a', _, by simp, outer, blank, hobject⟩
    | beginObject | beginArray | endArray | colon | atom _ | text _ => cases hnext

theorem reading_next (h : Reading p s) (hw : Blank w) (hbs : Lexeme t bs)
    (hnext : s.next t = some s') : Reading (p ++ w ++ bs) s' := by
  cases s with
  | value stack => exact reading_startValue h hw hbs hnext
  | firstItem stack =>
    cases t with
    | endArray =>
      cases hnext
      cases hbs
      cases h with
      | @array _ _ q a l outer blank items =>
        cases items
        exact ⟨q, a, _, by simp, outer, blank, .array (.noItems hw)⟩
    | beginArray | beginObject | atom _ | text _ => exact reading_startValue h hw hbs hnext
    | endObject | colon | comma => cases hnext
  | firstKey stack =>
    obtain ⟨q, a, rfl, hq, ha⟩ := h
    cases t with
    | endObject =>
      cases hnext
      cases hbs
      exact ⟨q, a, _, by simp, hq, ha, .object (.noMembers hw)⟩
    | text k =>
      cases hnext
      exact ⟨q, a, [], w, bs, by simp, hq, ha, .nil, hw, hbs⟩
    | beginObject | beginArray | endArray | colon | comma | atom _ => cases hnext
  | key ms stack =>
    obtain ⟨q, a, l, rfl, hq, ha, hl⟩ := h
    cases t with
    | text k =>
      cases hnext
      exact ⟨q, a, l, w, bs, by simp, hq, ha, hl, hw, hbs⟩
    | beginObject | endObject | beginArray | endArray | colon | comma | atom _ => cases hnext
  | colon ms k stack =>
    obtain ⟨q, a, l, b, ks, rfl, hq, ha, hl, hb, hks⟩ := h
    cases t with
    | colon =>
      cases hnext
      cases hbs
      have hbefore := Before.object hq ha hl hb hks hw
      simpa [Reading] using hbefore
    | beginObject | endObject | beginArray | endArray | comma | atom _ | text _ => cases hnext
  | after v stack => exact reading_after h hw hbs hnext

theorem reading_of_lexed {ts : List Token} (h : Lexed ts p)
    (hrun : (State.value []).run ts.reverse = some s) : Reading p s := by
  -- The last token comes off first, as it does in `Lexed`.
  induction h generalizing s with
  | nil =>
    cases hrun
    exact .nil
  | cons before blank lexeme ih =>
    rw [List.reverse_cons, State.run_append] at hrun
    obtain ⟨s₁, hrun₁, hrun₂⟩ := Option.bind_eq_some_iff.mp hrun
    refine reading_next (ih hrun₁) blank lexeme ?_
    rw [State.run] at hrun₂
    split at hrun₂
    · rename_i hnext
      cases hrun₂
      exact hnext
    · cases hrun₂

end

theorem spells_of_parse? {bs : Bytes} {v : Value} (h : parse? bs = some v) :
    Spells (.text v) bs := by
  obtain ⟨toks, hscan, htokens⟩ := Option.bind_eq_some_iff.mp h
  have hrun : (State.value []).run toks = some (.after v []) := by
    unfold ofTokens? at htokens
    split at htokens
    · rename_i hrun
      cases htokens
      exact hrun
    · cases htokens
  obtain ⟨q, w, rfl, hlexed, hw⟩ := lexed_of_scan hscan
  rw [← List.reverse_reverse toks] at hrun
  obtain ⟨q', a, vs, rfl, hbefore, ha, hv⟩ := reading_of_lexed hlexed hrun
  cases hbefore
  exact .text ha hv hw

/-! ## What is spelled is read -/

/-- What the tokens of a phrase do, wherever the phrase may stand. -/
def Phrase.Reads : Phrase → List Token → Prop
  | .value v, toks | .text v, toks =>
    (∀ stack, (State.value stack).run toks = some (.after v stack)) ∧
      ∀ stack, (State.firstItem stack).run toks = some (.after v (.array [] :: stack))
  | .items vs, toks =>
    (∀ stack, (State.firstItem stack).run (toks ++ [.endArray]) =
      some (.after (.array vs) stack)) ∧
      (vs ≠ [] → ∀ before stack, (State.value (.array before :: stack)).run (toks ++ [.endArray]) =
        some (.after (.array (before.reverse ++ vs)) stack))
  | .member (k, v), toks =>
    (∀ ms stack, (State.key ms stack).run toks = some (.after v (.object ms k :: stack))) ∧
      ∀ stack, (State.firstKey stack).run toks = some (.after v (.object [] k :: stack))
  | .members ms, toks =>
    (∀ stack, (State.firstKey stack).run (toks ++ [.endObject]) =
      some (.after (.object ms) stack)) ∧
      (ms ≠ [] → ∀ before stack, (State.key before stack).run (toks ++ [.endObject]) =
        some (.after (.object (before.reverse ++ ms)) stack))

theorem run_endArray (v : Value) (before : List Value) (stack : List Frame) :
    (State.after v (.array before :: stack)).run [.endArray] =
      some (.after (.array (before.reverse ++ [v])) stack) := by
  rw [← List.reverse_cons]
  rfl

theorem run_endObject (v : Value) (before : List (Written × Value)) (k : Written)
    (stack : List Frame) :
    (State.after v (.object before k :: stack)).run [.endObject] =
      some (.after (.object (before.reverse ++ [(k, v)])) stack) := by
  rw [← List.reverse_cons]
  rfl

theorem run_moreItems {v : Value} {before vs : List Value} {toks : List Token}
    {stack : List Frame}
    (hrest : (State.value (.array (v :: before) :: stack)).run (toks ++ [.endArray]) =
      some (.after (.array ((v :: before).reverse ++ vs)) stack)) :
    (State.after v (.array before :: stack)).run (.comma :: toks ++ [.endArray]) =
      some (.after (.array (before.reverse ++ v :: vs)) stack) := by
  have hcomma : (State.after v (.array before :: stack)).run (.comma :: toks ++ [.endArray]) =
      (State.value (.array (v :: before) :: stack)).run (toks ++ [.endArray]) := rfl
  rw [hcomma, hrest]
  simp

theorem run_moreMembers {k : Written} {v : Value} {before ms : List (Written × Value)}
    {toks : List Token} {stack : List Frame}
    (hrest : (State.key ((k, v) :: before) stack).run (toks ++ [.endObject]) =
      some (.after (.object (((k, v) :: before).reverse ++ ms)) stack)) :
    (State.after v (.object before k :: stack)).run (.comma :: toks ++ [.endObject]) =
      some (.after (.object (before.reverse ++ (k, v) :: ms)) stack) := by
  have hcomma : (State.after v (.object before k :: stack)).run (.comma :: toks ++ [.endObject]) =
      (State.key ((k, v) :: before) stack).run (toks ++ [.endObject]) := rfl
  rw [hcomma, hrest]
  simp

theorem exists_tokens_of_spells {p : Phrase} {bs : Bytes} (h : Spells p bs) :
    ∃ toks, Scans bs toks ∧ p.Reads toks := by
  -- A list is entered at its opening bracket or after a comma. `Reads` speaks of both, or the case
  -- of a longer list could not use what is known of its rest.
  induction h with
  | @atom v bs lexeme =>
    exact ⟨_, scans_lexeme lexeme, fun stack => rfl, fun stack => rfl⟩
  | @string t bs lexeme =>
    exact ⟨_, scans_lexeme lexeme, fun stack => rfl, fun stack => rfl⟩
  | @array vs bs items ih =>
    obtain ⟨toks, hscans, hitems, -⟩ := ih
    refine ⟨.beginArray :: (toks ++ [.endArray]), ?_, ?_, ?_⟩
    · exact (hscans.separated (by decide) (fun _ => rfl) scans_nil).opened fun _ => rfl
    · exact fun stack => hitems stack
    · exact fun stack => hitems (.array [] :: stack)
  | @object ms bs members ih =>
    obtain ⟨toks, hscans, hmembers, -⟩ := ih
    refine ⟨.beginObject :: (toks ++ [.endObject]), ?_, ?_, ?_⟩
    · exact (hscans.separated (by decide) (fun _ => rfl) scans_nil).opened fun _ => rfl
    · exact fun stack => hmembers stack
    · exact fun stack => hmembers (.array [] :: stack)
  | text before value after ih =>
    obtain ⟨toks, hscans, hreads⟩ := ih
    exact ⟨toks, (hscans.blank_append before).append_blank after, hreads⟩
  | noItems blank =>
    exact ⟨[], scans_blank blank, fun stack => rfl, fun h => absurd rfl h⟩
  | @lastItem v bs item ih =>
    obtain ⟨toks, hscans, hvalue, hfirst⟩ := ih
    refine ⟨toks, hscans, ?_, ?_⟩
    · intro stack
      rw [State.run_append, hfirst, Option.bind_some, run_endArray]
      rfl
    · intro _ before stack
      rw [State.run_append, hvalue, Option.bind_some, run_endArray]
  | @moreItems v v' vs bs cs item rest ih ih' =>
    obtain ⟨toks, hscans, hvalue, hfirst⟩ := ih
    obtain ⟨toks', hscans', -, hrest⟩ := ih'
    refine ⟨toks ++ .comma :: toks', hscans.separated (by decide) (fun _ => rfl) hscans', ?_, ?_⟩
    · intro stack
      rw [List.append_assoc, State.run_append, hfirst, Option.bind_some]
      exact run_moreItems (hrest (by simp) [v] stack)
    · intro _ before stack
      rw [List.append_assoc, State.run_append, hvalue, Option.bind_some]
      exact run_moreItems (hrest (by simp) (v :: before) stack)
  | @member k v a ks b bs before key after value ih =>
    obtain ⟨toks, hscans, hvalue, -⟩ := ih
    refine ⟨.text k :: .colon :: toks, ?_, ?_, ?_⟩
    · have hkey := ((scans_lexeme key).blank_append before).append_blank after
      exact hkey.separated (by decide) (fun _ => rfl) hscans
    · exact fun ms stack => hvalue (.object ms k :: stack)
    · exact fun stack => hvalue (.object [] k :: stack)
  | noMembers blank =>
    exact ⟨[], scans_blank blank, fun stack => rfl, fun h => absurd rfl h⟩
  | @lastMember m bs member ih =>
    obtain ⟨k, v⟩ := m
    obtain ⟨toks, hscans, hkey, hfirst⟩ := ih
    refine ⟨toks, hscans, ?_, ?_⟩
    · intro stack
      rw [State.run_append, hfirst, Option.bind_some, run_endObject]
      rfl
    · intro _ before stack
      rw [State.run_append, hkey, Option.bind_some, run_endObject]
  | @moreMembers m m' ms bs cs member rest ih ih' =>
    obtain ⟨k, v⟩ := m
    obtain ⟨toks, hscans, hkey, hfirst⟩ := ih
    obtain ⟨toks', hscans', -, hrest⟩ := ih'
    refine ⟨toks ++ .comma :: toks', hscans.separated (by decide) (fun _ => rfl) hscans', ?_, ?_⟩
    · intro stack
      rw [List.append_assoc, State.run_append, hfirst, Option.bind_some]
      exact run_moreMembers (hrest (by simp) [(k, v)] stack)
    · intro _ before stack
      rw [List.append_assoc, State.run_append, hkey, Option.bind_some]
      exact run_moreMembers (hrest (by simp) ((k, v) :: before) stack)

theorem parse?_of_spells {bs : Bytes} {v : Value} (h : Spells (.text v) bs) :
    parse? bs = some v := by
  obtain ⟨toks, hscans, hvalue, -⟩ := exists_tokens_of_spells h
  rw [parse?, scan_of_scans hscans, Option.bind_some, ofTokens?, hvalue]

/-- A byte sequence is read as a value exactly if it spells that value, blanks around it allowed. -/
theorem parse?_eq_some_iff (bs : Bytes) (v : Value) :
    parse? bs = some v ↔ Spells (.text v) bs :=
  ⟨spells_of_parse?, parse?_of_spells⟩

end Registrar.Json
