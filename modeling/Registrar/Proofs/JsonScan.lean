import Registrar.Proofs.JsonLexeme

/-! # Scanning a JSON text

The scanning machine against the grammar of tokens.

* `Lexed`: bytes that are tokens, with blanks in front of each.
* `Scanned`: what the bytes so far are in each mode of the machine; `scanned_step`, `scanned_run`.
* `lexed_of_scan`: what is scanned is made of lexemes.
* `Scans`: bytes that become given tokens, whatever tokens came before; such bytes are built up
  from lexemes, blanks and separators.
-/

namespace Registrar.Json
open Text
open Text.Utf8 (Bytes)
set_option autoImplicit false

/-! ## What has been scanned -/

/-- Tokens, the last one first, and bytes that end with the last token. -/
inductive Lexed : List Token → Bytes → Prop where
  | nil : Lexed [] []
  | cons {ts : List Token} {t : Token} {p w bs : Bytes} (before : Lexed ts p) (blank : Blank w)
      (lexeme : Lexeme t bs) : Lexed (t :: ts) (p ++ w ++ bs)

/-- The bytes are tokens but for `part`, which is the beginning of the next one. -/
def Open (ts : List Token) (p part : Bytes) : Prop :=
  ∃ q w, p = q ++ w ++ part ∧ Lexed ts q ∧ Blank w

/-- The bytes of a number, as far as it has been read, lead to this part. -/
def Begins (part : NumberPart) (bs : Bytes) : Prop :=
  ∃ b rest first, bs = b :: rest ∧ NumberPart.first? b = some first ∧
    rest.foldlM NumberPart.next first = some part

def Scanned (ts : List Token) (p : Bytes) : Mode → Prop
  | .between => Open ts p []
  | .number part seen => Open ts p seen.reverse ∧ Begins part seen.reverse
  | .word rest v => ∃ done, Open ts p done ∧ Lexeme (.atom v) (done ++ rest)
  | .text seen => ∃ c, Open ts p (0x22 :: c) ∧ Content seen.reverse c
  | .escape seen => ∃ c, Open ts p (0x22 :: (c ++ [0x5C])) ∧ Content seen.reverse c
  | .hex digits value seen =>
    ∃ c hs, Open ts p (0x22 :: (c ++ 0x5C :: 0x75 :: hs)) ∧ Content seen.reverse c ∧
      0 < digits ∧ hs.length + digits = 4 ∧ hexValue? hs = some value

section
variable {ts us : List Token} {p part : Bytes} {b : UInt8}

theorem Open.push (h : Open ts p part) (b : UInt8) : Open ts (p ++ [b]) (part ++ [b]) := by
  obtain ⟨q, w, rfl, hq, hw⟩ := h
  exact ⟨q, w, List.append_assoc _ _ _, hq, hw⟩

theorem Open.close {t : Token} (h : Open ts p part) (lexeme : Lexeme t part) :
    Open (t :: ts) p [] := by
  obtain ⟨q, w, rfl, hq, hw⟩ := h
  exact ⟨_, [], by simp, .cons hq hw lexeme, blank_nil⟩

theorem Open.blank (h : Open ts p []) (hb : isSpace b = true) : Open ts (p ++ [b]) [] := by
  obtain ⟨q, w, rfl, hq, hw⟩ := h
  exact ⟨q, w ++ [b], by simp, hq, blank_append_singleton hw hb⟩

theorem begins_first {first : NumberPart} (h : NumberPart.first? b = some first) :
    Begins first [b] := ⟨b, [], first, rfl, h, rfl⟩

theorem Begins.push {q q' : NumberPart} {bs : Bytes} (h : Begins q bs) (hb : q.next b = some q') :
    Begins q' (bs ++ [b]) := by
  obtain ⟨c, rest, first, rfl, hfirst, hrest⟩ := h
  refine ⟨c, rest ++ [b], first, rfl, hfirst, ?_⟩
  rw [List.foldlM_append, hrest]
  simp [hb]

theorem Begins.isNumber {q : NumberPart} {bs : Bytes} (h : Begins q bs)
    (complete : q.complete = true) : IsNumber bs := by
  obtain ⟨c, rest, first, rfl, hfirst, hrest⟩ := h
  exact (isNumber_iff _).mpr ⟨c, rest, first, rfl, hfirst, q, hrest, complete⟩

/-- The bytes that are a token by themselves, and those that begin a word. -/
def startingBytes : List UInt8 := [0x7B, 0x7D, 0x5B, 0x5D, 0x3A, 0x2C, 0x6E, 0x74, 0x66]

/-- Any other byte is a blank, or it begins a string or a number. -/
theorem start_of_notMem (h : b ∉ startingBytes) :
    start ts b =
      if isSpace b then some (.between, ts)
      else if b = 0x22 then some (.text [], ts)
      else (NumberPart.first? b).map fun first => (.number first [b], ts) := by
  simp only [startingBytes, List.mem_cons, List.not_mem_nil, or_false, not_or] at h
  simp only [start, NumberPart.first?, NumberPart.next, beq_iff_eq, h, if_false]
  by_cases hminus : b = 0x2D
  · simp [hminus]
  · by_cases hzero : b = 0x30
    · simp [hzero]
    · by_cases hdigit : isDigitByte b = true <;> simp [hminus, hzero, hdigit]

theorem start_cases {m : Mode} (h : start ts b = some (m, us)) :
    isSpace b = true ∧ m = .between ∧ us = ts ∨
    (∃ t, Lexeme t [b] ∧ m = .between ∧ us = t :: ts) ∨
    b = 0x22 ∧ m = .text [] ∧ us = ts ∨
    (∃ first, NumberPart.first? b = some first ∧ m = .number first [b] ∧ us = ts) ∨
    ∃ rest v, Lexeme (.atom v) (b :: rest) ∧ m = .word rest v ∧ us = ts := by
  by_cases hb : b ∈ startingBytes
  · simp only [startingBytes, List.mem_cons, List.not_mem_nil, or_false] at hb
    rcases hb with rfl | rfl | rfl | rfl | rfl | rfl | rfl | rfl | rfl <;> cases h
    · exact .inr (.inl ⟨_, .beginObject, rfl, rfl⟩)
    · exact .inr (.inl ⟨_, .endObject, rfl, rfl⟩)
    · exact .inr (.inl ⟨_, .beginArray, rfl, rfl⟩)
    · exact .inr (.inl ⟨_, .endArray, rfl, rfl⟩)
    · exact .inr (.inl ⟨_, .colon, rfl, rfl⟩)
    · exact .inr (.inl ⟨_, .comma, rfl, rfl⟩)
    · exact .inr (.inr (.inr (.inr ⟨_, _, .null, rfl, rfl⟩)))
    · exact .inr (.inr (.inr (.inr ⟨_, _, .yes, rfl, rfl⟩)))
    · exact .inr (.inr (.inr (.inr ⟨_, _, .no, rfl, rfl⟩)))
  · rw [start_of_notMem hb] at h
    split at h
    case isTrue hspace =>
      cases h
      exact .inl ⟨hspace, rfl, rfl⟩
    case isFalse =>
      split at h
      case isTrue hquote =>
        cases h
        exact .inr (.inr (.inl ⟨hquote, rfl, rfl⟩))
      case isFalse =>
        obtain ⟨first, hfirst, h⟩ := Option.map_eq_some_iff.mp h
        cases h
        exact .inr (.inr (.inr (.inl ⟨first, hfirst, rfl, rfl⟩)))

/-! ## One byte -/

theorem scanned_start {m : Mode} (h : Open ts p []) (hstart : start ts b = some (m, us)) :
    Scanned us (p ++ [b]) m := by
  have hpush : Open ts (p ++ [b]) [b] := h.push b
  rcases start_cases hstart with ⟨hspace, rfl, rfl⟩ | ⟨t, hlexeme, rfl, rfl⟩ | ⟨rfl, rfl, rfl⟩ |
    ⟨first, hfirst, rfl, rfl⟩ | ⟨rest, v, hlexeme, rfl, rfl⟩
  · exact h.blank hspace
  · exact hpush.close hlexeme
  · exact ⟨[], hpush, .nil⟩
  · exact ⟨hpush, begins_first hfirst⟩
  · exact ⟨[b], hpush, hlexeme⟩

theorem Content.push_byte {t : Written} {c : Bytes} (h : Content t.reverse c) (quote : b ≠ 0x22)
    (backslash : b ≠ 0x5C) (large : ¬b < 0x20) :
    Content (Piece.byte b :: t).reverse (c ++ [b]) := by
  rw [List.reverse_cons]
  exact h.append (.byte quote backslash large .nil)

theorem scanned_text {m : Mode} {seen : Written} (h : Scanned ts p (.text seen))
    (hstep : step (.text seen) ts b = some (m, us)) : Scanned us (p ++ [b]) m := by
  obtain ⟨c, hopen, hcontent⟩ := h
  have hpush := hopen.push b
  rw [step] at hstep
  split at hstep
  case isTrue hquote =>
    cases hstep
    rw [beq_iff_eq] at hquote
    subst hquote
    exact hpush.close (.text hcontent)
  case isFalse hquote =>
    split at hstep
    case isTrue hbackslash =>
      cases hstep
      rw [beq_iff_eq] at hbackslash
      subst hbackslash
      exact ⟨c, hpush, hcontent⟩
    case isFalse hbackslash =>
      split at hstep
      case isTrue => cases hstep
      case isFalse hlarge =>
        cases hstep
        rw [beq_iff_eq] at hquote hbackslash
        exact ⟨c ++ [b], hpush, hcontent.push_byte hquote hbackslash hlarge⟩

theorem scanned_escape {m : Mode} {seen : Written} (h : Scanned ts p (.escape seen))
    (hstep : step (.escape seen) ts b = some (m, us)) : Scanned us (p ++ [b]) m := by
  obtain ⟨c, hopen, hcontent⟩ := h
  have hpush : Open ts (p ++ [b]) (0x22 :: (c ++ [0x5C, b])) := by
    simpa using hopen.push b
  rw [step] at hstep
  split at hstep
  case isTrue hu =>
    cases hstep
    rw [beq_iff_eq] at hu
    subst hu
    exact ⟨c, [], hpush, hcontent, by decide, rfl, rfl⟩
  case isFalse =>
    obtain ⟨d, hd, hstep⟩ := Option.map_eq_some_iff.mp hstep
    cases hstep
    refine ⟨c ++ [0x5C, b], hpush, ?_⟩
    rw [List.reverse_cons]
    exact hcontent.append (.escape ((escaped?_eq_some_iff b d).mp hd) .nil)

theorem scanned_hex {m : Mode} {seen : Written} {digits : Nat} {value : UInt16}
    (h : Scanned ts p (.hex digits value seen))
    (hstep : step (.hex digits value seen) ts b = some (m, us)) : Scanned us (p ++ [b]) m := by
  obtain ⟨c, hs, hopen, hcontent, hpos, hlength, hvalue⟩ := h
  have hpush : Open ts (p ++ [b]) (0x22 :: (c ++ 0x5C :: 0x75 :: (hs ++ [b]))) := by
    simpa using hopen.push b
  obtain ⟨d, hd, hstep⟩ := Option.map_eq_some_iff.mp hstep
  have hnext : hexValue? (hs ++ [b]) = some (value * 16 + d) := by
    rw [hexValue?] at hvalue ⊢
    rw [List.foldlM_append, hvalue]
    simp [hd]
  have hlength' : (hs ++ [b]).length = hs.length + 1 := by simp
  split at hstep
  case isTrue hlast =>
    cases hstep
    have hfour : (hs ++ [b]).length = 4 := by omega
    refine ⟨c ++ 0x5C :: 0x75 :: (hs ++ [b]), hpush, ?_⟩
    rw [List.reverse_cons]
    have hunit := Content.unit hfour hnext .nil
    rw [List.append_nil] at hunit
    exact hcontent.append hunit
  case isFalse hmore =>
    cases hstep
    exact ⟨c, hs ++ [b], hpush, hcontent, by omega, by omega, hnext⟩

theorem scanned_number {m : Mode} {part : NumberPart} {seen : Bytes}
    (h : Scanned ts p (.number part seen))
    (hstep : step (.number part seen) ts b = some (m, us)) : Scanned us (p ++ [b]) m := by
  obtain ⟨hopen, hbegins⟩ := h
  rw [step] at hstep
  split at hstep
  case h_1 part' hnext =>
    cases hstep
    refine ⟨?_, ?_⟩ <;> rw [List.reverse_cons]
    · exact hopen.push b
    · exact hbegins.push hnext
  case h_2 hend =>
    split at hstep
    case isTrue hcomplete =>
      exact scanned_start (hopen.close (.number (hbegins.isNumber hcomplete))) hstep
    case isFalse => cases hstep

theorem scanned_word {m : Mode} {rest : Bytes} {v : Value} (h : Scanned ts p (.word rest v))
    (hstep : step (.word rest v) ts b = some (m, us)) : Scanned us (p ++ [b]) m := by
  obtain ⟨done, hopen, hlexeme⟩ := h
  have hpush := hopen.push b
  cases rest with
  | nil => cases hstep
  | cons c rest =>
    rw [step] at hstep
    split at hstep
    case isFalse => cases hstep
    case isTrue hc =>
      rw [beq_iff_eq] at hc
      subst hc
      have hword : Lexeme (.atom v) (done ++ [b] ++ rest) := by simpa using hlexeme
      cases rest with
      | nil =>
        cases hstep
        rw [List.append_nil] at hword
        exact hpush.close hword
      | cons c' rest =>
        cases hstep
        exact ⟨done ++ [b], hpush, hword⟩

theorem scanned_step {m m' : Mode} (h : Scanned ts p m) (hstep : step m ts b = some (m', us)) :
    Scanned us (p ++ [b]) m' := by
  cases m with
  | between => exact scanned_start h hstep
  | number part seen => exact scanned_number h hstep
  | word rest v => exact scanned_word h hstep
  | text seen => exact scanned_text h hstep
  | escape seen => exact scanned_escape h hstep
  | hex digits value seen => exact scanned_hex h hstep

/-! ## All bytes -/

theorem scanned_run {m m' : Mode} {bs : Bytes} (h : Scanned ts p m)
    (hrun : run m ts bs = some (m', us)) : Scanned us (p ++ bs) m' := by
  -- Every byte changes the mode, the tokens and what lies behind; `Scanned` relates all three.
  induction bs generalizing m ts p with
  | nil =>
    cases hrun
    rw [List.append_nil]
    exact h
  | cons b bs ih =>
    rw [run] at hrun
    split at hrun
    case h_1 m₁ ts₁ hstep =>
      have hnext := ih (scanned_step h hstep) hrun
      rwa [List.append_assoc] at hnext
    case h_2 => cases hrun

theorem lexed_of_scan {bs : Bytes} (h : scan bs = some ts) :
    ∃ q w, bs = q ++ w ∧ Lexed ts.reverse q ∧ Blank w := by
  obtain ⟨⟨m, us⟩, hrun, hfinish⟩ := Option.bind_eq_some_iff.mp h
  have hstart : Scanned [] [] .between := ⟨[], [], rfl, .nil, blank_nil⟩
  have hscanned : Scanned us bs m := scanned_run hstart hrun
  have hopen : Open ts.reverse bs [] := by
    cases m with
    | between =>
      cases hfinish
      rw [List.reverse_reverse]
      exact hscanned
    | number part seen =>
      rw [finish] at hfinish
      split at hfinish
      case isTrue hcomplete =>
        cases hfinish
        rw [List.reverse_reverse]
        exact hscanned.1.close (.number (hscanned.2.isNumber hcomplete))
      case isFalse => cases hfinish
    | word _ _ | text _ | escape _ | hex _ _ _ => cases hfinish
  obtain ⟨q, w, rfl, hq, hw⟩ := hopen
  exact ⟨q, w, by simp, hq, hw⟩

end

/-! ## Bytes that become given tokens -/

/-- Nothing is open, or a number that may end here; `ts` are the tokens if it does. -/
def Settled (s : Scan) (ts : List Token) : Prop :=
  s = (.between, ts) ∨
    ∃ part seen us, s = (.number part seen, us) ∧ part.complete = true ∧
      ts = .atom (.number seen.reverse) :: us

/-- Whatever tokens came before, the bytes add these. -/
def Scans (bs : Bytes) (toks : List Token) : Prop :=
  ∀ ts, ∃ s, run .between ts bs = some s ∧ Settled s (toks.reverse ++ ts)

theorem finish_of_settled {s : Scan} {ts : List Token} (h : Settled s ts) :
    finish s = some ts.reverse := by
  rcases h with rfl | ⟨part, seen, us, rfl, hcomplete, rfl⟩
  · rfl
  · rw [finish, if_pos hcomplete]

theorem scan_of_scans {bs : Bytes} {toks : List Token} (h : Scans bs toks) :
    scan bs = some toks := by
  obtain ⟨s, hrun, hsettled⟩ := h []
  rw [scan, hrun, Option.bind_some, finish_of_settled hsettled]
  simp

/-- The bytes that no number goes on with. -/
def endingBytes : List UInt8 := blanks ++ [0x2C, 0x3A, 0x5D, 0x7D]

theorem step_of_settled {s : Scan} {ts : List Token} {b : UInt8} (h : Settled s ts)
    (hb : b ∈ endingBytes) : step s.1 s.2 b = start ts b := by
  rcases h with rfl | ⟨part, seen, us, rfl, hcomplete, rfl⟩
  · rfl
  · have hend : part.next b = none := by
      simp only [endingBytes, blanks, List.cons_append, List.nil_append, List.mem_cons,
        List.not_mem_nil, or_false] at hb
      rcases hb with rfl | rfl | rfl | rfl | rfl | rfl | rfl | rfl <;> cases part <;>
        rfl
    simp only [step, hend, hcomplete, if_true]

theorem start_blank {b : UInt8} (hb : b ∈ blanks) (ts : List Token) :
    start ts b = some (.between, ts) := by
  rw [start, if_pos ((isSpace_iff b).mpr hb)]

theorem run_blank {w : Bytes} (hw : Blank w) (ts : List Token) :
    run .between ts w = some (.between, ts) := by
  induction w with
  | nil => rfl
  | cons b w ih =>
    have hstep : step .between ts b = some (.between, ts) := start_blank (hw b List.mem_cons_self) ts
    have hrest : Blank w := fun c hc => hw c (List.mem_cons_of_mem _ hc)
    rw [run, hstep]
    exact ih hrest

theorem run_blank_of_settled {s : Scan} {ts : List Token} {w : Bytes} (h : Settled s ts)
    (hw : Blank w) : ∃ s', run s.1 s.2 w = some s' ∧ Settled s' ts := by
  cases w with
  | nil => exact ⟨s, rfl, h⟩
  | cons b w =>
    have hb : b ∈ blanks := hw b List.mem_cons_self
    have hrest : Blank w := fun c hc => hw c (List.mem_cons_of_mem _ hc)
    refine ⟨(.between, ts), ?_, .inl rfl⟩
    rw [run, step_of_settled h (List.mem_append_left _ hb), start_blank hb]
    exact run_blank hrest ts

/-! ### Lexemes -/

theorem run_number {q q' : NumberPart} {bs : Bytes} (h : bs.foldlM NumberPart.next q = some q')
    (seen : Bytes) (ts : List Token) :
    run (.number q seen) ts bs = some (.number q' (bs.reverse ++ seen), ts) := by
  induction bs generalizing q seen with
  | nil =>
    cases h
    rfl
  | cons b bs ih =>
    rw [List.foldlM_cons] at h
    obtain ⟨q₁, hnext, hrest⟩ := Option.bind_eq_some_iff.mp h
    have hstep : step (.number q seen) ts b = some (.number q₁ (b :: seen), ts) := by
      simp only [step, hnext]
    rw [run, hstep]
    simp only [ih hrest (b :: seen), List.reverse_cons, List.append_assoc, List.cons_append,
      List.nil_append]

theorem start_of_first {b : UInt8} {first : NumberPart}
    (h : NumberPart.first? b = some first) (ts : List Token) :
    start ts b = some (.number first [b], ts) := by
  have hother : (startingBytes ++ blanks ++ [0x22]).all
      (fun c => (NumberPart.first? c).isNone) = true := rfl
  have hno : b ∉ startingBytes ++ blanks ++ [0x22] := by
    intro hb
    have hnone := List.all_eq_true.mp hother b hb
    rw [h] at hnone
    cases hnone
  simp only [List.mem_append, List.mem_singleton, not_or] at hno
  obtain ⟨⟨hstarting, hblank⟩, hquote⟩ := hno
  have hspace : ¬isSpace b = true := fun hb => hblank ((isSpace_iff b).mp hb)
  rw [start_of_notMem hstarting, if_neg hspace, if_neg hquote, h, Option.map_some]

theorem scans_number {text : Bytes} (h : IsNumber text) :
    Scans text [.atom (.number text)] := by
  intro ts
  obtain ⟨b, bs, first, rfl, hfirst, q, hrest, hcomplete⟩ := (isNumber_iff text).mp h
  have hrun : run .between ts (b :: bs) = some (.number q (bs.reverse ++ [b]), ts) := by
    have hstep : step .between ts b = some (.number first [b], ts) := start_of_first hfirst ts
    rw [run, hstep]
    exact run_number hrest [b] ts
  exact ⟨_, hrun, .inr ⟨q, _, ts, rfl, hcomplete, by simp⟩⟩

theorem run_hex {hs : Bytes} {u : UInt16} (four : hs.length = 4) (value : hexValue? hs = some u)
    (seen : Written) (ts : List Token) :
    run (.hex 4 0 seen) ts hs = some (.text (.unit u :: seen), ts) := by
  match hs, four with
  | [a, b, c, d], _ =>
    simp only [hexValue?, List.foldlM_cons, List.foldlM_nil, Option.bind_eq_bind,
      Option.bind_eq_some_iff, Option.map_eq_some_iff, Option.pure_def, Option.some.injEq] at value
    obtain ⟨_, ⟨w, hw, rfl⟩, _, ⟨x, hx, rfl⟩, _, ⟨y, hy, rfl⟩, _, ⟨z, hz, rfl⟩, rfl⟩ := value
    simp [run, step, hw, hx, hy, hz]

theorem run_content {t : Written} {bs : Bytes} (h : Content t bs) (seen : Written)
    (ts : List Token) :
    run (.text seen) ts bs = some (.text (t.reverse ++ seen), ts) := by
  -- An escape is more than one byte, so the induction is on the content, not on the bytes.
  induction h generalizing seen with
  | nil => rfl
  | @byte t bs b quote backslash large _ ih =>
    have hstep : step (.text seen) ts b = some (.text (.byte b :: seen), ts) := by
      simp [step, quote, backslash, large]
    rw [run, hstep]
    simp [ih]
  | @escape t bs e c letter _ ih =>
    have hescape : run (.text seen) ts [0x5C, e] = some (.text (.byte c :: seen), ts) := by
      have hno : e ≠ 0x75 := by
        have all : letterEscapes.all (fun x => x.1 != 0x75) = true := rfl
        simpa using List.all_eq_true.mp all _ letter
      simp [run, step, hno, (escaped?_eq_some_iff e c).mpr letter]
    have hsplit : 0x5C :: e :: bs = [0x5C, e] ++ bs := rfl
    rw [hsplit, run_append_of_run hescape, ih]
    simp
  | @unit t bs hs u four value _ ih =>
    have hopen : run (.text seen) ts [0x5C, 0x75] = some (.hex 4 0 seen, ts) := rfl
    have hsplit : 0x5C :: 0x75 :: (hs ++ bs) = [0x5C, 0x75] ++ (hs ++ bs) := rfl
    rw [hsplit, run_append_of_run hopen, run_append_of_run (run_hex four value seen ts), ih]
    simp

theorem scans_text {t : Written} {bs : Bytes} (h : Content t bs) :
    Scans (0x22 :: (bs ++ [0x22])) [.text t] := by
  intro ts
  have hopen : run .between ts [0x22] = some (.text [], ts) := rfl
  have hclose : run (.text (t.reverse ++ [])) ts [0x22] =
      some (.between, .text (t.reverse ++ []).reverse :: ts) := rfl
  have hsplit : 0x22 :: (bs ++ [0x22]) = [0x22] ++ (bs ++ [0x22]) := rfl
  refine ⟨_, ?_, .inl rfl⟩
  rw [hsplit, run_append_of_run hopen, run_append_of_run (run_content h [] ts), hclose]
  simp

theorem scans_lexeme {t : Token} {bs : Bytes} (h : Lexeme t bs) : Scans bs [t] := by
  cases h with
  | number h => exact scans_number h
  | text h => exact scans_text h
  | _ => exact fun ts => ⟨_, rfl, .inl rfl⟩

/-! ### Putting bytes together -/

section
variable {w xs ys : Bytes} {ts us : List Token}

theorem scans_nil : Scans [] [] := fun _ => ⟨_, rfl, .inl rfl⟩

theorem Scans.append_blank (h : Scans xs ts) (hw : Blank w) : Scans (xs ++ w) ts := by
  intro before
  obtain ⟨s, hrun, hsettled⟩ := h before
  obtain ⟨s', hrun', hsettled'⟩ := run_blank_of_settled hsettled hw
  refine ⟨s', ?_, hsettled'⟩
  rw [run_append, hrun, Option.bind_some, hrun']

theorem scans_blank (hw : Blank w) : Scans w [] := scans_nil.append_blank hw

theorem Scans.blank_append (h : Scans xs ts) (hw : Blank w) : Scans (w ++ xs) ts := by
  intro before
  obtain ⟨s, hrun, hsettled⟩ := h before
  refine ⟨s, ?_, hsettled⟩
  rw [run_append_of_run (run_blank hw before), hrun]

theorem Scans.opened {t : Token} {b : UInt8} (h : Scans xs ts)
    (ht : ∀ before, start before b = some (.between, t :: before)) : Scans (b :: xs) (t :: ts) := by
  intro before
  obtain ⟨s, hrun, hsettled⟩ := h (t :: before)
  have hstep : step .between before b = some (.between, t :: before) := ht before
  refine ⟨s, ?_, by simpa using hsettled⟩
  rw [run, hstep]
  exact hrun

theorem Scans.separated {t : Token} {b : UInt8} (h : Scans xs ts) (hb : b ∈ endingBytes)
    (ht : ∀ before, start before b = some (.between, t :: before)) (h' : Scans ys us) :
    Scans (xs ++ b :: ys) (ts ++ t :: us) := by
  intro before
  obtain ⟨s, hrun, hsettled⟩ := h before
  obtain ⟨s', hrun', hsettled'⟩ := h' (t :: (ts.reverse ++ before))
  refine ⟨s', ?_, by simpa using hsettled'⟩
  rw [run_append, hrun, Option.bind_some, run, step_of_settled hsettled hb, ht]
  exact hrun'

end

end Registrar.Json
