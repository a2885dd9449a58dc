import Registrar.Text.Blank
import Registrar.Text.Utf8

/-! # Lines of an environment file

A physical line ends after a line feed. Where it ends inside quotes, or inside an escape, the line
goes on with the next one.

* `textOf`: the text of a file, up to the first physical line that is not UTF-8.
* `Standing`, `Standing.next`: how a line stands after a character.
* `lines`: the lines of a text, without comments and line feeds.
-/

namespace Registrar.EnvFile
open Text
set_option autoImplicit false

/-! ## Physical lines -/

section
variable {α : Type} [DecidableEq α]

/-- Cut after every occurrence of an item; the part before, in reverse, belongs to the front. -/
def cutAfterFrom (x : α) (before : List α) : List α → List (List α)
  | [] => if before = [] then [] else [before.reverse]
  | y :: r =>
    if y = x then (y :: before).reverse :: cutAfterFrom x [] r else cutAfterFrom x (y :: before) r

def cutAfter (x : α) (ys : List α) : List (List α) := cutAfterFrom x [] ys

theorem cutAfterFrom_append {x : α} {block : List α} (h : x ∉ block) (before rest : List α) :
    cutAfterFrom x before (block ++ rest) = cutAfterFrom x (block.reverse ++ before) rest := by
  induction block generalizing before with
  | nil => rfl
  | cons y block ih =>
    have hy : y ≠ x := fun e => h (e ▸ List.mem_cons_self)
    rw [List.cons_append, cutAfterFrom, if_neg hy, ih fun hx => h (List.mem_cons_of_mem y hx)]
    simp

theorem flatten_cutAfterFrom (x : α) (before ys : List α) :
    (cutAfterFrom x before ys).flatten = before.reverse ++ ys := by
  induction ys generalizing before with
  | nil => cases before <;> simp [cutAfterFrom]
  | cons y ys ih =>
    unfold cutAfterFrom
    split <;> simp [ih]

end

def physicalLines (cs : List Char) : List (List Char) := cutAfter '\n' cs

/-! ## Bytes -/

def textFrom : List Utf8.Bytes → List Char
  | [] => []
  | l :: rest =>
    match Utf8.decode? l with
    | none => []
    | some s => s.toList ++ textFrom rest

/-- The text of a file: its physical lines before the first that is not UTF-8. -/
def textOf (bytes : Utf8.Bytes) : String := String.ofList (textFrom (cutAfter 0x0A bytes))

/-- No other character than the line feed has its byte. -/
theorem lineFeed_notMem {c : Char} (h : c ≠ '\n') : 0x0A ∉ String.utf8EncodeChar c := by
  obtain ⟨b, bs, hc, -, inner⟩ := Utf8.utf8EncodeChar_eq_cons c
  rw [hc]
  intro hmem
  rcases List.mem_cons.mp hmem with hb | hbs
  · have hfeed : String.utf8EncodeChar c ++ [] = String.utf8EncodeChar '\n' ++ bs := by
      rw [hc, ← hb, List.append_nil]
      rfl
    exact h (Utf8.utf8EncodeChar_append_inj hfeed).1
  · exact inner _ hbs (by decide)

theorem cutAfterFrom_encode (before cs : List Char) :
    cutAfterFrom 0x0A (before.reverse.flatMap String.utf8EncodeChar).reverse
        (cs.flatMap String.utf8EncodeChar) =
      (cutAfterFrom '\n' before cs).map fun l => l.flatMap String.utf8EncodeChar := by
  induction cs generalizing before with
  | nil =>
    cases before with
    | nil => rfl
    | cons c before => simp [cutAfterFrom, String.utf8EncodeChar_ne_nil]
  | cons c cs ih =>
    by_cases hc : c = '\n'
    · subst hc
      have hfeed : String.utf8EncodeChar '\n' = [0x0A] := rfl
      have hrest := ih []
      rw [List.reverse_nil, List.flatMap_nil, List.reverse_nil] at hrest
      rw [List.flatMap_cons, hfeed, List.singleton_append, cutAfterFrom, cutAfterFrom, if_pos rfl,
        if_pos rfl, hrest]
      simp [hfeed]
    · have hnext := ih (c :: before)
      rw [List.flatMap_cons, cutAfterFrom_append (lineFeed_notMem hc), cutAfterFrom, if_neg hc,
        ← hnext]
      simp

theorem textFrom_encode (ls : List (List Char)) :
    textFrom (ls.map fun l => l.flatMap String.utf8EncodeChar) = ls.flatten := by
  induction ls with
  | nil => rfl
  | cons l ls ih =>
    have hl : Utf8.decode? (l.flatMap String.utf8EncodeChar) = some (String.ofList l) := by
      rw [← Utf8.decode?_encode, Utf8.encode_eq_flatMap, String.toList_ofList]
    rw [List.map_cons, textFrom, hl, List.flatten_cons, ih]
    simp

/-- A file that is UTF-8 throughout is its text. -/
theorem textOf_encode (s : String) : textOf (Utf8.encode s) = s := by
  rw [textOf, cutAfter, Utf8.encode_eq_flatMap]
  have hcut := cutAfterFrom_encode [] s.toList
  rw [List.reverse_nil, List.flatMap_nil, List.reverse_nil] at hcut
  rw [hcut, textFrom_encode, flatten_cutAfterFrom, List.reverse_nil, List.nil_append,
    String.ofList_toList]

/-! ## Logical lines -/

inductive Standing where
  | plain
  | afterBlank
  | escape
  | strong
  | strongEscape
  | weak
  | weakEscape
  deriving DecidableEq, Repr

/-- What a character does outside quotes, whatever came before it. -/
def Standing.opened (c : Char) : Standing :=
  if c = '\\' then escape else if c = '"' then weak else if c = '\x27' then strong else plain

def Standing.next : Standing → Char → Standing
  | plain, c => if isBlank c && c != '\n' && c != '\r' then afterBlank else opened c
  | afterBlank, c => opened c
  | escape, _ => plain
  | weak, c => if c = '\\' then weakEscape else if c = '"' then plain else weak
  | weakEscape, _ => weak
  | strong, c => if c = '\\' then strongEscape else if c = '\x27' then plain else strong
  | strongEscape, _ => strong

/-- The end of a physical line: how it stands there, or what comes before its comment. -/
inductive Ending where
  | stands (s : Standing)
  | comment (before : List Char)

def ending (s : Standing) (seen : List Char) : List Char → Ending
  | [] => .stands s
  | c :: r =>
    if s = .afterBlank ∧ c = '#' then .comment seen.reverse
    else ending (s.next c) (c :: seen) r

/-- The line without its line feed and a carriage return before that. -/
def chomp (cs : List Char) : List Char :=
  match cs.reverse with
  | '\n' :: '\r' :: r => r.reverse
  | '\n' :: r => r.reverse
  | _ => cs

/-- The lines from a place where `begun` has been read of one; none for a line that never ends. -/
def linesFrom (begun : List Char) (s : Standing) : List (List Char) → List (Option (List Char))
  | [] => if s = .plain then [] else [none]
  | l :: rest =>
    let whole := begun ++ l
    if (trimStart whole).head? = some '#' then some [] :: linesFrom [] .plain rest
    else
      match ending s [] l with
      | .stands .plain => some (chomp whole) :: linesFrom [] .plain rest
      | .comment before => some (begun ++ before) :: linesFrom [] .plain rest
      | .stands s => linesFrom whole s rest

/-- The lines of a text; a byte order mark at its front is skipped. -/
def lines (text : String) : List (Option (List Char)) :=
  let cs := text.toList
  let cs := if cs.head? = some (Char.ofNat 0xFEFF) then cs.drop 1 else cs
  linesFrom [] .plain (physicalLines cs)

end Registrar.EnvFile
