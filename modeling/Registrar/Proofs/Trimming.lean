import Mathlib.Data.List.TakeWhile
import Registrar.Text.Blank

/-! # Text without its blank ends

* `Trims`: what is left of a text between blank ends.
* `trim_of_trims`, `trims_trim`: a text has one such core, and trimming finds it.
* `trim_padded`: more blank characters at the ends do not change the core.
* `trim_map`: a change of the characters that blank ones do not notice happens in the core.
-/

namespace Registrar.Text
set_option autoImplicit false

/-- The core of a text: before and after it everything is blank, its own ends are not. -/
structure Trims (cs core : List Char) : Prop where
  padded : ∃ front back, cs = front ++ core ++ back ∧ (∀ c ∈ front, isBlank c = true) ∧
    ∀ c ∈ back, isBlank c = true
  first : ∀ c ∈ core.head?, isBlank c = false
  last : ∀ c ∈ core.getLast?, isBlank c = false

/-! ## The start of a text -/

theorem trimStart_eq_nil_iff (cs : List Char) : trimStart cs = [] ↔ ∀ c ∈ cs, isBlank c = true :=
  List.dropWhile_eq_nil_iff

theorem trimStart_padded {front : List Char} (blank : ∀ c ∈ front, isBlank c = true)
    (cs : List Char) : trimStart (front ++ cs) = trimStart cs :=
  List.dropWhile_append_of_pos blank

theorem trimStart_of_first {cs : List Char} (first : ∀ c ∈ cs.head?, isBlank c = false) :
    trimStart cs = cs := by
  cases cs with
  | nil => rfl
  | cons c cs =>
    have hc : isBlank c = false := first c rfl
    simp [trimStart, hc]

theorem first_trimStart (cs : List Char) : ∀ c ∈ (trimStart cs).head?, isBlank c = false := by
  intro c hc
  have h := List.head?_dropWhile_not isBlank cs
  rw [trimStart, Option.mem_def] at hc
  rw [hc] at h
  exact h

theorem exists_front (cs : List Char) :
    ∃ front, cs = front ++ trimStart cs ∧ ∀ c ∈ front, isBlank c = true :=
  ⟨cs.takeWhile isBlank, List.takeWhile_append_dropWhile.symm,
    fun c hc => List.all_eq_true.mp List.all_takeWhile c hc⟩

/-! ## Both ends -/

/-- What is left at the start is not blank, so it is not all blank unless nothing is left. -/
theorem trim_eq_nil_iff (cs : List Char) : trim cs = [] ↔ ∀ c ∈ cs, isBlank c = true := by
  have hall : (∀ c ∈ trimStart cs, isBlank c = true) ↔ ∀ c ∈ cs, isBlank c = true := by
    constructor
    · intro h c hc
      rw [← List.takeWhile_append_dropWhile (p := isBlank) (l := cs), List.mem_append] at hc
      rcases hc with hc | hc
      · exact List.all_eq_true.mp List.all_takeWhile c hc
      · exact h c hc
    · intro h c hc
      exact h c ((List.dropWhile_sublist _).subset hc)
  rw [trim, List.reverse_eq_nil_iff, trimStart_eq_nil_iff, ← hall]
  simp only [List.mem_reverse]

theorem trim_padded {front back : List Char} (hfront : ∀ c ∈ front, isBlank c = true)
    (hback : ∀ c ∈ back, isBlank c = true) (cs : List Char) :
    trim (front ++ cs ++ back) = trim cs := by
  have hreverse : ∀ c ∈ back.reverse, isBlank c = true := fun c hc =>
    hback c (List.mem_reverse.mp hc)
  rw [trim, List.append_assoc, trimStart_padded hfront, trim]
  by_cases hcs : trimStart cs = []
  · have hnone : trimStart (cs ++ back) = [] := by
      rw [trimStart_eq_nil_iff] at hcs ⊢
      intro c hc
      rcases List.mem_append.mp hc with hc | hc
      · exact hcs c hc
      · exact hback c hc
    rw [hnone, hcs]
  · have hsome : trimStart (cs ++ back) = trimStart cs ++ back := by
      rw [trimStart, List.dropWhile_append, if_neg]
      · rfl
      · rw [List.isEmpty_iff]
        exact hcs
    rw [hsome, List.reverse_append, trimStart_padded hreverse]

theorem trim_of_ends {core : List Char} (first : ∀ c ∈ core.head?, isBlank c = false)
    (last : ∀ c ∈ core.getLast?, isBlank c = false) : trim core = core := by
  have hlast : ∀ c ∈ core.reverse.head?, isBlank c = false := by
    rw [List.head?_reverse]
    exact last
  rw [trim, trimStart_of_first first, trimStart_of_first hlast, List.reverse_reverse]

theorem trim_of_trims {cs core : List Char} (h : Trims cs core) : trim cs = core := by
  obtain ⟨front, back, rfl, hfront, hback⟩ := h.padded
  rw [trim_padded hfront hback]
  exact trim_of_ends h.first h.last

theorem trims_trim (cs : List Char) : Trims cs (trim cs) := by
  obtain ⟨front, hcs, hfront⟩ := exists_front cs
  obtain ⟨back, hrest, hback⟩ := exists_front (trimStart cs).reverse
  have hsplit : trimStart cs = trim cs ++ back.reverse := by
    rw [← List.reverse_reverse (trimStart cs), hrest, List.reverse_append]
    rfl
  refine ⟨⟨front, back.reverse, ?_, hfront, ?_⟩, ?_, ?_⟩
  · rw [List.append_assoc, ← hsplit]
    exact hcs
  · intro c hc
    exact hback c (List.mem_reverse.mp hc)
  · -- The core begins where the whole does, unless nothing is left of it.
    intro c hc
    apply first_trimStart cs c
    rw [hsplit]
    cases hcore : trim cs with
    | nil =>
      rw [hcore] at hc
      cases hc
    | cons d ds =>
      rw [hcore] at hc
      exact hc
  · intro c hc
    rw [trim, List.getLast?_reverse] at hc
    exact first_trimStart _ c hc

theorem trims_iff (cs core : List Char) : Trims cs core ↔ trim cs = core := by
  constructor
  · exact trim_of_trims
  · rintro rfl
    exact trims_trim cs

/-! ## Other characters in the same places -/

section
variable {f : Char → Char} (same : ∀ c, isBlank (f c) = isBlank c)
include same

theorem trimStart_map (cs : List Char) : trimStart (cs.map f) = (trimStart cs).map f := by
  have hcomp : isBlank ∘ f = isBlank := funext same
  rw [trimStart, List.dropWhile_map, hcomp]
  rfl

theorem trim_map (cs : List Char) : trim (cs.map f) = (trim cs).map f := by
  rw [trim, trimStart_map same, ← List.map_reverse, trimStart_map same, ← List.map_reverse]
  rfl

end

end Registrar.Text
