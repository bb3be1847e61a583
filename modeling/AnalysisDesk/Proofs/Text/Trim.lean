import AnalysisDesk.Text.Blank
import Mathlib.Data.List.TakeWhile

/-! # Trimming
A text is trimmed to what is left of it between the blank characters at its ends. `TrimsTo` says so
without saying how to find it: the text is cut in three, with nothing but blank characters in the
outer parts and none at the ends of the middle one. -/

namespace AnalysisDesk.Text

/-- **A text trims to a part of it**: the characters around that part are blank, those at its ends
are not. -/
structure TrimsTo (text kept : List Char) : Prop where
  /-- The text is the part with blank characters around it. -/
  around : ∃ front back, text = front ++ kept ++ back ∧ (∀ c ∈ front, isBlank c = true) ∧
    ∀ c ∈ back, isBlank c = true
  /-- The part does not begin with a blank character. -/
  first : ∀ c, kept.head? = some c → isBlank c = false
  /-- The part does not end with a blank character. -/
  last : ∀ c, kept.getLast? = some c → isBlank c = false

/-- The characters dropped from the front pass the test. -/
theorem exists_append_dropWhile (p : Char → Bool) (text : List Char) :
    ∃ front, text = front ++ text.dropWhile p ∧ ∀ c ∈ front, p c = true :=
  ⟨text.takeWhile p, List.takeWhile_append_dropWhile.symm, fun _ => List.mem_takeWhile_imp⟩

/-- The first character that is not dropped fails the test. -/
theorem head?_dropWhile_eq_false {p : Char → Bool} (text : List Char) {c : Char}
    (first : (text.dropWhile p).head? = some c) : p c = false := by
  have failed := List.head?_dropWhile_not p text
  rw [first] at failed
  simpa using failed

/-- Characters that pass the test are dropped up to the first one that fails it. -/
theorem dropWhile_append_of_forall {p : Char → Bool} {front rest : List Char}
    (passed : ∀ c ∈ front, p c = true) (first : ∀ c, rest.head? = some c → p c = false) :
    (front ++ rest).dropWhile p = rest := by
  rw [List.dropWhile_append_of_pos passed]
  cases rest with
  | nil => rfl
  | cons c rest => exact List.dropWhile_cons_of_neg (by simp [first c rfl])

/-- Trimming leaves what the text trims to. -/
theorem trimsTo_trimBlank (text : List Char) : TrimsTo text (trimBlank text) := by
  obtain ⟨front, whole, blankFront⟩ := exists_append_dropWhile isBlank text
  obtain ⟨back, rest, blankBack⟩ :=
    exists_append_dropWhile isBlank (text.dropWhile isBlank).reverse
  have cut : text.dropWhile isBlank = trimBlank text ++ back.reverse := by
    rw [← List.reverse_reverse (text.dropWhile isBlank), rest, List.reverse_append]
    rfl
  refine ⟨⟨front, back.reverse, ?_, blankFront, ?_⟩, fun c first => ?_, fun c last => ?_⟩
  · rw [List.append_assoc, ← cut]
    exact whole
  · exact fun c h => blankBack c (List.mem_reverse.mp h)
  · -- The first character kept is also the first one that was not dropped from the front.
    refine head?_dropWhile_eq_false text ?_
    rw [cut, List.head?_append, first]
    rfl
  · unfold trimBlank at last
    rw [List.getLast?_reverse] at last
    exact head?_dropWhile_eq_false _ last

/-- **Trimming is determined**: a text trims to just one part of it. -/
theorem TrimsTo.trimBlank_eq {text kept : List Char} (h : TrimsTo text kept) :
    trimBlank text = kept := by
  obtain ⟨⟨front, back, rfl, blankFront, blankBack⟩, first, last⟩ := h
  have blankReverse : ∀ c ∈ back.reverse, isBlank c = true :=
    fun c h => blankBack c (List.mem_reverse.mp h)
  unfold trimBlank
  cases kept with
  | nil =>
    -- Nothing is kept of a blank text, and all of it is dropped from the front.
    have blank : ∀ c ∈ front ++ [] ++ back, isBlank c = true := by
      rw [List.append_nil]
      exact fun c h => (List.mem_append.mp h).elim (blankFront c) (blankBack c)
    rw [List.dropWhile_eq_nil_iff.mpr blank]
    rfl
  | cons c kept =>
    have begun : ∀ c', (c :: kept ++ back).head? = some c' → isBlank c' = false := first
    have ended : ∀ c', (c :: kept).reverse.head? = some c' → isBlank c' = false := by
      rw [List.head?_reverse]
      exact last
    rw [List.append_assoc, dropWhile_append_of_forall blankFront begun, List.reverse_append,
      dropWhile_append_of_forall blankReverse ended, List.reverse_reverse]

end AnalysisDesk.Text
