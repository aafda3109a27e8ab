import Sluice.Text.Blank
/-!
# What trimming leaves

A trimmed text is what stands between the white space at the two ends of a text, and nothing of it is
left when there is nothing but white space.

* `Trimmed`: no white space at either end.
* `trimChars_spec`: what is cut off is white space, and what is left is trimmed.
* `trim_eq_empty_iff`: the texts of which nothing is left.
-/
namespace Sluice.Text

/-- No white space stands at either end. -/
def Trimmed (s : List Char) : Prop :=
  (∀ c ∈ s.head?, isBlank c = false) ∧ ∀ c ∈ s.getLast?, isBlank c = false

theorem trimLeft_spec (s : List Char) : ∃ front, s = front ++ trimLeft s ∧
    (∀ c ∈ front, isBlank c) ∧ ∀ c ∈ (trimLeft s).head?, isBlank c = false := by
  refine ⟨s.takeWhile isBlank, (List.takeWhile_append_dropWhile ..).symm, fun c hc =>
    List.all_eq_true.mp List.all_takeWhile c hc, fun c hc => ?_⟩
  have first := List.head?_dropWhile_not isBlank s
  rw [show (s.dropWhile isBlank).head? = some c from hc] at first
  exact first

theorem trimRight_spec (s : List Char) : ∃ back, s = trimRight s ++ back ∧
    (∀ c ∈ back, isBlank c) ∧ ∀ c ∈ (trimRight s).getLast?, isBlank c = false := by
  obtain ⟨front, split, blank, first⟩ := trimLeft_spec s.reverse
  refine ⟨front.reverse, ?_, fun c hc => blank c (List.mem_reverse.mp hc), fun c hc => ?_⟩
  · calc s = (front ++ trimLeft s.reverse).reverse := by rw [← split, List.reverse_reverse]
      _ = trimRight s ++ front.reverse := List.reverse_append
  · exact first c (by rwa [trimRight, List.getLast?_reverse] at hc)

/-- Trimming cuts off white space, and all of it. -/
theorem trimChars_spec (s : List Char) : ∃ front back, s = front ++ trimChars s ++ back ∧
    (∀ c ∈ front, isBlank c) ∧ (∀ c ∈ back, isBlank c) ∧ Trimmed (trimChars s) := by
  obtain ⟨front, left, blank, first⟩ := trimLeft_spec s
  obtain ⟨back, right, blank', last⟩ := trimRight_spec (trimLeft s)
  refine ⟨front, back, ?_, blank, blank', fun c hc => first c ?_, last⟩
  · rw [List.append_assoc, trimChars, ← right]
    exact left
  · -- what is left of the front is not cut off at the end
    rw [right, List.head?_append]
    exact Option.or_eq_some_iff.mpr (.inl hc)

theorem trimChars_eq_nil_iff {s : List Char} : trimChars s = [] ↔ ∀ c ∈ s, isBlank c := by
  obtain ⟨front, back, split, blank, blank', first, -⟩ := trimChars_spec s
  constructor
  · intro h c hc
    rw [split, h, List.append_nil] at hc
    exact (List.mem_append.mp hc).elim (blank c) (blank' c)
  · intro h
    cases kept : trimChars s with
    | nil => rfl
    | cons c cs =>
      have shown : isBlank c = false := first c (by rw [kept]; rfl)
      have hidden : isBlank c = true := h c (by rw [split, kept]; simp)
      rw [shown] at hidden
      cases hidden

theorem trimmed_trim (s : String) : Trimmed (trim s).toList := by
  obtain ⟨_, _, -, -, -, trimmed⟩ := trimChars_spec s.toList
  rwa [trim, String.toList_ofList]

/-- Nothing is left of the texts that hold nothing but white space. -/
theorem trim_eq_empty_iff {s : String} : trim s = "" ↔ isBlankText s = true := by
  rw [trim, String.ofList_eq_empty_iff, trimChars_eq_nil_iff, isBlankText, List.all_eq_true]

end Sluice.Text
