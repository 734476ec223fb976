/-!
# Splitting a text

A text is cut at every occurrence of a separator, so there is one more part than separators and a
part may be empty.
-/

namespace CostView.Text

/-- The parts of a text between separators. -/
def splitAt (separator : Char) : List Char → List (List Char)
  | [] => [[]]
  | c :: rest =>
    if c = separator then [] :: splitAt separator rest
    else
      match splitAt separator rest with
      | part :: parts => (c :: part) :: parts
      | [] => [[c]]

theorem splitAt_ne_nil (separator : Char) (s : List Char) : splitAt separator s ≠ [] := by
  cases s with
  | nil => simp [splitAt]
  | cons c rest =>
    rw [splitAt]
    split
    · simp
    · split <;> simp

/-- The parts on both sides of a separator are those of the two sides. -/
theorem splitAt_append (separator : Char) (s t : List Char) :
    splitAt separator (s ++ separator :: t) = splitAt separator s ++ splitAt separator t := by
  induction s with
  | nil => simp [splitAt]
  | cons c s ih =>
      rw [List.cons_append, splitAt, splitAt]
      by_cases hc : c = separator
      · rw [if_pos hc, if_pos hc, ih, List.cons_append]
      · rw [if_neg hc, if_neg hc, ih]
        cases hs : splitAt separator s with
        | nil => exact absurd hs (splitAt_ne_nil separator s)
        | cons part parts => rfl

/-- A text without a separator is one part. -/
theorem splitAt_of_notMem {separator : Char} {s : List Char} (h : separator ∉ s) :
    splitAt separator s = [s] := by
  induction s with
  | nil => rfl
  | cons c rest ih =>
      obtain ⟨hc, hrest⟩ := not_or.mp (mt List.mem_cons.mpr h)
      rw [splitAt, if_neg (Ne.symm hc), ih hrest]

/-- No part has a separator in it. -/
theorem notMem_of_mem_splitAt {separator : Char} {s part : List Char}
    (h : part ∈ splitAt separator s) : separator ∉ part := by
  induction s generalizing part with
  | nil =>
      rw [splitAt, List.mem_singleton] at h
      rw [h]
      exact List.not_mem_nil
  | cons c rest ih =>
      rw [splitAt] at h
      split at h
      · rcases List.mem_cons.mp h with rfl | hlater
        · exact List.not_mem_nil
        · exact ih hlater
      · next hc =>
          split at h
          · next first parts hsplit =>
              rw [hsplit] at ih
              rcases List.mem_cons.mp h with rfl | hlater
              · rw [List.mem_cons, not_or]
                exact ⟨Ne.symm hc, ih List.mem_cons_self⟩
              · exact ih (List.mem_cons_of_mem first hlater)
          · next hsplit => exact absurd hsplit (splitAt_ne_nil separator rest)

end CostView.Text
