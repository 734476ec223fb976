import CostView.Text.Blank
import Mathlib.Data.List.DropRight

/-!
# Trimmed texts

Trimming drops blanks at both ends of a text and nothing in between.  What is left is empty or ends
in a character that is no blank, so an end of it that consists of blanks is empty.  A text that
neither starts nor ends in a blank stays as it is, and for that only its two ends count.
-/

namespace CostView.Text

variable {p : Char → Bool} {s : List Char} {c : Char}

theorem trimBoth_cons (hc : p c = false) : trimBoth p (c :: s) = (c :: s).rdropWhile p := by
  rw [trimBoth, List.dropWhile_cons, hc]
  rfl

/-- A text of which nothing is left consists of what is dropped. -/
theorem of_trimBoth_eq_nil (h : trimBoth p s = []) {x : Char} (hx : x ∈ s) : p x = true := by
  have hdropped : ∀ y ∈ s.dropWhile p, p y = true := by
    have hnil : (s.dropWhile p).rdropWhile p = [] := h
    exact List.rdropWhile_eq_nil_iff.mp hnil
  rw [← List.takeWhile_append_dropWhile (p := p) (l := s), List.mem_append] at hx
  rcases hx with hfront | hback
  · exact List.mem_takeWhile_imp hfront
  · exact hdropped x hback

/-- Nothing is dropped of a text in which nothing is to be dropped. -/
theorem trimBoth_eq_self (h : ∀ x ∈ s, p x = false) : trimBoth p s = s := by
  have hkept (s : List Char) (h : ∀ x ∈ s, p x = false) : s.dropWhile p = s := by
    cases s with
    | nil => rfl
    | cons c s => rw [List.dropWhile_cons_of_neg (by simp [h c List.mem_cons_self])]
  rw [trimBoth, hkept s h, hkept _ (by simpa using h), List.reverse_reverse]

theorem mem_of_mem_trimBoth {x : Char} (h : x ∈ trimBoth p s) : x ∈ s := by
  rw [trimBoth, List.mem_reverse] at h
  have hfront := (List.dropWhile_suffix _).subset h
  rw [List.mem_reverse] at hfront
  exact (List.dropWhile_suffix p).subset hfront

/-- A text that starts with no blank is trimmed at its end only. -/
theorem exists_trim_cons (hc : isBlank c = false) :
    ∃ rest blanks, trim (c :: s) = c :: rest ∧ s = rest ++ blanks ∧
      ∀ x ∈ blanks, isBlank x = true := by
  have htrim : trim (c :: s) = (c :: s).rdropWhile isBlank := trimBoth_cons hc
  have hsplit : trim (c :: s) ++ (c :: s).rtakeWhile isBlank = c :: s := by
    rw [htrim, List.rdropWhile_append_rtakeWhile]
  have hblanks : ∀ x ∈ (c :: s).rtakeWhile isBlank, isBlank x = true :=
    fun x => List.mem_rtakeWhile_imp
  cases hrest : trim (c :: s) with
  | nil =>
      have hmem : c ∈ (c :: s).rtakeWhile isBlank := by
        rw [hrest, List.nil_append] at hsplit
        rw [hsplit]
        exact List.mem_cons_self
      rw [hblanks c hmem] at hc
      cases hc
  | cons d rest =>
      rw [hrest] at hsplit
      obtain ⟨rfl, hs⟩ := List.cons.inj hsplit
      exact ⟨rest, _, rfl, hs.symm, hblanks⟩

/-- A trimmed text ends in no blank. -/
theorem isBlank_of_suffix_trim (h : [c] <:+ trim s) : isBlank c = false := by
  obtain ⟨front, hfront⟩ := h
  have htrim : (s.dropWhile isBlank).rdropWhile isBlank = front ++ [c] := hfront.symm
  have hnot := List.rdropWhile_last_not isBlank (s.dropWhile isBlank) (by simp [htrim])
  simpa [htrim] using hnot

/-- So nothing but blanks is no end of it, unless it is empty. -/
theorem eq_nil_of_suffix_trim {r : List Char} (h : r <:+ trim s) (hblank : trim r = []) :
    r = [] := by
  rcases List.eq_nil_or_concat r with hnil | ⟨front, a, rfl⟩
  · exact hnil
  · have ha : isBlank a = true := of_trimBoth_eq_nil hblank (by simp)
    have hend : [a] <:+ trim s := (List.suffix_append front [a]).trans (by simpa using h)
    rw [isBlank_of_suffix_trim hend] at ha
    cases ha

/-! ### What is dropped at the end -/

theorem rdropWhile_append_of_eq_nil (front : List Char) (h : s.rdropWhile p = []) :
    (front ++ s).rdropWhile p = front.rdropWhile p := by
  have hall : ∀ x ∈ s.reverse, p x = true := by
    simpa using List.rdropWhile_eq_nil_iff.mp h
  rw [List.rdropWhile, List.reverse_append, List.dropWhile_append_of_pos hall, List.rdropWhile]

theorem rdropWhile_append_of_ne_nil (front : List Char) (h : s.rdropWhile p ≠ []) :
    (front ++ s).rdropWhile p = front ++ s.rdropWhile p := by
  have hne : ¬ (s.reverse.dropWhile p).isEmpty = true := by
    simpa [List.rdropWhile] using h
  rw [List.rdropWhile, List.reverse_append, List.dropWhile_append, if_neg hne,
    List.reverse_append, List.reverse_reverse, List.rdropWhile]

/-- Nothing is dropped in front of a character that is kept. -/
theorem rdropWhile_append (front : List Char) (hc : p c = false) (s : List Char) :
    (front ++ c :: s).rdropWhile p = front ++ c :: s.rdropWhile p := by
  by_cases hnil : s.rdropWhile p = []
  · have hfront := rdropWhile_append_of_eq_nil (front ++ [c]) hnil
    rw [List.append_assoc, List.singleton_append] at hfront
    rw [hfront, hnil]
    exact List.rdropWhile_concat_neg _ _ _ (by simp [hc])
  · have hfront := rdropWhile_append_of_ne_nil (front ++ [c]) hnil
    rwa [List.append_assoc, List.append_assoc, List.singleton_append,
      List.singleton_append] at hfront

/-! ### Texts that stay as they are -/

/-- A text that was trimmed has nothing left to be trimmed. -/
theorem trimBoth_trimBoth : trimBoth p (trimBoth p s) = trimBoth p s := by
  have htrimmed : trimBoth p s = (s.dropWhile p).rdropWhile p := rfl
  have hstart : (trimBoth p s).dropWhile p = trimBoth p s := by
    rw [List.dropWhile_eq_self_iff]
    intro hpos
    -- The first character was the first already when only the front was trimmed.
    obtain ⟨tail, htail⟩ : trimBoth p s <+: s.dropWhile p := List.rdropWhile_prefix p _
    have hfront : 0 < (s.dropWhile p).length := by
      rw [← htail, List.length_append]
      omega
    have hkept := List.dropWhile_get_zero_not p s hfront
    simpa [← htail, List.getElem_append_left hpos] using hkept
  change ((trimBoth p s).dropWhile p).rdropWhile p = trimBoth p s
  rw [hstart, htrimmed, List.rdropWhile_idempotent]

theorem trim_trim : trim (trim s) = trim s :=
  trimBoth_trimBoth

/-- A text that does not get shorter stays as it is. -/
theorem trim_eq_self_of_length_le (h : s.length ≤ (trim s).length) : trim s = s := by
  have hback : trim s <+: s.dropWhile isBlank := List.rdropWhile_prefix isBlank _
  have hfront : s.dropWhile isBlank <:+ s := List.dropWhile_suffix isBlank
  have hdropped : s.dropWhile isBlank = s := hfront.eq_of_length_le (h.trans hback.length_le)
  rw [hdropped] at hback
  exact hback.eq_of_length_le h

/-- A text that neither starts nor ends in a blank. -/
structure Tight (s : List Char) : Prop where
  first : ∃ c rest, s = c :: rest ∧ isBlank c = false
  last : ∃ rest c, s = rest ++ [c] ∧ isBlank c = false

theorem tight_of_forall (hs : s ≠ []) (h : ∀ c ∈ s, isBlank c = false) : Tight s := by
  constructor
  · obtain ⟨c, rest, rfl⟩ := List.exists_cons_of_ne_nil hs
    exact ⟨c, rest, rfl, h c List.mem_cons_self⟩
  · rcases List.eq_nil_or_concat s with hnil | ⟨rest, c, hconcat⟩
    · exact absurd hnil hs
    · rw [List.concat_eq_append] at hconcat
      exact ⟨rest, c, hconcat, h c (by simp [hconcat])⟩

theorem tight_singleton {c : Char} (h : isBlank c = false) : Tight [c] :=
  tight_of_forall (List.cons_ne_nil c []) (List.forall_mem_singleton.mpr h)

/-- What stands between the two ends does not matter. -/
theorem Tight.append {t : List Char} (hs : Tight s) (ht : Tight t) (between : List Char) :
    Tight (s ++ (between ++ t)) := by
  obtain ⟨c, rest, rfl, hc⟩ := hs.first
  obtain ⟨front, d, rfl, hd⟩ := ht.last
  exact ⟨⟨c, _, rfl, hc⟩, ⟨c :: rest ++ (between ++ front), d, by simp, hd⟩⟩

theorem Tight.trim_eq (h : Tight s) : trim s = s := by
  obtain ⟨c, rest, hfirst, hc⟩ := h.first
  obtain ⟨front, d, hlast, hd⟩ := h.last
  rw [trim, hfirst, trimBoth_cons hc, ← hfirst, hlast]
  exact List.rdropWhile_concat_neg _ _ _ (by simp [hd])

end CostView.Text
