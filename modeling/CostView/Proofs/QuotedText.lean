import CostView.Expression.Parser
import CostView.Expression.Printer

/-!
# Quoted text cannot break out

Between quotes every quote stands twice, so one that stands alone is the end.  Reading is the
inverse of writing: what is read was written, and what was written is read, as far as no further
quote follows right after the closing one.  Nothing is asked of the text between the quotes.
-/

namespace CostView

namespace Text.Quoted

variable {q : Char} {s v r : List Char}

/-! ### What is written -/

theorem encode_eq_flatMap (q : Char) (s : List Char) :
    encode q s = s.flatMap fun c => if c = q then [q, q] else [c] := by
  induction s with
  | nil => rfl
  | cons c s ih =>
      rw [encode, List.flatMap_cons, ← ih]
      split <;> rfl

theorem subset_encode (q : Char) (s : List Char) : s ⊆ encode q s := by
  intro c hc
  rw [encode_eq_flatMap, List.mem_flatMap]
  refine ⟨c, hc, ?_⟩
  by_cases h : c = q
  · simp [h]
  · simp [h]

theorem length_le_length_encode (q : Char) (s : List Char) : s.length ≤ (encode q s).length := by
  induction s with
  | nil => exact Nat.le_refl _
  | cons c s ih =>
      rw [encode]
      split <;> simp only [List.length_cons] <;> omega

/-- A text between quotes is longer than it was. -/
theorem length_lt_length_enclose (q : Char) (s : List Char) :
    s.length < (enclose q s).length := by
  have hlength := length_le_length_encode q s
  rw [enclose, List.length_cons, List.length_append]
  omega

/-- A text without quotes is written as it stands. -/
theorem encode_eq_self_iff : encode q s = s ↔ q ∉ s := by
  induction s with
  | nil => simp [encode]
  | cons c s ih =>
      rw [encode]
      by_cases hc : c = q
      · have hlonger := length_le_length_encode q s
        rw [if_pos hc]
        simp only [hc, List.mem_cons, true_or, not_true, iff_false]
        intro heq
        have hsame := congrArg List.length heq
        simp only [List.length_cons] at hsame
        omega
      · rw [if_neg hc]
        simp [ih, Ne.symm hc]

theorem enclose_append (q : Char) (s r : List Char) :
    enclose q s ++ r = q :: (encode q s ++ q :: r) := by
  simp [enclose]

/-! ### What is read -/

/-- What is read from a quoted text is what was written, and no quote comes right after. -/
theorem scan_eq_some_iff :
    scan q s = some (v, r) ↔ s = encode q v ++ q :: r ∧ r.head? ≠ some q := by
  constructor
  · intro h
    fun_induction scan q s generalizing v with
    | case1 => cases h
    | case2 rest ih =>
        simp only [Option.map_eq_some_iff, Prod.mk.injEq, Prod.exists] at h
        obtain ⟨v', r', hscan, rfl, rfl⟩ := h
        obtain ⟨rfl, hend⟩ := ih hscan
        exact ⟨by simp [encode], hend⟩
    | case3 d rest hd =>
        obtain ⟨rfl, rfl⟩ := Prod.mk.inj (Option.some.inj h)
        exact ⟨rfl, by simp [hd]⟩
    | case4 =>
        obtain ⟨rfl, rfl⟩ := Prod.mk.inj (Option.some.inj h)
        exact ⟨rfl, by simp⟩
    | case5 c rest hc ih =>
        simp only [Option.map_eq_some_iff, Prod.mk.injEq, Prod.exists] at h
        obtain ⟨v', r', hscan, rfl, rfl⟩ := h
        obtain ⟨rfl, hend⟩ := ih hscan
        exact ⟨by simp [encode, hc], hend⟩
  · rintro ⟨rfl, hend⟩
    exact scan_encode hend v

end Text.Quoted

namespace Expr

open Text.Quoted

variable {q : Char} {s t rest : List Char} {value : String}

theorem readQuoted?_cons_self (q : Char) (s : List Char) :
    (readQuoted? q (q :: s)).map (fun r => (r.rest, r.value)) =
      (scan q s).map fun p => (p.2, String.ofList p.1) := by
  rw [readQuoted?, if_pos rfl]
  split
  · next v r hscan =>
      show some (r, String.ofList v) = _
      rw [hscan]
      rfl
  · next hscan =>
      rw [hscan]
      rfl

theorem readQuoted?_eq_none (h : s.head? ≠ some q) : readQuoted? q s = none := by
  cases s with
  | nil => rfl
  | cons c rest =>
      have hc : c ≠ q := fun heq => h (by rw [heq]; rfl)
      rw [readQuoted?, if_neg hc]

/-- What is read between quotes was written with the quotes inside it doubled, and no quote comes
right after; and what was written so is read. -/
theorem map_readQuoted?_eq_some_iff :
    (readQuoted? q s).map (fun r => (r.rest, r.value)) = some (rest, value) ↔
      s = enclose q value.toList ++ rest ∧ rest.head? ≠ some q := by
  by_cases hopen : s.head? = some q
  · obtain ⟨s, rfl⟩ := List.head?_eq_some_iff.mp hopen
    rw [readQuoted?_cons_self, enclose_append, List.cons_inj_right, ← scan_eq_some_iff]
    constructor
    · intro h
      obtain ⟨p, hscan, hp⟩ := Option.map_eq_some_iff.mp h
      obtain ⟨rfl, rfl⟩ := Prod.mk.inj hp
      rw [hscan, String.toList_ofList]
    · intro h
      rw [h, Option.map_some, String.ofList_toList]
  · rw [readQuoted?_eq_none hopen]
    refine iff_of_false (Option.some_ne_none _).symm ?_
    rintro ⟨rfl, -⟩
    exact hopen rfl

/-- Of five quotes in a row two pairs belong to the text, and the last one ends it. -/
example : (readQuoted? '\'' "'a'''''b".toList).map (fun r => (r.rest, r.value)) =
    some (['b'], "a''") := by
  decide +kernel

/-- A quoted text reads back as what was written, and what follows it is left. -/
theorem readQuoted?_enclose (ht : t.head? ≠ some q) (s : List Char) :
    ∃ shorter, readQuoted? q (enclose q s ++ t) = some ⟨String.ofList s, t, shorter⟩ := by
  have hread : (readQuoted? q (enclose q s ++ t)).map (fun r => (r.rest, r.value)) =
      some (t, String.ofList s) := by
    rw [map_readQuoted?_eq_some_iff, String.toList_ofList]
    exact ⟨rfl, ht⟩
  obtain ⟨⟨value, rest, shorter⟩, hsome, hparts⟩ := Option.map_eq_some_iff.mp hread
  obtain ⟨hrest, hvalue⟩ : rest = t ∧ value = String.ofList s := Prod.mk.inj hparts
  subst hrest hvalue
  exact ⟨shorter, hsome⟩

/-- What is read between quotes was written with the quotes inside it doubled. -/
theorem enclose_of_readQuoted? {r : Reading String s} (h : readQuoted? q s = some r) :
    s = enclose q r.value.toList ++ r.rest := by
  have hparts : (readQuoted? q s).map (fun r => (r.rest, r.value)) = some (r.rest, r.value) := by
    rw [h]
    rfl
  exact (map_readQuoted?_eq_some_iff.mp hparts).1

/-- A text that was between quotes has its characters from there, and what is left is the end. -/
theorem of_readQuoted? {r : Reading String s} (h : readQuoted? q s = some r) :
    r.value.toList ⊆ s ∧ r.rest <:+ s := by
  have hshape := enclose_of_readQuoted? h
  refine ⟨fun c hc => ?_, ⟨_, hshape.symm⟩⟩
  have hwritten := subset_encode q _ hc
  rw [hshape, enclose_append]
  simp [hwritten]

/-- Whatever stands between two quotes, with the quotes inside it doubled, is read as it was, and
what follows the closing quote is left as it is; nothing else is read.  Texts are written so with
single quotes and names with double quotes. -/
theorem readQuoted?_inverse_quote (rest : List Char) (value : String) :
    (∀ q text, (readQuoted? q text).map (fun r => (r.rest, r.value)) = some (rest, value) ↔
      text = q :: (value.toList.flatMap (fun c => if c = q then [q, q] else [c]) ++ q :: rest) ∧
        rest.head? ≠ some q) ∧
    (∀ text, (readQuoted? '\'' text).map (fun r => (r.rest, r.value)) = some (rest, value) ↔
      text = (quoteText value).toList ++ rest ∧ rest.head? ≠ some '\'') ∧
    ∀ text, (readQuoted? '"' text).map (fun r => (r.rest, r.value)) = some (rest, value) ↔
      text = (Expr.quoted value).sql.toList ++ rest ∧ rest.head? ≠ some '"' := by
  refine ⟨fun q text => ?_, fun text => ?_, fun text => ?_⟩
  · rw [map_readQuoted?_eq_some_iff, enclose_append, encode_eq_flatMap]
  · rw [map_readQuoted?_eq_some_iff, quoteText, String.toList_ofList]
  · rw [map_readQuoted?_eq_some_iff, toList_sql, print]

end Expr
end CostView
