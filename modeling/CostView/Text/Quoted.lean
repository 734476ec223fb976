/-!
# Quoted text

A quoted text stands between two quote characters and writes every quote inside it twice.  Reading
stops at the first quote that is not one of a pair, so quoted text cannot break out of its quotes:
`scan_encode` gives back exactly the text and what follows it.
-/

namespace CostView.Text.Quoted

/-- Write every `q` twice. -/
def encode (q : Char) : List Char → List Char
  | [] => []
  | c :: rest => if c = q then q :: q :: encode q rest else c :: encode q rest

/-- The text between two quotes, with the quotes inside it doubled. -/
def enclose (q : Char) (s : List Char) : List Char :=
  q :: (encode q s ++ [q])

/-- After an opening quote: the text up to the closing quote and what follows that quote; nothing
if the text is never closed. -/
def scan (q : Char) : List Char → Option (List Char × List Char)
  | [] => none
  | c :: rest =>
    if c = q then
      match rest with
      | d :: rest' =>
        if d = q then (scan q rest').map fun p => (q :: p.1, p.2) else some ([], d :: rest')
      | [] => some ([], [])
    else (scan q rest).map fun p => (c :: p.1, p.2)

/-- What stands after the last quote; all of it if there is no quote.  For a text that is opened
and never closed this is where the search for the closing quote began last. -/
def afterLast (q : Char) (s : List Char) : List Char :=
  (s.reverse.takeWhile (· ≠ q)).reverse

theorem scan_shorter {q : Char} {s v r : List Char} (h : scan q s = some (v, r)) :
    r.length < s.length := by
  fun_induction scan q s generalizing v with
  | case1 => simp at h
  | case2 rest ih =>
    simp only [Option.map_eq_some_iff, Prod.mk.injEq, Prod.exists] at h
    obtain ⟨v', r', hscan, -, rfl⟩ := h
    have := ih hscan
    simp only [List.length_cons]
    omega
  | case3 d rest hd =>
    simp only [Option.some.injEq, Prod.mk.injEq] at h
    simp [← h.2]
  | case4 =>
    simp only [Option.some.injEq, Prod.mk.injEq] at h
    simp [← h.2]
  | case5 c rest hc ih =>
    simp only [Option.map_eq_some_iff, Prod.mk.injEq, Prod.exists] at h
    obtain ⟨v', r', hscan, -, rfl⟩ := h
    have := ih hscan
    simp only [List.length_cons]
    omega

/-- A character that is no quote belongs to the text. -/
theorem scan_cons_of_ne {q c : Char} (h : c ≠ q) (s : List Char) :
    scan q (c :: s) = (scan q s).map fun p => (c :: p.1, p.2) := by
  rw [scan.eq_def]
  simp only [if_neg h]

/-- Reading gives back a text that was written, and what follows its closing quote, provided that
no further quote comes right after. -/
theorem scan_encode {q : Char} {rest : List Char} (h : rest.head? ≠ some q) (s : List Char) :
    scan q (encode q s ++ q :: rest) = some (s, rest) := by
  induction s with
  | nil =>
    cases rest with
    | nil => simp [encode, scan]
    | cons d rest =>
      have hd : d ≠ q := fun e => h (by simp [e])
      simp [encode, scan, hd]
  | cons c s ih =>
    by_cases hc : c = q
    · simp [encode, scan, hc, ih]
    · rw [encode, if_neg hc, List.cons_append, scan_cons_of_ne hc, ih]
      rfl

end CostView.Text.Quoted
