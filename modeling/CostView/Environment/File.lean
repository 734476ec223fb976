import CostView.Environment.Assignment
import CostView.Text.Split

/-!
# Files of assignments

A file holds one assignment a line.  A line goes on over a line break while quotes are open, and a
comment ends it.  The assignments before the first line that is none still count.
-/

namespace CostView.EnvironmentFile

/-- What is open at a place of a line.  A number sign starts a comment after a single blank. -/
inductive Quoting where
  | none
  | blank
  | escape
  | single
  | singleEscape
  | double
  | doubleEscape
deriving DecidableEq, Repr

/-- What is open after a character outside quotes. -/
def Quoting.open (c : Char) : Quoting :=
  if c = '\\' then .escape
  else if c = '"' then .double
  else if c = '\'' then .single
  else .none

/-- What is open after a character. -/
def Quoting.step (c : Char) : Quoting → Quoting
  | .none => if Text.isBlank c && c ≠ '\n' && c ≠ '\r' then .blank else .open c
  | .blank => .open c
  | .escape => .none
  | .single => if c = '\\' then .singleEscape else if c = '\'' then .none else .single
  | .singleEscape => .single
  | .double => if c = '\\' then .doubleEscape else if c = '"' then .none else .double
  | .doubleEscape => .double

/-- A line up to its break, and what follows the break. -/
def skipLine : List Char → List Char
  | [] => []
  | c :: rest => if c = '\n' then rest else skipLine rest

theorem length_skipLine_le (s : List Char) : (skipLine s).length ≤ s.length := by
  induction s with
  | nil => simp [skipLine]
  | cons c rest ih =>
    rw [skipLine]
    split
    · simp
    · simp only [List.length_cons]
      omega

/-- A line with all that belongs to it, and what follows; nothing if something is open at the end
of the file. -/
def scanLine (quoting : Quoting) : List Char → Option (List Char × List Char)
  | [] => if quoting = .none then some ([], []) else none
  | c :: rest =>
    if quoting = .blank && c = '#' then some ([], skipLine rest)
    else
      let next := quoting.step c
      if c = '\n' && next = .none then some ([], rest)
      else (scanLine next rest).map fun p => (c :: p.1, p.2)

theorem length_scanLine_lt {quoting : Quoting} {c : Char} {s line rest : List Char}
    (h : scanLine quoting (c :: s) = some (line, rest)) : rest.length < (c :: s).length := by
  induction s generalizing quoting c line with
  | nil =>
    simp only [scanLine] at h
    split at h
    · simp only [Option.some.injEq, Prod.mk.injEq] at h
      simp [← h.2, skipLine]
    · split at h
      · simp only [Option.some.injEq, Prod.mk.injEq] at h
        simp [← h.2]
      · split at h
        · simp only [Option.map_some, Option.some.injEq, Prod.mk.injEq] at h
          simp [← h.2]
        · simp at h
  | cons d s ih =>
    rw [scanLine] at h
    split at h
    · simp only [Option.some.injEq, Prod.mk.injEq] at h
      have := length_skipLine_le (d :: s)
      rw [← h.2]
      simp only [List.length_cons] at this ⊢
      omega
    · dsimp only at h
      split at h
      · simp only [Option.some.injEq, Prod.mk.injEq] at h
        simp [← h.2]
      · simp only [Option.map_eq_some_iff, Prod.mk.injEq, Prod.exists] at h
        obtain ⟨line', rest', hscan, -, rfl⟩ := h
        have := ih hscan
        simp only [List.length_cons] at this ⊢
        omega

/-- Whether a line is a comment as a whole. -/
def startsComment (s : List Char) : Bool :=
  ((s.takeWhile (· ≠ '\n')).dropWhile Text.isBlank).head? = some '#'

/-- The lines up to the first that is never closed. -/
def lines (s : List Char) : List (List Char) :=
  match s with
  | [] => []
  | c :: rest =>
    if startsComment (c :: rest) then lines (skipLine rest)
    else
      match _ : scanLine .none (c :: rest) with
      | none => []
      | some (line, following) => line :: lines following
termination_by s.length
decreasing_by
  · have := length_skipLine_le rest
    simp only [List.length_cons]
    omega
  · exact length_scanLine_lt ‹_›

/-- The assignments on lines up to the first that is none. -/
def assignments : List (List Char) → List Assignment
  | [] => []
  | line :: rest =>
    match Assignment.parse? line with
    | none => []
    | some none => assignments rest
    | some (some a) => a :: assignments rest

/-- The assignments in a file. -/
def parse (text : String) : List Assignment :=
  let s := match text.toList with
    | '\ufeff' :: rest => rest
    | s => s
  assignments (lines s)

/-- Where a file is looked for: in a directory and in those around it, the innermost first. -/
def paths (directory : String) : List String :=
  let parts := Text.splitAt '/' directory.toList
  (List.range parts.length).reverse.map fun n =>
    String.ofList (Text.join ['/'] (parts.take (n + 1))) ++ "/.env"

end CostView.EnvironmentFile
