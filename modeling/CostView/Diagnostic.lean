/-!
# Diagnostics

A missing column, a field that cannot be derived and an assembled map are worth one message each
for a whole run, however often they are met.  What is computed only collects notices; the journal
that they are entered into drops the repetitions, so no result depends on what was reported before.
-/

namespace CostView

/-- How severe a message is, the most severe first. -/
inductive Level where
  | error
  | warn
  | info
  | debug
deriving DecidableEq, Repr

namespace Level

/-- The position of a level, the most severe first. -/
def rank : Level → Nat
  | .error => 0
  | .warn => 1
  | .info => 2
  | .debug => 3

/-- The name of a level. -/
def name : Level → String
  | .error => "ERROR"
  | .warn => "WARN"
  | .info => "INFO"
  | .debug => "DEBUG"

end Level

/-- The kinds of messages that are given once for each subject. -/
inductive DiagnosticKind where
  | missingRequirement
  | unknownField
  | mapContainer
deriving DecidableEq, Repr

/-- The level of a kind of message. -/
def DiagnosticKind.level : DiagnosticKind → Level
  | .missingRequirement => .warn
  | .unknownField => .error
  | .mapContainer => .debug

/-- A message: one that is always given, or one that is given once for its kind and subject. -/
inductive Notice where
  | line (level : Level) (text : String)
  | once (kind : DiagnosticKind) (subject text : String)
deriving DecidableEq, Repr

/-- The messages given so far, in order, and what they were given about. -/
structure Journal where
  reported : List (DiagnosticKind × String)
  lines : List (Level × String)
deriving DecidableEq, Repr

namespace Journal

/-- Nothing has been reported. -/
def empty : Journal := ⟨[], []⟩

/-- Whether a message of a kind was given about a subject. -/
def wasReported (j : Journal) (kind : DiagnosticKind) (subject : String) : Bool :=
  j.reported.contains (kind, subject)

/-- Enter a notice. -/
def note (j : Journal) : Notice → Journal
  | .line level text => { j with lines := j.lines ++ [(level, text)] }
  | .once kind subject text =>
    if j.wasReported kind subject then j
    else ⟨(kind, subject) :: j.reported, j.lines ++ [(kind.level, text)]⟩

/-- Enter notices in order. -/
def noteAll (j : Journal) (notices : List Notice) : Journal :=
  notices.foldl note j

/-- The messages that are at least as severe as a level. -/
def shown (j : Journal) (level : Level) : List (Level × String) :=
  j.lines.filter fun l => l.1.rank ≤ level.rank

end Journal

/-- A result together with the notices that its computation gave. -/
structure Noted (α : Type) where
  value : α
  notices : List Notice

namespace Noted

instance : Monad Noted where
  pure a := ⟨a, []⟩
  bind x f := ⟨(f x.value).value, x.notices ++ (f x.value).notices⟩

@[simp] theorem value_pure {α : Type} (a : α) : (pure a : Noted α).value = a := rfl

@[simp] theorem notices_pure {α : Type} (a : α) : (pure a : Noted α).notices = [] := rfl

@[simp] theorem value_bind {α β : Type} (x : Noted α) (f : α → Noted β) :
    (x >>= f).value = (f x.value).value := rfl

@[simp] theorem notices_bind {α β : Type} (x : Noted α) (f : α → Noted β) :
    (x >>= f).notices = x.notices ++ (f x.value).notices := rfl

/-- Give one notice. -/
def tell (notice : Notice) : Noted Unit := ⟨(), [notice]⟩

end Noted

end CostView
