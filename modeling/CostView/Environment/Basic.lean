import Std.Data.ExtTreeMap

/-!
# Environments

The variables that a process is given, by name.
-/

namespace CostView

/-- Variables and their values. -/
abbrev Environment := Std.ExtTreeMap String String

end CostView
