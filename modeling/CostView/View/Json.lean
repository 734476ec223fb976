import CostView.Json.Value
import CostView.View.State

/-!
# View states and snapshots as JSON

A state is an object with the members `columns`, from names to type texts or null, and `map_keys`,
from names to arrays of keys.  Reading is more liberal than writing: further members are ignored,
`map_keys` may be absent, and the members may stand in an array in their order.
-/

namespace CostView

namespace ViewState

/-- A state as a JSON value. -/
def toJson (s : ViewState) : JsonValue :=
  .object
    [("columns", .object (s.columns.toList.map fun e =>
        (e.1, e.2.elim .null fun type => .string type.text))),
      ("map_keys", .object (s.mapKeys.toList.map fun e =>
        (e.1, .array (e.2.toList.map .string))))]

/-- The columns of a state; of two types of one column the last counts. -/
def columnsOfJson? (value : JsonValue) : Option (Std.ExtTreeMap String (Option SqlType)) := do
  let members ← value.members?
  let columns ← members.mapM fun m =>
    (m.2.nullable? JsonValue.string?).map fun type => (m.1, type.map SqlType.parse)
  return .ofList columns

/-- The keys of a state; of two lists of keys for one column the last counts. -/
def mapKeysOfJson? (value : JsonValue) :
    Option (Std.ExtTreeMap String (Std.ExtTreeSet String)) := do
  let members ← value.members?
  let keys ← members.mapM fun m => do
    let items ← m.2.items?
    let texts ← items.mapM JsonValue.string?
    return (m.1, Std.ExtTreeSet.ofList texts)
  return .ofList keys

/-- The state that a JSON value stands for. -/
def ofJson? : JsonValue → Option ViewState
  | .array [columns] => do return ⟨← columnsOfJson? columns, ∅⟩
  | .array [columns, mapKeys] => do return ⟨← columnsOfJson? columns, ← mapKeysOfJson? mapKeys⟩
  | .object members => do
    let columns ← (← JsonValue.member? members "columns")
    let mapKeys ← JsonValue.member? members "map_keys"
    return ⟨← columnsOfJson? columns, ← mapKeys.elim (some ∅) mapKeysOfJson?⟩
  | _ => none

end ViewState

namespace Snapshot

/-- A snapshot as a JSON value. -/
def toJson : Snapshot → JsonValue
  | .fresh => .string "Fresh"
  | .compiled state => .object [("Compiled", state.toJson)]

/-- The snapshot that a JSON value stands for. -/
def ofJson? : JsonValue → Option Snapshot
  | .string "Fresh" => some .fresh
  | .object [("Fresh", .null)] => some .fresh
  | .object [("Compiled", value)] => (ViewState.ofJson? value).map .compiled
  | _ => none

end Snapshot

end CostView
