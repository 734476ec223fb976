import CostView.Field
import CostView.FieldTable.BuiltIn
import CostView.Proofs.SettingsOverride
import CostView.Proofs.Trimming

/-!
# Settings out of an environment

The settings of a run are typed on a command line, or they stand in the variables of its
environment.  Both ways lead through the same rules, and what a setting is called on the way shows
in messages only.

The list of fields is a single text in an environment.  It is cut at every comma, also at one that
stands between the quotes of a field, so a field with a comma in it cannot be given there.  The two
ways agree just if there is no such field, or if the settings are refused both ways.
-/

namespace CostView

open FieldTable (builtIn)

namespace Settings

/-! ### Fields with commas between them -/

variable {text part : String} {fields : List String}

theorem splitFields_append (a b : String) :
    splitFields (a ++ "," ++ b) = splitFields a ++ splitFields b := by
  have hlist : (a ++ "," ++ b).toList = a.toList ++ ',' :: b.toList := by simp
  rw [splitFields, hlist, Text.splitAt_append, List.map_append, List.filter_append, List.map_append]
  rfl

/-- Each field of a list is split by itself. -/
theorem splitFields_intercalate (fields : List String) :
    splitFields (String.intercalate "," fields) = fields.flatMap splitFields := by
  induction fields with
  | nil => rfl
  | cons first rest ih =>
      cases rest with
      | nil => simp
      | cons second others =>
          rw [String.intercalate_cons_cons, splitFields_append, ih]
          rfl

theorem notMem_of_mem_splitFields (h : part ∈ splitFields text) : ',' ∉ part.toList := by
  simp only [splitFields, List.mem_map, List.mem_filter] at h
  obtain ⟨own, ⟨⟨cut, hcut, rfl⟩, -⟩, rfl⟩ := h
  rw [String.toList_ofList]
  exact fun hmem => Text.notMem_of_mem_splitAt hcut (Text.mem_of_mem_trimBoth hmem)

/-- A field without a comma stays whole. -/
theorem splitFields_of_notMem (htight : Text.Tight text.toList) (h : ',' ∉ text.toList) :
    splitFields text = [text] := by
  obtain ⟨c, rest, htext, -⟩ := htight.first
  have hne : text.toList ≠ [] := by simp [htext]
  simp [splitFields, Text.splitAt_of_notMem h, htight.trim_eq, hne]

/-- The fields of a list are those that were put into it just if none has a comma. -/
theorem splitFields_intercalate_eq_self_iff (htight : ∀ f ∈ fields, Text.Tight f.toList) :
    splitFields (String.intercalate "," fields) = fields ↔ ∀ f ∈ fields, ',' ∉ f.toList := by
  constructor
  · intro h f hf
    rw [← h] at hf
    exact notMem_of_mem_splitFields hf
  · intro h
    have hwhole : ∀ f ∈ fields, splitFields f = [f] :=
      fun f hf => splitFields_of_notMem (htight f hf) (h f hf)
    rw [splitFields_intercalate, List.flatMap_congr hwhole, List.flatMap_singleton']

end Settings

/-! ### Ways to settings that agree -/

/-- The kinds of reasons why there are no settings: a variable is missing, something cannot be read,
or rules are broken. -/
inductive SettingsError.Kind where
  | variable
  | reading
  | rules
deriving DecidableEq

/-- The kind of reason why there are no settings. -/
def SettingsError.kind : SettingsError → Kind
  | .missingVariable => .variable
  | .generation _ _ | .unreadable | .malformed _ => .reading
  | .invalid _ => .rules

namespace Settings

/-- Two ways to settings give the same ones, or both are refused for one kind of reason. -/
inductive Agree : Except SettingsError Settings → Except SettingsError Settings → Prop
  | given (s : Settings) : Agree (.ok s) (.ok s)
  | refused {e e' : SettingsError} (kind : e.kind = e'.kind) : Agree (.error e) (.error e')

variable {x y : Except SettingsError Settings} {s : Settings} {e : SettingsError} {typed : Typed}
  {sourceName targetName sourceName' targetName' : String} {own : List String}

theorem agree_iff : Agree x y ↔ (∃ s, x = .ok s ∧ y = .ok s) ∨
    ∃ e e', x = .error e ∧ y = .error e' ∧ e.kind = e'.kind := by
  constructor
  · rintro (⟨s⟩ | ⟨kind⟩)
    · exact Or.inl ⟨s, rfl, rfl⟩
    · exact Or.inr ⟨_, _, rfl, rfl, kind⟩
  · rintro (⟨s, rfl, rfl⟩ | ⟨e, e', rfl, rfl, kind⟩)
    · exact .given s
    · exact .refused kind

theorem Agree.refl (x : Except SettingsError Settings) : Agree x x := by
  cases x with
  | error e => exact .refused rfl
  | ok s => exact .given s

theorem kind_of_validate_eq_error (h : s.validate = .error e) : e.kind = .rules := by
  rw [validate] at h
  split at h
  · cases h
  · cases h
    rfl

/-- Whether a text names a generation does not depend on what the setting is called. -/
theorem readGeneration_cases (text : String) :
    (∃ g, ∀ setting, readGeneration setting text = .ok g) ∨
      ∃ error, ∀ setting, readGeneration setting text = .error (.generation setting error) := by
  unfold readGeneration
  cases Generation.parse text with
  | error error => exact Or.inr ⟨error, fun setting => rfl⟩
  | ok g => exact Or.inl ⟨g, fun setting => rfl⟩

theorem readGeneration?_cases (text? : Option String) :
    (∃ g?, ∀ setting, readGeneration? setting text? = .ok g?) ∨
      ∃ error, ∀ setting, readGeneration? setting text? = .error (.generation setting error) := by
  cases text? with
  | none => exact Or.inl ⟨none, fun setting => rfl⟩
  | some text =>
      rcases readGeneration_cases text with ⟨g, hg⟩ | ⟨error, herror⟩
      · exact Or.inl ⟨some g, fun setting => by rw [readGeneration?, hg]; rfl⟩
      · exact Or.inr ⟨error, fun setting => by rw [readGeneration?, herror]; rfl⟩

/-- So typed settings fail at the text of a generation whatever their fields are, or it is for the
rules to decide. -/
theorem ofTyped_cases (typed : Typed) :
    (∀ sourceName targetName fields, ∃ setting error,
      ofTyped sourceName targetName { typed with fields } = .error (.generation setting error)) ∨
    ∃ g? target, ∀ sourceName targetName fields,
      ofTyped sourceName targetName { typed with fields } =
        validate ⟨typed.sourceTable, typed.database, g?, target, fields⟩ := by
  rcases readGeneration?_cases typed.sourceGeneration with ⟨g?, hg⟩ | ⟨error, herror⟩
  · rcases readGeneration_cases typed.target with ⟨target, htarget⟩ | ⟨error, herror⟩
    · refine Or.inr ⟨g?, target, fun sourceName targetName fields => ?_⟩
      rw [ofTyped, hg, htarget]
      rfl
    · refine Or.inl fun sourceName targetName fields => ⟨targetName, error, ?_⟩
      rw [ofTyped, hg, herror]
      rfl
  · refine Or.inl fun sourceName targetName fields => ⟨sourceName, error, ?_⟩
    rw [ofTyped, herror]
    rfl

/-- The fields of settings are those that were typed. -/
theorem fields_of_ofTyped (h : ofTyped sourceName targetName typed = .ok s) :
    s.fields = typed.fields := by
  obtain ⟨g?, target, hvalid⟩ := exists_validate_of_ofTyped h
  obtain ⟨-, rfl⟩ := validate_eq_ok_iff.mp hvalid
  rfl

/-- Typed settings that differ in their fields agree only in being refused. -/
theorem agree_ofTyped_iff :
    Agree (ofTyped sourceName targetName { typed with fields := own })
        (ofTyped sourceName' targetName' typed) ↔
      own = typed.fields ∨
        (∃ e, ofTyped sourceName targetName { typed with fields := own } = .error e) ∧
          ∃ e, ofTyped sourceName' targetName' typed = .error e := by
  constructor
  · intro h
    rcases agree_iff.mp h with ⟨s, hown, htyped⟩ | ⟨e, e', hown, htyped, -⟩
    · exact Or.inl ((fields_of_ofTyped hown).symm.trans (fields_of_ofTyped htyped))
    · exact Or.inr ⟨⟨e, hown⟩, e', htyped⟩
  · intro h
    rcases ofTyped_cases typed with hunread | ⟨g?, target, hread⟩
    · obtain ⟨setting, error, hown⟩ := hunread sourceName targetName own
      obtain ⟨setting', error', htyped⟩ := hunread sourceName' targetName' typed.fields
      rw [hown, htyped]
      exact .refused rfl
    · have hown := hread sourceName targetName own
      have htyped := hread sourceName' targetName' typed.fields
      rcases h with rfl | ⟨⟨e, he⟩, e', he'⟩
      · rw [hown, htyped]
        exact .refl _
      · have hkind := kind_of_validate_eq_error (hown.symm.trans he)
        have hkind' := kind_of_validate_eq_error (htyped.symm.trans he')
        rw [he, he']
        exact .refused (hkind.trans hkind'.symm)

/-! ### Settings in variables -/

/-- The variables of an environment are set to the texts that are typed, with commas between the
fields. -/
structure Typed.InVariables (typed : Typed) (env : Environment) : Prop where
  sourceTable : env["CUR_PROXY_SOURCE_TABLE"]? = some typed.sourceTable
  database : env["CUR_PROXY_DATABASE"]? = typed.database
  sourceGeneration : env["CUR_PROXY_SOURCE_VERSION"]? = typed.sourceGeneration
  target : env["CUR_PROXY_TARGET_VERSION"]? = some typed.target
  fields : env["CUR_PROXY_FIELDS"]? = some (String.intercalate "," typed.fields)

variable {env : Environment}

/-- What is read out of the variables is what is typed, save for the fields. -/
theorem Typed.InVariables.ofEnvironment_eq (h : typed.InVariables env) :
    ofEnvironment env = ofTyped "CUR_PROXY_SOURCE_VERSION" "CUR_PROXY_TARGET_VERSION"
      { typed with fields := typed.fields.flatMap splitFields } := by
  rw [ofEnvironment, h.sourceTable, h.database, h.sourceGeneration, h.target, h.fields,
    ← splitFields_intercalate]
  rfl

/-- An environment gives the fields that are left when each field is cut at its commas.  So it
agrees with what is typed just if no field has a comma, or if the settings are refused both ways. -/
theorem agree_ofEnvironment_iff (h : typed.InVariables env)
    (htight : ∀ f ∈ typed.fields, Text.Tight f.toList) :
    (Agree (ofEnvironment env) (ofArguments typed) ↔
      (∀ f ∈ typed.fields, ',' ∉ f.toList) ∨
        (∃ e, ofEnvironment env = .error e) ∧ ∃ e, ofArguments typed = .error e) ∧
    ∀ s, ofEnvironment env = .ok s → s.fields = typed.fields.flatMap splitFields := by
  rw [h.ofEnvironment_eq, ← splitFields_intercalate_eq_self_iff htight, splitFields_intercalate]
  exact ⟨agree_ofTyped_iff, fun s => fields_of_ofTyped⟩

theorem agree_at_key_and_quoted_name :
    let typed : Typed := ⟨"cur", none, none, "2", ["product['region']", "\"user id\""]⟩
    let env : Environment := .ofList [("CUR_PROXY_SOURCE_TABLE", "cur"),
      ("CUR_PROXY_TARGET_VERSION", "2"), ("CUR_PROXY_FIELDS", "product['region'],\"user id\"")]
    typed.InVariables env ∧ (∀ f ∈ typed.fields, Text.Tight f.toList) ∧
      (∀ f ∈ typed.fields, ∃ field, Field.parse builtIn f = .ok field) ∧
      Agree (ofEnvironment env) (ofArguments typed) ∧
      ofEnvironment env = .ok ⟨"cur", none, none, .two, typed.fields⟩ := by
  intro typed env
  have hset : typed.InVariables env := by constructor <;> decide +kernel
  have htight : ∀ f ∈ typed.fields, Text.Tight f.toList := by
    intro f hf
    simp only [typed, List.mem_cons, List.not_mem_nil, or_false] at hf
    rcases hf with rfl | rfl
    · exact ⟨⟨'p', _, rfl, by decide⟩, ⟨"product['region'".toList, ']', by decide, by decide⟩⟩
    · exact ⟨⟨'"', _, rfl, by decide⟩, ⟨"\"user id".toList, '"', by decide, by decide⟩⟩
  have hparse : ∀ f ∈ typed.fields, ∃ field, Field.parse builtIn f = .ok field := by
    intro f hf
    simp only [typed, List.mem_cons, List.not_mem_nil, or_false] at hf
    rcases hf with rfl | rfl
    · exact ⟨.mapKey "product" "region", by decide +kernel⟩
    · exact ⟨.plain "user id", by decide +kernel⟩
  obtain ⟨hagree, -⟩ := agree_ofEnvironment_iff hset htight
  exact ⟨hset, htight, hparse, hagree.mpr (Or.inl (by decide)), by decide +kernel⟩

/-- A key with a comma is a field, and the environment gives its two halves, neither of which is
one. -/
theorem comma_divides_field :
    let typed : Typed := ⟨"cur", none, none, "2", ["product['a,b']"]⟩
    let env : Environment := .ofList [("CUR_PROXY_SOURCE_TABLE", "cur"),
      ("CUR_PROXY_TARGET_VERSION", "2"), ("CUR_PROXY_FIELDS", "product['a,b']")]
    typed.InVariables env ∧ (∀ f ∈ typed.fields, Text.Tight f.toList) ∧
      Field.parse builtIn "product['a,b']" = .ok (.mapKey "product" "a,b") ∧
      ofArguments typed = .ok ⟨"cur", none, none, .two, ["product['a,b']"]⟩ ∧
      ofEnvironment env = .ok ⟨"cur", none, none, .two, ["product['a", "b']"]⟩ ∧
      ¬ Agree (ofEnvironment env) (ofArguments typed) := by
  intro typed env
  have htyped : ofArguments typed = .ok ⟨"cur", none, none, .two, ["product['a,b']"]⟩ := by
    decide +kernel
  have henv : ofEnvironment env = .ok ⟨"cur", none, none, .two, ["product['a", "b']"]⟩ := by
    decide +kernel
  refine ⟨by constructor <;> decide +kernel, ?_, by decide +kernel, htyped, henv, ?_⟩
  · intro f hf
    obtain rfl := List.mem_singleton.mp hf
    exact ⟨⟨'p', _, rfl, by decide⟩, ⟨"product['a,b'".toList, ']', by decide, by decide⟩⟩
  · rw [htyped, henv, agree_iff]
    rintro (⟨s, hcut, hwhole⟩ | ⟨e, -, hrefused, -⟩)
    · have hsame := (Except.ok.inj hcut).trans (Except.ok.inj hwhole).symm
      exact absurd hsame (by decide)
    · cases hrefused

end Settings
end CostView
