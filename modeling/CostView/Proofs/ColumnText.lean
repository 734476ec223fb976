import CostView.Proofs.Requirements

/-!
# Texts that name a column

A column is written as its name where that is a bare name, and as its name between double quotes
otherwise.  Between quotes every name can stand, provided that the quotes inside it are doubled.

A name in an alias is doubled by one of two rules only: a name that needs quotes is written as any
reference to the column is, and a name that ends like a reserved word is put between quotes as it
stands.
-/

namespace CostView

/-! ### Texts that name a column -/

namespace Expr

variable {w : List Char} {e e' : Expr} {text name : String}

/-- With a subscript after it nothing is a column. -/
theorem IsTail.eq_nil_of_column? (h : IsTail e w e') (hname : e'.column? = some name) :
    w = [] ∧ e' = e := by
  induction h with
  | nil => exact ⟨rfl, rfl⟩
  | subscript _ _ _ _ ih =>
      obtain ⟨-, rfl⟩ := ih hname
      cases hname

/-- A column is written as its name, if that is one of a column, or as its name between quotes. -/
theorem exists_isExpr_column_iff : (∃ e, IsExpr w e ∧ e.column? = some name) ↔
    w = name.toList ∧ IsColumnName w ∨ w = Text.Quoted.enclose '"' name.toList := by
  constructor
  · rintro ⟨e, ⟨primary, tail⟩, hname⟩
    obtain ⟨rfl, rfl⟩ := tail.eq_nil_of_column? hname
    rw [List.append_nil]
    cases primary with
    | column name_ok =>
        obtain rfl := Option.some.inj hname
        exact Or.inl ⟨by rw [String.toList_ofList], name_ok⟩
    | quoted own =>
        obtain rfl := Option.some.inj hname
        exact Or.inr rfl
    | call | text | number => cases hname
  · rintro (⟨rfl, name_ok⟩ | rfl)
    · refine ⟨_, (IsPrimary.column name_ok).isExpr, ?_⟩
      rw [column?, String.ofList_toList]
    · exact ⟨_, (IsPrimary.quoted name).isExpr, rfl⟩

/-- A text names a column just if it is its name, if that is one of a column, or its name between
quotes, white space around it aside. -/
theorem exists_parse_column_iff : (∃ e, parse text = .ok e ∧ e.column? = some name) ↔
    (Text.trim text.toList = name.toList ∧ IsColumnName (Text.trim text.toList)) ∨
      Text.trim text.toList = Text.Quoted.enclose '"' name.toList := by
  simp only [parse_eq_ok_iff]
  exact exists_isExpr_column_iff

end Expr

/-! ### Aliases -/

namespace Column

variable {name : String}

/-- A name between quotes is read as the column of that name. -/
theorem exists_parse_quoted (name : String) :
    ∃ e, Expr.parse (quoted name) = .ok e ∧ e.column? = some name := by
  have htext : (quoted name).toList = Text.Quoted.enclose '"' name.toList := by
    rw [quoted, String.toList_ofList]
  rw [Expr.exists_parse_column_iff, htext, (Expr.tight_enclose rfl _).trim_eq]
  exact Or.inr rfl

/-- A reference is read as the column that it refers to. -/
theorem exists_parse_reference (name : String) :
    ∃ e, Expr.parse (reference name) = .ok e ∧ e.column? = some name := by
  rw [reference]
  split
  · exact exists_parse_quoted name
  · next h => exact ⟨_, Expr.parse_plain (by simpa using h), rfl⟩

/-- Between quotes as it stands, a name is read as the column of that name just if there are no
quotes in it. -/
theorem exists_parse_enclosed_iff :
    (∃ e, Expr.parse ("\"" ++ name ++ "\"") = .ok e ∧ e.column? = some name) ↔
      '"' ∉ name.toList := by
  have htext : ("\"" ++ name ++ "\"").toList = '"' :: (name.toList ++ ['"']) := by
    simp
  have htight : Text.Tight ('"' :: (name.toList ++ ['"'])) := by
    have hquote : Text.Tight ['"'] := Text.tight_singleton rfl
    exact hquote.append hquote name.toList
  rw [Expr.exists_parse_column_iff, htext, htight.trim_eq, Text.Quoted.enclose, List.cons_inj_right,
    List.append_cancel_right_eq, ← Text.Quoted.encode_eq_self_iff]
  constructor
  · rintro (⟨-, name_ok⟩ | h)
    · have hquote := name_ok.1.all '"' List.mem_cons_self
      cases hquote
    · exact h.symm
  · exact fun h => Or.inr h.symm

/-- An alias is read as the column that it names just if the name is not sensitive or has no
quotes in it. -/
theorem exists_parse_aliasText_iff (name : String) :
    (∃ e, Expr.parse (aliasText name) = .ok e ∧ e.column? = some name) ↔
      ¬ (isSensitive name = true ∧ '"' ∈ name.toList) := by
  rw [aliasText]
  split
  · next h =>
      rw [exists_parse_enclosed_iff, not_and]
      exact ⟨fun hname _ => hname, fun hname => hname h⟩
  · next h => exact iff_of_true (exists_parse_reference name) fun hboth => h hboth.1

end Column
end CostView
