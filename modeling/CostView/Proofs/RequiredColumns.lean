import CostView.Proofs.Requirements

/-!
# Requirements and columns

What an expression requires is a list of texts, and a source answers each of them by reading it as an
expression once more.  The columns that an expression reads are found by a walk over its tree.  All
that an expression requires exists just if all its columns do, as long as each text is read as what
it was written for: a column between double quotes must not hold a quote or a closing bracket, and a
column with a subscript on it, which is written without its quotes, must be a bare name that starts
with no digit.

Nothing is asked of a bare column, since it is read from a text: it is made of the characters of
names, if perhaps of too many digits.
-/

namespace CostView
namespace Expr

variable {w : List Char} {e e' : Expr}

/-! ### Columns between quotes and under subscripts -/

mutual

/-- The columns that stand between double quotes. -/
def quotedColumns : Expr → List String
  | .column _ | .literal _ => []
  | .quoted name => [name]
  | .subscript container _ => container.quotedColumns
  | .call _ arguments => quotedColumnsOfList arguments

/-- The columns that stand between double quotes in the arguments of a call. -/
def quotedColumnsOfList : List Expr → List String
  | [] => []
  | e :: rest => e.quotedColumns ++ quotedColumnsOfList rest

end

mutual

/-- The columns that a subscript stands directly on, between quotes or not. -/
def subscriptedColumns : Expr → List String
  | .column _ | .quoted _ | .literal _ => []
  | .subscript (.column name) _ | .subscript (.quoted name) _ => [name]
  | .subscript container _ => container.subscriptedColumns
  | .call _ arguments => subscriptedColumnsOfList arguments

/-- The columns that a subscript stands directly on in the arguments of a call. -/
def subscriptedColumnsOfList : List Expr → List String
  | [] => []
  | e :: rest => e.subscriptedColumns ++ subscriptedColumnsOfList rest

end

theorem IsTail.columns_eq (h : IsTail e w e') : e'.columns = e.columns := by
  induction h with
  | nil => rfl
  | subscript _ _ _ _ ih => rw [ih, columns]

theorem IsTail.quotedColumns_eq (h : IsTail e w e') : e'.quotedColumns = e.quotedColumns := by
  induction h with
  | nil => rfl
  | subscript _ _ _ _ ih => rw [ih, quotedColumns]

mutual

/-- A column of an expression is a bare name, unless it stands between quotes. -/
theorem IsExpr.isName_or_quoted {w : List Char} {e : Expr} :
    IsExpr w e → ∀ name ∈ e.columns, IsName name.toList ∨ name ∈ e.quotedColumns
  | .mk primary tail => by
      rw [tail.columns_eq, tail.quotedColumns_eq]
      exact primary.isName_or_quoted

/-- So is a column of a primary. -/
theorem IsPrimary.isName_or_quoted {w : List Char} {e : Expr} :
    IsPrimary w e → ∀ name ∈ e.columns, IsName name.toList ∨ name ∈ e.quotedColumns
  | .call _ _ _ list _ => by
      rw [columns, quotedColumns]
      exact list.isName_or_quoted
  | .text _ => nofun
  | .number _ => nofun
  | .quoted name => by
      rw [columns, quotedColumns]
      exact fun own hown => Or.inr hown
  | .column name_ok => by
      rw [columns]
      intro own hown
      obtain rfl := List.mem_singleton.mp hown
      rw [String.toList_ofList]
      exact Or.inl name_ok.1

/-- And one of the arguments of a call. -/
theorem IsArguments.isName_or_quoted {w : List Char} {arguments : List Expr} :
    IsArguments w arguments → ∀ name ∈ columnsOfList arguments,
      IsName name.toList ∨ name ∈ quotedColumnsOfList arguments
  | .nil => nofun
  | .one expr => by
      simp only [columnsOfList, quotedColumnsOfList, List.append_nil]
      exact expr.isName_or_quoted
  | .more expr _ _ rest => by
      intro name hname
      rw [columnsOfList, List.mem_append] at hname
      rw [quotedColumnsOfList, List.mem_append]
      rcases hname with hfirst | hothers
      · exact (expr.isName_or_quoted name hfirst).imp_right Or.inl
      · exact (rest.isName_or_quoted name hothers).imp_right Or.inr

end

/-! ### What exists -/

section

variable {asks has : String → Bool}

-- Below a subscript that stands on no column there are columns but no requirements of their own, so
-- only calls lead deeper.
mutual

/-- All that an expression requires exists just if its columns do, if a column asks for itself and a
key asks for the column that it is a key of. -/
theorem forall_requirements_iff (e : Expr) (hcolumn : ∀ name ∈ e.columns, asks name = has name)
    (hkey : ∀ name ∈ e.subscriptedColumns, ∀ key, asks (subscriptText name key) = has name) :
    (∀ r ∈ e.requirements, asks r = true) ↔ ∀ name ∈ e.columns, has name = true := by
  have hsame {names : List String} (h : ∀ name ∈ names, asks name = has name) :
      (∀ r ∈ names, asks r = true) ↔ ∀ name ∈ names, has name = true :=
    forall₂_congr fun name hname => by rw [h name hname]
  match e with
  | .column name => exact hsame hcolumn
  | .quoted name => exact hsame hcolumn
  | .subscript (.column name) key =>
      have hname : asks (subscriptText name key) = has name :=
        hkey name (List.mem_singleton_self name) key
      simp [requirements, columns, hname]
  | .subscript (.quoted name) key =>
      have hname : asks (subscriptText name key) = has name :=
        hkey name (List.mem_singleton_self name) key
      simp [requirements, columns, hname]
  | .subscript (.subscript container inner) key => exact hsame hcolumn
  | .subscript (.call name arguments) key => exact hsame hcolumn
  | .subscript (.literal value) key => exact hsame hcolumn
  | .call name arguments => exact forall_requirementsOfList_iff arguments hcolumn hkey
  | .literal value => exact hsame hcolumn

/-- So it is with the arguments of a call. -/
theorem forall_requirementsOfList_iff (arguments : List Expr)
    (hcolumn : ∀ name ∈ columnsOfList arguments, asks name = has name)
    (hkey : ∀ name ∈ subscriptedColumnsOfList arguments, ∀ key,
      asks (subscriptText name key) = has name) :
    (∀ r ∈ requirementsOfList arguments, asks r = true) ↔
      ∀ name ∈ columnsOfList arguments, has name = true := by
  match arguments with
  | [] => simp [requirementsOfList, columnsOfList]
  | e :: rest =>
      simp only [columnsOfList, subscriptedColumnsOfList, requirementsOfList,
        List.forall_mem_append] at hcolumn hkey ⊢
      exact and_congr (forall_requirements_iff e hcolumn.1 hkey.1)
        (forall_requirementsOfList_iff rest hcolumn.2 hkey.2)

end

end

/-- A bare name holds neither brackets nor double quotes. -/
theorem IsName.notMem {name : List Char} (h : IsName name) : ']' ∉ name ∧ '"' ∉ name := by
  constructor
  · intro hmem
    have hchar := h.all ']' hmem
    revert hchar
    decide
  · intro hmem
    have hchar := h.all '"' hmem
    revert hchar
    decide

end Expr

namespace SourceTable

/-- All that an expression requires is answered by a source with yes just if every column that the
expression reads is one of the source, without regard to ASCII case. -/
theorem hasRequirements_iff (tableName : String) (g : Generation) (columns : List ColumnInfo)
    {text : String} {e : Expr} (hparse : Expr.parse text = .ok e)
    (hquoted : ∀ name ∈ e.quotedColumns, '"' ∉ name.toList ∧ ']' ∉ name.toList)
    (hsubscripted : ∀ name ∈ e.subscriptedColumns,
      Expr.IsName name.toList ∧ ∀ c, name.toList.head? = some c → c.isDigit = false) :
    (∀ r ∈ e.requirements, (ofColumns tableName g columns).hasRequirement r = true) ↔
      ∀ name ∈ e.columns, ∃ c ∈ columns, Text.lowered c.name = Text.lowered name := by
  have hcolumn : ∀ name ∈ e.columns, (ofColumns tableName g columns).hasRequirement name =
      (ofColumns tableName g columns).hasColumn name := by
    intro name hname
    rcases (Expr.isExpr_of_parse hparse).isName_or_quoted name hname with hbare | hmem
    · exact hasRequirement_of_unmarked hbare.notMem.1 hbare.notMem.2
    · exact hasRequirement_of_unmarked (hquoted name hmem).2 (hquoted name hmem).1
  have hkey : ∀ name ∈ e.subscriptedColumns, ∀ key,
      (ofColumns tableName g columns).hasRequirement (subscriptText name key) =
        (ofColumns tableName g columns).hasColumn name := by
    intro name hname key
    obtain ⟨hbare, hdigit⟩ := hsubscripted name hname
    exact hasRequirement_subscriptText_of_isPrimary (Expr.isPrimary_of_isName hbare hdigit) key
  rw [Expr.forall_requirements_iff e hcolumn hkey]
  exact forall₂_congr fun name _ => hasColumn_ofColumns_iff

/-- A quoted column, keys with a quote in them and a subscript on a subscript, over a source that has
the columns in other cases, and over one that lacks one of them. -/
theorem hasRequirements_iff_at_coalesce :
    let text := "coalesce(\"Bill Type\", Product['it''s'], f(Product['it''s']['x'], 1))"
    let e := Expr.call "coalesce" [.quoted "Bill Type", .subscript (.column "Product") "it's",
      .call "f" [.subscript (.subscript (.column "Product") "it's") "x", .literal (.integer 1)]]
    Expr.parse text = .ok e ∧
      (∀ r ∈ e.requirements, (ofColumns "cur" .two
        [⟨"bill type", "varchar"⟩, ⟨"PRODUCT", "varchar"⟩]).hasRequirement r = true) ∧
      ¬ ∀ r ∈ e.requirements,
        (ofColumns "cur" .two [⟨"PRODUCT", "varchar"⟩]).hasRequirement r = true := by
  intro text e
  have hread : Expr.parse text = .ok e := by decide +kernel
  have hquoted : ∀ name ∈ e.quotedColumns, '"' ∉ name.toList ∧ ']' ∉ name.toList := by
    decide +kernel
  have hproduct : Expr.IsName "Product".toList ∧
      ∀ c, "Product".toList.head? = some c → c.isDigit = false := by
    have hname : ("Product".toList.all Expr.isNameChar) = true := by decide +kernel
    refine ⟨⟨by decide +kernel, fun c hc => ?_⟩, fun c hc => ?_⟩
    · exact Expr.isNameChar_iff.mp (List.all_eq_true.mp hname c hc)
    · obtain rfl := Option.some.inj hc
      rfl
  have hsubscripted : ∀ name ∈ e.subscriptedColumns, Expr.IsName name.toList ∧
      ∀ c, name.toList.head? = some c → c.isDigit = false := by
    have hlist : e.subscriptedColumns = ["Product", "Product"] := by decide +kernel
    simpa [hlist] using hproduct
  have hiff (columns : List ColumnInfo) :=
    hasRequirements_iff "cur" .two columns hread hquoted hsubscripted
  exact ⟨hread, (hiff _).mpr (by decide +kernel), mt (hiff _).mp (by decide +kernel)⟩

end SourceTable
end CostView
