import CostView.Proofs.BuiltInTable
import CostView.Proofs.PrintedExpressions
import CostView.SourceTable

/-!
# What a requirement asks for

A requirement is checked by reading it back as an expression, and what is read decides which column
of the source is looked up.  The text of a key asks for its map column.  A text without a closing
bracket is not that of a key, and it asks for the column of that very name if it holds no double
quote either or if it starts like a plain name.
-/

namespace CostView
namespace Expr

variable {w : List Char} {e e' : Expr}

/-! ### Texts without a bracket -/

/-- A subscript would have to be closed by a bracket. -/
theorem IsTail.eq_nil (h : IsTail e w e') (hw : ']' ∉ w) : w = [] ∧ e' = e := by
  cases h with
  | nil => exact ⟨rfl, rfl⟩
  | subscript => exact absurd (by simp) hw

theorem IsExpr.isPrimary (h : IsExpr w e) (hw : ']' ∉ w) : IsPrimary w e := by
  obtain ⟨primary, tail⟩ := h
  rw [List.mem_append, not_or] at hw
  obtain ⟨rfl, rfl⟩ := tail.eq_nil hw.2
  rwa [List.append_nil]

theorem IsPrimary.subscript?_eq_none (h : IsPrimary w e) : e.subscript? = none := by
  cases h <;> rfl

/-- What is read from a text without a bracket is no subscript. -/
theorem subscript?_of_parse {text : String} (hs : ']' ∉ text.toList) (h : parse text = .ok e) :
    e.subscript? = none := by
  have htrimmed : ']' ∉ Text.trim text.toList := fun hmem => hs (Text.mem_of_mem_trimBoth hmem)
  exact ((isExpr_of_parse h).isPrimary htrimmed).subscript?_eq_none

/-! ### Texts that start like a name -/

variable {s : List Char} {c : Char}

/-- A primary that starts like a plain name is a call or a column, so it does not end in a quote. -/
theorem IsPrimary.exists_concat (h : IsPrimary (c :: s) e) (hc : Column.isPlainChar c = true)
    (hdigit : c.isDigit = false) : ∃ front a, c :: s = front ++ [a] ∧ a ≠ '"' := by
  generalize hw : c :: s = w at h
  cases h with
  | @call name before inner w after =>
      refine ⟨name ++ (before ++ '(' :: (inner ++ (w ++ after))), ')', ?_, by decide⟩
      simp only [List.append_assoc, List.cons_append]
  | text value =>
      obtain ⟨rfl, -⟩ := List.cons.inj hw
      cases hc
  | number number =>
      obtain ⟨d, rest, rfl, hd⟩ := number.exists_cons
      obtain ⟨rfl, -⟩ := List.cons.inj hw
      rcases hd with rfl | rfl | hd
      · cases hc
      · cases hc
      · rw [hdigit] at hd
        cases hd
  | quoted name =>
      obtain ⟨rfl, -⟩ := List.cons.inj hw
      cases hc
  | column name_ok =>
      rcases List.eq_nil_or_concat (c :: s) with hnil | ⟨front, a, hfront⟩
      · cases hnil
      · refine ⟨front, a, by rw [← hw, hfront, List.concat_eq_append], ?_⟩
        rintro rfl
        have hname := name_ok.1.all '"' (by simp [← hw, hfront])
        cases hname

/-- So an expression that starts like a plain name and holds no bracket is not between quotes. -/
theorem unquoted_of_parse {text : String} (htext : text.toList = c :: s)
    (hc : Column.isPlainChar c = true) (hdigit : c.isDigit = false) (hs : ']' ∉ text.toList)
    (h : parse text = .ok e) : SourceTable.unquoted text = text := by
  obtain ⟨-, hblank, -, hsyntax⟩ := Column.isPlainChar_spec hc
  have hquote : c ≠ '"' := by
    rintro rfl
    simp at hsyntax
  obtain ⟨rest, blanks, htrim, rfl, hblanks⟩ := Text.exists_trim_cons (s := s) hblank
  have hexpr := isExpr_of_parse h
  rw [htext, htrim] at hexpr
  rw [htext, ← List.cons_append, List.mem_append, not_or] at hs
  obtain ⟨front, b, hfront, hb⟩ := (hexpr.isPrimary hs.1).exists_concat hc hdigit
  -- The text ends in a blank, or where the expression ends, and neither is a quote.
  obtain ⟨whole, x, hwhole, hx⟩ : ∃ whole x, text.toList = whole ++ [x] ∧ x ≠ '"' := by
    rw [htext, ← List.cons_append, hfront]
    rcases List.eq_nil_or_concat blanks with rfl | ⟨init, x, rfl⟩
    · exact ⟨front, b, List.append_nil _, hb⟩
    · refine ⟨front ++ [b] ++ init, x, by simp, ?_⟩
      rintro rfl
      cases hblanks '"' (by simp)
  rw [SourceTable.unquoted, htext, Text.trimBoth_cons (by simp [hquote]), ← htext, hwhole,
    List.rdropWhile_concat_neg _ _ _ (by simp [hx]), ← hwhole, String.ofList_toList]

/-! ### Names and their keys -/

variable {name container : String}

/-- A bare name that starts with no digit is a column. -/
theorem isPrimary_of_isName (h : IsName name.toList)
    (hdigit : ∀ c, name.toList.head? = some c → c.isDigit = false) :
    IsPrimary name.toList (.column name) := by
  have hdigits : name.toList.takeWhile Char.isDigit = [] := by
    cases hname : name.toList with
    | nil => rfl
    | cons c rest =>
        rw [List.takeWhile_cons_of_neg (by simp [hdigit c (by rw [hname]; rfl)])]
  have hcolumn : IsPrimary name.toList (.column (String.ofList name.toList)) :=
    .column ⟨h, Or.inl hdigits⟩
  rwa [String.ofList_toList] at hcolumn

/-- So is a plain name. -/
theorem isPrimary_of_plain (h : Column.needsQuoting name = false) :
    IsPrimary name.toList (.column name) := by
  obtain ⟨c, s, hname, -, hdigit⟩ := Column.exists_of_plain h
  refine isPrimary_of_isName ⟨Column.toList_ne_nil h, fun a ha => ?_⟩ fun a ha => ?_
  · exact isNameChar_iff.mp (Column.isPlainChar_spec (Column.isPlainChar_of_mem h ha)).2.2.1
  · rw [hname, List.head?_cons, Option.some.injEq] at ha
    rwa [← ha]

/-- A plain name is read as the column of that name. -/
theorem parse_plain (h : Column.needsQuoting name = false) : parse name = .ok (.column name) :=
  parse_of_isExpr_toList (isPrimary_of_plain h).isExpr

/-- The text of a key reads back as that key, if its container is read as a column. -/
theorem parse_subscriptText_of_isPrimary (h : IsPrimary container.toList (.column container))
    (key : String) :
    parse (subscriptText container key) = .ok (.subscript (.column container) key) := by
  have htext : (subscriptText container key).toList =
      container.toList ++ '[' :: (Text.Quoted.enclose '\'' key.toList ++ [']']) := by
    simp [subscriptText, quoteText]
  apply parse_of_isExpr_toList
  rw [htext]
  exact h.isExpr.subscript key

theorem parse_subscriptText (h : Column.needsQuoting container = false) (key : String) :
    parse (subscriptText container key) = .ok (.subscript (.column container) key) :=
  parse_subscriptText_of_isPrimary (isPrimary_of_plain h) key

end Expr

theorem requirements_expr (name : String) : (Column.expr name).requirements = [name] := by
  rw [Column.expr]
  split <;> simp [Expr.requirements]

theorem columns_expr (name : String) : (Column.expr name).columns = [name] := by
  rw [Column.expr]
  split <;> simp [Expr.columns]

namespace SourceTable

variable {t : SourceTable}

/-- A text that starts like a plain name and holds no bracket asks for the column of that name. -/
theorem hasRequirement_of_notMem {text : String} {c : Char} {s : List Char}
    (htext : text.toList = c :: s) (hc : Column.isPlainChar c = true) (hdigit : c.isDigit = false)
    (hs : ']' ∉ text.toList) : t.hasRequirement text = t.hasColumn text := by
  rw [hasRequirement]
  cases hparse : Expr.parse text with
  | error _ => rfl
  | ok e =>
      dsimp only
      rw [Expr.subscript?_of_parse hs hparse, Expr.unquoted_of_parse htext hc hdigit hs hparse]

/-- A name without brackets and double quotes asks for its column. -/
theorem hasRequirement_of_unmarked {name : String} (hbracket : ']' ∉ name.toList)
    (hquote : '"' ∉ name.toList) : t.hasRequirement name = t.hasColumn name := by
  have hunquoted : unquoted name = name := by
    have hkept : ∀ x ∈ name.toList, decide (x = '"') = false := by
      intro x hx
      rw [decide_eq_false_iff_not]
      rintro rfl
      exact hquote hx
    rw [unquoted, Text.trimBoth_eq_self hkept, String.ofList_toList]
  rw [hasRequirement]
  cases hparse : Expr.parse name with
  | error _ => rfl
  | ok e =>
      dsimp only
      rw [Expr.subscript?_of_parse hbracket hparse, hunquoted]

/-- A plain name asks for its column. -/
theorem hasRequirement_plain {name : String} (h : Column.needsQuoting name = false) :
    t.hasRequirement name = t.hasColumn name := by
  obtain ⟨c, s, hname, hc, hdigit⟩ := Column.exists_of_plain h
  exact hasRequirement_of_notMem hname hc hdigit (Column.notMem_of_not_needsQuoting h).1

/-- So does the flat column of a key. -/
theorem hasRequirement_flatColumn {container key : String}
    (h : Column.needsQuoting container = false) (hkey : ']' ∉ (flatColumn container key).toList) :
    t.hasRequirement (flatColumn container key) = t.hasColumn (flatColumn container key) := by
  obtain ⟨c, s, hname, hc, hdigit⟩ := Column.exists_of_plain h
  have hflat : (flatColumn container key).toList = c :: (s ++ '_' :: key.toList) := by
    simp [flatColumn, hname]
  exact hasRequirement_of_notMem hflat hc hdigit hkey

/-- The column that holds a key is asked for by its name, if the key has no bracket. -/
theorem hasRequirement_columnForKey {m : MapField} (hm : m ∈ FieldTable.builtInMapFields)
    {key : String} (hkey : ']' ∉ key.toList) :
    t.hasRequirement (FieldTable.builtIn.columnForKey m.name key) =
      t.hasColumn (FieldTable.builtIn.columnForKey m.name key) := by
  have hplain := (FieldTable.mapField_of_mem hm).1
  have hname := (Column.notMem_of_not_needsQuoting hplain).1
  rw [FieldTable.columnForKey_builtIn,
    hasRequirement_flatColumn hplain (FieldTable.notMem_flatColumn hname hkey)]

/-- The text of a key asks for its map column, if that is read as a column. -/
theorem hasRequirement_subscriptText_of_isPrimary {container : String}
    (h : Expr.IsPrimary container.toList (.column container)) (key : String) :
    t.hasRequirement (subscriptText container key) = t.hasColumn container := by
  rw [hasRequirement, Expr.parse_subscriptText_of_isPrimary h]
  rfl

theorem hasRequirement_subscriptText {container : String}
    (h : Column.needsQuoting container = false) (key : String) :
    t.hasRequirement (subscriptText container key) = t.hasColumn container :=
  hasRequirement_subscriptText_of_isPrimary (Expr.isPrimary_of_plain h) key

/-- A source has a column if one that it was given has that name, without regard to ASCII case. -/
theorem hasColumn_ofColumns_iff {tableName name : String} {g : Generation}
    {columns : List ColumnInfo} :
    (ofColumns tableName g columns).hasColumn name = true ↔
      ∃ c ∈ columns, Text.lowered c.name = Text.lowered name := by
  rw [hasColumn, ofColumns, Std.ExtTreeMap.contains_ofList, List.contains_iff_mem, List.map_map,
    List.mem_map]
  rfl

end SourceTable
end CostView
