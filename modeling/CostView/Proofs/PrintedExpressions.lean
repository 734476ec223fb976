import CostView.Proofs.GrammarReading
import CostView.Proofs.PlainName

/-!
# Reading what was printed

An expression is printed without white space but for the one after a comma, without the signs and
leading zeros that an integer may have been written with, and with its quotes doubled again.  The
grammar derives that text as the same expression, so printing an expression that was read and
reading it again changes nothing.

Numbers with a point are left out: they are printed with the fewest digits, which need not have a
point, and then they are read as integers.
-/

namespace CostView.Expr

open Text (Tight)

variable {v w : List Char} {e e' : Expr}

/-! ### The ends of an expression -/

/-- A name neither starts nor ends in a blank. -/
theorem IsName.tight (h : IsName w) : Tight w :=
  Text.tight_of_forall h.1 fun c hc => Settings.isBlank_of_isNameChar (h.all c hc)

theorem tight_enclose {q : Char} (hq : Text.isBlank q = false) (s : List Char) :
    Tight (Text.Quoted.enclose q s) := by
  have hquote : Tight [q] := Text.tight_singleton hq
  exact hquote.append hquote _

theorem IsNumber.tight {value : Literal} (h : IsNumber w value) : Tight w := by
  have hdigits {digits : List Char} (h : Digits digits) : ∀ c ∈ digits, Text.isBlank c = false :=
    fun c hc => Settings.isBlank_of_isNameChar (isNameChar_of_isDigit (h.2 c hc))
  have hsign {sign : List Char} {negative : Bool} (h : IsSign sign negative) :
      ∀ c ∈ sign, Text.isBlank c = false := by
    cases h with
    | none => exact List.forall_mem_nil _
    | plus | minus => exact List.forall_mem_singleton.mpr rfl
  cases h with
  | integer signed digits_ok =>
      refine Text.tight_of_forall (by simp [digits_ok.1]) fun c hc => ?_
      rcases List.mem_append.mp hc with hc | hc
      · exact hsign signed c hc
      · exact hdigits digits_ok c hc
  | float signed whole_ok places_ok =>
      refine Text.tight_of_forall (by simp) fun c hc => ?_
      rcases List.mem_append.mp hc with hc | hc
      · rcases List.mem_append.mp hc with hc | hc
        · exact hsign signed c hc
        · exact hdigits whole_ok c hc
      · rcases List.mem_cons.mp hc with rfl | hc
        · rfl
        · exact hdigits places_ok c hc

theorem IsPrimary.tight (h : IsPrimary w e) : Tight w := by
  cases h with
  | @call name before inner w after _ name_ok =>
      have hclose : Tight [')'] := Text.tight_singleton rfl
      have hcall := name_ok.tight.append hclose (before ++ '(' :: (inner ++ (w ++ after)))
      simpa only [List.append_assoc, List.cons_append] using hcall
  | text value => exact tight_enclose rfl _
  | number number => exact number.tight
  | quoted name => exact tight_enclose rfl _
  | column name_ok => exact name_ok.1.tight

/-- Subscripts end in a bracket. -/
theorem IsTail.eq_nil_or_concat (h : IsTail e w e') : w = [] ∨ ∃ front, w = front ++ [']'] := by
  induction h with
  | nil => exact Or.inl rfl
  | @subscript e e' before inner after w key _ _ _ _ ih =>
      refine Or.inr ?_
      rcases ih with rfl | ⟨front, rfl⟩
      · exact ⟨before ++ '[' :: (inner ++ (Text.Quoted.enclose '\'' key.toList ++ after)),
          by simp only [List.append_assoc, List.cons_append]⟩
      · exact ⟨before ++ '[' :: (inner ++ (Text.Quoted.enclose '\'' key.toList ++
          (after ++ ']' :: front))), by simp only [List.append_assoc, List.cons_append]⟩

/-- An expression neither starts nor ends in a blank. -/
theorem IsExpr.tight (h : IsExpr w e) : Tight w := by
  obtain ⟨primary, tail⟩ := h
  rcases tail.eq_nil_or_concat with rfl | ⟨front, rfl⟩
  · rw [List.append_nil]
    exact primary.tight
  · exact primary.tight.append (Text.tight_singleton rfl) front

/-- So a text that the grammar derives as it stands is read, and nothing of it is trimmed. -/
theorem parse_of_isExpr_toList {text : String} (h : IsExpr text.toList e) :
    parse text = .ok e := by
  apply parse_of_isExpr
  rwa [h.tight.trim_eq]

/-! ### Subscripts without white space -/

theorem spaces_nil : Spaces [] :=
  nofun

theorem IsPrimary.isExpr (h : IsPrimary w e) : IsExpr w e := by
  have hexpr := IsExpr.mk h .nil
  rwa [List.append_nil] at hexpr

theorem IsTail.concat (h : IsTail e w e') (key : String) :
    IsTail e (w ++ '[' :: (Text.Quoted.enclose '\'' key.toList ++ [']'])) (.subscript e' key) := by
  induction h with
  | nil => exact .subscript spaces_nil spaces_nil spaces_nil .nil
  | subscript before_ok inner_ok after_ok _ ih =>
      have hmore := IsTail.subscript before_ok inner_ok after_ok ih
      simpa only [List.append_assoc, List.cons_append] using hmore

/-- A subscript may follow any expression. -/
theorem IsExpr.subscript (h : IsExpr w e) (key : String) :
    IsExpr (w ++ '[' :: (Text.Quoted.enclose '\'' key.toList ++ [']'])) (.subscript e key) := by
  obtain ⟨primary, tail⟩ := h
  rw [List.append_assoc]
  exact .mk primary (tail.concat key)

/-! ### Integers -/

theorem digits_toDigits (n : Nat) : Digits (Nat.toDigits 10 n) :=
  ⟨Nat.toDigits_ne_nil, fun _ hc => Nat.isDigit_of_mem_toDigits (by decide) (by decide) hc⟩

theorem numeral_toDigits (n : Nat) : numeral (Nat.toDigits 10 n) = n :=
  Nat.ofDigitChars_ten_toDigits

/-- An integer of 64 bits is written as the number that it is. -/
theorem isNumber_integerText {n : Int} (lower : -(2 ^ 63) ≤ n) (upper : n < 2 ^ 63) :
    IsNumber (integerText n) (.integer n) := by
  cases n with
  | ofNat m =>
      have hvalue : Int.ofNat m = if false then -(numeral (Nat.toDigits 10 m) : Int)
          else numeral (Nat.toDigits 10 m) := by
        rw [numeral_toDigits]
        rfl
      exact @IsNumber.integer [] _ _ _ .none (digits_toDigits m) hvalue lower upper
  | negSucc m =>
      have hvalue : Int.negSucc m = if true then -(numeral (Nat.toDigits 10 (m + 1)) : Int)
          else numeral (Nat.toDigits 10 (m + 1)) := by
        rw [numeral_toDigits]
        rfl
      exact @IsNumber.integer ['-'] _ _ _ .minus (digits_toDigits (m + 1)) hvalue lower upper

/-! ### Printed expressions -/

mutual

/-- Whether a number with a point occurs in an expression. -/
def hasFloat : Expr → Bool
  | .column _ | .quoted _ => false
  | .subscript container _ => container.hasFloat
  | .call _ arguments => anyHasFloat arguments
  | .literal (.float _) => true
  | .literal (.text _) | .literal (.integer _) => false

/-- Whether a number with a point occurs in the arguments of a call. -/
def anyHasFloat : List Expr → Bool
  | [] => false
  | e :: rest => e.hasFloat || anyHasFloat rest

end

theorem IsTail.hasFloat_eq (h : IsTail e w e') : e'.hasFloat = e.hasFloat := by
  induction h with
  | nil => rfl
  | subscript _ _ _ _ ih => rw [ih, hasFloat]

theorem printArguments_cons_cons (e second : Expr) (others : List Expr) :
    printArguments (e :: second :: others) =
      e.print ++ ',' :: ' ' :: printArguments (second :: others) := by
  rw [printArguments]
  exact List.cons_ne_nil _ _

/-- If an expression is derived from its printed text, so is the expression with subscripts. -/
theorem IsTail.printed (h : IsTail e w e') (he : IsExpr e.print e) : IsExpr e'.print e' := by
  induction h with
  | nil => exact he
  | @subscript e _ _ _ _ _ key _ _ _ _ ih =>
      have hprint : (Expr.subscript e key).print =
          e.print ++ '[' :: (Text.Quoted.enclose '\'' key.toList ++ [']']) := by
        rw [print]
      exact ih (hprint ▸ he.subscript key)

-- The induction is on the derivation, since not every tree is printed as an expression: a bare name
-- may hold anything.
mutual

/-- An expression is derived from its printed text. -/
theorem IsExpr.printed {w : List Char} {e : Expr} :
    IsExpr w e → e.hasFloat = false → IsExpr e.print e
  | .mk primary tail, hfloat =>
      tail.printed (primary.printed (tail.hasFloat_eq ▸ hfloat)).isExpr

/-- A primary is derived from its printed text. -/
theorem IsPrimary.printed {w : List Char} {e : Expr} :
    IsPrimary w e → e.hasFloat = false → IsPrimary e.print e
  | .call name_ok _ _ list _, hfloat => by
      rw [hasFloat] at hfloat
      rw [print, String.toList_ofList]
      exact .call name_ok spaces_nil spaces_nil (list.printed hfloat) spaces_nil
  | .text value, _ => by
      rw [print]
      exact .text value
  | .number (.integer _ _ _ lower upper), _ => by
      rw [print]
      exact .number (isNumber_integerText lower upper)
  | .number (.float _ _ _), hfloat => by
      rw [hasFloat] at hfloat
      cases hfloat
  | .quoted name, _ => by
      rw [print]
      exact .quoted name
  | .column name_ok, _ => by
      rw [print, String.toList_ofList]
      exact .column name_ok

/-- The arguments of a call are derived from their printed text. -/
theorem IsArguments.printed {w : List Char} {arguments : List Expr} :
    IsArguments w arguments → anyHasFloat arguments = false →
      IsArguments (printArguments arguments) arguments
  | .nil, _ => by
      rw [printArguments]
      exact .nil
  | .one expr, hfloat => by
      rw [anyHasFloat, anyHasFloat, Bool.or_false] at hfloat
      rw [printArguments]
      exact .one (expr.printed hfloat)
  | .more expr _ _ rest, hfloat => by
      rw [anyHasFloat, Bool.or_eq_false_iff] at hfloat
      have hspace : Spaces [' '] := fun c hc => Or.inl (List.mem_singleton.mp hc)
      rw [printArguments_cons_cons]
      exact .more (expr.printed hfloat.1) spaces_nil hspace (rest.printed hfloat.2)

end

/-- An expression that was read is read again from its printed text. -/
theorem parse_sql_of_parse {text : String} (h : parse text = .ok e) (hfloat : e.hasFloat = false) :
    parse e.sql = .ok e := by
  apply parse_of_isExpr_toList
  rw [toList_sql]
  exact (isExpr_of_parse h).printed hfloat

/-- White space, a sign, a leading zero, doubled quotes and a column made of too many digits. -/
theorem parse_sql_of_parse_at_nested_call :
    let text := " f( +07, \"a\"\"b\"['x'] , 1( 9223372036854775808 ) )[ 'it''s' ]"
    let e := Expr.subscript (.call "f" [.literal (.integer 7), .subscript (.quoted "a\"b") "x",
      .call "1" [.column "9223372036854775808"]]) "it's"
    parse text = .ok e ∧ e.hasFloat = false ∧
      e.sql = "f(7, \"a\"\"b\"['x'], 1(9223372036854775808))['it''s']" ∧ parse e.sql = .ok e := by
  intro text e
  have hread : parse text = .ok e := by decide +kernel
  have hfloat : e.hasFloat = false := by decide +kernel
  exact ⟨hread, hfloat, by decide +kernel, parse_sql_of_parse hread hfloat⟩

end CostView.Expr
