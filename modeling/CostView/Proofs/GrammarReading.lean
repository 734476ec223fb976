import CostView.Proofs.Grammar
import CostView.Proofs.Trimming

/-!
# Reading what the grammar derives

The reader prefers a call to everything else and falls back where a call breaks off; it takes the
longest list of arguments and as many subscripts as there are.  None of that loses an expression.
What is read at the front of a text is derived by the grammar, and what the grammar derives is read
to its end if a comma, a closing parenthesis or the end of the text comes next.  So a whole text,
white space around it aside, is read as an expression just if the grammar derives it.
-/

namespace CostView.Expr

variable {s t u v w : List Char} {e e' : Expr}

/-! ### Subscripts -/

theorem isTail_of_readSubscript {key : Reading String s} (h : readSubscript s = .ok key) :
    ∃ inner after, Spaces inner ∧ Spaces after ∧
      s = inner ++ (Text.Quoted.enclose '\'' key.value.toList ++ (after ++ ']' :: key.rest)) := by
  obtain ⟨inner, hs, hinner⟩ := exists_spaces s
  rw [readSubscript] at h
  split at h
  · next text htext =>
      split at h
      · next later shorter hskip =>
          obtain ⟨after, hrest, hafter⟩ := exists_spaces_of_skipTo? hskip
          have hquoted := enclose_of_readQuoted? htext
          cases h
          refine ⟨inner, after, hinner, hafter, ?_⟩
          show s = inner ++ (Text.Quoted.enclose '\'' text.value.toList ++ (after ++ ']' :: later))
          rw [← hrest, ← hquoted, ← hs]
      · cases h
  · split at h
    · cases h
    · cases h

/-- What is read behind a primary are subscripts. -/
theorem isTail_of_readSubscripts {p : { p : Expr × List Char // p.2.length ≤ s.length }}
    (h : readSubscripts e s = .ok p) : ∃ w, s = w ++ p.1.2 ∧ IsTail e w p.1.1 := by
  fun_induction readSubscripts e s with
  | case1 e s hskip =>
      cases h
      exact ⟨[], rfl, .nil⟩
  | case2 e s r hr hskip f hread => cases h
  | case3 e s r hr hskip key hread f hrest ih => cases h
  | case4 e s r hr hskip key hread p hp hrest ih =>
      cases h
      obtain ⟨before, hs, hbefore⟩ := exists_spaces_of_skipTo? hskip
      obtain ⟨inner, after, hinner, hafter, hkey⟩ := isTail_of_readSubscript hread
      obtain ⟨w, hw, htail⟩ := ih hrest
      refine ⟨_, ?_, .subscript hbefore hinner hafter htail⟩
      simp only [List.append_assoc, List.cons_append]
      rw [← hw, ← hkey, ← hs]

theorem isTail_of_complete {shorter : t.length < s.length} {r : Reading Expr s}
    (h : complete e t shorter = .ok r) : ∃ w, t = w ++ r.rest ∧ IsTail e w r.value := by
  rw [complete] at h
  split at h
  · cases h
  · next value rest hrest hread =>
      cases h
      exact isTail_of_readSubscripts hread

/-- A subscript is read to its bracket. -/
theorem readSubscript_append {inner after : List Char} (hinner : Spaces inner)
    (hafter : Spaces after) (key : String) :
    ∃ shorter, readSubscript (inner ++ (Text.Quoted.enclose '\'' key.toList ++
      (after ++ ']' :: t))) = .ok ⟨key, t, shorter⟩ := by
  have hskip : skipSpaces (inner ++ (Text.Quoted.enclose '\'' key.toList ++ (after ++ ']' :: t))) =
      Text.Quoted.enclose '\'' key.toList ++ (after ++ ']' :: t) := by
    rw [skipSpaces_append hinner.all]
    rfl
  have hnext : NextIn [']'] (after ++ ']' :: t) :=
    (nextIn_append hafter).mpr (nextIn_cons rfl (List.mem_singleton_self _))
  have hhead : (after ++ ']' :: t).head? ≠ some '\'' := hnext.head?_ne rfl (by decide)
  obtain ⟨_, hquoted⟩ : ∃ shorter, readQuoted? '\'' (skipSpaces (inner ++
      (Text.Quoted.enclose '\'' key.toList ++ (after ++ ']' :: t)))) =
        some ⟨String.ofList key.toList, after ++ ']' :: t, shorter⟩ := by
    rw [hskip]
    exact readQuoted?_enclose hhead key.toList
  obtain ⟨_, hclose⟩ : ∃ shorter, skipTo? ']' (after ++ ']' :: t) = some ⟨t, shorter⟩ :=
    skipTo?_append hafter.all rfl
  refine ⟨by simp only [List.length_append, List.length_cons]; omega, ?_⟩
  rw [readSubscript]
  simp only [hquoted, hclose, String.ofList_toList]

/-- Subscripts are read to their end if no further one follows. -/
theorem readSubscripts_append (h : IsTail e w e') (ht : NextIn [',', ')'] t) :
    ∃ bound, readSubscripts e (w ++ t) = .ok ⟨(e', t), bound⟩ := by
  induction h with
  | nil =>
      have hskip : skipTo? '[' t = none := ht.skipTo?_eq_none (by decide)
      rw [List.nil_append]
      refine ⟨Nat.le_refl _, ?_⟩
      rw [readSubscripts]
      simp only [hskip]
  | @subscript e e' before inner after w key hbefore hinner hafter htail ih =>
      have hassoc : before ++ '[' :: (inner ++ (Text.Quoted.enclose '\'' key.toList ++
          (after ++ ']' :: w))) ++ t = before ++ '[' :: (inner ++
            (Text.Quoted.enclose '\'' key.toList ++ (after ++ ']' :: (w ++ t)))) := by
        simp only [List.append_assoc, List.cons_append]
      obtain ⟨_, hkey⟩ := readSubscript_append (t := w ++ t) hinner hafter key
      obtain ⟨bound, hrest⟩ := ih
      rw [hassoc]
      obtain ⟨_, hopen⟩ : ∃ shorter, skipTo? '[' (before ++ '[' :: (inner ++
          (Text.Quoted.enclose '\'' key.toList ++ (after ++ ']' :: (w ++ t))))) =
            some ⟨_, shorter⟩ := skipTo?_append hbefore.all rfl
      refine ⟨by simp only [List.length_append, List.length_cons]; omega, ?_⟩
      rw [readSubscripts]
      simp only [hopen, hkey, hrest]

theorem complete_append (h : IsTail e w e') (ht : NextIn [',', ')'] t)
    {shorter : (w ++ t).length < s.length} :
    ∃ shorter', complete e (w ++ t) shorter = .ok ⟨e', t, shorter'⟩ := by
  obtain ⟨bound, hread⟩ := readSubscripts_append h ht
  refine ⟨bound.trans_lt shorter, ?_⟩
  rw [complete]
  simp only [hread]

/-- Behind a primary comes a subscript or what comes behind the expression. -/
theorem IsTail.nextIn (h : IsTail e w e') (ht : NextIn [',', ')'] t) :
    NextIn ['[', ',', ')'] (w ++ t) := by
  cases h with
  | nil => exact ht.mono (List.subset_cons_self _ _)
  | subscript hbefore =>
      rw [List.append_assoc]
      exact (nextIn_append hbefore).mpr (nextIn_cons rfl List.mem_cons_self)

/-! ### Primaries -/

/-- What is read in place of a call is a primary. -/
theorem isPrimary_of_readSimple? {r : Reading Expr s} (h : readSimple? s = some r) :
    ∃ w, s = w ++ r.rest ∧ IsPrimary w r.value := by
  rw [readSimple?] at h
  split at h
  · next text htext =>
      cases h
      exact ⟨_, enclose_of_readQuoted? htext, .text text.value⟩
  · split at h
    · next number hnumber =>
        cases h
        obtain ⟨w, hw, hvalue⟩ := isNumber_of_readNumber? hnumber
        exact ⟨w, hw, .number hvalue⟩
    · next hnumber =>
        split at h
        · next quoted hquoted =>
            cases h
            exact ⟨_, enclose_of_readQuoted? hquoted, .quoted quoted.value⟩
        · split at h
          · next name hname =>
              cases h
              obtain ⟨w, hw, hisName, hvalue, hlongest⟩ := isName_of_readName? hname
              refine ⟨w, hw, ?_⟩
              show IsPrimary w (.column name.value)
              rw [hvalue]
              exact .column (isColumnName_of_readNumber? hisName hlongest hnumber)
          · cases h

/-- What is read as the head of a call is one. -/
theorem isName_of_readCallHead? {head : Reading String s} (h : readCallHead? s = some head) :
    ∃ name before inner, IsName name ∧ Spaces before ∧ Spaces inner ∧
      head.value = String.ofList name ∧ s = name ++ (before ++ '(' :: (inner ++ head.rest)) := by
  rw [readCallHead?] at h
  split at h
  · next name hname =>
      split at h
      · next later shorter hskip =>
          obtain ⟨w, hw, hisName, hvalue, -⟩ := isName_of_readName? hname
          obtain ⟨before, hrest, hbefore⟩ := exists_spaces_of_skipTo? hskip
          obtain ⟨inner, hlater, hinner⟩ := exists_spaces later
          cases h
          refine ⟨w, before, inner, hisName, hbefore, hinner, hvalue, ?_⟩
          show s = w ++ (before ++ '(' :: (inner ++ skipSpaces later))
          rw [← hlater, ← hrest, ← hw]
      · cases h
  · cases h

/-- Where no parenthesis comes behind the name there is no call. -/
theorem readCallHead?_eq_none (h : skipTo? '(' (s.dropWhile isNameChar) = none) :
    readCallHead? s = none := by
  by_cases hnil : s.takeWhile isNameChar = []
  · rw [readCallHead?, readName?_eq_none hnil]
  · have hname : readName? s = some ⟨String.ofList (s.takeWhile isNameChar),
        s.dropWhile isNameChar, Text.length_dropWhile_lt hnil⟩ := by
      rw [readName?, dif_neg hnil]
    rw [readCallHead?, hname]
    simp only [h]

theorem readCallHead?_append {name before : List Char} (hname : IsName name)
    (hbefore : Spaces before) :
    ∃ shorter, readCallHead? (name ++ (before ++ '(' :: t)) =
      some ⟨String.ofList name, skipSpaces t, shorter⟩ := by
  have hnext : NextIn ['('] (before ++ '(' :: t) :=
    (nextIn_append hbefore).mpr (nextIn_cons rfl (List.mem_singleton_self _))
  have hend : (before ++ '(' :: t).takeWhile isNameChar = [] :=
    hnext.name_ends (by simp [isNameChar])
  obtain ⟨_, hread⟩ := readName?_append hname.all hname.1 hend
  obtain ⟨_, hopen⟩ : ∃ shorter, skipTo? '(' (before ++ '(' :: t) = some ⟨t, shorter⟩ :=
    skipTo?_append hbefore.all rfl
  refine ⟨?_, ?_⟩
  · have := length_skipSpaces_le t
    simp only [List.length_append, List.length_cons]
    omega
  · rw [readCallHead?, hread]
    simp only [hopen]

/-- A primary that is no call is read as such where no call is read. -/
theorem read_of_readSimple? {shorter : t.length < (w ++ t).length}
    (hcall : skipTo? '(' ((w ++ t).dropWhile isNameChar) = none)
    (hsimple : readSimple? (w ++ t) = some ⟨e, t, shorter⟩) :
    read (w ++ t) = complete e t shorter := by
  rw [read]
  simp only [readCallHead?_eq_none hcall, readPlain, hsimple]

theorem read_text (value : String) (ht : NextIn ['[', ',', ')'] t) :
    ∃ shorter, read (Text.Quoted.enclose '\'' value.toList ++ t) =
      complete (.literal (.text value)) t shorter := by
  have hhead : t.head? ≠ some '\'' := ht.head?_ne rfl (by decide)
  obtain ⟨shorter, hquoted⟩ := readQuoted?_enclose hhead value.toList
  refine ⟨shorter, read_of_readSimple? (skipTo?_cons_of_ne rfl (by decide)) ?_⟩
  rw [readSimple?, hquoted]
  simp

theorem read_quoted (name : String) (ht : NextIn ['[', ',', ')'] t) :
    ∃ shorter, read (Text.Quoted.enclose '"' name.toList ++ t) =
      complete (.quoted name) t shorter := by
  have hhead : t.head? ≠ some '"' := ht.head?_ne rfl (by decide)
  have htext : readQuoted? '\'' (Text.Quoted.enclose '"' name.toList ++ t) = none :=
    readQuoted?_eq_none (by simp [Text.Quoted.enclose])
  have hnumber : readNumber? (Text.Quoted.enclose '"' name.toList ++ t) = none := by
    rfl
  obtain ⟨shorter, hquoted⟩ := readQuoted?_enclose hhead name.toList
  refine ⟨shorter, read_of_readSimple? (skipTo?_cons_of_ne rfl (by decide)) ?_⟩
  rw [readSimple?, htext, hnumber, hquoted]
  simp

theorem read_column {name : List Char} (hname : IsColumnName name)
    (ht : NextIn ['[', ',', ')'] t) :
    ∃ shorter, read (name ++ t) = complete (.column (String.ofList name)) t shorter := by
  have hend : t.takeWhile isNameChar = [] := ht.name_ends (by simp [isNameChar])
  have hnumber : readNumber? (name ++ t) = none :=
    readNumber?_column hname hend (ht.head?_ne rfl (by decide))
  obtain ⟨c, rest, rfl⟩ := List.exists_cons_of_ne_nil hname.1.1
  have hc : isNameChar c = true := hname.1.all c List.mem_cons_self
  have hquote (q : Char) (hq : isNameChar q = false) : readQuoted? q (c :: rest ++ t) = none := by
    apply readQuoted?_eq_none
    intro heq
    obtain rfl := Option.some.inj heq
    rw [hc] at hq
    cases hq
  obtain ⟨shorter, hread⟩ := readName?_append hname.1.all hname.1.1 hend
  refine ⟨shorter, read_of_readSimple? ?_ ?_⟩
  · rw [dropWhile_name hname.1.all hend]
    exact ht.skipTo?_eq_none (by decide)
  · rw [readSimple?, hquote '\'' rfl, hnumber, hquote '"' rfl, hread]

theorem IsNumber.exists_cons {value : Literal} (h : IsNumber w value) :
    ∃ c rest, w = c :: rest ∧ (c = '+' ∨ c = '-' ∨ c.isDigit = true) := by
  have hsigned {sign digits : List Char} {negative : Bool} (signed : IsSign sign negative)
      (hdigits : Digits digits) :
      ∃ c rest, sign ++ digits = c :: rest ∧ (c = '+' ∨ c = '-' ∨ c.isDigit = true) := by
    cases signed with
    | none =>
        obtain ⟨d, rest, rfl⟩ := List.exists_cons_of_ne_nil hdigits.1
        exact ⟨d, rest, rfl, Or.inr (Or.inr (hdigits.2 d List.mem_cons_self))⟩
    | plus => exact ⟨'+', digits, rfl, Or.inl rfl⟩
    | minus => exact ⟨'-', digits, rfl, Or.inr (Or.inl rfl)⟩
  cases h with
  | integer signed hdigits => exact hsigned signed hdigits
  | float signed hwhole =>
      obtain ⟨c, rest, hw, hc⟩ := hsigned signed hwhole
      exact ⟨c, rest ++ '.' :: _, by rw [hw]; rfl, hc⟩

/-- No call starts with a number: behind its first digits comes a point or what follows it. -/
theorem skipTo?_number {value : Literal} (h : IsNumber w value) (ht : NextIn ['[', ',', ')'] t) :
    skipTo? '(' ((w ++ t).dropWhile isNameChar) = none := by
  have hend : t.takeWhile isNameChar = [] := ht.name_ends (by simp [isNameChar])
  have hall {digits : List Char} (hdigits : Digits digits) : ∀ c ∈ digits, isNameChar c = true :=
    fun c hc => isNameChar_of_isDigit (hdigits.2 c hc)
  cases h with
  | integer signed hdigits =>
      cases signed with
      | none =>
          rw [List.nil_append, dropWhile_name (hall hdigits) hend]
          exact ht.skipTo?_eq_none (by decide)
      | plus => exact skipTo?_cons_of_ne rfl (by decide)
      | minus => exact skipTo?_cons_of_ne rfl (by decide)
  | @float sign whole places negative signed hwhole hplaces =>
      cases signed with
      | none =>
          have hpoint : ('.' :: (places ++ t)).takeWhile isNameChar = [] := rfl
          rw [List.nil_append, List.append_assoc, List.cons_append,
            dropWhile_name (hall hwhole) hpoint]
          exact skipTo?_cons_of_ne rfl (by decide)
      | plus => exact skipTo?_cons_of_ne rfl (by decide)
      | minus => exact skipTo?_cons_of_ne rfl (by decide)

theorem read_number {value : Literal} (h : IsNumber w value) (ht : NextIn ['[', ',', ')'] t) :
    ∃ shorter, read (w ++ t) = complete (.literal value) t shorter := by
  have hdigit : t.takeWhile Char.isDigit = [] := by
    apply ht.takeWhile_eq_nil
    · intro c hc
      rcases isSpace_iff.mp hc with rfl | rfl | rfl | rfl <;> rfl
    · simp
  have htext : readQuoted? '\'' (w ++ t) = none := by
    obtain ⟨c, rest, rfl, hc⟩ := h.exists_cons
    apply readQuoted?_eq_none
    intro heq
    obtain rfl := Option.some.inj heq
    revert hc
    decide
  obtain ⟨shorter, hnumber⟩ := readNumber?_append h hdigit (ht.head?_ne rfl (by decide))
  refine ⟨shorter, read_of_readSimple? (skipTo?_number h ht) ?_⟩
  rw [readSimple?, htext, hnumber]

/-! ### Expressions and arguments -/

theorem IsName.exists_cons (h : IsName w) : ∃ c rest, w = c :: rest ∧ isSpace c = false := by
  obtain ⟨c, rest, rfl⟩ := List.exists_cons_of_ne_nil h.1
  refine ⟨c, rest, rfl, ?_⟩
  cases hspace : isSpace c with
  | false => rfl
  | true =>
      have hc := h.all c List.mem_cons_self
      rw [isNameChar_of_isSpace hspace] at hc
      cases hc

/-- A primary starts with no white space. -/
theorem IsPrimary.exists_cons (h : IsPrimary w e) :
    ∃ c rest, w = c :: rest ∧ isSpace c = false := by
  cases h with
  | call name_ok =>
      obtain ⟨c, rest, rfl, hc⟩ := name_ok.exists_cons
      exact ⟨c, _, rfl, hc⟩
  | text value => exact ⟨'\'', _, rfl, rfl⟩
  | number number =>
      obtain ⟨c, rest, rfl, hc⟩ := number.exists_cons
      refine ⟨c, rest, rfl, ?_⟩
      rcases hc with rfl | rfl | hdigit
      · rfl
      · rfl
      · cases hspace : isSpace c with
        | false => rfl
        | true =>
            have hnot := isNameChar_of_isSpace hspace
            rw [isNameChar_of_isDigit hdigit] at hnot
            cases hnot
  | quoted name => exact ⟨'"', _, rfl, rfl⟩
  | column name_ok => exact name_ok.1.exists_cons

theorem IsExpr.ne_nil (h : IsExpr w e) : w ≠ [] := by
  obtain ⟨primary, -⟩ := h
  obtain ⟨c, rest, rfl, -⟩ := primary.exists_cons
  exact List.cons_ne_nil c _

theorem IsExpr.skipSpaces_append (h : IsExpr w e) : skipSpaces (w ++ t) = w ++ t := by
  obtain ⟨primary, -⟩ := h
  obtain ⟨c, rest, rfl, hc⟩ := primary.exists_cons
  exact List.dropWhile_cons_of_neg (by simp [hc])

/-- No expression is read where the arguments of a call end. -/
theorem read_of_ended (h : NextIn [')'] s) : ∃ f, read (skipSpaces s) = .error f := by
  cases hs : skipSpaces s with
  | nil => exact ⟨_, by rw [read]; rfl⟩
  | cons c rest =>
      obtain rfl : c = ')' := List.mem_singleton.mp (h c (by rw [hs]; rfl))
      have hcall : readCallHead? (')' :: rest) = none :=
        readCallHead?_eq_none (skipTo?_cons_of_ne rfl (by decide))
      refine ⟨.noExpression (')' :: rest), ?_⟩
      rw [read]
      simp only [hcall]
      rfl

-- The induction is on the derivation: each part is read to its end before what can follow it, so
-- the reader never falls back.
mutual

/-- An expression is read to its end. -/
theorem IsExpr.read_append {w : List Char} {e : Expr} {t : List Char} :
    IsExpr w e → NextIn [',', ')'] t → ∃ shorter, read (w ++ t) = .ok ⟨e, t, shorter⟩
  | .mk primary tail, ht => by
      obtain ⟨_, hread⟩ := primary.read_append (tail.nextIn ht)
      rw [List.append_assoc, hread]
      exact complete_append tail ht

/-- A primary is read before anything that can come behind it. -/
theorem IsPrimary.read_append {w : List Char} {e : Expr} {t : List Char} :
    IsPrimary w e → NextIn ['[', ',', ')'] t → ∃ shorter, read (w ++ t) = complete e t shorter
  | @IsPrimary.call name before inner w after arguments name_ok before_ok inner_ok list after_ok,
      ht => by
      have hassoc : name ++ (before ++ '(' :: (inner ++ (w ++ (after ++ [')'])))) ++ t =
          name ++ (before ++ '(' :: (inner ++ (w ++ (after ++ ')' :: t)))) := by
        simp only [List.append_assoc, List.cons_append, List.nil_append]
      have hend : NextIn [')'] (after ++ ')' :: t) :=
        (nextIn_append after_ok).mpr (nextIn_cons rfl (List.mem_singleton_self _))
      -- The white space behind the parenthesis is read with the head of the call.
      obtain ⟨_, hhead⟩ : ∃ shorter,
          readCallHead? (name ++ (before ++ '(' :: (inner ++ (w ++ (after ++ ')' :: t))))) =
            some ⟨String.ofList name, skipSpaces (w ++ (after ++ ')' :: t)), shorter⟩ := by
        rw [← Expr.skipSpaces_append inner_ok.all]
        exact readCallHead?_append name_ok before_ok
      obtain ⟨rest, _, hlist, hrest⟩ := list.readArguments_append hend
      have harguments :
          (readArguments (skipSpaces (w ++ (after ++ ')' :: t)))).1.1 = arguments := by
        rw [hlist]
      -- The arguments leave the parenthesis, perhaps without the white space before it.
      obtain ⟨_, hclose⟩ : ∃ shorter, skipTo? ')'
          (readArguments (skipSpaces (w ++ (after ++ ')' :: t)))).1.2 = some ⟨t, shorter⟩ := by
        apply skipTo?_of_skipSpaces
        rw [hlist, hrest, Expr.skipSpaces_append after_ok.all]
        rfl
      rw [hassoc]
      refine ⟨by simp only [List.length_append, List.length_cons]; omega, ?_⟩
      rw [read]
      simp only [hhead, harguments, hclose]
  | .text value, ht => read_text value ht
  | .number number, ht => read_number number ht
  | .quoted name, ht => read_quoted name ht
  | .column name_ok, ht => read_column name_ok ht

/-- So are the arguments of a call. -/
theorem IsArguments.readArguments_append {w : List Char} {arguments : List Expr} {t : List Char} :
    IsArguments w arguments → NextIn [')'] t →
      ∃ rest bound, readArguments (skipSpaces (w ++ t)) = ⟨(arguments, rest), bound⟩ ∧
        skipSpaces rest = skipSpaces t
  | .nil, ht => by
      obtain ⟨f, hread⟩ := read_of_ended ht
      rw [List.nil_append]
      refine ⟨skipSpaces t, Nat.le_refl _, ?_, skipSpaces_skipSpaces t⟩
      rw [readArguments]
      simp only [hread]
  | .one expr, ht => by
      obtain ⟨shorter, hread⟩ := expr.read_append (ht.mono (by decide))
      have hcomma : skipTo? ',' t = none := ht.skipTo?_eq_none (by decide)
      rw [expr.skipSpaces_append]
      refine ⟨t, Nat.le_of_lt shorter, ?_, rfl⟩
      rw [readArguments]
      simp only [hread, hcomma]
  | @IsArguments.more w before after v e second others expr before_ok after_ok list, ht => by
      have hassoc : w ++ (before ++ ',' :: (after ++ v)) ++ t =
          w ++ (before ++ ',' :: (after ++ (v ++ t))) := by
        simp only [List.append_assoc, List.cons_append]
      have hnext : NextIn [',', ')'] (before ++ ',' :: (after ++ (v ++ t))) :=
        (nextIn_append before_ok).mpr (nextIn_cons rfl List.mem_cons_self)
      obtain ⟨_, hread⟩ := expr.read_append hnext
      obtain ⟨_, hcomma⟩ : ∃ shorter, skipTo? ',' (before ++ ',' :: (after ++ (v ++ t))) =
          some ⟨after ++ (v ++ t), shorter⟩ := skipTo?_append before_ok.all rfl
      obtain ⟨rest, bound, hothers, hrest⟩ : ∃ rest bound,
          readArguments (skipSpaces (after ++ (v ++ t))) = ⟨(second :: others, rest), bound⟩ ∧
            skipSpaces rest = skipSpaces t := by
        rw [Expr.skipSpaces_append after_ok.all]
        exact list.readArguments_append ht
      rw [hassoc, expr.skipSpaces_append]
      have hbound := length_skipSpaces_le (after ++ (v ++ t))
      dsimp only at bound
      refine ⟨rest, by simp only [List.length_append, List.length_cons] at *; omega, ?_, hrest⟩
      rw [readArguments]
      simp only [hread, hcomma, hothers]

end

/-! ### What is read -/

theorem isExpr_of_readPlain {r : Reading Expr s} (h : readPlain s = .ok r) :
    ∃ w, s = w ++ r.rest ∧ IsExpr w r.value := by
  rw [readPlain] at h
  split at h
  · next simple hsimple =>
      obtain ⟨w, hw, hprimary⟩ := isPrimary_of_readSimple? hsimple
      obtain ⟨v, hv, htail⟩ := isTail_of_complete h
      exact ⟨w ++ v, by rw [List.append_assoc, ← hv, ← hw], .mk hprimary htail⟩
  · cases h

-- The reader decides here, and it is followed through its fallbacks by induction on the text.
mutual

/-- What is read at the front of a text is an expression. -/
theorem isExpr_of_read (s : List Char) {r : Reading Expr s} (h : read s = .ok r) :
    ∃ w, s = w ++ r.rest ∧ IsExpr w r.value := by
  rw [read] at h
  split at h
  · exact isExpr_of_readPlain h
  · next head hhead =>
      have hshorter := head.shorter
      obtain ⟨w, hw, hlist⟩ := isArguments_of_readArguments head.rest
      dsimp only at h
      split at h
      · -- Nothing closes the parenthesis, so what is read is no call.
        exact isExpr_of_readPlain h
      · next later shorter hskip =>
          obtain ⟨name, before, inner, hname, hbefore, hinner, hvalue, hs⟩ :=
            isName_of_readCallHead? hhead
          obtain ⟨after, hrest, hafter⟩ := exists_spaces_of_skipTo? hskip
          obtain ⟨v, hv, htail⟩ := isTail_of_complete h
          rw [hvalue] at htail
          refine ⟨_, ?_, .mk (.call hname hbefore hinner hlist hafter) htail⟩
          dsimp only at hrest
          simp only [List.append_assoc, List.cons_append, List.nil_append]
          rw [← hv, ← hrest, ← hw, ← hs]
termination_by 2 * s.length
decreasing_by omega

/-- What is read as arguments are expressions with commas between them. -/
theorem isArguments_of_readArguments (s : List Char) :
    ∃ w, s = w ++ (readArguments s).1.2 ∧ IsArguments w (readArguments s).1.1 := by
  rw [readArguments]
  split
  · exact ⟨[], rfl, .nil⟩
  · next first hfirst =>
      obtain ⟨w, hw, hexpr⟩ := isExpr_of_read s hfirst
      split
      · exact ⟨w, hw, .one hexpr⟩
      · next later shorter hskip =>
          obtain ⟨before, hrest, hbefore⟩ := exists_spaces_of_skipTo? hskip
          obtain ⟨after, hlater, hafter⟩ := exists_spaces later
          have hshorter := (length_skipSpaces_le later).trans_lt (shorter.trans first.shorter)
          obtain ⟨v, hv, hlist⟩ := isArguments_of_readArguments (skipSpaces later)
          split
          · -- A comma that no expression follows stays in the text.
            exact ⟨w, hw, .one hexpr⟩
          · next second others last hlast heq =>
              rw [heq] at hv hlist
              refine ⟨_, ?_, .more hexpr hbefore hafter hlist⟩
              dsimp only at hrest hv ⊢
              simp only [List.append_assoc, List.cons_append]
              rw [← hv, ← hlater, ← hrest, ← hw]
termination_by 2 * s.length + 1
decreasing_by
  · omega
  · omega

end

/-! ### Whole texts -/

theorem isExpr_of_parse {text : String} (h : parse text = .ok e) :
    IsExpr (Text.trim text.toList) e := by
  rw [parse] at h
  dsimp only at h
  split at h
  · cases h
  · split at h
    · cases h
    · next r hread =>
        obtain ⟨w, hw, hexpr⟩ := isExpr_of_read _ hread
        split at h
        · next hrest =>
            cases h
            -- A rest of blanks is none, since the text is trimmed.
            have hnil : r.rest = [] := Text.eq_nil_of_suffix_trim ⟨w, hw.symm⟩ hrest
            rw [hnil, List.append_nil] at hw
            subst hw
            exact hexpr
        · cases h

theorem parse_of_isExpr {text : String} (h : IsExpr (Text.trim text.toList) e) :
    parse text = .ok e := by
  obtain ⟨_, hread⟩ : ∃ shorter, read (Text.trim text.toList) = .ok ⟨e, [], shorter⟩ := by
    have hwhole := h.read_append (t := []) nextIn_nil
    rwa [List.append_nil] at hwhole
  rw [parse]
  dsimp only
  rw [if_neg h.ne_nil, hread]
  rfl

/-- The grammar is unambiguous: a text is one expression at most. -/
theorem IsExpr.unique (h : IsExpr w e) (h' : IsExpr w e') : e = e' := by
  obtain ⟨_, hread⟩ := h.read_append (t := []) nextIn_nil
  obtain ⟨_, hread'⟩ := h'.read_append (t := []) nextIn_nil
  rw [hread] at hread'
  cases hread'
  rfl

/-- A text is read as an expression just if the grammar derives it, without the white space around
it, as that expression. -/
theorem parse_eq_ok_iff (text : String) (e : Expr) :
    parse text = .ok e ↔ IsExpr (Text.trim text.toList) e := by
  constructor
  · exact isExpr_of_parse
  · exact parse_of_isExpr

/-- Digits that are no integer of 64 bits are a column. -/
example : (parse " f(9223372036854775808, 'it''s') [ 'k' ] ").toOption =
    some (.subscript (.call "f" [.column "9223372036854775808", .literal (.text "it's")]) "k") := by
  decide +kernel

end CostView.Expr
