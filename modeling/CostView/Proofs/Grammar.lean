import CostView.Proofs.KeyList
import Mathlib.Data.List.DropRight

/-!
# The grammar of expressions

An expression is a primary followed by subscripts, which are applied from left to right.  A primary
is a call, a text, a number, a column between double quotes or a bare name.  White space may stand
between the parts but not inside a name, a number or a text.

The grammar says which texts are expressions and of what.  It knows no order of preference and no
backtracking, so it is written down without the reader, and it needs none to be unambiguous: a bare
column starts with a digit only if its first digits are too large for an integer, so that no number
is a column, and no two names or numbers stand side by side.

This module has the grammar and the parts of it that are not recursive.  Each reader of such a part
is described twice: what it reads is of that part, and what is of that part is read to its end if
what follows cannot belong to it.
-/

namespace CostView

namespace Expr

/-! ### The grammar -/

/-- White space between the parts of an expression, perhaps none. -/
def Spaces (w : List Char) : Prop :=
  ∀ c ∈ w, c = ' ' ∨ c = '\t' ∨ c = '\n' ∨ c = '\r'

/-- A bare name. -/
def IsName (w : List Char) : Prop :=
  w ≠ [] ∧ ∀ c ∈ w, c.isAlphanum = true ∨ c = '_'

/-- Some decimal digits. -/
def Digits (w : List Char) : Prop :=
  w ≠ [] ∧ ∀ c ∈ w, c.isDigit = true

/-- The number that digits write. -/
def numeral (digits : List Char) : Nat :=
  Nat.ofDigitChars 10 digits 0

/-- A bare name that is a column: it starts with no digit, or its first digits are together too
large for an integer of 64 bits. -/
def IsColumnName (w : List Char) : Prop :=
  IsName w ∧ (w.takeWhile Char.isDigit = [] ∨ 2 ^ 63 ≤ numeral (w.takeWhile Char.isDigit))

/-- An optional sign, and whether it is a minus. -/
inductive IsSign : List Char → Bool → Prop
  | none : IsSign [] false
  | plus : IsSign ['+'] false
  | minus : IsSign ['-'] true

/-- A number: an integer of 64 bits, or a decimal with a point. -/
inductive IsNumber : List Char → Literal → Prop
  | integer {sign digits : List Char} {negative : Bool} {n : Int} (signed : IsSign sign negative)
      (digits_ok : Digits digits)
      (value : n = if negative then -(numeral digits : Int) else numeral digits)
      (lower : -(2 ^ 63) ≤ n) (upper : n < 2 ^ 63) : IsNumber (sign ++ digits) (.integer n)
  | float {sign whole places : List Char} {negative : Bool} (signed : IsSign sign negative)
      (whole_ok : Digits whole) (places_ok : Digits places) :
      IsNumber (sign ++ whole ++ '.' :: places)
        (.float (Binary64.ofRatio negative (numeral (whole ++ places)) (10 ^ places.length)))

/-- Subscripts after an expression, and the expression with them applied from left to right. -/
inductive IsTail : Expr → List Char → Expr → Prop
  | nil {e : Expr} : IsTail e [] e
  | subscript {e e' : Expr} {before inner after w : List Char} {key : String}
      (before_ok : Spaces before) (inner_ok : Spaces inner) (after_ok : Spaces after)
      (tail : IsTail (.subscript e key) w e') :
      IsTail e (before ++ '[' :: (inner ++ (Text.Quoted.enclose '\'' key.toList ++
        (after ++ ']' :: w)))) e'

mutual

/-- A text is an expression. -/
inductive IsExpr : List Char → Expr → Prop
  | mk {w v : List Char} {e e' : Expr} (primary : IsPrimary w e) (tail : IsTail e v e') :
      IsExpr (w ++ v) e'

/-- A text is a primary. -/
inductive IsPrimary : List Char → Expr → Prop
  | call {name before inner w after : List Char} {arguments : List Expr} (name_ok : IsName name)
      (before_ok : Spaces before) (inner_ok : Spaces inner) (list : IsArguments w arguments)
      (after_ok : Spaces after) :
      IsPrimary (name ++ (before ++ '(' :: (inner ++ (w ++ (after ++ [')'])))))
        (.call (String.ofList name) arguments)
  | text (value : String) :
      IsPrimary (Text.Quoted.enclose '\'' value.toList) (.literal (.text value))
  | number {w : List Char} {value : Literal} (number : IsNumber w value) :
      IsPrimary w (.literal value)
  | quoted (name : String) : IsPrimary (Text.Quoted.enclose '"' name.toList) (.quoted name)
  | column {name : List Char} (name_ok : IsColumnName name) :
      IsPrimary name (.column (String.ofList name))

/-- A text is a list of expressions with commas between them, perhaps of none. -/
inductive IsArguments : List Char → List Expr → Prop
  | nil : IsArguments [] []
  | one {w : List Char} {e : Expr} (expr : IsExpr w e) : IsArguments w [e]
  | more {w before after v : List Char} {e second : Expr} {others : List Expr}
      (expr : IsExpr w e) (before_ok : Spaces before) (after_ok : Spaces after)
      (rest : IsArguments v (second :: others)) :
      IsArguments (w ++ (before ++ ',' :: (after ++ v))) (e :: second :: others)

end

/-! ### White space and what comes next -/

variable {s t w : List Char} {c : Char}

theorem isSpace_iff : isSpace c = true ↔ c = ' ' ∨ c = '\t' ∨ c = '\n' ∨ c = '\r' := by
  simp [isSpace, or_assoc]

theorem isNameChar_iff : isNameChar c = true ↔ c.isAlphanum = true ∨ c = '_' := by
  simp [isNameChar]

theorem Spaces.all (h : Spaces w) : ∀ c ∈ w, isSpace c = true :=
  fun c hc => isSpace_iff.mpr (h c hc)

theorem IsName.all (h : IsName w) : ∀ c ∈ w, isNameChar c = true :=
  fun c hc => isNameChar_iff.mpr (h.2 c hc)

theorem exists_spaces (s : List Char) : ∃ before, s = before ++ skipSpaces s ∧ Spaces before :=
  ⟨s.takeWhile isSpace, List.takeWhile_append_dropWhile.symm,
    fun _ hc => isSpace_iff.mp (List.mem_takeWhile_imp hc)⟩

theorem skipSpaces_skipSpaces (s : List Char) : skipSpaces (skipSpaces s) = skipSpaces s := by
  obtain ⟨before, hs, hbefore⟩ := exists_spaces s
  conv_rhs => rw [hs, skipSpaces_append hbefore.all]

theorem exists_spaces_of_skipTo? {p : { r : List Char // r.length < s.length }}
    (h : skipTo? c s = some p) : ∃ before, s = before ++ c :: p.1 ∧ Spaces before := by
  obtain ⟨before, hs, hbefore⟩ := exists_spaces s
  rw [skipTo?] at h
  split at h
  · next d rest hskip =>
      split at h
      · next hd =>
          cases h
          exact ⟨before, by rw [← hd, ← hskip, ← hs], hbefore⟩
      · cases h
  · cases h

/-- What comes next in a text, white space aside, is its end or one of some characters. -/
def NextIn (stops t : List Char) : Prop :=
  ∀ c, (skipSpaces t).head? = some c → c ∈ stops

variable {stops : List Char}

theorem nextIn_nil : NextIn stops [] :=
  nofun

theorem nextIn_append (hw : Spaces w) : NextIn stops (w ++ t) ↔ NextIn stops t := by
  unfold NextIn
  rw [skipSpaces_append hw.all]

theorem nextIn_cons (hspace : isSpace c = false) (hc : c ∈ stops) : NextIn stops (c :: t) := by
  intro d hd
  rw [skipSpaces, List.dropWhile_cons_of_neg (by simp [hspace]), List.head?_cons] at hd
  exact Option.some.inj hd ▸ hc

theorem NextIn.mono {others : List Char} (h : NextIn stops t) (hsub : stops ⊆ others) :
    NextIn others t :=
  fun c hc => hsub (h c hc)

theorem NextIn.skipTo?_eq_none (h : NextIn stops t) (hc : c ∉ stops) : skipTo? c t = none := by
  rw [skipTo?]
  split
  · next d rest hskip =>
      rw [if_neg]
      rintro rfl
      exact hc (h d (by rw [hskip]; rfl))
  · rfl

theorem skipTo?_cons_of_ne {d : Char} (hd : isSpace d = false) (hne : d ≠ c) :
    skipTo? c (d :: t) = none := by
  have hnext : NextIn [d] (d :: t) := nextIn_cons hd (List.mem_singleton_self d)
  exact hnext.skipTo?_eq_none (by simp [hne.symm])

/-- The first character of what comes next is white space or one of the characters. -/
theorem NextIn.head (h : NextIn stops t) (hc : t.head? = some c) :
    isSpace c = true ∨ c ∈ stops := by
  by_cases hspace : isSpace c = true
  · exact Or.inl hspace
  · refine Or.inr (h c ?_)
    cases t with
    | nil => cases hc
    | cons d rest =>
        obtain rfl := Option.some.inj hc
        rw [skipSpaces, List.dropWhile_cons_of_neg hspace]
        rfl

theorem NextIn.head?_ne (h : NextIn stops t) (hspace : isSpace c = false) (hc : c ∉ stops) :
    t.head? ≠ some c := by
  intro heq
  rcases h.head heq with hspaced | hstop
  · rw [hspace] at hspaced
    cases hspaced
  · exact hc hstop

/-- So a run of other characters does not go on there. -/
theorem NextIn.takeWhile_eq_nil {p : Char → Bool} (h : NextIn stops t)
    (hspace : ∀ c, isSpace c = true → p c = false) (hstops : ∀ c ∈ stops, p c = false) :
    t.takeWhile p = [] := by
  cases t with
  | nil => rfl
  | cons c rest =>
      have hc : p c = false := (h.head rfl).elim (hspace c) (hstops c)
      rw [List.takeWhile_cons, hc]
      rfl

theorem isNameChar_of_isSpace (h : isSpace c = true) : isNameChar c = false := by
  rcases isSpace_iff.mp h with rfl | rfl | rfl | rfl <;> rfl

/-- A name does not go on in white space or in a character that belongs to no name. -/
theorem NextIn.name_ends (h : NextIn stops t) (hstops : ∀ c ∈ stops, isNameChar c = false) :
    t.takeWhile isNameChar = [] :=
  h.takeWhile_eq_nil (fun _ => isNameChar_of_isSpace) hstops

/-! ### Names and quoted text -/

/-- What is read as a name is the longest one at the front. -/
theorem isName_of_readName? {r : Reading String s} (h : readName? s = some r) :
    ∃ name, s = name ++ r.rest ∧ IsName name ∧ r.value = String.ofList name ∧
      name = s.takeWhile isNameChar := by
  rw [readName?] at h
  split at h
  · cases h
  · next hne =>
      cases h
      exact ⟨_, List.takeWhile_append_dropWhile.symm,
        ⟨hne, fun c hc => isNameChar_iff.mp (List.mem_takeWhile_imp hc)⟩, rfl, rfl⟩

/-- A name is dropped up to the first character that belongs to no name. -/
theorem dropWhile_name (hw : ∀ a ∈ w, isNameChar a = true) (ht : t.takeWhile isNameChar = []) :
    (w ++ t).dropWhile isNameChar = t := by
  have hsplit := List.takeWhile_append_dropWhile (p := isNameChar) (l := t)
  rw [ht, List.nil_append] at hsplit
  rw [List.dropWhile_append_of_pos hw, hsplit]

theorem takeWhile_name (hw : ∀ a ∈ w, isNameChar a = true) (ht : t.takeWhile isNameChar = []) :
    (w ++ t).takeWhile isNameChar = w := by
  rw [List.takeWhile_append_of_pos hw, ht, List.append_nil]

/-- A name is read to its end if no further character of a name follows. -/
theorem readName?_append (hw : ∀ a ∈ w, isNameChar a = true) (hnil : w ≠ [])
    (ht : t.takeWhile isNameChar = []) :
    ∃ shorter, readName? (w ++ t) = some ⟨String.ofList w, t, shorter⟩ := by
  have htake := takeWhile_name hw ht
  have hshorter : t.length < (w ++ t).length := by
    rw [List.length_append]
    have := List.length_pos_iff.mpr hnil
    omega
  refine ⟨hshorter, ?_⟩
  rw [readName?, dif_neg (by rw [htake]; exact hnil), Option.some.injEq, Reading.mk.injEq]
  exact ⟨congrArg String.ofList htake, dropWhile_name hw ht⟩

theorem readName?_eq_none (h : s.takeWhile isNameChar = []) : readName? s = none := by
  rw [readName?, dif_pos h]

/-! ### Numbers -/

theorem takeWhile_digits (hd : Digits w) (ht : t.takeWhile Char.isDigit = []) :
    (w ++ t).takeWhile Char.isDigit = w ∧ (w ++ t).dropWhile Char.isDigit = t := by
  have hdrop : t.dropWhile Char.isDigit = t := by
    have hsplit := List.takeWhile_append_dropWhile (p := Char.isDigit) (l := t)
    rwa [ht, List.nil_append] at hsplit
  constructor
  · rw [List.takeWhile_append_of_pos hd.2, ht, List.append_nil]
  · rw [List.dropWhile_append_of_pos hd.2, hdrop]

theorem digits_takeWhile (h : s.takeWhile Char.isDigit ≠ []) : Digits (s.takeWhile Char.isDigit) :=
  ⟨h, fun _ hc => List.mem_takeWhile_imp hc⟩

theorem exists_sign (s : List Char) :
    ∃ sign, s = sign ++ (readSign s).2 ∧ IsSign sign (readSign s).1 := by
  unfold readSign
  split
  · exact ⟨['-'], rfl, .minus⟩
  · exact ⟨['+'], rfl, .plus⟩
  · exact ⟨[], rfl, .none⟩

/-- Before a character that is no sign, a sign is what it is. -/
theorem readSign_append {sign : List Char} {negative : Bool} (h : IsSign sign negative)
    (hminus : s.head? ≠ some '-') (hplus : s.head? ≠ some '+') :
    readSign (sign ++ s) = (negative, s) := by
  cases h with
  | none =>
      show readSign s = _
      unfold readSign
      split
      · exact absurd rfl hminus
      · exact absurd rfl hplus
      · rfl
  | plus => rfl
  | minus => rfl

/-- What is read after the whole digits: no point with digits after it, or one. -/
theorem readFraction_cases (s : List Char) :
    readFraction s = ([], s) ∨
      ∃ places rest, Digits places ∧ s = '.' :: (places ++ rest) ∧
        readFraction s = (places, rest) := by
  unfold readFraction
  split
  · next rest =>
      split
      · exact Or.inl rfl
      · next hne =>
          exact Or.inr ⟨_, _, digits_takeWhile hne,
            congrArg _ List.takeWhile_append_dropWhile.symm, rfl⟩
  · exact Or.inl rfl

theorem readFraction_point {places : List Char} (hd : Digits places)
    (ht : t.takeWhile Char.isDigit = []) : readFraction ('.' :: (places ++ t)) = (places, t) := by
  obtain ⟨htake, hdrop⟩ := takeWhile_digits hd ht
  rw [readFraction, htake, hdrop, if_neg hd.1]

theorem readFraction_of_head (h : t.head? ≠ some '.') : readFraction t = ([], t) := by
  unfold readFraction
  split
  · exact absurd rfl h
  · rfl

theorem integer?_eq_some_iff {negative : Bool} {digits : List Char} {n : Int} :
    integer? negative digits = some n ↔
      n = (if negative then -(numeral digits : Int) else numeral digits) ∧
        -(2 ^ 63) ≤ n ∧ n < 2 ^ 63 := by
  have hbound : ((Nat.pow 2 63 : Nat) : Int) = 2 ^ 63 := by decide
  unfold integer?
  rw [hbound]
  show (if -(2 ^ 63) ≤ (if negative then -(numeral digits : Int) else numeral digits) ∧
      (if negative then -(numeral digits : Int) else numeral digits) < 2 ^ 63 then
    some (if negative then -(numeral digits : Int) else numeral digits) else none) = some n ↔ _
  generalize (if negative then -(numeral digits : Int) else numeral digits) = value
  split
  · next hvalue =>
      constructor
      · intro h
        obtain rfl := Option.some.inj h
        exact ⟨rfl, hvalue⟩
      · rintro ⟨rfl, -⟩
        rfl
  · next hvalue =>
      constructor
      · intro h
        cases h
      · rintro ⟨rfl, hn⟩
        exact absurd hn hvalue

/-- A number is what the parts that are read make of it. -/
theorem readNumber?_eq {negative : Bool} {u whole places rest : List Char} {value : Literal}
    (hsign : readSign s = (negative, u)) (hwhole : u.takeWhile Char.isDigit = whole)
    (hfraction : readFraction (u.dropWhile Char.isDigit) = (places, rest)) (hne : whole ≠ [])
    (hvalue : number? negative whole places = some value) :
    ∃ shorter, readNumber? s = some ⟨value, rest, shorter⟩ := by
  have hshorter : rest.length < s.length := by
    have hs := length_readSign_le s
    have hu := Text.length_dropWhile_lt (hwhole ▸ hne)
    have hr := length_readFraction_le (u.dropWhile Char.isDigit)
    rw [hsign] at hs
    rw [hfraction] at hr
    dsimp only at hs hr
    omega
  refine ⟨hshorter, ?_⟩
  unfold readNumber?
  simp only [hsign, hwhole, hfraction, hne, dite_false]
  split
  · next hnone =>
      rw [hvalue] at hnone
      cases hnone
  · next own hown =>
      obtain rfl := Option.some.inj (hvalue.symm.trans hown)
      rfl

/-- What is read as a number is one. -/
theorem isNumber_of_readNumber? {r : Reading Literal s} (h : readNumber? s = some r) :
    ∃ w, s = w ++ r.rest ∧ IsNumber w r.value := by
  obtain ⟨sign, hs, hsign⟩ := exists_sign s
  unfold readNumber? at h
  dsimp only at h
  split at h
  · cases h
  · next hne =>
      have hwhole := digits_takeWhile hne
      have hu : (readSign s).2.takeWhile Char.isDigit ++ (readSign s).2.dropWhile Char.isDigit =
          (readSign s).2 := List.takeWhile_append_dropWhile
      split at h
      · cases h
      · next value hvalue =>
          cases h
          show ∃ w, s = w ++ (readFraction ((readSign s).2.dropWhile Char.isDigit)).2 ∧
            IsNumber w value
          rcases readFraction_cases ((readSign s).2.dropWhile Char.isDigit) with
            hnone | ⟨places, rest, hplaces, hpoint, hfraction⟩
          · rw [hnone] at hvalue ⊢
            obtain ⟨n, hn, rfl⟩ := Option.map_eq_some_iff.mp hvalue
            obtain ⟨hn, hlower, hupper⟩ := integer?_eq_some_iff.mp hn
            refine ⟨_, ?_, .integer hsign hwhole hn hlower hupper⟩
            rw [List.append_assoc, hu, ← hs]
          · rw [hfraction] at hvalue ⊢
            rw [number?, if_neg hplaces.1] at hvalue
            obtain rfl := Option.some.inj hvalue
            refine ⟨_, ?_, .float hsign hwhole hplaces⟩
            rw [List.append_assoc, List.append_assoc, List.cons_append, ← hpoint, hu, ← hs]

theorem head?_of_digits (hd : Digits w) (ht : c.isDigit = false) : (w ++ t).head? ≠ some c := by
  obtain ⟨d, rest, rfl⟩ := List.exists_cons_of_ne_nil hd.1
  intro h
  obtain rfl := Option.some.inj h
  rw [hd.2 d List.mem_cons_self] at ht
  cases ht

/-- A number is read to its end if neither digits nor a point follow. -/
theorem readNumber?_append {value : Literal} (h : IsNumber w value)
    (ht : t.takeWhile Char.isDigit = []) (hpoint : t.head? ≠ some '.') :
    ∃ shorter, readNumber? (w ++ t) = some ⟨value, t, shorter⟩ := by
  cases h with
  | @integer sign digits negative n signed hdigits hn lower upper =>
      obtain ⟨htake, hdrop⟩ := takeWhile_digits hdigits ht
      have hsign : readSign (sign ++ (digits ++ t)) = (negative, digits ++ t) :=
        readSign_append signed (head?_of_digits hdigits (by decide))
          (head?_of_digits hdigits (by decide))
      have hfraction : readFraction ((digits ++ t).dropWhile Char.isDigit) = ([], t) := by
        rw [hdrop]
        exact readFraction_of_head hpoint
      rw [List.append_assoc]
      apply readNumber?_eq hsign htake hfraction hdigits.1
      rw [number?, if_pos rfl, integer?_eq_some_iff.mpr ⟨hn, lower, upper⟩]
      rfl
  | @float sign whole places negative signed hwhole hplaces =>
      obtain ⟨htake, hdrop⟩ := takeWhile_digits (t := '.' :: (places ++ t)) hwhole rfl
      have hsign : readSign (sign ++ (whole ++ '.' :: (places ++ t))) =
          (negative, whole ++ '.' :: (places ++ t)) :=
        readSign_append signed (head?_of_digits hwhole (by decide))
          (head?_of_digits hwhole (by decide))
      have hfraction : readFraction ((whole ++ '.' :: (places ++ t)).dropWhile Char.isDigit) =
          (places, t) := by
        rw [hdrop]
        exact readFraction_point hplaces ht
      rw [List.append_assoc, List.append_assoc, List.cons_append]
      apply readNumber?_eq hsign htake hfraction hwhole.1
      rw [number?, if_neg hplaces.1]
      rfl

/-! ### Columns and numbers -/

theorem isNameChar_of_isDigit (h : c.isDigit = true) : isNameChar c = true := by
  simp [isNameChar, Char.isAlphanum, h]

/-- The first digits of a text are those of the name at its front. -/
theorem takeWhile_digits_name (s : List Char) :
    (s.takeWhile isNameChar).takeWhile Char.isDigit = s.takeWhile Char.isDigit := by
  rw [List.takeWhile_takeWhile]
  congr 1
  funext c
  by_cases h : c.isDigit = true
  · simp [h, isNameChar_of_isDigit h]
  · simp [h]

theorem readSign_of_isNameChar (h : isNameChar c = true) :
    readSign (c :: s) = (false, c :: s) := by
  apply readSign_append .none
  · intro heq
    obtain rfl := Option.some.inj heq
    cases h
  · intro heq
    obtain rfl := Option.some.inj heq
    cases h

/-- A number that fits is made of digits, whatever stands after the point. -/
theorem exists_number? {whole : List Char} (places : List Char) (h : numeral whole < 2 ^ 63) :
    ∃ value, number? false whole places = some value := by
  by_cases hplaces : places = []
  · have hinteger : integer? false whole = some (numeral whole : Int) := by
      rw [integer?_eq_some_iff]
      exact ⟨rfl, by omega, by omega⟩
    exact ⟨.integer (numeral whole), by rw [number?, if_pos hplaces, hinteger]; rfl⟩
  · exact ⟨_, by rw [number?, if_neg hplaces]⟩

/-- Where no number is read, the name at the front is a column. -/
theorem isColumnName_of_readNumber? {name : List Char} (hname : IsName name)
    (hlongest : name = s.takeWhile isNameChar) (hnone : readNumber? s = none) :
    IsColumnName name := by
  have hdigits := takeWhile_digits_name s
  rw [← hlongest] at hdigits
  refine ⟨hname, ?_⟩
  -- Digits that fit would have been read as a number.
  by_contra hsmall
  obtain ⟨hne, hfits⟩ := not_or.mp hsmall
  obtain ⟨c, rest, rfl⟩ : ∃ c rest, s = c :: rest := by
    cases s with
    | nil => exact absurd hlongest hname.1
    | cons c rest => exact ⟨c, rest, rfl⟩
  have hc : isNameChar c = true := by
    by_contra hnot
    rw [List.takeWhile_cons_of_neg hnot] at hlongest
    exact hname.1 hlongest
  obtain ⟨value, hvalue⟩ := exists_number?
    (readFraction ((c :: rest).dropWhile Char.isDigit)).1 (not_le.mp hfits)
  obtain ⟨_, hsome⟩ := readNumber?_eq (readSign_of_isNameChar hc) hdigits.symm rfl hne hvalue
  rw [hnone] at hsome
  cases hsome

/-- Behind the first digits of a name there is no point, if none follows the name. -/
theorem head?_dropWhile_digits (hw : ∀ a ∈ w, isNameChar a = true)
    (ht : t.takeWhile isNameChar = []) (hpoint : t.head? ≠ some '.') :
    ((w ++ t).dropWhile Char.isDigit).head? ≠ some '.' := by
  intro heq
  obtain ⟨later, hlater⟩ := List.head?_eq_some_iff.mp heq
  have hsplit : (w ++ t).takeWhile Char.isDigit ++ '.' :: later = w ++ t := by
    rw [← hlater]
    exact List.takeWhile_append_dropWhile
  -- The name would end at the point, since there are but digits before it.
  have hend : t = '.' :: later := by
    calc t = (w ++ t).dropWhile isNameChar := (dropWhile_name hw ht).symm
      _ = ((w ++ t).takeWhile Char.isDigit ++ '.' :: later).dropWhile isNameChar := by rw [hsplit]
      _ = '.' :: later :=
        dropWhile_name (fun a ha => isNameChar_of_isDigit (List.mem_takeWhile_imp ha)) rfl
  apply hpoint
  rw [hend]
  rfl

theorem integer?_eq_none {digits : List Char} (h : 2 ^ 63 ≤ numeral digits) :
    integer? false digits = none := by
  cases hinteger : integer? false digits with
  | none => rfl
  | some n =>
      obtain ⟨hn, -, hupper⟩ := integer?_eq_some_iff.mp hinteger
      simp only [Bool.false_eq_true, if_false] at hn
      omega

/-- In place of a column no number is read. -/
theorem readNumber?_column (h : IsColumnName w) (ht : t.takeWhile isNameChar = [])
    (hpoint : t.head? ≠ some '.') : readNumber? (w ++ t) = none := by
  obtain ⟨hname, hdigits⟩ := h
  have hsign : readSign (w ++ t) = (false, w ++ t) := by
    obtain ⟨c, rest, rfl⟩ := List.exists_cons_of_ne_nil hname.1
    exact readSign_of_isNameChar (hname.all c List.mem_cons_self)
  have htake : (w ++ t).takeWhile Char.isDigit = w.takeWhile Char.isDigit := by
    rw [← takeWhile_digits_name, takeWhile_name hname.all ht]
  have hfraction : readFraction ((w ++ t).dropWhile Char.isDigit) =
      ([], (w ++ t).dropWhile Char.isDigit) :=
    readFraction_of_head (head?_dropWhile_digits hname.all ht hpoint)
  unfold readNumber?
  simp only [hsign, htake, hfraction]
  split
  · rfl
  · next hne =>
      have hvalue : number? false (w.takeWhile Char.isDigit) [] = none := by
        rw [number?, if_pos rfl, integer?_eq_none (hdigits.resolve_left hne)]
        rfl
      split
      · rfl
      · next value hsome =>
          rw [hvalue] at hsome
          cases hsome

end Expr
end CostView
