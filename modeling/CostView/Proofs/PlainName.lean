import CostView.Column
import CostView.Expression.Printer
import CostView.Settings.Basic
import CostView.View.MapKeys
import Mathlib.Tactic

/-!
# Plain names

A name that needs no quotes is made of characters that no case changes and no syntax uses.  So it is
written as it stands, it is its own lower-case form, and the search for an alias finds it just where
that very name stands.
-/

namespace CostView

/-! ### Lower case -/

theorem toLower_of_le {c : Char} (h : 128 ≤ c.toNat) : c.toLower = c := by
  have hval : c.toNat = c.val.toNat := rfl
  have hupper : ¬ (c.val ≥ 'A'.val ∧ c.val ≤ 'Z'.val) := by
    rintro ⟨-, hle⟩
    have hnat : c.val.toNat ≤ 'Z'.val.toNat := UInt32.le_iff_toNat_le.mp hle
    have hz : 'Z'.val.toNat = 90 := rfl
    omega
  exact dif_neg hupper

/-- What holds of the ASCII characters one by one holds of each of them. -/
theorem of_ascii {p : Char → Prop} (h : ∀ n : Fin 128, p (Char.ofNat n)) {c : Char}
    (hc : c.toNat < 128) : p c := by
  have hofNat := h ⟨c.toNat, hc⟩
  rwa [Char.ofNat_toNat] at hofNat

/-- Lowering twice is lowering once, and only a closing bracket becomes one. -/
theorem toLower_spec (c : Char) : c.toLower.toLower = c.toLower ∧ (c.toLower = ']' → c = ']') := by
  by_cases hc : c.toNat < 128
  · exact of_ascii (p := fun c => c.toLower.toLower = c.toLower ∧ (c.toLower = ']' → c = ']'))
      (by decide +kernel) hc
  · have hsame : c.toLower = c := toLower_of_le (by omega)
    rw [hsame]
    exact ⟨hsame, id⟩

theorem lowered_lowered (s : String) : Text.lowered (Text.lowered s) = Text.lowered s := by
  rw [← String.toList_inj, Text.toList_lowered, Text.toList_lowered, Text.lower, Text.lower,
    List.map_map]
  exact List.map_congr_left fun c _ => (toLower_spec c).1

theorem notMem_lowered {s : String} (h : ']' ∉ s.toList) : ']' ∉ (Text.lowered s).toList := by
  rw [Text.toList_lowered, Text.lower, List.mem_map]
  rintro ⟨c, hmem, hc⟩
  exact h ((toLower_spec c).2 hc ▸ hmem)

/-! ### Names of tables and columns -/

namespace Settings

/-- The characters of table names are ASCII. -/
theorem isNameChar_lt {c : Char} (h : isNameChar c = true) : c.toNat < 128 := by
  have hval : c.toNat = c.val.toNat := rfl
  have hupper : c.isUpper = decide (c.val ≥ 'A'.val ∧ c.val ≤ 'Z'.val) := rfl
  have hlower : c.isLower = (decide (c.val ≥ 'a'.val) && decide (c.val ≤ 'z'.val)) := rfl
  have halpha : c.isAlpha = (c.isUpper || c.isLower) := rfl
  simp only [isNameChar, Char.isAlphanum, halpha, hupper, hlower, Char.isDigit,
    Bool.or_eq_true, Bool.and_eq_true, decide_eq_true_eq, UInt32.le_iff_toNat_le, ge_iff_le] at h
  rcases h with ((⟨-, hle⟩ | ⟨-, hle⟩) | ⟨-, hle⟩) | rfl
  · exact lt_of_le_of_lt (hval ▸ hle) (by decide)
  · exact lt_of_le_of_lt (hval ▸ hle) (by decide)
  · exact lt_of_le_of_lt (hval ▸ hle) (by decide)
  · decide

/-- None of them is blank. -/
theorem isBlank_of_isNameChar {c : Char} (h : isNameChar c = true) :
    Text.isBlank c = false :=
  of_ascii (p := fun c => isNameChar c = true → Text.isBlank c = false) (by decide +kernel)
    (isNameChar_lt h) h

end Settings

namespace Column

variable {c : Char} {name column : String}

/-! ### Plain characters -/

theorem isPlainChar_lt (h : isPlainChar c = true) : c.toNat < 128 := by
  refine Settings.isNameChar_lt ?_
  have halpha : c.isAlpha = (c.isUpper || c.isLower) := rfl
  simp only [isPlainChar, Settings.isNameChar, Char.isAlphanum, halpha, Bool.or_eq_true] at h ⊢
  tauto

/-- What plain characters are not: they are no letters in upper case, no blanks and no syntax. -/
theorem isPlainChar_spec (h : isPlainChar c = true) :
    c.toLower = c ∧ Text.isBlank c = false ∧ Expr.isNameChar c = true ∧
      c ∉ [' ', ',', '"', '(', ')', ']', '[', '\''] :=
  -- Plain characters are ASCII, and those are checked one by one.
  of_ascii (p := fun c => isPlainChar c = true → c.toLower = c ∧ Text.isBlank c = false ∧
      Expr.isNameChar c = true ∧ c ∉ [' ', ',', '"', '(', ')', ']', '[', '\''])
    (by decide +kernel) (isPlainChar_lt h) h

theorem fold_of_isPlainChar (h : isPlainChar c = true) : Text.fold c = c := by
  rw [Text.fold, if_pos (isPlainChar_lt h), (isPlainChar_spec h).1]

/-! ### Plain names -/

theorem toList_ne_nil (h : needsQuoting name = false) : name.toList ≠ [] := by
  intro hnil
  rw [needsQuoting, hnil] at h
  cases h

/-- The characters of a name that needs no quotes are plain. -/
theorem isPlainChar_of_mem (h : needsQuoting name = false) (hc : c ∈ name.toList) :
    isPlainChar c = true := by
  rw [needsQuoting] at h
  cases hname : name.toList with
  | nil =>
      rw [hname] at hc
      cases hc
  | cons first rest =>
      rw [hname] at h hc
      rw [Bool.or_eq_false_iff, Bool.not_eq_false', List.all_eq_true] at h
      exact h.2 c hc

/-- A plain name starts with a plain character that is no digit. -/
theorem exists_of_plain {name : String} (h : needsQuoting name = false) :
    ∃ c s, name.toList = c :: s ∧ isPlainChar c = true ∧ c.isDigit = false := by
  cases hname : name.toList with
  | nil => exact absurd hname (toList_ne_nil h)
  | cons c s =>
      have hc : isPlainChar c = true := isPlainChar_of_mem h (hname ▸ List.mem_cons_self)
      rw [needsQuoting, hname, Bool.or_eq_false_iff] at h
      exact ⟨c, s, rfl, hc, h.1⟩

theorem notMem_of_not_needsQuoting (h : needsQuoting name = false) :
    ']' ∉ name.toList ∧ '(' ∉ name.toList := by
  constructor
  · intro hmem
    have hspec := (isPlainChar_spec (isPlainChar_of_mem h hmem)).2.2.2
    simp at hspec
  · intro hmem
    have hspec := (isPlainChar_spec (isPlainChar_of_mem h hmem)).2.2.2
    simp at hspec

theorem lowered_eq_self (h : needsQuoting name = false) : Text.lowered name = name := by
  have hlower : Text.lower name.toList = name.toList := by
    rw [Text.lower, List.map_congr_left fun c hc => (isPlainChar_spec (isPlainChar_of_mem h hc)).1,
      List.map_id']
  rw [Text.lowered, hlower, String.ofList_toList]

theorem aliasText_of_plain (h : needsQuoting name = false) (hsensitive : isSensitive name = false) :
    aliasText name = name := by
  rw [aliasText, hsensitive, reference, h]
  rfl

end Column

/-! ### What quoting adds -/

/-- Quoting adds no character but quotes. -/
theorem notMem_enclose {a q : Char} {s : List Char} (hq : a ≠ q) (h : a ∉ s) :
    a ∉ Text.Quoted.enclose q s := by
  have hencode : a ∉ Text.Quoted.encode q s := by
    induction s with
    | nil => simp [Text.Quoted.encode]
    | cons c s ih =>
        obtain ⟨hc, hrest⟩ := not_or.mp (mt List.mem_cons.mpr h)
        rw [Text.Quoted.encode]
        split
        · simp [hq, ih hrest]
        · simp [hc, ih hrest]
  simp [Text.Quoted.enclose, hq, hencode]

theorem notMem_quoteText {a : Char} {key : String} (ha : a ≠ '\'') (h : a ∉ key.toList) :
    a ∉ (quoteText key).toList := by
  rw [quoteText, String.toList_ofList]
  exact notMem_enclose ha h

namespace Column

variable {a : Char} {name : String}

theorem notMem_reference (ha : a ≠ '"') (h : a ∉ name.toList) : a ∉ (reference name).toList := by
  rw [reference]
  split
  · rw [quoted, String.toList_ofList]
    exact notMem_enclose ha h
  · exact h

theorem notMem_aliasText (ha : a ≠ '"') (h : a ∉ name.toList) : a ∉ (aliasText name).toList := by
  rw [aliasText]
  split
  · simp [ha, h]
  · exact notMem_reference ha h

theorem notMem_print_expr (ha : a ≠ '"') (h : a ∉ name.toList) : a ∉ (expr name).print := by
  rw [expr]
  split
  · rw [Expr.print]
    exact notMem_enclose ha h
  · rwa [Expr.print]

end Column

/-! ### Aliases -/

namespace MapKeys

open Column (isPlainChar isPlainChar_spec fold_of_isPlainChar)

variable {column name stop : List Char}

theorem sameFolded_of_plain {a b : Char} (ha : isPlainChar a = true) (hb : Text.fold b = b) :
    Text.sameFolded a b = true ↔ a = b := by
  rw [Text.sameFolded, fold_of_isPlainChar ha, hb, beq_iff_eq]

/-- A plain column is named where just its name stands and ends. -/
theorem isNamed_plain (stop : List Char) (hcolumn : ∀ c ∈ column, isPlainChar c = true)
    (hname : ∀ c ∈ name, isPlainChar c = true) {d : Char} (hd : d = ' ' ∨ d = ',') :
    isNamed column (name ++ d :: stop) = true ↔ column = name := by
  -- Column and name are compared side by side; whichever ends first meets a character of the other
  -- or the stop.
  induction column generalizing name with
  | nil =>
      cases name with
      | nil =>
          rcases hd with rfl | rfl <;> simp [isNamed, Text.dropFolded?, isNameEnd, Text.isBlank]
      | cons c name =>
          obtain ⟨-, hblank, -, hsyntax⟩ := isPlainChar_spec (hname c List.mem_cons_self)
          simp only [List.mem_cons, not_or] at hsyntax
          simp only [isNamed, Text.dropFolded?, List.cons_append, isNameEnd, hblank, hsyntax.2.1,
            decide_false, Bool.or_self, Bool.false_or, List.nil_eq, reduceCtorEq, iff_false]
          split
          · next heq =>
              rw [List.cons.injEq] at heq
              exact absurd heq.1 hsyntax.2.2.1
          · simp
  | cons a column ih =>
      have ha := hcolumn a List.mem_cons_self
      have hrest : ∀ c ∈ column, isPlainChar c = true :=
        fun c hc => hcolumn c (List.mem_cons_of_mem a hc)
      cases name with
      | nil =>
          have hdiffer : Text.sameFolded a d = false := by
            obtain ⟨-, -, -, hsyntax⟩ := isPlainChar_spec ha
            simp only [List.mem_cons, not_or] at hsyntax
            rw [← Bool.not_eq_true, sameFolded_of_plain ha (by rcases hd with rfl | rfl <;> rfl)]
            rcases hd with rfl | rfl
            · exact hsyntax.1
            · exact hsyntax.2.1
          simp [isNamed, Text.dropFolded?, hdiffer]
      | cons b name =>
          have hb := hname b List.mem_cons_self
          have htail := ih hrest fun c hc => hname c (List.mem_cons_of_mem b hc)
          rw [List.cons_append, isNamed, Text.dropFolded?, List.cons.injEq]
          by_cases hab : a = b
          · rw [if_pos ((sameFolded_of_plain ha (fold_of_isPlainChar hb)).mpr hab), ← htail,
              isNamed]
            simp [hab]
          · rw [if_neg fun h => hab ((sameFolded_of_plain ha (fold_of_isPlainChar hb)).mp h)]
            simp [hab]

/-- So does the alias of a plain column. -/
theorem isAlias_plain (hcolumn : ∀ c ∈ column, isPlainChar c = true)
    (hname : ∀ c ∈ name, isPlainChar c = true) (hnil : name ≠ []) {d : Char}
    (hd : d = ' ' ∨ d = ',') :
    isAlias column (' ' :: (name ++ d :: stop)) = true ↔ column = name := by
  rw [← isNamed_plain stop hcolumn hname hd]
  cases name with
  | nil => exact absurd rfl hnil
  | cons b name =>
      obtain ⟨-, hblank, -, hsyntax⟩ := isPlainChar_spec (hname b List.mem_cons_self)
      simp only [List.mem_cons, not_or] at hsyntax
      have hspace : Text.isBlank ' ' = true := rfl
      simp [isAlias, isAliasAfterBlanks, hblank, hsyntax.2.2.1, hspace]

end MapKeys

/-! ### Table names -/

namespace Settings

theorem mem_part_or_eq (separator : Char) {s : List Char} {c : Char} (hc : c ∈ s) :
    c = separator ∨ ∃ part ∈ Text.splitAt separator s, c ∈ part := by
  induction s with
  | nil => cases hc
  | cons d rest ih =>
      rw [Text.splitAt]
      by_cases hd : d = separator
      · rw [if_pos hd]
        rcases List.mem_cons.mp hc with rfl | hrest
        · exact Or.inl hd
        · rcases ih hrest with heq | ⟨part, hpart, hmem⟩
          · exact Or.inl heq
          · exact Or.inr ⟨part, List.mem_cons_of_mem _ hpart, hmem⟩
      · rw [if_neg hd]
        cases hsplit : Text.splitAt separator rest with
        | nil => exact absurd hsplit (Text.splitAt_ne_nil separator rest)
        | cons first parts =>
            rw [hsplit] at ih
            rcases List.mem_cons.mp hc with rfl | hrest
            · exact Or.inr ⟨_, List.mem_cons_self, List.mem_cons_self⟩
            · rcases ih hrest with heq | ⟨part, hpart, hmem⟩
              · exact Or.inl heq
              · refine Or.inr ?_
                rcases List.mem_cons.mp hpart with rfl | hlater
                · exact ⟨_, List.mem_cons_self, List.mem_cons_of_mem d hmem⟩
                · exact ⟨part, List.mem_cons_of_mem _ hlater, hmem⟩

/-- The characters of a table name. -/
theorem of_mem_tableName {text : String} (h : isTableName text = true) {c : Char}
    (hc : c ∈ text.toList) : c = '.' ∨ isNameChar c = true := by
  rcases mem_part_or_eq '.' hc with heq | ⟨part, hpart, hmem⟩
  · exact Or.inl heq
  · have hall := List.all_eq_true.mp h part hpart
    rw [Bool.and_eq_true, List.all_eq_true] at hall
    exact Or.inr (hall.2 c hmem)

theorem notMem_of_isTableName {text : String} (h : isTableName text = true) :
    ']' ∉ text.toList ∧ '(' ∉ text.toList := by
  constructor
  · intro hmem
    have hchar := of_mem_tableName h hmem
    revert hchar
    decide
  · intro hmem
    have hchar := of_mem_tableName h hmem
    revert hchar
    decide

end Settings
end CostView
