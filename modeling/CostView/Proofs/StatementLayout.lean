import CostView.Proofs.Grammar
import CostView.Proofs.MapText
import CostView.Proofs.PlainName

/-!
# The text of a statement, laid out anew

Engines keep the text of a view as it was given or print it in their own way.  What they do not
change are the tokens: there may be white space before and after each of them, some words may stand
in another case, and an alias may stand between quotes.

A text is described by its tokens and what follows them (`Layout`), so that a reader can take tokens
off the front and leave a layout of those that remain.  Here are the tokens of a statement that
selects a map, and the proof that by default they make the text that is rendered.
-/

namespace CostView

/-! ### Letters in either case -/

namespace Text

variable {a b : Char} {w m : List Char}

/-- Lowering keeps ASCII letters and other characters apart, and blanks as they are. -/
theorem toLower_ascii (c : Char) :
    (c.toLower.toNat < 128 ↔ c.toNat < 128) ∧ isBlank c.toLower = isBlank c := by
  by_cases hc : c.toNat < 128
  · exact of_ascii
      (p := fun c => (c.toLower.toNat < 128 ↔ c.toNat < 128) ∧ isBlank c.toLower = isBlank c)
      (by decide +kernel) hc
  · rw [toLower_of_le (by omega)]
    exact ⟨Iff.rfl, rfl⟩

/-- Letters that are equal up to ASCII case are equal up to case. -/
theorem sameFolded_of_toLower_eq (h : b.toLower = a.toLower) : sameFolded a b = true := by
  have hascii : a.toNat < 128 ↔ b.toNat < 128 := by
    rw [← (toLower_ascii a).1, ← (toLower_ascii b).1, h]
  rw [sameFolded, beq_iff_eq, fold, fold]
  by_cases ha : a.toNat < 128
  · rw [if_pos ha, if_pos (hascii.mp ha), h]
  · have hb : ¬ b.toNat < 128 := fun hb => ha (hascii.mpr hb)
    rw [toLower_of_le (by omega), toLower_of_le (by omega)] at h
    rw [h]

/-- A word is found in whatever case it stands. -/
theorem dropFolded?_of_lower_eq (h : lower m = lower w) (s : List Char) :
    dropFolded? w (m ++ s) = some s := by
  induction w generalizing m with
  | nil =>
      obtain rfl : m = [] := by simpa [lower] using h
      rfl
  | cons a w ih =>
      cases m with
      | nil => simp [lower] at h
      | cons b m =>
          have hletters : b.toLower = a.toLower ∧ lower m = lower w := by simpa [lower] using h
          rw [List.cons_append, dropFolded?, if_pos (sameFolded_of_toLower_eq hletters.1)]
          exact ih hletters.2

end Text

namespace MapKeys

open CostView.Expr (Spaces)
open CostView.Text (isBlank dropFolded? sameFolded)

/-! ### Tokens -/

/-- A part of a statement: a word that may stand in any case, a text that stands as it is, or an
alias. -/
inductive Token where
  | word (letters : List Char)
  | fixed (text : List Char)
  | named (column : List Char)
deriving DecidableEq, Repr

namespace Token

/-- A token as it is written by default. -/
def text : Token → List Char
  | .word letters => letters
  | .fixed text => text
  | .named column => column

/-- A token as it may be written: a word in any ASCII case, an alias perhaps between quotes. -/
def Form : Token → List Char → Prop
  | .word letters, form => Text.lower form = Text.lower letters
  | .fixed text, form => form = text
  | .named column, form => form = column ∨ form = '"' :: (column ++ ['"'])

instance : (token : Token) → (form : List Char) → Decidable (token.Form form)
  | .word letters, form => inferInstanceAs (Decidable (Text.lower form = Text.lower letters))
  | .fixed text, form => inferInstanceAs (Decidable (form = text))
  | .named column, form =>
    inferInstanceAs (Decidable (form = column ∨ form = '"' :: (column ++ ['"'])))

theorem form_text (token : Token) : token.Form token.text := by
  cases token with
  | word letters => exact rfl
  | fixed text => exact rfl
  | named column => exact Or.inl rfl

/-- However it is written, a token has no bracket that it does not have by default. -/
theorem Form.notMem {token : Token} {form : List Char} (h : token.Form form)
    (htext : ']' ∉ token.text) : ']' ∉ form := by
  cases token with
  | word letters =>
      intro hmem
      have hlower : ']' ∈ Text.lower letters := h ▸ List.mem_map_of_mem (f := Char.toLower) hmem
      obtain ⟨c, hc, hlowered⟩ := List.mem_map.mp hlower
      exact htext ((toLower_spec c).2 hlowered ▸ hc)
  | fixed text =>
      obtain rfl : form = text := h
      exact htext
  | named column =>
      rcases h with rfl | rfl
      · exact htext
      · have hcolumn : ']' ∉ column := htext
        simp [hcolumn]

/-- A blank that separates two tokens. -/
def blank : Token := .fixed [' ']

/-- A comma. -/
def comma : Token := .fixed [',']

/-- The word that opens an array, and the bracket after it. -/
def opening : List Token := [.word ['A', 'R', 'R', 'A', 'Y'], .fixed ['[']]

/-- What stands between two chunks of an array. -/
def joint : List Token := .fixed [']'] :: blank :: .fixed ['|', '|'] :: blank :: opening

/-- A quoted key. -/
def key (key : String) : Token := .fixed (quoteText key).toList

/-- Elements with a separator between them. -/
def chunk (separator : List Token) (elements : List String) : List Token :=
  separator.intercalate (elements.map fun e => [.fixed e.toList])

/-- The inside of an array, with the given tokens between its chunks. -/
def elements (joint separator : List Token) (elements : List String) : List Token :=
  joint.intercalate ((chunks chunkSize elements).map (chunk separator))

/-- What stands between the keys and the values of a map. -/
def middle : List Token := .fixed [']'] :: comma :: blank :: opening

/-- What follows the values of a map that is given to a column of a view over `t`. -/
def ending (column : String) : List Token :=
  [.fixed [']'], .fixed [')'], blank, .word ['A', 'S'], blank, .named column.toList, blank,
    .fixed ['F', 'R', 'O', 'M'], blank, .fixed ['t']]

/-- A statement that selects a map as a column, with the given tokens between the chunks of its
arrays. -/
def statement (joint : List Token) (keys values : List String) (column : String) : List Token :=
  .fixed ['S', 'E', 'L', 'E', 'C', 'T'] :: blank :: .word ['M', 'A', 'P'] :: .fixed ['('] ::
    (opening ++ (elements joint [comma] (keys.map quoteText) ++
      (middle ++ (elements joint [comma, blank] values ++ ending column))))

end Token

/-! ### Layouts -/

/-- Tokens in order with white space around them, and then the rest of a text. -/
inductive Layout (rest : List Char) : List Token → List Char → Prop
  | nil {gap : List Char} (hgap : Spaces gap) : Layout rest [] (gap ++ rest)
  | cons {token : Token} {tokens : List Token} {gap form text : List Char} (hgap : Spaces gap)
      (hform : token.Form form) (htext : Layout rest tokens text) :
      Layout rest (token :: tokens) (gap ++ (form ++ text))

section

variable {token : Token} {tokens more : List Token} {gap rest text w : List Char}

theorem spaces_append {v : List Char} (hw : Spaces w) (hv : Spaces v) : Spaces (w ++ v) :=
  fun c hc => (List.mem_append.mp hc).elim (hw c) (hv c)

theorem spaces_nil : Spaces [] := by
  intro c hc
  cases hc

/-- White space is blank, no bracket, and no letter that a map starts with. -/
theorem spec_of_spaces (h : Spaces w) {c : Char} (hc : c ∈ w) :
    isBlank c = true ∧ c ≠ ']' ∧ ¬ sameFolded 'M' c = true := by
  rcases h c hc with rfl | rfl | rfl | rfl <;> decide

theorem notMem_of_spaces (h : Spaces w) : ']' ∉ w :=
  fun hmem => (spec_of_spaces h hmem).2.1 rfl

theorem skipBlanks_append (h : Spaces w) (s : List Char) : skipBlanks (w ++ s) = skipBlanks s :=
  List.dropWhile_append_of_pos fun _ hc => (spec_of_spaces h hc).1

/-- What a list of tokens looks like by default. -/
def plainText (tokens : List Token) : List Char :=
  tokens.flatMap Token.text

theorem layout_plainText (tokens : List Token) : Layout [] tokens (plainText tokens) := by
  induction tokens with
  | nil => exact .nil spaces_nil
  | cons token tokens ih => exact .cons spaces_nil token.form_text ih

theorem Layout.space (hgap : Spaces gap) (h : Layout rest tokens text) :
    Layout rest tokens (gap ++ text) := by
  cases h with
  | nil hown =>
      rw [← List.append_assoc]
      exact .nil (spaces_append hgap hown)
  | cons hown hform htext =>
      rw [← List.append_assoc]
      exact .cons (spaces_append hgap hown) hform htext

/-- Tokens before others. -/
theorem Layout.append (h : Layout w tokens text) (hmore : Layout rest more w) :
    Layout rest (tokens ++ more) text := by
  induction h with
  | nil hgap => exact hmore.space hgap
  | cons hgap hform _ ih => exact .cons hgap hform ih

theorem Layout.split (h : Layout rest (tokens ++ more) text) :
    ∃ between, Layout rest more between ∧ Layout between tokens text := by
  induction tokens generalizing text with
  | nil => exact ⟨text, h, .nil spaces_nil⟩
  | cons token tokens ih =>
      cases h with
      | cons hgap hform htext =>
          obtain ⟨between, hmore, hown⟩ := ih htext
          exact ⟨between, hmore, .cons hgap hform hown⟩

/-- A blank is white space like any other. -/
theorem Layout.of_blank (h : Layout rest (.blank :: tokens) text) : Layout rest tokens text := by
  cases h with
  | cons hgap hform htext =>
      obtain rfl := hform
      refine (htext.space ?_).space hgap
      intro c hc
      exact Or.inl (List.mem_singleton.mp hc)

/-- The part of a text that the tokens take up, and it does not matter what follows them. -/
theorem Layout.exists_append (h : Layout rest tokens text) :
    ∃ part, text = part ++ rest ∧ ∀ other, Layout other tokens (part ++ other) := by
  induction h with
  | @nil gap hgap => exact ⟨gap, rfl, fun other => .nil hgap⟩
  | @cons token tokens gap form text hgap hform _ ih =>
      obtain ⟨part, rfl, hpart⟩ := ih
      refine ⟨gap ++ (form ++ part), by simp, fun other => ?_⟩
      rw [List.append_assoc, List.append_assoc]
      exact .cons hgap hform (hpart other)

theorem Layout.notMem (h : Layout rest tokens text) (htokens : ∀ token ∈ tokens, ']' ∉ token.text)
    (hrest : ']' ∉ rest) : ']' ∉ text := by
  induction h with
  | nil hgap =>
      rw [List.mem_append, not_or]
      exact ⟨notMem_of_spaces hgap, hrest⟩
  | @cons token tokens gap form text hgap hform _ ih =>
      have hown := hform.notMem (htokens token List.mem_cons_self)
      have hlater := ih fun other hother => htokens other (List.mem_cons_of_mem token hother)
      rw [List.mem_append, List.mem_append, not_or, not_or]
      exact ⟨notMem_of_spaces hgap, hown, hlater⟩

/-- A layout, given by each token with the white space before it. -/
theorem layout_of_pieces {pieces : List (String × String)}
    (h : List.Forall₂
      (fun token piece => piece.1.toList.all Expr.isSpace = true ∧ token.Form piece.2.toList)
      tokens pieces) :
    Layout [] tokens (pieces.flatMap fun p => p.1.toList ++ p.2.toList) := by
  induction h with
  | nil => exact .nil spaces_nil
  | @cons token piece tokens pieces hpiece _ ih =>
      obtain ⟨hgap, hform⟩ := hpiece
      have hspaces : Spaces piece.1.toList :=
        fun c hc => Expr.isSpace_iff.mp (List.all_eq_true.mp hgap c hc)
      rw [List.flatMap_cons, List.append_assoc]
      exact .cons hspaces hform ih

end

/-! ### The statement as it is rendered -/

variable {separator : List Token} {elements keys values : List String} {column : String}

theorem plainText_append (tokens more : List Token) :
    plainText (tokens ++ more) = plainText tokens ++ plainText more :=
  List.flatMap_append

theorem plainText_intercalate (separator : List Token) (parts : List (List Token)) :
    plainText (separator.intercalate parts) =
      (plainText separator).intercalate (parts.map plainText) := by
  cases parts with
  | nil => rfl
  | cons part parts =>
      rw [intercalate_cons_eq_flatMap, plainText_append, List.map_cons,
        intercalate_cons_eq_flatMap, List.flatMap_map, plainText, plainText, List.flatMap_assoc]
      simp only [plainText, List.flatMap_append]

/-- The elements of an array as tokens, and as they are written. -/
theorem plainText_elements {s : String} (hseparator : plainText separator = s.toList)
    (helements : elements ≠ []) :
    plainText Token.opening ++
        (plainText (Token.elements Token.joint separator elements) ++ [']']) =
      (arrayText s elements).toList := by
  have hchunk (chunk : List String) :
      plainText (Token.chunk separator chunk) = (joined s chunk).toList := by
    rw [Token.chunk, plainText_intercalate, hseparator, toList_joined, List.map_map]
    refine congrArg _ (List.map_congr_left fun e _ => ?_)
    exact List.append_nil e.toList
  rw [toList_arrayText helements, Token.elements, plainText_intercalate, List.map_map]
  simp only [Function.comp_def, hchunk]
  rfl

/-- By default the tokens of a statement are written as the map is rendered. -/
theorem plainText_statement (hkeys : keys ≠ []) (hvalues : values ≠ []) :
    plainText (Token.statement Token.joint keys values column) =
      ("SELECT " ++ mapText (keys.map quoteText) values ++ " AS " ++ column ++
        " FROM t").toList := by
  have hcomma : plainText [.comma] = ("," : String).toList := by
    simp [plainText, Token.comma, Token.text]
  have hcommaBlank : plainText [.comma, .blank] = (", " : String).toList := by
    simp [plainText, Token.comma, Token.blank, Token.text]
  have hkeysText : _ = (arrayText "," (keys.map quoteText)).toList :=
    plainText_elements hcomma (by simpa using hkeys)
  have hvaluesText : _ = (arrayText ", " values).toList := plainText_elements hcommaBlank hvalues
  have htokens : plainText (Token.statement Token.joint keys values column) =
      ['S', 'E', 'L', 'E', 'C', 'T', ' ', 'M', 'A', 'P', '('] ++
        ((plainText Token.opening ++
            (plainText (Token.elements Token.joint [.comma] (keys.map quoteText)) ++ [']'])) ++
          ([',', ' '] ++ ((plainText Token.opening ++
            (plainText (Token.elements Token.joint [.comma, .blank] values) ++ [']'])) ++
              ([')', ' ', 'A', 'S', ' '] ++
                (column.toList ++ [' ', 'F', 'R', 'O', 'M', ' ', 't']))))) := by
    rw [Token.statement]
    simp [plainText, Token.middle, Token.ending, Token.comma, Token.blank, Token.text]
  rw [htokens, hkeysText, hvaluesText, mapText]
  simp

end MapKeys
end CostView
