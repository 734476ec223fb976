import CostView.Proofs.StatementLayout

/-!
# Reading keys back from a text that was laid out anew

The keys of a map are read back from every text that has the tokens of its statement.  Both merging
and the search pass from one layout to another: merging writes tokens in the place of others, and
each step of the search takes tokens off the front.  What stands inside keys and values plays no
part in this, since they hold no closing bracket and the search never looks into them.
-/

namespace CostView
namespace MapKeys

open CostView.Expr (Spaces)
open CostView.Text (isBlank dropFolded? sameFolded)

section

variable {tokens more merged moreMerged : List Token} {w : List Char}

/-! ### Merging a layout -/

/-- Merging writes tokens in the place of others. -/
def Merges (tokens merged : List Token) : Prop :=
  ∀ rest text, Layout rest tokens text → Layout (merge rest) merged (merge text)

theorem Merges.append (h : Merges tokens merged) (hmore : Merges more moreMerged) :
    Merges (tokens ++ more) (merged ++ moreMerged) := by
  intro rest text hlayout
  obtain ⟨between, hrest, hown⟩ := hlayout.split
  exact (h between text hown).append (hmore rest between hrest)

/-- Tokens without a closing bracket are left as they are. -/
theorem merges_of_notMem (htokens : ∀ token ∈ tokens, ']' ∉ token.text) : Merges tokens tokens := by
  intro rest text hlayout
  obtain ⟨part, rfl, hpart⟩ := hlayout.exists_append
  have hbracket : ']' ∉ part ++ [] := (hpart []).notMem htokens (by simp)
  rw [List.append_nil] at hbracket
  rw [merge_append hbracket]
  exact hpart (merge rest)

/-- So is a bracket that is followed by something other than a bar. -/
theorem merges_bracket {d : Char} (hblank : isBlank d = false) (hbar : sameFolded '|' d = false)
    (hmore : Merges (.fixed (d :: w) :: more) merged) :
    Merges (.fixed [']'] :: .fixed (d :: w) :: more) (.fixed [']'] :: merged) := by
  intro rest text hlayout
  cases hlayout with
  | @cons _ _ gap form after hgap hform hafter =>
      obtain rfl := hform
      have hjoint : joint? (']' :: after) = none := by
        cases hafter with
        | @cons _ _ space _ later hspace hnext _ =>
            obtain rfl := hnext
            have hskip : skipBlanks (space ++ (d :: w ++ later)) = d :: (w ++ later) := by
              rw [skipBlanks_append hspace, List.cons_append, skipBlanks,
                List.dropWhile_cons_of_neg (by simp [hblank])]
            have hbracket : dropFolded? [']'] (']' :: (space ++ (d :: w ++ later))) =
                some (space ++ (d :: w ++ later)) := rfl
            rw [joint?, hbracket, Option.bind_some, word?, hskip, dropFolded?, hbar]
            rfl
      have hbracket : (Token.fixed [']']).Form [']'] := rfl
      rw [merge_append (notMem_of_spaces hgap), List.singleton_append, merge_cons hjoint]
      exact .cons hgap hbracket (hmore rest after hafter)

end

/-! ### Words of a layout -/

section

variable {token : Token} {tokens more : List Token} {rest text letters : List Char} {a : Char}

/-- A word that comes next is found in whatever case it stands, behind white space. -/
theorem Layout.exists_word? (h : Layout rest (token :: tokens) text)
    (hletters : ∀ form, token.Form form → Text.lower form = Text.lower (a :: letters))
    (ha : isBlank a = false) :
    ∃ after, word? (a :: letters) text = some after ∧ Layout rest tokens after := by
  cases h with
  | @cons _ _ gap form after hgap hform hafter =>
      refine ⟨after, ?_, hafter⟩
      have hsame := hletters form hform
      have hskip : skipBlanks (gap ++ (form ++ after)) = form ++ after := by
        rw [skipBlanks_append hgap]
        cases form with
        | nil => simp [Text.lower] at hsame
        | cons b form =>
            -- The first letter is no blank, in whatever case it stands.
            have hfirst : b.toLower = a.toLower := by
              rw [Text.lower, Text.lower, List.map_cons, List.map_cons, List.cons.injEq] at hsame
              exact hsame.1
            have hb : isBlank b = false := by
              rw [← (Text.toLower_ascii b).2, hfirst, (Text.toLower_ascii a).2, ha]
            rw [List.cons_append, skipBlanks, List.dropWhile_cons_of_neg (by simp [hb])]
      rw [word?, hskip, Text.dropFolded?_of_lower_eq hsame]

theorem Layout.exists_word?_fixed (h : Layout rest (.fixed (a :: letters) :: tokens) text)
    (ha : isBlank a = false) :
    ∃ after, word? (a :: letters) text = some after ∧ Layout rest tokens after :=
  h.exists_word? (fun _ hform => congrArg Text.lower hform) ha

theorem Layout.exists_word?_word (h : Layout rest (.word (a :: letters) :: tokens) text)
    (ha : isBlank a = false) :
    ∃ after, word? (a :: letters) text = some after ∧ Layout rest tokens after :=
  h.exists_word? (fun _ hform => hform) ha

theorem Layout.exists_openArray? (h : Layout rest (Token.opening ++ tokens) text) :
    ∃ after, openArray? text = some after ∧ Layout rest tokens after := by
  obtain ⟨between, hword, hbetween⟩ := h.exists_word?_word rfl
  obtain ⟨after, hbracket, hafter⟩ := hbetween.exists_word?_fixed rfl
  refine ⟨after, ?_, hafter⟩
  rw [openArray?, hword, Option.bind_some, hbracket]

/-- Up to the bracket the tokens before it are taken, with the white space after them. -/
theorem Layout.exists_upToBracket? (h : Layout rest (tokens ++ .fixed [']'] :: more) text)
    (htokens : ∀ token ∈ tokens, ']' ∉ token.text) :
    ∃ gap list after, upToBracket? text = some (list, after) ∧ Spaces gap ∧
      Layout gap tokens list ∧ ']' ∉ list ∧ Layout rest more after := by
  obtain ⟨between, hmore, hown⟩ := h.split
  obtain ⟨part, rfl, hpart⟩ := hown.exists_append
  cases hmore with
  | @cons _ _ gap form after hgap hform hafter =>
      obtain rfl := hform
      have hlist : Layout gap tokens (part ++ gap) := hpart gap
      have hbracket := hlist.notMem htokens (notMem_of_spaces hgap)
      refine ⟨gap, part ++ gap, after, ?_, hgap, hlist, hbracket, hafter⟩
      rw [← List.append_assoc, List.singleton_append, upToBracket?_append hbracket]

/-- Where a blank comes next, the text starts with white space. -/
theorem Layout.exists_cons_of_blank (h : Layout rest (.blank :: tokens) text) :
    ∃ c after, text = c :: after ∧ isBlank c = true ∧ Layout rest tokens after := by
  cases h with
  | @cons _ _ gap form after hgap hform hafter =>
      obtain rfl := hform
      cases gap with
      | nil => exact ⟨' ', after, rfl, rfl, hafter⟩
      | cons c gap =>
          have hrest : Spaces gap := fun d hd => hgap d (List.mem_cons_of_mem c hd)
          have hspace : Spaces [' '] := fun d hd => Or.inl (List.mem_singleton.mp hd)
          exact ⟨c, gap ++ ([' '] ++ after), rfl, (spec_of_spaces hgap List.mem_cons_self).1,
            (hafter.space hspace).space hrest⟩

/-- The word of an alias is found behind a blank. -/
theorem Layout.exists_asWord? (h : Layout rest (.blank :: .word ['A', 'S'] :: tokens) text) :
    ∃ after, asWord? text = some after ∧ Layout rest tokens after := by
  obtain ⟨c, later, rfl, hc, hlater⟩ := h.exists_cons_of_blank
  obtain ⟨after, hword, hafter⟩ := hlater.exists_word?_word rfl
  refine ⟨after, ?_, hafter⟩
  rw [asWord?, if_pos hc, hword]

/-! ### The alias of a layout -/

variable {column : List Char} {d : Char}

/-- A name is found where it stands before a blank, with a quote after it or without. -/
theorem isNamed_append (hd : isBlank d = true) {quote : List Char}
    (hquote : quote = [] ∨ quote = ['"']) (s : List Char) :
    isNamed column (column ++ (quote ++ d :: s)) = true := by
  rw [isNamed, Text.dropFolded?_of_lower_eq rfl]
  rcases hquote with rfl | rfl
  · simp [isNameEnd, hd]
  · simp [isNameEnd, hd]

theorem isAliasAfterBlanks_append {gap s : List Char} (hgap : Spaces gap)
    (hs : isAliasAfterBlanks column s = true) : isAliasAfterBlanks column (gap ++ s) = true := by
  induction gap with
  | nil => exact hs
  | cons c gap ih =>
      have hrest := ih fun d hd => hgap d (List.mem_cons_of_mem c hd)
      simp [isAliasAfterBlanks, (spec_of_spaces hgap List.mem_cons_self).1, hrest]

/-- An alias is found behind blanks, with quotes or without. -/
theorem Layout.isAlias (h : Layout rest (.blank :: .named column :: .blank :: tokens) text) :
    MapKeys.isAlias column text = true := by
  obtain ⟨c, later, rfl, hc, hlater⟩ := h.exists_cons_of_blank
  cases hlater with
  | @cons _ _ gap form after hgap hform hafter =>
      obtain ⟨d, last, rfl, hd, -⟩ := hafter.exists_cons_of_blank
      rw [MapKeys.isAlias, hc, Bool.true_and]
      refine isAliasAfterBlanks_append hgap ?_
      rcases hform with rfl | rfl
      · have hnamed : isNamed form (form ++ d :: last) = true :=
          isNamed_append hd (Or.inl rfl) last
        cases hform : form ++ d :: last with
        | nil => rwa [hform] at hnamed
        | cons a s =>
            rw [hform] at hnamed
            simp [isAliasAfterBlanks, hnamed]
      · have hnamed : isNamed column (column ++ (['"'] ++ d :: last)) = true :=
          isNamed_append hd (Or.inr rfl) last
        rw [List.singleton_append] at hnamed
        rw [List.cons_append, List.append_assoc, List.singleton_append]
        simp [isAliasAfterBlanks, hnamed]

end

/-! ### Merging the arrays of a statement -/

section

variable {rest text : List Char}

/-- A joint becomes a comma and a blank. -/
theorem merges_joint : Merges Token.joint [.comma, .blank] := by
  intro rest text hlayout
  cases hlayout with
  | @cons _ _ gap form after hgap hform hafter =>
      obtain rfl := hform
      obtain ⟨bars, hbars, hopening⟩ := hafter.of_blank.exists_word?_fixed rfl
      obtain ⟨behind, harray, hbehind⟩ := hopening.of_blank.exists_openArray?
      have hjoint : joint? (']' :: after) = some behind := by
        have hbracket : dropFolded? [']'] (']' :: after) = some after := rfl
        rw [joint?, hbracket, Option.bind_some, hbars, Option.bind_some, harray]
      have hcomma : Token.comma.Form [','] := rfl
      have hblank : Token.blank.Form [' '] := rfl
      have hnone : ∀ token ∈ ([] : List Token), ']' ∉ token.text := by simp
      rw [merge_append (notMem_of_spaces hgap), List.singleton_append, merge_of_joint? hjoint]
      exact .cons hgap hcomma (.cons spaces_nil hblank (merges_of_notMem hnone rest behind hbehind))

/-- So arrays are merged, whatever stands in them, as long as it has no bracket. -/
theorem merges_intercalate {parts : List (List Token)}
    (hparts : ∀ part ∈ parts, ∀ token ∈ part, ']' ∉ token.text) :
    Merges (Token.joint.intercalate parts) ([Token.comma, .blank].intercalate parts) := by
  have hlater (parts : List (List Token))
      (hparts : ∀ part ∈ parts, ∀ token ∈ part, ']' ∉ token.text) :
      Merges (parts.flatMap (Token.joint ++ ·)) (parts.flatMap ([Token.comma, .blank] ++ ·)) := by
    induction parts with
    | nil => exact merges_of_notMem (by simp)
    | cons part parts ih =>
        have hpart := merges_of_notMem (hparts part List.mem_cons_self)
        have hrest := ih fun other hother => hparts other (List.mem_cons_of_mem part hother)
        exact (merges_joint.append hpart).append hrest
  cases parts with
  | nil => exact merges_of_notMem (by simp)
  | cons part parts =>
      have hpart := merges_of_notMem (hparts part List.mem_cons_self)
      have hrest := hlater parts fun other hother => hparts other (List.mem_cons_of_mem part hother)
      rw [intercalate_cons_eq_flatMap, intercalate_cons_eq_flatMap]
      exact hpart.append hrest

variable {separator : List Token} {elements keys values : List String} {column : String}

/-- Joined tokens have no bracket if neither the joint nor the parts have one. -/
theorem unbracketed_intercalate {parts : List (List Token)}
    (hseparator : ∀ token ∈ separator, ']' ∉ token.text)
    (hparts : ∀ part ∈ parts, ∀ token ∈ part, ']' ∉ token.text) :
    ∀ token ∈ separator.intercalate parts, ']' ∉ token.text := by
  intro token htoken hbracket
  exact notMem_intercalate (fun hmem => hseparator token hmem hbracket)
    (fun part hpart hmem => hparts part hpart token hmem hbracket) htoken

theorem unbracketed_chunk (hseparator : ∀ token ∈ separator, ']' ∉ token.text)
    (helements : ∀ e ∈ elements, ']' ∉ e.toList) :
    ∀ token ∈ Token.chunk separator elements, ']' ∉ token.text := by
  refine unbracketed_intercalate hseparator fun part hpart token htoken => ?_
  obtain ⟨e, he, rfl⟩ := List.mem_map.mp hpart
  obtain rfl := List.mem_singleton.mp htoken
  exact helements e he

theorem unbracketed_chunks (hseparator : ∀ token ∈ separator, ']' ∉ token.text)
    (helements : ∀ e ∈ elements, ']' ∉ e.toList) :
    ∀ part ∈ (chunks chunkSize elements).map (Token.chunk separator),
      ∀ token ∈ part, ']' ∉ token.text := by
  intro part hpart
  obtain ⟨own, hown, rfl⟩ := List.mem_map.mp hpart
  exact unbracketed_chunk hseparator fun e he =>
    helements e (mem_of_mem_chunks chunkSize_ne_zero hown he)

theorem unbracketed_elements (hseparator : ∀ token ∈ separator, ']' ∉ token.text)
    (helements : ∀ e ∈ elements, ']' ∉ e.toList) :
    ∀ token ∈ Token.elements [.comma, .blank] separator elements, ']' ∉ token.text :=
  unbracketed_intercalate (by decide) (unbracketed_chunks hseparator helements)

theorem merges_elements (hseparator : ∀ token ∈ separator, ']' ∉ token.text)
    (helements : ∀ e ∈ elements, ']' ∉ e.toList) :
    Merges (Token.elements Token.joint separator elements)
      (Token.elements [.comma, .blank] separator elements) :=
  merges_intercalate (unbracketed_chunks hseparator helements)

theorem notMem_quoted (hkeys : ∀ k ∈ keys, ']' ∉ k.toList) :
    ∀ k ∈ keys.map quoteText, ']' ∉ k.toList := by
  intro k hk
  obtain ⟨key, hkey, rfl⟩ := List.mem_map.mp hk
  exact notMem_quoteText (by decide) (hkeys key hkey)

/-- Merging a statement leaves one array of keys and one of values. -/
theorem merges_statement (hkeys : ∀ k ∈ keys, ']' ∉ k.toList)
    (hvalues : ∀ v ∈ values, ']' ∉ v.toList) (hcolumn : ']' ∉ column.toList) :
    Merges (Token.statement Token.joint keys values column)
      (Token.statement [.comma, .blank] keys values column) := by
  have hquoted := notMem_quoted hkeys
  have hmiddle : Merges Token.middle Token.middle :=
    merges_bracket rfl rfl (merges_of_notMem (by decide))
  have hending : Merges (Token.ending column) (Token.ending column) := by
    refine merges_bracket rfl rfl (merges_of_notMem ?_)
    simp [Token.blank, Token.text, hcolumn]
  have hstart : Merges (.fixed ['S', 'E', 'L', 'E', 'C', 'T'] :: .blank :: .word ['M', 'A', 'P'] ::
      .fixed ['('] :: Token.opening) _ :=
    merges_of_notMem (by decide)
  exact hstart.append ((merges_elements (by decide) hquoted).append
    (hmiddle.append ((merges_elements (by decide) hvalues).append hending)))

/-! ### The list of keys -/

/-- Tokens that are laid out as the keys after the first of a list. -/
def Lists (keys : List String) (tokens : List Token) : Prop :=
  ∀ gap text, Spaces gap → Layout gap tokens text → KeyTail keys text

theorem lists_nil : Lists [] [] := by
  intro gap text hgap h
  cases h with
  | nil hown => exact .nil (spaces_append hown hgap).all

/-- A key after a comma, with a blank between them or without. -/
theorem Lists.cons {key : String} {tokens blanks : List Token} (h : Lists keys tokens)
    (hblanks : blanks = [] ∨ blanks = [.blank]) :
    Lists (key :: keys) (.comma :: (blanks ++ .key key :: tokens)) := by
  intro gap text hgap hlayout
  cases hlayout with
  | @cons _ _ before _ between hbefore hcomma hbetween =>
      obtain rfl := hcomma
      have hkey : Layout gap (.key key :: tokens) between := by
        rcases hblanks with rfl | rfl
        · exact hbetween
        · exact hbetween.of_blank
      cases hkey with
      | @cons _ _ after _ rest hafter hform hrest =>
          obtain rfl := hform
          have htail := KeyTail.cons key hbefore.all hafter.all (h gap rest hgap hrest)
          rwa [quoteText, String.toList_ofList]

/-- The further keys of a chunk. -/
theorem Lists.append (keys : List String) {more : List String} {tokens : List Token}
    (h : Lists more tokens) :
    Lists (keys ++ more) (keys.flatMap (fun k => [.comma, .key k]) ++ tokens) := by
  induction keys with
  | nil => exact h
  | cons key keys ih => exact ih.cons (Or.inl rfl)

theorem chunk_cons (key : String) (keys : List String) :
    Token.chunk [.comma] ((key :: keys).map quoteText) =
      .key key :: keys.flatMap fun k => [.comma, .key k] := by
  rw [Token.chunk, List.map_cons, List.map_cons, intercalate_cons_eq_flatMap, List.map_map,
    List.flatMap_map]
  rfl

/-- Further chunks of keys. -/
theorem lists_flatten {keyChunks : List (List String)} (h : ∀ chunk ∈ keyChunks, chunk ≠ []) :
    Lists keyChunks.flatten (keyChunks.flatMap fun chunk =>
      [.comma, .blank] ++ Token.chunk [.comma] (chunk.map quoteText)) := by
  induction keyChunks with
  | nil => exact lists_nil
  | cons chunk rest ih =>
      have hrest := ih fun other hother => h other (List.mem_cons_of_mem chunk hother)
      cases chunk with
      | nil => exact absurd rfl (h [] List.mem_cons_self)
      | cons key keys =>
          rw [List.flatten_cons, List.flatMap_cons, chunk_cons]
          exact (hrest.append keys).cons (Or.inr rfl)

/-- However they are laid out, the keys read back. -/
theorem keysOfList?_of_layout {gap list : List Char} (hnil : keys ≠ []) (hgap : Spaces gap)
    (h : Layout gap (Token.elements [.comma, .blank] [.comma] (keys.map quoteText)) list) :
    keysOfList? list = some keys := by
  have hflatten : (chunks chunkSize keys).flatten = keys := flatten_chunks chunkSize_ne_zero
  have hchunks : ∀ chunk ∈ chunks chunkSize keys, chunk ≠ [] := fun _ => ne_nil_of_mem_chunks
  rw [Token.elements, chunks_map, List.map_map] at h
  revert hflatten hchunks h
  cases chunks chunkSize keys with
  | nil =>
      intro _ hflatten _
      exact absurd hflatten.symm hnil
  | cons chunk rest =>
      intro h hflatten hchunks
      cases chunk with
      | nil => exact absurd rfl (hchunks [] List.mem_cons_self)
      | cons key more =>
          have hrest := lists_flatten fun c hc => hchunks c (List.mem_cons_of_mem _ hc)
          rw [List.map_cons, intercalate_cons_eq_flatMap, List.flatMap_map, Function.comp_apply,
            chunk_cons, List.cons_append] at h
          cases h with
          | @cons _ _ before _ after hbefore hform hafter =>
              obtain rfl := hform
              have htail := hrest.append more gap after hgap hafter
              rw [← hflatten, List.flatten_cons, List.cons_append, quoteText, String.toList_ofList]
              exact keysOfList?_append key hbefore.all htail

/-! ### Searching a layout -/

theorem keyList?_append_of_unopened {name w s : List Char}
    (hw : ∀ c ∈ w, ¬ sameFolded 'M' c = true) : keyList? name (w ++ s) = keyList? name s := by
  induction w with
  | nil => rfl
  | cons c w ih =>
      have hnone : keyListHere? name (c :: (w ++ s)) = none := by
        simp [keyListHere?, dropFolded?, hw c List.mem_cons_self]
      rw [List.cons_append, keyList?, hnone]
      exact ih fun d hd => hw d (List.mem_cons_of_mem c hd)

theorem keyList?_of_here {name s list : List Char} (h : keyListHere? name s = some list) :
    keyList? name s = some list := by
  cases s with
  | nil => cases h
  | cons c s => rw [keyList?, h]

/-- What follows the keys gives the map to the column. -/
theorem Layout.closesFor (hvalues : ∀ v ∈ values, ']' ∉ v.toList)
    (h : Layout rest (.comma :: .blank :: (Token.opening ++
      (Token.elements [.comma, .blank] [.comma, .blank] values ++ Token.ending column))) text) :
    MapKeys.closesFor column.toList text = true := by
  obtain ⟨afterComma, hcomma, h⟩ := h.exists_word?_fixed rfl
  obtain ⟨afterOpening, hopening, h⟩ := h.of_blank.exists_openArray?
  obtain ⟨-, list, afterList, hlist, -, -, -, h⟩ :=
    h.exists_upToBracket? (unbracketed_elements (by decide) hvalues)
  obtain ⟨afterMap, hmap, h⟩ := h.exists_word?_fixed rfl
  obtain ⟨afterWord, hword, h⟩ := h.exists_asWord?
  have hclosing : closing? text = some afterWord := by
    rw [closing?, hcomma, Option.bind_some, hopening, Option.bind_some, hlist, Option.bind_some,
      hmap, Option.bind_some, hword]
  rw [MapKeys.closesFor, hclosing, Option.any_some]
  exact h.isAlias

/-- The keys of a merged statement are found, and they read back. -/
theorem keyList?_of_layout (hnil : keys ≠ []) (hkeys : ∀ k ∈ keys, ']' ∉ k.toList)
    (hvalues : ∀ v ∈ values, ']' ∉ v.toList)
    (h : Layout rest (Token.statement [.comma, .blank] keys values column) text) :
    (keyList? column.toList text).bind keysOfList? = some keys := by
  have hquoted := notMem_quoted hkeys
  have hspaces {gap : List Char} (hgap : Spaces gap) : ∀ c ∈ gap, ¬ sameFolded 'M' c = true :=
    fun c hc => (spec_of_spaces hgap hc).2.2
  cases h with
  | @cons _ _ gap form text hgap hform h =>
      obtain rfl := hform
      -- Nothing before the word that opens the map starts with its first letter.
      have hselect : ∀ c ∈ ['S', 'E', 'L', 'E', 'C', 'T'], ¬ sameFolded 'M' c = true :=
        List.any_eq_false.mp rfl
      rw [keyList?_append_of_unopened (hspaces hgap), keyList?_append_of_unopened hselect]
      cases h.of_blank with
      | @cons _ _ gap form text hgap hform hmap =>
          rw [keyList?_append_of_unopened (hspaces hgap)]
          obtain ⟨afterParen, hparen, h⟩ := hmap.exists_word?_fixed rfl
          obtain ⟨afterOpening, harray, h⟩ := h.exists_openArray?
          obtain ⟨gap, list, afterList, hlist, hgap, hlayout, hbracket, h⟩ :=
            h.exists_upToBracket? (unbracketed_elements (by decide) hquoted)
          have hopening : opening? (form ++ text) = some afterOpening := by
            rw [opening?, Text.dropFolded?_of_lower_eq hform, Option.bind_some, hparen,
              Option.bind_some, harray]
          have hhere : keyListHere? column.toList (form ++ text) = some list := by
            rw [keyListHere?_eq, hopening, Option.bind_some, hlist, Option.bind_some,
              if_pos (h.closesFor hvalues)]
          rw [keyList?_of_here hhere, Option.bind_some]
          exact keysOfList?_of_layout hnil hgap hlayout

/-! ### Reading keys back -/

/-- The keys of a map are read back from its statement, in order and as often as they are in it, and
from every text that has the tokens of the statement. -/
theorem parse?_of_layout (hnil : keys ≠ []) (hlength : values.length = keys.length)
    (hkeys : ∀ k ∈ keys, ']' ∉ k.toList) (hvalues : ∀ v ∈ values, ']' ∉ v.toList)
    (hcolumn : Column.needsQuoting column = false) :
    let tokens := Token.statement Token.joint keys values column
    let sql := "SELECT " ++ mapText (keys.map quoteText) values ++ " AS " ++ column ++ " FROM t"
    plainText tokens = sql.toList ∧ parse? (mergeChunks sql) column = some keys ∧
      ∀ text : String, Layout [] tokens text.toList →
        parse? (mergeChunks text) column = some keys := by
  intro tokens sql
  have hvaluesNil : values ≠ [] := by
    rintro rfl
    exact hnil (List.length_eq_zero_iff.mp hlength.symm)
  have hplain : plainText tokens = sql.toList := plainText_statement hnil hvaluesNil
  have hread (text : String) (h : Layout [] tokens text.toList) :
      parse? (mergeChunks text) column = some keys := by
    have hmerged := merges_statement hkeys hvalues (Column.notMem_of_not_needsQuoting hcolumn).1
      [] text.toList h
    rw [parse?, mergeChunks, String.toList_ofList]
    exact keyList?_of_layout hnil hkeys hvalues hmerged
  refine ⟨hplain, hread sql ?_, hread⟩
  rw [← hplain]
  exact layout_plainText tokens

end

/-- Keys that look like syntax, in a statement that was printed anew. -/
theorem parse?_of_layout_printed_anew :
    parse? (mergeChunks ("SELECT map (\n  Array [ 'it''s' ,\t'MAP(ARRAY[' ] ,  ARRAY\r\n[x, " ++
      "cast(null as varchar)]\n)  As \"tags\" FROM t")) "tags" =
        some ["it's", "MAP(ARRAY["] := by
  have hchunks {es : List String} (hnil : es ≠ []) (hlength : es.length ≤ chunkSize) :
      chunks chunkSize es = [es] := by
    rw [chunks_of_ne_nil chunkSize_ne_zero hnil, List.take_of_length_le hlength,
      List.drop_of_length_le hlength, chunks, dif_pos (Or.inl rfl)]
  let pieces : List (String × String) := [("", "SELECT"), ("", " "), ("", "map"), (" ", "("),
    ("\n  ", "Array"), (" ", "["), (" ", "'it''s'"), (" ", ","), ("\t", "'MAP(ARRAY['"),
    (" ", "]"), (" ", ","), ("", " "), (" ", "ARRAY"), ("\r\n", "["), ("", "x"), ("", ","),
    ("", " "), ("", "cast(null as varchar)"), ("", "]"), ("\n", ")"), ("", " "), (" ", "As"),
    ("", " "), ("", "\"tags\""), ("", " "), ("", "FROM"), ("", " "), ("", "t")]
  have hpieces : List.Forall₂
      (fun token piece => piece.1.toList.all Expr.isSpace = true ∧ token.Form piece.2.toList)
      (Token.statement Token.joint ["it's", "MAP(ARRAY["] ["x", "cast(null as varchar)"] "tags")
      pieces := by
    rw [Token.statement, Token.elements, Token.elements, hchunks (by simp) (by decide),
      hchunks (by simp) (by decide)]
    decide +kernel
  obtain ⟨-, -, hread⟩ := @parse?_of_layout ["it's", "MAP(ARRAY["]
    ["x", "cast(null as varchar)"] "tags" (by simp) rfl (by decide +kernel) (by decide +kernel)
    (by decide +kernel)
  refine hread _ ?_
  have hlayout := layout_of_pieces hpieces
  have htext : (pieces.flatMap fun p => p.1.toList ++ p.2.toList) =
      ("SELECT map (\n  Array [ 'it''s' ,\t'MAP(ARRAY[' ] ,  ARRAY\r\n[x, " ++
        "cast(null as varchar)]\n)  As \"tags\" FROM t").toList := by
    decide +kernel
  rwa [htext] at hlayout

end MapKeys
end CostView
