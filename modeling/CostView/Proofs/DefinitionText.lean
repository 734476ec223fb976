import CostView.Proofs.MapText
import CostView.Proofs.PlainName

/-!
# Reading keys back from a definition

In the merged text of a definition each map stands between texts in which nothing opens a map and
no bracket stands.  The search passes from item to item: what it carries along is such a text, and a
map either yields its keys, if its column is the one looked for, or is passed over.  So the keys of
a column are those of the first map that was written for it.
-/

namespace CostView

namespace MapKeys

variable {column s t w r : List Char}

/-- A text in which no map opens and no bracket stands. -/
structure Inert (s : List Char) : Prop where
  quiet : isQuiet s = true
  unbracketed : ']' ∉ s

theorem Inert.append (hs : Inert s) (ht : Inert t) : Inert (s ++ t) := by
  refine ⟨isQuiet_append hs.quiet ht.quiet, ?_⟩
  rw [List.mem_append]
  rintro (hleft | hright)
  · exact hs.unbracketed hleft
  · exact ht.unbracketed hright

theorem Inert.of_notMem (h : ']' ∉ s ∧ '(' ∉ s) : Inert s :=
  ⟨isQuiet_of_not_mem h.2, h.1⟩

theorem Inert.ofList {l : List Char} (h : (l.all fun c => c ≠ ']' && c ≠ '(') = true) :
    Inert (String.ofList l).toList := by
  rw [String.toList_ofList]
  rw [List.all_eq_true] at h
  refine .of_notMem ⟨fun hmem => ?_, fun hmem => ?_⟩
  · simpa using h _ hmem
  · simpa using h _ hmem

/-- An inert text yields no keys, merged or not. -/
theorem Inert.keyList?_merge (h : Inert s) : keyList? column (merge s) = none := by
  rw [merge_eq_self h.unbracketed]
  exact keyList?_eq_none h.unbracketed

end MapKeys

open MapKeys (Inert merge mapOpening arrayOpening keyList? keysOfList? closesFor)

/-- The keys of the map that an item gives to a column. -/
def SelectItem.keysFor? (column : String) (item : SelectItem) : Option (List String) :=
  match item.value with
  | .map cells => if item.column = column then some (cells.map Prod.fst) else none
  | _ => none

@[simp] theorem SelectItem.keysFor?_map {column name : String} {cells : List (String × Cell)} :
    SelectItem.keysFor? column ⟨name, .map cells⟩ =
      if name = column then some (cells.map Prod.fst) else none := rfl

theorem SelectItem.keysFor?_of_unmapped {column : String} {item : SelectItem}
    (h : ∀ cells, item.value ≠ .map cells) : item.keysFor? column = none := by
  rw [SelectItem.keysFor?]
  split
  · next cells hvalue => exact absurd hvalue (h cells)
  · rfl

theorem SelectItem.column_of_keysFor? {column : String} {item : SelectItem} {keys : List String}
    (h : item.keysFor? column = some keys) : item.column = column := by
  rw [SelectItem.keysFor?] at h
  split at h
  · split at h
    · next hcolumn => exact hcolumn
    · cases h
  · cases h

/-- An item whose text can be told apart: a map that is given to a plain column, or any other value
whose text is inert. -/
inductive SelectItem.Legible : SelectItem → Prop
  | map {column : String} {cells : List (String × Cell)}
      (plain : Column.needsQuoting column = false) (insensitive : Column.isSensitive column = false)
      (nonempty : cells ≠ []) (keys : ∀ c ∈ cells, ']' ∉ c.1.toList)
      (values : ∀ c ∈ cells, ']' ∉ c.2.text.toList) : Legible ⟨column, .map cells⟩
  | inert {item : SelectItem} (unmapped : ∀ cells, item.value ≠ .map cells)
      (text : Inert item.text.toList) : Legible item

namespace MapKeys

variable {q rest : List Char} {column : String} {item : SelectItem}

/-- What ends the text of a map and gives it to a column. -/
def aliasEnd (name : String) : List Char :=
  [')', ' ', 'A', 'S', ' '] ++ name.toList

theorem inert_aliasEnd {name : String} (h : Column.needsQuoting name = false) :
    Inert (aliasEnd name) := by
  refine Inert.append ⟨by decide, by decide⟩ (.of_notMem (Column.notMem_of_not_needsQuoting h))

section

variable {name : String} {cells : List (String × Cell)}

theorem notMem_keyTexts (h : ∀ c ∈ cells, ']' ∉ c.1.toList) :
    ∀ k ∈ cells.map fun c => quoteText c.1, ']' ∉ k.toList := by
  intro k hk
  obtain ⟨c, hc, rfl⟩ := List.mem_map.mp hk
  exact notMem_quoteText (by decide) (h c hc)

theorem notMem_valueTexts (h : ∀ c ∈ cells, ']' ∉ c.2.text.toList) :
    ∀ v ∈ cells.map fun c => c.2.text, ']' ∉ v.toList := by
  intro v hv
  obtain ⟨c, hc, rfl⟩ := List.mem_map.mp hv
  exact h c hc

/-- The merged text of a map that is given to a column. -/
theorem merge_mapItem (hname : Column.needsQuoting name = false)
    (hinsensitive : Column.isSensitive name = false) (hnil : cells ≠ [])
    (hkeys : ∀ c ∈ cells, ']' ∉ c.1.toList) (hvalues : ∀ c ∈ cells, ']' ∉ c.2.text.toList) :
    merge ((SelectItem.text ⟨name, .map cells⟩).toList ++ rest) =
      mapOpening ++ (listText "," (cells.map fun c => quoteText c.1) ++ ']' ::
        ([',', ' '] ++ (arrayOpening ++ (listText ", " (cells.map fun c => c.2.text) ++ ']' ::
          (aliasEnd name ++ merge rest))))) := by
  have has : (" AS " : String).toList = [' ', 'A', 'S', ' '] := by simp
  have hbracket : ']' ∉ [' ', 'A', 'S', ' '] ++ name.toList := by
    have hnot := (Column.notMem_of_not_needsQuoting hname).1
    simp [hnot]
  rw [SelectItem.text, ColumnValue.text, Column.aliasText_of_plain hname hinsensitive]
  simp only [String.toList_append, List.append_assoc, has]
  rw [merge_mapText (notMem_keyTexts hkeys) (notMem_valueTexts hvalues) (by simpa using hnil)
      (by simpa using hnil),
    ← List.append_assoc [' ', 'A', 'S', ' '], merge_append hbracket]
  simp [aliasEnd]

/-- After its keys a map goes on to be given to its column. -/
theorem closesFor_values (hcolumn : Column.needsQuoting column = false)
    (hname : Column.needsQuoting name = false) {values : List Char} (hvalues : ']' ∉ values)
    {d : Char} (hd : d = ' ' ∨ d = ',') (rest : List Char) :
    closesFor column.toList ([',', ' '] ++ (arrayOpening ++ (values ++ ']' ::
      (aliasEnd name ++ d :: rest)))) = true ↔ column = name := by
  have hclosing : closing? ([',', ' '] ++ (arrayOpening ++ (values ++ ']' ::
      (aliasEnd name ++ d :: rest)))) = some (' ' :: (name.toList ++ d :: rest)) := by
    have harray (t : List Char) :
        (word? [','] ([',', ' '] ++ (arrayOpening ++ t))).bind openArray? = some t := rfl
    rw [closing?, harray, Option.bind_some, upToBracket?_append hvalues]
    rfl
  rw [closesFor, hclosing, Option.any_some,
    isAlias_plain (fun c => Column.isPlainChar_of_mem hcolumn)
      (fun c => Column.isPlainChar_of_mem hname) (Column.toList_ne_nil hname) hd,
    String.toList_inj]

theorem merge_separator {d : Char} (hd : d = ' ' ∨ d = ',') (rest : List Char) :
    merge (d :: rest) = d :: merge rest :=
  merge_cons (joint?_eq_none_of_ne (by rcases hd with rfl | rfl <;> decide))

/-- The search ends at a map that is given to the column, with the keys of that map. -/
theorem keyList?_mapItem_self (hplain : Column.needsQuoting column = false)
    (hinsensitive : Column.isSensitive column = false) (hnil : cells ≠ [])
    (hkeys : ∀ c ∈ cells, ']' ∉ c.1.toList) (hvalues : ∀ c ∈ cells, ']' ∉ c.2.text.toList)
    (hq : Inert q) {d : Char} (hd : d = ' ' ∨ d = ',') (rest : List Char) :
    (keyList? column.toList
      (q ++ merge ((SelectItem.text ⟨column, .map cells⟩).toList ++ d :: rest))).bind keysOfList? =
        some (cells.map Prod.fst) := by
  have hvaluesText : ']' ∉ listText ", " (cells.map fun c => c.2.text) :=
    notMem_listText (by simp) (notMem_valueTexts hvalues)
  have hcloses := (closesFor_values hplain hplain hvaluesText hd (merge rest)).mpr rfl
  rw [merge_mapItem hplain hinsensitive hnil hkeys hvalues, merge_separator hd,
    keyList?_found hq.quiet (notMem_listText (by simp) (notMem_keyTexts hkeys)) hcloses,
    Option.bind_some]
  have hread := keysOfList?_listText (cells.map Prod.fst) (by simpa using hnil)
  rwa [List.map_map] at hread

/-- It passes a map that is given to another column: over the keys, and then over the values. -/
theorem keyList?_mapItem_of_ne (hcolumn : Column.needsQuoting column = false)
    (hplain : Column.needsQuoting name = false) (hinsensitive : Column.isSensitive name = false)
    (hnil : cells ≠ []) (hkeys : ∀ c ∈ cells, ']' ∉ c.1.toList)
    (hvalues : ∀ c ∈ cells, ']' ∉ c.2.text.toList) (hne : column ≠ name) (hq : Inert q) {d : Char}
    (hd : d = ' ' ∨ d = ',') (rest : List Char) :
    keyList? column.toList
        (q ++ merge ((SelectItem.text ⟨name, .map cells⟩).toList ++ d :: rest)) =
      keyList? column.toList (aliasEnd name ++ merge (d :: rest)) := by
  have hkeysText : ']' ∉ listText "," (cells.map fun c => quoteText c.1) :=
    notMem_listText (by simp) (notMem_keyTexts hkeys)
  have hvaluesText : ']' ∉ listText ", " (cells.map fun c => c.2.text) :=
    notMem_listText (by simp) (notMem_valueTexts hvalues)
  have hother : closesFor column.toList ([',', ' '] ++ (arrayOpening ++
      (listText ", " (cells.map fun c => c.2.text) ++ ']' ::
        (aliasEnd name ++ d :: merge rest)))) = false := by
    rw [← Bool.not_eq_true, closesFor_values hcolumn hplain hvaluesText hd]
    exact hne
  have hopening : ']' ∉ mapOpening := by decide
  have hmiddle : ']' ∉ [',', ' '] ++ arrayOpening := by decide
  have hskipKeys : ']' ∉ q ++ (mapOpening ++
      listText "," (cells.map fun c => quoteText c.1)) := by
    simp only [List.mem_append, not_or]
    exact ⟨hq.unbracketed, hopening, hkeysText⟩
  have hskipValues : ']' ∉ [',', ' '] ++ arrayOpening ++
      listText ", " (cells.map fun c => c.2.text) := by
    rw [List.mem_append, not_or]
    exact ⟨hmiddle, hvaluesText⟩
  rw [merge_mapItem hplain hinsensitive hnil hkeys hvalues, merge_separator hd]
  have hfirst := keyList?_skip hskipKeys hother
  simp only [List.append_assoc] at hfirst ⊢
  rw [hfirst, ← List.append_assoc, ← List.append_assoc, keyList?_skip hskipValues rfl]

end

/-- The search passes an item: it ends at a map that is given to the column, and goes on behind any
other item. -/
theorem keyList?_item (rest : List Char) (hcolumn : Column.needsQuoting column = false)
    (hq : Inert q) (h : item.Legible) {d : Char} (hd : d = ' ' ∨ d = ',') :
    (∃ keys, item.keysFor? column = some keys ∧
      (keyList? column.toList (q ++ merge (item.text.toList ++ d :: rest))).bind keysOfList? =
        some keys) ∨
    (item.keysFor? column = none ∧ ∃ p, Inert p ∧
      keyList? column.toList (q ++ merge (item.text.toList ++ d :: rest)) =
        keyList? column.toList (p ++ merge (d :: rest))) := by
  cases h with
  | @map name cells plain insensitive nonempty keys values =>
      rw [SelectItem.keysFor?_map]
      by_cases hname : name = column
      · subst hname
        exact Or.inl ⟨_, if_pos rfl,
          keyList?_mapItem_self plain insensitive nonempty keys values hq hd rest⟩
      · exact Or.inr ⟨if_neg hname, aliasEnd name, inert_aliasEnd plain,
          keyList?_mapItem_of_ne hcolumn plain insensitive nonempty keys values (Ne.symm hname) hq
            hd rest⟩
  | inert unmapped text =>
      right
      refine ⟨SelectItem.keysFor?_of_unmapped unmapped, q ++ item.text.toList, hq.append text, ?_⟩
      rw [merge_append text.unbracketed, List.append_assoc]

/-- An item is followed by a comma or a space. -/
theorem exists_separator (items : List SelectItem) (rest : List Char) :
    ∃ d after, (d = ' ' ∨ d = ',') ∧
      items.flatMap (fun item => [',', ' '] ++ item.text.toList) ++ ' ' :: rest = d :: after := by
  cases items with
  | nil => exact ⟨' ', rest, Or.inl rfl, rfl⟩
  | cons next items => exact ⟨',', _, Or.inr rfl, rfl⟩

/-- So it passes all items, by induction. -/
theorem keyList?_items (hcolumn : Column.needsQuoting column = false) (items : List SelectItem)
    (hitems : ∀ item ∈ items, item.Legible) (hq : Inert q) (hrest : Inert (' ' :: rest)) :
    (keyList? column.toList
      (q ++ merge (items.flatMap (fun item => [',', ' '] ++ item.text.toList) ++ ' ' :: rest))).bind
        keysOfList? = items.findSome? (SelectItem.keysFor? column) := by
  induction items generalizing q with
  | nil =>
      have hnone : keyList? column.toList (merge (q ++ ' ' :: rest)) = none :=
        (hq.append hrest).keyList?_merge
      rw [merge_append hq.unbracketed] at hnone
      rw [List.flatMap_nil, List.nil_append, hnone]
      rfl
  | cons item items ih =>
      have hcomma : Inert [',', ' '] := ⟨by decide, by decide⟩
      have hitem := hitems item List.mem_cons_self
      obtain ⟨d, after, hd, hafter⟩ := exists_separator items rest
      have htail := fun p (hp : Inert p) =>
        ih (fun other hother => hitems other (List.mem_cons_of_mem item hother)) (q := p) hp
      rw [hafter] at htail
      rw [List.flatMap_cons, List.append_assoc, hafter, List.append_assoc,
        merge_append hcomma.unbracketed, ← List.append_assoc, List.findSome?_cons]
      rcases keyList?_item after hcolumn (hq.append hcomma) hitem hd with
        ⟨keys, hkeys, hfound⟩ | ⟨hnone, p, hp, hskip⟩
      · rw [hkeys, hfound]
      · rw [hnone, hskip]
        exact htail p hp

theorem toList_around {a view b source separator f : String} {texts : List String} :
    (a ++ view ++ b ++ joined separator texts ++ f ++ source).toList =
      (a.toList ++ view.toList ++ b.toList) ++
        (separator.toList.intercalate (texts.map String.toList) ++ (f.toList ++ source.toList)) := by
  simp [toList_joined]

/-- The text of a definition: an inert opening, the items, and an inert end. -/
theorem toList_sql {d : ViewDefinition} (hview : ']' ∉ d.view.toList ∧ '(' ∉ d.view.toList)
    (hsource : ']' ∉ d.source.toList ∧ '(' ∉ d.source.toList) :
    ∃ opening close, Inert opening ∧ Inert (' ' :: close) ∧
      d.sql.toList = opening ++
        ([',', ' '].intercalate (d.items.map fun item => item.text.toList) ++ ' ' :: close) := by
  have hcreate : Inert ("CREATE OR REPLACE VIEW " : String).toList := .ofList rfl
  have hselect : Inert (" AS SELECT " : String).toList := .ofList rfl
  have hfrom : (" FROM " : String).toList = ' ' :: ['F', 'R', 'O', 'M', ' '] := by simp
  have hcomma : (", " : String).toList = [',', ' '] := by simp
  have hend : Inert [' ', 'F', 'R', 'O', 'M', ' '] := ⟨by decide, by decide⟩
  have hsql : d.sql.toList = _ := toList_around
  rw [hfrom, hcomma, List.map_map] at hsql
  exact ⟨_, _, (hcreate.append (.of_notMem hview)).append hselect,
    hend.append (.of_notMem hsource), hsql⟩

/-- The keys that are read back for a plain column are those of the first map that a legible
definition gives to it. -/
theorem parse?_mergeChunks_sql {d : ViewDefinition} (hcolumn : Column.needsQuoting column = false)
    (hview : ']' ∉ d.view.toList ∧ '(' ∉ d.view.toList)
    (hsource : ']' ∉ d.source.toList ∧ '(' ∉ d.source.toList)
    (hitems : ∀ item ∈ d.items, item.Legible) :
    parse? (mergeChunks d.sql) column = d.items.findSome? (SelectItem.keysFor? column) := by
  obtain ⟨opening, close, hopening, hclose, hsql⟩ := toList_sql hview hsource
  rw [parse?, mergeChunks, String.toList_ofList, hsql, merge_append hopening.unbracketed]
  cases hlist : d.items with
  | nil =>
      have hnone : keyList? column.toList (merge (opening ++ ' ' :: close)) = none :=
        (hopening.append hclose).keyList?_merge
      rw [merge_append hopening.unbracketed] at hnone
      rw [List.map_nil, List.intercalate_nil, List.nil_append, hnone]
      rfl
  | cons item items =>
      rw [hlist] at hitems
      have hitem := hitems item List.mem_cons_self
      have hothers : ∀ other ∈ items, other.Legible :=
        fun other hother => hitems other (List.mem_cons_of_mem item hother)
      -- No separator stands before the first item, so it is passed on its own.
      obtain ⟨d, after, hd, hafter⟩ := exists_separator items close
      have htail := fun p (hp : Inert p) => keyList?_items hcolumn items hothers hp hclose
      rw [hafter] at htail
      rw [List.map_cons, intercalate_cons_eq_flatMap, List.flatMap_map, List.append_assoc, hafter,
        List.findSome?_cons]
      rcases keyList?_item after hcolumn hopening hitem hd with
        ⟨keys, hkeys, hfound⟩ | ⟨hnone, p, hp, hskip⟩
      · rw [hkeys, hfound]
      · rw [hnone, hskip]
        exact htail p hp

/-! ### Definitions without maps -/

/-- A text in which every closing bracket comes before the word of an alias, so that none of them
ends the keys of a map. -/
inductive Unlisted : List Char → Prop
  | nil : Unlisted []
  | cons {c : Char} {s : List Char} (h : c ≠ ']') (hs : Unlisted s) : Unlisted (c :: s)
  | bracket {s : List Char} (hs : Unlisted s) : Unlisted (']' :: ' ' :: 'A' :: s)

variable {s w r : List Char}

theorem Unlisted.append (hw : ']' ∉ w) (hs : Unlisted s) : Unlisted (w ++ s) := by
  induction w with
  | nil => exact hs
  | cons c w ih =>
      obtain ⟨hc, hrest⟩ := not_or.mp (mt List.mem_cons.mpr hw)
      exact .cons (Ne.symm hc) (ih hrest)

theorem Unlisted.of_notMem (h : ']' ∉ s) : Unlisted s := by
  rw [← List.append_nil s]
  exact .append h .nil

theorem Unlisted.tail {c : Char} (h : Unlisted (c :: s)) (hc : c ≠ ']') : Unlisted s := by
  cases h with
  | cons _ hs => exact hs
  | bracket _ => exact absurd rfl hc

theorem Unlisted.of_append (hw : ']' ∉ w) (h : Unlisted (w ++ s)) : Unlisted s := by
  induction w with
  | nil => exact h
  | cons c w ih =>
      obtain ⟨hc, hrest⟩ := not_or.mp (mt List.mem_cons.mpr hw)
      rw [List.cons_append] at h
      exact ih hrest (h.tail (Ne.symm hc))

theorem Unlisted.merge_eq (h : Unlisted s) : merge s = s := by
  induction h with
  | nil => exact merge_nil
  | cons hc _ ih => rw [merge_cons (joint?_eq_none_of_ne hc), ih]
  | @bracket s _ ih =>
      have hjoint : joint? (']' :: ' ' :: 'A' :: s) = none := rfl
      rw [merge_cons hjoint, merge_cons (joint?_eq_none_of_ne (by decide)),
        merge_cons (joint?_eq_none_of_ne (by decide)), ih]

/-- The search passes over all brackets, one after the other. -/
theorem Unlisted.keyList?_eq (h : Unlisted s) {column : List Char} : keyList? column s = none := by
  induction hlength : s.length using Nat.strong_induction_on generalizing s with
  | _ length ih =>
      by_cases hmem : ']' ∈ s
      · obtain ⟨w, r, rfl, hw⟩ := List.eq_append_cons_of_mem hmem
        have hbracket : Unlisted (']' :: r) := h.of_append hw
        have hshorter : r.length < length := by
          rw [← hlength, List.length_append, List.length_cons]
          omega
        cases hbracket with
        | cons hne _ => exact absurd rfl hne
        | @bracket after hafter =>
            have hrest : Unlisted (' ' :: 'A' :: after) :=
              .cons (by decide) (.cons (by decide) hafter)
            rw [keyList?_skip hw rfl]
            exact ih _ hshorter hrest rfl
      · exact keyList?_eq_none hmem

end MapKeys

/-- An item whose text has no bracket, but perhaps one that ends its value. -/
structure SelectItem.Flat (item : SelectItem) : Prop where
  column : ']' ∉ item.column.toList
  value : ∃ body, ']' ∉ body ∧
    (item.value.text.toList = body ∨ item.value.text.toList = body ++ [']'])

namespace MapKeys

theorem Unlisted.item {item : SelectItem} (h : item.Flat) {s : List Char} (hs : Unlisted s) :
    Unlisted (item.text.toList ++ s) := by
  have has : (" AS " : String).toList = [' ', 'A', 'S', ' '] := by simp
  obtain ⟨body, hbody, hvalue⟩ := h.value
  have hname : Unlisted (['S', ' '] ++ ((Column.aliasText item.column).toList ++ s)) :=
    .append (by decide) (.append (Column.notMem_aliasText (by decide) h.column) hs)
  rw [SelectItem.text]
  simp only [String.toList_append, has, List.append_assoc]
  rcases hvalue with hplain | hbracket
  · rw [hplain]
    exact .append hbody (.append (w := [' ', 'A']) (by decide) hname)
  · rw [hbracket, List.append_assoc]
    exact .append hbody (.bracket hname)

/-- No keys are read back from a definition whose items are flat. -/
theorem parse?_mergeChunks_of_flat {d : ViewDefinition} {column : String}
    (hview : ']' ∉ d.view.toList ∧ '(' ∉ d.view.toList)
    (hsource : ']' ∉ d.source.toList ∧ '(' ∉ d.source.toList)
    (hitems : ∀ item ∈ d.items, item.Flat) : parse? (mergeChunks d.sql) column = none := by
  obtain ⟨opening, close, hopening, hclose, hsql⟩ := toList_sql hview hsource
  have hlater (items : List SelectItem) (hitems : ∀ item ∈ items, item.Flat) :
      Unlisted (items.flatMap (fun item => [',', ' '] ++ item.text.toList) ++ ' ' :: close) := by
    induction items with
    | nil => exact .of_notMem hclose.unbracketed
    | cons item items ih =>
        have hrest := ih fun other hother => hitems other (List.mem_cons_of_mem item hother)
        rw [List.flatMap_cons, List.append_assoc, List.append_assoc]
        exact .append (by decide) (.item (hitems item List.mem_cons_self) hrest)
  have htext : Unlisted d.sql.toList := by
    rw [hsql]
    refine .append hopening.unbracketed ?_
    cases hlist : d.items with
    | nil => exact .of_notMem hclose.unbracketed
    | cons item items =>
        rw [hlist] at hitems
        have hrest := hlater items fun other hother =>
          hitems other (List.mem_cons_of_mem item hother)
        rw [List.map_cons, intercalate_cons_eq_flatMap, List.flatMap_map, List.append_assoc]
        exact .item (hitems item List.mem_cons_self) hrest
  rw [parse?, mergeChunks, String.toList_ofList, htext.merge_eq, htext.keyList?_eq]
  rfl

end MapKeys
end CostView
