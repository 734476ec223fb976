import CostView.Proofs.KeyList
import Mathlib.Algebra.Order.Floor.Div

/-!
# Arrays cut into chunks

The keys and the values of an assembled map are each written as a concatenation of literal arrays.
Merging turns each concatenation into one array, so the merged text of a map is the opening of a
map, the list of its keys, a bracket, the list of its values and a bracket.  Nothing of this depends
on how many chunks there were.
-/

namespace CostView

/-! ### Separated lists -/

/-- A joined list is its first element and the others, each after the separator. -/
theorem intercalate_cons_eq_flatMap {α : Type} (separator x : List α) (xs : List (List α)) :
    separator.intercalate (x :: xs) = x ++ xs.flatMap (separator ++ ·) := by
  induction xs generalizing x with
  | nil => simp
  | cons y ys ih =>
      rw [List.intercalate_cons_cons, ih, List.flatMap_cons]
      simp

theorem notMem_intercalate {α : Type} {a : α} {separator : List α} {xs : List (List α)}
    (hseparator : a ∉ separator) (hxs : ∀ x ∈ xs, a ∉ x) : a ∉ separator.intercalate xs := by
  cases xs with
  | nil => simp
  | cons x xs =>
      rw [intercalate_cons_eq_flatMap, List.mem_append, List.mem_flatMap]
      rintro (hmem | ⟨y, hy, hmem⟩)
      · exact hxs x List.mem_cons_self hmem
      · rcases List.mem_append.mp hmem with hleft | hright
        · exact hseparator hleft
        · exact hxs y (List.mem_cons_of_mem x hy) hright

/-! ### Chunks -/

section

variable {α : Type} {n : Nat} {x : α} {xs chunk : List α}

theorem chunks_of_ne_nil (hn : n ≠ 0) (hxs : xs ≠ []) :
    chunks n xs = xs.take n :: chunks n (xs.drop n) := by
  rw [chunks, dif_neg]
  rintro (hnil | hzero)
  · exact hxs hnil
  · exact hn hzero

theorem flatten_chunks (hn : n ≠ 0) : (chunks n xs).flatten = xs := by
  fun_induction chunks n xs with
  | case1 xs h =>
      rw [List.flatten_nil, h.resolve_right hn]
  | case2 xs h ih => rw [List.flatten_cons, ih, List.take_append_drop]

theorem ne_nil_of_mem_chunks (h : chunk ∈ chunks n xs) : chunk ≠ [] := by
  fun_induction chunks n xs with
  | case1 xs _ => cases h
  | case2 xs hcut ih =>
      rcases List.mem_cons.mp h with rfl | hrest
      · rw [Ne, List.take_eq_nil_iff]
        exact fun hnil => hcut hnil.symm
      · exact ih hrest

theorem length_le_of_mem_chunks (h : chunk ∈ chunks n xs) : chunk.length ≤ n := by
  fun_induction chunks n xs with
  | case1 xs _ => cases h
  | case2 xs _ ih =>
      rcases List.mem_cons.mp h with rfl | hrest
      · exact List.length_take_le n xs
      · exact ih hrest

/-- There are as many chunks as it takes. -/
theorem length_chunks (hn : n ≠ 0) : (chunks n xs).length = xs.length ⌈/⌉ n := by
  fun_induction chunks n xs with
  | case1 xs h =>
      rw [h.resolve_right hn, List.length_nil, List.length_nil, zero_ceilDiv]
  | case2 xs h ih =>
      have hxs : 0 < xs.length := List.length_pos_iff.mpr fun hnil => h (Or.inl hnil)
      have hpos : 0 < n := Nat.pos_of_ne_zero hn
      rw [List.length_cons, ih, List.length_drop]
      -- Either this chunk is a whole one, or it is the last.
      rcases Nat.le_total n xs.length with hwhole | hlast
      · rw [Nat.ceilDiv_eq_add_pred_div, Nat.ceilDiv_eq_add_pred_div, ← Nat.add_div_right _ hpos]
        congr 1
        omega
      · rw [Nat.sub_eq_zero_of_le hlast, zero_ceilDiv, Nat.ceilDiv_eq_add_pred_div]
        exact (Nat.div_eq_of_lt_le (by omega) (by omega)).symm

/-- A list can be cut before or after its elements are mapped. -/
theorem chunks_map {β : Type} (f : α → β) :
    chunks n (xs.map f) = (chunks n xs).map (List.map f) := by
  fun_induction chunks n xs with
  | case1 xs h =>
      rw [chunks, dif_pos (by simpa using h), List.map_nil]
  | case2 xs h ih =>
      rw [chunks, dif_neg (by simpa using h), ← List.map_take, ← List.map_drop, ih, List.map_cons]

theorem mem_of_mem_chunks (hn : n ≠ 0) (h : chunk ∈ chunks n xs) (hx : x ∈ chunk) : x ∈ xs := by
  have hflat : x ∈ (chunks n xs).flatten := List.mem_flatten.mpr ⟨chunk, h, hx⟩
  rwa [flatten_chunks hn] at hflat

end

theorem chunkSize_ne_zero : chunkSize ≠ 0 := by
  decide

/-- The elements of an array as one list: within a chunk they are separated as given, and between
chunks by a comma and a space. -/
def listText (separator : String) (elements : List String) : List Char :=
  [',', ' '].intercalate
    ((chunks chunkSize elements).map fun chunk => (joined separator chunk).toList)

theorem toList_joined (separator : String) (texts : List String) :
    (joined separator texts).toList = separator.toList.intercalate (texts.map String.toList) :=
  String.toList_intercalate

theorem notMem_joined {a : Char} {separator : String} {elements : List String}
    (hseparator : a ∉ separator.toList) (helements : ∀ e ∈ elements, a ∉ e.toList) :
    a ∉ (joined separator elements).toList := by
  rw [toList_joined]
  refine notMem_intercalate hseparator fun x hx => ?_
  obtain ⟨e, he, rfl⟩ := List.mem_map.mp hx
  exact helements e he

/-- No chunk of an array holds a bracket if no element does. -/
theorem notMem_chunk {separator : String} {elements chunk : List String}
    (hseparator : ']' ∉ separator.toList) (helements : ∀ e ∈ elements, ']' ∉ e.toList)
    (h : chunk ∈ chunks chunkSize elements) : ']' ∉ (joined separator chunk).toList :=
  notMem_joined hseparator fun e he => helements e (mem_of_mem_chunks chunkSize_ne_zero h he)

theorem notMem_listText {separator : String} {elements : List String}
    (hseparator : ']' ∉ separator.toList) (helements : ∀ e ∈ elements, ']' ∉ e.toList) :
    ']' ∉ listText separator elements := by
  refine notMem_intercalate (by decide) fun x hx => ?_
  obtain ⟨chunk, hchunk, rfl⟩ := List.mem_map.mp hx
  exact notMem_chunk hseparator helements hchunk

/-! ### Merging an array -/

namespace MapKeys

variable {s : List Char}

/-- The text that opens a literal array. -/
def arrayOpening : List Char := ['A', 'R', 'R', 'A', 'Y', '[']

/-- The text of an array as its chunks with the joints between them. -/
theorem toList_arrayText {separator : String} {elements : List String} (h : elements ≠ []) :
    (arrayText separator elements).toList =
      arrayOpening ++ (jointText.intercalate
        ((chunks chunkSize elements).map fun chunk => (joined separator chunk).toList) ++ [']']) := by
  have hopening : ("ARRAY[" : String).toList = arrayOpening := by
    simp [arrayOpening]
  have hseparator : (" || " : String).toList = [' ', '|', '|', ' '] := by
    simp
  have hshift (bodies : List (List Char)) :
      ']' :: bodies.flatMap (fun body => [' ', '|', '|', ' '] ++ (arrayOpening ++ body ++ [']'])) =
        bodies.flatMap (jointText ++ ·) ++ [']'] := by
    induction bodies with
    | nil => rfl
    | cons body bodies ih =>
        rw [List.flatMap_cons, List.flatMap_cons, List.append_assoc (jointText ++ body), ← ih]
        simp [jointText, arrayOpening]
  have hmore := hshift ((chunks chunkSize (elements.drop chunkSize)).map
    fun chunk => (joined separator chunk).toList)
  rw [chunks_of_ne_nil chunkSize_ne_zero h, arrayText, toList_joined,
    chunks_of_ne_nil chunkSize_ne_zero h]
  simp only [List.map_cons, intercalate_cons_eq_flatMap, String.toList_append, hopening,
    hseparator, List.append_assoc, ← hmore]
  simp [arrayOpening, List.flatMap_map]

/-- Merging an array leaves its elements as one list. -/
theorem merge_chunks {bodies : List (List Char)} (hbodies : ∀ b ∈ bodies, ']' ∉ b) :
    merge (jointText.intercalate bodies ++ s) = [',', ' '].intercalate bodies ++ merge s := by
  have hrest (bodies : List (List Char)) (hbodies : ∀ b ∈ bodies, ']' ∉ b) :
      merge (bodies.flatMap (jointText ++ ·) ++ s) =
        bodies.flatMap ([',', ' '] ++ ·) ++ merge s := by
    induction bodies with
    | nil => rfl
    | cons b bodies ih =>
        have hb : ']' ∉ b := hbodies b List.mem_cons_self
        rw [List.flatMap_cons, List.append_assoc, List.append_assoc, merge_jointText,
          merge_append hb, ih fun c hc => hbodies c (List.mem_cons_of_mem b hc)]
        simp
  cases bodies with
  | nil => rfl
  | cons b bodies =>
      have hb : ']' ∉ b := hbodies b List.mem_cons_self
      rw [intercalate_cons_eq_flatMap, intercalate_cons_eq_flatMap, List.append_assoc,
        merge_append hb, hrest bodies fun c hc => hbodies c (List.mem_cons_of_mem b hc),
        List.append_assoc]

/-- The text of an array, merged up to its closing bracket. -/
theorem merge_arrayText {separator : String} {elements : List String}
    (hseparator : ']' ∉ separator.toList) (helements : ∀ e ∈ elements, ']' ∉ e.toList)
    (h : elements ≠ []) :
    merge ((arrayText separator elements).toList ++ s) =
      arrayOpening ++ (listText separator elements ++ merge (']' :: s)) := by
  have hbodies : ∀ b ∈ (chunks chunkSize elements).map
      fun chunk => (joined separator chunk).toList, ']' ∉ b := by
    intro b hb
    obtain ⟨chunk, hchunk, rfl⟩ := List.mem_map.mp hb
    exact notMem_chunk hseparator helements hchunk
  have hopening : ']' ∉ arrayOpening := by decide
  rw [toList_arrayText h, List.append_assoc, List.append_assoc, merge_append hopening,
    merge_chunks hbodies]
  rfl

/-- Merging the text of a map, up to the parenthesis that closes it. -/
theorem merge_mapText {keys values : List String} (hkeys : ∀ k ∈ keys, ']' ∉ k.toList)
    (hvalues : ∀ v ∈ values, ']' ∉ v.toList) (hkeysNil : keys ≠ []) (hvaluesNil : values ≠ []) :
    merge ((mapText keys values).toList ++ s) =
      mapOpening ++ (listText "," keys ++ ']' :: ([',', ' '] ++ (arrayOpening ++
        (listText ", " values ++ ']' :: ')' :: merge s)))) := by
  have hmap : ("MAP(" : String).toList = ['M', 'A', 'P', '('] := by simp
  have hcomma : (", " : String).toList = [',', ' '] := by simp
  have hparen : (")" : String).toList = [')'] := by simp
  have hend : merge (']' :: ')' :: s) = ']' :: ')' :: merge s := by
    rw [merge_cons rfl, merge_cons (joint?_eq_none_of_ne (by decide))]
  have hnext (t : List Char) : merge (']' :: ',' :: ' ' :: t) = ']' :: ',' :: ' ' :: merge t := by
    rw [merge_cons rfl, merge_cons (joint?_eq_none_of_ne (by decide)),
      merge_cons (joint?_eq_none_of_ne (by decide))]
  have hstart : ']' ∉ ['M', 'A', 'P', '('] := by decide
  rw [mapText]
  simp only [String.toList_append, hmap, hcomma, hparen, List.append_assoc]
  rw [merge_append hstart, merge_arrayText (by simp) hkeys hkeysNil]
  simp only [List.cons_append, List.nil_append]
  rw [hnext, merge_arrayText (by simp) hvalues hvaluesNil, hend]
  simp [mapOpening, arrayOpening]

/-! ### Reading the list of keys -/

/-- Further keys, written one after the other. -/
theorem KeyTail.append (keys : List String) {more : List String} {t : List Char}
    (h : KeyTail more t) :
    KeyTail (keys ++ more)
      (keys.flatMap (fun key => [','] ++ (quoteText key).toList) ++ t) := by
  induction keys with
  | nil => exact h
  | cons key keys ih =>
      have hnone : ∀ c ∈ ([] : List Char), Expr.isSpace c = true := by simp
      have hcons := KeyTail.cons key hnone hnone ih
      simpa [quoteText] using hcons

/-- Further chunks of keys, merged. -/
theorem keyTail_flatten {keyChunks : List (List String)} (h : ∀ chunk ∈ keyChunks, chunk ≠ []) :
    KeyTail keyChunks.flatten (keyChunks.flatMap fun chunk =>
      [',', ' '] ++ (joined "," (chunk.map quoteText)).toList) := by
  induction keyChunks with
  | nil =>
      exact .nil (by simp)
  | cons chunk rest ih =>
      have hrest := ih fun c hc => h c (List.mem_cons_of_mem chunk hc)
      cases chunk with
      | nil => exact absurd rfl (h [] List.mem_cons_self)
      | cons key keys =>
          have hnone : ∀ c ∈ ([] : List Char), Expr.isSpace c = true := by simp
          have hspace : ∀ c ∈ [' '], Expr.isSpace c = true := List.forall_mem_singleton.mpr rfl
          have hcons := KeyTail.cons key hnone hspace (hrest.append keys)
          have hcomma : ("," : String).toList = [','] := by simp
          rw [List.flatten_cons, List.flatMap_cons, toList_joined, List.map_cons, List.map_cons,
            intercalate_cons_eq_flatMap, hcomma]
          simpa [quoteText, List.flatMap_map] using hcons

/-- The list of the quoted keys of a map reads back as its keys. -/
theorem keysOfList?_listText (keys : List String) (h : keys ≠ []) :
    keysOfList? (listText "," (keys.map quoteText)) = some keys := by
  rw [listText, chunks_map, List.map_map]
  have hflatten : (chunks chunkSize keys).flatten = keys := flatten_chunks chunkSize_ne_zero
  have hchunks : ∀ chunk ∈ chunks chunkSize keys, chunk ≠ [] := fun _ => ne_nil_of_mem_chunks
  revert hflatten hchunks
  cases chunks chunkSize keys with
  | nil =>
      intro hflatten _
      exact absurd hflatten.symm h
  | cons chunk rest =>
      intro hflatten hchunks
      -- The first key opens the list, and every other one stands after a comma.
      cases chunk with
      | nil => exact absurd rfl (hchunks [] List.mem_cons_self)
      | cons key more =>
          have hrest := keyTail_flatten fun c hc => hchunks c (List.mem_cons_of_mem _ hc)
          have hnone : ∀ c ∈ ([] : List Char), Expr.isSpace c = true := by simp
          have hread := keysOfList?_append key hnone (hrest.append more)
          have hcomma : ("," : String).toList = [','] := by simp
          rw [← hflatten, List.flatten_cons, List.cons_append, ← hread, List.map_cons,
            intercalate_cons_eq_flatMap, Function.comp_apply, List.map_cons, toList_joined,
            List.map_cons, intercalate_cons_eq_flatMap, hcomma]
          simp [quoteText, List.flatMap_map]

end MapKeys
end CostView
