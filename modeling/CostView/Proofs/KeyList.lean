import CostView.Proofs.KeySearch
import CostView.Proofs.QuotedText
import CostView.View.Definition

/-!
# The text of an assembled map

An assembled map is written as an array of keys and one of values, each cut into chunks.  Merging
the chunks leaves one list of each, and the list of keys reads back as the keys that were written,
whatever the boundaries of the chunks and whatever stands inside the quotes.
-/

namespace CostView

namespace Expr

variable {s t w : List Char}

theorem skipSpaces_append (hw : ∀ a ∈ w, isSpace a = true) :
    skipSpaces (w ++ s) = skipSpaces s :=
  List.dropWhile_append_of_pos hw

/-- Skipping finds the character that stands behind the white space. -/
theorem skipTo?_of_skipSpaces {c : Char} (h : skipSpaces s = c :: t) :
    ∃ shorter, skipTo? c s = some ⟨t, shorter⟩ := by
  have hshorter : t.length < s.length := by
    have := length_skipSpaces_le s
    rw [h, List.length_cons] at this
    omega
  refine ⟨hshorter, ?_⟩
  rw [skipTo?]
  split
  · next d rest hskip =>
      rw [h, List.cons.injEq] at hskip
      obtain ⟨rfl, rfl⟩ := hskip
      rw [if_pos rfl]
  · next hskip =>
      rw [h] at hskip
      cases hskip

theorem skipTo?_append {c : Char} (hw : ∀ a ∈ w, isSpace a = true) (hc : isSpace c = false) :
    ∃ shorter, skipTo? c (w ++ c :: s) = some ⟨s, shorter⟩ := by
  apply skipTo?_of_skipSpaces
  rw [skipSpaces_append hw, skipSpaces, List.dropWhile_cons, if_neg (by simp [hc])]

/-! ### What readers leave -/

theorem suffix_skipTo? {c : Char} {p : { t : List Char // t.length < s.length }}
    (h : skipTo? c s = some p) : c :: p.1 <:+ s := by
  rw [skipTo?] at h
  split at h
  · next d rest hskip =>
      split at h
      · next hd =>
          cases h
          rw [← hd, ← hskip]
          exact List.dropWhile_suffix isSpace
      · cases h
  · cases h

end Expr

namespace MapKeys

open CostView.Expr (isSpace skipSpaces)

variable {column s t w r : List Char}

/-! ### Lists of quoted keys -/

/-- The text of a list of keys after its first: each after a comma, with spaces around it. -/
inductive KeyTail : List String → List Char → Prop
  | nil {spaces : List Char} (hspaces : ∀ c ∈ spaces, isSpace c = true) : KeyTail [] spaces
  | cons (key : String) {keys : List String} {before after rest : List Char}
      (hbefore : ∀ c ∈ before, isSpace c = true) (hafter : ∀ c ∈ after, isSpace c = true)
      (htail : KeyTail keys rest) :
      KeyTail (key :: keys)
        (before ++ ',' :: (after ++ (Text.Quoted.enclose '\'' key.toList ++ rest)))

theorem KeyTail.head?_ne {keys : List String} (h : KeyTail keys t) : t.head? ≠ some '\'' := by
  have hspace {c : Char} (hc : isSpace c = true) : c ≠ '\'' := by
    rintro rfl
    revert hc
    decide
  cases h with
  | nil hspaces =>
      cases t with
      | nil => simp
      | cons c t => simpa using hspace (hspaces c List.mem_cons_self)
  | @cons key keys before after rest hbefore _ _ =>
      cases before with
      | nil => simp
      | cons c before => simpa using hspace (hbefore c List.mem_cons_self)

/-- After white space a key reads back. -/
theorem readQuoted?_skipSpaces {keys : List String} (hw : ∀ c ∈ w, isSpace c = true)
    (h : KeyTail keys t) (key : String) :
    ∃ shorter,
      Expr.readQuoted? '\'' (skipSpaces (w ++ (Text.Quoted.enclose '\'' key.toList ++ t))) =
      some ⟨key, t, shorter⟩ := by
  have hskip : skipSpaces (w ++ (Text.Quoted.enclose '\'' key.toList ++ t)) =
      Text.Quoted.enclose '\'' key.toList ++ t := by
    rw [Expr.skipSpaces_append hw]
    rfl
  rw [hskip]
  obtain ⟨shorter, hread⟩ := Expr.readQuoted?_enclose h.head?_ne key.toList
  refine ⟨shorter, ?_⟩
  rw [hread, String.ofList_toList]

/-- Reading goes on to the end of the list. -/
theorem KeyTail.moreKeys?_eq {keys : List String} (h : KeyTail keys t) :
    MapKeys.moreKeys? t = some keys := by
  induction h with
  | @nil spaces hspaces =>
      have hskip : skipSpaces spaces = [] := by
        rw [← List.append_nil spaces, Expr.skipSpaces_append hspaces]
        rfl
      have hnone : Expr.skipTo? ',' spaces = none := by
        rw [Expr.skipTo?]
        split
        · next hcons =>
            rw [hskip] at hcons
            cases hcons
        · rfl
      rw [MapKeys.moreKeys?, hnone]
      simp [hskip]
  | @cons key keys before after rest hbefore hafter htail ih =>
      obtain ⟨_, hcomma⟩ := Expr.skipTo?_append
        (s := after ++ (Text.Quoted.enclose '\'' key.toList ++ rest)) hbefore
        (show isSpace ',' = false by decide)
      obtain ⟨_, hread⟩ := readQuoted?_skipSpaces hafter htail key
      rw [MapKeys.moreKeys?, hcomma]
      simp only [hread, ih, Option.map_some]

/-- A list of at least one key reads back as its keys. -/
theorem keysOfList?_append (key : String) {keys : List String}
    (hw : ∀ c ∈ w, isSpace c = true) (h : KeyTail keys t) :
    keysOfList? (w ++ (Text.Quoted.enclose '\'' key.toList ++ t)) = some (key :: keys) := by
  obtain ⟨_, hread⟩ := readQuoted?_skipSpaces hw h key
  rw [keysOfList?]
  simp only [hread, h.moreKeys?_eq, Option.map_some]

/-! ### Where the characters of a key come from -/

theorem subset_of_moreKeys? {keys : List String} (h : MapKeys.moreKeys? s = some keys) :
    ∀ key ∈ keys, key.toList ⊆ s := by
  induction hlength : s.length using Nat.strong_induction_on generalizing s keys with
  | _ length ih =>
      rw [MapKeys.moreKeys?] at h
      split at h
      · split at h
        · cases h
          simp
        · cases h
      · next rest hrest hcomma =>
          split at h
          · cases h
          · next key hkey =>
              obtain ⟨more, hmore, rfl⟩ := Option.map_eq_some_iff.mp h
              obtain ⟨hvalue, htail⟩ := Expr.of_readQuoted? hkey
              have hbefore : skipSpaces rest <:+ s :=
                ((List.dropWhile_suffix isSpace).trans (List.suffix_cons ',' rest)).trans
                  (Expr.suffix_skipTo? hcomma)
              have hshorter : key.rest.length < length := by
                have hskipped := Expr.length_skipSpaces_le rest
                have hread := key.shorter
                omega
              intro k hk
              rcases List.mem_cons.mp hk with rfl | hk
              · exact List.Subset.trans hvalue hbefore.subset
              · exact List.Subset.trans (ih _ hshorter hmore rfl k hk) (htail.trans hbefore).subset

theorem subset_of_keysOfList? {keys : List String} (h : keysOfList? s = some keys) :
    ∀ key ∈ keys, key.toList ⊆ s := by
  rw [keysOfList?] at h
  split at h
  · split at h
    · cases h
      simp
    · cases h
  · next key hkey =>
      obtain ⟨more, hmore, rfl⟩ := Option.map_eq_some_iff.mp h
      obtain ⟨hvalue, htail⟩ := Expr.of_readQuoted? hkey
      have hbefore : skipSpaces s <:+ s := List.dropWhile_suffix isSpace
      intro k hk
      rcases List.mem_cons.mp hk with rfl | hk
      · exact List.Subset.trans hvalue hbefore.subset
      · exact List.Subset.trans (subset_of_moreKeys? hmore k hk) (htail.trans hbefore).subset

theorem notMem_of_keyList? {keys : List Char} (h : keyList? column s = some keys) :
    ']' ∉ keys := by
  have hhere (s : List Char) (h : keyListHere? column s = some keys) : ']' ∉ keys := by
    rw [keyListHere?_eq, Option.bind_eq_some_iff] at h
    obtain ⟨t, -, h⟩ := h
    rw [Option.bind_eq_some_iff] at h
    obtain ⟨p, hp, h⟩ := h
    split at h
    · cases h
      rw [upToBracket?] at hp
      split at hp
      · cases hp
      · cases hp
        intro hmem
        simpa using List.all_eq_true.mp List.all_takeWhile _ hmem
    · cases h
  induction s with
  | nil => cases h
  | cons a s ih =>
      rw [keyList?] at h
      split at h
      · next hfound =>
          cases h
          exact hhere _ hfound
      · exact ih h

/-- No key that is read back holds a closing bracket, whatever the text is. -/
theorem notMem_of_parse? {sql name key : String} {keys : List String}
    (h : parse? sql name = some keys) (hkey : key ∈ keys) : ']' ∉ key.toList := by
  rw [parse?, Option.bind_eq_some_iff] at h
  obtain ⟨list, hlist, hkeys⟩ := h
  exact fun hmem => notMem_of_keyList? hlist (subset_of_keysOfList? hkeys key hkey hmem)

end MapKeys
end CostView
