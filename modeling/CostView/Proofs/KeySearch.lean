import CostView.View.MapKeys
import Mathlib.Tactic

/-!
# Searching a text for the keys of a map

The search tries every place of the text, so it has to be shown of long stretches that it finds
nothing there.  Two observations do that.  What a place yields is decided by what follows the next
closing bracket, since the key list ends there; and no map opens in a text whose parentheses open
no array.
-/

namespace CostView
namespace MapKeys

open Text (isBlank dropFolded? sameFolded)

variable {column p s t w r : List Char}

/-! ### Characters that agree up to case -/

/-- Beyond ASCII nothing folds to a character before the small letter k. -/
theorem image_le_of_mem_foldingRuns : ∀ run ∈ Text.foldingRuns, 0x6B ≤ run.image := by
  decide +kernel

/-- Lowering changes letters only, and into letters. -/
theorem toLower_eq_or_isAlpha (n : Fin 128) :
    (Char.ofNat n).toLower = Char.ofNat n ∨ (Char.ofNat n).toLower.isAlpha = true := by
  revert n
  decide

/-- A number that is no character stands for the one numbered zero. -/
theorem toNat_ofNat_cases (n : Nat) : (Char.ofNat n).toNat = n ∨ (Char.ofNat n).toNat = 0 := by
  by_cases h : n.isValidChar
  · have hvalid : Char.ofNat n = Char.ofNatAux n h := dif_pos h
    rw [hvalid]
    exact Or.inl rfl
  · have hzero : Char.ofNat n = Char.ofNat 0 := dif_neg h
    rw [hzero]
    exact Or.inr rfl

/-- A character that is no letter agrees with itself only. -/
theorem eq_of_sameFolded {a b : Char} (ha : a.isAlpha = false)
    (hrange : 0 < a.toNat ∧ a.toNat < 0x6B) (h : sameFolded a b = true) : b = a := by
  have hlow : Text.fold a = a := by
    have hupper : ¬ (a.val ≥ 'A'.val ∧ a.val ≤ 'Z'.val) := by
      intro hletter
      have hisUpper : a.isUpper = true := decide_eq_true hletter
      have halpha : a.isAlpha = (a.isUpper || a.isLower) := rfl
      rw [halpha, hisUpper] at ha
      cases ha
    have hlower : a.toLower = a := dif_neg hupper
    rw [Text.fold, if_pos (by omega), hlower]
  have hfold : a = Text.fold b := by
    rw [← hlow]
    simpa [sameFolded] using h
  rw [Text.fold] at hfold
  split at hfold
  · next hascii =>
      have hletter := toLower_eq_or_isAlpha ⟨b.toNat, hascii⟩
      rw [Char.ofNat_toNat, ← hfold, ha] at hletter
      rcases hletter with hsame | habsurd
      · exact hsame.symm
      · cases habsurd
  · split at hfold
    · next run hrun =>
        -- What is folded by a run lands beyond the range.
        have himage := image_le_of_mem_foldingRuns run (List.mem_of_find?_eq_some hrun)
        have hnat : a.toNat = (Char.ofNat (run.image + (b.toNat - run.first))).toNat :=
          congrArg Char.toNat hfold
        rcases toNat_ofNat_cases (run.image + (b.toNat - run.first)) with hvalue | hzero <;> omega
    · exact hfold.symm

/-! ### Up to the next closing bracket -/

/-- `t` ends where `r` begins, after the first closing bracket of `t`. -/
def Before (r t : List Char) : Prop :=
  ∃ w, ']' ∉ w ∧ t = w ++ ']' :: r

theorem before_dropFolded? (hp : p.any (sameFolded · ']') = false) (hs : Before r s)
    (h : dropFolded? p s = some t) : Before r t := by
  induction p generalizing s with
  | nil =>
      rw [dropFolded?, Option.some.injEq] at h
      rwa [← h]
  | cons a p ih =>
      obtain ⟨w, hw, rfl⟩ := hs
      rw [List.any_cons, Bool.or_eq_false_iff] at hp
      cases w with
      | nil => simp [dropFolded?, hp.1] at h
      | cons b w =>
          rw [List.cons_append, dropFolded?] at h
          split at h
          · have hrest : Before r (w ++ ']' :: r) :=
              ⟨w, fun hmem => hw (List.mem_cons_of_mem b hmem), rfl⟩
            exact ih hp.2 hrest h
          · cases h

theorem before_skipBlanks (hs : Before r s) : Before r (skipBlanks s) := by
  obtain ⟨w, hw, rfl⟩ := hs
  induction w with
  | nil => exact ⟨[], by simp, rfl⟩
  | cons b w ih =>
      have hrest : ']' ∉ w := fun hmem => hw (List.mem_cons_of_mem b hmem)
      rw [List.cons_append, skipBlanks, List.dropWhile_cons]
      split
      · exact ih hrest
      · exact ⟨b :: w, hw, rfl⟩

theorem before_word? (hp : p.any (sameFolded · ']') = false) (hs : Before r s)
    (h : word? p s = some t) : Before r t :=
  before_dropFolded? hp (before_skipBlanks hs) h

theorem before_openArray? (hs : Before r s) (h : openArray? s = some t) : Before r t := by
  rw [openArray?, Option.bind_eq_some_iff] at h
  obtain ⟨u, hu, ht⟩ := h
  exact before_word? (by decide) (before_word? (by decide) hs hu) ht

theorem upToBracket?_append (hw : ']' ∉ w) : upToBracket? (w ++ ']' :: r) = some (w, r) := by
  have hall : ∀ a ∈ w, (decide (a ≠ ']')) = true := by
    intro a ha
    rw [decide_eq_true_eq]
    rintro rfl
    exact hw ha
  rw [upToBracket?, List.dropWhile_append_of_pos hall, List.takeWhile_append_of_pos hall]
  simp

/-! ### Places -/

/-- What follows the opening of a map whose keys are a literal array. -/
def opening? (s : List Char) : Option (List Char) :=
  ((dropFolded? ['M', 'A', 'P'] s).bind (word? ['('])).bind openArray?

/-- What follows a key list with its values, the end of the map and the word before its alias. -/
def closing? (s : List Char) : Option (List Char) :=
  (((word? [','] s).bind openArray?).bind upToBracket?).bind fun values =>
    (word? [')'] values.2).bind asWord?

/-- Whether the map whose key list ends here is given to the column. -/
def closesFor (column s : List Char) : Bool :=
  (closing? s).any (isAlias column)

/-- The key list of a place ends at the next closing bracket, and the rest decides. -/
theorem keyListHere?_eq (column s : List Char) :
    keyListHere? column s =
      (opening? s).bind fun t => (upToBracket? t).bind fun p =>
        if closesFor column p.2 then some p.1 else none := by
  have hclosing (keys s : List Char) :
      ((closing? s).bind fun t => if isAlias column t = true then some keys else none) =
        if closesFor column s = true then some keys else none := by
    rw [closesFor]
    cases closing? s <;> simp
  simp only [← hclosing, keyListHere?, opening?, closing?, Option.bind_eq_bind, Option.bind_assoc]

theorem before_opening? (hs : Before r s) (h : opening? s = some t) : Before r t := by
  rw [opening?, Option.bind_eq_some_iff] at h
  obtain ⟨u, hu, ht⟩ := h
  rw [Option.bind_eq_some_iff] at hu
  obtain ⟨v, hv, hu⟩ := hu
  exact before_openArray?
    (before_word? (by decide) (before_dropFolded? (by decide) hs hv) hu) ht

theorem keyListHere?_eq_none (hw : ']' ∉ w) (hr : closesFor column r = false) :
    keyListHere? column (w ++ ']' :: r) = none := by
  rw [keyListHere?_eq]
  cases hopening : opening? (w ++ ']' :: r) with
  | none => rfl
  | some t =>
      obtain ⟨keys, hkeys, rfl⟩ := before_opening? ⟨w, hw, rfl⟩ hopening
      rw [Option.bind_some, upToBracket?_append hkeys, Option.bind_some, hr]
      rfl

/-- No place before a closing bracket yields keys unless the map goes on to be given to the
column. -/
theorem keyList?_skip (hw : ']' ∉ w) (hr : closesFor column r = false) :
    keyList? column (w ++ ']' :: r) = keyList? column r := by
  induction w with
  | nil =>
      rw [List.nil_append, keyList?]
      have hhere := keyListHere?_eq_none (w := []) (by simp) hr
      rw [List.nil_append] at hhere
      rw [hhere]
  | cons a w ih =>
      have hhere := keyListHere?_eq_none hw hr
      rw [List.cons_append] at hhere ⊢
      rw [keyList?, hhere]
      exact ih fun hmem => hw (List.mem_cons_of_mem a hmem)

/-! ### Texts without a closing bracket -/

theorem dropFolded?_split (h : dropFolded? p s = some t) :
    ∃ m, s = m ++ t ∧ m.length = p.length ∧ ∀ b ∈ m, ∃ a ∈ p, sameFolded a b = true := by
  induction p generalizing s with
  | nil =>
      rw [dropFolded?, Option.some.injEq] at h
      exact ⟨[], by simp [h]⟩
  | cons a p ih =>
      cases s with
      | nil => simp [dropFolded?] at h
      | cons b s =>
          rw [dropFolded?] at h
          split at h
          · next hab =>
              obtain ⟨m, rfl, hlength, hm⟩ := ih h
              refine ⟨b :: m, rfl, by simp [hlength], fun d hd => ?_⟩
              rcases List.mem_cons.mp hd with rfl | hd
              · exact ⟨a, List.mem_cons_self, hab⟩
              · obtain ⟨e, he, hed⟩ := hm d hd
                exact ⟨e, List.mem_cons_of_mem a he, hed⟩
          · cases h

theorem suffix_dropFolded? (h : dropFolded? p s = some t) : t <:+ s := by
  obtain ⟨m, rfl, -, -⟩ := dropFolded?_split h
  exact List.suffix_append m t

theorem suffix_word? (h : word? p s = some t) : t <:+ s :=
  (suffix_dropFolded? h).trans (List.dropWhile_suffix isBlank)

theorem suffix_openArray? (h : openArray? s = some t) : t <:+ s := by
  rw [openArray?, Option.bind_eq_some_iff] at h
  obtain ⟨u, hu, ht⟩ := h
  exact (suffix_word? ht).trans (suffix_word? hu)

theorem suffix_opening? (h : opening? s = some t) : t <:+ s := by
  rw [opening?, Option.bind_eq_some_iff] at h
  obtain ⟨u, hu, ht⟩ := h
  rw [Option.bind_eq_some_iff] at hu
  obtain ⟨v, hv, hu⟩ := hu
  exact (suffix_openArray? ht).trans ((suffix_word? hu).trans (suffix_dropFolded? hv))

theorem upToBracket?_eq_none (hs : ']' ∉ s) : upToBracket? s = none := by
  have hall : ∀ a ∈ s, (decide (a ≠ ']')) = true := by
    intro a ha
    rw [decide_eq_true_eq]
    rintro rfl
    exact hs ha
  rw [upToBracket?, ← List.append_nil s, List.dropWhile_append_of_pos hall]
  rfl

/-- A text without a closing bracket yields no keys. -/
theorem keyList?_eq_none (hs : ']' ∉ s) : keyList? column s = none := by
  have hhere (s : List Char) (hs : ']' ∉ s) : keyListHere? column s = none := by
    rw [keyListHere?_eq]
    cases hopening : opening? s with
    | none => rfl
    | some t =>
        have ht : ']' ∉ t := fun hmem => hs ((suffix_opening? hopening).subset hmem)
        rw [Option.bind_some, upToBracket?_eq_none ht]
        rfl
  induction s with
  | nil => rfl
  | cons a s ih =>
      rw [keyList?, hhere (a :: s) hs]
      exact ih fun hmem => hs (List.mem_cons_of_mem a hmem)

/-! ### Texts that open no map -/

/-- Whether every opening parenthesis is followed by a character that begins no array. -/
def isQuiet : List Char → Bool
  | [] => true
  | [c] => c ≠ '('
  | c :: d :: rest => (c ≠ '(' || !(isBlank d || sameFolded 'A' d)) && isQuiet (d :: rest)

theorem isQuiet_append (hs : isQuiet s = true) (ht : isQuiet t = true) :
    isQuiet (s ++ t) = true := by
  induction s with
  | nil => exact ht
  | cons c s ih =>
      cases s with
      | nil =>
          cases t with
          | nil => exact hs
          | cons d t =>
              have hc : c ≠ '(' := by simpa [isQuiet] using hs
              simpa [isQuiet, hc] using ht
      | cons d s =>
          rw [isQuiet, Bool.and_eq_true] at hs
          rw [List.cons_append, List.cons_append, isQuiet, Bool.and_eq_true]
          exact ⟨hs.1, ih hs.2⟩

theorem isQuiet_of_not_mem (hs : '(' ∉ s) : isQuiet s = true := by
  induction s with
  | nil => rfl
  | cons c s ih =>
      have hc : c ≠ '(' := fun heq => hs (heq ▸ List.mem_cons_self)
      have hrest : isQuiet s = true := ih fun hmem => hs (List.mem_cons_of_mem c hmem)
      cases s with
      | nil => simpa [isQuiet] using hc
      | cons d s => simpa [isQuiet, hc] using hrest

/-- After a parenthesis of a quiet text no array opens. -/
theorem openArray?_eq_none_of_isQuiet {before after : List Char}
    (h : isQuiet (before ++ '(' :: after) = true) (rest : List Char) :
    openArray? (after ++ rest) = none := by
  induction before with
  | nil =>
      cases after with
      | nil => simp [isQuiet] at h
      | cons d after =>
          rw [List.nil_append, isQuiet, Bool.and_eq_true] at h
          have hd : isBlank d = false ∧ sameFolded 'A' d = false := by simpa using h.1
          simp [openArray?, word?, skipBlanks, dropFolded?, hd.1, hd.2]
  | cons b before ih =>
      refine ih ?_
      cases before with
      | nil =>
          rw [List.cons_append, List.nil_append, isQuiet, Bool.and_eq_true] at h
          exact h.2
      | cons d before =>
          rw [List.cons_append, List.cons_append, isQuiet, Bool.and_eq_true] at h
          exact h.2

/-- Where a map opens, three letters and some blanks stand before the first parenthesis, and an
array opens after it. -/
theorem opening?_split (h : opening? s = some t) :
    ∃ letters blanks rest, s = letters ++ blanks ++ '(' :: rest ∧ letters.length = 3 ∧
      '(' ∉ letters ++ blanks ∧ blanks.all isBlank = true ∧ openArray? rest = some t := by
  rw [opening?, Option.bind_eq_some_iff] at h
  obtain ⟨rest, hrest, harray⟩ := h
  rw [Option.bind_eq_some_iff] at hrest
  obtain ⟨u, hu, hrest⟩ := hrest
  obtain ⟨letters, rfl, hlength, hletters⟩ := dropFolded?_split hu
  obtain ⟨paren, hparen, hone, hfolded⟩ := dropFolded?_split hrest
  obtain ⟨x, rfl⟩ := List.length_eq_one_iff.mp hone
  obtain rfl : x = '(' := by
    obtain ⟨a, ha, hsame⟩ := hfolded x List.mem_cons_self
    rw [List.mem_singleton] at ha
    subst ha
    exact eq_of_sameFolded (by decide) (by decide) hsame
  have hblanks : (u.takeWhile isBlank).all isBlank = true := List.all_takeWhile
  refine ⟨letters, u.takeWhile isBlank, rest, ?_, hlength, ?_, hblanks, harray⟩
  · rw [List.append_assoc, ← List.singleton_append, ← hparen, skipBlanks,
      List.takeWhile_append_dropWhile]
  · rw [List.mem_append]
    rintro (hmem | hmem)
    · have hnone : ['M', 'A', 'P'].any (sameFolded · '(') = false := by decide
      obtain ⟨a, ha, hsame⟩ := hletters '(' hmem
      exact List.any_eq_false.mp hnone a ha hsame
    · have hparenBlank := List.all_eq_true.mp hblanks _ hmem
      revert hparenBlank
      decide

/-- A text is cut in one way only at the first occurrence of a character. -/
theorem append_cons_inj {c : Char} {u v x y : List Char} (hu : c ∉ u) (hv : c ∉ v)
    (h : u ++ c :: x = v ++ c :: y) : u = v ∧ x = y := by
  induction u generalizing v with
  | nil =>
      cases v with
      | nil => simpa using h
      | cons d v =>
          rw [List.nil_append, List.cons_append, List.cons.injEq] at h
          exact absurd (h.1 ▸ List.mem_cons_self) hv
  | cons d u ih =>
      cases v with
      | nil =>
          rw [List.nil_append, List.cons_append, List.cons.injEq] at h
          exact absurd (h.1 ▸ List.mem_cons_self) hu
      | cons e v =>
          rw [List.cons_append, List.cons_append, List.cons.injEq] at h
          have hrest := ih (fun hmem => hu (List.mem_cons_of_mem d hmem))
            (fun hmem => hv (List.mem_cons_of_mem e hmem)) h.2
          exact ⟨by rw [h.1, hrest.1], hrest.2⟩

/-- A quiet text that is followed by a map opens no map on its own. -/
theorem opening?_eq_none_of_isQuiet {a : Char} (h : isQuiet (a :: w) = true) :
    opening? (a :: w ++ 'M' :: 'A' :: 'P' :: '(' :: r) = none := by
  cases hopening : opening? (a :: w ++ 'M' :: 'A' :: 'P' :: '(' :: r) with
  | none => rfl
  | some t =>
      exfalso
      obtain ⟨letters, blanks, rest, hsplit, hlength, hparen, hblanks, harray⟩ :=
        opening?_split hopening
      by_cases hmem : '(' ∈ a :: w
      · -- The first parenthesis is one of the quiet text, and no array opens after it.
        obtain ⟨before, after, hw, hbefore⟩ := List.eq_append_cons_of_mem hmem
        rw [hw, List.append_assoc, List.cons_append] at hsplit
        obtain ⟨-, hrest⟩ := append_cons_inj hbefore hparen hsplit
        rw [hw] at h
        rw [← hrest, openArray?_eq_none_of_isQuiet h] at harray
        cases harray
      · -- The first parenthesis is that of the map, and just three letters stand before it.
        have hfirst : '(' ∉ a :: w ++ ['M', 'A', 'P'] := by
          rw [List.mem_append]
          rintro (hleft | hright)
          · exact hmem hleft
          · revert hright
            decide
        have hsame : a :: w ++ ['M', 'A', 'P'] ++ '(' :: r = letters ++ blanks ++ '(' :: rest := by
          simpa using hsplit
        obtain ⟨hwhole, -⟩ := append_cons_inj hfirst hparen hsame
        have hlast : 'P' ∈ blanks := by
          have hlengths := congrArg List.length hwhole
          simp only [List.length_append, List.length_cons, List.length_nil, hlength] at hlengths
          have hne : blanks ≠ [] := by
            rintro rfl
            simp at hlengths
          have hget : blanks.getLast? = some 'P' := by
            rw [← List.getLast?_append_of_ne_nil letters hne, ← hwhole,
              show a :: w ++ ['M', 'A', 'P'] = a :: w ++ ['M', 'A'] ++ ['P'] by simp,
              List.getLast?_concat]
          exact List.mem_of_getLast? hget
        have hblank := List.all_eq_true.mp hblanks _ hlast
        revert hblank
        decide

theorem isQuiet_tail {a : Char} (h : isQuiet (a :: w) = true) : isQuiet w = true := by
  cases w with
  | nil => rfl
  | cons b w =>
      rw [isQuiet, Bool.and_eq_true] at h
      exact h.2

/-- The text that opens a map whose keys are a literal array. -/
def mapOpening : List Char := ['M', 'A', 'P', '(', 'A', 'R', 'R', 'A', 'Y', '[']

theorem opening?_mapOpening (s : List Char) : opening? (mapOpening ++ s) = some s := rfl

/-- The first map after a quiet text yields its key list if it is given to the column. -/
theorem keyList?_found {quiet keys : List Char} (hquiet : isQuiet quiet = true)
    (hkeys : ']' ∉ keys) (hr : closesFor column r = true) :
    keyList? column (quiet ++ (mapOpening ++ (keys ++ ']' :: r))) = some keys := by
  induction quiet with
  | nil =>
      have hhere : keyListHere? column (mapOpening ++ (keys ++ ']' :: r)) = some keys := by
        rw [keyListHere?_eq, opening?_mapOpening, Option.bind_some, upToBracket?_append hkeys,
          Option.bind_some, if_pos hr]
      rw [mapOpening, List.cons_append] at hhere
      rw [List.nil_append, mapOpening, List.cons_append, keyList?, hhere]
  | cons a w ih =>
      have hhere : keyListHere? column
          (a :: w ++ (mapOpening ++ (keys ++ ']' :: r))) = none := by
        have hnone := opening?_eq_none_of_isQuiet
          (r := ['A', 'R', 'R', 'A', 'Y', '['] ++ (keys ++ ']' :: r)) hquiet
        rw [keyListHere?_eq, mapOpening]
        simp only [List.cons_append, List.nil_append] at hnone ⊢
        rw [hnone]
        rfl
      rw [List.cons_append] at hhere ⊢
      rw [keyList?, hhere]
      exact ih (isQuiet_tail hquiet)

/-! ### Merging chunks -/

theorem merge_cons {a : Char} (h : joint? (a :: s) = none) : merge (a :: s) = a :: merge s := by
  rw [merge]
  split
  · next hjoint => rw [h] at hjoint; cases hjoint
  · rfl

theorem joint?_eq_none_of_ne {a : Char} (h : a ≠ ']') : joint? (a :: s) = none := by
  have hfold : sameFolded ']' a = false := by
    by_contra hsame
    exact h (eq_of_sameFolded (by decide) (by decide) (by simpa using hsame))
  simp [joint?, dropFolded?, hfold]

/-- Before the first closing bracket nothing is merged. -/
theorem merge_append (hw : ']' ∉ w) : merge (w ++ s) = w ++ merge s := by
  induction w with
  | nil => rfl
  | cons a w ih =>
      have ha : a ≠ ']' := fun heq => hw (heq ▸ List.mem_cons_self)
      rw [List.cons_append, merge_cons (joint?_eq_none_of_ne ha),
        ih fun hmem => hw (List.mem_cons_of_mem a hmem), List.cons_append]

theorem merge_nil : merge [] = [] := by
  rw [merge]
  rfl

theorem merge_eq_self (hw : ']' ∉ w) : merge w = w := by
  rw [← List.append_nil w, merge_append hw, merge_nil]

/-- The text between two chunks of an array. -/
def jointText : List Char := [']', ' ', '|', '|', ' ', 'A', 'R', 'R', 'A', 'Y', '[']

theorem joint?_jointText (s : List Char) : joint? (jointText ++ s) = some s := rfl

/-- Where chunks are joined a comma and a space are left. -/
theorem merge_of_joint? (h : joint? s = some t) : merge s = ',' :: ' ' :: merge t := by
  rw [merge]
  split
  · next rest hjoint =>
      rw [h, Option.some.injEq] at hjoint
      rw [hjoint]
  · next hjoint =>
      rw [h] at hjoint
      cases hjoint

theorem merge_jointText (s : List Char) :
    merge (jointText ++ s) = [',', ' '] ++ merge s :=
  merge_of_joint? (joint?_jointText s)

end MapKeys
end CostView
