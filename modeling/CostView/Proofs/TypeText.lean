import CostView.Proofs.PlainName
import CostView.Proofs.Trimming
import CostView.SqlType

/-!
# Types as text

The type of a column is kept as text, and it is read back from that text.  A type that is no map is
read back as it was.  A map is written as `map(varchar, ` and the text of its values and a bracket,
but of what stands behind the comma all closing brackets at the end are dropped.  For maps in maps
that does no harm, since their brackets are no part of what is read.  The text of the innermost
values, however, may end in a bracket of its own, and then it loses that bracket each time.
-/

namespace CostView

namespace SqlType

variable {s t v : List Char} {n : Nat} {type : SqlType}

/-! ### What a text names -/

/-- A type that is none of the known ones keeps its text, without the blanks around it. -/
theorem eq_of_ofChars_eq_other {text : String} (h : ofChars s = .other text) :
    text = String.ofList (Text.trim s) := by
  rw [ofChars] at h
  split at h
  all_goals first | cases h | skip
  · split at h <;> cases h
  · rfl

theorem ofChars_trim (s : List Char) : ofChars (Text.trim s) = ofChars s := by
  rw [ofChars, ofChars, Text.trim_trim]

theorem ofChars_eq_map (hbase : baseName (Text.lower (Text.trim s)) = "map")
    (hvalue : mapValue? (Text.lower (Text.trim s)) = some v) : ofChars s = .map (ofChars v) := by
  rw [ofChars]
  simp only [hbase]
  split
  · next value h =>
      rw [hvalue] at h
      rw [Option.some.inj h]
  · next h =>
      rw [hvalue] at h
      cases h

theorem of_ofChars_eq_map (h : ofChars s = .map type) :
    type = .varchar ∨ ∃ v, mapValue? (Text.lower (Text.trim s)) = some v ∧ type = ofChars v := by
  rw [ofChars] at h
  split at h
  all_goals first | cases h | skip
  split at h
  · next value hvalue =>
      cases h
      exact Or.inr ⟨value, hvalue, rfl⟩
  · cases h
    exact Or.inl rfl

theorem mem_of_mapValue? (h : mapValue? s = some v) {c : Char} (hc : c ∈ v) : c ∈ s := by
  have hparameters : parameters s ⊆ s := by
    intro x hx
    rw [parameters, List.mem_reverse] at hx
    have hback := List.mem_reverse.mp ((List.dropWhile_suffix _).subset hx)
    exact (List.dropWhile_suffix _).subset (List.mem_of_mem_drop hback)
  rw [mapValue?] at h
  split at h
  · cases h
  · next first rest hsplit =>
      cases h
      apply hparameters
      apply (List.dropWhile_suffix (· ≠ ',')).subset
      rw [hsplit]
      exact List.mem_cons_of_mem _ hc

/-! ### Texts in lower case -/

theorem lower_eq_self_iff : Text.lower s = s ↔ ∀ c ∈ s, c.toLower = c := by
  rw [Text.lower]
  induction s with
  | nil => simp
  | cons c s ih => simp [ih]

/-- Every part of such a text is in lower case. -/
theorem lower_of_subset (hs : Text.lower s = s) (h : t ⊆ s) : Text.lower t = t := by
  rw [lower_eq_self_iff] at hs ⊢
  exact fun c hc => hs c (h hc)

theorem lower_lower (s : List Char) : Text.lower (Text.lower s) = Text.lower s := by
  rw [lower_eq_self_iff]
  intro c hc
  obtain ⟨d, -, rfl⟩ := List.mem_map.mp hc
  exact (toLower_spec d).1

/-! ### The end of a text -/

/-- A text without the blanks at its end and without the closing brackets before those. -/
def cut (s : List Char) : List Char :=
  (s.rdropWhile Text.isBlank).rdropWhile isClosing

theorem cut_prefix_self (s : List Char) : cut s <+: s :=
  (List.rdropWhile_prefix _ _).trans (List.rdropWhile_prefix _ s)

theorem iterate_cut_prefix_self (s : List Char) (k : Nat) : cut^[k] s <+: s := by
  induction k generalizing s with
  | zero => exact List.prefix_rfl
  | succ k ih => exact (ih (cut s)).trans (cut_prefix_self s)

/-- A blank at the front stays there, unless nothing is left behind it. -/
theorem cut_cons_blank (s : List Char) :
    cut (' ' :: s) = ' ' :: cut s ∨ cut (' ' :: s) = cut s := by
  by_cases hnil : s.rdropWhile Text.isBlank = []
  · right
    have hblank := Text.rdropWhile_append_of_eq_nil [' '] hnil
    rw [List.singleton_append] at hblank
    rw [cut, cut, hblank, hnil]
    rfl
  · left
    have hblank := Text.rdropWhile_append_of_ne_nil [' '] hnil
    have hclosing : isClosing ' ' = false := rfl
    rw [List.singleton_append] at hblank
    rw [cut, hblank]
    exact Text.rdropWhile_append [] hclosing _

/-- So it does not matter to what is read. -/
theorem ofChars_iterate_cut_cons (s : List Char) (k : Nat) :
    ofChars (cut^[k] (' ' :: s)) = ofChars (cut^[k] s) := by
  induction k generalizing s with
  | zero =>
      have htrim : Text.trim (' ' :: s) = Text.trim s := rfl
      rw [Function.iterate_zero_apply, Function.iterate_zero_apply, ← ofChars_trim, htrim,
        ofChars_trim]
  | succ k ih =>
      rw [Function.iterate_succ_apply, Function.iterate_succ_apply]
      rcases cut_cons_blank s with hblank | hnone
      · rw [hblank, ih]
      · rw [hnone]

theorem cut_append_replicate (s : List Char) (n : Nat) :
    cut (s ++ List.replicate (n + 1) ')') = s.rdropWhile isClosing := by
  have hblank : (s ++ List.replicate (n + 1) ')').rdropWhile Text.isBlank =
      s ++ List.replicate (n + 1) ')' := by
    rw [List.replicate_succ', ← List.append_assoc]
    exact List.rdropWhile_concat_neg _ _ _ (by decide)
  rw [cut, hblank]
  apply Text.rdropWhile_append_of_eq_nil
  rw [List.rdropWhile_eq_nil_iff]
  intro c hc
  rw [List.eq_of_mem_replicate hc]
  rfl

/-! ### The start of the text of a map -/

/-- How the text of a map starts. -/
def opening : List Char :=
  "map(varchar,".toList

/-- The comma at its end stops what is dropped. -/
theorem rdropWhile_opening {p : Char → Bool} (hp : p ',' = false) (s : List Char) :
    (opening ++ s).rdropWhile p = opening ++ s.rdropWhile p :=
  Text.rdropWhile_append "map(varchar".toList hp s

theorem iterate_cut_opening (s : List Char) (k : Nat) :
    cut^[k] (opening ++ s) = opening ++ cut^[k] s := by
  induction k generalizing s with
  | zero => rfl
  | succ k ih =>
      have hcut : cut (opening ++ s) = opening ++ cut s := by
        rw [cut, rdropWhile_opening rfl, rdropWhile_opening rfl, cut]
      rw [Function.iterate_succ_apply, hcut, ih, Function.iterate_succ_apply]

/-- The values of a map are read from what stands behind the comma, less its end. -/
theorem ofChars_opening (hs : Text.lower s = s) :
    ofChars (opening ++ s) = .map (ofChars (cut s)) := by
  have htrim : Text.trim (opening ++ s) = opening ++ s.rdropWhile Text.isBlank := by
    have hfront : Text.trim (opening ++ s) = (opening ++ s).rdropWhile Text.isBlank :=
      Text.trimBoth_cons rfl
    rw [hfront, rdropWhile_opening rfl]
  have hlower : Text.lower (opening ++ s.rdropWhile Text.isBlank) =
      opening ++ s.rdropWhile Text.isBlank :=
    congrArg (opening ++ ·) (lower_of_subset hs (List.rdropWhile_prefix _ s).subset)
  have hvalue : mapValue? (opening ++ s.rdropWhile Text.isBlank) = some (cut s) := by
    have hcomma : isClosing ',' = false := rfl
    have hparameters : parameters (opening ++ s.rdropWhile Text.isBlank) =
        "varchar,".toList ++ cut s :=
      Text.rdropWhile_append "varchar".toList hcomma _
    rw [mapValue?, hparameters]
    rfl
  apply ofChars_eq_map
  · rw [htrim, hlower]
    rfl
  · rw [htrim, hlower, hvalue]

/-! ### Maps in maps -/

/-- A number of maps around a type. -/
def inMaps : Nat → SqlType → SqlType
  | 0, type => type
  | n + 1, type => .map (inMaps n type)

/-- The starts of a number of maps before a text. -/
def opened : Nat → List Char → List Char
  | 0, s => s
  | n + 1, s => opening ++ ' ' :: opened n s

theorem inMaps_inj {a b : SqlType} : inMaps n a = inMaps n b ↔ a = b := by
  induction n with
  | zero => rfl
  | succ n ih => rw [inMaps, inMaps, map.injEq, ih]

theorem lower_opened (hs : Text.lower s = s) (n : Nat) : Text.lower (opened n s) = opened n s := by
  induction n with
  | zero => exact hs
  | succ n ih => exact congrArg (opening ++ ' ' :: ·) ih

theorem opened_append (n : Nat) (s t : List Char) : opened n s ++ t = opened n (s ++ t) := by
  induction n with
  | zero => rfl
  | succ n ih => rw [opened, opened, List.append_assoc, List.cons_append, ih]

theorem toList_text_inMaps (type : SqlType) (n : Nat) :
    (inMaps n type).text.toList = opened n (type.text.toList ++ List.replicate n ')') := by
  induction n with
  | zero => simp [inMaps, opened]
  | succ n ih =>
      have htext : (inMaps (n + 1) type).text.toList =
          opening ++ ' ' :: ((inMaps n type).text.toList ++ [')']) := by
        rw [inMaps, text, String.toList_append, String.toList_append, List.append_assoc]
        rfl
      have hclose : (inMaps n type).text.toList ++ [')'] =
          opened n (type.text.toList ++ List.replicate (n + 1) ')') := by
        rw [ih, opened_append, List.append_assoc, ← List.replicate_succ']
      rw [htext, hclose, opened]

/-- Each of the maps drops something at the end of the text before the next one is read. -/
theorem ofChars_opened (hs : Text.lower s = s) (n k : Nat) :
    ofChars (cut^[k] (opened n s)) = inMaps n (ofChars (cut^[k + n] s)) := by
  induction n generalizing k with
  | zero => rfl
  | succ n ih =>
      have hlower : Text.lower (' ' :: opened n s) = ' ' :: opened n s :=
        congrArg (' ' :: ·) (lower_opened hs n)
      have hcut := lower_of_subset hlower (iterate_cut_prefix_self _ k).subset
      rw [opened, iterate_cut_opening, ofChars_opening hcut, ← Function.iterate_succ_apply' cut,
        ofChars_iterate_cut_cons, ih, inMaps, Nat.succ_add_eq_add_succ]

/-- A map is read back with its innermost values read from their text once more, without the closing
brackets at the end of it. -/
theorem parse_text_inMaps (h : Text.lower type.text.toList = type.text.toList) (n : Nat) :
    parse (inMaps (n + 1) type).text =
      inMaps (n + 1) (ofChars (cut^[n] (type.text.toList.rdropWhile isClosing))) := by
  have hlower : Text.lower (type.text.toList ++ List.replicate (n + 1) ')') =
      type.text.toList ++ List.replicate (n + 1) ')' := by
    rw [lower_eq_self_iff] at h ⊢
    intro c hc
    rcases List.mem_append.mp hc with hc | hc
    · exact h c hc
    · rw [List.eq_of_mem_replicate hc]
      rfl
  have hread := ofChars_opened hlower (n + 1) 0
  rw [Function.iterate_zero_apply, Nat.zero_add, Function.iterate_succ_apply,
    cut_append_replicate] at hread
  rw [parse, toList_text_inMaps, hread]

/-! ### The innermost type -/

/-- The type of the innermost values of a map; a type that is no map is that itself. -/
def innermost : SqlType → SqlType
  | .map value => value.innermost
  | .varchar => .varchar
  | .double => .double
  | .timestamp => .timestamp
  | .other text => .other text

theorem exists_inMaps (type : SqlType) : ∃ n, type = inMaps n type.innermost := by
  induction type with
  | map value ih =>
      obtain ⟨n, hn⟩ := ih
      exact ⟨n + 1, by rw [inMaps, innermost, ← hn]⟩
  | varchar | double | timestamp | other => exact ⟨0, rfl⟩

/-- The innermost type is that of a text that names no map; inside a map such a text is in lower
case. -/
theorem innermost_cases (s : List Char) :
    (ofChars s).innermost = .varchar ∨ ∃ v, (ofChars s).innermost = ofChars v ∧
      (ofChars v).isMap = false ∧ (v = s ∨ Text.lower v = v) := by
  cases htype : ofChars s with
  | map value =>
      rcases of_ofChars_eq_map htype with rfl | ⟨v, hvalue, rfl⟩
      · exact Or.inl rfl
      · have hlower : Text.lower v = v :=
          lower_of_subset (lower_lower _) fun c hc => mem_of_mapValue? hvalue hc
        have hshorter : v.length < s.length := by
          have hnamed := mapValue?_shorter hvalue
          have htrimmed := Text.length_trimBoth_le Text.isBlank s
          rw [Text.lower, List.length_map] at hnamed
          exact hnamed.trans_le htrimmed
        rcases innermost_cases v with hvarchar | ⟨w, hw, hflat, rfl | hlower'⟩
        · exact Or.inl hvarchar
        · exact Or.inr ⟨w, hw, hflat, Or.inr hlower⟩
        · exact Or.inr ⟨w, hw, hflat, Or.inr hlower'⟩
  | varchar | double | timestamp | other =>
      exact Or.inr ⟨s, by rw [htype]; rfl, by rw [htype]; rfl, Or.inl rfl⟩
termination_by s.length

/-- A type that is no map and is read from its own text, which has no blanks around it. -/
structure Settled (type : SqlType) : Prop where
  flat : type.isMap = false
  reread : ofChars type.text.toList = type
  trimmed : Text.trim type.text.toList = type.text.toList

theorem settled_of_not_isMap (h : (ofChars s).isMap = false) : Settled (ofChars s) := by
  cases htype : ofChars s with
  | map value =>
      rw [htype] at h
      cases h
  | varchar | double | timestamp => exact ⟨rfl, by decide +kernel, by decide⟩
  | other text =>
      obtain rfl := eq_of_ofChars_eq_other htype
      refine ⟨rfl, ?_, ?_⟩
      · rw [SqlType.text, String.toList_ofList, ofChars_trim, htype]
      · rw [SqlType.text, String.toList_ofList, Text.trim_trim]

theorem settled_innermost (s : List Char) : Settled (ofChars s).innermost := by
  rcases innermost_cases s with hvarchar | ⟨v, hv, hflat, -⟩
  · rw [hvarchar]
    exact ⟨rfl, by decide +kernel, by decide⟩
  · rw [hv]
    exact settled_of_not_isMap hflat

/-- Inside a map the text of the innermost type is in lower case. -/
theorem lower_innermost (h : (ofChars s).isMap = true) :
    Text.lower (ofChars s).innermost.text.toList = (ofChars s).innermost.text.toList := by
  rcases innermost_cases s with hvarchar | ⟨v, hv, hflat, rfl | hlower⟩
  · rw [hvarchar]
    rfl
  · rw [h] at hflat
    cases hflat
  · rw [hv]
    cases htype : ofChars v with
    | map value =>
        rw [htype] at hflat
        cases hflat
    | varchar | double | timestamp => rfl
    | other text =>
        obtain rfl := eq_of_ofChars_eq_other htype
        rw [SqlType.text, String.toList_ofList]
        exact lower_of_subset hlower fun c hc => Text.mem_of_mem_trimBoth hc

/-! ### Types that are read back as they were -/

/-- The text of a type ends in a closing bracket. -/
def EndsClosed (type : SqlType) : Prop :=
  ∃ c, isClosing c = true ∧ [c] <:+ type.text.toList

theorem endsClosed_iff : type.EndsClosed ↔
    (type.text.toList.rdropWhile isClosing).length < type.text.toList.length := by
  rw [EndsClosed]
  rcases List.eq_nil_or_concat type.text.toList with hnil | ⟨front, d, hconcat⟩
  · simp [hnil]
  · have hshorter := (List.rdropWhile_prefix isClosing front).length_le
    have hend (c : Char) : [c] <:+ front ++ [d] ↔ c = d := by
      constructor
      · rintro ⟨other, hother⟩
        exact List.singleton_inj.mp (List.append_inj_right' hother rfl)
      · rintro rfl
        exact List.suffix_append front [c]
    rw [hconcat, List.concat_eq_append, List.rdropWhile_concat, List.length_append]
    simp only [hend, exists_eq_right]
    split
    · next hd => simpa [hd] using hshorter
    · next hd => simp [hd]

/-- Of what the brackets at the end are dropped from, a type that keeps its text is read back just if
there were none. -/
theorem ofChars_iterate_cut_iff (h : Settled type) (n : Nat) :
    ofChars (cut^[n] (type.text.toList.rdropWhile isClosing)) = type ↔ ¬ type.EndsClosed := by
  rw [endsClosed_iff]
  constructor
  · intro hread hshorter
    -- Whatever is read from the shorter text is too short to be the text of the type.
    have hflat := h.flat
    cases type with
    | map value => cases hflat
    | varchar | double | timestamp =>
        revert hshorter
        decide
    | other text =>
        rw [SqlType.text] at hread hshorter
        have hlength := congrArg (fun t : String => t.toList.length) (eq_of_ofChars_eq_other hread)
        have htrim := Text.length_trimBoth_le Text.isBlank
          (cut^[n] (text.toList.rdropWhile isClosing))
        have hcut := (iterate_cut_prefix_self (text.toList.rdropWhile isClosing) n).length_le
        rw [String.toList_ofList, Text.trim] at hlength
        omega
  · intro hclosed
    have hkept : type.text.toList.rdropWhile isClosing = type.text.toList := by
      have hprefix := List.rdropWhile_prefix isClosing type.text.toList
      exact hprefix.eq_of_length_le (by omega)
    have htrimmed : type.text.toList.rdropWhile Text.isBlank = type.text.toList := by
      rw [← h.trimmed]
      exact List.rdropWhile_idempotent _ _
    have hcut : cut type.text.toList = type.text.toList := by
      rw [cut, htrimmed, hkept]
    rw [hkept, Function.iterate_fixed hcut, h.reread]

/-- So maps around such a type are read back as they were just if its text does not end in a closing
bracket. -/
theorem parse_text_inMaps_iff (h : Settled type)
    (hlower : Text.lower type.text.toList = type.text.toList) (n : Nat) :
    parse (inMaps (n + 1) type).text = inMaps (n + 1) type ↔ ¬ type.EndsClosed := by
  rw [parse_text_inMaps hlower, inMaps_inj, ofChars_iterate_cut_iff h]

/-- A type that was read from a text is read back from its own text just if it is no map or the
text of its innermost type does not end in a closing bracket. -/
theorem parse_text_parse_iff (raw : String) :
    parse (parse raw).text = parse raw ↔
      ¬ ((parse raw).isMap = true ∧ (parse raw).innermost.EndsClosed) := by
  have hsettled : Settled (parse raw).innermost := settled_innermost raw.toList
  obtain ⟨n, hn⟩ := exists_inMaps (parse raw)
  cases n with
  | zero =>
      have hflat : (parse raw).isMap = false := hn ▸ hsettled.flat
      rw [inMaps] at hn
      rw [hn, parse, hsettled.reread, hsettled.flat]
      simp
  | succ n =>
      have hmap : (parse raw).isMap = true := by
        rw [hn]
        rfl
      have hread := parse_text_inMaps_iff hsettled (lower_innermost hmap) n
      rw [← hn] at hread
      rw [hread]
      simp [hmap]

/-- A blank before the bracket that closes the map. -/
theorem parse_text_drifts :
    parse "map(varchar, decimal(10,2) )" = .map (.other "decimal(10,2)") ∧
      (parse "map(varchar, decimal(10,2) )").text = "map(varchar, decimal(10,2))" ∧
      parse "map(varchar, decimal(10,2))" = .map (.other "decimal(10,2") ∧
      parse (parse "map(varchar, decimal(10,2) )").text ≠
        parse "map(varchar, decimal(10,2) )" := by
  decide +kernel

end SqlType
end CostView
