import CostView.Json.Printer
import CostView.Json.Reader
import Mathlib.Tactic

/-!
# Reading back the text of a value

A value that holds no numbers is read back from its text as it is.  The layout adds white space
only where the reader skips it, and every character of a string stands for itself, after a backslash
or as its code unit.

The reader works with fuel, and each value, item and member costs one unit of it.  Since each of
them is at least one character long, the length of the text is always enough.
-/

namespace CostView.JsonValue

/-- A value of nulls, truth values, strings, arrays and objects. -/
inductive Numberless : JsonValue → Prop where
  | null : Numberless .null
  | bool (value : Bool) : Numberless (.bool value)
  | string (text : String) : Numberless (.string text)
  | array {items : List JsonValue} (all : ∀ item ∈ items, Numberless item) :
      Numberless (.array items)
  | object {members : List (String × JsonValue)} (all : ∀ m ∈ members, Numberless m.2) :
      Numberless (.object members)

/-! ### Strings -/

/-- A control character is written as four digits, the first two of which are zeros. -/
theorem digits_of_control : ∀ n < 0x20,
    List.replicate (4 - (Text.Escaped.hex n).length) '0' ++ Text.Escaped.hex n =
        ['0', '0', Nat.digitChar (n / 16), Nat.digitChar (n % 16)] ∧
      unit? '0' '0' (Nat.digitChar (n / 16)) (Nat.digitChar (n % 16)) = some n := by
  decide

/-- Each character of a string is read back as its code point. -/
theorem units?_encodeChar (c : Char) (rest : List Char) :
    units? (encodeChar c ++ rest) = (units? rest).map fun p => (c.toNat :: p.1, p.2) := by
  unfold encodeChar
  split
  -- Seven characters have an escape of their own, which the reader knows.
  iterate 7 rfl
  next hquote hbackslash _ _ _ _ _ =>
    split
    · next hcontrol =>
        obtain ⟨hdigits, hunit⟩ := digits_of_control c.toNat hcontrol
        rw [List.append_assoc, List.append_assoc, ← List.append_assoc (List.replicate _ _), hdigits]
        simp only [List.cons_append, List.nil_append, units?, hunit]
    · next hcontrol =>
        -- What is left stands for itself: it is no quote, no backslash and no control character.
        have hslash : c ≠ '\\' := hbackslash
        rw [List.singleton_append, units?]
        · simp [hcontrol, hslash]
        · exact hquote
        · exact fun _ _ _ _ _ h => absurd h hslash
        · exact fun _ _ h => absurd h hslash

theorem units?_encode (s rest : List Char) :
    units? (s.flatMap encodeChar ++ '"' :: rest) = some (s.map Char.toNat, rest) := by
  induction s with
  | nil => rfl
  | cons c s ih =>
      rw [List.flatMap_cons, List.append_assoc, units?_encodeChar, ih]
      rfl

/-- No character is half of a surrogate pair. -/
theorem not_isHigh_toNat (c : Char) : isHigh c.toNat = false ∧ isLow c.toNat = false := by
  have hvalid : c.toNat < 0xD800 ∨ 0xDFFF < c.toNat ∧ c.toNat < 0x110000 := c.valid
  simp only [isHigh, isLow, Bool.and_eq_false_iff, decide_eq_false_iff_not]
  omega

theorem chars?_map_toNat (s : List Char) : chars? (s.map Char.toNat) = some s := by
  induction s with
  | nil => rfl
  | cons c s ih =>
      obtain ⟨hhigh, hlow⟩ := not_isHigh_toNat c
      cases s with
      | nil => simp [chars?, hhigh, hlow, Char.ofNat_toNat]
      | cons d s =>
          rw [List.map_cons, List.map_cons, chars?, hhigh, hlow, ← List.map_cons, ih]
          simp [Char.ofNat_toNat]

theorem readString?_encode (text : String) (rest : List Char) :
    readString? (text.toList.flatMap encodeChar ++ '"' :: rest) = some (some text, rest) := by
  rw [readString?, units?_encode, Option.map_some, chars?_map_toNat, Option.map_some,
    String.ofList_toList]

/-! ### White space -/

theorem skipSpaces_of_not_isSpace {c : Char} (h : isSpace c = false) (rest : List Char) :
    skipSpaces (c :: rest) = c :: rest := by
  rw [skipSpaces, List.dropWhile_cons_of_neg (by simp [h])]

theorem skipSpaces_newLine (level : Nat) (rest : List Char) :
    skipSpaces (newLine level ++ rest) = skipSpaces rest := by
  have hblank : ∀ c ∈ newLine level, isSpace c = true := by
    intro c hc
    rcases List.mem_cons.mp hc with rfl | hspace
    · rfl
    · rw [List.eq_of_mem_replicate hspace]
      rfl
  exact List.dropWhile_append_of_pos hblank

/-- A value starts with a character that closes nothing and is no white space. -/
theorem Numberless.print_eq_cons {value : JsonValue} (h : value.Numberless) (level : Nat) :
    ∃ c rest, value.print level = c :: rest ∧ isSpace c = false ∧ c ≠ ']' := by
  cases h with
  | null => exact ⟨_, _, rfl, rfl, by decide⟩
  | bool value => cases value <;> exact ⟨_, _, rfl, rfl, by decide⟩
  | string text => exact ⟨_, _, rfl, rfl, by decide⟩
  | @array items _ => cases items <;> exact ⟨_, _, rfl, rfl, by decide⟩
  | @object members _ => cases members <;> exact ⟨_, _, rfl, rfl, by decide⟩

theorem Numberless.skipSpaces_print {value : JsonValue} (h : value.Numberless) (level : Nat)
    (rest : List Char) : skipSpaces (value.print level ++ rest) = value.print level ++ rest := by
  obtain ⟨c, tail, hprint, hspace, -⟩ := h.print_eq_cons level
  rw [hprint]
  exact skipSpaces_of_not_isSpace hspace _

/-! ### Items and members -/

/-- A value that is read back from its text, whatever follows, with fuel for its length. -/
def IsReadBack (value : JsonValue) : Prop :=
  ∀ level fuel rest, (value.print level).length ≤ fuel →
    readValue? fuel (value.print level ++ rest) = some (value, rest)

theorem length_newLine_pos (level : Nat) : 0 < (newLine level).length := by
  simp [newLine]

theorem printItems_cons_cons (level : Nat) (item next : JsonValue) (items : List JsonValue) :
    printItems level (item :: next :: items) =
      newLine level ++ (item.print level ++ ',' :: printItems level (next :: items)) := by
  rw [printItems, List.append_assoc]
  exact fun h => by cases h

/-- An item before the closing bracket is the last. -/
theorem readItems?_last {fuel : Nat} {s rest tail : List Char} {item : JsonValue}
    (hread : readValue? fuel s = some (item, rest)) (hrest : skipSpaces rest = ']' :: tail) :
    readItems? (fuel + 1) s = some ([item], tail) := by
  rw [readItems?, hread]
  simp only [hrest]

/-- After an item with a comma there are more. -/
theorem readItems?_more {fuel : Nat} {s rest tail : List Char} {item : JsonValue}
    (hread : readValue? fuel s = some (item, rest)) (hrest : skipSpaces rest = ',' :: tail) :
    readItems? (fuel + 1) s =
      (readItems? fuel (skipSpaces tail)).map fun p => (item :: p.1, p.2) := by
  rw [readItems?, hread]
  simp only [hrest]

/-- The items of an array are read up to its closing bracket, item by item. -/
theorem readItems?_printItems {items : List JsonValue} (hne : items ≠ [])
    (hall : ∀ item ∈ items, item.Numberless ∧ item.IsReadBack) (level outer : Nat)
    (rest : List Char) (fuel : Nat) (hfuel : (printItems level items).length ≤ fuel) :
    readItems? fuel (skipSpaces (printItems level items ++ (newLine outer ++ ']' :: rest))) =
      some (items, rest) := by
  -- Each item is written on a line of its own, whose line break pays for the unit of fuel.
  have hline := length_newLine_pos level
  induction items generalizing fuel with
  | nil => exact absurd rfl hne
  | cons item items ih =>
      obtain ⟨hitem, hread⟩ := hall item List.mem_cons_self
      cases items with
      | nil =>
          rw [printItems, List.length_append] at hfuel
          obtain ⟨fuel, rfl⟩ := Nat.exists_eq_succ_of_ne_zero (n := fuel) (by omega)
          rw [printItems, List.append_assoc, skipSpaces_newLine, hitem.skipSpaces_print]
          refine readItems?_last (hread level fuel _ (by omega)) ?_
          rw [skipSpaces_newLine, skipSpaces_of_not_isSpace rfl]
      | cons next items =>
          rw [printItems_cons_cons, List.length_append, List.length_append, List.length_cons]
            at hfuel
          obtain ⟨fuel, rfl⟩ := Nat.exists_eq_succ_of_ne_zero (n := fuel) (by omega)
          have hrest := ih (List.cons_ne_nil next items)
            (fun other hother => hall other (List.mem_cons_of_mem item hother))
            fuel (by omega)
          rw [printItems_cons_cons, List.append_assoc, List.append_assoc, skipSpaces_newLine,
            hitem.skipSpaces_print, List.cons_append, Nat.succ_eq_add_one,
            readItems?_more (hread level fuel _ (by omega)) (skipSpaces_of_not_isSpace rfl _),
            hrest, Option.map_some]

/-- The first item follows the opening bracket and does not close it. -/
theorem skipSpaces_printItems {item : JsonValue} (h : item.Numberless) (items : List JsonValue)
    (level : Nat) (rest : List Char) :
    ∃ c tail, skipSpaces (printItems level (item :: items) ++ rest) = c :: tail ∧ c ≠ ']' := by
  obtain ⟨c, tail, hprint, hspace, hclose⟩ := h.print_eq_cons level
  cases items with
  | nil =>
      rw [printItems, List.append_assoc, skipSpaces_newLine, hprint]
      exact ⟨c, _, skipSpaces_of_not_isSpace hspace _, hclose⟩
  | cons next items =>
      rw [printItems_cons_cons, List.append_assoc, skipSpaces_newLine, List.append_assoc, hprint]
      exact ⟨c, _, skipSpaces_of_not_isSpace hspace _, hclose⟩

/-- A member with its name between quotes. -/
theorem printMembers_singleton (level : Nat) (name : String) (value : JsonValue) :
    printMembers level [(name, value)] =
      newLine level ++ ('"' :: (name.toList.flatMap encodeChar ++ '"' :: ':' :: ' ' ::
        value.print level)) := by
  rw [printMembers, encodeString]
  simp

theorem printMembers_cons_cons (level : Nat) (name : String) (value : JsonValue)
    (next : String × JsonValue) (members : List (String × JsonValue)) :
    printMembers level ((name, value) :: next :: members) =
      newLine level ++ ('"' :: (name.toList.flatMap encodeChar ++ '"' :: ':' :: ' ' ::
        (value.print level ++ ',' :: printMembers level (next :: members)))) := by
  rw [printMembers, encodeString]
  · simp
  · exact fun h => by cases h

/-- The first member starts with the quote of its name. -/
theorem skipSpaces_printMembers (level : Nat) (m : String × JsonValue)
    (members : List (String × JsonValue)) (rest : List Char) :
    ∃ tail, skipSpaces (printMembers level (m :: members) ++ rest) = '"' :: tail := by
  obtain ⟨name, value⟩ := m
  cases members with
  | nil =>
      rw [printMembers_singleton, List.append_assoc, skipSpaces_newLine]
      exact ⟨_, skipSpaces_of_not_isSpace rfl _⟩
  | cons next members =>
      rw [printMembers_cons_cons, List.append_assoc, skipSpaces_newLine]
      exact ⟨_, skipSpaces_of_not_isSpace rfl _⟩

/-- A member is read up to what follows its value. -/
theorem readMembers?_member {value : JsonValue} (hvalue : value.Numberless)
    (hread : value.IsReadBack) (level : Nat) (name : String) (rest : List Char) {fuel : Nat}
    (hfuel : (value.print level).length ≤ fuel) :
    readMembers? (fuel + 1) ('"' :: (name.toList.flatMap encodeChar ++ '"' :: ':' :: ' ' ::
        (value.print level ++ rest))) =
      match skipSpaces rest with
      | ',' :: rest => (readMembers? fuel (skipSpaces rest)).map fun p =>
          (p.1.map ((name, value) :: ·), p.2)
      | '\x7d' :: rest => some (some [(name, value)], rest)
      | _ => none := by
  have hcolon : skipSpaces (':' :: ' ' :: (value.print level ++ rest)) =
      ':' :: ' ' :: (value.print level ++ rest) := skipSpaces_of_not_isSpace rfl _
  have hblank : skipSpaces (' ' :: (value.print level ++ rest)) = value.print level ++ rest :=
    hvalue.skipSpaces_print level rest
  rw [readMembers?]
  simp only [readString?_encode, hcolon, hblank, hread level fuel rest hfuel]
  rfl

/-- The members of an object are read up to its closing brace, member by member. -/
theorem readMembers?_printMembers {members : List (String × JsonValue)} (hne : members ≠ [])
    (hall : ∀ m ∈ members, m.2.Numberless ∧ m.2.IsReadBack) (level outer : Nat)
    (rest : List Char) (fuel : Nat) (hfuel : (printMembers level members).length ≤ fuel) :
    readMembers? fuel
        (skipSpaces (printMembers level members ++ (newLine outer ++ '\x7d' :: rest))) =
      some (some members, rest) := by
  have hline := length_newLine_pos level
  induction members generalizing fuel with
  | nil => exact absurd rfl hne
  | cons m members ih =>
      obtain ⟨name, value⟩ := m
      obtain ⟨hvalue, hread⟩ : value.Numberless ∧ value.IsReadBack :=
        hall (name, value) List.mem_cons_self
      cases members with
      | nil =>
          rw [printMembers_singleton] at hfuel ⊢
          simp only [List.length_append, List.length_cons] at hfuel
          obtain ⟨fuel, rfl⟩ := Nat.exists_eq_succ_of_ne_zero (n := fuel) (by omega)
          have hclosed : skipSpaces (newLine outer ++ '\x7d' :: rest) = '\x7d' :: rest := by
            rw [skipSpaces_newLine, skipSpaces_of_not_isSpace rfl]
          simp only [List.append_assoc, List.cons_append]
          rw [skipSpaces_newLine, skipSpaces_of_not_isSpace rfl, Nat.succ_eq_add_one,
            readMembers?_member hvalue hread level name _ (by omega)]
          simp only [hclosed]
      | cons next members =>
          rw [printMembers_cons_cons] at hfuel ⊢
          simp only [List.length_append, List.length_cons] at hfuel
          obtain ⟨fuel, rfl⟩ := Nat.exists_eq_succ_of_ne_zero (n := fuel) (by omega)
          have hrest := ih (List.cons_ne_nil next members)
            (fun other hother => hall other (List.mem_cons_of_mem _ hother))
            fuel (by omega)
          have hcomma (tail : List Char) : skipSpaces (',' :: tail) = ',' :: tail :=
            skipSpaces_of_not_isSpace rfl tail
          simp only [List.append_assoc, List.cons_append]
          rw [skipSpaces_newLine, skipSpaces_of_not_isSpace rfl, Nat.succ_eq_add_one,
            readMembers?_member hvalue hread level name _ (by omega)]
          simp only [hcomma, hrest, Option.map_some]

/-! ### Values -/

theorem isReadBack_string (text : String) : (JsonValue.string text).IsReadBack := by
  intro level fuel rest hfuel
  rw [print, encodeString, List.length_cons] at hfuel
  obtain ⟨fuel, rfl⟩ := Nat.exists_eq_succ_of_ne_zero (n := fuel) (by omega)
  rw [print, encodeString, List.cons_append, List.append_assoc, List.singleton_append,
    Nat.succ_eq_add_one, readValue?, readString?_encode]
  rfl

/-- An opening bracket that is not closed at once opens items. -/
theorem readValue?_bracket {fuel : Nat} {s tail : List Char} {c : Char}
    (h : skipSpaces s = c :: tail) (hc : c ≠ ']') :
    readValue? (fuel + 1) ('[' :: s) =
      (readItems? fuel (skipSpaces s)).map fun p => (.array p.1, p.2) := by
  rw [readValue?, h]
  split
  · next heq => exact absurd (List.cons.inj heq).1 hc
  · rfl

theorem isReadBack_array {items : List JsonValue}
    (hall : ∀ item ∈ items, item.Numberless ∧ item.IsReadBack) :
    (JsonValue.array items).IsReadBack := by
  intro level fuel rest hfuel
  cases items with
  | nil =>
      obtain ⟨fuel, rfl⟩ := Nat.exists_eq_succ_of_ne_zero (n := fuel)
        (by rw [print, List.length_cons] at hfuel; omega)
      rfl
  | cons item items =>
      rw [print, List.length_cons, List.length_append, List.length_append] at hfuel
      obtain ⟨fuel, rfl⟩ := Nat.exists_eq_succ_of_ne_zero (n := fuel) (by omega)
      have hitems := readItems?_printItems (List.cons_ne_nil item items) hall (level + 1) level rest
        fuel (by omega)
      obtain ⟨c, tail, hopen, hclose⟩ := skipSpaces_printItems (hall item List.mem_cons_self).1
        items (level + 1) (newLine level ++ ']' :: rest)
      rw [print, List.cons_append, List.append_assoc, List.append_assoc, List.singleton_append,
        Nat.succ_eq_add_one, readValue?_bracket hopen hclose, hitems, Option.map_some]

/-- An opening brace that is not closed at once opens members. -/
theorem readValue?_brace {fuel : Nat} {s tail : List Char} (h : skipSpaces s = '"' :: tail) :
    readValue? (fuel + 1) ('\x7b' :: s) =
      (readMembers? fuel (skipSpaces s)).map fun p => (p.1.elim .broken .object, p.2) := by
  rw [readValue?, h]
  rfl

theorem isReadBack_object {members : List (String × JsonValue)}
    (hall : ∀ m ∈ members, m.2.Numberless ∧ m.2.IsReadBack) :
    (JsonValue.object members).IsReadBack := by
  intro level fuel rest hfuel
  cases members with
  | nil =>
      obtain ⟨fuel, rfl⟩ := Nat.exists_eq_succ_of_ne_zero (n := fuel)
        (by rw [print, List.length_cons] at hfuel; omega)
      rfl
  | cons m members =>
      rw [print, List.length_cons, List.length_append, List.length_append] at hfuel
      obtain ⟨fuel, rfl⟩ := Nat.exists_eq_succ_of_ne_zero (n := fuel) (by omega)
      have hmembers := readMembers?_printMembers (List.cons_ne_nil m members) hall (level + 1)
        level rest fuel (by omega)
      obtain ⟨tail, hopen⟩ := skipSpaces_printMembers (level + 1) m members
        (newLine level ++ '\x7d' :: rest)
      rw [print, List.cons_append, List.append_assoc, List.append_assoc, List.singleton_append,
        Nat.succ_eq_add_one, readValue?_brace hopen, hmembers]
      rfl

/-- Every value without numbers is read back from its text, whatever follows. -/
theorem Numberless.isReadBack {value : JsonValue} (h : value.Numberless) : value.IsReadBack := by
  induction h with
  | null =>
      intro level fuel rest hfuel
      obtain ⟨fuel, rfl⟩ := Nat.exists_eq_succ_of_ne_zero (n := fuel)
        (by rw [print, List.length_cons] at hfuel; omega)
      rfl
  | bool value =>
      intro level fuel rest hfuel
      obtain ⟨fuel, rfl⟩ := Nat.exists_eq_succ_of_ne_zero (n := fuel)
        (by cases value <;> rw [print, List.length_cons] at hfuel <;> omega)
      cases value <;> rfl
  | string text => exact isReadBack_string text
  | array all ih => exact isReadBack_array fun item hitem => ⟨all item hitem, ih item hitem⟩
  | object all ih => exact isReadBack_object fun m hm => ⟨all m hm, ih m hm⟩

/-- A value without numbers is read back from its text. -/
theorem read?_pretty {value : JsonValue} (h : value.Numberless) :
    read? value.pretty = some value := by
  have hstart : skipSpaces (value.print 0) = value.print 0 := by
    simpa using h.skipSpaces_print 0 []
  have hread := h.isReadBack 0 (2 * (value.print 0).length + 2) [] (by omega)
  rw [List.append_nil] at hread
  rw [read?, pretty]
  simp only [String.toList_ofList, hstart, hread]
  rfl

end CostView.JsonValue
