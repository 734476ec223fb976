import CostView.Yaml.Node
import CostView.Yaml.Scalar

/-!
# Reading a settings document

The form of a document is a common part of YAML: block and flow collections, plain, quoted and
block scalars, comments, and an optional mark before the document.  A text that holds more than one
document is refused.  So is one with an anchor, an alias, a tag, a directive or a key that is marked
as one, though full YAML has them: what is written with them can be written without.
-/

namespace CostView.Yaml

/-- A place at the start of a value: its column and the text from there. -/
structure Place where
  column : Nat
  rest : List Char

/-- Whether the document has ended. -/
def Place.isEnd (p : Place) : Bool :=
  p.rest.isEmpty || (p.column = 0 && isDocumentMark p.rest)

/-- The next place that holds something, comments and empty lines aside.  A tab is no
indentation. -/
def significant (inComment : Bool) (column : Nat) : List Char → Option Place
  | [] => some ⟨0, []⟩
  | c :: rest =>
    if isBreak c then significant false 0 rest
    else if inComment then significant true column rest
    else if c = ' ' then significant false (column + 1) rest
    else if c = '#' then significant true column rest
    else if c = '\t' then none
    else some ⟨column, c :: rest⟩

/-- Whether nothing but a comment follows on the line. -/
def lineIsDone (s : List Char) : Bool :=
  match s.dropWhile isBlank with
  | [] => true
  | c :: _ => isBreak c || c = '#'

/-- The next place after the rest of a line, which may only hold a comment. -/
def afterLine (s : List Char) : Option Place :=
  if lineIsDone s then significant false 0 (s.dropWhile isBlank) else none

/-- The next place after a plain scalar whose further lines are indented by `indent`.  The lines of
the gap after it are still its own. -/
def afterPlain (indent : Nat) (s : List Char) : Option Place :=
  let gap := s.takeWhile isGap
  if !gap.any isBreak then afterLine s
  else if hasTabIndent indent gap then none
  else significant false (lastLine gap).length (s.dropWhile isGap)

/-- What follows the gaps and comments inside a flow collection.  A mark between documents cuts it
off, so nothing follows. -/
def skipFlow (inComment : Bool) : List Char → List Char
  | [] => []
  | c :: rest =>
    if isBreak c then
      if isDocumentMark rest then [] else skipFlow false rest
    else if inComment then skipFlow true rest
    else if isBlank c then skipFlow false rest
    else if c = '#' then skipFlow true rest
    else c :: rest

/-- A scalar inside a flow collection, of at most `words` words.  A further line of a plain one has
no tab before the column `indent`. -/
def flowScalar? (oneLine : Bool) (indent words : Nat) (s : List Char) :
    Option (Yaml × List Char) :=
  match s with
  | '\'' :: _ | '"' :: _ => (quoted? s).map fun p => (.scalar false (String.ofList p.1), p.2)
  | _ =>
    if canStartPlain true s then
      (plainScalar? true oneLine indent words s).map fun p =>
        (.scalar true (String.ofList p.1), p.2)
    else none

/-- The number of characters from the start of a key to its colon that a reader looks ahead. -/
def keyReach : Nat := 1024

/-- A key and what follows its colon.  Both stand on one line, not too far from each other;
`scalar?` reads the key from that line. -/
def keyOnLine? (scalar? : List Char → Option (Yaml × List Char)) (s : List Char) :
    Option (Yaml × List Char) :=
  let line := (s.take (keyReach + 2)).takeWhile (!isBreak ·)
  match scalar? line with
  | none => none
  | some (key, rest) =>
    match rest.dropWhile isBlank with
    | ':' :: rest =>
      let length := line.length - rest.length
      if length ≤ keyReach + 1 then some (key, s.drop length) else none
    | _ => none

/-- Whether a text starts with a collection in flow form. -/
def startsFlow : List Char → Bool
  | '[' :: _ | '\x7b' :: _ => true
  | _ => false

/-- Whether a place inside a flow collection stands at the end of an entry. -/
def endsEntry : List Char → Bool
  | ',' :: _ | ']' :: _ | '\x7d' :: _ => true
  | _ => false

mutual

/-- A value inside a flow collection; `fuel` bounds the number of values, words and marks read. -/
def flowValue? (fuel indent : Nat) (s : List Char) : Option (Yaml × List Char) :=
  match fuel with
  | 0 => none
  | fuel + 1 =>
    match s with
    | '[' :: rest =>
      (flowItems? fuel indent (skipFlow false rest)).map fun p => (.list p.1, p.2)
    | '\x7b' :: rest =>
      (flowEntries? fuel indent (skipFlow false rest)).map fun p => (.map p.1, p.2)
    | _ => flowScalar? false indent fuel s

/-- A value, or a key and its value, inside a flow collection. -/
def flowEntry? (fuel indent : Nat) (s : List Char) : Option (Yaml × Option Yaml × List Char) :=
  match fuel with
  | 0 => none
  | fuel + 1 =>
    let key? := if startsFlow s then none else keyOnLine? (flowScalar? true indent fuel) s
    match key? with
    | some (key, rest) => flowKeyed? fuel indent key (skipFlow false rest)
    | none =>
      match flowValue? fuel indent s with
      | none => none
      | some (value, rest) =>
        match skipFlow false rest with
        | ':' :: after =>
          if startsFlow s && (keyOnLine? (fun line =>
              some (value, line.drop (s.length - rest.length))) s).isSome then
            flowKeyed? fuel indent value (skipFlow false after)
          else none
        | rest => some (value, none, rest)

/-- The value of a key inside a flow collection, which may be left out. -/
def flowKeyed? (fuel indent : Nat) (key : Yaml) (s : List Char) :
    Option (Yaml × Option Yaml × List Char) :=
  match fuel with
  | 0 => none
  | fuel + 1 =>
    if endsEntry s then some (key, some .empty, s)
    else
      match flowValue? fuel indent s with
      | none => none
      | some (value, rest) => some (key, some value, skipFlow false rest)

/-- The items of a flow list up to its closing bracket. -/
def flowItems? (fuel indent : Nat) (s : List Char) : Option (List Yaml × List Char) :=
  match fuel with
  | 0 => none
  | fuel + 1 =>
    match s with
    | ']' :: rest => some ([], rest)
    | _ =>
      match flowEntry? fuel indent s with
      | none => none
      | some (first, value?, rest) =>
        let item := match value? with
          | some value => Yaml.map [(first, value)]
          | none => first
        match rest with
        | ',' :: rest =>
          (flowItems? fuel indent (skipFlow false rest)).map fun p => (item :: p.1, p.2)
        | ']' :: rest => some ([item], rest)
        | _ => none

/-- The entries of a flow map up to its closing brace. -/
def flowEntries? (fuel indent : Nat) (s : List Char) : Option (List (Yaml × Yaml) × List Char) :=
  match fuel with
  | 0 => none
  | fuel + 1 =>
    match s with
    | '\x7d' :: rest => some ([], rest)
    | _ =>
      match flowEntry? fuel indent s with
      | none => none
      | some (key, value?, rest) =>
        let entry := (key, value?.getD .empty)
        match rest with
        | ',' :: rest =>
          (flowEntries? fuel indent (skipFlow false rest)).map fun p => (entry :: p.1, p.2)
        | '\x7d' :: rest => some ([entry], rest)
        | _ => none

end

/-- Whether a list item starts here. -/
def isDash : List Char → Bool
  | '-' :: rest => atGap rest
  | _ => false

/-- A value that may be a key of a block map: a scalar, or a collection in flow form. -/
def keyValue? (fuel : Nat) (s : List Char) : Option (Yaml × List Char) :=
  match s with
  | '[' :: _ | '\x7b' :: _ => flowValue? fuel 0 s
  | '\'' :: _ | '"' :: _ => (quoted? s).map fun p => (.scalar false (String.ofList p.1), p.2)
  | _ =>
    if canStartPlain false s then
      (plainScalar? false true 0 fuel s).map fun p => (.scalar true (String.ofList p.1), p.2)
    else none

/-- A key of a block map, and what follows its colon; a gap has to follow. -/
def blockKey? (fuel : Nat) (s : List Char) : Option (Yaml × List Char) :=
  (keyOnLine? (keyValue? fuel) s).filter fun p => atGap p.2

/-- Whether a block scalar starts here. -/
def startsBlockScalar : List Char → Bool
  | '|' :: _ | '>' :: _ => true
  | _ => false

/-- A value on the line where it was announced, inside a collection at column `parent`, and the
next place after it; `fuel` bounds the number of values and words read. -/
def sameLineValue? (fuel : Nat) (parent : Option Nat) (s : List Char) : Option (Yaml × Place) :=
  let indent := parent.elim 0 (· + 1)
  let block (folded : Bool) (rest : List Char) : Option (Yaml × Place) :=
    match blockScalar? folded parent rest with
    | none => none
    | some (text, column, rest) =>
      (significant false column rest).map fun p => (.scalar false (String.ofList text), p)
  match s with
  | '|' :: rest => block false rest
  | '>' :: rest => block true rest
  | '[' :: _ | '\x7b' :: _ =>
    match flowValue? fuel indent s with
    | none => none
    | some (value, rest) => (afterLine rest).map fun p => (value, p)
  | '\'' :: _ | '"' :: _ =>
    match quoted? s with
    | none => none
    | some (text, rest) =>
      (afterLine rest).map fun p => (.scalar false (String.ofList text), p)
  | _ =>
    if canStartPlain false s then
      match plainScalar? false false indent fuel s with
      | none => none
      | some (text, rest) =>
        (afterPlain indent rest).map fun p => (.scalar true (String.ofList text), p)
    else none

mutual

/-- A value that starts at a place, inside a collection at column `parent`, and the next place
after it; `fuel` bounds the number of values, words and entries read. -/
def blockValue? (fuel : Nat) (parent : Option Nat) (p : Place) : Option (Yaml × Place) :=
  match fuel with
  | 0 => none
  | fuel + 1 =>
    if isDash p.rest then
      (blockItems? fuel p.column p).map fun r => (.list r.1, r.2)
    else if (blockKey? fuel p.rest).isSome then
      (blockEntries? fuel p.column p).map fun r => (.map r.1, r.2)
    else sameLineValue? fuel parent p.rest

/-- The items of a block list whose dashes stand at `column`. -/
def blockItems? (fuel : Nat) (column : Nat) (p : Place) : Option (List Yaml × Place) :=
  match fuel with
  | 0 => none
  | fuel + 1 =>
    if p.isEnd || p.column ≠ column || !isDash p.rest then some ([], p)
    else
      let after := p.rest.drop 1
      let item := after.dropWhile (· = ' ')
      let read : Option (Yaml × Place) :=
        if item.head? = some '\t' then none
        else if lineIsDone item then
          match afterLine item with
          | none => none
          | some q =>
            if q.isEnd then some (.empty, q)
            else if q.column > column then blockValue? fuel (some column) q
            else if q.column = column && startsBlockScalar q.rest then
              sameLineValue? fuel (some column) q.rest
            else some (.empty, q)
        else
          blockValue? fuel (some column)
            ⟨column + 1 + (after.takeWhile (· = ' ')).length, item⟩
      match read with
      | none => none
      | some (value, q) => (blockItems? fuel column q).map fun r => (value :: r.1, r.2)

/-- The entries of a block map whose keys stand at `column`. -/
def blockEntries? (fuel : Nat) (column : Nat) (p : Place) : Option (List (Yaml × Yaml) × Place) :=
  match fuel with
  | 0 => none
  | fuel + 1 =>
    if p.isEnd || p.column < column then some ([], p)
    else if p.column ≠ column then none
    else
      match blockKey? fuel p.rest with
      | none => none
      | some (key, rest) =>
        let rest := rest.dropWhile isBlank
        let read : Option (Yaml × Place) :=
          if lineIsDone rest then
            match afterLine rest with
            | none => none
            | some q =>
              if q.isEnd then some (.empty, q)
              else if q.column > column then blockValue? fuel (some column) q
              else if q.column = column && isDash q.rest then
                (blockItems? fuel column q).map fun r => (.list r.1, r.2)
              else if q.column = column && startsBlockScalar q.rest then
                sameLineValue? fuel (some column) q.rest
              else some (.empty, q)
          else sameLineValue? fuel (some column) rest
        match read with
        | none => none
        | some (value, q) => (blockEntries? fuel column q).map fun r => ((key, value) :: r.1, r.2)

end

/-- Line breaks as one character each, and as newlines unless they separate lines or paragraphs. -/
def unifyBreaks : List Char → List Char
  | '\r' :: '\n' :: rest => '\n' :: unifyBreaks rest
  | '\r' :: rest => '\n' :: unifyBreaks rest
  | '\u0085' :: rest => '\n' :: unifyBreaks rest
  | c :: rest => c :: unifyBreaks rest
  | [] => []

/-- Whether a character may stand in a document. -/
def isPermitted (c : Char) : Bool :=
  let n := c.toNat
  n = 0x9 || n = 0xA || n = 0xD || (0x20 ≤ n && n ≤ 0x7E) || n = 0x85 ||
    (0xA0 ≤ n && n ≤ 0xFFFD) || 0x10000 ≤ n

/-- Whether nothing but marks of the document's end follows. -/
def isLast (fuel : Nat) (p : Place) : Bool :=
  match fuel, p.rest with
  | _, [] => true
  | n + 1, '.' :: '.' :: '.' :: rest => p.isEnd && (afterLine rest).any (isLast n)
  | _, _ => false

/-- The value of a document from its first place on.  A mark before the document may have a value
on its line, which is no block collection. -/
def document? (fuel : Nat) (p : Place) : Option Yaml :=
  let value? : Option (Yaml × Place) := match p.rest with
    | [] => some (.empty, p)
    | '-' :: '-' :: '-' :: rest =>
      if !p.isEnd then blockValue? fuel none p
      else if lineIsDone rest then
        match afterLine rest with
        | none => none
        | some q => if q.isEnd then some (.empty, q) else blockValue? fuel none q
      else sameLineValue? fuel none (rest.dropWhile isBlank)
    | _ => if p.isEnd then none else blockValue? fuel none p
  match value? with
  | some (value, q) => if isLast fuel q then some value else none
  | none => none

/-- The value of a document.  A text without any content is a place where nothing is written; one
that is not of the form described above has no value. -/
def read? (text : String) : Option Yaml :=
  let s := match text.toList with
    | '\ufeff' :: rest => rest
    | s => s
  if s.all isPermitted then
    let s := unifyBreaks s
    (significant false 0 s).bind (document? (4 * s.length + 4))
  else none

end CostView.Yaml
