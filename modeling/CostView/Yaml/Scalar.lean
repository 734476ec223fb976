/-!
# Scalars of a settings document

A scalar may run over several lines.  Between two of its lines the blanks at both ends are dropped
and a single line break becomes a space, while of several breaks the first is dropped and the
others stay.  Only block scalars can keep their breaks as they are.
-/

namespace CostView.Yaml

/-- A blank inside a line. -/
def isBlank (c : Char) : Bool :=
  c = ' ' || c = '\t'

/-- A line break.  Breaks that are bound to be read as a newline are one already. -/
def isBreak (c : Char) : Bool :=
  c = '\n' || c = '\u2028' || c = '\u2029'

/-- A blank or a line break. -/
def isGap (c : Char) : Bool :=
  isBlank c || isBreak c

/-- Whether a text starts with a blank or a line break, or has ended. -/
def atGap : List Char → Bool
  | [] => true
  | c :: _ => isGap c

/-- Whether a text starts with a mark between documents.  It counts at the start of a line. -/
def isDocumentMark : List Char → Bool
  | '-' :: '-' :: '-' :: rest | '.' :: '.' :: '.' :: rest => atGap rest
  | _ => false

/-- What remains of consecutive line breaks.  A separator of lines or paragraphs always stays. -/
def foldBreaks : List Char → List Char
  | ['\n'] => [' ']
  | '\n' :: breaks => breaks
  | breaks => breaks

/-- A part of a quoted scalar: a character as it stands, a character that was escaped and takes
no part in folding, or an escaped line break. -/
inductive Piece where
  | plain (c : Char)
  | solid (c : Char)
  | joint
deriving DecidableEq, Repr

/-- Blanks and breaks that wait for the next character of a scalar. -/
structure Pending where
  blanks : List Char
  breaks : List Char
  joined : Bool

/-- What waiting blanks and breaks become. -/
def Pending.flush (p : Pending) : List Char :=
  if p.joined then p.breaks
  else if p.breaks = [] then p.blanks
  else foldBreaks p.breaks

/-- Nothing waits. -/
def Pending.none : Pending := ⟨[], [], false⟩

/-- The text of a quoted scalar. -/
def foldPieces (p : Pending) : List Piece → List Char
  | [] => p.flush
  | .plain c :: rest =>
    if isBreak c then foldPieces { p with blanks := [], breaks := p.breaks ++ [c] } rest
    else if isBlank c then
      if p.breaks ≠ [] || p.joined then foldPieces p rest
      else foldPieces { p with blanks := p.blanks ++ [c] } rest
    else p.flush ++ c :: foldPieces .none rest
  | .solid c :: rest => p.flush ++ c :: foldPieces .none rest
  | .joint :: rest => p.flush ++ foldPieces ⟨[], [], true⟩ rest

/-- Whether a quoted scalar may not go on after a character: a mark between documents follows on a
new line. -/
def cutsQuoted (c : Char) (rest : List Char) : Bool :=
  isBreak c && isDocumentMark rest

/-- After an opening single quote: the scalar and what follows its closing quote. -/
def scanSingle : List Char → Option (List Piece × List Char)
  | '\'' :: '\'' :: rest => (scanSingle rest).map fun p => (.solid '\'' :: p.1, p.2)
  | '\'' :: rest => some ([], rest)
  | c :: rest =>
    if cutsQuoted c rest then none
    else (scanSingle rest).map fun p => (.plain c :: p.1, p.2)
  | [] => none

/-- The value of a hexadecimal digit. -/
def hexDigit? (c : Char) : Option Nat :=
  if c.isDigit then some (c.toNat - '0'.toNat)
  else if 'a' ≤ c && c ≤ 'f' then some (c.toNat - 'a'.toNat + 10)
  else if 'A' ≤ c && c ≤ 'F' then some (c.toNat - 'A'.toNat + 10)
  else none

/-- The character with the code point of the given hexadecimal digits. -/
def hexChar? (digits : List Char) : Option Char :=
  match digits.mapM hexDigit? with
  | some values =>
    let n := values.foldl (fun n d => 16 * n + d) 0
    if n.isValidChar then some (Char.ofNat n) else none
  | none => none

/-- The character that a letter stands for after a backslash. -/
def escape? (c : Char) : Option Char :=
  match c with
  | '0' => some '\x00'
  | 'a' => some '\x07'
  | 'b' => some '\x08'
  | 't' | '\t' => some '\t'
  | 'n' => some '\n'
  | 'v' => some '\x0b'
  | 'f' => some '\x0c'
  | 'r' => some '\r'
  | 'e' => some '\x1b'
  | ' ' => some ' '
  | '"' => some '"'
  | '/' => some '/'
  | '\\' => some '\\'
  | 'N' => some '\u0085'
  | '_' => some '\u00a0'
  | 'L' => some '\u2028'
  | 'P' => some '\u2029'
  | _ => none

/-- The number of hexadecimal digits after a letter that announces a code point. -/
def hexLength? (c : Char) : Option Nat :=
  match c with
  | 'x' => some 2
  | 'u' => some 4
  | 'U' => some 8
  | _ => none

/-- After an opening double quote: the scalar and what follows its closing quote.  `skip` counts
characters that belong to an escape already read. -/
def scanDouble (skip : Nat) : List Char → Option (List Piece × List Char)
  | [] => none
  | c :: rest =>
    match skip with
    | n + 1 => scanDouble n rest
    | 0 =>
      if c = '"' then some ([], rest)
      else if c = '\\' then
        match rest with
        | [] => none
        | d :: more =>
          if isBreak d then
            if isDocumentMark more then none
            else (scanDouble 1 rest).map fun p => (.joint :: p.1, p.2)
          else
            match hexLength? d with
            | some n =>
              match hexChar? (more.take n) with
              | some x =>
                if more.length < n then none
                else (scanDouble (n + 1) rest).map fun p => (.solid x :: p.1, p.2)
              | none => none
            | none =>
              match escape? d with
              | some x => (scanDouble 1 rest).map fun p => (.solid x :: p.1, p.2)
              | none => none
      else if cutsQuoted c rest then none
      else (scanDouble 0 rest).map fun p => (.plain c :: p.1, p.2)

/-- A quoted scalar at the front of a text, and what follows it. -/
def quoted? : List Char → Option (List Char × List Char)
  | '\'' :: rest => (scanSingle rest).map fun p => (foldPieces .none p.1, p.2)
  | '"' :: rest => (scanDouble 0 rest).map fun p => (foldPieces .none p.1, p.2)
  | _ => none

/-- The marks of flow collections, which end a plain scalar inside one. -/
def isFlowMark (c : Char) : Bool :=
  c = ',' || c = '[' || c = ']' || c = '\x7b' || c = '\x7d'

/-- Characters that cannot start a plain scalar. -/
def isIndicator (c : Char) : Bool :=
  isFlowMark c || c ∈ ['-', '?', ':', '#', '&', '*', '!', '|', '>', '\'', '"', '%', '@', '\u0060']

/-- Whether a plain scalar may start here. -/
def canStartPlain (flow : Bool) : List Char → Bool
  | [] => false
  | c :: rest =>
    (!isGap c && !isIndicator c) ||
    (c = '-' && !atGap rest) ||
    (!flow && (c = '?' || c = ':') && !atGap rest)

/-- A run of non-blank characters of a plain scalar, and what follows.  A colon before a gap ends
it; inside a flow collection so do the marks of one, and a colon right before such a mark is an
error. -/
def plainWord (flow : Bool) : List Char → Option (List Char × List Char)
  | [] => some ([], [])
  | c :: rest =>
    if isGap c then some ([], c :: rest)
    else if c = ':' && atGap rest then some ([], c :: rest)
    else if flow && c = ':' && (rest.head?.any fun d => isFlowMark d || d = '?') then none
    else if flow && isFlowMark c then some ([], c :: rest)
    else (plainWord flow rest).map fun p => (c :: p.1, p.2)

/-- The last line in a gap; the gap itself if it has no break. -/
def lastLine (gap : List Char) : List Char :=
  (gap.reverse.takeWhile (!isBreak ·)).reverse

/-- What a gap between two words of a plain scalar becomes. -/
def foldGap (gap : List Char) : List Char :=
  match gap.filter isBreak with
  | [] => gap
  | breaks => foldBreaks breaks

/-- Whether a line in a gap is indented by a tab before the column `indent`. -/
def hasTabIndent (indent : Nat) (gap : List Char) : Bool :=
  (gap.foldl (fun (s : Bool × Nat × Bool) c =>
      let (found, column, started) := s
      if isBreak c then (found, 0, true)
      else if started && c = '\t' && column < indent then (true, column + 1, started)
      else (found, column + 1, started)) (false, 0, false)).1

/-- Whether a plain scalar goes on after a gap.  Outside flow collections every further line has
to be indented by `indent`. -/
def plainContinues (flow oneLine : Bool) (indent : Nat) (gap rest : List Char) : Bool :=
  let broken := gap.any isBreak
  match rest with
  | [] => false
  | c :: _ =>
    c ≠ '#' && !(broken && oneLine) &&
    !(broken && (lastLine gap).isEmpty && isDocumentMark rest) &&
    (flow || !broken || indent ≤ (lastLine gap).length)

/-- A plain scalar at the front of a text, and what follows it from the gap after it on, in at most
`words` words. -/
def plainScalar? (flow oneLine : Bool) (indent : Nat) (words : Nat) (s : List Char) :
    Option (List Char × List Char) :=
  match words with
  | 0 => none
  | n + 1 =>
    match plainWord flow s with
    | none => none
    | some (word, rest) =>
      let gap := rest.takeWhile isGap
      let next := rest.dropWhile isGap
      if hasTabIndent indent gap && !oneLine then none
      else if gap = [] || !plainContinues flow oneLine indent gap next then some (word, rest)
      else
        match plainScalar? flow oneLine indent n next with
        | none => none
        | some ([], _) => some (word, rest)
        | some (more, rest') => some (word ++ foldGap gap ++ more, rest')

/-- What happens to the line breaks at the end of a block scalar. -/
inductive Chomping where
  | strip
  | clip
  | keep
deriving DecidableEq, Repr

/-- The first line of a block scalar. -/
structure BlockHeader where
  folded : Bool
  chomping : Chomping
  indent : Option Nat
deriving DecidableEq, Repr

/-- The marks after `|` or `>`: at most one chomping mark and one indentation, in either order. -/
def BlockHeader.marks (h : BlockHeader) (seenChomping : Bool) :
    List Char → Option (BlockHeader × List Char)
  | [] => some (h, [])
  | c :: rest =>
    if c = '+' || c = '-' then
      if seenChomping then none
      else marks { h with chomping := if c = '+' then .keep else .strip } true rest
    else if c.isDigit then
      if c = '0' || h.indent.isSome then none
      else marks { h with indent := some (c.toNat - '0'.toNat) } seenChomping rest
    else some (h, c :: rest)

/-- Read empty lines and indentation before a line of a block scalar: the breaks read, the deepest
indentation seen, the column reached and what follows.  No more than `limit` spaces are taken as
indentation. -/
def blockBreaks (limit : Option Nat) (column deepest : Nat) :
    List Char → Option (List Char × Nat × Nat × List Char)
  | [] => some ([], max deepest column, column, [])
  | c :: rest =>
    let indenting := limit.all fun n => column < n
    if c = ' ' && indenting then blockBreaks limit (column + 1) deepest rest
    else if c = '\t' && indenting then none
    else if isBreak c then
      (blockBreaks limit 0 (max deepest column) rest).map fun p => (c :: p.1, p.2)
    else some ([], max deepest column, column, c :: rest)

/-- A line, its break if it has one, and what follows. -/
def splitLine (s : List Char) : List Char × List Char × List Char :=
  let line := s.takeWhile (!isBreak ·)
  match s.dropWhile (!isBreak ·) with
  | [] => (line, [], [])
  | c :: rest => (line, [c], rest)

/-- The lines of a block scalar from one that is indented by `indent`, at most `n` of them.
`before` is the break after the last line, if there was one, `breaks` are those of the empty lines
since then, and `blankBefore` tells whether the last line began with a blank. -/
def blockLines (h : BlockHeader) (indent : Nat) (before breaks : List Char) (blankBefore : Bool)
    (n : Nat) (column : Nat) (s : List Char) : Option (List Char × Nat × List Char) :=
  let tail := (if h.chomping ≠ .strip then before else []) ++
    (if h.chomping = .keep then breaks else [])
  match n with
  | 0 => none
  | n + 1 =>
    if column ≠ indent || s.isEmpty then
      some (tail, column, s)
    else
      let blank := match s with
        | c :: _ => isBlank c
        | [] => false
      let joint :=
        if h.folded && before = ['\n'] && !blankBefore && !blank then
          (if breaks = [] then [' '] else breaks)
        else before ++ breaks
      let (line, ended, rest) := splitLine s
      match blockBreaks (some indent) 0 0 rest with
      | none => none
      | some (more, _, column, rest) =>
        (blockLines h indent ended more blank n column rest).map fun p =>
          (joint ++ line ++ p.1, p.2)

/-- A block scalar inside a collection whose entries stand at column `parent`; `s` follows its
`|` or `>`.  The result is the text, and the column and text of what follows it. -/
def blockScalar? (folded : Bool) (parent : Option Nat) (s : List Char) :
    Option (List Char × Nat × List Char) :=
  match BlockHeader.marks ⟨folded, .clip, none⟩ false s with
  | none => none
  | some (h, rest) =>
    let (line, _, rest) := splitLine rest
    match line.dropWhile isBlank with
    | c :: _ => if c = '#' then body h rest else none
    | [] => body h rest
where
  /-- The lines after the first. -/
  body (h : BlockHeader) (rest : List Char) : Option (List Char × Nat × List Char) :=
    let least := match parent with
      | some n => n + 1
      | none => 1
    let explicit := h.indent.map fun n => (parent.getD 0) + n
    match blockBreaks explicit 0 0 rest with
    | none => none
    | some (breaks, deepest, column, rest) =>
      let indent := explicit.getD (max deepest least)
      blockLines h indent [] breaks false (rest.length + 1) column rest

end CostView.Yaml
