import CostView.Proofs.CatalogCalls

/-!
# Warnings about columns that became NULL

A compilation collects notices, and the journal of the process decides which of them are given as
messages.  Two things hold of every sequence of compilations, whether they succeed or fail and over
whatever compilers and engines they run: no message is given twice about one subject, and no column
or key becomes NULL for want of a source column without a message about it.

The first is an invariant of the journal alone.  For the second a notice is followed from the value
that it is about outwards: through the column, the columns before it, the definition and the
compilation.  That covers compilations that fail at a later column, since the columns before it were
rendered all the same.
-/

namespace CostView

/-! ### The journal -/

namespace Notice

/-- Whether a notice is one that is given once, of a kind and about a subject. -/
def isAbout (kind : DiagnosticKind) (subject : String) : Notice → Bool
  | .line _ _ => false
  | .once ownKind ownSubject _ => ownKind = kind && ownSubject = subject

/-- The message of a notice. -/
def message : Notice → Level × String
  | .line level text => (level, text)
  | .once kind _ text => (kind.level, text)

theorem isAbout_iff {kind : DiagnosticKind} {subject : String} {notice : Notice} :
    notice.isAbout kind subject = true ↔ ∃ text, notice = .once kind subject text := by
  cases notice with
  | line level text => simp [isAbout]
  | once ownKind ownSubject text => simp [isAbout]

end Notice

namespace Journal

variable {kind : DiagnosticKind} {subject : String}

/-- Whether a notice is given as a message. -/
def gives (j : Journal) : Notice → Bool
  | .line _ _ => true
  | .once kind subject _ => !j.wasReported kind subject

/-- Those of the notices that are given as messages when they are entered in order. -/
def given (j : Journal) : List Notice → List Notice
  | [] => []
  | notice :: rest =>
    if j.gives notice then notice :: given (j.note notice) rest else given (j.note notice) rest

@[simp] theorem wasReported_empty : empty.wasReported kind subject = false := rfl

/-- What was reported before, and what is reported now. -/
theorem wasReported_note (j : Journal) (notice : Notice) :
    (j.note notice).wasReported kind subject =
      (j.wasReported kind subject || notice.isAbout kind subject) := by
  cases notice with
  | line level text => simp [note, wasReported, Notice.isAbout]
  | once ownKind ownSubject text =>
      rw [note]
      split
      · next hown =>
          by_cases hsame : ownKind = kind ∧ ownSubject = subject
          · obtain ⟨rfl, rfl⟩ := hsame
            simp [hown]
          · have hother : (Notice.once ownKind ownSubject text).isAbout kind subject = false := by
              simpa [Notice.isAbout] using hsame
            rw [hother, Bool.or_false]
      · simp [wasReported, Notice.isAbout, Bool.or_comm, eq_comm]

/-- What is not given is left out of the journal, and leaves no trace in it. -/
theorem note_of_not_gives {j : Journal} {notice : Notice} (h : ¬ j.gives notice = true) :
    j.note notice = j := by
  cases notice with
  | line level text => exact absurd rfl h
  | once ownKind ownSubject text => rw [note, if_pos (by simpa [gives] using h)]

/-- The journal holds the messages of the notices that are given. -/
theorem lines_noteAll (j : Journal) (notices : List Notice) :
    (j.noteAll notices).lines = j.lines ++ (j.given notices).map Notice.message := by
  induction notices generalizing j with
  | nil => simp [noteAll, given]
  | cons notice rest ih =>
      have hstep : j.noteAll (notice :: rest) = (j.note notice).noteAll rest := rfl
      rw [hstep, ih, given]
      by_cases hgives : j.gives notice = true
      · have hline : (j.note notice).lines = j.lines ++ [notice.message] := by
          cases notice with
          | line level text => rfl
          | once kind subject text => rw [note, if_neg (by simpa [gives] using hgives)]; rfl
        rw [if_pos hgives, hline, List.map_cons, List.append_assoc, List.singleton_append]
      · rw [if_neg hgives, note_of_not_gives hgives]

/-- One message is given about a subject that there are notices about, unless one was given
before. -/
theorem countP_given (j : Journal) (notices : List Notice) :
    (j.given notices).countP (Notice.isAbout kind subject) =
      if j.wasReported kind subject = false ∧ ∃ n ∈ notices, n.isAbout kind subject = true then 1
      else 0 := by
  induction notices generalizing j with
  | nil => simp [given]
  | cons notice rest ih =>
      have hrest := ih (j.note notice)
      rw [wasReported_note] at hrest
      by_cases habout : notice.isAbout kind subject = true
      · -- After this notice the subject has been reported, so nothing more is given about it.
        rw [habout, Bool.or_true, if_neg (by simp)] at hrest
        have hgives : j.gives notice = !j.wasReported kind subject := by
          obtain ⟨text, rfl⟩ := Notice.isAbout_iff.mp habout
          rfl
        rw [given, hgives]
        cases hreported : j.wasReported kind subject with
        | true => simp [hrest]
        | false => simp [hrest, habout]
      · rw [Bool.eq_false_of_not_eq_true habout, Bool.or_false] at hrest
        have hcount : (j.given (notice :: rest)).countP (Notice.isAbout kind subject) =
            ((j.note notice).given rest).countP (Notice.isAbout kind subject) := by
          rw [given]
          split
          · rw [List.countP_cons_of_neg habout]
          · rfl
        rw [hcount, hrest]
        simp [habout]

/-- What is entered later changes nothing about what was given before. -/
theorem given_append (j : Journal) (notices more : List Notice) :
    j.given (notices ++ more) = j.given notices ++ (j.noteAll notices).given more := by
  induction notices generalizing j with
  | nil => rfl
  | cons notice rest ih =>
      have hstep : j.noteAll (notice :: rest) = (j.note notice).noteAll rest := rfl
      rw [List.cons_append, given, given, ih, hstep]
      split <;> rfl

end Journal

/-! ### Notices about what becomes NULL -/

section Synthesis

variable {table : FieldTable} {isThere : String → Bool} {container : MapField}

/-- Notices hold one about a subject for which a source column is missing. -/
def Warns (notices : List Notice) (subject : String) : Prop :=
  ∃ text, Notice.once .missingRequirement subject text ∈ notices

theorem Warns.mono {notices more : List Notice} {subject : String} (h : Warns notices subject)
    (hsubset : notices ⊆ more) : Warns more subject := by
  obtain ⟨text, hmem⟩ := h
  exact ⟨text, hsubset hmem⟩

theorem warns_synthesizeCells {keys : List String} {key literal : String}
    (h : (key, .null literal) ∈ (synthesizeCells table isThere container keys).value) :
    Warns (synthesizeCells table isThere container keys).notices
      (container.name ++ "['" ++ key ++ "']") := by
  induction keys with
  | nil => cases h
  | cons first rest ih =>
      rw [synthesizeCells] at h ⊢
      simp only [Noted.value_bind, Noted.value_pure, List.mem_cons] at h
      rcases h with hfirst | hrest
      · -- The cell of a key is NULL only in the branch that gives the notice.
        refine Warns.mono ?_ (List.subset_append_left _ _)
        rw [synthesizeCell] at hfirst ⊢
        split at hfirst
        · cases hfirst
        · next hmissing =>
            cases hfirst
            rw [if_neg hmissing]
            exact ⟨_, List.mem_cons_self⟩
      · exact (ih hrest).mono fun n hn => List.mem_append_right _ (List.mem_append_left _ hn)

theorem warns_synthesizeNull {target : Generation} {field requirement : String}
    {type : Option SqlType} {value : ColumnValue}
    (h : (synthesizeNull target field requirement type).value = .ok value) :
    Warns (synthesizeNull target field requirement type).notices field := by
  obtain ⟨known, literal, rfl, hliteral, -⟩ := value_synthesizeNull_eq_ok_iff.mp h
  rw [synthesizeNull]
  simp only [hliteral]
  exact ⟨_, List.mem_cons_self⟩

theorem warns_synthesize_of_missing {target : Generation} {field : String} {type : Option SqlType}
    {e : Expr} {requirements : List String} {keys : Std.ExtTreeSet String} {value : ColumnValue}
    (hmissing : ∃ r ∈ requirements, isThere r = false)
    (h : (synthesize table target isThere field type (.derived e requirements) keys).value =
      .ok value) :
    Warns (synthesize table target isThere field type (.derived e requirements) keys).notices
      field := by
  cases hfind : requirements.find? fun r => !isThere r with
  | none =>
      obtain ⟨r, hr, hnot⟩ := hmissing
      have hthere := List.find?_eq_none.mp hfind r hr
      rw [hnot] at hthere
      exact absurd rfl hthere
  | some requirement =>
      rw [synthesize, hfind] at h ⊢
      exact warns_synthesizeNull h

theorem warns_synthesize_of_null {target : Generation} {field key literal : String}
    {type : Option SqlType} {keys : Std.ExtTreeSet String} (hkeys : keys ≠ ∅)
    (h : (key, .null literal) ∈ keys.toList.map (assembledCell table isThere container)) :
    Warns (synthesize table target isThere field type (.assembly container) keys).notices
      (container.name ++ "['" ++ key ++ "']") := by
  rw [← value_synthesizeCells] at h
  rw [synthesize, if_neg (by simpa using hkeys)]
  exact (warns_synthesizeCells h).mono (List.subset_append_left _ _)

end Synthesis

namespace Compiler

variable {c : Compiler} {s : ViewState} {column subject : String} {value : ColumnValue}

/-- A value is NULL, or holds a NULL, for want of a source column, and this is what a message about
it is about: the column itself, or a key of an assembled map. -/
inductive NullFor (c : Compiler) (column : String) : ColumnValue → String → Prop
  | column {resolution : Resolution} {literal : String}
      (resolved : (c.crosswalk.resolve column).value = .ok resolution)
      (missing : ∃ r ∈ resolution.requirements, c.source.hasRequirement r = false) :
      NullFor c column (.null literal) column
  | key {cells : List (String × Cell)} {key literal : String}
      (valued : (key, .null literal) ∈ cells) :
      NullFor c column (.map cells) (column ++ "['" ++ key ++ "']")

/-- Rendering a column gives a notice about every NULL in it. -/
theorem warns_renderColumn (h : c.Renders s column value) (hnull : c.NullFor column value subject) :
    Warns (c.renderColumn s column).notices subject := by
  obtain ⟨resolution, hresolve, hyields⟩ := h
  have hnotices : (synthesize c.table c.target c.source.hasRequirement column
      (c.targetType? s column) resolution (s.keysOf column)).notices ⊆
        (c.renderColumn s column).notices := by
    rw [renderColumn, Noted.notices_bind, hresolve]
    exact fun n hn => List.mem_append_right _ (List.mem_append_left _ hn)
  have hvalue := value_synthesize_eq_ok_iff.mpr hyields
  refine Warns.mono ?_ hnotices
  cases hnull with
  | column resolved missing =>
      obtain rfl := Except.ok.inj (hresolve.symm.trans resolved)
      cases resolution with
      | assembly container => simp [Resolution.requirements] at missing
      | derived e requirements => exact warns_synthesize_of_missing missing hvalue
  | @key cells key literal valued =>
      cases hyields with
      | @map container keyed =>
          obtain ⟨-, -, hmap⟩ := Crosswalk.of_value_resolve_eq_assembly hresolve
          obtain ⟨-, rfl⟩ := FieldTable.of_mapField? hmap
          exact warns_synthesize_of_null keyed valued

/-- So does rendering several columns, whatever becomes of those after it. -/
theorem notices_renderColumn_subset {before after : List String}
    (hbefore : ∀ n ∈ before, ∃ v, c.Renders s n v) :
    (c.renderColumn s column).notices ⊆
      (c.renderColumns s (before ++ column :: after)).notices := by
  induction before with
  | nil =>
      rw [List.nil_append, renderColumns, Noted.notices_bind]
      exact List.subset_append_left _ _
  | cons first rest ih =>
      obtain ⟨v, hv⟩ := hbefore first List.mem_cons_self
      have hfirst : (c.renderColumn s first).value = .ok ⟨first, v⟩ :=
        value_renderColumn_eq_ok_iff.mpr ⟨rfl, hv⟩
      have hrest := ih fun n hn => hbefore n (List.mem_cons_of_mem first hn)
      rw [List.cons_append, renderColumns, Noted.notices_bind, hfirst]
      exact fun n hn => List.mem_append_right _ (List.mem_append_left _ (hrest hn))

/-- The notices of a compilation that is not skipped hold those of rendering its goal. -/
theorem notices_render_subset {σ : Type} (engine : Engine σ) {snapshot : Snapshot}
    {request : Request} (h : ¬ c.UpToDate snapshot request) (world : σ) :
    (c.render (c.goal engine snapshot request world)).notices ⊆
      (c.compile engine snapshot request world).notices := by
  have hdeploy (t : ViewState) (later : σ) :
      (c.render t).notices ⊆ (c.deploy engine t later).notices :=
    fun n hn => List.mem_append_left _ (List.mem_append_left _ hn)
  cases snapshot with
  | fresh => exact fun n hn => List.mem_append_right _ (hdeploy _ _ hn)
  | compiled known =>
      have hcovers : known.covers (c.exposuresOf request).toList = false := by
        rw [← Bool.not_eq_true]
        exact fun hcovers => h ⟨known, rfl, ViewState.covers_iff.mp hcovers⟩
      rw [compile]
      simp only [hcovers]
      exact hdeploy _ world

end Compiler

/-! ### Compilations of one process -/

/-- A compilation, of whatever compiler over whatever engine. -/
structure Invocation where
  World : Type
  compiler : Compiler
  engine : Engine World
  snapshot : Snapshot
  request : Request
  world : World

namespace Invocation

variable {call : Invocation} {column subject : String} {value : ColumnValue}

/-- The notices of a compilation, whether it succeeds or not. -/
def notices (call : Invocation) : List Notice :=
  (call.compiler.compile call.engine call.snapshot call.request call.world).notices

/-- The state that a compilation renders. -/
def goal (call : Invocation) : ViewState :=
  call.compiler.goal call.engine call.snapshot call.request call.world

/-- A compilation renders a column as a value: it is not skipped, and it reaches the column, since
those before it can be rendered. -/
def Renders (call : Invocation) (column : String) (value : ColumnValue) : Prop :=
  ¬ call.compiler.UpToDate call.snapshot call.request ∧
    (∃ before after, call.goal.columnNames = before ++ column :: after ∧
      ∀ n ∈ before, ∃ v, call.compiler.Renders call.goal n v) ∧
    call.compiler.Renders call.goal column value

/-- The definition that a compilation executes, if it executes one. -/
def definition? (call : Invocation) : Option ViewDefinition :=
  ((call.compiler.compile call.engine call.snapshot call.request).result
    call.world).1.toOption.bind Outcome.definition

/-- It is the rendering of the goal. -/
theorem render_of_definition? {d : ViewDefinition} (h : call.definition? = some d) :
    ¬ call.compiler.UpToDate call.snapshot call.request ∧
      (call.compiler.render call.goal).value = .ok d := by
  rw [definition?] at h
  by_cases hup : call.compiler.UpToDate call.snapshot call.request
  · rw [Compiler.result_compile_of_upToDate call.engine hup] at h
    cases h
  · refine ⟨hup, ?_⟩
    rw [Compiler.result_compile_of_not_upToDate call.engine hup, Compiler.result_deploy] at h
    rw [goal, Compiler.goal]
    generalize (call.compiler.start call.engine call.snapshot).result call.world = started at h ⊢
    cases hrender : (call.compiler.render
        (started.1.extend (call.compiler.requested call.request))).value with
    | error e =>
        rw [hrender] at h
        cases h
    | ok own =>
        simp only [hrender] at h
        generalize (call.engine.execute own.sql).result started.2 = executed at h
        rcases executed with ⟨e | ⟨⟩, later⟩
        · cases h
        · exact congrArg Except.ok (Option.some.inj h)

/-- All that is in an executed definition was rendered by the compilation that executed it. -/
theorem renders_of_definition? {d : ViewDefinition} {item : SelectItem}
    (hd : call.definition? = some d) (hitem : item ∈ d.items) :
    call.Renders item.column item.value := by
  obtain ⟨hstale, hrender⟩ := render_of_definition? hd
  obtain ⟨-, -, hitems⟩ := Compiler.value_render_eq_ok_iff.mp hrender
  obtain ⟨column, hcolumn, rfl, hvalue⟩ := Compiler.exists_column hitems hitem
  obtain ⟨before, after, hsplit⟩ := List.append_of_mem hcolumn
  refine ⟨hstale, ⟨before, after, hsplit, fun n hn => ?_⟩, hvalue⟩
  refine Compiler.exists_render_iff.mp ⟨d, hrender⟩ n (ViewState.mem_columnNames.mp ?_)
  rw [hsplit]
  exact List.mem_append_left _ hn

/-- A compilation gives a notice about every NULL that it renders. -/
theorem warns_notices (h : call.Renders column value)
    (hnull : call.compiler.NullFor column value subject) : Warns call.notices subject := by
  obtain ⟨hstale, ⟨before, after, hsplit, hbefore⟩, hvalue⟩ := h
  have hcolumns : (call.compiler.renderColumns call.goal call.goal.columnNames).notices ⊆
      (call.compiler.render call.goal).notices := by
    rw [Compiler.render, Noted.notices_bind]
    exact List.subset_append_left _ _
  have hcolumn : (call.compiler.renderColumn call.goal column).notices ⊆
      (call.compiler.renderColumns call.goal call.goal.columnNames).notices := by
    rw [hsplit]
    exact Compiler.notices_renderColumn_subset hbefore
  have hcompiled := Compiler.notices_render_subset call.engine hstale call.world
  exact (((Compiler.warns_renderColumn hvalue hnull).mono hcolumn).mono hcolumns).mono hcompiled

/-- The journal of a process after compilations in order. -/
def journal (calls : List Invocation) : Journal :=
  calls.foldl (fun j call => j.noteAll call.notices) .empty

/-- The notices of compilations in order that are given as messages. -/
def logged (calls : List Invocation) : List Notice :=
  Journal.empty.given (calls.flatMap notices)

/-- The journal holds the messages that are given and no other. -/
theorem lines_journal (calls : List Invocation) :
    (journal calls).lines = (logged calls).map Notice.message := by
  have hjournal : journal calls = Journal.empty.noteAll (calls.flatMap notices) := by
    rw [journal, Journal.noteAll, List.foldl_flatMap]
    rfl
  rw [hjournal, Journal.lines_noteAll]
  exact List.nil_append _

/-- About each subject as many messages are given as there are notices about it, but one at
most. -/
theorem countP_logged (calls : List Invocation) (kind : DiagnosticKind) (subject : String) :
    (logged calls).countP (Notice.isAbout kind subject) =
      if ∃ call ∈ calls, ∃ n ∈ call.notices, n.isAbout kind subject = true then 1 else 0 := by
  rw [logged, Journal.countP_given]
  refine if_congr ?_ rfl rfl
  rw [Journal.wasReported_empty, and_iff_right rfl]
  constructor
  · rintro ⟨n, hn, habout⟩
    obtain ⟨call, hcall, hown⟩ := List.mem_flatMap.mp hn
    exact ⟨call, hcall, n, hown, habout⟩
  · rintro ⟨call, hcall, n, hn, habout⟩
    exact ⟨n, List.mem_flatMap.mpr ⟨call, hcall, hn⟩, habout⟩

/-- Compilations later on take no message back. -/
theorem logged_prefix (calls more : List Invocation) : logged calls <+: logged (calls ++ more) := by
  rw [logged, logged, List.flatMap_append, Journal.given_append]
  exact List.prefix_append _ _

/-- In a process that starts with an empty journal no message is given twice about one subject, and
whatever a compilation makes NULL for want of a source column has been given exactly one message by
the time it ends, whether it succeeds or not. -/
theorem warnings_of_calls (calls : List Invocation) :
    (journal calls).lines = (logged calls).map Notice.message ∧
      (∀ kind subject, (logged calls).countP (Notice.isAbout kind subject) ≤ 1) ∧
      ∀ before call after column value subject, calls = before ++ call :: after →
        call.Renders column value → call.compiler.NullFor column value subject →
          logged (before ++ [call]) <+: logged calls ∧
            (logged (before ++ [call])).countP (Notice.isAbout .missingRequirement subject) =
              1 := by
  refine ⟨lines_journal calls, fun kind subject => ?_, ?_⟩
  · rw [countP_logged]
    split <;> omega
  · intro before call after column value subject hcalls hrenders hnull
    obtain ⟨text, hnotice⟩ := warns_notices hrenders hnull
    constructor
    · have hsplit : calls = before ++ [call] ++ after := by
        rw [hcalls, List.append_assoc, List.singleton_append]
      rw [hsplit]
      exact logged_prefix _ _
    · rw [countP_logged, if_pos]
      exact ⟨call, List.mem_append_right _ List.mem_cons_self, _, hnotice,
        Notice.isAbout_iff.mpr ⟨text, rfl⟩⟩

/-- A compilation that fails at its second column has given a message about the first, and another
compiler gives no second one. -/
theorem warnings_of_calls_at_failure :
    let source : SourceTable := .ofColumns "cur" .one []
    let catalog := Catalog.ofTables ∅
    let failing : Invocation := ⟨Catalog, ⟨.builtIn, source, .one⟩, Catalog.engine, .fresh,
      ⟨.ofList [Field.plain "bill_payer_account_id", .plain "no_such_field"]⟩, catalog⟩
    let again : Invocation := ⟨Catalog, ⟨.builtIn, source, .two⟩, Catalog.engine, .fresh,
      ⟨.ofList [Field.plain "bill_payer_account_id"]⟩, catalog⟩
    (failing.compiler.render failing.goal).value.isOk = false ∧
      failing.Renders "bill_payer_account_id" (.null SqlType.nullVarchar) ∧
      again.Renders "bill_payer_account_id" (.null SqlType.nullVarchar) ∧
      (logged [failing]).countP (Notice.isAbout .missingRequirement "bill_payer_account_id") = 1 ∧
      (logged [failing, again]).countP
        (Notice.isAbout .missingRequirement "bill_payer_account_id") = 1 := by
  intro source catalog failing again
  let column := "bill_payer_account_id"
  have hmissing : ∃ r ∈ (Crosswalk.passThrough column).requirements,
      source.hasRequirement r = false :=
    ⟨column, by decide +kernel, by decide +kernel⟩
  have hresolve : (failing.compiler.crosswalk.resolve column).value =
      .ok (Crosswalk.passThrough column) := by
    decide +kernel
  have hagain : (again.compiler.crosswalk.resolve column).value =
      .ok (Crosswalk.passThrough column) := by
    decide +kernel
  have htype : failing.compiler.targetType? failing.goal column = some .varchar := by
    decide +kernel
  have hfailing : failing.Renders column (.null SqlType.nullVarchar) :=
    ⟨Compiler.not_upToDate_fresh, ⟨[], ["no_such_field"], by decide +kernel, by simp⟩,
      _, hresolve, .null hmissing htype rfl⟩
  -- The second compilation succeeds, so what it renders is read off its definition.
  have hdefined : again.definition?.map ViewDefinition.items =
      some [⟨column, .null SqlType.nullVarchar⟩] := by
    decide +kernel
  obtain ⟨d, hd, hitems⟩ := Option.map_eq_some_iff.mp hdefined
  have hrendered : again.Renders column (.null SqlType.nullVarchar) :=
    renders_of_definition? hd (hitems ▸ List.mem_cons_self)
  obtain ⟨-, -, hlogged⟩ := warnings_of_calls [failing, again]
  obtain ⟨-, hfirst⟩ := hlogged [] failing [again] column _ column rfl hfailing
    (.column hresolve hmissing)
  obtain ⟨-, hsecond⟩ := hlogged [failing] again [] column _ column rfl hrendered
    (.column hagain hmissing)
  exact ⟨by decide +kernel, hfailing, hrendered, hfirst, hsecond⟩

end Invocation
end CostView
