import CostView.CommandLine.Run

/-!
# Options over a file of settings

Options are there to override what a file says.  `Options.Overrides` states what that means for each
setting: what the option gives where it is given, and what the file says where it is not.

A run keeps to it only in part.  Without a source table among the options no other option is looked
at.  With one, the options always have a target, since it is generation two where none is given, and
so the target of the file is never taken.  Everything else is overridden setting by setting.
-/

namespace CostView

/-! ### What options ask for -/

namespace Options

/-- Settings are those of a file under the options that are given. -/
structure Overrides (o : Options) (file s : Settings) : Prop where
  sourceTable : s.sourceTable = o.sourceTable.getD file.sourceTable
  database : s.database = o.database.or file.database
  sourceGeneration : match o.sourceVersion with
    | none => s.sourceGeneration = file.sourceGeneration
    | some text => ∃ g, Generation.parse text = .ok g ∧ s.sourceGeneration = some g
  target : match o.targetVersion with
    | none => s.target = file.target
    | some text => Generation.parse text = .ok s.target
  fields : s.fields = if o.fields = [] then file.fields else o.fields

/-- The options that are given pass the rules for settings. -/
structure Admissible (o : Options) : Prop where
  sourceTable : ∀ name, o.sourceTable = some name → Settings.isTableName name = true
  database : ∀ name, o.database = some name → Settings.isTableName name = true
  sourceGeneration : ∀ text, o.sourceVersion = some text → ∃ g, Generation.parse text = .ok g
  target : ∀ text, o.targetVersion = some text → ∃ g, Generation.parse text = .ok g
  fields : o.fields.length ≤ Settings.maxFields

/-- The options that are given, other than the source table, say what a file says already. -/
structure Repeats (o : Options) (file : Settings) : Prop where
  database : ∀ name, o.database = some name → file.database = some name
  sourceGeneration : ∀ text, o.sourceVersion = some text →
    ∃ g, Generation.parse text = .ok g ∧ file.sourceGeneration = some g
  target : ∀ text, o.targetVersion = some text → Generation.parse text = .ok file.target
  fields : o.fields ≠ [] → o.fields = file.fields

variable {o : Options} {file s t : Settings}

/-- Options override a file in one way. -/
theorem Overrides.unique (hs : o.Overrides file s) (ht : o.Overrides file t) : s = t := by
  obtain ⟨sTable, sDatabase, sGeneration, sTarget, sFields⟩ := s
  obtain ⟨tTable, tDatabase, tGeneration, tTarget, tFields⟩ := t
  have hgeneration : sGeneration = tGeneration := by
    have hsg := hs.sourceGeneration
    have htg := ht.sourceGeneration
    cases hversion : o.sourceVersion with
    | none =>
        rw [hversion] at hsg htg
        exact hsg.trans htg.symm
    | some text =>
        rw [hversion] at hsg htg
        obtain ⟨g, hg, hsome⟩ := hsg
        obtain ⟨g', hg', hsome'⟩ := htg
        obtain rfl := Except.ok.inj (hg.symm.trans hg')
        exact hsome.trans hsome'.symm
  have htarget : sTarget = tTarget := by
    have hst := hs.target
    have htt := ht.target
    cases hversion : o.targetVersion with
    | none =>
        rw [hversion] at hst htt
        exact hst.trans htt.symm
    | some text =>
        rw [hversion] at hst htt
        exact Except.ok.inj (hst.symm.trans htt)
  obtain rfl : sTable = tTable := hs.sourceTable.trans ht.sourceTable.symm
  obtain rfl : sDatabase = tDatabase := hs.database.trans ht.database.symm
  obtain rfl : sFields = tFields := hs.fields.trans ht.fields.symm
  rw [hgeneration, htarget]

/-- It makes no difference what the target of a file is if the options give one. -/
theorem Overrides.iff_target {g : Generation} (h : o.Overrides { file with target := g } s) :
    o.Overrides file s ↔ o.targetVersion ≠ none ∨ file.target = g := by
  have htarget := h.target
  cases hversion : o.targetVersion with
  | none =>
      rw [hversion] at htarget
      have hown : s.target = g := htarget
      constructor
      · intro hover
        have hfile := hover.target
        rw [hversion] at hfile
        exact Or.inr (hfile.symm.trans hown)
      · rintro (hgiven | rfl)
        · exact absurd rfl hgiven
        · exact h
  | some text =>
      rw [hversion] at htarget
      refine iff_of_true ⟨h.sourceTable, h.database, h.sourceGeneration, ?_, h.fields⟩
        (Or.inl (Option.some_ne_none text))
      rw [hversion]
      exact htarget

/-- Options without a source table leave a file as it is just if they repeat it. -/
theorem overrides_self_iff (h : o.sourceTable = none) : o.Overrides file file ↔ o.Repeats file := by
  constructor
  · intro hover
    refine ⟨fun name hname => ?_, fun text htext => ?_, fun text htext => ?_, fun hgiven => ?_⟩
    · rw [hover.database, hname, Option.some_or]
    · have hgeneration := hover.sourceGeneration
      rwa [htext] at hgeneration
    · have htarget := hover.target
      rwa [htext] at htarget
    · have hfields := hover.fields
      rw [if_neg hgiven] at hfields
      exact hfields.symm
  · intro hrepeats
    refine ⟨by rw [h, Option.getD_none], ?_, ?_, ?_, ?_⟩
    · cases hdatabase : o.database with
      | none => rw [Option.none_or]
      | some name => rw [Option.some_or, hrepeats.database name hdatabase]
    · cases hversion : o.sourceVersion with
      | none => rfl
      | some text => exact hrepeats.sourceGeneration text hversion
    · cases hversion : o.targetVersion with
      | none => rfl
      | some text => exact hrepeats.target text hversion
    · by_cases hgiven : o.fields = []
      · rw [if_pos hgiven]
      · rw [if_neg hgiven, hrepeats.fields hgiven]

end Options

/-! ### Settings that are typed -/

namespace Settings

variable {s t : Settings}

theorem ne_empty_of_isTableName {name : String} (h : isTableName name = true) : name ≠ "" := by
  rintro rfl
  exact absurd h (by decide)

/-- Settings have no fault just if their names are plain and their fields are not too many. -/
theorem faults_eq_none_iff :
    s.faults = .none ↔ isTableName s.sourceTable = true ∧
      (∀ name, s.database = some name → isTableName name = true) ∧
      s.fields.length ≤ maxFields := by
  have hname (name : String) : nameFaults name = [] ↔ isTableName name = true := by
    by_cases h : isTableName name = true
    · simp [nameFaults, h]
    · simp [nameFaults, h]
  have hsource : (if s.sourceTable = "" then [Fault.emptySource] else []) ++
      nameFaults s.sourceTable = [] ↔ isTableName s.sourceTable = true := by
    rw [List.append_eq_nil_iff, hname]
    constructor
    · exact fun h => h.2
    · exact fun h => ⟨if_neg (ne_empty_of_isTableName h), h⟩
  have hdatabase : s.database.elim [] nameFaults = [] ↔
      ∀ name, s.database = some name → isTableName name = true := by
    cases s.database with
    | none => simp
    | some name => simp [hname]
  have hfields : (if s.fields.length ≤ maxFields then [] else [Fault.tooManyFields]) = [] ↔
      s.fields.length ≤ maxFields := by
    by_cases h : s.fields.length ≤ maxFields
    · simp [h]
    · simp [h]
  rw [faults, Faults.none, Faults.mk.injEq, hsource, hdatabase, hfields]

theorem validate_eq_ok_iff : s.validate = .ok t ↔ s.faults = .none ∧ s = t := by
  by_cases h : s.faults = .none
  · simp [validate, h]
  · simp [validate, h]

theorem readGeneration_eq_ok_iff {setting text : String} {g : Generation} :
    readGeneration setting text = .ok g ↔ Generation.parse text = .ok g := by
  unfold readGeneration
  cases Generation.parse text with
  | error e =>
      constructor
      · intro h
        cases h
      · intro h
        cases h
  | ok own =>
      constructor
      · intro h
        cases h
        rfl
      · intro h
        cases h
        rfl

theorem readGeneration?_eq_ok_iff {setting : String} {text? : Option String}
    {g? : Option Generation} :
    readGeneration? setting text? = .ok g? ↔
      match text? with
      | none => g? = none
      | some text => ∃ g, Generation.parse text = .ok g ∧ g? = some g := by
  cases text? with
  | none => simp [readGeneration?, eq_comm]
  | some text =>
      rw [readGeneration?]
      cases hread : readGeneration setting text with
      | error e =>
          have hnone (g : Generation) : Generation.parse text ≠ .ok g := by
            intro hg
            rw [readGeneration_eq_ok_iff.mpr hg] at hread
            cases hread
          simp [Except.map, hnone]
      | ok own =>
          simp [Except.map, readGeneration_eq_ok_iff.mp hread, eq_comm]

/-- Once the generations are read it is for the rules to decide. -/
theorem exists_validate_of_ofTyped {typed : Typed} {sourceName targetName : String}
    (h : ofTyped sourceName targetName typed = .ok s) : ∃ g? target,
      validate ⟨typed.sourceTable, typed.database, g?, target, typed.fields⟩ = .ok s := by
  rw [ofTyped] at h
  cases hsource : readGeneration? sourceName typed.sourceGeneration with
  | error e =>
      rw [hsource] at h
      cases h
  | ok g? =>
      cases htarget : readGeneration targetName typed.target with
      | error e =>
          rw [hsource, htarget] at h
          cases h
      | ok target =>
          rw [hsource, htarget] at h
          exact ⟨g?, target, h⟩

/-- Typed settings are taken over one by one if they pass the rules. -/
theorem ofArguments_eq_ok_iff {typed : Typed} :
    ofArguments typed = .ok s ↔
      (isTableName typed.sourceTable = true ∧
        (∀ name, typed.database = some name → isTableName name = true) ∧
        typed.fields.length ≤ maxFields) ∧
      ∃ g? target, readGeneration? "source_version" typed.sourceGeneration = .ok g? ∧
        Generation.parse typed.target = .ok target ∧
        s = ⟨typed.sourceTable, typed.database, g?, target, typed.fields⟩ := by
  rw [ofArguments, ofTyped]
  cases readGeneration? "source_version" typed.sourceGeneration with
  | error e => simp [bind, Except.bind]
  | ok g? =>
      cases hread : readGeneration "target_version" typed.target with
      | error e =>
          have hnone (g : Generation) : Generation.parse typed.target ≠ .ok g := by
            intro hg
            rw [readGeneration_eq_ok_iff.mpr hg] at hread
            cases hread
          simp [bind, Except.bind, hnone]
      | ok target =>
          have hparse := readGeneration_eq_ok_iff.mp hread
          show validate _ = _ ↔ _
          rw [validate_eq_ok_iff, faults_eq_none_iff]
          refine and_congr_right fun _ => ?_
          constructor
          · intro hs
            exact ⟨g?, target, rfl, hparse, hs.symm⟩
          · rintro ⟨own, ownTarget, hown, hownTarget, hs⟩
            obtain rfl := Except.ok.inj hown
            obtain rfl := Except.ok.inj (hparse.symm.trans hownTarget)
            exact hs.symm

end Settings

/-! ### Settings of a run -/

namespace CommandLine

variable {o : Options} {file s top : Settings}

/-- The options have settings of their own just if there is a source table among them. -/
theorem settings?_eq_ok_some_iff :
    o.settings? = .ok (some top) ↔
      ∃ source, o.sourceTable = some source ∧
        Settings.ofArguments ⟨source, o.database, o.sourceVersion,
          o.targetVersion.getD Settings.defaultTarget, o.fields⟩ = .ok top := by
  rw [Options.settings?, Options.typed?]
  cases o.sourceTable with
  | none => simp
  | some source =>
      simp only [Option.map_some, Option.some.injEq, exists_eq_left']
      cases Settings.ofArguments ⟨source, o.database, o.sourceVersion,
          o.targetVersion.getD Settings.defaultTarget, o.fields⟩ with
      | error e => simp [Except.map]
      | ok own => simp [Except.map]

theorem settings?_eq_ok_none_iff : o.settings? = .ok none ↔ o.sourceTable = none := by
  rw [Options.settings?, Options.typed?]
  cases o.sourceTable with
  | none => simp
  | some source =>
      simp only [Option.map_some]
      cases Settings.ofArguments ⟨source, o.database, o.sourceVersion,
          o.targetVersion.getD Settings.defaultTarget, o.fields⟩ with
      | error e => simp [Except.map]
      | ok own => simp [Except.map]

/-- What the options have of their own is laid over a file as if the file had generation two for its
target. -/
theorem overrides_merge (file : Settings) (h : o.settings? = .ok (some top)) :
    o.sourceTable ≠ none ∧ o.Admissible ∧
      o.Overrides { file with target := .two } (file.merge top) := by
  obtain ⟨source, hsource, hread⟩ := settings?_eq_ok_some_iff.mp h
  obtain ⟨⟨hname, hdatabase, hfields⟩, g?, target, hg, htarget, rfl⟩ :=
    Settings.ofArguments_eq_ok_iff.mp hread
  rw [Settings.readGeneration?_eq_ok_iff] at hg
  dsimp only at hname hdatabase hfields hg htarget
  refine ⟨by simp [hsource], ⟨?_, hdatabase, ?_, ?_, hfields⟩, ?_, ?_, ?_, ?_, ?_⟩
  · intro name hgiven
    obtain rfl := Option.some.inj (hsource.symm.trans hgiven)
    exact hname
  · intro text htext
    rw [htext] at hg
    obtain ⟨g, hparse, -⟩ := hg
    exact ⟨g, hparse⟩
  · intro text htext
    rw [htext] at htarget
    exact ⟨target, htarget⟩
  · rw [hsource]
    rfl
  · cases hgiven : o.database with
    | none => simp [Settings.merge]
    | some name => simp [Settings.merge]
  · cases hversion : o.sourceVersion with
    | none =>
        rw [hversion] at hg
        simp [Settings.merge, hg]
    | some text =>
        rw [hversion] at hg
        obtain ⟨g, hparse, rfl⟩ := hg
        exact ⟨g, hparse, rfl⟩
  · cases hversion : o.targetVersion with
    | none =>
        -- Nothing is asked for, so the target is the one that stands in for it.
        rw [hversion] at htarget
        have hdefault : Generation.parse Settings.defaultTarget = .ok .two := by rfl
        exact Except.ok.inj (htarget.symm.trans hdefault)
    | some text =>
        rw [hversion] at htarget
        exact htarget
  · simp [Settings.merge]

/-- Options with a source table that pass the rules have settings of their own. -/
theorem exists_settings?_of_admissible (hsource : o.sourceTable ≠ none) (h : o.Admissible) :
    ∃ top, o.settings? = .ok (some top) := by
  obtain ⟨source, hsome⟩ := Option.ne_none_iff_exists'.mp hsource
  obtain ⟨g?, hg⟩ : ∃ g?, Settings.readGeneration? "source_version" o.sourceVersion = .ok g? := by
    cases hversion : o.sourceVersion with
    | none => exact ⟨none, rfl⟩
    | some text =>
        obtain ⟨g, hg⟩ := h.sourceGeneration text hversion
        exact ⟨some g, Settings.readGeneration?_eq_ok_iff.mpr ⟨g, hg, rfl⟩⟩
  obtain ⟨target, htarget⟩ :
      ∃ target, Generation.parse (o.targetVersion.getD Settings.defaultTarget) = .ok target := by
    cases hversion : o.targetVersion with
    | none => exact ⟨.two, rfl⟩
    | some text => exact h.target text hversion
  exact ⟨_, settings?_eq_ok_some_iff.mpr ⟨source, hsome, Settings.ofArguments_eq_ok_iff.mpr
    ⟨⟨h.sourceTable source hsome, h.database, h.fields⟩, g?, target, hg, htarget, rfl⟩⟩⟩

variable {W : Type} {host : Host (StateM W)} {path text : String} {world later : W}

/-- The options are read first, then the file, and what the options say is laid over it. -/
theorem result_settings (hpath : o.config = some path)
    (htext : (host.fileText? path).run world = (some text, later))
    (hfile : Settings.parse text = .ok file) :
    (settings host o).run world =
      match o.settings? with
      | .error e => (.error (.arguments e), world)
      | .ok top => (.ok (layered file top), later) := by
  have hread : host.fileText? path world = (some text, later) := htext
  have hsettings : Settings.ofFile (some text) = .ok file := hfile
  rw [settings, hpath]
  cases o.settings? with
  | error e => rfl
  | ok top =>
      show (match host.fileText? path world with
        | (text?, next) =>
          (do
            let file ← orFail (.settingsFile path) (Settings.ofFile text?)
            return layered file top : Step (StateM W) Settings).run next) = _
      rw [hread]
      show (do
        let file ← orFail (.settingsFile path) (Settings.ofFile (some text))
        return layered file top : Step (StateM W) Settings).run later = _
      rw [hsettings]
      rfl

/-- What a run takes from the options and a file, in both directions. -/
theorem result_settings_eq_ok_iff (hpath : o.config = some path)
    (htext : (host.fileText? path).run world = (some text, later))
    (hfile : Settings.parse text = .ok file) {after : W} :
    (settings host o).run world = (.ok s, after) ↔
      after = later ∧
        (o.sourceTable = none ∧ s = file ∨
          o.sourceTable ≠ none ∧ o.Admissible ∧ o.Overrides { file with target := .two } s) := by
  rw [result_settings hpath htext hfile]
  cases hsettings : o.settings? with
  | error e =>
      constructor
      · intro h
        cases h
      · rintro ⟨-, ⟨hnone, -⟩ | ⟨hsource, hadmissible, -⟩⟩
        · rw [settings?_eq_ok_none_iff.mpr hnone] at hsettings
          cases hsettings
        · obtain ⟨top, htop⟩ := exists_settings?_of_admissible hsource hadmissible
          rw [htop] at hsettings
          cases hsettings
  | ok top? =>
      cases top? with
      | none =>
          have hnone := settings?_eq_ok_none_iff.mp hsettings
          constructor
          · intro h
            cases h
            exact ⟨rfl, Or.inl ⟨hnone, rfl⟩⟩
          · rintro ⟨rfl, ⟨-, rfl⟩ | ⟨hsource, -, -⟩⟩
            · rfl
            · exact absurd hnone hsource
      | some top =>
          obtain ⟨hsource, hadmissible, hover⟩ := overrides_merge file hsettings
          constructor
          · intro h
            cases h
            exact ⟨rfl, Or.inr ⟨hsource, hadmissible, hover⟩⟩
          · rintro ⟨rfl, ⟨hnone, -⟩ | ⟨-, -, hown⟩⟩
            · exact absurd hnone hsource
            · rw [hown.unique hover]
              rfl

/-- Over a file that can be read, a run has settings just if there is no source table among the
options or they pass the rules.  Without a source table the settings are those of the file; with one
they are those of the options over the file as if its target were generation two.  So the options
override the file just if there is no source table among them and they repeat the file, or there is
one and the target is given or is generation two in the file as well. -/
theorem settings_over_file (hpath : o.config = some path)
    (htext : (host.fileText? path).run world = (some text, later))
    (hfile : Settings.parse text = .ok file) :
    ((∃ s, (settings host o).run world = (.ok s, later)) ↔
      o.sourceTable = none ∨ o.Admissible) ∧
    ∀ s after, (settings host o).run world = (.ok s, after) →
      (o.sourceTable = none → s = file) ∧
      (o.sourceTable ≠ none → o.Overrides { file with target := .two } s) ∧
      (o.Overrides file s ↔
        o.sourceTable = none ∧ o.Repeats file ∨
          o.sourceTable ≠ none ∧ (o.targetVersion ≠ none ∨ file.target = .two)) := by
  refine ⟨⟨?_, ?_⟩, fun s after hrun => ?_⟩
  · rintro ⟨s, hrun⟩
    obtain ⟨-, ⟨hnone, -⟩ | ⟨-, hadmissible, -⟩⟩ :=
      (result_settings_eq_ok_iff hpath htext hfile).mp hrun
    · exact Or.inl hnone
    · exact Or.inr hadmissible
  · intro h
    by_cases hnone : o.sourceTable = none
    · exact ⟨file, (result_settings_eq_ok_iff hpath htext hfile).mpr ⟨rfl, Or.inl ⟨hnone, rfl⟩⟩⟩
    · have hadmissible := h.resolve_left hnone
      obtain ⟨top, htop⟩ := exists_settings?_of_admissible hnone hadmissible
      obtain ⟨-, -, hover⟩ := overrides_merge file htop
      exact ⟨_, (result_settings_eq_ok_iff hpath htext hfile).mpr
        ⟨rfl, Or.inr ⟨hnone, hadmissible, hover⟩⟩⟩
  · obtain ⟨-, ⟨hnone, rfl⟩ | ⟨hsource, -, hover⟩⟩ :=
      (result_settings_eq_ok_iff hpath htext hfile).mp hrun
    · refine ⟨fun _ => rfl, fun hsource => absurd hnone hsource, ?_⟩
      rw [Options.overrides_self_iff hnone]
      simp [hnone]
    · refine ⟨fun hnone => absurd hnone hsource, fun _ => hover, ?_⟩
      rw [hover.iff_target]
      simp [hsource]

/-- A host that has one file and nothing else. -/
def hostOfFile (path text : String) : Host (StateM Unit) where
  valueOf? _ := pure none
  environmentFile? := pure none
  isThere other := pure (other = path)
  fileText? other := pure (if other = path then some text else none)
  saveFile _ _ := pure false
  printLine _ := pure ()
  note _ := pure ()

theorem parse_of_toOption (h : (Settings.parse text).toOption = some file) :
    Settings.parse text = .ok file := by
  cases hparse : Settings.parse text with
  | error e =>
      rw [hparse] at h
      cases h
  | ok own =>
      rw [hparse] at h
      exact congrArg _ (Option.some.inj h)

/-- A table, its generation and the target override those of a file, and its database stays. -/
theorem settings_over_file_at_other_table :
    let text := "source_table: cur\ndatabase: billing\nsource_version: v1\ntarget_version: v1\n"
    let host := hostOfFile "proxy.yaml" text
    let file : Settings := ⟨"cur", some "billing", some .one, .one, []⟩
    let o : Options :=
      { catalog := "catalog.yaml", config := some "proxy.yaml", sourceTable := some "cur2",
        database := none, sourceVersion := some "2", targetVersion := some "2", fields := [],
        state := none, saveCatalog := none, json := false }
    o.config = some "proxy.yaml" ∧ (host.fileText? "proxy.yaml").run () = (some text, ()) ∧
      Settings.parse text = .ok file ∧
      ∃ s, (settings host o).run () = (.ok s, ()) ∧ o.Overrides file s := by
  intro text host file o
  have hfile : Settings.parse text = .ok file := parse_of_toOption (by decide +kernel)
  have hadmissible : o.Admissible := by
    refine ⟨?_, ?_, ?_, ?_, by decide⟩
    · rintro name h
      cases h
      decide
    · rintro name h
      cases h
    · rintro text h
      cases h
      exact ⟨.two, rfl⟩
    · rintro text h
      cases h
      exact ⟨.two, rfl⟩
  have htext : (host.fileText? "proxy.yaml").run () = (some text, ()) := rfl
  obtain ⟨hexists, hsettings⟩ := settings_over_file (o := o) rfl htext hfile
  obtain ⟨s, hrun⟩ := hexists.mpr (Or.inr hadmissible)
  obtain ⟨-, -, hover⟩ := hsettings s () hrun
  exact ⟨rfl, htext, hfile, s, hrun, hover.mpr (Or.inr ⟨Option.some_ne_none _, Or.inl nofun⟩)⟩

/-- A target without a source table is dropped, and a source table without a target sets the target
of the file aside. -/
theorem target_not_overridden :
    let text := "source_table: cur\ntarget_version: v1\n"
    let host := hostOfFile "proxy.yaml" text
    let file : Settings := ⟨"cur", none, none, .one, []⟩
    let given : Options :=
      { catalog := "catalog.yaml", config := some "proxy.yaml", sourceTable := none,
        database := none, sourceVersion := none, targetVersion := none, fields := [],
        state := none, saveCatalog := none, json := false }
    let layout := { given with targetVersion := some "2" }
    let table := { given with sourceTable := some "cur" }
    Settings.parse text = .ok file ∧
      (∃ s, (settings host layout).run () = (.ok s, ()) ∧ ¬ layout.Overrides file s) ∧
      ∃ s, (settings host table).run () = (.ok s, ()) ∧ ¬ table.Overrides file s := by
  intro text host file given layout table
  have hfile : Settings.parse text = .ok file := parse_of_toOption (by decide +kernel)
  have htext : (host.fileText? "proxy.yaml").run () = (some text, ()) := rfl
  have hdefault : Generation.parse Settings.defaultTarget = .ok .two := by rfl
  have htable : table.settings? = .ok (some ⟨"cur", none, none, .two, []⟩) :=
    settings?_eq_ok_some_iff.mpr ⟨"cur", rfl, Settings.ofArguments_eq_ok_iff.mpr
      ⟨⟨by decide, nofun, by decide⟩, none, .two, rfl, hdefault, rfl⟩⟩
  have hlayout : layout.settings? = .ok none := settings?_eq_ok_none_iff.mpr rfl
  refine ⟨hfile, ⟨file, ?_, ?_⟩, ⟨⟨"cur", none, none, .two, []⟩, ?_, ?_⟩⟩
  · rw [result_settings rfl htext hfile, hlayout]
    rfl
  · intro hover
    have htarget : Generation.parse "2" = .ok Generation.one := hover.target
    cases htarget
  · rw [result_settings rfl htext hfile, htable]
    rfl
  · intro hover
    have htarget : Generation.two = Generation.one := hover.target
    cases htarget

end CommandLine
end CostView
