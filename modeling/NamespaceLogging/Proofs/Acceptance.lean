import NamespaceLogging.Proofs.FinalValidation
import NamespaceLogging.Proofs.ReportedProblems

/-!
# What validation accepts

Validation reads each field of a configuration.  If all of them can be read, the settings hold what was
read and nothing else.  If not, there is an error for every part that cannot be read: for the levels, for
each of the overrides, for the level of the target, for the layout with what belongs to it, and for the
threshold.  One error is the answer itself, and several are put into one.

## Main definitions

* `Configuration.Acceptable`: every field of the configuration can be read.
* `Configuration.Means`: the settings hold what the fields are read as.
* `Configuration.collected`: the errors of the parts that cannot be read, in order.

## Main results

* `Configuration.validate_eq_ok_iff`: validation gives the settings that the configuration means.
* `Configuration.problems_eq_collected`: what keeps validation from giving settings.
* `Configuration.validate_answers`: the answers of validation.
-/

set_option autoImplicit false

namespace NamespaceLogging

namespace Configuration

/-- Every field of the configuration can be read.  The least level matters only without a list of
levels. -/
structure Acceptable (c : Configuration) : Prop where
  levels : ∀ names, c.levels = some names →
    names ≠ [] ∧ ∀ name ∈ names, ∃ level, Level.parse name = .ok level
  level : c.levels = none → ∃ level, Level.parse c.level = .ok level
  overrides : ∀ entry ∈ c.overrides, ∃ o, Override.parse entry = .ok o
  aspectLevel : ∀ name, c.aspectLevel = some name → ∃ level, Level.parse name = .ok level
  layout : ∃ layout, Layout.parse c.layout = .ok layout
  timeFormat : TimeFormat.isValid c.timeFormat = true
  maxCauseFrames : 1 ≤ c.maxCauseFrames
  errorThreshold : 1 ≤ c.errorThreshold

/-- The settings hold what the fields of the configuration are read as. -/
structure Means (c : Configuration) (st : Settings) : Prop where
  filter :
    match c.levels with
    | some names => ∃ levels, levels ≠ [] ∧ names.map Level.parse = levels.map .ok ∧
        st.filter = .ofList levels
    | none => ∃ least, Level.parse c.level = .ok least ∧ st.filter = .startingAt least
  overrides : c.overrides.map Override.parse = st.overrides.map .ok
  target : st.target = c.target.map Target.parse
  aspectFilter :
    match c.aspectLevel with
    | some name => ∃ least, Level.parse name = .ok least ∧ st.aspectFilter = .startingAt least
    | none => st.aspectFilter = .startingAt .trace
  layout : ∃ layout, Layout.parse c.layout = .ok layout ∧ TimeFormat.isValid c.timeFormat = true ∧
    1 ≤ c.maxCauseFrames ∧
    st.layout = { layout with timeFormat := c.timeFormat, frameCap := c.maxCauseFrames }
  errorThreshold : 1 ≤ c.errorThreshold ∧ st.errorThreshold = c.errorThreshold
  captureStack : st.captureStack = c.captureStack

/-- The error of the levels: of the first name that is none, if there is a list of them. -/
def levelProblem? (c : Configuration) : Option ConfigError :=
  match c.levels with
  | some [] => some .emptyLevelSet
  | some names => names.findSome? fun name => error? (Level.parse name)
  | none => error? (Level.parse c.level)

/-- The error of the layout: of its pattern, else of the format of the time, else of the number of
frames. -/
def layoutProblem? (c : Configuration) : Option ConfigError :=
  match Layout.parse c.layout with
  | .error e => some e
  | .ok _ =>
    if TimeFormat.isValid c.timeFormat then
      if c.maxCauseFrames = 0 then some .invalidFrameCap else none
    else some (.invalidTimeFormat c.timeFormat)

/-- The errors of the parts that cannot be read, in order: at most one for the levels, one for each
override, at most one for the level of the target, for the layout and for the threshold. -/
def collected (c : Configuration) : List ConfigError :=
  c.levelProblem?.toList ++
    (c.overrides.filterMap fun entry => error? (Override.parse entry)) ++
    (c.aspectLevel.bind fun name => error? (Level.parse name)).toList ++
    c.layoutProblem?.toList ++
    (if c.errorThreshold = 0 then [.invalidThreshold] else [])

variable {c : Configuration} {st : Settings}

/-! ## Reading the fields -/

/-- The filter can be read just if all listed levels can, of which there is at least one, or if the
one level can where none are listed. -/
lemma filter_eq_ok_iff {s : LevelSet} : c.filter = .ok s ↔
    match c.levels with
    | some names => ∃ levels, levels ≠ [] ∧ names.map Level.parse = levels.map .ok ∧ s = .ofList levels
    | none => ∃ least, Level.parse c.level = .ok least ∧ s = .startingAt least := by
  rw [filter]
  cases c.levels with
  | none => exact map_eq_ok_iff
  | some names =>
    dsimp only
    constructor
    · intro h
      obtain ⟨levels, hread, h⟩ := exists_of_bind_ok h
      have hne : levels ≠ [] := by
        rintro rfl
        simp [LevelSet.ofNonempty] at h
      refine ⟨levels, hne, mapM_eq_ok_iff.mp hread, ?_⟩
      rw [LevelSet.ofNonempty, if_neg (by simpa using hne)] at h
      exact (Except.ok.inj h).symm
    · rintro ⟨levels, hne, hread, rfl⟩
      rw [mapM_eq_ok_iff.mpr hread]
      simp [bind, Except.bind, LevelSet.ofNonempty, hne]

/-- The filter of the target can be read just if its level can; without one it takes all levels. -/
lemma aspectFilter_eq_ok_iff {s : LevelSet} : c.aspectFilter = .ok s ↔
    match c.aspectLevel with
    | some name => ∃ least, Level.parse name = .ok least ∧ s = .startingAt least
    | none => s = .startingAt .trace := by
  rw [aspectFilter]
  cases c.aspectLevel with
  | none => exact ⟨fun h => (Except.ok.inj h).symm, fun h => h ▸ rfl⟩
  | some name => exact map_eq_ok_iff

/-- The layout passes its checks just if the pattern can be read, the time format is valid, and some
frames of causes are shown. -/
lemma checkedLayout_eq_ok_iff {l : Layout} : c.checkedLayout = .ok l ↔
    ∃ layout, Layout.parse c.layout = .ok layout ∧ TimeFormat.isValid c.timeFormat = true ∧
      1 ≤ c.maxCauseFrames ∧
      l = { layout with timeFormat := c.timeFormat, frameCap := c.maxCauseFrames } := by
  rw [checkedLayout]
  cases Layout.parse c.layout with
  | error e => simp [bind, Except.bind]
  | ok layout =>
    by_cases htime : TimeFormat.isValid c.timeFormat = true <;> by_cases hcap : c.maxCauseFrames = 0 <;>
      simp [bind, Except.bind, Layout.withTimeFormat, Layout.withFrameCap, htime, hcap,
        Nat.one_le_iff_ne_zero, eq_comm]

/-- The threshold passes its check just if it is at least one. -/
lemma checkedThreshold_eq_ok_iff {n : Nat} :
    c.checkedThreshold = .ok n ↔ 1 ≤ c.errorThreshold ∧ n = c.errorThreshold := by
  rw [checkedThreshold]
  by_cases h : c.errorThreshold = 0 <;> simp [h, Nat.one_le_iff_ne_zero, eq_comm]

/-! ## Settings -/

/-- If the settings can be read, there is no problem. -/
lemma problems_of_settings (h : c.settings = .ok st) : c.problems = [] := by
  obtain ⟨hfilter, hoverrides, -, haspect, hlayout, hthreshold, -⟩ := settings_eq_ok_iff.mp h
  have hentries : (c.overrides.map Override.parse).flatMap problemOf = [] := by
    rw [mapM_eq_ok_iff.mp hoverrides, List.flatMap_map, List.flatMap_eq_nil_iff]
    intro o _
    rfl
  rw [problems, hfilter, hentries, haspect, hlayout, hthreshold]
  rfl

/-- **Validation gives the settings that the configuration means**, and no others. -/
lemma validate_eq_ok_iff : c.validate = .ok st ↔ c.Means st := by
  have hsettings : c.validate = .ok st ↔ c.settings = .ok st := by
    refine ⟨settings_of_validate, fun h => ?_⟩
    rw [validate, problems_of_settings h]
    exact h
  rw [hsettings, settings_eq_ok_iff, filter_eq_ok_iff, mapM_eq_ok_iff, aspectFilter_eq_ok_iff,
    checkedLayout_eq_ok_iff, checkedThreshold_eq_ok_iff]
  constructor
  · rintro ⟨hfilter, hoverrides, htarget, haspect, hlayout, hthreshold, hcapture⟩
    exact ⟨hfilter, hoverrides, htarget, haspect, hlayout, hthreshold, hcapture⟩
  · rintro ⟨hfilter, hoverrides, htarget, haspect, hlayout, hthreshold, hcapture⟩
    exact ⟨hfilter, hoverrides, htarget, haspect, hlayout, hthreshold, hcapture⟩

/-- A configuration means some settings just if every field can be read. -/
lemma exists_means_iff : (∃ st, c.Means st) ↔ c.Acceptable := by
  constructor
  · rintro ⟨st, hfilter, hoverrides, -, haspect, ⟨layout, hlayout, htime, hcap, -⟩, ⟨hthreshold, -⟩, -⟩
    refine ⟨?levels, ?level, exists_map_eq_ok_iff.mp ⟨_, hoverrides⟩, ?aspectLevel, ⟨layout, hlayout⟩,
      htime, hcap, hthreshold⟩
    case levels =>
      intro names hnames
      rw [hnames] at hfilter
      obtain ⟨levels, hne, hread, -⟩ := hfilter
      refine ⟨?_, exists_map_eq_ok_iff.mp ⟨_, hread⟩⟩
      rintro rfl
      exact hne (List.map_eq_nil_iff.mp hread.symm)
    case level =>
      intro hnone
      rw [hnone] at hfilter
      obtain ⟨least, hread, -⟩ := hfilter
      exact ⟨least, hread⟩
    case aspectLevel =>
      intro name hname
      rw [hname] at haspect
      obtain ⟨least, hread, -⟩ := haspect
      exact ⟨least, hread⟩
  · intro h
    obtain ⟨filter, hfilter⟩ : ∃ s, c.filter = .ok s := by
      simp only [filter_eq_ok_iff]
      cases hlevels : c.levels with
      | none =>
        obtain ⟨least, hread⟩ := h.level hlevels
        exact ⟨_, least, hread, rfl⟩
      | some names =>
        obtain ⟨hne, hnames⟩ := h.levels names hlevels
        obtain ⟨levels, hread⟩ := exists_map_eq_ok_iff.mpr hnames
        refine ⟨_, levels, ?_, hread, rfl⟩
        rintro rfl
        exact hne (List.map_eq_nil_iff.mp hread)
    obtain ⟨overrides, hoverrides⟩ := exists_map_eq_ok_iff.mpr h.overrides
    obtain ⟨aspectFilter, haspect⟩ : ∃ s, c.aspectFilter = .ok s := by
      simp only [aspectFilter_eq_ok_iff]
      cases hlevel : c.aspectLevel with
      | none => exact ⟨_, rfl⟩
      | some name =>
        obtain ⟨least, hread⟩ := h.aspectLevel name hlevel
        exact ⟨_, least, hread, rfl⟩
    obtain ⟨layout, hlayout⟩ := h.layout
    exact ⟨⟨filter, overrides, _, aspectFilter, _, _, _⟩, filter_eq_ok_iff.mp hfilter, hoverrides, rfl,
      aspectFilter_eq_ok_iff.mp haspect, ⟨layout, hlayout, h.timeFormat, h.maxCauseFrames, rfl⟩,
      ⟨h.errorThreshold, rfl⟩, rfl⟩

/-- The default configuration can be read. -/
lemma acceptable_default : Acceptable {} where
  levels := by simp
  level := fun _ => ⟨.info, rfl⟩
  overrides := by simp
  aspectLevel := by simp
  layout := error?_eq_none_iff.mp (by decide +kernel)
  timeFormat := by decide +kernel
  maxCauseFrames := by decide
  errorThreshold := by decide

/-! ## Errors -/

/-- What is reported of the levels is the one problem that there is with them, if any. -/
lemma problem_levels : problemOf c.filter = c.levelProblem?.toList := by
  rw [problem_filter, shown_levels, levelProblem?]
  cases hlevels : c.levels with
  | none => simp [flaw?, hlevels]
  | some names => cases names <;> simp [flaw?, hlevels]

/-- What is reported of the layout is the first problem that there is with it, if any. -/
lemma problem_layout : problemOf c.checkedLayout = c.layoutProblem?.toList := by
  rw [problemOf_eq, checkedLayout, layoutProblem?]
  cases Layout.parse c.layout with
  | error e => rfl
  | ok layout =>
    by_cases htime : TimeFormat.isValid c.timeFormat = true <;> by_cases hcap : c.maxCauseFrames = 0 <;>
      simp [bind, Except.bind, Layout.withTimeFormat, Layout.withFrameCap, htime, hcap, error?]

/-- **The problems are the errors of the parts that cannot be read.** -/
lemma problems_eq_collected : c.problems = c.collected := by
  have hoverrides : (c.overrides.map Override.parse).flatMap problemOf =
      c.overrides.filterMap fun entry => error? (Override.parse entry) := by
    rw [List.flatMap_map, List.filterMap_eq_flatMap_toList]
    simp only [problemOf_eq]
  have haspect : problemOf c.aspectFilter =
      (c.aspectLevel.bind fun name => error? (Level.parse name)).toList :=
    c.problem_aspectFilter.trans (c.shown_of_first rfl)
  have hthreshold : problemOf c.checkedThreshold =
      if c.errorThreshold = 0 then [.invalidThreshold] else [] := by
    rw [checkedThreshold]
    split <;> rfl
  rw [problems, problem_levels, hoverrides, haspect, problem_layout, hthreshold, collected]

/-- Validation fails with the one error that there is, or with several of them in one. -/
lemma validate_eq_error_iff {e : ConfigError} : c.validate = .error e ↔
    c.collected = [e] ∨ 2 ≤ c.collected.length ∧ e = .invalid c.collected := by
  rw [← problems_eq_collected, validate]
  cases hproblems : c.problems with
  | nil =>
    obtain ⟨st, hst⟩ := c.settings_of_problems hproblems
    simp [hst]
  | cons first more =>
    cases more with
    | nil => simp
    | cons second more => simp [eq_comm]

/-- **The answers of validation.**  There are settings just if every field can be read, and they hold
exactly what was read, the overrides in order.  Otherwise there is an error for every part that cannot be
read, in the order of the parts.  If it is the only one, it is the answer; else the answer is made of at
least two errors, none of which is made of several itself.

**Proof sketch.**  Validation gives settings just if it has found no problem, and the problems of the
parts are the collected errors.  A part has a problem just if it cannot be read, and so there is either a
problem or a reading of every field. -/
theorem validate_answers (c : Configuration) :
    ((∃ st, c.validate = .ok st) ↔ c.Acceptable) ∧
    (∀ st, c.validate = .ok st ↔ c.Means st) ∧
    (∀ e, c.validate = .error e ↔
      c.collected = [e] ∨ 2 ≤ c.collected.length ∧ e = .invalid c.collected) ∧
    (∀ e ∈ c.collected, ∀ errors, e ≠ .invalid errors) := by
  refine ⟨?accepted, fun st => validate_eq_ok_iff, fun e => validate_eq_error_iff, ?single⟩
  case accepted =>
    rw [← exists_means_iff]
    exact exists_congr fun st => validate_eq_ok_iff
  case single =>
    rintro e he errors rfl
    rw [← problems_eq_collected] at he
    exact c.invalid_notMem_problems errors he

/-- A configuration of which each part has something that cannot be read. -/
def garbled : Configuration where
  level := "verbose"
  overrides := ["nope", "a=warn", "b=loud"]
  aspectLevel := some "low"
  layout := coloured.layout
  timeFormat := "%"
  errorThreshold := 0

/-- All parts of the configuration are reported in one error, with both of the overrides that cannot be
read.  With levels of its own and one override, given in any letter case, the default configuration
gives settings. -/
theorem validate_answers_of_garbled :
    garbled.validate = .error (.invalid [.unknownLevel "verbose", .malformedOverride "nope",
      .unknownLevel "loud", .unknownLevel "low", .unknownToken "colour", .invalidThreshold]) ∧
    ∃ st, validate { levels := some ["Trace", " ERROR "], overrides := ["a::b::=Warning"] } = .ok st ∧
      st.filter = .ofList [.trace, .error] ∧ st.overrides = [⟨"a::b", .warn⟩] := by
  constructor
  · have hlayout : Layout.parse coloured.layout = .error (.unknownToken "colour") :=
      error?_eq_some_iff.mp (flaw?_coloured .layout)
    have hproblem : garbled.layoutProblem? = some (.unknownToken "colour") := by
      rw [layoutProblem?, garbled, hlayout]
    have hcollected : garbled.collected = [.unknownLevel "verbose", .malformedOverride "nope",
        .unknownLevel "loud", .unknownLevel "low", .unknownToken "colour", .invalidThreshold] := by
      rw [collected, hproblem]
      rfl
    refine ((validate_answers garbled).2.2.1 _).mpr (.inr ⟨?_, ?_⟩)
    · rw [hcollected]
      decide
    · rw [hcollected]
  · obtain ⟨layout, hlayout⟩ := acceptable_default.layout
    have hmeans : Means { levels := some ["Trace", " ERROR "], overrides := ["a::b::=Warning"] }
        ⟨.ofList [.trace, .error], [⟨"a::b", .warn⟩], none, .startingAt .trace,
          ⟨layout.pieces, Layout.defaultTimeFormat, Cause.defaultFrameCap⟩, 5, true⟩ :=
      { filter := ⟨[.trace, .error], by decide, rfl, rfl⟩
        overrides := rfl
        target := rfl
        aspectFilter := rfl
        layout := ⟨layout, hlayout, acceptable_default.timeFormat, by decide, rfl⟩
        errorThreshold := ⟨by decide, rfl⟩
        captureStack := rfl }
    exact ⟨_, ((validate_answers _).2.1 _).mpr hmeans, rfl, rfl⟩

end Configuration

end NamespaceLogging
