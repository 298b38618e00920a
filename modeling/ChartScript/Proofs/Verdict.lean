import ChartScript.Proofs.DataBlock
import ChartScript.Proofs.Placement

/-!
# When a compilation fails

Once the options of the `init` phase have taken effect, only two things can go wrong: the column
selector names no column, or errors are to be paired with another number of values.  A caller
usually wants to know which kind of report there will be, and not its text, so `Verdict` keeps the
category and forgets the rest.  With it the conditions can be compared across descriptions that
differ in everything a report quotes.

Most of the work is the negative part, that nothing else fails.  The options of the `apply` phase
are many, and each computes something from its value; `Assignment.update_eq_error` goes through them
once, and only the column selector can fail.  Since it takes effect once at most, its last value is
the only one that counts (`finalStyle_eq_error_iff`).  A pass stops at a failure, but as nothing
else fails, the order of options has no part in it.

`verdict_conditions` gives the conditions, and says that they are all: two lists of lines that agree
in the last column selector and in a few counts have the same verdict.  Moving a column selector, or
dropping one that a later one replaces, changes not even the outcome, by `Proofs.Placement`.  The
hypothesis that the first phase succeeds is discussed in `Proofs.NumericOptions`, which says exactly
when it fails.
-/

set_option autoImplicit false

namespace ChartScript

/-! ## Column selectors -/

/-- Whether a text names a column: it is the word for the last column or a positive integer, blanks
around it aside. -/
def NamesColumn (value : Text) : Prop :=
  value.strip = Column.lastWord ∨ ∃ n ∈ Number.integer? value.strip, 0 < n

instance (value : Text) : Decidable (NamesColumn value) :=
  inferInstanceAs (Decidable (_ ∨ _))

theorem Column.exists_parse_eq_ok_iff {value : Text} :
    (∃ column, Column.parse value = .ok column) ↔ NamesColumn value := by
  rw [Column.parse, NamesColumn]
  split
  · next h => simp [h]
  · next h =>
    cases hn : Number.integer? value.strip with
    | none => simp [h]
    | some n =>
      by_cases hpos : n ≤ 0
      · simp [h, hpos]
      · simp [h, hpos, Int.not_le.mp hpos]

theorem Column.exists_parse_eq_error_iff {value : Text} :
    (∃ cause, Column.parse value = .error cause) ↔ ¬NamesColumn value := by
  rw [← Column.exists_parse_eq_ok_iff]
  cases Column.parse value <;> simp

/-- Whether lines give a column selector whose last value names no column. -/
def HasBadColumn (lines : List Text) : Prop :=
  ∃ value ∈ lastValue .column lines, ¬NamesColumn value

instance (lines : List Text) : Decidable (HasBadColumn lines) :=
  inferInstanceAs (Decidable (∃ value ∈ lastValue .column lines, ¬NamesColumn value))

/-! ## The options of the apply phase -/

/-- Of the options of the `apply` phase only the column selector can fail. -/
theorem Assignment.update_eq_error {a : Assignment} (h : a.phase = .apply) {style : Style}
    {fault : OptionFault} (hfault : a.update style = .error fault) :
    ∃ value cause, a = .setting .column value ∧ Column.parse value = .error cause ∧
      fault = .column value cause := by
  cases a with
  | flag f => cases f <;> exact absurd hfault (by simp [update, Flag.update?])
  | repeated r values => cases r <;> exact absurd hfault (by simp [update, Repeated.update?])
  | setting s value =>
    cases s with
    | column =>
      rw [update, Setting.update?] at hfault
      dsimp only at hfault
      split at hfault
      · exact absurd hfault (by simp)
      · next cause hparse => exact ⟨value, cause, rfl, hparse, (Except.error.inj hfault).symm⟩
    | barWidth | gapFactor | maxY | minY | setLabelShift | rotateBy =>
      exact absurd h (by simp [phase, key, Key.phase, Setting.phase])
    | _ => exact absurd hfault (by simp [update, Setting.update?])

/-- A column selector that names a column takes effect. -/
theorem Assignment.namesColumn_of_update_eq_ok {value : Text} {style style' : Style}
    (h : (Assignment.setting .column value).update style = .ok style') : NamesColumn value := by
  rw [← Column.exists_parse_eq_ok_iff]
  rw [update, Setting.update?] at h
  dsimp only at h
  split at h
  · next column hparse => exact ⟨column, hparse⟩
  · exact absurd h (by simp)

namespace Pass

/-- A pass over options of the `apply` phase stops at a column selector. -/
theorem fault_run_eq_some {assignments : List Assignment}
    (h : ∀ a ∈ assignments, a.phase = .apply) {style : Style} {fault : OptionFault}
    (hfault : (run style assignments).fault = some fault) :
    ∃ value cause, Assignment.setting .column value ∈ assignments ∧
      Column.parse value = .error cause ∧ fault = .column value cause := by
  induction assignments generalizing style with
  | nil => exact absurd hfault (by simp)
  | cons a rest ih =>
    rw [run_cons] at hfault
    split at hfault
    · obtain ⟨value, cause, hmem, hparse, hcolumn⟩ := ih (fun b hb => h b (by simp [hb])) hfault
      exact ⟨value, cause, List.mem_cons_of_mem a hmem, hparse, hcolumn⟩
    · next cause hupdate =>
      obtain ⟨value, cause', rfl, hparse, rfl⟩ := Assignment.update_eq_error (h a (by simp)) hupdate
      exact ⟨value, cause', by simp, hparse, (Option.some.inj hfault).symm⟩

/-- A pass that comes to its end has met no bad column selector. -/
theorem namesColumn_of_fault_run_eq_none {assignments : List Assignment} {style : Style}
    (hfault : (run style assignments).fault = none) {value : Text}
    (hmem : Assignment.setting .column value ∈ assignments) : NamesColumn value := by
  induction assignments generalizing style with
  | nil => exact absurd hmem (by simp)
  | cons a rest ih =>
    rw [run_cons] at hfault
    split at hfault
    · next hupdate =>
      rcases List.mem_cons.mp hmem with rfl | hrest
      · exact Assignment.namesColumn_of_update_eq_ok hupdate
      · exact ih hfault hrest
    · exact absurd hfault (by simp)

end Pass

namespace Store

theorem phase_of_mem_assignments {store : Store} {phase : Phase} {a : Assignment}
    (h : a ∈ store.assignments phase) : a.phase = phase := by
  rw [assignments, List.mem_filter] at h
  simpa using h.2

/-- A setting takes effect in its phase, with the value that it has. -/
theorem setting_mem_assignments_iff {store : Store} {phase : Phase} {s : Setting} {value : Text} :
    Assignment.setting s value ∈ store.assignments phase ↔
      store.settings s = some value ∧ s.phase = phase := by
  have hs : s ∈ Setting.all := Setting.mem_all s
  have hphase : (Assignment.setting s value).phase = s.phase := rfl
  rw [assignments, List.mem_filter, hphase, decide_eq_true_iff]
  refine and_congr_left fun _ => ?_
  simp [hs]

end Store

namespace Description

/-- The options of the `apply` phase fail when the column selector names no column. -/
theorem finalStyle_eq_error_iff {d : Description} {initial : Style} {fault : OptionFault} :
    d.finalStyle initial = .error fault ↔
      ∃ value cause, d.store.settings .column = some value ∧ Column.parse value = .error cause ∧
        fault = .column value cause := by
  have hcolumn : ∀ value, Assignment.setting .column value ∈ d.store.assignments .apply ↔
      d.store.settings .column = some value := fun value =>
    Store.setting_mem_assignments_iff.trans (and_iff_left rfl)
  have hstop : ∀ cause, (Pass.run initial (d.store.assignments .apply)).fault = some cause →
      ∃ value cause', d.store.settings .column = some value ∧
        Column.parse value = .error cause' ∧ cause = .column value cause' := by
    intro cause hcause
    obtain ⟨value, cause', hmem, hparse, hfault⟩ :=
      Pass.fault_run_eq_some (fun _ => Store.phase_of_mem_assignments) hcause
    exact ⟨value, cause', (hcolumn value).mp hmem, hparse, hfault⟩
  have hend : (Pass.run initial (d.store.assignments .apply)).fault = none →
      ∀ value, d.store.settings .column = some value → NamesColumn value :=
    fun hnone value hvalue =>
      Pass.namesColumn_of_fault_run_eq_none hnone ((hcolumn value).mpr hvalue)
  rw [finalStyle_eq]
  rcases hrun : Pass.run initial (d.store.assignments .apply) with ⟨style, cause⟩
  rw [hrun] at hstop hend
  cases cause with
  | none =>
    refine ⟨fun h => absurd h (by simp), ?_⟩
    rintro ⟨value, cause, hvalue, hparse, -⟩
    exact absurd (hend rfl value hvalue) (Column.exists_parse_eq_error_iff.mp ⟨cause, hparse⟩)
  | some cause =>
    obtain ⟨value, cause', hvalue, hparse, rfl⟩ := hstop cause rfl
    constructor
    · intro h
      exact ⟨value, cause', hvalue, hparse, (Except.error.inj h).symm⟩
    · rintro ⟨other, cause, hother, hparse', rfl⟩
      obtain rfl : value = other := Option.some.inj (hvalue.symm.trans hother)
      obtain rfl : cause' = cause := Except.error.inj (hparse.symm.trans hparse')
      rfl

end Description

/-! ## Verdicts -/

/-- How a compilation ends. -/
inductive Verdict where
  /-- There is a script. -/
  | script
  /-- There is a report to the user. -/
  | reported (category : Category)
  /-- There is a fault that is not reported. -/
  | unreported
  deriving DecidableEq, Repr

/-- How a compilation ends that fails. -/
def CompileFailure.verdict : CompileFailure → Verdict
  | .reported report => .reported report.category
  | .unreported _ => .unreported

/-- How the compilation of lines ends. -/
def verdict (lines : List Text) (options : CompileOptions) : Verdict :=
  match compile lines options with
  | .ok _ => .script
  | .error failure => failure.verdict

theorem verdict_eq_script_iff {lines : List Text} {options : CompileOptions} :
    verdict lines options = .script ↔ ∃ compiled, compile lines options = .ok compiled := by
  rw [verdict]
  cases compile lines options with
  | ok compiled => simp
  | error failure => cases failure <;> simp [CompileFailure.verdict]

theorem Report.category_locate (r : Report) (path : Option Text) :
    (r.locate path).category = r.category := by
  rw [locate]
  split <;> rfl

theorem Description.verdict_failure_column (d : Description) (sourceName : Option Text)
    (value : Text) (cause : ColumnFault) :
    (d.failure sourceName (.option (.column value cause))).verdict = .reported .config :=
  congrArg Verdict.reported (Report.category_locate _ sourceName)

theorem Description.verdict_failure_rows (d : Description) (sourceName : Option Text)
    (counts : UnpairedRows) :
    (d.failure sourceName (.rows (.unpaired counts))).verdict = .reported .data :=
  congrArg Verdict.reported (Report.category_locate _ sourceName)

/-- Whether there are errors to be paired with another number of values. -/
def Dataset.Unpaired (d : Dataset) : Prop :=
  d.multi = [] ∧ d.errorBars ≠ [] ∧ (d.rows .table).length ≠ (d.rows .errorBars).length

instance (d : Dataset) : Decidable d.Unpaired := inferInstanceAs (Decidable (_ ∧ _ ∧ _))

theorem Dataset.unpaired_iff {d : Dataset} :
    d.Unpaired ↔ d.layout = .paired ∧ (d.rows .table).length ≠ (d.rows .errorBars).length := by
  rw [layout_eq_paired_iff, Unpaired, and_assoc]

theorem hasBadColumn_iff {lines : List Text} {initial : Style} :
    HasBadColumn lines ↔
      ∃ fault, (Description.ofLines lines).finalStyle initial = .error fault := by
  simp only [Description.finalStyle_eq_error_iff, Description.settings_ofLines, HasBadColumn,
    ← Column.exists_parse_eq_error_iff, Option.mem_def]
  constructor
  · rintro ⟨value, hvalue, cause, hcause⟩
    exact ⟨_, value, cause, hvalue, hcause, rfl⟩
  · rintro ⟨-, value, cause, hvalue, hcause, -⟩
    exact ⟨value, hvalue, cause, hcause⟩

/-- The verdict once the options of the `init` phase have taken effect. -/
theorem verdict_eq {lines : List Text} {options : CompileOptions} {initial : Style}
    (hinitial : (Description.ofLines (lines ++ options.extra)).initialStyle = .ok initial) :
    verdict lines options =
      if HasBadColumn (lines ++ options.extra) then .reported .config
      else if (Description.ofLines (lines ++ options.extra)).dataset.Unpaired then .reported .data
      else .script := by
  have hbad := @hasBadColumn_iff (lines ++ options.extra) initial
  rw [verdict]
  cases hcompile : compile lines options with
  | ok compiled =>
    obtain ⟨script, hscript, -⟩ := compile_eq_ok_iff.mp hcompile
    obtain ⟨initial', final, data, hinitial', hfinal, hdata, -⟩ :=
      Description.script_eq_ok_iff.mp hscript
    obtain rfl : initial = initial' := Except.ok.inj (hinitial.symm.trans hinitial')
    have hpaired := (Dataset.finalize_eq_ok_iff.mp hdata).1
    rw [if_neg (by simp [hbad, hfinal]), if_neg fun h => ?_]
    obtain ⟨hlayout, hlength⟩ := Dataset.unpaired_iff.mp h
    exact hlength (hpaired hlayout)
  | error failure =>
    obtain ⟨fault, hscript, rfl⟩ := compile_eq_error_iff.mp hcompile
    rcases Description.script_eq_error_iff.mp hscript with ⟨cause, hnone, -⟩ |
      ⟨initial', cause, hinitial', hfinal, rfl⟩ |
      ⟨initial', final, cause, hinitial', hfinal, hdata, rfl⟩
    · exact absurd (hinitial.symm.trans hnone) (by simp)
    · obtain rfl : initial = initial' := Except.ok.inj (hinitial.symm.trans hinitial')
      obtain ⟨value, cause', -, -, rfl⟩ := Description.finalStyle_eq_error_iff.mp hfinal
      rw [if_pos (hbad.mpr ⟨_, hfinal⟩)]
      exact Description.verdict_failure_column _ _ _ _
    · obtain rfl : initial = initial' := Except.ok.inj (hinitial.symm.trans hinitial')
      obtain ⟨hcounts, rfl⟩ := Dataset.finalize_eq_error_iff.mp hdata
      have hunpaired := Dataset.unpaired_iff.mpr hcounts
      rw [if_neg (by simp [hbad, hfinal]), if_pos hunpaired]
      exact Description.verdict_failure_rows _ _ _

/-- **When a compilation fails.**  Let the options of the `init` phase take effect.  Then there is a
report about the configuration exactly when the last column selector names no column, otherwise one
about the data exactly when errors are to be paired with another number of values, and otherwise a
script.  Nothing else of the lines decides.  A column selector can stand anywhere before the next
one, and one that a later one replaces could as well not be there. -/
theorem verdict_conditions :
    (∀ (lines : List Text) (options : CompileOptions),
      let d := Description.ofLines (lines ++ options.extra)
      (∃ style, d.initialStyle = .ok style) →
      (verdict lines options = .reported .config ↔ HasBadColumn (lines ++ options.extra)) ∧
      (¬HasBadColumn (lines ++ options.extra) →
        (verdict lines options = .reported .data ↔ d.dataset.Unpaired)) ∧
      (¬HasBadColumn (lines ++ options.extra) → ¬d.dataset.Unpaired →
        ∃ compiled, compile lines options = .ok compiled)) ∧
    (∀ (lines lines' : List Text) (options options' : CompileOptions),
      let d := Description.ofLines (lines ++ options.extra)
      let d' := Description.ofLines (lines' ++ options'.extra)
      (∃ style, d.initialStyle = .ok style) → (∃ style, d'.initialStyle = .ok style) →
      lastValue .column (lines ++ options.extra) = lastValue .column (lines' ++ options'.extra) →
      (d.dataset.multi = [] ↔ d'.dataset.multi = []) →
      (d.dataset.errorBars = [] ↔ d'.dataset.errorBars = []) →
      (d.dataset.rows .table).length = (d'.dataset.rows .table).length →
      (d.dataset.rows .errorBars).length = (d'.dataset.rows .errorBars).length →
      verdict lines options = verdict lines' options') ∧
    (∀ (options : CompileOptions) (pre mid post : List Text) (line value : Text),
      Line.read line = .setting .column value → lastValue .column mid = none →
      outcome (pre ++ ([line] ++ mid) ++ post) options =
        outcome (pre ++ (mid ++ [line]) ++ post) options) ∧
    (∀ (options : CompileOptions) (pre mid post : List Text) (line other value value' : Text),
      Line.read line = .setting .column value → Line.read other = .setting .column value' →
      outcome (pre ++ ([line] ++ (mid ++ [other])) ++ post) options =
        outcome (pre ++ (mid ++ [other]) ++ post) options) := by
  refine ⟨fun lines options hinit => ?_, fun lines lines' options options' hinit hinit' => ?_,
    fun options pre mid post line value hread hmid => ?_,
    fun options pre mid post line other value value' hread hread' => ?_⟩
  · obtain ⟨initial, hinitial⟩ := hinit
    have heq := verdict_eq hinitial
    refine ⟨?_, fun hgood => ?_, fun hgood hpaired => ?_⟩
    · rw [heq]
      split
      · next hbad => simp [hbad]
      · next hgood => split <;> simp [hgood]
    · rw [heq, if_neg hgood]
      split
      · next h => simp [h]
      · next h => simp [h]
    · rw [if_neg hgood, if_neg hpaired] at heq
      exact verdict_eq_script_iff.mp heq
  · intro hcolumn hmulti herrors htable hrows
    obtain ⟨initial, hinitial⟩ := hinit
    obtain ⟨initial', hinitial'⟩ := hinit'
    have hbad :
        HasBadColumn (lines ++ options.extra) ↔ HasBadColumn (lines' ++ options'.extra) := by
      rw [HasBadColumn, HasBadColumn, hcolumn]
    have hunpaired : (Description.ofLines (lines ++ options.extra)).dataset.Unpaired ↔
        (Description.ofLines (lines' ++ options'.extra)).dataset.Unpaired := by
      rw [Dataset.Unpaired, Dataset.Unpaired, hmulti, ne_eq, herrors, htable, hrows]
    rw [verdict_eq hinitial, verdict_eq hinitial']
    simp only [hbad, hunpaired]
  · have hmoved := SameReading.of_setting_moved hread hmid
    have hall := ((SameReading.refl pre).append hmoved).append (.refl post)
    exact (hall.append (.refl options.extra)).outcome_eq rfl rfl
  · have hreplaced := SameReading.of_setting_replaced hread hread' mid
    have hall := ((SameReading.refl pre).append hreplaced).append (.refl post)
    exact (hall.append (.refl options.extra)).outcome_eq rfl rfl

/-- A column selector below one; errors for one of two values, among which a selector is replaced
that names no column; the same rows with the errors first; and errors for all values. -/
theorem verdict_of_selectors_and_errors :
    let bad : List Text := ["column=last", "a 1", "column= 0"]
    let table : List Text := ["=table", "a 1"]
    let rest : List Text := ["b 2", "=yerrorbars", "a 0.1"]
    let first : Text := "column=first"
    let last : Text := "column=last"
    let unpaired := table ++ ([first] ++ (rest ++ [last])) ++ []
    let swapped : List Text := ["=yerrorbars", "a 0.1", "column=last", "=table", "a 1", "b 2"]
    let paired : List Text := ["=table", "a 1", "=yerrorbars", "a 0.1", "column=+1_0"]
    (HasBadColumn (bad ++ []) ∧ verdict bad {} = .reported .config) ∧
    ((Description.ofLines (unpaired ++ [])).dataset.Unpaired ∧
      verdict unpaired {} = .reported .data ∧ verdict unpaired {} = verdict swapped {}) ∧
    (∃ compiled, compile paired {} = .ok compiled) ∧
    outcome (table ++ ([first] ++ rest) ++ [last]) {} =
      outcome (table ++ (rest ++ [first]) ++ [last]) {} ∧
    outcome unpaired {} = outcome (table ++ (rest ++ [last]) ++ []) {} := by
  intro bad table rest first last unpaired swapped paired
  obtain ⟨hconditions, hsame, hmoved, hreplaced⟩ := verdict_conditions
  have hbad : HasBadColumn (bad ++ []) := by decide
  have hunpaired : (Description.ofLines (unpaired ++ [])).dataset.Unpaired := by decide
  have hinit : ∃ style, (Description.ofLines (unpaired ++ [])).initialStyle = .ok style :=
    exists_eq_ok_of_isOk (by decide)
  have hinit' : ∃ style, (Description.ofLines (swapped ++ [])).initialStyle = .ok style :=
    exists_eq_ok_of_isOk (by decide)
  obtain ⟨hconfig, -, -⟩ := hconditions bad {} (exists_eq_ok_of_isOk (by decide))
  obtain ⟨-, hdata, -⟩ := hconditions unpaired {} hinit
  obtain ⟨-, -, hscript⟩ := hconditions paired {} (exists_eq_ok_of_isOk (by decide))
  refine ⟨⟨hbad, hconfig.mpr hbad⟩, ⟨hunpaired, (hdata (by decide)).mpr hunpaired, ?_⟩,
    hscript (by decide) (by decide), hmoved {} table rest [last] first "first" ?_ ?_,
    hreplaced {} table rest [] first last "first" "last" ?_ ?_⟩
  · exact hsame unpaired swapped {} {} hinit hinit' (by decide) (by decide) (by decide)
      (by decide) (by decide)
  · decide
  · decide
  · decide
  · decide

end ChartScript
