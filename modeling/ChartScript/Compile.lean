import ChartScript.Description
import ChartScript.Options.Pass
import ChartScript.Report
import ChartScript.Script
import ChartScript.Text.LineBreak

/-!
# Compiling a description

`compile` turns the lines of a description into a script:

1. take in the lines of the description and then the extra lines;
2. let the options of the `init` phase change the default style;
3. write the chart defaults from that style and the grouping;
4. let the options of the `apply` phase take effect, whose lines override the defaults;
5. lay out the data and write the script.

The directives and options that do not exist are reported as warnings, with the script or with the
failure.

The stages log what they do, so each has the form of a computation that writes records, with an `M`
at the end of its name.  The name without it stands for the result alone.
-/

set_option autoImplicit false

namespace ChartScript

/-- What a compilation takes besides the description. -/
structure CompileOptions where
  /-- Lines taken in after those of the description. -/
  extra : List Text := []
  /-- Lines passed through to the plotting program, before the data. -/
  backend : List Text := []
  /-- The name of the description in reports. -/
  sourceName : Option Text := none
  deriving DecidableEq, Repr

/-- Why there is no script. -/
inductive CompileFault where
  | option (fault : OptionFault)
  | rows (fault : DataFault)
  deriving DecidableEq, Repr

namespace CompileFault

/-- The fault in words. -/
def message : CompileFault → Text
  | .option fault => fault.message
  | .rows fault => fault.message

/-- The report to the user, for the faults that the user can mend. -/
def report? : CompileFault → Option Report
  | .option (.column value fault) =>
    some { category := .config, message := (OptionFault.column value fault).message,
           hint := some fault.hint }
  | .rows (.unpaired counts) =>
    some { category := .data, message := counts.message, hint := some UnpairedRows.hint }
  | .option _ | .rows .exhausted => none

end CompileFault

/-- A failed compilation: a report with its location and warnings, or a fault that is not
reported. -/
inductive CompileFailure where
  | reported (report : Report)
  | unreported (fault : CompileFault)
  deriving DecidableEq, Repr

/-- A compiled description. -/
structure Compiled where
  script : Script
  ignored : List Ignored
  deriving DecidableEq, Repr

/-- The warnings that belong to a script. -/
def Compiled.warnings (c : Compiled) : List Text := c.ignored.map Ignored.warning

namespace Description

/-- Makes the options of the `init` phase take effect on the default style, and puts the legend in
the order that the grouping wants. -/
def initialStyleM (d : Description) : ExceptT OptionFault Logging Style := do
  match ← Pass.runM {} (d.store.assignments .init) with
  | ⟨style, none⟩ => return { style with keyInvert := d.resolvedGrouping.kind.invertsKey }
  | ⟨_, some fault⟩ => throw fault

/-- The style after the `init` phase. -/
def initialStyle (d : Description) : Except OptionFault Style := d.initialStyleM.run.value

theorem initialStyle_eq (d : Description) :
    d.initialStyle =
      match Pass.run {} (d.store.assignments .init) with
      | ⟨style, none⟩ => .ok { style with keyInvert := d.resolvedGrouping.kind.invertsKey }
      | ⟨_, some fault⟩ => .error fault := by
  rw [initialStyle, initialStyleM, Logging.value_run_bind]
  show (match Pass.run {} (d.store.assignments .init) with
    | ⟨style, none⟩ => pure { style with keyInvert := d.resolvedGrouping.kind.invertsKey }
    | ⟨_, some fault⟩ => throw fault : ExceptT OptionFault Logging Style).run.value = _
  split <;> rfl

/-- Makes the options of the `apply` phase take effect. -/
def finalStyleM (d : Description) (initial : Style) : ExceptT OptionFault Logging Style := do
  match ← Pass.runM initial (d.store.assignments .apply) with
  | ⟨style, none⟩ => return style
  | ⟨_, some fault⟩ => throw fault

/-- The style after the `apply` phase. -/
def finalStyle (d : Description) (initial : Style) : Except OptionFault Style :=
  (d.finalStyleM initial).run.value

theorem finalStyle_eq (d : Description) (initial : Style) :
    d.finalStyle initial =
      match Pass.run initial (d.store.assignments .apply) with
      | ⟨style, none⟩ => .ok style
      | ⟨_, some fault⟩ => .error fault := by
  rw [finalStyle, finalStyleM, Logging.value_run_bind]
  show (match Pass.run initial (d.store.assignments .apply) with
    | ⟨style, none⟩ => pure style
    | ⟨_, some fault⟩ => throw fault : ExceptT OptionFault Logging Style).run.value = _
  split <;> rfl

/-- The chart of a description in a given style. -/
def chart (d : Description) (style : Style) : Chart :=
  { style, grouping := d.resolvedGrouping, errorBars := d.dataset.hasErrorBars,
    setTitles := d.dataset.setTitles }

/-- The configuration lines: those of the `init` phase, the defaults and those of the `apply`
phase. -/
def configLines (d : Description) (initial : Style) : List Text :=
  Pass.lines (d.store.assignments .init) ++ (d.chart initial).defaults ++
    Pass.lines (d.store.assignments .apply)

/-- Lets the options take effect, lays out the data and writes the script. -/
def scriptM (d : Description) (backend : List Text) : ExceptT CompileFault Logging Script := do
  Event.log (.classified d.lineCount d.resolvedGrouping.kind)
  let initial ← d.initialStyleM.adapt CompileFault.option
  let final ← (d.finalStyleM initial).adapt CompileFault.option
  let data ← (d.dataset.finalizeM d.resolvedGrouping.groupCount final.column).adapt
    CompileFault.rows
  let chart := d.chart final
  Event.log (.scriptWritten chart.setCount chart.grouping.groupCount)
  return { config := d.configLines initial, backend, data, plot := chart.plotCommand }

/-- The script of a description. -/
def script (d : Description) (backend : List Text) : Except CompileFault Script :=
  (d.scriptM backend).run.value

theorem script_eq (d : Description) (backend : List Text) :
    d.script backend = do
      let initial ← d.initialStyle.mapError CompileFault.option
      let final ← (d.finalStyle initial).mapError CompileFault.option
      let data ← (d.dataset.finalize d.resolvedGrouping.groupCount final.column).mapError
        CompileFault.rows
      return { config := d.configLines initial, backend, data,
               plot := (d.chart final).plotCommand } := by
  rw [script, scriptM]
  simp only [Logging.value_run_bind]
  rfl

/-- A fault as the failure of compiling a description. -/
def failure (d : Description) (sourceName : Option Text) (fault : CompileFault) :
    CompileFailure :=
  match fault.report? with
  | some report => .reported { report.locate sourceName with warnings := d.store.warnings }
  | none => .unreported fault

end Description

/-- Takes in the lines of a description and then the extra lines, and writes the script. -/
def compileM (lines : List Text) (options : CompileOptions) :
    ExceptT CompileFailure Logging Compiled := do
  let d ← Description.ofLinesM (lines ++ options.extra)
  let script ← (d.scriptM options.backend).adapt (d.failure options.sourceName)
  return ⟨script, d.store.ignored⟩

/-- The script of the lines of a description. -/
def compile (lines : List Text) (options : CompileOptions) : Except CompileFailure Compiled :=
  (compileM lines options).run.value

theorem compile_eq (lines : List Text) (options : CompileOptions) :
    compile lines options =
      match (Description.ofLines (lines ++ options.extra)).script options.backend with
      | .ok script => .ok ⟨script, (Description.ofLines (lines ++ options.extra)).store.ignored⟩
      | .error fault => .error
        ((Description.ofLines (lines ++ options.extra)).failure options.sourceName fault) := by
  rw [compile, compileM]
  simp only [Logging.value_run_bind]
  show ((Description.ofLines (lines ++ options.extra)).script options.backend).mapError _ >>= _ = _
  cases (Description.ofLines (lines ++ options.extra)).script options.backend with
  | ok script => rfl
  | error fault => rfl

/-- The script of the text of a description. -/
def compileText (text : Text) (options : CompileOptions) : Except CompileFailure Compiled :=
  compile text.splitLines options

end ChartScript
