import ChartScript.Compile
import ChartScript.Proofs.Collection

/-!
# The stages of a compilation

A compilation is four computations in a row, each of which can stop it but the last: the options of
the first phase settle a style, those of the second settle another, the data is laid out, and the
script is put together.  Every theorem about scripts has to take this apart, and would break with
every change to it.  The lemmas here do it once, so that no other proof opens `compile` or
`Description.script`.

They are equivalences.  `script_eq_ok_iff` gives the two styles and the data of a script, with the
equations that they satisfy, and `script_eq_error_iff` says which stage failed and that all before
it succeeded.  An implication would do to use a script that is there, but not to show that there is
one, and most results are about both.  `Description.scriptOf` names what is put together at the end,
so that a proof about the data of a script need not see how its commands are made.

`script_congr` is the frame condition: a script depends on the options that take effect, the
grouping and the data, and on nothing else of a description, in particular not on how many lines
there were or which of them were ignored.  It is what lets lines be moved or dropped.  The stages
also log what they do; the equations are about their results under the default level, and that no
level changes them is the subject of `Proofs.LogErasure`.
-/

set_option autoImplicit false

namespace ChartScript

theorem exists_eq_ok_of_isOk {ε α : Type} {x : Except ε α} (h : x.isOk = true) :
    ∃ a, x = .ok a := by
  cases x with
  | error e => exact absurd h (by simp [Except.isOk, Except.toBool])
  | ok a => exact ⟨a, rfl⟩

/-- What a success is mapped to is found by computing alone. -/
theorem exists_of_map_eq_ok {ε α β : Type} {x : Except ε α} {f : α → β} {b : β}
    (h : x.map f = .ok b) : ∃ a, x = .ok a ∧ f a = b := by
  cases x with
  | error e => exact absurd h (by simp [Except.map])
  | ok a => exact ⟨a, rfl, Except.ok.inj h⟩

theorem exists_of_mapError_eq_error {ε ε' α : Type} {x : Except ε α} {f : ε → ε'} {e' : ε'}
    (h : x.mapError f = .error e') : ∃ e, x = .error e ∧ f e = e' := by
  cases x with
  | error e => exact ⟨e, rfl, Except.error.inj h⟩
  | ok a => exact absurd h (by simp [Except.mapError])

theorem exists_eq_reported {α : Type} {x : Except CompileFailure α}
    (h : (x matches .error (.reported _)) = true) : ∃ report, x = .error (.reported report) := by
  match x with
  | .error (.reported report) => exact ⟨report, rfl⟩
  | .error (.unreported fault) => exact absurd h (by simp)
  | .ok a => exact absurd h (by simp)

/-- A stage and what follows succeed when the stage does and what follows it does. -/
theorem bind_eq_ok_iff {ε α β : Type} {x : Except ε α} {f : α → Except ε β} {b : β} :
    x >>= f = .ok b ↔ ∃ a, x = .ok a ∧ f a = .ok b := by
  cases x with
  | error e => simp [bind, Except.bind]
  | ok a => simp [bind, Except.bind]

/-- They fail when one of them does. -/
theorem bind_eq_error_iff {ε α β : Type} {x : Except ε α} {f : α → Except ε β} {e : ε} :
    x >>= f = .error e ↔ x = .error e ∨ ∃ a, x = .ok a ∧ f a = .error e := by
  cases x with
  | error e => simp [bind, Except.bind]
  | ok a => simp [bind, Except.bind]

theorem Store.assignments_empty (phase : Phase) : ({} : Store).assignments phase = [] := by
  simp [Store.assignments]

namespace Description

/-- The script of a description whose stages gave the two styles and the data. -/
def scriptOf (d : Description) (backend : List Text) (initial final : Style) (data : List Text) :
    Script :=
  { config := d.configLines initial, backend, data, plot := (d.chart final).plotCommand }

/-- There is a script exactly when every stage succeeds. -/
theorem script_eq_ok_iff {d : Description} {backend : List Text} {script : Script} :
    d.script backend = .ok script ↔
      ∃ initial final data, d.initialStyle = .ok initial ∧ d.finalStyle initial = .ok final ∧
        d.dataset.finalize d.resolvedGrouping.groupCount final.column = .ok data ∧
        script = d.scriptOf backend initial final data := by
  rw [Description.script_eq]
  cases hi : d.initialStyle with
  | error fault => simp [Except.mapError, bind, Except.bind]
  | ok initial =>
    cases hf : d.finalStyle initial with
    | error fault => simp [Except.mapError, bind, Except.bind, hf]
    | ok final =>
      cases hd : d.dataset.finalize d.resolvedGrouping.groupCount final.column with
      | error fault => simp [Except.mapError, bind, Except.bind, hf, hd]
      | ok data =>
        simp [Except.mapError, bind, Except.bind, hf, hd, scriptOf, pure, Except.pure, eq_comm]

/-- Otherwise the first stage that fails says why there is none. -/
theorem script_eq_error_iff {d : Description} {backend : List Text} {fault : CompileFault} :
    d.script backend = .error fault ↔
      (∃ cause, d.initialStyle = .error cause ∧ fault = .option cause) ∨
      (∃ initial cause, d.initialStyle = .ok initial ∧ d.finalStyle initial = .error cause ∧
        fault = .option cause) ∨
      ∃ initial final cause, d.initialStyle = .ok initial ∧ d.finalStyle initial = .ok final ∧
        d.dataset.finalize d.resolvedGrouping.groupCount final.column = .error cause ∧
        fault = .rows cause := by
  rw [Description.script_eq]
  cases hi : d.initialStyle with
  | error cause => simp [Except.mapError, bind, Except.bind, eq_comm]
  | ok initial =>
    cases hf : d.finalStyle initial with
    | error cause => simp [Except.mapError, bind, Except.bind, hf, eq_comm]
    | ok final =>
      cases hd : d.dataset.finalize d.resolvedGrouping.groupCount final.column with
      | error cause => simp [Except.mapError, bind, Except.bind, hf, hd, eq_comm]
      | ok data => simp [Except.mapError, bind, Except.bind, hf, hd, pure, Except.pure]

/-- Without options the style is the default one, with the legend in the order of the grouping. -/
theorem initialStyle_of_store_eq_empty {d : Description} (h : d.store = {}) :
    d.initialStyle = .ok { keyInvert := d.resolvedGrouping.kind.invertsKey } := by
  rw [initialStyle_eq, h, Store.assignments_empty, Pass.run_nil]

theorem finalStyle_of_store_eq_empty {d : Description} (h : d.store = {}) (initial : Style) :
    d.finalStyle initial = .ok initial := by
  rw [finalStyle_eq, h, Store.assignments_empty, Pass.run_nil]

/-- A script is made from the options that take effect, the grouping and the data. -/
theorem script_congr {d e : Description} (hdata : d.dataset = e.dataset)
    (hgrouping : d.grouping = e.grouping) (hflags : d.store.flags = e.store.flags)
    (hsettings : d.store.settings = e.store.settings)
    (hrepeated : d.store.repeated = e.store.repeated) (backend : List Text) :
    d.script backend = e.script backend := by
  have hassign : d.store.assignments = e.store.assignments := by
    funext phase
    rw [Store.assignments, Store.assignments, hflags, hsettings, hrepeated]
  have hresolved : d.resolvedGrouping = e.resolvedGrouping := by
    rw [resolvedGrouping, resolvedGrouping, hgrouping]
  have hinitial : d.initialStyle = e.initialStyle := by
    rw [initialStyle_eq, initialStyle_eq, hassign, hresolved]
  have hfinal : d.finalStyle = e.finalStyle := by
    funext initial
    rw [finalStyle_eq, finalStyle_eq, hassign]
  have hchart : d.chart = e.chart := by
    funext style
    rw [chart, chart, hresolved, hdata]
  have hconfig : d.configLines = e.configLines := by
    funext initial
    rw [configLines, configLines, hassign, hchart]
  rw [Description.script_eq, Description.script_eq, hinitial, hfinal, hresolved, hdata, hchart,
    hconfig]

end Description

/-- What a successful compilation consists of. -/
theorem compile_eq_ok_iff {lines : List Text} {options : CompileOptions} {compiled : Compiled} :
    compile lines options = .ok compiled ↔
      ∃ script, (Description.ofLines (lines ++ options.extra)).script options.backend = .ok script ∧
        compiled = ⟨script, (Description.ofLines (lines ++ options.extra)).store.ignored⟩ := by
  rw [compile_eq]
  cases hs : (Description.ofLines (lines ++ options.extra)).script options.backend with
  | error fault => simp
  | ok script => simp [eq_comm]

/-- What a failed compilation consists of. -/
theorem compile_eq_error_iff {lines : List Text} {options : CompileOptions}
    {failure : CompileFailure} :
    compile lines options = .error failure ↔
      ∃ fault, (Description.ofLines (lines ++ options.extra)).script options.backend =
          .error fault ∧
        failure = (Description.ofLines (lines ++ options.extra)).failure options.sourceName
          fault := by
  rw [compile_eq]
  cases hs : (Description.ofLines (lines ++ options.extra)).script options.backend with
  | error fault => simp [eq_comm]
  | ok script => simp

/-! ## A grouping and then data -/

/-- The chart of a grouping and data without any options. -/
def plainChart (g : Grouping) (d : Dataset) : Chart :=
  { style := { keyInvert := g.kind.invertsKey }, grouping := g, errorBars := d.hasErrorBars
    setTitles := d.setTitles }

/-- A grouping and then data compile to a plain chart, if the data can be laid out. -/
theorem compile_grouping_cons {first : Text} {g : Grouping} {rest : List Text} {d : Dataset}
    {data : List Text} (hfirst : Line.read first = .grouping g)
    (hrest : ∀ line ∈ rest.map Line.read, line.isStructural = true)
    (hdataset : (rest.map Line.read).foldl Dataset.takeIn {} = d)
    (hdata : d.finalize g.groupCount none = .ok data) (backend : List Text)
    (sourceName : Option Text) :
    compile (first :: rest) { backend, sourceName } =
      .ok ⟨{ config := (plainChart g d).defaults, backend, data,
             plot := (plainChart g d).plotCommand }, []⟩ := by
  have hstore := Description.store_ofLines_grouping_cons hfirst hrest
  have hgrouping := Description.resolvedGrouping_ofLines_grouping_cons hfirst hrest
  have hdata' := (Description.dataset_ofLines_grouping_cons hfirst hrest).trans hdataset
  rw [compile_eq_ok_iff, List.append_nil]
  generalize Description.ofLines (first :: rest) = e at *
  have hinitial := Description.initialStyle_of_store_eq_empty hstore
  have hfinal := Description.finalStyle_of_store_eq_empty hstore
    { keyInvert := e.resolvedGrouping.kind.invertsKey }
  have hchart : e.chart { keyInvert := e.resolvedGrouping.kind.invertsKey } = plainChart g d := by
    rw [Description.chart, hgrouping, hdata']
    rfl
  have hconfig : e.configLines { keyInvert := e.resolvedGrouping.kind.invertsKey } =
      (plainChart g d).defaults := by
    rw [Description.configLines, hchart, hstore, Store.assignments_empty,
      Store.assignments_empty]
    simp [Pass.lines]
  refine ⟨_, Description.script_eq_ok_iff.mpr ⟨_, _, data, hinitial, hfinal, ?_, rfl⟩, ?_⟩
  · rw [hgrouping, hdata']
    exact hdata
  · rw [Description.scriptOf, hchart, hconfig, hstore]
    simp [Store.ignored, Ignored.sortByName]

end ChartScript
