import ChartScript.Proofs.Verdict

/-!
# What the two phases leave to each other

The options of the `init` phase take effect before the chart defaults are written and those of the
`apply` phase after that.  The script is assembled in another order than it is computed: the
defaults are written from the style between the phases, and the plot command from the style after
both.  This is sound only if the first phase writes nothing and leaves alone what the second is for,
and if the second changes nothing that the defaults are written from.

None of this can be seen from the code of the passes, which apply whatever they are given.  It is a
property of the assignment of options to phases, so it is proved option by option, and
`Pass.run_induction` lifts it: what every option of a pass keeps is kept by the pass.  An option
that is moved to the other phase fails its own case and nothing else.

`Style.InitFrame` lists the fields that the first phase leaves alone.  It is a structure with an
equation per field, and not equality of a part of the style, because the fields of a style are not
grouped by phase and the code has no name for the group.  In the other direction no list of fields
is needed.  What matters about the second phase is the text of the defaults, for any chart
(`Chart.defaultsIn`), and that text is compared directly; so a default that comes to depend on a
field of the second phase is noticed here.
-/

set_option autoImplicit false

namespace ChartScript

/-- What is kept by every option of a pass is kept by the pass, wherever it stops. -/
theorem Pass.run_induction {P : Style → Prop} {assignments : List Assignment}
    (hstep : ∀ a ∈ assignments, ∀ style style', P style → a.update style = .ok style' → P style')
    {style : Style} (h : P style) : P (run style assignments).style := by
  induction assignments generalizing style with
  | nil => exact h
  | cons a rest ih =>
    rw [run_cons]
    split
    · next style' hupdate =>
      exact ih (fun b hb => hstep b (List.mem_cons_of_mem a hb)) (hstep a (by simp) _ _ h hupdate)
    · exact h

/-! ## The init phase -/

/-- Two styles that agree in what only later stages settle. -/
structure Style.InitFrame (before after : Style) : Prop where
  colors : after.colors = before.colors
  column : after.column = before.column
  plotLines : after.plotLines = before.plotLines
  keyInvert : after.keyInvert = before.keyInvert
  patternStart : after.patternStart = before.patternStart
  upperRightBorder : after.upperRightBorder = before.upperRightBorder

namespace Style.InitFrame

theorem refl (style : Style) : style.InitFrame style := ⟨rfl, rfl, rfl, rfl, rfl, rfl⟩

theorem trans {a b c : Style} (hab : a.InitFrame b) (hbc : b.InitFrame c) : a.InitFrame c :=
  ⟨hbc.colors.trans hab.colors, hbc.column.trans hab.column, hbc.plotLines.trans hab.plotLines,
    hbc.keyInvert.trans hab.keyInvert, hbc.patternStart.trans hab.patternStart,
    hbc.upperRightBorder.trans hab.upperRightBorder⟩

end Style.InitFrame

namespace Assignment

theorem line?_of_phase_eq_init {a : Assignment} (h : a.phase = .init) : a.line? = none := by
  cases a with
  | flag f =>
    cases f with
    | gridX | noUpperRight => exact absurd h (by simp [phase, key, Key.phase, Flag.phase])
    | _ => rfl
  | setting s value =>
    cases s with
    | barWidth | gapFactor | maxY | minY | setLabelShift | rotateBy => rfl
    | _ => exact absurd h (by simp [phase, key, Key.phase, Setting.phase])
  | repeated r values => exact absurd h (by simp [phase, key, Key.phase, Repeated.phase])

theorem initFrame_update {a : Assignment} (h : a.phase = .init) {style style' : Style}
    (hupdate : a.update style = .ok style') : style.InitFrame style' := by
  cases a with
  | flag f =>
    cases f with
    | gridX | noUpperRight => exact absurd h (by simp [phase, key, Key.phase, Flag.phase])
    | _ =>
      cases hupdate
      exact ⟨rfl, rfl, rfl, rfl, rfl, rfl⟩
  | setting s value =>
    cases s with
    | barWidth | maxY | minY | setLabelShift =>
      cases hupdate
      exact ⟨rfl, rfl, rfl, rfl, rfl, rfl⟩
    | gapFactor =>
      rw [update, Setting.update?] at hupdate
      dsimp only at hupdate
      split at hupdate
      · exact absurd hupdate (by simp)
      · next factor _ =>
        cases hgap : multiplyGap style.barGap factor with
        | error fault => exact absurd hupdate (by simp [hgap, Except.map])
        | ok gap =>
          rw [hgap] at hupdate
          cases hupdate
          exact ⟨rfl, rfl, rfl, rfl, rfl, rfl⟩
    | rotateBy =>
      rw [update, Setting.update?] at hupdate
      dsimp only at hupdate
      split at hupdate
      · exact absurd hupdate (by simp)
      · cases hupdate
        exact ⟨rfl, rfl, rfl, rfl, rfl, rfl⟩
    | _ => exact absurd h (by simp [phase, key, Key.phase, Setting.phase])
  | repeated r values => exact absurd h (by simp [phase, key, Key.phase, Repeated.phase])

end Assignment

theorem Pass.lines_init (store : Store) : lines (store.assignments .init) = [] :=
  List.filterMap_eq_nil_iff.mpr fun _ ha =>
    Assignment.line?_of_phase_eq_init (Store.phase_of_mem_assignments ha)

theorem Pass.initFrame_run (store : Store) (style : Style) :
    style.InitFrame (run style (store.assignments .init)).style := by
  refine run_induction (fun a ha s s' hs hupdate => ?_) (Style.InitFrame.refl style)
  exact hs.trans (Assignment.initFrame_update (Store.phase_of_mem_assignments ha) hupdate)

/-! ## The apply phase -/

/-- The defaults of a chart in another style. -/
def Chart.defaultsIn (c : Chart) (style : Style) : List Text := { c with style }.defaults

namespace Assignment

/-- Options of the `apply` phase change colors, the column, lines of the plot command and borders,
none of which the defaults are written from. -/
theorem defaults_update {a : Assignment} (h : a.phase = .apply) {style style' : Style}
    (hupdate : a.update style = .ok style') (c : Chart) :
    c.defaultsIn style' = c.defaultsIn style := by
  cases a with
  | flag f =>
    cases f with
    | gridX | noUpperRight =>
      cases hupdate
      rfl
    | _ => exact absurd h (by simp [phase, key, Key.phase, Flag.phase])
  | setting s value =>
    cases s with
    | barWidth | gapFactor | maxY | minY | setLabelShift | rotateBy =>
      exact absurd h (by simp [phase, key, Key.phase, Setting.phase])
    | column =>
      rw [update, Setting.update?] at hupdate
      dsimp only at hupdate
      split at hupdate
      · cases hupdate
        rfl
      · exact absurd hupdate (by simp)
    | _ =>
      cases hupdate
      rfl
  | repeated r values =>
    cases r with
    | command | horizontalLine =>
      cases hupdate
      rfl

end Assignment

theorem Pass.defaults_run (store : Store) (style : Style) (c : Chart) :
    c.defaultsIn (run style (store.assignments .apply)).style = c.defaultsIn style := by
  refine run_induction (P := fun s => c.defaultsIn s = c.defaultsIn style)
    (fun a ha s s' hs hupdate => ?_) rfl
  exact (Assignment.defaults_update (Store.phase_of_mem_assignments ha) hupdate c).trans hs

/-! ## Scripts -/

/-- The style that a script is plotted in has the defaults of the style before the `apply` phase. -/
theorem Description.defaults_finalStyle {d : Description} {initial final : Style}
    (h : d.finalStyle initial = .ok final) :
    (d.chart final).defaults = (d.chart initial).defaults := by
  have hrun := Pass.defaults_run d.store initial (d.chart initial)
  rw [finalStyle_eq] at h
  split at h
  · next style heq =>
    cases h
    rw [heq] at hrun
    exact hrun
  · exact absurd h (by simp)

/-- **The two phases are apart.**  Whatever options are given and in whatever style a pass starts,
the `init` phase writes nothing and leaves alone what the `apply` phase is for, and the `apply`
phase leaves the defaults of every chart alone.  So a script starts with the defaults of the style
that it is plotted in, and the lines that options write come after them. -/
theorem passes_separated :
    (∀ (store : Store) (style : Style), Pass.lines (store.assignments .init) = [] ∧
      style.InitFrame (Pass.run style (store.assignments .init)).style) ∧
    (∀ (store : Store) (style : Style) (c : Chart),
      c.defaultsIn (Pass.run style (store.assignments .apply)).style = c.defaultsIn style) ∧
    ∀ (lines : List Text) (options : CompileOptions) (compiled : Compiled),
      compile lines options = .ok compiled →
      let d := Description.ofLines (lines ++ options.extra)
      ∃ initial final, d.initialStyle = .ok initial ∧ d.finalStyle initial = .ok final ∧
        (d.chart initial).defaults = (d.chart final).defaults ∧
        compiled.script.config =
          (d.chart final).defaults ++ Pass.lines (d.store.assignments .apply) ∧
        compiled.script.plot = (d.chart final).plotCommand := by
  refine ⟨fun store style => ⟨Pass.lines_init store, Pass.initFrame_run store style⟩,
    Pass.defaults_run, ?_⟩
  intro lines options compiled h d
  obtain ⟨script, hscript, rfl⟩ := compile_eq_ok_iff.mp h
  obtain ⟨initial, final, data, hinitial, hfinal, -, rfl⟩ :=
    Description.script_eq_ok_iff.mp hscript
  have hdefaults := Description.defaults_finalStyle hfinal
  refine ⟨initial, final, hinitial, hfinal, hdefaults.symm, ?_, rfl⟩
  show d.configLines initial = _
  rw [Description.configLines, Pass.lines_init, List.nil_append, hdefaults]

/-- Options of both phases, in no order: the fill that the `init` phase chose is among the defaults,
and the lines of the `apply` phase follow. -/
theorem passes_separated_patternsAndColors :
    let lines : List Text := ["title=Speed", "colorset=red", "horizline=3", "=patterns", "a 1"]
    let d := Description.ofLines (lines ++ [])
    ∃ compiled, compile lines {} = .ok compiled ∧ ∃ initial final,
      d.initialStyle = .ok initial ∧ d.finalStyle initial = .ok final ∧
      (initial.fillStyle, initial.colors) = (Text.ofString "pattern 2", []) ∧
      final.colors = [Text.ofString "red"] ∧
      (d.chart initial).defaults = (d.chart final).defaults ∧
      compiled.script.config = (d.chart final).defaults ++
        [Text.ofString "set linetype 1 lc rgb \"red\"", Text.ofString "set title \"Speed\""] := by
  intro lines d
  obtain ⟨compiled, hcompiled⟩ : ∃ compiled, compile lines {} = .ok compiled :=
    exists_eq_ok_of_isOk (by decide +kernel)
  have hlines : Pass.lines (d.store.assignments .apply) =
      [Text.ofString "set linetype 1 lc rgb \"red\"", Text.ofString "set title \"Speed\""] := by
    decide +kernel
  have hfirst : (d.initialStyle.map fun s => (s.fillStyle, s.colors)) =
      .ok (Text.ofString "pattern 2", []) := by decide +kernel
  have hsecond : ((d.initialStyle.bind d.finalStyle).map fun s => s.colors) =
      .ok [Text.ofString "red"] := by decide +kernel
  obtain ⟨initial, final, hinitial, hfinal, hdefaults, hconfig, -⟩ :=
    passes_separated.2.2 lines {} compiled hcompiled
  rw [hinitial] at hfirst hsecond
  rw [Except.bind, hfinal] at hsecond
  refine ⟨compiled, hcompiled, initial, final, hinitial, hfinal, Except.ok.inj hfirst,
    Except.ok.inj hsecond, hdefaults, ?_⟩
  rw [← hlines]
  exact hconfig

end ChartScript
