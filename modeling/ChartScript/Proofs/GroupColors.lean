import ChartScript.Proofs.NumericOptions
import ChartScript.Proofs.Phases
import ChartScript.Proofs.PlotCommand
import Mathlib.Data.List.Nodup
import Mathlib.Data.Nat.ModEq

/-!
# How colors reach the groups

The colors that are given install line types, and the terms of the groups name line types.  The two
are never seen together: the list of colors is split once for the commands and once again for the
style, and the number of a line type is computed in both places.  That a group gets *its* color is
therefore a property of the script as a whole.

The style is where the argument could fail.  A pass *adds* colors to those that are there, so two
color options in effect would give a longer list than either command installs.  `Assignment.colors`
is what an option adds, and `Pass.colors_run` says that a pass adds those of its options in order;
since no option takes effect twice, a style ends up with the colors of one value
(`Description.colors_finalStyle`).  Here the step is the effect of one option and the run is the
pass, and an option that began to set colors would change one case of the step.

The commands are in the other half of the script.  `colorCommands_eq_mapIdx` numbers them from one
on.  `groups_take_colors` joins the halves: the color commands stand in the script in this order,
and the plot command is the joined text of its terms, in which every group names the line type of
its color.  Colors start over when there are more groups than colors; two groups share a line type
exactly when their numbers are congruent modulo the number of colors, which for no colors at all
means that they are the same group.
-/

set_option autoImplicit false

namespace ChartScript

/-! ## Colors of a style -/

namespace Assignment

/-- The colors that an option adds to a style. -/
def colors : Assignment → List Text
  | .setting .colorSet value => splitColors value
  | _ => []

theorem colors_of_key_ne {a : Assignment} (h : a.key ≠ .setting .colorSet) : a.colors = [] := by
  rcases a with f | ⟨s, value⟩ | ⟨r, values⟩
  · rfl
  · cases s with
    | colorSet => exact absurd rfl h
    | _ => rfl
  · rfl

/-- An option adds its colors behind those that a style has. -/
theorem colors_update {a : Assignment} {style style' : Style}
    (hupdate : a.update style = .ok style') : style'.colors = style.colors ++ a.colors := by
  rcases a with f | ⟨s, value⟩ | ⟨r, values⟩
  · cases f <;> cases hupdate <;> exact (List.append_nil _).symm
  · cases s with
    | colorSet =>
      cases hupdate
      rfl
    | column =>
      rw [update, Setting.update?] at hupdate
      dsimp only at hupdate
      split at hupdate
      · cases hupdate
        exact (List.append_nil _).symm
      · exact absurd hupdate (by simp)
    | gapFactor | rotateBy =>
      exact (initFrame_update rfl hupdate).colors.trans (List.append_nil _).symm
    | _ =>
      cases hupdate
      exact (List.append_nil _).symm
  · cases r <;> cases hupdate <;> exact (List.append_nil _).symm

end Assignment

theorem Pass.colors_run {assignments : List Assignment} {style : Style}
    (hfault : (run style assignments).fault = none) :
    (run style assignments).style.colors = style.colors ++ assignments.flatMap (·.colors) := by
  induction assignments generalizing style with
  | nil => exact (List.append_nil _).symm
  | cons a rest ih =>
    rw [run_cons] at hfault ⊢
    split at hfault
    next style' hupdate =>
      rw [ih hfault, Assignment.colors_update hupdate, List.flatMap_cons, List.append_assoc]
    next => exact absurd hfault (by simp)

namespace Store

theorem flatMap_colors_assignments (store : Store) :
    (store.assignments .apply).flatMap (·.colors) =
      (store.settings .colorSet).elim [] splitColors := by
  have hnone : ∀ {as : List Assignment}, (∀ a ∈ as, a.key ≠ .setting .colorSet) →
      as.flatMap (·.colors) = [] :=
    fun h => List.flatMap_eq_nil_iff.mpr fun a ha => Assignment.colors_of_key_ne (h a ha)
  cases hgiven : store.settings .colorSet with
  | none =>
    refine hnone fun a ha hkey => ?_
    rcases a with f | ⟨s, value⟩ | ⟨r, values⟩
    · exact absurd hkey (by simp [Assignment.key])
    · obtain rfl : s = .colorSet := by simpa [Assignment.key] using hkey
      exact absurd (setting_mem_assignments_iff.mp ha).1 (by simp [hgiven])
    · exact absurd hkey (by simp [Assignment.key])
  | some value =>
    obtain ⟨before, after, hsplit, hother⟩ := exists_assignments_eq hgiven
    obtain ⟨hbefore, hafter⟩ := List.forall_mem_append.mp hother
    replace hsplit : store.assignments .apply = _ := hsplit
    rw [hsplit, List.flatMap_append, List.flatMap_cons, hnone hbefore, hnone hafter,
      List.append_nil]
    rfl

end Store

namespace Description

variable {d : Description} {initial final : Style}

/-- The style that a script is plotted in has the colors of the value that was given. -/
theorem colors_finalStyle (hinitial : d.initialStyle = .ok initial)
    (hfinal : d.finalStyle initial = .ok final) :
    final.colors = (d.store.settings .colorSet).elim [] splitColors := by
  have hnone : initial.colors = [] := by
    have hframe := Pass.initFrame_run d.store {}
    rw [initialStyle_eq] at hinitial
    split at hinitial
    next style heq =>
      cases hinitial
      rw [heq] at hframe
      exact hframe.colors
    next => exact absurd hinitial (by simp)
  rw [finalStyle_eq] at hfinal
  split at hfinal
  next style heq =>
    cases hfinal
    have hrun := Pass.colors_run (congrArg PassResult.fault heq)
    rwa [heq, hnone, List.nil_append, Store.flatMap_colors_assignments] at hrun
  next => exact absurd hfinal (by simp)

theorem configLines_eq (hfinal : d.finalStyle initial = .ok final) :
    d.configLines initial =
      (d.chart final).defaults ++ Pass.lines (d.store.assignments .apply) := by
  rw [configLines, Pass.lines_init, List.nil_append, defaults_finalStyle hfinal]

end Description

/-! ## Line types -/

/-- The command that gives a line type its color. -/
def installCommand (lineType : Nat) (color : Text) : Text :=
  Text.ofString "set linetype " ++ Text.ofString (toString lineType) ++
    Text.ofString " lc rgb \"" ++ color ++ Text.ofString "\""

theorem colorCommands_eq_mapIdx (number : Nat) (colors : List Text) :
    colorCommands number colors =
      colors.mapIdx fun i color => installCommand (number + i) color := by
  induction colors generalizing number with
  | nil => rfl
  | cons color colors ih =>
    have hfirst : Text.ofString (s!"set linetype {number} lc rgb \"") ++ color ++
        Text.ofString "\"" = installCommand number color := by
      rw [installCommand, ← Text.ofString_append, ← Text.ofString_append]
      rfl
    rw [colorCommands, ih, List.mapIdx_cons, hfirst]
    simp only [Nat.add_zero, Nat.add_assoc, Nat.add_comm 1]

/-- What is written for a list of colors. -/
theorem Assignment.line?_colorSet (value : Text) :
    (Assignment.setting .colorSet value).line? = some (Text.join "\n"
      ((splitColors value).mapIdx fun i color => installCommand (1 + i) color)) := by
  rw [← colorCommands_eq_mapIdx]
  rfl

theorem splitColors_eq (value : Text) :
    splitColors value = (value.splitOn (CodePoint.char ',')).filter (· ≠ []) := by
  rw [← Text.piecesAt_singleton]
  refine List.filter_congr fun color _ => ?_
  cases color <;> rfl

/-- The line type of a group counts from one and starts over behind the last color.  Without colors
it never does, which is what a remainder by zero says. -/
theorem Style.lineType_eq (style : Style) (g : Nat) :
    style.lineType g = ((1 + g % style.colors.length : Nat) : Int) := by
  rw [lineType]
  cases style.colors with
  | nil =>
    rw [List.isEmpty_nil, if_pos rfl, List.length_nil, Nat.mod_zero]
    omega
  | cons color colors => simp

/-- The term of a group ends with its line type. -/
theorem Chart.exists_text_groupTerm_eq (c : Chart) (s g : Nat) :
    ∃ start, (c.groupTerm s g).text = start ++ Text.ofString " lt " ++
      Text.ofString (toString (1 + g % c.style.colors.length)) := by
  have hquote : Text.ofString "' lt " = Text.ofString "'" ++ Text.ofString " lt " := rfl
  have hnat : ∀ n : Nat, toString (n : Int) = toString n := fun _ => rfl
  rw [text_groupTerm, c.style.lineType_eq, hnat, hquote, ← List.append_assoc _ (Text.ofString "'")]
  exact ⟨_, rfl⟩

/-- **Colors reach the groups that they are meant for.**  Let `colors` be the items, not counting
empty ones, of the last value that lines give to the colors, and `N` their number.  What is written
for that value, once, is a command for each color in order that installs it as line type one, two
and so on.  In every set the term of group `g` has the line type `1 + g % N`, which is installed
with the color at `g % N`, so that two groups have the same line type exactly when they are
congruent modulo `N`.  Without colors the line type of group `g` is `g + 1`. -/
theorem groups_take_colors {lines : List Text} {options : CompileOptions} {compiled : Compiled}
    (hcompile : compile lines options = .ok compiled) :
    let d := Description.ofLines (lines ++ options.extra)
    let given := lastValue .colorSet (lines ++ options.extra)
    let colors := given.elim [] fun value => (value.splitOn (CodePoint.char ',')).filter (· ≠ [])
    let N := colors.length
    let commands := colors.mapIdx fun i color => installCommand (1 + i) color
    let S := max 1 d.dataset.setTitles.length
    let G := d.resolvedGrouping.groupCount
    let lineType : Nat → Nat := fun g => if N = 0 then g + 1 else 1 + g % N
    ∃ style : Style,
      compiled.script.plot = "plot\t" ++ Text.join Chart.termSeparator
        (style.plotLines ++ (d.chart style).terms.map Term.text) ∧
      (∀ value, given = some value → ∃ before after,
        d.store.assignments .apply = before ++ .setting .colorSet value :: after ∧
        (∀ a ∈ before ++ after, a.key ≠ .setting .colorSet) ∧
        compiled.script.config = (d.chart style).defaults ++
          (Pass.lines before ++ Text.join "\n" commands :: Pass.lines after)) ∧
      (∀ s < S, ∀ g < G, ∃ term start,
        (d.chart style).terms[s * (G + 1) + 1 + g]? = some term ∧
        term.text = start ++ Text.ofString " lt " ++ Text.ofString (toString (lineType g))) ∧
      (0 < N → ∀ g, ∃ color, colors[g % N]? = some color ∧
        commands[g % N]? = some (installCommand (lineType g) color)) ∧
      ∀ g h : Nat, style.lineType g = style.lineType h ↔ g ≡ h [MOD N] := by
  intro d given colors N commands S G lineType
  have hlineType : ∀ g, lineType g = 1 + g % N := by
    intro g
    by_cases hN : N = 0
    · simp only [lineType, hN, if_true, Nat.mod_zero, Nat.add_comm]
    · exact if_neg hN
  obtain ⟨script, hscript, rfl⟩ := compile_eq_ok_iff.mp hcompile
  obtain ⟨initial, final, data, hinitial, hfinal, -, rfl⟩ :=
    Description.script_eq_ok_iff.mp hscript
  have hgiven : d.store.settings .colorSet = given := Description.settings_ofLines _ _
  have hcolors : final.colors = colors := by
    rw [Description.colors_finalStyle hinitial hfinal, hgiven]
    exact congrArg (given.elim []) (funext splitColors_eq)
  refine ⟨final, rfl, fun value hvalue => ?_, fun s hs g hg => ?_, fun hN g => ?_, fun g h => ?_⟩
  · have hsplitColors : colors = splitColors value := by
      rw [splitColors_eq]
      simp only [colors, hvalue, Option.elim_some]
    obtain ⟨before, after, hsplit, hother⟩ := Store.exists_assignments_eq (hgiven.trans hvalue)
    have hline : (Assignment.setting .colorSet value).line? = some (Text.join "\n" commands) := by
      rw [Assignment.line?_colorSet, ← hsplitColors]
    replace hsplit : d.store.assignments .apply = _ := hsplit
    refine ⟨before, after, hsplit, hother, (Description.configLines_eq hfinal).trans ?_⟩
    rw [hsplit, Pass.lines, List.filterMap_append, List.filterMap_cons_some hline]
    rfl
  · have hset : s < (d.chart final).setCount := (d.chart final).setCount_eq_max ▸ hs
    obtain ⟨start, htext⟩ := (d.chart final).exists_text_groupTerm_eq s g
    refine ⟨_, start, (d.chart final).terms_group hset hg, htext.trans ?_⟩
    have hlength : (d.chart final).style.colors.length = N := congrArg List.length hcolors
    rw [hlineType, hlength]
  · have hlt : g % N < N := Nat.mod_lt g hN
    refine ⟨colors[g % N], List.getElem?_eq_getElem hlt, ?_⟩
    rw [List.getElem?_mapIdx, List.getElem?_eq_getElem hlt, hlineType]
    rfl
  · rw [final.lineType_eq, final.lineType_eq, hcolors, Int.ofNat_inj]
    exact Nat.add_left_cancel_iff

/-- Three groups in two sets take two colors, where an earlier list of colors and an empty item do
not count. -/
theorem groups_take_colors_twoSets :
    let lines : List Text := ["colorset=green", "=cluster;A;B;C", "=table", "multimulti=P",
      "a 1 2 3", "colorset=red,,blue", "multimulti=S", "a 4 5 6"]
    ∃ compiled, compile lines {} = .ok compiled ∧
      Text.ofString "set linetype 1 lc rgb \"red\"\nset linetype 2 lc rgb \"blue\"" ∈
        compiled.script.config ∧
      ∃ style : Style,
        let c := (Description.ofLines (lines ++ [])).chart style
        compiled.script.plot = "plot\t" ++ Text.join Chart.termSeparator
          (style.plotLines ++ c.terms.map Term.text) ∧ ∃ first second start start',
          c.terms[6]? = some first ∧ first.text = start ++ Text.ofString " lt 2" ∧
          c.terms[7]? = some second ∧ second.text = start' ++ Text.ofString " lt 1" := by
  intro lines
  obtain ⟨compiled, hcompiled⟩ : ∃ compiled, compile lines {} = .ok compiled :=
    exists_eq_ok_of_isOk (by decide +kernel)
  have hgiven : lastValue .colorSet (lines ++ []) = some (Text.ofString "red,,blue") := by
    decide +kernel
  have hsizes : max 1 (Description.ofLines (lines ++ [])).dataset.setTitles.length = 2 ∧
      (Description.ofLines (lines ++ [])).resolvedGrouping.groupCount = 3 := by decide +kernel
  obtain ⟨style, hplot, hconfig, hgroup, -, -⟩ := groups_take_colors hcompiled
  obtain ⟨before, after, -, -, hlines⟩ := hconfig _ hgiven
  simp only [hgiven, hsizes] at hlines hgroup
  refine ⟨compiled, hcompiled, ?_, style, hplot, ?_⟩
  · rw [hlines]
    refine List.mem_append_right _ (List.mem_append_right _ (List.mem_cons.mpr (.inl ?_)))
    decide +kernel
  · obtain ⟨first, start, hfirst, htext⟩ := hgroup 1 (by decide) 1 (by decide)
    obtain ⟨second, start', hsecond, htext'⟩ := hgroup 1 (by decide) 2 (by decide)
    rw [List.append_assoc] at htext htext'
    refine ⟨first, second, start, start', hfirst, htext.trans ?_, hsecond, htext'.trans ?_⟩
    · exact congrArg (start ++ ·) (by decide +kernel)
    · exact congrArg (start' ++ ·) (by decide +kernel)

end ChartScript
