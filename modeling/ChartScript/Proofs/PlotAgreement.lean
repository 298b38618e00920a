import ChartScript.Proofs.Compilation
import ChartScript.Proofs.DataBlock
import ChartScript.Proofs.PlotTerms

/-!
# Does the plot command fit the data block?

The plot command names columns and indexes of the data block, but neither is read off the block: the
columns follow from whether there are error bars and the indexes from the number of sets.  The block
in turn follows one bucket and its marks only.  If they differ, the plotting program draws the wrong
numbers or complains of an index that is not there, and the program that wrote the script has
noticed nothing.  This file says exactly when the two fit.

Columns agree unless rows or sets were given both in the multi mode and in the error-bar mode.  Then
the block is a matrix without errors, since the multi mode comes first, and the command asks for a
column of errors behind each column of values, since there are some.  With no groups at all there is
no term that could be wrong.  `ColumnsAgree` is stated for the terms in their places and in both
directions: a term names a value and its error exactly when the layout is paired.

Indexes agree exactly when every set but the first was started in the mode that is laid out.  A set
that was started in another mode left its mark in a bucket whose marks nobody reads, so that the
block lacks an index for it, and the last sets are the ones to miss their data.

Both conditions are on the lines that were given, in the order they were given, because that is what
an author can change.  The script that they are about is the compiled one: its plot command is given
as the joined text of its terms, and its data as what the layout makes of the data.
-/

set_option autoImplicit false

namespace ChartScript

/-- The script of a compilation writes the terms of the description's chart one after another and
holds the data that the description ends with. -/
theorem exists_style_of_compile_eq_ok {lines : List Text} {options : CompileOptions}
    {compiled : Compiled} (h : compile lines options = .ok compiled) :
    ∃ style : Style,
      let d := Description.ofLines (lines ++ options.extra)
      compiled.script.plot = "plot\t" ++ Text.join Chart.termSeparator
        (style.plotLines ++ (d.chart style).terms.map Term.text) ∧
      d.dataset.finalize d.resolvedGrouping.groupCount style.column = .ok compiled.script.data := by
  obtain ⟨script, hscript, rfl⟩ := compile_eq_ok_iff.mp h
  obtain ⟨initial, final, data, -, -, hdata, rfl⟩ := Description.script_eq_ok_iff.mp hscript
  exact ⟨final, rfl, hdata⟩

/-! ## Columns -/

/-- The columns that the terms of a chart name are those in which a layout puts the groups. -/
structure ColumnsAgree (layout : DataLayout) (c : Chart) : Prop where
  /-- A term names a value and its error, two columns on from the group before, exactly when every
  value of the block is followed by its error. -/
  pairs : ∀ s g term, s < c.setCount → g < c.grouping.groupCount →
    c.terms[s * (c.grouping.groupCount + 1) + 1 + g]? = some term →
    (term.columns = [2 + 2 * g, 3 + 2 * g] ↔ layout = .paired)
  /-- In a matrix the term of a group names the column of the group and no column outside. -/
  matrix : layout = .matrix → ∀ s g term, s < c.setCount → g < c.grouping.groupCount →
    c.terms[s * (c.grouping.groupCount + 1) + 1 + g]? = some term →
    term.columns = [2 + g] ∧
      ∀ column ∈ term.columns, 2 ≤ column ∧ column ≤ 1 + c.grouping.groupCount

/-- The columns of a chart with error bars do not fit a matrix. -/
theorem not_columnsAgree_matrix {c : Chart} (herror : c.errorBars = true)
    (hgroups : 0 < c.grouping.groupCount) : ¬ColumnsAgree .matrix c := by
  intro h
  -- the first term of the command is enough: it names a column of errors
  have hterm := c.terms_group c.setCount_pos hgroups
  have hcolumns := c.columns_groupTerm 0 0
  rw [herror, if_pos rfl] at hcolumns
  exact absurd ((h.pairs 0 0 _ c.setCount_pos hgroups hterm).mp hcolumns) (by decide)

/-- Otherwise the columns fit the layout. -/
theorem columnsAgree_of_errorBars_iff {layout : DataLayout} {c : Chart}
    (h : c.errorBars = true ↔ layout = .paired) : ColumnsAgree layout c where
  pairs s g term hs hg hterm := by
    obtain rfl := c.eq_groupTerm hs hg hterm
    rw [c.columns_groupTerm, ← h]
    cases c.errorBars <;> simp
  matrix hlayout s g term hs hg hterm := by
    obtain rfl := c.eq_groupTerm hs hg hterm
    have herror : c.errorBars = false := by
      rw [hlayout] at h
      simpa using h
    rw [c.columns_groupTerm, herror, if_neg (by simp)]
    refine ⟨rfl, fun column hcolumn => ?_⟩
    rw [List.mem_singleton.mp hcolumn]
    omega

/-- **When columns and layout agree.**  They do unless rows or sets were given both in the multi
mode and in the error-bar mode, or there is no group that could name a column. -/
theorem columnsAgree_iff {lines : List Text} {options : CompileOptions} {compiled : Compiled}
    (h : compile lines options = .ok compiled) :
    ∃ style : Style,
      let d := Description.ofLines (lines ++ options.extra)
      compiled.script.plot = "plot\t" ++ Text.join Chart.termSeparator
        (style.plotLines ++ (d.chart style).terms.map Term.text) ∧
      compiled.script.data = d.dataset.laidOut d.resolvedGrouping.groupCount style.column ∧
      (ColumnsAgree d.dataset.layout (d.chart style) ↔
        ¬(Description.Fills (lines ++ options.extra) .multi ∧
            Description.Fills (lines ++ options.extra) .errorBars) ∨
          d.resolvedGrouping.groupCount = 0) := by
  obtain ⟨style, hplot, hdata⟩ := exists_style_of_compile_eq_ok h
  refine ⟨style, hplot, (Dataset.finalize_eq_ok_iff.mp hdata).2, ?_⟩
  rw [← Description.bucket_ofLines_ne_nil_iff, ← Description.bucket_ofLines_ne_nil_iff]
  generalize Description.ofLines (lines ++ options.extra) = d
  show _ ↔ ¬(d.dataset.multi ≠ [] ∧ d.dataset.errorBars ≠ []) ∨ _
  have herror : (d.chart style).errorBars = true ↔ d.dataset.errorBars ≠ [] := by
    simp [Description.chart, Dataset.hasErrorBars]
  constructor
  · intro hagree
    refine Classical.or_iff_not_imp_right.mpr fun hgroups hboth => ?_
    rw [(Dataset.layout_eq_matrix_iff _).mpr hboth.1] at hagree
    exact not_columnsAgree_matrix (herror.mpr hboth.2) (Nat.pos_of_ne_zero hgroups) hagree
  · rintro (hnot | hgroups)
    · refine columnsAgree_of_errorBars_iff ?_
      rw [herror, Dataset.layout_eq_paired_iff]
      exact ⟨fun he => ⟨Classical.byContradiction fun hm => hnot ⟨hm, he⟩, he⟩, fun hp => hp.2⟩
    · have hnone : ∀ g, ¬g < (d.chart style).grouping.groupCount := by
        intro g hg
        exact absurd (hgroups ▸ hg : g < 0) (by omega)
      exact ⟨fun _ g _ _ hg => absurd hg (hnone g), fun _ _ g _ _ hg => absurd hg (hnone g)⟩

/-- Errors given for values in the multi mode: the matrix has the columns two and three, and the
terms name the columns two to five. -/
theorem columns_disagree_for_errors_of_groups :
    let lines : List Text := ["=cluster;A;B", "a 1", "=multi", "a 2", "=yerrorbars", "a 0.1 0.2"]
    ∃ compiled, compile lines {} = .ok compiled ∧ ∃ style : Style,
      compiled.script.plot = "plot\t" ++ Text.join Chart.termSeparator (style.plotLines ++
        ((Description.ofLines (lines ++ [])).chart style).terms.map Term.text) ∧
      ¬ColumnsAgree (Description.ofLines (lines ++ [])).dataset.layout
        ((Description.ofLines (lines ++ [])).chart style) := by
  intro lines
  obtain ⟨compiled, hcompiled⟩ : ∃ compiled, compile lines {} = .ok compiled :=
    exists_eq_ok_of_isOk (by decide)
  obtain ⟨style, hplot, -, hagree⟩ := columnsAgree_iff hcompiled
  refine ⟨compiled, hcompiled, style, hplot, fun h => ?_⟩
  rcases hagree.mp h with hnot | hnone
  · exact hnot ⟨Description.bucket_ofLines_ne_nil_iff.mp (by decide),
      Description.bucket_ofLines_ne_nil_iff.mp (by decide)⟩
  · exact absurd hnone (by decide)

/-! ## Indexes -/

namespace Dataset

theorem count_set_le_setMarks (d : Dataset) (m : Mode) : (d.bucket m).count .set ≤ d.setMarks := by
  cases m <;> simp only [setMarks, bucket] <;> omega

/-- A bucket has all marks when the other buckets have none. -/
theorem count_set_eq_setMarks_iff (d : Dataset) (m : Mode) :
    (d.bucket m).count .set = d.setMarks ↔ ∀ m', m' ≠ m → Entry.set ∉ d.bucket m' := by
  have hmodes : ∀ P : Mode → Prop, (∀ m', P m') ↔ P .table ∧ P .multi ∧ P .errorBars := by
    intro P
    refine ⟨fun h => ⟨h _, h _, h _⟩, fun h m' => ?_⟩
    cases m' with
    | table => exact h.1
    | multi => exact h.2.1
    | errorBars => exact h.2.2
  rw [hmodes]
  simp only [← List.count_eq_zero]
  cases m <;> simp [setMarks, bucket] <;> omega

end Dataset

/-- **When every index exists.**  The data block never has more indexes than the plot command has
sets, and it has as many exactly when every set but the first was started in the mode that is laid
out. -/
theorem index_count_eq_iff {lines : List Text} {options : CompileOptions} {compiled : Compiled}
    (h : compile lines options = .ok compiled) :
    ∃ style : Style,
      let d := Description.ofLines (lines ++ options.extra)
      let sets := (d.chart style).terms.countP Term.isHeader
      let indexes := d.dataset.layout.indexCount compiled.script.data
      compiled.script.plot = "plot\t" ++ Text.join Chart.termSeparator
        (style.plotLines ++ (d.chart style).terms.map Term.text) ∧
      indexes ≤ sets ∧
      (sets = indexes ↔ ∀ pre line post, lines ++ options.extra = pre ++ line :: post →
        (Line.read line).kind = .set → (Description.ofLines pre).dataset.setTitles ≠ [] →
        (Description.ofLines pre).dataset.mode = d.dataset.layout.mode) := by
  obtain ⟨style, hplot, hdata⟩ := exists_style_of_compile_eq_ok h
  refine ⟨style, ?_⟩
  have hmarks := Description.setMarks_ofLines (lines ++ options.extra)
  have hlabelled := Description.labelled_bucket_ofLines (lines ++ options.extra)
  have hsource := @Description.set_mem_bucket_ofLines (lines ++ options.extra)
  generalize Description.ofLines (lines ++ options.extra) = d at *
  have hindexes := Dataset.indexCount_finalize hlabelled hdata
  have hsets : (d.chart style).terms.countP Term.isHeader = d.dataset.setMarks + 1 := by
    rw [Chart.countP_isHeader_terms, Chart.setCount, hmarks]
    show (if d.dataset.setTitles.isEmpty = true then 1 else d.dataset.setTitles.length) = _
    cases d.dataset.setTitles <;> simp
  have hle := Dataset.count_set_le_setMarks d.dataset d.dataset.layout.mode
  have hiff := Dataset.count_set_eq_setMarks_iff d.dataset d.dataset.layout.mode
  refine ⟨hplot, ?_, ?_⟩
  · rw [hindexes, hsets]
    omega
  · show (d.chart style).terms.countP Term.isHeader = _ ↔ _
    rw [hindexes, hsets, Nat.add_right_cancel_iff, eq_comm, hiff]
    constructor
    · intro hother pre line post hsplit hkind htitles
      refine Classical.byContradiction fun hmode => ?_
      exact hother _ hmode (hsource.mpr ⟨pre, line, post, hsplit, hkind, htitles, rfl⟩)
    · intro hall m hm hmem
      obtain ⟨pre, line, post, hsplit, hkind, htitles, hmode⟩ := hsource.mp hmem
      exact hm (hmode ▸ hall pre line post hsplit hkind htitles)

/-- Values and errors listed set by set: the second set is started among the errors, so that its
mark is lost and the block has one index for two sets. -/
theorem index_missing_for_errors_set_by_set :
    let lines : List Text := ["=table", "multimulti=P", "a 1", "=yerrorbars", "a 0.1",
      "multimulti=S", "=table", "a 2", "=yerrorbars", "a 0.2"]
    ∃ compiled, compile lines {} = .ok compiled ∧ ∃ style : Style,
      compiled.script.plot = "plot\t" ++ Text.join Chart.termSeparator (style.plotLines ++
        ((Description.ofLines (lines ++ [])).chart style).terms.map Term.text) ∧
      (Description.ofLines (lines ++ [])).dataset.layout = .paired ∧
      Dataset.separatorCount compiled.script.data + 1 <
        ((Description.ofLines (lines ++ [])).chart style).terms.countP Term.isHeader := by
  intro lines
  obtain ⟨compiled, hcompiled⟩ : ∃ compiled, compile lines {} = .ok compiled :=
    exists_eq_ok_of_isOk (by decide)
  obtain ⟨style, hplot, hle, hiff⟩ := index_count_eq_iff hcompiled
  have hlayout : (Description.ofLines (lines ++ [])).dataset.layout = .paired := by decide
  refine ⟨compiled, hcompiled, style, hplot, hlayout, ?_⟩
  have hmode : (Description.ofLines (lines.take 5)).dataset.mode ≠ .table := by decide
  have hlt := Nat.lt_of_le_of_ne hle fun heq => hmode <| (hiff.mp heq.symm (lines.take 5)
    "multimulti=S" (lines.drop 6) rfl (by decide) (by decide)).trans (by rw [hlayout]; rfl)
  rwa [hlayout] at hlt

end ChartScript
