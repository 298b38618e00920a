import ChartScript.Proofs.Framing

/-!
# Reading a plot command back

A plot command is its lines and terms with a separator between each two.  Titles go into it as they
are, so the question is whether the command can be cut into its parts again, or whether a title
could pass for the end of a term.

The separator is a comma, a blank, a backslash, a line feed and a tab.  A title may well end as the
separator starts, or hold all of it but the line feed, and the pieces would still be right: what
keeps them apart is that the separator holds a code point *once* that no text between separators
holds.  `Text.piecesAt_join` is stated for any such separator and mark.  Occurrences that overlap
need care, since cutting is from the left; a mark that occurs once in the separator rules them out.

It remains to see that terms hold no line feed.  By `Term.notMem_text` a term holds one only in its
title: the rest is fixed words and numbers, and numbers are digits.  The hypotheses on lines and
titles cannot be dropped, since a title that holds a whole separator is cut at it.

`plotCommand_decodes` says what the parts are, each in its place and with its text written out,
because a list of terms that are right in any order would not draw the chart.  That columns are
disjoint and that every title is listed once are consequences, and are stated with it.
-/

set_option autoImplicit false

namespace ChartScript
namespace Text

/-! ## Pieces between separators -/

theorem cutFrom_length_append (sep passed rest : Text) :
    cutFrom sep passed.length (passed ++ rest) = cutFrom sep 0 rest := by
  induction passed with
  | nil => rfl
  | cons c passed ih => exact ih

section Marked

variable {before after : Text} {mark : CodePoint}

/-- A text without the mark is not cut. -/
theorem cutFrom_of_notMem {piece : Text} (h : mark ∉ piece) :
    cutFrom (before ++ mark :: after) 0 piece = (piece, []) := by
  induction piece with
  | nil => rfl
  | cons c piece ih =>
    have hno : (before ++ mark :: after).isPrefixOf (c :: piece) = false := by
      refine Bool.eq_false_iff.mpr fun hprefix => h ?_
      exact (List.isPrefixOf_iff_prefix.mp hprefix).subset (by simp)
    rw [cutFrom, hno, ih fun hmem => h (List.mem_cons_of_mem c hmem)]
    rfl

variable (hbefore : mark ∉ before)

include hbefore

/-- The separator does not start inside the text in front of it, since its mark would come too
early. -/
theorem isPrefixOf_append {piece : Text} (hne : piece ≠ []) (h : mark ∉ piece) (rest : Text) :
    (before ++ mark :: after).isPrefixOf (piece ++ (before ++ mark :: after) ++ rest) = false := by
  refine Bool.eq_false_iff.mpr fun hprefix => hne ?_
  obtain ⟨tail, htail⟩ := List.isPrefixOf_iff_prefix.mp hprefix
  have hunmarked : ∀ {t : Text}, mark ∉ t → ∀ x ∈ t, (x != mark) = true := by
    intro t ht x hx
    exact bne_iff_ne.mpr fun heq => ht (heq ▸ hx)
  -- both sides are compared up to their first mark
  have htake := congrArg (fun t => (List.takeWhile (· != mark) t).length) htail
  simp only [List.append_assoc, List.takeWhile_append_of_pos (hunmarked hbefore),
    List.takeWhile_append_of_pos (hunmarked h), List.cons_append, bne_self_eq_false,
    List.takeWhile_cons_of_neg, Bool.false_eq_true, not_false_eq_true, List.append_nil,
    List.length_append] at htake
  exact List.length_eq_zero_iff.mp (by omega)

/-- A text without the mark ends at the separator behind it. -/
theorem cutFrom_append {piece : Text} (h : mark ∉ piece) (rest : Text) :
    cutFrom (before ++ mark :: after) 0 (piece ++ (before ++ mark :: after) ++ rest) =
      (piece, piecesAt (before ++ mark :: after) rest) := by
  induction piece with
  | nil =>
    obtain ⟨first, sep, hsep⟩ : ∃ first sep, before ++ mark :: after = first :: sep :=
      List.exists_cons_of_ne_nil (by simp)
    have hprefix : (first :: sep).isPrefixOf (first :: (sep ++ rest)) = true :=
      List.isPrefixOf_iff_prefix.mpr ⟨rest, rfl⟩
    rw [hsep, List.nil_append, List.cons_append, cutFrom, if_pos hprefix, List.length_cons,
      Nat.add_sub_cancel, cutFrom_length_append]
    rfl
  | cons c piece ih =>
    rw [List.cons_append, List.cons_append, cutFrom, ← List.cons_append, ← List.cons_append,
      isPrefixOf_append hbefore (by simp) h, ih fun hmem => h (List.mem_cons_of_mem c hmem)]
    rfl

/-- Joined texts are cut into the same texts. -/
theorem piecesAt_join {pieces : List Text} (hne : pieces ≠ [])
    (hfree : ∀ piece ∈ pieces, mark ∉ piece) :
    piecesAt (before ++ mark :: after) (join (before ++ mark :: after) pieces) = pieces := by
  induction pieces with
  | nil => exact absurd rfl hne
  | cons piece rest ih =>
    have hpiece : mark ∉ piece := hfree piece (by simp)
    cases rest with
    | nil =>
      rw [join, List.intercalate_singleton, piecesAt, cutFrom_of_notMem hpiece]
    | cons next rest =>
      have hrest := ih (by simp) fun p hp => hfree p (List.mem_cons_of_mem piece hp)
      rw [join] at hrest
      rw [join, List.intercalate_cons_cons, piecesAt, cutFrom_append hbefore hpiece, hrest]

end Marked

theorem ofString_append (a b : String) : ofString (a ++ b) = ofString a ++ ofString b := by
  simp [ofString, ofChars]

end Text

/-! ## Texts of terms -/

/-- An integer is written with digits and a sign. -/
theorem notMem_toString {c : CodePoint} (hdigit : c.isIn Char.isDigit = false)
    (hsign : c ≠ CodePoint.char '-') (n : Int) : c ∉ Text.ofString (toString n) := by
  have hnat : ∀ m : Nat, c ∉ Text.ofString m.repr := by
    intro m hc
    rw [Text.isIn_isDigit_of_mem_toString hc] at hdigit
    exact absurd hdigit (by decide)
  cases n with
  | ofNat m => exact hnat m
  | negSucc m =>
    show c ∉ Text.ofString ("-" ++ m.succ.repr)
    rw [Text.ofString_append, List.mem_append]
    rintro (hc | hc)
    · exact hsign (List.mem_singleton.mp hc)
    · exact hnat m.succ hc

/-- Numbers in a row are written with digits, signs and colons. -/
theorem notMem_join_toString {c : CodePoint} (hdigit : c.isIn Char.isDigit = false)
    (hsign : c ≠ CodePoint.char '-') (hcolon : c ≠ CodePoint.char ':') (numbers : List Nat) :
    c ∉ Text.join ":" (numbers.map fun n => Text.ofString (toString n)) := by
  intro hc
  rcases mem_of_mem_intercalate hc with hbetween | ⟨part, hpart, hin⟩
  · exact hcolon (List.mem_singleton.mp hbetween)
  · obtain ⟨n, -, rfl⟩ := List.mem_map.mp hpart
    exact notMem_toString hdigit hsign n hin

namespace Term

/-- The title of a term, empty where there is none. -/
def title : Term → Text
  | .header title _ => title.getD []
  | .group _ _ _ _ _ title _ => title

/-- A header is written with its title between apostrophes and with its pattern. -/
theorem text_header (title : Option Text) (pattern : Option Int) :
    (Term.header title pattern).text =
      Text.ofString "newhistogram" ++
        (title.elim [] fun t => Text.ofString " '" ++ t ++ Text.ofString "'") ++
        pattern.elim [] fun p => Text.ofString " fs pattern " ++ Text.ofString (toString p) := by
  have htitle : (title.map fun t => Text.ofString " " ++ quoteTitle t).getD (Text.ofString "") =
      title.elim [] fun t => Text.ofString " '" ++ t ++ Text.ofString "'" := by
    cases title <;> simp [quoteTitle, Text.ofString, Text.ofChars]
  have hpattern : Text.ofString ((pattern.map fun p => " fs pattern " ++ toString p).getD "") =
      pattern.elim [] fun p => Text.ofString " fs pattern " ++ Text.ofString (toString p) := by
    cases pattern with
    | none => rfl
    | some p => exact Text.ofString_append _ _
  rw [← htitle, ← hpattern, text]

/-- A group is written with its source, index, columns, title and line type. -/
theorem text_group (first : Bool) (index column : Nat) (errorColumn : Option Nat) (labelled : Bool)
    (title : Text) (lineType : Int) :
    (Term.group first index column errorColumn labelled title lineType).text =
      Text.ofString (if first then "\"$data\"" else "''") ++ Text.ofString " index " ++
        Text.ofString (toString index) ++ Text.ofString " using " ++
        Text.join ":" ((column :: errorColumn.toList).map fun n => Text.ofString (toString n)) ++
        Text.ofString (if labelled then ":xticlabels(1)" else "") ++ Text.ofString " title '" ++
        title ++ Text.ofString "' lt " ++ Text.ofString (toString lineType) := by
  have hcolumns : Text.ofString (toString column) ++
      Text.ofString ((errorColumn.map fun c => ":" ++ toString c).getD "") =
      Text.join ":" ((column :: errorColumn.toList).map fun n => Text.ofString (toString n)) := by
    cases errorColumn with
    | none => simp [Text.join, Text.ofString, Text.ofChars]
    | some n =>
      rw [Option.map_some, Option.getD_some, Text.ofString_append, Text.join, Option.toList_some,
        List.map_cons, List.map_singleton, List.intercalate_cons_cons, List.intercalate_singleton,
        List.append_assoc]
  have hquote : Text.ofString " title " ++ quoteTitle title ++ Text.ofString " lt " =
      Text.ofString " title '" ++ title ++ Text.ofString "' lt " := by
    simp [quoteTitle, Text.ofString, Text.ofChars]
  rw [← hcolumns, List.append_assoc _ _ title, List.append_assoc _ _ (Text.ofString "' lt "),
    ← hquote]
  simp only [text, List.append_assoc]
  rfl

/-- A term holds a line feed only in its title. -/
theorem notMem_text {term : Term} (h : CodePoint.char '\n' ∉ term.title) :
    CodePoint.char '\n' ∉ term.text := by
  have hint : ∀ n : Int, CodePoint.char '\n' ∉ Text.ofString (toString n) :=
    notMem_toString (by decide) (by decide)
  cases term with
  | header title pattern =>
    rw [text_header]
    simp only [List.mem_append, not_or]
    refine ⟨⟨by decide, ?_⟩, ?_⟩
    · cases title with
      | none => simp
      | some t =>
        simp only [Option.elim_some, List.mem_append, not_or]
        exact ⟨⟨by decide, h⟩, by decide⟩
    · cases pattern with
      | none => simp
      | some p =>
        rw [Option.elim_some, List.mem_append, not_or]
        exact ⟨by decide, hint p⟩
  | group first index column errorColumn labelled title lineType =>
    rw [text_group]
    simp only [List.mem_append, not_or, and_assoc]
    refine ⟨?_, by decide, hint index, by decide, ?_, ?_, by decide, h, by decide, hint lineType⟩
    · cases first <;> decide
    · exact notMem_join_toString (by decide) (by decide) (by decide) _
    · cases labelled <;> decide

end Term

namespace Chart

/-! ## The terms of a chart -/

theorem setCount_eq_max (c : Chart) : c.setCount = max 1 c.setTitles.length := by
  rw [setCount]
  cases c.setTitles <;> simp

/-- The header of a set has the title of the set and, from the second set on, the pattern. -/
theorem text_header (c : Chart) (s : Nat) :
    (c.header s).text = Text.ofString "newhistogram" ++
      (c.setTitles[s]?.elim [] fun t => Text.ofString " '" ++ t ++ Text.ofString "'") ++
      if c.style.patterns ∧ 0 < s then
        Text.ofString " fs pattern " ++ Text.ofString (toString c.style.patternStart)
      else [] := by
  rw [header, Term.text_header]
  by_cases h : s ≠ 0 ∧ c.style.patterns = true
  · rw [if_pos h, if_pos ⟨h.2, Nat.pos_of_ne_zero h.1⟩, Option.elim_some]
  · rw [if_neg h, if_neg fun h' => h ⟨Nat.pos_iff_ne_zero.mp h'.2, h'.1⟩, Option.elim_none]

/-- The term of a group names the index of its set and the columns of the group. -/
theorem text_groupTerm (c : Chart) (s g : Nat) :
    (c.groupTerm s g).text =
      Text.ofString (if g = 0 then "\"$data\"" else "''") ++ Text.ofString " index " ++
        Text.ofString (toString s) ++ Text.ofString " using " ++
        Text.join ":" ((c.groupTerm s g).columns.map fun n => Text.ofString (toString n)) ++
        Text.ofString (if c.style.xLabels then ":xticlabels(1)" else "") ++
        Text.ofString " title '" ++ (c.groupTerm s g).title ++ Text.ofString "' lt " ++
        Text.ofString (toString (c.style.lineType g)) := by
  rw [groupTerm, Term.text_group]
  simp only [beq_iff_eq]
  rfl

theorem columns_groupTerm_eq (c : Chart) (s g : Nat) :
    (c.groupTerm s g).columns =
      if c.errorBars then [2 + g * c.columnStep, 2 + g * c.columnStep + 1]
      else [2 + g * c.columnStep] := by
  rw [groupTerm, Term.columns, groupColumn]
  cases c.errorBars <;> rfl

theorem title_groupTerm (c : Chart) (s g : Nat) :
    (c.groupTerm s g).title = if s + 1 = c.setCount then c.grouping.title g else [] := rfl

/-- No term of a chart holds a line feed if no title does. -/
theorem notMem_text_of_mem_terms {c : Chart}
    (hgroups : ∀ title ∈ c.grouping.titles.getD [], CodePoint.char '\n' ∉ title)
    (hsets : ∀ title ∈ c.setTitles, CodePoint.char '\n' ∉ title) {term : Term}
    (hterm : term ∈ c.terms) : CodePoint.char '\n' ∉ term.text := by
  refine Term.notMem_text fun hc => ?_
  obtain ⟨s, -, hset⟩ := List.mem_flatMap.mp hterm
  rcases List.mem_cons.mp hset with rfl | hgroup
  · rw [header, Term.title] at hc
    cases htitle : c.setTitles[s]? with
    | none => exact absurd hc (by simp [htitle])
    | some title =>
      rw [htitle] at hc
      exact hsets title (List.mem_of_getElem? htitle) hc
  · obtain ⟨g, -, rfl⟩ := List.mem_map.mp hgroup
    rw [groupTerm, Term.title] at hc
    split at hc
    · rw [Grouping.title, List.getD_eq_getElem?_getD] at hc
      cases htitle : (c.grouping.titles.getD [])[g]? with
      | none => exact absurd hc (by simp [htitle, Text.ofString, Text.ofChars])
      | some title =>
        rw [htitle] at hc
        exact hgroups title (List.mem_of_getElem? htitle) hc
    · exact absurd hc (by decide)

theorem map_title_range (g : Grouping) :
    ((List.range g.groupCount).map g.title).filter (· ≠ []) =
      (g.titles.getD []).filter (· ≠ []) := by
  rcases g with ⟨kind, titles, delimiter⟩
  cases titles with
  | none => rfl
  | some titles =>
    have htitles : (List.range titles.length).map (fun i => titles.getD i []) = titles := by
      refine List.ext_getElem (by simp) fun i _ hi => ?_
      simp [hi]
    exact congrArg (List.filter (· ≠ [])) htitles

/-- Over all sets and groups the titles that are not empty are those of the grouping, each once. -/
theorem filter_titles (c : Chart) :
    ((List.range c.setCount).flatMap fun s => (List.range c.grouping.groupCount).map fun g =>
        if s + 1 = c.setCount then c.grouping.title g else []).filter (· ≠ []) =
      (c.grouping.titles.getD []).filter (· ≠ []) := by
  obtain ⟨last, hlast⟩ : ∃ last, c.setCount = last + 1 :=
    Nat.exists_eq_succ_of_ne_zero (Nat.pos_iff_ne_zero.mp c.setCount_pos)
  have hearlier : ((List.range last).flatMap fun s =>
      (List.range c.grouping.groupCount).map fun g =>
        if s + 1 = last + 1 then c.grouping.title g else []).filter (· ≠ []) = [] := by
    refine List.filter_eq_nil_iff.mpr fun title htitle => ?_
    obtain ⟨s, hs, hmap⟩ := List.mem_flatMap.mp htitle
    obtain ⟨g, -, rfl⟩ := List.mem_map.mp hmap
    have hs := List.mem_range.mp hs
    rw [if_neg (by omega)]
    simp
  rw [hlast, List.range_succ, List.flatMap_append, List.filter_append, hearlier,
    List.flatMap_singleton, List.nil_append, ← map_title_range]
  simp only [if_true]

/-- Two groups of a set have no column in common. -/
theorem disjoint_columns (c : Chart) (s : Nat) {g h : Nat} (hne : g ≠ h) :
    (c.groupTerm s g).columns.Disjoint (c.groupTerm s h).columns := by
  rw [columns_groupTerm, columns_groupTerm]
  intro n hg hh
  split at hg
  · rw [if_pos ‹_›] at hh
    simp only [List.mem_cons, List.not_mem_nil, or_false] at hg hh
    omega
  · rw [if_neg ‹_›] at hh
    rw [List.mem_singleton] at hg hh
    omega

/-- A plot command is cut at the separators into its lines and terms. -/
theorem piecesAt_plotCommand (c : Chart)
    (hlines : ∀ line ∈ c.style.plotLines, CodePoint.char '\n' ∉ line)
    (hgroups : ∀ title ∈ c.grouping.titles.getD [], CodePoint.char '\n' ∉ title)
    (hsets : ∀ title ∈ c.setTitles, CodePoint.char '\n' ∉ title) :
    Text.piecesAt (Text.ofString termSeparator)
        (Text.join termSeparator (c.style.plotLines ++ c.terms.map Term.text)) =
      c.style.plotLines ++ c.terms.map Term.text := by
  have hmark : CodePoint.char '\n' ∉ Text.ofString ", \\" := by decide
  refine Text.piecesAt_join hmark ?_ fun piece hpiece => ?_
  · have hterms : c.terms ≠ [] := by
      rw [← List.length_pos_iff, length_terms]
      exact Nat.mul_pos c.setCount_pos (Nat.succ_pos _)
    simp [hterms]
  · rcases List.mem_append.mp hpiece with hline | hterm
    · exact hlines piece hline
    · obtain ⟨term, hmem, rfl⟩ := List.mem_map.mp hterm
      exact notMem_text_of_mem_terms hgroups hsets hmem

/-- **A plot command is read back term by term.**  Without line feeds in lines and titles, a plot
command is cut into its lines and one term for the header of every set and for every group of it.
The header stands first of its set, with the title of the set and, from the second set on, the
pattern if there are patterns.  The term of a group names the index of the set and the columns of
the group, has the data block for its source only as the first of its set, and has a title in the
last set only.  So no column is named by two terms of a set, and over all sets the titles of the
groups are listed once. -/
theorem plotCommand_decodes (c : Chart)
    (hlines : ∀ line ∈ c.style.plotLines, CodePoint.char '\n' ∉ line)
    (hgroups : ∀ title ∈ c.grouping.titles.getD [], CodePoint.char '\n' ∉ title)
    (hsets : ∀ title ∈ c.setTitles, CodePoint.char '\n' ∉ title) :
    let S := max 1 c.setTitles.length
    let G := c.grouping.groupCount
    let step := if c.errorBars then 2 else 1
    let columns : Nat → List Nat := fun g =>
      if c.errorBars then [2 + g * step, 2 + g * step + 1] else [2 + g * step]
    let title : Nat → Nat → Text := fun s g => if s + 1 = S then c.grouping.title g else []
    ∃ (rest : Text) (terms : List Text), c.plotCommand = Text.ofString "plot\t" ++ rest ∧
      Text.piecesAt (Text.ofString ", \\\n\t") rest = c.style.plotLines ++ terms ∧
      terms.length = S * (G + 1) ∧
      (∀ s < S, terms[s * (G + 1)]? = some (Text.ofString "newhistogram" ++
        (c.setTitles[s]?.elim [] fun t => Text.ofString " '" ++ t ++ Text.ofString "'") ++
        if c.style.patterns ∧ 0 < s then
          Text.ofString " fs pattern " ++ Text.ofString (toString c.style.patternStart)
        else [])) ∧
      (∀ s < S, ∀ g < G, terms[s * (G + 1) + 1 + g]? = some (
        Text.ofString (if g = 0 then "\"$data\"" else "''") ++ Text.ofString " index " ++
        Text.ofString (toString s) ++ Text.ofString " using " ++
        Text.join ":" ((columns g).map fun n => Text.ofString (toString n)) ++
        Text.ofString (if c.style.xLabels then ":xticlabels(1)" else "") ++
        Text.ofString " title '" ++ title s g ++ Text.ofString "' lt " ++
        Text.ofString (toString (c.style.lineType g)))) ∧
      (∀ g h, g ≠ h → (columns g).Disjoint (columns h)) ∧
      ((List.range S).flatMap fun s => (List.range G).map (title s)).filter (· ≠ []) =
        (c.grouping.titles.getD []).filter (· ≠ []) := by
  intro S G step columns title
  have hS : S = c.setCount := c.setCount_eq_max.symm
  have htitle : ∀ s g, (c.groupTerm s g).title = title s g := by
    intro s g
    rw [title_groupTerm, ← hS]
  refine ⟨_, c.terms.map Term.text, rfl, c.piecesAt_plotCommand hlines hgroups hsets, ?_,
    fun s hs => ?_, fun s hs g hg => ?_, fun g h hne => ?_, ?_⟩
  · rw [List.length_map, length_terms, hS]
  · rw [List.getElem?_map, c.terms_header (hS ▸ hs), Option.map_some, text_header]
  · rw [List.getElem?_map, c.terms_group (hS ▸ hs) hg, Option.map_some, text_groupTerm,
      columns_groupTerm_eq, htitle]
    rfl
  · have hdisjoint := c.disjoint_columns 0 hne
    rwa [columns_groupTerm_eq, columns_groupTerm_eq] at hdisjoint
  · simp only [title, hS]
    exact c.filter_titles

/-- Two sets of two groups with error bars and patterns, where a title ends as the separator starts
and another holds an apostrophe. -/
theorem plotCommand_decodes_twoSets :
    let c : Chart :=
      { style := { patterns := true, plotLines := [horizontalLineTerm "1"] },
        grouping := { titles := some [Text.ofString "A, \\", Text.ofString "it's"] },
        errorBars := true, setTitles := [Text.ofString "P", Text.ofString "S"] }
    (∀ line ∈ c.style.plotLines, CodePoint.char '\n' ∉ line) ∧
    (∀ title ∈ c.grouping.titles.getD [], CodePoint.char '\n' ∉ title) ∧
    (∀ title ∈ c.setTitles, CodePoint.char '\n' ∉ title) ∧
    ∃ (rest : Text) (terms : List Text), c.plotCommand = Text.ofString "plot\t" ++ rest ∧
      Text.piecesAt (Text.ofString ", \\\n\t") rest =
        Text.ofString "f(x)=1,f(x) notitle dt 1" :: terms ∧
      terms.length = 6 ∧
      terms[1]? = some (Text.ofString "\"$data\" index 0 using 2:3:xticlabels(1) title '' lt 1") ∧
      terms[3]? = some (Text.ofString "newhistogram 'S' fs pattern 2") ∧
      terms[4]? =
        some (Text.ofString "\"$data\" index 1 using 2:3:xticlabels(1) title 'A, \\' lt 1") ∧
      terms[5]? = some (Text.ofString "'' index 1 using 4:5:xticlabels(1) title 'it's' lt 2") := by
  intro c
  have hlines : ∀ line ∈ c.style.plotLines, CodePoint.char '\n' ∉ line := by decide
  have hgroups : ∀ title ∈ c.grouping.titles.getD [], CodePoint.char '\n' ∉ title := by decide
  have hsets : ∀ title ∈ c.setTitles, CodePoint.char '\n' ∉ title := by decide
  obtain ⟨rest, terms, hplot, hpieces, hlength, hheader, hgroup, -, -⟩ :=
    plotCommand_decodes c hlines hgroups hsets
  refine ⟨hlines, hgroups, hsets, rest, terms, hplot, hpieces, hlength, ?_, ?_, ?_, ?_⟩
  · exact (hgroup 0 (by decide) 0 (by decide)).trans (congrArg some (by decide +kernel))
  · exact (hheader 1 (by decide)).trans (congrArg some (by decide +kernel))
  · exact (hgroup 1 (by decide) 0 (by decide)).trans (congrArg some (by decide +kernel))
  · exact (hgroup 1 (by decide) 1 (by decide)).trans (congrArg some (by decide +kernel))

end Chart
end ChartScript
