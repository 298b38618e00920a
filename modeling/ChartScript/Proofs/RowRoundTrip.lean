import ChartScript.Proofs.Framing
import ChartScript.Proofs.GroupedRows
import ChartScript.Proofs.Reading
import Mathlib.Data.List.TakeWhile

/-!
# Data lines are rows again

The data lines of a script are written in the syntax of rows, so they could be given as rows of a
table again.  Whether this gives the same data is not obvious.  To write a row loses the blanks
between its words, and a matrix puts values of several rows behind one label; neither may turn a row
into a line of another kind, or move the end of its label.

Labels are the difficulty, as there are more kinds of them than one would think.  `Row.IsLabel`
lists the forms that the label of a row can have: a plain word, quotes with something between them,
a word with empty quotes at its front, and a word with a quote at its front that nothing closes.  An
unclosed quote is read as a part of the word, but only because no other quote follows on the line.
In a matrix values of other rows come to stand behind it.  So a row is readable, `Row.IsReadable`,
only if its values suit its label: they are words, and hold no quote where the label is unclosed.

The class is exactly what is needed: rows of lines belong to it (`Line.isReadable_of_read_eq_row`)
and rows of it are read back (`Line.read_render_of_isReadable`).  Matrices stay within it because
two rows with the same label suit it both, and the missing value suits every label.  This is not so
for rows paired with errors: the error may come from a row with another label and hold a quote,
which is why that layout is excluded in `data_lines_read_back`.
-/

set_option autoImplicit false

namespace ChartScript

/-- A text that starts with something else than a blank starts with a word, and its other words are
behind that. -/
theorem Text.exists_eq_word_append {c : CodePoint} (hc : isBlank c = false) (t : Text) :
    ∃ word rest : Text, c :: t = word ++ rest ∧ word.IsWord ∧
      (∀ x ∈ rest.head?, isBlank x = true) ∧ words (c :: t) = word :: words rest := by
  have hparts := List.takeWhile_append_dropWhile (p := fun x => !isBlank x) (l := c :: t)
  have hrest := List.head?_dropWhile_not (fun x => !isBlank x) (c :: t)
  have hword : IsWord ((c :: t).takeWhile fun x => !isBlank x) := by
    refine ⟨by simp [hc], fun x hx => ?_⟩
    simpa using List.all_eq_true.mp List.all_takeWhile x hx
  generalize (c :: t).takeWhile (fun x => !isBlank x) = word at hparts hword
  generalize (c :: t).dropWhile (fun x => !isBlank x) = rest at hparts hrest
  refine ⟨word, rest, hparts.symm, hword, fun x hx => ?_, ?_⟩
  · rw [Option.mem_def.mp hx] at hrest
    simpa using hrest
  · rw [← hparts]
    cases rest with
    | nil => rw [List.append_nil, words_of_isWord hword, words_nil]
    | cons x rest =>
      have hx : isBlank x = true := by simpa using hrest
      rw [words_append_cons hword hx, words_cons_of_isBlank hx]

namespace Row

/-! ## Labels -/

/-- A label that starts with a quote and has no other. -/
def IsUnclosed (label : Text) : Prop :=
  ∃ rest, label = CodePoint.char '"' :: rest ∧ CodePoint.char '"' ∉ rest

/-- The labels of rows. -/
inductive IsLabel : Text → Prop
  /-- A word that neither a quote nor the start of another line is at the front of. -/
  | plain {label : Text} (hlabel : Line.IsPlainLabel label) : IsLabel label
  /-- Quotes with something between them. -/
  | quoted {inner : Text} (hne : inner ≠ []) (hinner : CodePoint.char '"' ∉ inner) :
      IsLabel (CodePoint.char '"' :: (inner ++ [CodePoint.char '"']))
  /-- A word with empty quotes at its front. -/
  | doubled {rest : Text}
      (hword : Text.IsWord (CodePoint.char '"' :: CodePoint.char '"' :: rest)) :
      IsLabel (CodePoint.char '"' :: CodePoint.char '"' :: rest)
  /-- A word with a quote at its front that is not closed. -/
  | unclosed {label : Text} (hword : label.IsWord) (hlabel : IsUnclosed label) : IsLabel label

/-- A text that can stand behind a label. -/
structure Suits (label value : Text) : Prop where
  isWord : value.IsWord
  not_closing : IsUnclosed label → CodePoint.char '"' ∉ value

/-- A row that a line can be read as. -/
structure IsReadable (r : Row) : Prop where
  isLabel : IsLabel r.label
  suits : ∀ value ∈ r.values, Suits r.label value

theorem suits_missing (label : Text) : Suits label missing :=
  ⟨Text.isWord_missing, fun _ => by decide⟩

theorem IsLabel.ne_nil {label : Text} (h : IsLabel label) : label ≠ [] := by
  cases h with
  | plain hlabel => exact hlabel.isWord.ne_nil
  | quoted => simp
  | doubled => simp
  | unclosed hword => exact hword.ne_nil

theorem IsLabel.isBlank_getLast? {label : Text} (h : IsLabel label) :
    ∀ c ∈ label.getLast?, Text.isBlank c = false := by
  intro c hc
  cases h with
  | plain hlabel => exact hlabel.isWord.not_blank c (List.mem_of_getLast? hc)
  | quoted hne hinner =>
    rw [← List.cons_append, List.getLast?_concat] at hc
    obtain rfl : CodePoint.char '"' = c := Option.some.inj hc
    decide
  | doubled hword => exact hword.not_blank c (List.mem_of_getLast? hc)
  | unclosed hword => exact hword.not_blank c (List.mem_of_getLast? hc)

/-! ## Quotes at the front of a line -/

/-- What is behind a quote closes it with something before that, closes it at once, or does not
close it. -/
theorem quote_cases (rest : Text) :
    (∃ inner tail : Text, inner ≠ [] ∧ CodePoint.char '"' ∉ inner ∧
      rest = inner ++ CodePoint.char '"' :: tail) ∨
    (∃ tail, rest = CodePoint.char '"' :: tail) ∨ CodePoint.char '"' ∉ rest := by
  by_cases hmem : CodePoint.char '"' ∈ rest
  · obtain ⟨inner, tail, rfl, hinner⟩ := List.eq_append_cons_of_mem hmem
    by_cases hne : inner = []
    · exact .inr (.inl ⟨tail, by rw [hne, List.nil_append]⟩)
    · exact .inl ⟨inner, tail, hne, hinner, rfl⟩
  · exact .inr (.inr hmem)

theorem isOneLine_dropWhile {rest : Text} (h : CodePoint.char '\n' ∉ rest) (p : CodePoint → Bool) :
    isOneLine (rest.dropWhile p) = true := by
  have hnot : CodePoint.char '\n' ∉ (rest.dropWhile p).dropLast := fun hmem =>
    h (List.dropWhile_subset p (List.dropLast_subset _ hmem))
  simpa [isOneLine] using hnot

theorem read_quoted {inner rest : Text} (hne : inner ≠ []) (hinner : CodePoint.char '"' ∉ inner)
    (hrest : CodePoint.char '\n' ∉ rest) :
    read (CodePoint.char '"' :: (inner ++ CodePoint.char '"' :: rest)) =
      ⟨CodePoint.char '"' :: (inner ++ [CodePoint.char '"']), rest.words⟩ := by
  have hall : ∀ c ∈ inner, (c != CodePoint.char '"') = true := by
    intro c hc
    exact bne_iff_ne.mpr fun h => hinner (h ▸ hc)
  have hlabel : quotedLabel? (CodePoint.char '"' :: (inner ++ CodePoint.char '"' :: rest)) =
      some (CodePoint.char '"' :: (inner ++ [CodePoint.char '"']), rest) := by
    rw [quotedLabel?, List.takeWhile_append_of_pos hall, List.dropWhile_append_of_pos hall,
      List.takeWhile_cons_of_neg (by simp), List.dropWhile_cons_of_neg (by simp), List.append_nil]
    dsimp only
    rw [if_neg (by simpa using hne)]
    rfl
  rw [read, hlabel]
  exact if_pos (isOneLine_dropWhile hrest Text.isBlank)

theorem read_doubled (rest : Text) :
    read (CodePoint.char '"' :: CodePoint.char '"' :: rest) =
      ofWords (Text.words (CodePoint.char '"' :: CodePoint.char '"' :: rest)) := rfl

theorem read_of_isUnclosed {line : Text} (h : IsUnclosed line) :
    read line = ofWords line.words := by
  obtain ⟨rest, rfl, hrest⟩ := h
  have hall : ∀ c ∈ rest, (c != CodePoint.char '"') = true := by
    intro c hc
    exact bne_iff_ne.mpr fun h => hrest (h ▸ hc)
  have hnone : quotedLabel? (CodePoint.char '"' :: rest) = none := by
    rw [quotedLabel?, List.dropWhile_eq_nil_iff.mpr hall]
  rw [read, hnone]

/-! ## Rows of lines -/

/-- What is read behind a quote at the front of a line. -/
theorem isReadable_read_quote {rest : Text} (hline : CodePoint.char '\n' ∉ rest) :
    (read (CodePoint.char '"' :: rest)).IsReadable := by
  have hquote : Text.isBlank (CodePoint.char '"') = false := by decide
  rcases quote_cases rest with ⟨inner, tail, hne, hinner, rfl⟩ | ⟨tail, rfl⟩ | hopen
  · rw [read_quoted hne hinner fun h => hline (by simp [h])]
    refine ⟨.quoted hne hinner, fun value hvalue => ⟨Text.isWord_of_mem_words hvalue, ?_⟩⟩
    rintro ⟨rest, heq, hrest⟩
    exact absurd ((List.cons.inj heq).2 ▸ hrest) (by simp)
  · -- both quotes belong to the first word, for neither is a blank
    obtain ⟨word, more, hparts, hword, hmore, hwords⟩ :=
      Text.exists_eq_word_append hquote (CodePoint.char '"' :: tail)
    obtain ⟨rest, rfl⟩ : ∃ rest, word = CodePoint.char '"' :: CodePoint.char '"' :: rest := by
      match word, hword.ne_nil with
      | [c], _ =>
        obtain rfl : CodePoint.char '"' :: tail = more := (List.cons.inj hparts).2
        exact absurd (hmore _ rfl) (by simp [hquote])
      | c :: x :: rest, _ =>
        obtain ⟨rfl, htail⟩ := List.cons.inj hparts
        obtain ⟨rfl, -⟩ := List.cons.inj htail
        exact ⟨rest, rfl⟩
    rw [read_doubled, hwords]
    refine ⟨.doubled hword, fun value hvalue => ⟨Text.isWord_of_mem_words hvalue, ?_⟩⟩
    rintro ⟨rest, heq, hrest⟩
    exact absurd ((List.cons.inj heq).2 ▸ hrest) (by simp)
  · obtain ⟨word, more, hparts, hword, -, hwords⟩ := Text.exists_eq_word_append hquote rest
    obtain ⟨c, word, rfl⟩ := List.exists_cons_of_ne_nil hword.ne_nil
    rw [List.cons_append] at hparts
    obtain ⟨rfl, rfl⟩ := List.cons.inj hparts
    rw [List.mem_append, not_or] at hopen
    rw [read_of_isUnclosed ⟨_, rfl, by simpa using hopen⟩, hwords]
    refine ⟨.unclosed hword ⟨word, rfl, hopen.1⟩, fun value hvalue => ?_⟩
    exact ⟨Text.isWord_of_mem_words hvalue, fun _ h =>
      hopen.2 (Text.subset_of_mem_words hvalue h)⟩

theorem render_eq_append (label : Text) (values : List Text) :
    (mk label values).render = label ++ (mk [] values).render := by
  rw [render, render, Text.join, Text.join]
  cases values with
  | nil => simp
  | cons value values => simp [List.intercalate_cons_cons]

theorem words_render_values {values : List Text} (h : ∀ value ∈ values, value.IsWord) :
    (mk [] values).render.words = values := by
  cases values with
  | nil => rfl
  | cons value values =>
    have hspace : (mk [] (value :: values)).render =
        CodePoint.char ' ' :: Text.join " " (value :: values) := by
      rw [render, Text.join, List.intercalate_cons_cons]
      rfl
    rw [hspace, Text.words_cons_of_isBlank (by decide), Text.words_join h]

/-- The line of a row that can be read has no blank at its end. -/
theorem IsReadable.isBlank_getLast?_render {r : Row} (h : r.IsReadable) :
    ∀ c ∈ r.render.getLast?, Text.isBlank c = false := by
  have hends : ∀ text ∈ r.label :: r.values,
      text ≠ [] ∧ ∀ c ∈ text.getLast?, Text.isBlank c = false := by
    rw [List.forall_mem_cons]
    refine ⟨⟨h.isLabel.ne_nil, h.isLabel.isBlank_getLast?⟩, fun value hvalue => ?_⟩
    have hword := (h.suits value hvalue).isWord
    exact ⟨hword.ne_nil, fun c hc => hword.not_blank c (List.mem_of_getLast? hc)⟩
  have hlast := List.getLast?_eq_some_getLast (List.cons_ne_nil r.label r.values)
  obtain ⟨hne, hblank⟩ := hends _ (List.getLast_mem (List.cons_ne_nil r.label r.values))
  intro c hc
  rw [render, Text.getLast?_join hlast (List.getLast?_eq_some_getLast hne)] at hc
  exact hblank c (by rw [List.getLast?_eq_some_getLast hne]; exact hc)

end Row

namespace Line

/-- A line with a quote at its front is a row. -/
theorem read_of_head?_eq_quote {line : Text} (hhead : line.head? = some (CodePoint.char '"'))
    (hlast : ∀ c ∈ line.getLast?, Text.isBlank c = false) : read line = .row (Row.read line) := by
  have hstrip : line.strip = line := by
    refine Text.strip_of_ends (fun c hc => ?_) hlast
    obtain rfl : CodePoint.char '"' = c := Option.some.inj (hhead.symm.trans hc)
    decide
  obtain ⟨rest, rfl⟩ := List.head?_eq_some_iff.mp hhead
  have hname : isNameChar (CodePoint.char '"') = false := by decide
  rw [read, hstrip, ofStripped_eq_row_iff]
  refine ⟨⟨by simp, ?_⟩, ?_, rfl⟩
  · rintro c ⟨⟩
    decide
  · rw [optionParts?, List.dropWhile_cons_of_neg (by simp [hname])]
    rfl

/-- The row of a line. -/
theorem isReadable_of_read_eq_row {line : Text} {r : Row} (hline : CodePoint.char '\n' ∉ line)
    (h : read line = .row r) : r.IsReadable := by
  obtain ⟨⟨hne, hhead⟩, hoption, rfl⟩ := ofStripped_eq_row_iff.mp h
  have hstripped : CodePoint.char '\n' ∉ line.strip := fun hmem =>
    hline (Text.strip_subset line hmem)
  obtain ⟨c, rest, hstrip⟩ := List.exists_cons_of_ne_nil hne
  have hblank := Text.isBlank_of_strip_eq_cons hstrip
  rw [hstrip] at hhead hoption hstripped ⊢
  by_cases hc : c = CodePoint.char '"'
  · subst hc
    exact Row.isReadable_read_quote fun hmem => hstripped (List.mem_cons_of_mem _ hmem)
  · obtain ⟨word, more, hparts, hword, -, hwords⟩ := Text.exists_eq_word_append hblank rest
    have hfirst : word.head? = some c := by
      obtain ⟨x, word, rfl⟩ := List.exists_cons_of_ne_nil hword.ne_nil
      rw [(List.cons.inj hparts).1, List.head?_cons]
    have hplain : IsPlainLabel word := by
      refine ⟨hword, ?_, ?_, ?_, fun name value hname hchars heq => ?_⟩
      · rw [hfirst]
        exact fun h => (hhead c rfl).1 (Option.some.inj h)
      · rw [hfirst]
        exact fun h => (hhead c rfl).2 (Option.some.inj h)
      · rw [hfirst]
        exact fun h => hc (Option.some.inj h)
      · -- an option at the front of the label would make the whole line one
        rw [hparts, heq, List.append_assoc, List.cons_append] at hoption hstripped
        rw [optionParts?_append hname hchars fun hmem => hstripped (by simp [hmem])] at hoption
        exact absurd hoption (by simp)
    have hquote : (c :: rest).head? ≠ some (CodePoint.char '"') := fun h =>
      hc (Option.some.inj h)
    rw [Row.read_of_head?_ne hquote, hwords]
    refine ⟨.plain hplain, fun value hvalue => ⟨Text.isWord_of_mem_words hvalue, ?_⟩⟩
    rintro ⟨rest, hlabel, -⟩
    exact absurd (congrArg List.head? hlabel) hplain.not_quoted

theorem read_render_of_isReadable {r : Row} (h : r.IsReadable) : read r.render = .row r := by
  have hlast := h.isBlank_getLast?_render
  obtain ⟨label, values⟩ := r
  obtain ⟨hlabel, hsuits⟩ := h
  have hvalues : ∀ value ∈ values, value.IsWord := fun value hvalue => (hsuits value hvalue).isWord
  have hwords : label.IsWord → Text.words (Row.mk label values).render = label :: values :=
    fun hword => Text.words_join (List.forall_mem_cons.mpr ⟨hword, hvalues⟩)
  cases hlabel with
  | plain hplain =>
    by_cases hne : values = []
    · subst hne
      rw [Row.render, Text.join, List.intercalate_singleton]
      exact read_plainLabel hplain
    · exact read_render hplain hne hvalues
  | @quoted inner hne hinner =>
    have hrest : CodePoint.char '\n' ∉ (Row.mk [] values).render := by
      refine Row.notMem_render (by decide) ⟨by simp, fun value hvalue hmem => ?_⟩
      exact absurd ((hvalues value hvalue).not_blank _ hmem) (by decide)
    rw [Row.render_eq_append, List.cons_append, List.append_assoc] at hlast ⊢
    rw [read_of_head?_eq_quote rfl hlast]
    refine congrArg Line.row ((Row.read_quoted hne hinner hrest).trans ?_)
    rw [Row.words_render_values hvalues]
  | @doubled rest hword =>
    have hread := Row.read_doubled (rest ++ (Row.mk [] values).render)
    rw [← List.cons_append, ← List.cons_append, ← Row.render_eq_append, hwords hword] at hread
    rw [read_of_head?_eq_quote (by rw [Row.render_eq_append]; rfl) hlast, hread]
    rfl
  | unclosed hword hopen =>
    obtain ⟨rest, rfl, hrest⟩ := id hopen
    have hmore : CodePoint.char '"' ∉ (Row.mk [] values).render := by
      refine Row.notMem_render (by decide) ⟨by simp, fun value hvalue => ?_⟩
      exact (hsuits value hvalue).not_closing hopen
    have hline : Row.IsUnclosed (Row.mk (CodePoint.char '"' :: rest) values).render := by
      rw [Row.render_eq_append]
      exact ⟨_, rfl, by simp [hrest, hmore]⟩
    rw [read_of_head?_eq_quote (by rw [Row.render_eq_append]; rfl) hlast,
      Row.read_of_isUnclosed hline, hwords hword]
    rfl

end Line

/-! ## Rows of a data block -/

/-- A matrix takes the values behind a label from rows with that label alone.  Where values are
paired with errors that is not so. -/
theorem Dataset.isReadable_of_mem_writtenRows {d : Dataset} (hlayout : d.layout ≠ .paired)
    (h : ∀ m, ∀ r ∈ d.rows m, r.IsReadable) (groupCount : Nat) (column : Option Column) :
    ∀ r ∈ d.writtenRows groupCount column, r.IsReadable := by
  rw [writtenRows]
  cases hl : d.layout with
  | table => exact h .table
  | paired => exact absurd hl hlayout
  | matrix =>
    intro r hr
    obtain ⟨s, hs, hr⟩ := List.mem_flatMap.mp hr
    obtain ⟨label, hlabel, rfl⟩ := List.mem_map.mp hr
    constructor
    · obtain ⟨r, hmem, rfl⟩ :=
        exists_mem_labelsThrough_iff.mp ⟨s, List.mem_range.mp hs, hlabel⟩
      exact (h .multi r (mem_rows_iff.mpr hmem)).isLabel
    · intro value hvalue
      obtain ⟨g, -, rfl⟩ := List.mem_map.mp hvalue
      refine cellIn_of_forall (Row.suits_missing label) (fun r hr hlabel => ?_) column g
      have hreadable := h .multi r (mem_rows_iff.mpr (mem_of_mem_getD_splitOn hr))
      exact hlabel ▸ hreadable.suits

theorem Description.isReadable_of_mem_rows {lines : List Text}
    (hlines : ∀ line ∈ lines, CodePoint.char '\n' ∉ line) (m : Mode) :
    ∀ r ∈ (ofLines lines).dataset.rows m, r.IsReadable := by
  intro r hr
  obtain ⟨pre, line, post, rfl, hread, -⟩ := row_mem_bucket_ofLines.mp (Dataset.mem_rows_iff.mp hr)
  exact Line.isReadable_of_read_eq_row (hlines line (by simp)) hread

/-- A table of rows that can be read compiles, to the rows as they are written. -/
theorem compile_tableRows {rows : List Row} (h : ∀ r ∈ rows, r.IsReadable) (backend : List Text)
    (sourceName : Option Text) :
    ∃ compiled, compile ("=table" :: rows.map Row.render) { backend, sourceName } = .ok compiled ∧
      compiled.script.data = rows.map Row.render := by
  have hmode : Line.read "=table" = .mode .table := by decide
  have hread : (("=table" : Text) :: rows.map Row.render).map Line.read =
      .mode .table :: rows.map Line.row := by
    rw [List.map_cons, hmode, List.map_map]
    exact congrArg (Line.mode .table :: ·) (List.map_congr_left fun r hr =>
      Line.read_render_of_isReadable (h r hr))
  have hstructural : ∀ line ∈ Line.mode .table :: rows.map Line.row, line.isStructural = true := by
    simp [Line.isStructural]
  have hdataset := Description.dataset_ofLines ("=table" :: rows.map Row.render)
  have hstore : (Description.ofLines ("=table" :: rows.map Row.render)).store = {} :=
    Description.store_ofLines_eq_empty fun line hline => .inl (hstructural line (hread ▸ hline))
  rw [hread, List.filter_eq_self.mpr hstructural, Dataset.foldl_takeIn_tableRows] at hdataset
  generalize hd : Description.ofLines ("=table" :: rows.map Row.render) = d at hdataset hstore
  have hdata : d.dataset.finalize d.resolvedGrouping.groupCount none =
      .ok (rows.map Row.render) := by
    rw [hdataset]
    exact Dataset.finalize_ofTable rows _
  obtain ⟨script, hscript, hrows⟩ :
      ∃ script, d.script backend = .ok script ∧ script.data = rows.map Row.render :=
    ⟨_, Description.script_eq_ok_iff.mpr ⟨_, _, _,
      Description.initialStyle_of_store_eq_empty hstore,
      Description.finalStyle_of_store_eq_empty hstore _, hdata, rfl⟩, rfl⟩
  refine ⟨_, compile_eq_ok_iff.mpr ⟨script, ?_, rfl⟩, hrows⟩
  rw [List.append_nil, hd]
  exact hscript

/-- **Data lines are rows again.**  If the data of a script is a table or a matrix, all of its lines
that are not empty are read as rows, and as the rows of a table they are its data, unchanged.  The
row of any line is read back from the line that it is written as. -/
theorem data_lines_read_back :
    (∀ (lines : List Text) (options : CompileOptions) (compiled : Compiled),
      (∀ line ∈ lines ++ options.extra, CodePoint.char '\n' ∉ line) →
      compile lines options = .ok compiled →
      (Description.ofLines (lines ++ options.extra)).dataset.layout ≠ .paired →
      let rows := Dataset.nonEmptyLines compiled.script.data
      (∀ row ∈ rows, (Line.read row).kind = .data) ∧
      ∀ backend sourceName, ∃ again,
        compile ("=table" :: rows) { backend, sourceName } = .ok again ∧
        again.script.data = rows) ∧
    ∀ (line : Text) (r : Row), CodePoint.char '\n' ∉ line → Line.read line = .row r →
      Line.read r.render = .row r := by
  refine ⟨fun lines options compiled hlines h hlayout => ?_, fun line r hline hread =>
    Line.read_render_of_isReadable (Line.isReadable_of_read_eq_row hline hread)⟩
  obtain ⟨style, -, hdata⟩ := exists_style_of_compile_eq_ok h
  have hrows := Description.isReadable_of_mem_rows hlines
  generalize Description.ofLines (lines ++ options.extra) = d at hlayout hdata hrows
  have hreadable := Dataset.isReadable_of_mem_writtenRows hlayout hrows
    d.resolvedGrouping.groupCount style.column
  have hlines : Dataset.nonEmptyLines compiled.script.data =
      (d.dataset.writtenRows d.resolvedGrouping.groupCount style.column).map Row.render := by
    rw [Dataset.nonEmptyLines_finalize hdata]
    refine List.filter_eq_self.mpr fun line hline => ?_
    obtain ⟨r, hr, rfl⟩ := List.mem_map.mp hline
    simpa using Row.render_ne_nil (hreadable r hr).isLabel.ne_nil r.values
  intro rows
  rw [show rows = _ from hlines]
  refine ⟨fun row hrow => ?_, compile_tableRows hreadable⟩
  obtain ⟨r, hr, rfl⟩ := List.mem_map.mp hrow
  rw [Line.read_render_of_isReadable (hreadable r hr), Line.kind]

/-- A quote that is not closed, empty quotes and a word right behind a quoted label, in two
groups. -/
theorem data_lines_read_back_quotes :
    let lines : List Text :=
      ["=cluster;A;B", "\"open  1", "\"\" 2", "\"a b\"c 3", "=multi", "\"open 4"]
    let rows : List Text := ["\"open 1 4", "\"\" 2 -", "\"a b\" c -"]
    let r : Row := ⟨"\"a b\"", ["c", "3"]⟩
    (∃ compiled, compile lines {} = .ok compiled ∧
      Dataset.nonEmptyLines compiled.script.data = rows ∧
      (∀ row ∈ rows, (Line.read row).kind = .data) ∧
      ∃ again, compile ("=table" :: rows) {} = .ok again ∧ again.script.data = rows) ∧
    Line.read "\"a b\"c 3" = .row r ∧ Line.read r.render = .row r := by
  intro lines rows r
  have hmap : (compile lines {}).map (Dataset.nonEmptyLines ·.script.data) = .ok rows := by
    decide +kernel
  obtain ⟨compiled, hcompiled, hrows⟩ := exists_of_map_eq_ok hmap
  obtain ⟨hkinds, hagain⟩ :=
    data_lines_read_back.1 lines {} compiled (by decide) hcompiled (by decide +kernel)
  rw [hrows] at hkinds hagain
  have hread : Line.read "\"a b\"c 3" = .row r := by decide
  exact ⟨⟨compiled, hcompiled, hrows, hkinds, hagain [] none⟩, hread,
    data_lines_read_back.2 _ r (by decide) hread⟩

end ChartScript
