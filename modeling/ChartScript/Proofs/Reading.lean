import ChartScript.Line
import ChartScript.Proofs.Words

/-!
# Writing lines that are read back

A theorem about whole charts starts from lines, and its proof from what the lines are read as.  For
each kind of line that makes up a chart there is therefore a way to write it, `rowLine`, `setLine`
and `groupingLine`, and a lemma by which `Line.read` gives back what was written.  Reading tries the
kinds of lines one after the other, so each lemma has to exclude all kinds that are tried before;
here is the one place where their order is looked at.

The hypotheses are what an author has to observe.  A label must be a word that starts neither a
comment nor a directive, a quoted label or an option (`IsPlainLabel`); the last of these is the one
that is forgotten, since `a=1 2` is an option and not a row.  Plainness is decidable, so a label can
be checked.  A title that starts a set must stay on one line and not end in a blank, and the titles
of a grouping must not hold the delimiter.

There are labels that are not plain and are read all the same, with quotes around them.  They are
not covered here because what can follow them is more involved; `Proofs.RowRoundTrip` has the whole
class.

In the other direction, `label_ne_nil_of_read_eq_row` says that no line is read as a row without a
label.  This is what makes rows visible in a data block.
-/

set_option autoImplicit false

namespace ChartScript
namespace Line

/-! ## Which lines are rows -/

theorem ofOption_ne_row (name value : Text) (r : Row) : ofOption name value ≠ .row r := by
  rw [ofOption]
  split
  · simp
  · split <;> simp

theorem kind_ofDirective (body : Text) :
    (ofDirective body).kind ∈ [.grouping, .flag, .dataMode, .ignored] := by
  rw [ofDirective]
  split
  · simp [kind]
  · split
    · simp [kind]
    · split <;> simp [kind]

theorem ofDirective_ne_row (body : Text) (r : Row) : ofDirective body ≠ .row r := fun h =>
  absurd (kind_ofDirective body) (by simp [h, kind])

/-- A line that starts neither a comment nor a directive is an option or a row. -/
theorem ofStripped_of_head? {line : Text} (hne : line ≠ [])
    (hhead : ∀ c ∈ line.head?, c ≠ CodePoint.char '#' ∧ c ≠ CodePoint.char '=') :
    ofStripped line =
      match optionParts? line with
      | some (name, value) => ofOption name value
      | none => .row (Row.read line) := by
  unfold ofStripped
  split
  · exact absurd rfl hne
  · exact absurd rfl (hhead _ rfl).1
  · exact absurd rfl (hhead _ rfl).2
  · rfl

/-- A line is a row when there is something on it and it is neither a comment nor a directive nor
an option, and then the row is read from the whole line. -/
theorem ofStripped_eq_row_iff {line : Text} {r : Row} :
    ofStripped line = .row r ↔
      (line ≠ [] ∧ ∀ c ∈ line.head?, c ≠ CodePoint.char '#' ∧ c ≠ CodePoint.char '=') ∧
        optionParts? line = none ∧ r = Row.read line := by
  constructor
  · intro h
    have hne : line ≠ [] := by
      rintro rfl
      exact absurd h (by simp [ofStripped])
    have hhead : ∀ c ∈ line.head?, c ≠ CodePoint.char '#' ∧ c ≠ CodePoint.char '=' := by
      intro c hc
      obtain ⟨rest, rfl⟩ := List.head?_eq_some_iff.mp hc
      constructor
      · rintro rfl
        exact absurd h (by simp [ofStripped])
      · rintro rfl
        exact absurd h (ofDirective_ne_row rest r)
    rw [ofStripped_of_head? hne hhead] at h
    split at h
    · exact absurd h (ofOption_ne_row _ _ r)
    · next hnone =>
      cases h
      exact ⟨⟨hne, hhead⟩, hnone, rfl⟩
  · rintro ⟨⟨hne, hhead⟩, hnone, rfl⟩
    rw [ofStripped_of_head? hne hhead, hnone]

theorem eq_read_of_ofStripped_eq_row {line : Text} {r : Row} (h : ofStripped line = .row r) :
    line ≠ [] ∧ r = Row.read line := by
  obtain ⟨⟨hne, -⟩, -, hr⟩ := ofStripped_eq_row_iff.mp h
  exact ⟨hne, hr⟩

theorem label_ne_nil_of_read_eq_row {line : Text} {r : Row} (h : read line = .row r) :
    r.label ≠ [] := by
  obtain ⟨hne, rfl⟩ := eq_read_of_ofStripped_eq_row h
  obtain ⟨c, rest, hline⟩ := List.exists_cons_of_ne_nil hne
  rw [hline]
  exact Row.label_read_ne_nil (Text.isBlank_of_strip_eq_cons hline) rest

/-- A row holds nothing that is not in its line. -/
theorem subset_of_read_eq_row {line : Text} {r : Row} (h : read line = .row r) :
    r.Forall (· ⊆ line) := by
  obtain ⟨-, rfl⟩ := eq_read_of_ofStripped_eq_row h
  obtain ⟨hlabel, hvalues⟩ := Row.read_subset line.strip
  exact ⟨List.Subset.trans hlabel (Text.strip_subset line),
    fun value hvalue => List.Subset.trans (hvalues value hvalue) (Text.strip_subset line)⟩

/-! ## Options -/

/-- The longest name at the front of a text ends at the equals sign. -/
theorem span_name_append {name : Text} (hname : ∀ c ∈ name, isNameChar c = true) (rest : Text) :
    (name ++ CodePoint.char '=' :: rest).takeWhile isNameChar = name ∧
      (name ++ CodePoint.char '=' :: rest).dropWhile isNameChar = CodePoint.char '=' :: rest := by
  have hstop : isNameChar '=' = false := by decide
  rw [List.takeWhile_append_of_pos hname, List.dropWhile_append_of_pos hname,
    List.takeWhile_cons_of_neg (by simp [hstop]), List.dropWhile_cons_of_neg (by simp [hstop])]
  exact ⟨List.append_nil name, rfl⟩

/-- A name and an equals sign are at the front of a text when they are there once the longest name
is taken off. -/
theorem exists_eq_name_append_iff {t : Text} :
    (∃ name rest : Text, name ≠ [] ∧ (∀ c ∈ name, isNameChar c = true) ∧
        t = name ++ CodePoint.char '=' :: rest) ↔
      t.takeWhile isNameChar ≠ [] ∧
        (t.dropWhile isNameChar).head? = some (CodePoint.char '=') := by
  constructor
  · rintro ⟨name, rest, hne, hname, rfl⟩
    obtain ⟨htake, hdrop⟩ := span_name_append hname rest
    rw [htake, hdrop]
    exact ⟨hne, rfl⟩
  · rintro ⟨hne, hhead⟩
    obtain ⟨rest, hrest⟩ := List.head?_eq_some_iff.mp hhead
    refine ⟨_, rest, hne, List.all_eq_true.mp List.all_takeWhile, ?_⟩
    rw [← hrest, List.takeWhile_append_dropWhile]

/-- A name, an equals sign and a value that stays on one line are the parts of an option. -/
theorem optionParts?_append {name value : Text} (hne : name ≠ [])
    (hname : ∀ c ∈ name, isNameChar c = true) (hvalue : CodePoint.char '\n' ∉ value) :
    optionParts? (name ++ CodePoint.char '=' :: value) = some (name, value) := by
  obtain ⟨htake, hdrop⟩ := span_name_append hname value
  rw [optionParts?, htake, hdrop]
  simp [hne, hvalue]

/-- The parts of an option make up the line. -/
theorem optionParts?_eq_some_iff {line name value : Text} :
    optionParts? line = some (name, value) ↔
      line = name ++ CodePoint.char '=' :: value ∧ name ≠ [] ∧
        (∀ c ∈ name, isNameChar c = true) ∧ CodePoint.char '\n' ∉ value := by
  constructor
  · intro h
    rw [optionParts?] at h
    split at h
    · next rest hdrop =>
      split at h
      · exact absurd h (by simp)
      · next hok =>
        obtain ⟨rfl, rfl⟩ := Prod.mk.inj (Option.some.inj h)
        rw [Bool.or_eq_true, not_or] at hok
        refine ⟨?_, by simpa using hok.1, List.all_eq_true.mp List.all_takeWhile,
          by simpa using hok.2⟩
        rw [← hdrop, List.takeWhile_append_dropWhile]
    · exact absurd h (by simp)
  · rintro ⟨rfl, hne, hname, hvalue⟩
    exact optionParts?_append hne hname hvalue

theorem eq_append_of_optionParts? {line name value : Text}
    (h : optionParts? line = some (name, value)) :
    line = name ++ CodePoint.char '=' :: value ∧ name ≠ [] ∧ ∀ c ∈ name, isNameChar c = true := by
  obtain ⟨hline, hne, hname, -⟩ := optionParts?_eq_some_iff.mp h
  exact ⟨hline, hne, hname⟩

theorem eq_of_ofOption_eq_setting {name value value' : Text} {s : Setting}
    (h : ofOption name value = .setting s value') : value' = value := by
  rw [ofOption] at h
  split at h
  · exact absurd h (by simp)
  · split at h
    · exact (Line.setting.inj h).2.symm
    · exact absurd h (by simp)
    · exact absurd h (by simp)

/-- The value of a setting holds nothing that is not in its line. -/
theorem subset_of_read_eq_setting {line : Text} {s : Setting} {value : Text}
    (h : read line = .setting s value) : value ⊆ line := by
  refine List.Subset.trans ?_ (Text.strip_subset line)
  rw [read] at h
  generalize line.strip = text at h ⊢
  unfold ofStripped at h
  split at h
  · exact absurd h (by simp)
  · exact absurd h (by simp)
  · next body => exact absurd (kind_ofDirective body) (by simp [h, kind])
  · split at h
    · next hparts =>
      obtain ⟨htext, -, -⟩ := eq_append_of_optionParts? hparts
      rw [htext, eq_of_ofOption_eq_setting h]
      simp
    · exact absurd h (by simp)

/-- A line that no name and equals sign start is no option. -/
theorem optionParts?_eq_none {line : Text}
    (h : ∀ name rest : Text, name ≠ [] → (∀ c ∈ name, isNameChar c = true) →
      line ≠ name ++ CodePoint.char '=' :: rest) : optionParts? line = none := by
  rw [optionParts?]
  split
  · next value hdrop =>
    by_cases hname : line.takeWhile isNameChar = []
    · simp [hname]
    · obtain ⟨name, rest, hne, hall, hline⟩ :=
        exists_eq_name_append_iff.mpr ⟨hname, by rw [hdrop]; rfl⟩
      exact absurd hline (h name rest hne hall)
  · rfl

/-! ## Sets -/

/-- The line that starts a set. -/
def setLine (title : Text) : Text := Text.ofString setName ++ CodePoint.char '=' :: title

/-- A set is started by its title, blanks at the front of the title included. -/
theorem read_setLine {title : Text} (hline : CodePoint.char '\n' ∉ title)
    (hlast : ∀ c ∈ title.getLast?, Text.isBlank c = false) :
    read (setLine title) = .newSet title := by
  have hhead : (setLine title).head? = some (CodePoint.char 'm') := rfl
  have hstrip : (setLine title).strip = setLine title := by
    refine Text.strip_of_ends ?_ ?_
    · rw [hhead]
      rintro c ⟨⟩
      decide
    · intro c hc
      rw [setLine, List.getLast?_append, List.getLast?_cons] at hc
      cases ht : title.getLast? with
      | none =>
        rw [ht] at hc
        obtain rfl : CodePoint.char '=' = c := by simpa using hc
        decide
      | some x =>
        rw [ht] at hc
        obtain rfl : x = c := by simpa using hc
        exact hlast x ht
  have hparts : optionParts? (setLine title) = some (Text.ofString setName, title) :=
    optionParts?_append (by decide) (by decide) hline
  rw [read, hstrip, ofStripped_of_head? (by simp [setLine]) (by rw [hhead]; rintro c ⟨⟩; decide),
    hparts]
  exact if_pos rfl

/-! ## Rows -/

/-- A label that a row can be written with: a word that starts neither a comment nor a directive
nor a quoted label, and has no name and equals sign at its front. -/
structure IsPlainLabel (label : Text) : Prop where
  isWord : label.IsWord
  not_comment : label.head? ≠ some (CodePoint.char '#')
  not_directive : label.head? ≠ some (CodePoint.char '=')
  not_quoted : label.head? ≠ some (CodePoint.char '"')
  not_option : ∀ name rest : Text, name ≠ [] → (∀ c ∈ name, isNameChar c = true) →
    label ≠ name ++ CodePoint.char '=' :: rest

instance (label : Text) : Decidable (IsPlainLabel label) :=
  decidable_of_iff
    (label.IsWord ∧ label.head? ≠ some (CodePoint.char '#') ∧
      label.head? ≠ some (CodePoint.char '=') ∧ label.head? ≠ some (CodePoint.char '"') ∧
      ¬(label.takeWhile isNameChar ≠ [] ∧
        (label.dropWhile isNameChar).head? = some (CodePoint.char '=')))
    ⟨fun h => ⟨h.1, h.2.1, h.2.2.1, h.2.2.2.1, fun name rest hne hname heq =>
        h.2.2.2.2 (exists_eq_name_append_iff.mp ⟨name, rest, hne, hname, heq⟩)⟩,
      fun h => ⟨h.isWord, h.not_comment, h.not_directive, h.not_quoted, fun hfront => by
        obtain ⟨name, rest, hne, hname, heq⟩ := exists_eq_name_append_iff.mpr hfront
        exact h.not_option name rest hne hname heq⟩⟩

/-- The line of a row with one value. -/
def rowLine (label value : Text) : Text := label ++ CodePoint.char ' ' :: value

/-- A name and equals sign at the front of a row would be at the front of its label. -/
theorem optionParts?_rowLine {label : Text} (hlabel : IsPlainLabel label) (value : Text) :
    optionParts? (rowLine label value) = none := by
  refine optionParts?_eq_none fun name rest hne hname h => ?_
  have hspace : isNameChar ' ' = false := by decide
  rcases List.append_eq_append_iff.mp h with ⟨tail, hn, htail⟩ | ⟨tail, hl, htail⟩
  · cases tail with
    | nil => exact absurd htail (by simp)
    | cons c tail =>
      obtain rfl : CodePoint.char ' ' = c := (List.cons.inj htail).1
      have hmem : CodePoint.char ' ' ∈ name := by simp [hn]
      exact absurd (hname _ hmem) (by simp [hspace])
  · cases tail with
    | nil => exact absurd htail (by simp)
    | cons c tail =>
      obtain rfl : CodePoint.char '=' = c := (List.cons.inj htail).1
      exact hlabel.not_option name tail hne hname hl

/-- A plain label is read back, with the words behind it as values. -/
theorem read_rowLine_eq {label rest : Text} (hlabel : IsPlainLabel label) (hne : rest ≠ [])
    (hend : ∀ c ∈ rest.getLast?, Text.isBlank c = false) :
    read (rowLine label rest) = .row ⟨label, rest.words⟩ := by
  obtain ⟨c, tail, hc⟩ := List.exists_cons_of_ne_nil hlabel.isWord.ne_nil
  have hhead : (rowLine label rest).head? = label.head? := by rw [rowLine, hc]; rfl
  have hstrip : (rowLine label rest).strip = rowLine label rest := by
    refine Text.strip_of_ends (fun x hx => ?_) (fun x hx => ?_)
    · rw [hhead] at hx
      exact hlabel.isWord.not_blank x (List.mem_of_mem_head? hx)
    · obtain ⟨last, hlast⟩ := Option.ne_none_iff_exists'.mp (mt List.getLast?_eq_none_iff.mp hne)
      rw [rowLine, List.getLast?_append, List.getLast?_cons, hlast] at hx
      obtain rfl : last = x := by simpa using hx
      exact hend last hlast
  have hwords : (rowLine label rest).words = label :: rest.words := by
    rw [rowLine, Text.words_append_cons hlabel.isWord (by decide)]
  rw [read, hstrip, ofStripped_of_head? (by simp [rowLine]) ?_, optionParts?_rowLine hlabel]
  · show Line.row (Row.read (rowLine label rest)) = _
    rw [Row.read_of_head?_ne (by rw [hhead]; exact hlabel.not_quoted), hwords]
    rfl
  · intro x hx
    rw [hhead] at hx
    exact ⟨fun h => hlabel.not_comment (h ▸ hx), fun h => hlabel.not_directive (h ▸ hx)⟩

/-- A plain label and a value are read back. -/
theorem read_rowLine {label value : Text} (hlabel : IsPlainLabel label) (hvalue : value.IsWord) :
    read (rowLine label value) = .row ⟨label, [value]⟩ := by
  rw [read_rowLine_eq hlabel hvalue.ne_nil fun c hc => hvalue.not_blank c (List.mem_of_getLast? hc),
    Text.words_of_isWord hvalue]

theorem render_eq_rowLine {r : Row} (hne : r.values ≠ []) :
    r.render = rowLine r.label (Text.join " " r.values) := by
  obtain ⟨value, values, hcons⟩ := List.exists_cons_of_ne_nil hne
  rw [Row.render, hcons, Text.join, List.intercalate_cons_cons, List.append_assoc]
  rfl

/-- A plain label alone is a row without values. -/
theorem read_plainLabel {label : Text} (hlabel : IsPlainLabel label) :
    read label = .row ⟨label, []⟩ := by
  have hstrip : label.strip = label :=
    Text.strip_of_ends (fun c hc => hlabel.isWord.not_blank c (List.mem_of_mem_head? hc))
      fun c hc => hlabel.isWord.not_blank c (List.mem_of_getLast? hc)
  rw [read, hstrip, ofStripped_eq_row_iff]
  refine ⟨⟨hlabel.isWord.ne_nil, fun c hc => ?_⟩, optionParts?_eq_none hlabel.not_option, ?_⟩
  · exact ⟨fun h => hlabel.not_comment (h ▸ hc), fun h => hlabel.not_directive (h ▸ hc)⟩
  · rw [Row.read_of_head?_ne hlabel.not_quoted, Text.words_of_isWord hlabel.isWord]
    rfl

/-- A row with a plain label and at least one value is read back. -/
theorem read_render {r : Row} (hlabel : IsPlainLabel r.label) (hne : r.values ≠ [])
    (hvalues : ∀ value ∈ r.values, value.IsWord) : read r.render = .row r := by
  obtain ⟨last, hlast⟩ := Option.ne_none_iff_exists'.mp (mt List.getLast?_eq_none_iff.mp hne)
  have hword : last.IsWord := hvalues last (List.mem_of_getLast? hlast)
  obtain ⟨c, hc⟩ := Option.ne_none_iff_exists'.mp (mt List.getLast?_eq_none_iff.mp hword.ne_nil)
  have hjoin : (Text.join " " r.values).getLast? = some c := Text.getLast?_join hlast hc
  rw [render_eq_rowLine hne, read_rowLine_eq hlabel, Text.words_join hvalues]
  · rintro hnil
    exact absurd hjoin (by simp [hnil])
  · intro x hx
    obtain rfl : c = x := by simpa [hjoin] using hx
    exact hword.not_blank c (List.mem_of_getLast? hc)

end Line

/-! ## Groupings -/

namespace Grouping

theorem ofKind?_append (kind : GroupingKind) (d : CodePoint) (rest : Text) :
    ofKind? kind (Text.ofString kind.name ++ d :: rest) =
      some ⟨kind, some (titlesBetween [d] rest), some [d]⟩ := by
  have hprefix :
      (Text.ofString kind.name).isPrefixOf (Text.ofString kind.name ++ d :: rest) = true :=
    List.isPrefixOf_iff_prefix.mpr (List.prefix_append _ _)
  have hlength : (Text.ofString kind.name).length = kind.name.length := by
    rw [Text.ofString, Text.ofChars, List.length_map, String.length_toList]
  rw [ofKind?, if_pos hprefix, ← hlength, List.drop_left]

/-- A kind's name and a delimiter are matched as that kind: no name is the front of another. -/
theorem match?_append (kind : GroupingKind) (d : CodePoint) (rest : Text) :
    match? (Text.ofString kind.name ++ d :: rest) =
      some ⟨kind, some (titlesBetween [d] rest), some [d]⟩ := by
  have hown := ofKind?_append kind d rest
  rw [match?, GroupingKind.precedence]
  cases kind with
  | stackcluster => rw [List.findSome?_cons, hown]
  | cluster =>
    have hskip :
        ofKind? .stackcluster (Text.ofString GroupingKind.cluster.name ++ d :: rest) = none := rfl
    rw [List.findSome?_cons, hskip, List.findSome?_cons, hown]
  | stacked =>
    have hskip :
        ofKind? .stackcluster (Text.ofString GroupingKind.stacked.name ++ d :: rest) = none := rfl
    have hskip' :
        ofKind? .cluster (Text.ofString GroupingKind.stacked.name ++ d :: rest) = none := rfl
    rw [List.findSome?_cons, hskip, List.findSome?_cons, hskip', List.findSome?_cons, hown]

end Grouping

namespace Line

/-- The line of a grouping. -/
def groupingLine (kind : GroupingKind) (d : CodePoint) (titles : List Text) : Text :=
  CodePoint.char '=' :: (Text.ofString kind.name ++ d :: Text.join [d] titles)

/-- The name of a kind, a delimiter and a text that does not end with a blank are a grouping. -/
theorem read_directive (kind : GroupingKind) (d : CodePoint) (rest : Text)
    (hend : ∀ c ∈ (d :: rest).getLast?, Text.isBlank c = false) :
    read (CodePoint.char '=' :: (Text.ofString kind.name ++ d :: rest)) =
      .grouping ⟨kind, some (titlesBetween [d] rest), some [d]⟩ := by
  have hstrip : Text.strip (CodePoint.char '=' :: (Text.ofString kind.name ++ d :: rest)) =
      CodePoint.char '=' :: (Text.ofString kind.name ++ d :: rest) := by
    refine Text.strip_of_ends ?_ fun c hc => hend c ?_
    · rintro c ⟨⟩
      decide
    · rwa [← List.cons_append, List.getLast?_append, List.getLast?_cons, Option.some_or,
        ← List.getLast?_cons] at hc
  rw [read, hstrip]
  show ofDirective (Text.ofString kind.name ++ d :: rest) = _
  rw [ofDirective, Grouping.match?_append]

/-- A grouping is read back: titles without the delimiter in them, the last of them not empty and
with no blank at its end. -/
theorem read_groupingLine (kind : GroupingKind) {d : CodePoint} (hd : Text.isBlank d = false)
    {titles : List Text} (hfree : ∀ t ∈ titles, d ∉ t)
    (hlast : ∀ last ∈ titles.getLast?, ∃ c ∈ last.getLast?, Text.isBlank c = false) :
    read (groupingLine kind d titles) = .grouping ⟨kind, some titles, some [d]⟩ := by
  have hbetween : titlesBetween [d] (Text.join [d] titles) = titles := by
    refine titlesBetween_join hd hfree fun t ht hnil => ?_
    obtain ⟨c, hc, -⟩ := hlast t ht
    exact absurd hc (by simp [hnil])
  rw [groupingLine, read_directive, hbetween]
  intro x hx
  cases hcase : titles.getLast? with
  | none =>
    obtain rfl : d = x := by simpa [List.getLast?_eq_none_iff.mp hcase, Text.join] using hx
    exact hd
  | some last =>
    obtain ⟨c, hc, hvisible⟩ := hlast last hcase
    rw [List.getLast?_cons, Text.getLast?_join hcase hc] at hx
    obtain rfl : c = x := by simpa using hx
    exact hvisible

end Line
end ChartScript
