import ChartScript.Description
import ChartScript.Proofs.Reading
import ChartScript.Proofs.WordRows

/-!
# Grouping directives are read back

A grouping directive is the name of a kind, any character as the delimiter, and the titles.  The
delimiter may be a letter, so that nothing marks the end of the name: in `=stackedxaxb` the name is
followed by a delimiter `x`.  The names are tried one after the other, and the first that fits is
taken.  If one name were the front of another, the order of trying would decide what is read, and a
kind added later could take directives away from an older one.

`Grouping.Names` says that the body of a directive starts with the name of a kind and goes on behind
it.  That it does so for one kind at most (`Names.unique`) is proved from the names alone, by
comparing them in pairs; this is the only place where they are looked at, and it fails at once when
a name is added that is the front of another.  From there on the order is irrelevant
(`Grouping.findSome?_of_names`), and the result can be stated with `Names` and not with a search.

`Grouping.directives_read_back` has both directions.  A directive that is written from a kind, a
delimiter and titles is read back, if the delimiter is in none of the titles and nothing of the last
one gets lost at the end of the line; and nothing but a directive that is named by a kind is read as
a grouping at all.  A blank as the delimiter is a case of its own.  Then titles are words, any
blanks between them count as one delimiter, and `Text.Spells` says how they are written.
-/

set_option autoImplicit false

namespace ChartScript
namespace Grouping

/-! ## The name at the front of a directive -/

/-- The body of a directive starts with the name of a kind and is longer than that. -/
def Names (kind : GroupingKind) (body : Text) : Prop :=
  Text.ofString kind.name <+: body ∧ (Text.ofString kind.name).length < body.length

instance (kind : GroupingKind) (body : Text) : Decidable (Names kind body) :=
  inferInstanceAs (Decidable (_ ∧ _))

/-- What is behind the name starts with the delimiter. -/
theorem names_iff {kind : GroupingKind} {body : Text} :
    Names kind body ↔ ∃ d rest, body = Text.ofString kind.name ++ d :: rest := by
  constructor
  · rintro ⟨⟨rest, rfl⟩, hlength⟩
    cases rest with
    | nil => exact absurd hlength (by simp)
    | cons d rest => exact ⟨d, rest, rfl⟩
  · rintro ⟨d, rest, rfl⟩
    exact ⟨List.prefix_append _ _, by simp⟩

/-- No name is the front of another. -/
theorem eq_of_name_isPrefix {kind other : GroupingKind}
    (h : Text.ofString kind.name <+: Text.ofString other.name) : kind = other := by
  cases kind <;> cases other <;> first | rfl | exact absurd h (by decide)

theorem Names.unique {kind other : GroupingKind} {body : Text} (h : Names kind body)
    (h' : Names other body) : kind = other := by
  rcases List.prefix_or_prefix_of_prefix h.1 h'.1 with hfront | hfront
  · exact eq_of_name_isPrefix hfront
  · exact (eq_of_name_isPrefix hfront).symm

theorem ofKind?_eq_none_iff {kind : GroupingKind} {body : Text} :
    ofKind? kind body = none ↔ ¬Names kind body := by
  constructor
  · intro h hnames
    obtain ⟨d, rest, rfl⟩ := names_iff.mp hnames
    rw [ofKind?_append] at h
    exact absurd h (by simp)
  · intro h
    rw [ofKind?]
    split
    · next hfront =>
      split
      · rfl
      · next d rest hdrop =>
        refine absurd ⟨List.isPrefixOf_iff_prefix.mp hfront, ?_⟩ h
        have hlength := congrArg List.length hdrop
        rw [List.length_drop, List.length_cons] at hlength
        rw [Text.ofString, Text.ofChars, List.length_map, String.length_toList]
        omega
    · rfl

/-! ## The order of the names -/

/-- Whatever names are tried before, the one at the front of the body is found. -/
theorem findSome?_of_names {kind : GroupingKind} {body : Text} (h : Names kind body)
    {order : List GroupingKind} (hmem : kind ∈ order) :
    order.findSome? (ofKind? · body) = ofKind? kind body := by
  induction order with
  | nil => exact absurd hmem (by simp)
  | cons first order ih =>
    rw [List.findSome?_cons]
    cases hfirst : ofKind? first body with
    | none =>
      have hother : kind ≠ first := by
        rintro rfl
        exact ofKind?_eq_none_iff.mp hfirst h
      exact ih ((List.mem_cons.mp hmem).resolve_left hother)
    | some g =>
      have hnames : Names first body := by
        by_contra hnot
        rw [ofKind?_eq_none_iff.mpr hnot] at hfirst
        exact absurd hfirst (by simp)
      rw [h.unique hnames, hfirst]

/-- A list of all names finds a grouping when one of them is at the front of the body. -/
theorem findSome?_isSome_iff {order : List GroupingKind} (horder : ∀ kind, kind ∈ order)
    (body : Text) :
    (order.findSome? (ofKind? · body)).isSome = true ↔ ∃ kind, Names kind body := by
  constructor
  · intro h
    obtain ⟨g, hg⟩ := Option.isSome_iff_exists.mp h
    obtain ⟨kind, -, hkind⟩ := List.exists_of_findSome?_eq_some hg
    by_contra hnone
    rw [ofKind?_eq_none_iff.mpr fun hnames => hnone ⟨kind, hnames⟩] at hkind
    exact absurd hkind (by simp)
  · rintro ⟨kind, hnames⟩
    rw [findSome?_of_names hnames (horder kind), Option.isSome_iff_ne_none, ne_eq,
      ofKind?_eq_none_iff, not_not]
    exact hnames

theorem mem_precedence (kind : GroupingKind) : kind ∈ GroupingKind.precedence := by
  cases kind <;> decide

/-- The names may be tried in any order. -/
theorem findSome?_eq_match? {order : List GroupingKind} (horder : ∀ kind, kind ∈ order)
    (body : Text) : order.findSome? (ofKind? · body) = match? body := by
  by_cases h : ∃ kind, Names kind body
  · obtain ⟨kind, hnames⟩ := h
    rw [match?, findSome?_of_names hnames (horder kind),
      findSome?_of_names hnames (mem_precedence kind)]
  · have hnone : ∀ {all : List GroupingKind}, (∀ kind, kind ∈ all) →
        all.findSome? (ofKind? · body) = none := fun hall =>
      Option.not_isSome_iff_eq_none.mp (mt (findSome?_isSome_iff hall body).mp h)
    rw [match?, hnone horder, hnone mem_precedence]

/-! ## Taking in a directive -/

/-- A line that is read as a grouping replaces the grouping and nothing else. -/
theorem feed_of_read_eq_grouping {line : Text} {g : Grouping} (h : Line.read line = .grouping g)
    (description : Description) :
    (Line.read line).kind = .grouping ∧
      description.feed line =
        { description with grouping := some g, lineCount := description.lineCount + 1 } := by
  rw [Description.feed, h]
  exact ⟨rfl, rfl⟩

/-- Titles in a row are read back behind a blank delimiter. -/
theorem titlesBetween_of_spells {d : CodePoint} (hd : Text.isBlank d = true) {gap row : Text}
    (hgap : ∀ c ∈ gap, Text.isBlank c = true) {titles : List Text}
    (hrow : Text.Spells row titles) : titlesBetween [d] (gap ++ row) = titles := by
  have hblank : Text.isBlankText [d] = true := by simp [Text.isBlankText, hd]
  rw [titlesBetween, hblank, if_pos rfl, Text.words_append_of_forall_isBlank hgap,
    Text.words_of_spells hrow]

/-- **Grouping directives are read back.**  The name of a kind, a delimiter that is no blank and
titles with the delimiter between them are taken in as that grouping, when no title holds the
delimiter and the last one ends with something else than a blank; titles at the front and in the
middle may be empty.  With a blank as the delimiter the titles are words with any blanks between
them.  The body of a directive describes a grouping exactly when it starts with the name of a kind
and is longer than that; there is one such kind at most, so the names may be tried in any order. -/
theorem directives_read_back :
    (∀ (kind : GroupingKind) (d : CodePoint) (titles : List Text) (description : Description),
      Text.isBlank d = false → (∀ title ∈ titles, d ∉ title) →
      (∀ last ∈ titles.getLast?, ∃ c ∈ last.getLast?, Text.isBlank c = false) →
      let line := CodePoint.char '=' :: (Text.ofString kind.name ++ d :: Text.join [d] titles)
      (Line.read line).kind = .grouping ∧
        description.feed line =
          { description with
            grouping := some ⟨kind, some titles, some [d]⟩
            lineCount := description.lineCount + 1 }) ∧
    (∀ (kind : GroupingKind) (d : CodePoint) (gap row : Text) (titles : List Text)
        (description : Description),
      Text.isBlank d = true → (∀ c ∈ gap, Text.isBlank c = true) → Text.Spells row titles →
      let line := CodePoint.char '=' :: (Text.ofString kind.name ++ d :: (gap ++ row))
      (Line.read line).kind = .grouping ∧
        description.feed line =
          { description with
            grouping := some ⟨kind, some titles, some [d]⟩
            lineCount := description.lineCount + 1 }) ∧
    ∀ body : Text,
      ((match? body).isSome = true ↔ ∃ kind, Names kind body) ∧
      (∀ kind other, Names kind body → Names other body → kind = other) ∧
      ∀ order : List GroupingKind, (∀ kind, kind ∈ order) →
        order.findSome? (ofKind? · body) = match? body := by
  refine ⟨fun kind d titles description hd hfree hlast => ?_,
    fun kind d gap row titles description hd hgap hrow => ?_, fun body => ⟨?_, ?_, ?_⟩⟩
  · exact feed_of_read_eq_grouping (Line.read_groupingLine kind hd hfree hlast) description
  · refine feed_of_read_eq_grouping ?_ description
    have hend : ∀ c ∈ (d :: (gap ++ row)).getLast?, Text.isBlank c = false := by
      rw [← List.cons_append, List.getLast?_append_of_ne_nil _ hrow.ne_nil]
      exact hrow.isBlank_getLast?
    rw [Line.read_directive kind d _ hend, titlesBetween_of_spells hd hgap hrow]
  · exact findSome?_isSome_iff mem_precedence body
  · exact fun kind other => Names.unique
  · exact fun order horder => findSome?_eq_match? horder body

/-- A letter as the delimiter, with empty titles at the front and in the middle, and a tab as the
delimiter with other blanks behind it. -/
theorem directives_read_back_letterAndTab :
    let letters : Text := "=clustereeA beeC"
    let blanks : Text := "=stackcluster\t  Fast \x0bSlow"
    (Line.read letters).kind = .grouping ∧
    ({} : Description).feed letters =
      { grouping := some ⟨.cluster, some ["", "A b", "", "C"], some "e"⟩, lineCount := 1 } ∧
    (Line.read blanks).kind = .grouping ∧
    ({} : Description).feed blanks =
      { grouping := some ⟨.stackcluster, some ["Fast", "Slow"], some "\t"⟩, lineCount := 1 } ∧
    [GroupingKind.stacked, .cluster, .stackcluster].findSome? (ofKind? · "stackcluster;A") =
      match? "stackcluster;A" := by
  intro letters blanks
  have hrow : Text.Spells "Fast \x0bSlow" ["Fast", "Slow"] :=
    @Text.Spells.cons "Fast" " \x0b" "Slow" _ (by decide) (by decide) (.one (by decide))
  obtain ⟨hletter, hblank, hbody⟩ := directives_read_back
  obtain ⟨hkind, hfeed⟩ := hletter .cluster 'e' ["", "A b", "", "C"] {} (by decide) (by decide)
    (by decide)
  obtain ⟨hkind', hfeed'⟩ := hblank .stackcluster '\t' "  " _ _ {} (by decide) (by decide) hrow
  have hall : ∀ kind, kind ∈ [GroupingKind.stacked, .cluster, .stackcluster] := by
    intro kind
    cases kind <;> decide
  have horder := (hbody "stackcluster;A").2.2 _ hall
  exact ⟨hkind, hfeed, hkind', hfeed', horder⟩

end Grouping
end ChartScript
