import ChartScript.Proofs.PlotCommand

/-!
# Which titles are read back

Titles are written between apostrophes as they are.  The plotting program takes a text between
apostrophes to end at the first apostrophe that is not doubled, and a doubled one to stand for one.
So a title with an apostrophe does not survive, and the rest of its term may be read as something
else altogether.

To say this one needs the reader, which is not part of the program.  `Text.readQuoted` is it, and
gives back what is behind the text as well: a title is read back properly only if what follows is
what was written behind it.  `readQuoted_eq_some_iff` says which texts it reads, namely those in
which every apostrophe of the inside is doubled, and ties it to the writing that would have been
right (`Text.doubled`).  In this form the condition on a title is that doubling changes nothing.

The reader must also find the title, and it does not know where a term ends.  `Text.behind?`  gives
what comes behind the first occurrence of a text.  For the first ` title ` of a term to be the one
that introduces the title, none may occur before it, and this is so because the words before it are
short and fixed up to their digits (`Chart.wordsBeforeTitle`).

`Chart.titles_read_back_iff` is an equivalence for every group and every set.  The groups of all
sets but the last are written with the empty title, which is always read back.
-/

set_option autoImplicit false

namespace ChartScript
namespace Text

/-! ## Texts between apostrophes -/

/-- The mark around a text. -/
def apostrophe : CodePoint := CodePoint.char '\''

/-- A text as it is to be written between apostrophes: every apostrophe twice. -/
def doubled : Text → Text
  | [] => []
  | c :: t => if c = apostrophe then c :: c :: doubled t else c :: doubled t

/-- Reads up to the first apostrophe that is not doubled, and gives back what is behind it. -/
def insideQuotes : Text → Option (Text × Text)
  | [] => none
  | [c] => if c = apostrophe then some ([], []) else none
  | c :: d :: t =>
    if c ≠ apostrophe then (insideQuotes (d :: t)).map fun read => (c :: read.1, read.2)
    else if d = apostrophe then (insideQuotes t).map fun read => (c :: read.1, read.2)
    else some ([], d :: t)

/-- Reads a text between apostrophes, and gives back what is behind it. -/
def readQuoted : Text → Option (Text × Text)
  | [] => none
  | c :: t => if c = apostrophe then insideQuotes t else none

theorem insideQuotes_cons {c : CodePoint} (hc : c ≠ apostrophe) (t : Text) :
    insideQuotes (c :: t) = (insideQuotes t).map fun read => (c :: read.1, read.2) := by
  rcases t with _ | ⟨d, t⟩
  · exact if_neg hc
  · exact if_pos hc

theorem insideQuotes_apostrophe {t : Text} (ht : t.head? ≠ some apostrophe) :
    insideQuotes (apostrophe :: t) = some ([], t) := by
  rcases t with _ | ⟨d, t⟩
  · rfl
  · rw [insideQuotes, if_neg (by simp), if_neg fun hd => ht (congrArg some hd)]

theorem insideQuotes_doubled {rest : Text} (hrest : rest.head? ≠ some apostrophe) (inside : Text) :
    insideQuotes (doubled inside ++ apostrophe :: rest) = some (inside, rest) := by
  induction inside with
  | nil => exact insideQuotes_apostrophe hrest
  | cons c inside ih =>
    by_cases hc : c = apostrophe
    · rw [doubled, if_pos hc, List.cons_append, List.cons_append, insideQuotes,
        if_neg (not_not_intro hc), if_pos hc, ih]
      rfl
    · rw [doubled, if_neg hc, List.cons_append, insideQuotes_cons hc, ih]
      rfl

theorem eq_of_insideQuotes {t inside rest : Text} (h : insideQuotes t = some (inside, rest)) :
    t = doubled inside ++ apostrophe :: rest ∧ rest.head? ≠ some apostrophe := by
  fun_induction insideQuotes t generalizing inside rest with
  | case1 => exact absurd h (by simp)
  | case2 =>
    obtain ⟨rfl, rfl⟩ := Prod.mk.inj (Option.some.inj h)
    exact ⟨rfl, by simp⟩
  | case3 => exact absurd h (by simp)
  | case4 c d t hc ih =>
    obtain ⟨⟨inside, rest⟩, hread, hread'⟩ := Option.map_eq_some_iff.mp h
    obtain ⟨rfl, rfl⟩ := Prod.mk.inj hread'
    obtain ⟨heq, hrest⟩ := ih hread
    exact ⟨by rw [doubled, if_neg hc, List.cons_append, ← heq], hrest⟩
  | case5 c t hc ih =>
    obtain ⟨⟨inside, rest⟩, hread, hread'⟩ := Option.map_eq_some_iff.mp h
    obtain ⟨rfl, rfl⟩ := Prod.mk.inj hread'
    obtain ⟨heq, hrest⟩ := ih hread
    have hc := not_not.mp hc
    exact ⟨by rw [doubled, if_pos hc, List.cons_append, List.cons_append, ← heq, hc], hrest⟩
  | case6 c d t hc hd =>
    obtain ⟨rfl, rfl⟩ := Prod.mk.inj (Option.some.inj h)
    exact ⟨by rw [not_not.mp hc]; rfl, fun hhead => hd (Option.some.inj hhead)⟩

/-- A text between apostrophes is read exactly as it is to be written. -/
theorem readQuoted_eq_some_iff {t inside rest : Text} :
    readQuoted (apostrophe :: t) = some (inside, rest) ↔
      t = doubled inside ++ apostrophe :: rest ∧ rest.head? ≠ some apostrophe := by
  rw [readQuoted, if_pos rfl]
  refine ⟨eq_of_insideQuotes, ?_⟩
  rintro ⟨rfl, hrest⟩
  exact insideQuotes_doubled hrest inside

theorem length_doubled (t : Text) : (doubled t).length = t.length + t.count apostrophe := by
  induction t with
  | nil => rfl
  | cons c t ih =>
    rw [doubled]
    split
    next hc =>
      rw [hc, List.count_cons_self, List.length_cons, List.length_cons, List.length_cons, ih]
      omega
    next hc =>
      rw [List.count_cons_of_ne hc, List.length_cons, List.length_cons, ih]
      omega

theorem doubled_eq_self_iff {t : Text} : doubled t = t ↔ apostrophe ∉ t := by
  constructor
  · intro h
    have hlength := length_doubled t
    rw [h] at hlength
    exact List.count_eq_zero.mp (by omega)
  · intro h
    induction t with
    | nil => rfl
    | cons c t ih =>
      obtain ⟨hc, ht⟩ := not_or.mp (mt List.mem_cons.mpr h)
      rw [doubled, if_neg (Ne.symm hc), ih ht]

/-- A text that is written between apostrophes as it is can be read back if it holds none. -/
theorem readQuoted_append {t rest : Text} (hrest : rest.head? ≠ some apostrophe) :
    readQuoted (apostrophe :: (t ++ apostrophe :: rest)) = some (t, rest) ↔ apostrophe ∉ t := by
  rw [readQuoted_eq_some_iff, List.append_left_inj, eq_comm, doubled_eq_self_iff,
    and_iff_left hrest]

/-! ## Finding a text -/

/-- What is behind the first occurrence of a text. -/
def behind? (mark : Text) : Text → Option Text
  | [] => none
  | c :: t =>
    if mark.isPrefixOf (c :: t) then some ((c :: t).drop mark.length) else behind? mark t

theorem behind?_append {mark : Text} (hmark : mark ≠ []) (t : Text) :
    behind? mark (mark ++ t) = some t := by
  obtain ⟨first, mark, rfl⟩ := List.exists_cons_of_ne_nil hmark
  have hfound : (first :: mark).isPrefixOf (first :: (mark ++ t)) = true :=
    List.isPrefixOf_iff_prefix.mpr ⟨t, rfl⟩
  rw [List.cons_append, behind?, if_pos hfound, List.length_cons, List.drop_succ_cons,
    List.drop_left]

section Words

variable {first second : CodePoint} {mark : Text}

theorem behind?_of_notMem {word : Text} (h : first ∉ word) (t : Text) :
    behind? (first :: mark) (word ++ t) = behind? (first :: mark) t := by
  induction word with
  | nil => rfl
  | cons c word ih =>
    obtain ⟨hc, hword⟩ := not_or.mp (mt List.mem_cons.mpr h)
    have hno : (first :: mark).isPrefixOf (c :: (word ++ t)) = false := by
      rw [List.isPrefixOf_cons_cons, beq_false_of_ne hc, Bool.false_and]
    rw [List.cons_append, behind?, hno, ih hword]
    rfl

/-- Words that start with another code point than the second of the mark are passed. -/
theorem behind?_words {words : List Text}
    (h : ∀ word ∈ words, first ∉ word ∧ ∃ c rest, word = c :: rest ∧ c ≠ second) (t : Text) :
    behind? (first :: second :: mark) (words.flatMap (first :: ·) ++ t) =
      behind? (first :: second :: mark) t := by
  induction words with
  | nil => rfl
  | cons word words ih =>
    obtain ⟨hfree, c, rest, rfl, hc⟩ := h word (by simp)
    have hno : (first :: second :: mark).isPrefixOf
        (first :: (c :: rest ++ (words.flatMap (first :: ·) ++ t))) = false := by
      rw [List.cons_append, List.isPrefixOf_cons_cons, List.isPrefixOf_cons_cons,
        beq_false_of_ne hc.symm, Bool.false_and, Bool.and_false]
    rw [List.flatMap_cons, List.append_assoc, List.cons_append, behind?, hno]
    exact (behind?_of_notMem hfree _).trans (ih fun w hw => h w (List.mem_cons_of_mem _ hw))

end Words
end Text

/-! ## Titles of groups and sets -/

theorem exists_toString_eq_cons {c : CodePoint} (hdigit : c.isIn Char.isDigit = false)
    (hsign : c ≠ CodePoint.char '-') (n : Nat) :
    ∃ first rest, Text.ofString (toString n) = first :: rest ∧ first ≠ c := by
  obtain ⟨first, rest, hnumber⟩ := List.exists_cons_of_ne_nil (Text.ofString_toString_ne_nil n)
  refine ⟨first, rest, hnumber, ?_⟩
  rintro rfl
  exact notMem_toString hdigit hsign n (hnumber ▸ List.mem_cons_self)

/-- Numbers in a row start as the first of them. -/
theorem exists_join_toString_eq_cons {c : CodePoint} (hdigit : c.isIn Char.isDigit = false)
    (hsign : c ≠ CodePoint.char '-') (n : Nat) (numbers : List Nat) :
    ∃ first rest, Text.join ":" ((n :: numbers).map fun n => Text.ofString (toString n)) =
      first :: rest ∧ first ≠ c := by
  obtain ⟨first, rest, hnumber, hne⟩ := exists_toString_eq_cons hdigit hsign n
  cases numbers with
  | nil =>
    refine ⟨first, rest, ?_, hne⟩
    rw [Text.join, List.map_singleton, List.intercalate_singleton, hnumber]
  | cons next numbers =>
    have hjoin : Text.join ":" ((n :: next :: numbers).map fun n => Text.ofString (toString n)) =
        first :: (rest ++ Text.ofString ":" ++
          Text.join ":" ((next :: numbers).map fun n => Text.ofString (toString n))) := by
      rw [Text.join, List.map_cons, List.map_cons, List.intercalate_cons_cons, hnumber]
      rfl
    exact ⟨first, _, hjoin, hne⟩

namespace Chart

open Text (apostrophe readQuoted behind?)

/-- The words between the source and the title of a group. -/
def wordsBeforeTitle (c : Chart) (s g : Nat) : List Text :=
  [Text.ofString "index", Text.ofString (toString s), Text.ofString "using",
    Text.join ":" ((c.groupTerm s g).columns.map fun n => Text.ofString (toString n)) ++
      Text.ofString (if c.style.xLabels then ":xticlabels(1)" else "")]

theorem text_eq_wordsBeforeTitle (c : Chart) (s g : Nat) :
    (c.groupTerm s g).text =
      Text.ofString (if g = 0 then "\"$data\"" else "''") ++
        ((c.wordsBeforeTitle s g).flatMap (CodePoint.char ' ' :: ·) ++ (Text.ofString " title " ++
        apostrophe :: ((c.groupTerm s g).title ++ apostrophe ::
        (Text.ofString " lt " ++ Text.ofString (toString (c.style.lineType g)))))) := by
  rw [text_groupTerm]
  simp only [wordsBeforeTitle, List.flatMap_cons, List.flatMap_nil, List.append_assoc,
    List.cons_append, List.append_nil]
  rfl

theorem passed_wordsBeforeTitle (c : Chart) (s g : Nat) :
    ∀ word ∈ c.wordsBeforeTitle s g, CodePoint.char ' ' ∉ word ∧
      ∃ first rest, word = first :: rest ∧ first ≠ CodePoint.char 't' := by
  have hlabels : CodePoint.char ' ' ∉
      Text.ofString (if c.style.xLabels then ":xticlabels(1)" else "") := by
    split <;> decide
  have hindex := exists_toString_eq_cons (c := CodePoint.char 't') (by decide) (by decide) s
  obtain ⟨first, rest, hcolumns, hne⟩ := exists_join_toString_eq_cons (c := CodePoint.char 't')
    (by decide) (by decide) (c.groupColumn g) (c.groupTerm s g).columns.tail
  intro word hword
  simp only [wordsBeforeTitle, List.mem_cons, List.not_mem_nil, or_false] at hword
  rcases hword with rfl | rfl | rfl | rfl
  · exact ⟨by decide, _, _, rfl, by decide⟩
  · exact ⟨notMem_toString (by decide) (by decide) s, hindex⟩
  · exact ⟨by decide, _, _, rfl, by decide⟩
  · rw [List.mem_append, not_or]
    exact ⟨⟨notMem_join_toString (by decide) (by decide) (by decide) _, hlabels⟩, first, _,
      congrArg (· ++ _) hcolumns, hne⟩

/-- The title of a group stands behind the first ` title ` of its term. -/
theorem behind?_text_groupTerm (c : Chart) (s g : Nat) :
    behind? (Text.ofString " title ") (c.groupTerm s g).text =
      some (apostrophe :: ((c.groupTerm s g).title ++ apostrophe ::
        (Text.ofString " lt " ++ Text.ofString (toString (c.style.lineType g))))) := by
  have hsource : CodePoint.char ' ' ∉ Text.ofString (if g = 0 then "\"$data\"" else "''") := by
    split <;> decide
  have hmark : Text.ofString " title " =
      CodePoint.char ' ' :: CodePoint.char 't' :: Text.ofString "itle " := rfl
  rw [text_eq_wordsBeforeTitle, hmark, Text.behind?_of_notMem hsource,
    Text.behind?_words (c.passed_wordsBeforeTitle s g)]
  exact Text.behind?_append (by simp) _

/-- The title of a set stands behind the `newhistogram ` of its header. -/
theorem behind?_text_header (c : Chart) {s : Nat} {title : Text}
    (h : c.setTitles[s]? = some title) :
    behind? (Text.ofString "newhistogram ") (c.header s).text =
      some (apostrophe :: (title ++ apostrophe ::
        if c.style.patterns ∧ 0 < s then
          Text.ofString " fs pattern " ++ Text.ofString (toString c.style.patternStart)
        else [])) := by
  rw [text_header, h, Option.elim_some]
  simp only [List.append_assoc]
  have hmark : Text.ofString "newhistogram " ≠ [] := by decide
  exact Text.behind?_append hmark _

/-- **A title is read back exactly when it holds no apostrophe.**  In the term of a group the text
between apostrophes behind ` title ` is read as the title of the group, with only the line type left
behind it, if and only if the title holds no apostrophe; the groups of every set but the last have
the empty title.  In the header of a set with a title the same holds of the text behind
`newhistogram `, where at most the pattern is left. -/
theorem titles_read_back_iff (c : Chart) :
    let S := max 1 c.setTitles.length
    let G := c.grouping.groupCount
    let title : Nat → Nat → Text := fun s g => if s + 1 = S then c.grouping.title g else []
    (∀ s < S, ∀ g < G, ∃ term, c.terms[s * (G + 1) + 1 + g]? = some term ∧
      ((behind? (Text.ofString " title ") term.text).bind readQuoted =
          some (title s g, Text.ofString " lt " ++ Text.ofString (toString (c.style.lineType g))) ↔
        CodePoint.char '\'' ∉ title s g)) ∧
    ∀ s title, c.setTitles[s]? = some title → ∃ term, c.terms[s * (G + 1)]? = some term ∧
      ((behind? (Text.ofString "newhistogram ") term.text).bind readQuoted =
          some (title, if c.style.patterns ∧ 0 < s then
            Text.ofString " fs pattern " ++ Text.ofString (toString c.style.patternStart) else []) ↔
        CodePoint.char '\'' ∉ title) := by
  intro S G title
  have hS : S = c.setCount := c.setCount_eq_max.symm
  have hblank : ∀ t : Text, (CodePoint.char ' ' :: t).head? ≠ some apostrophe := by
    intro t
    rw [List.head?_cons]
    decide
  refine ⟨fun s hs g hg => ?_, fun s title htitle => ?_⟩
  · refine ⟨c.groupTerm s g, c.terms_group (hS ▸ hs) hg, ?_⟩
    rw [behind?_text_groupTerm, Option.bind_some, title_groupTerm, ← hS]
    exact Text.readQuoted_append (hblank _)
  · have hs : s < S := by
      have := (List.getElem?_eq_some_iff.mp htitle).1
      omega
    refine ⟨c.header s, c.terms_header (hS ▸ hs), ?_⟩
    rw [c.behind?_text_header htitle, Option.bind_some]
    refine Text.readQuoted_append ?_
    split
    · exact hblank _
    · simp

/-- The title of a group ends at its apostrophe, and the rest of it stands outside. -/
theorem title_cut_at_apostrophe :
    let c : Chart := { grouping := { titles := some ["it's", "B"] } }
    (compile ["=cluster;it's;B", "=table", "a 1 2"] {}).toOption.map (·.script.plot) =
        some c.plotCommand ∧
      ∃ term, c.terms[1]? = some term ∧
        (behind? " title " term.text).bind readQuoted ≠
          some (Text.ofString "it's", Text.ofString " lt 1") ∧
        (behind? " title " term.text).bind readQuoted =
          some (Text.ofString "it", Text.ofString "s' lt 1") := by
  intro c
  obtain ⟨term, hterm, hread⟩ := (titles_read_back_iff c).1 0 (by decide) 0 (by decide)
  replace hterm : c.terms[1]? = some term := hterm
  have hlineType : Text.ofString " lt 1" =
      Text.ofString " lt " ++ Text.ofString (toString (c.style.lineType 0)) := by decide +kernel
  have hcut : (c.terms[1]?.bind fun t => (behind? " title " t.text).bind readQuoted) =
      some (Text.ofString "it", Text.ofString "s' lt 1") := by decide +kernel
  refine ⟨by decide +kernel, term, hterm, fun h => ?_, ?_⟩
  · rw [hlineType] at h
    exact absurd (hread.mp h) (by decide +kernel)
  · rwa [hterm] at hcut

end Chart
end ChartScript
