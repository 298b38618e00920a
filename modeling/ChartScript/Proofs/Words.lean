import ChartScript.Row
import ChartScript.Text.Digit
import ChartScript.Text.LineBreak
import ChartScript.Titles

/-!
# Laws of lines, blanks, words and pieces

Lines are cut out of a text, trimmed, cut into words or cut at a delimiter, and every reader relies
on some law about one of these.  The laws are collected here since none of them is about charts, and
each is used in several places; what they have in common is that they say what a *cut* leaves, so
that no other file opens the functions that cut.

Two of them deserve a word.  Trimming is stated as `strip_padded`: a text with no blank at its two
ends is what trimming leaves of it with blanks around it.  Together with the converse, that what was
trimmed has no blank at its ends, this describes `strip` completely, and one never needs that it is
two `dropWhile`s and a reversal.  And words are described by `IsWord`, a structure with the two
conditions that all proofs ask for, non-empty and without blanks; it is decidable, so that concrete
labels and values can be checked where charts are built.

`words_join` and `titlesBetween_join` say that what was written is read back, words with single
spaces between them and titles with a delimiter that none of them holds.  `label_read_ne_nil` is the
one law about rows: a row read from a trimmed line always has a label, because there is something on
the line and the label is what comes first.
-/

set_option autoImplicit false

namespace ChartScript

/-- The pieces between separators hold no separator, and nothing that is not in the list. -/
theorem forall_mem_of_mem_splitOnP {α : Type} {p : α → Bool} {t piece : List α}
    (h : piece ∈ t.splitOnP p) : ∀ c ∈ piece, p c = false ∧ c ∈ t := by
  induction t generalizing piece with
  | nil =>
    obtain rfl : piece = [] := by simpa using h
    simp
  | cons x t ih =>
    have hlater : ∀ piece ∈ t.splitOnP p, ∀ c ∈ piece, p c = false ∧ c ∈ x :: t :=
      fun piece hpiece c hc => ⟨(ih hpiece c hc).1, List.mem_cons_of_mem x (ih hpiece c hc).2⟩
    rw [List.splitOnP_cons_eq_if_modifyHead] at h
    split at h
    · rcases List.mem_cons.mp h with rfl | hpiece
      · simp
      · exact hlater piece hpiece
    · next hx =>
      obtain ⟨first, more, hsplit⟩ := List.exists_cons_of_ne_nil (List.splitOnP_ne_nil p t)
      rw [hsplit] at h hlater
      rcases List.mem_cons.mp h with rfl | hpiece
      · intro c hc
        rcases List.mem_cons.mp hc with rfl | hc
        · exact ⟨by simpa using hx, by simp⟩
        · exact hlater first (by simp) c hc
      · exact hlater piece (by simp [hpiece])

namespace Text

/-! ## Lines -/

/-- The lines of a text hold no line break. -/
theorem isLineBreak_of_mem_linesFrom {t line : Text} {returned : Bool}
    (hline : ∀ c ∈ line, isLineBreak c = false) :
    ∀ l ∈ linesFrom returned line t, ∀ c ∈ l, isLineBreak c = false := by
  have hreverse : ∀ c ∈ line.reverse, isLineBreak c = false := by
    intro c hc
    exact hline c (List.mem_reverse.mp hc)
  induction t generalizing returned line with
  | nil =>
    rw [linesFrom]
    split
    · simp
    · simpa using hline
  | cons x t ih =>
    rw [linesFrom]
    split
    · exact ih hline hreverse
    · split
      · rw [List.forall_mem_cons]
        exact ⟨hreverse, ih (by simp) (by simp)⟩
      · next hx =>
        have hmore : ∀ c ∈ x :: line, isLineBreak c = false := by
          rw [List.forall_mem_cons]
          exact ⟨by simpa using hx, hline⟩
        exact ih hmore fun c hc => hmore c (List.mem_reverse.mp hc)

/-- The lines of a text hold nothing that is not in the text. -/
theorem mem_of_mem_linesFrom {t line : Text} {returned : Bool} :
    ∀ l ∈ linesFrom returned line t, ∀ c ∈ l, c ∈ line ∨ c ∈ t := by
  induction t generalizing returned line with
  | nil =>
    rw [linesFrom]
    split
    · simp
    · simp
  | cons x t ih =>
    rw [linesFrom]
    split
    · intro l hl c hc
      exact (ih l hl c hc).imp id (List.mem_cons_of_mem x)
    · split
      · rw [List.forall_mem_cons]
        refine ⟨fun c hc => .inl (List.mem_reverse.mp hc), fun l hl c hc => ?_⟩
        exact (ih l hl c hc).elim (fun h => absurd h (by simp)) fun h => .inr (by simp [h])
      · intro l hl c hc
        rcases ih l hl c hc with hline | ht
        · exact (List.mem_cons.mp hline).elim (fun h => .inr (by simp [h])) .inl
        · exact .inr (List.mem_cons_of_mem x ht)

/-! ## Trimming -/

theorem trimEnd_isPrefix (t : Text) : trimEnd t <+: t := by
  have h : t.reverse.dropWhile isBlank <:+ t.reverse := List.dropWhile_suffix isBlank
  rw [trimEnd, ← List.reverse_suffix, List.reverse_reverse]
  exact h

theorem strip_subset (t : Text) : strip t ⊆ t :=
  List.Subset.trans (trimEnd_isPrefix _).subset (List.dropWhile_suffix isBlank).subset

/-- Trimming cuts off the blanks around a text that has no blank at its two ends. -/
theorem strip_padded {t before after : Text} (hfirst : ∀ c ∈ t.head?, isBlank c = false)
    (hlast : ∀ c ∈ t.getLast?, isBlank c = false) (hbefore : ∀ c ∈ before, isBlank c = true)
    (hafter : ∀ c ∈ after, isBlank c = true) : strip (before ++ (t ++ after)) = t := by
  have keep : ∀ u : Text, (∀ c ∈ u.head?, isBlank c = false) → u.dropWhile isBlank = u := by
    intro u hu
    cases u with
    | nil => rfl
    | cons c rest =>
      have hc : isBlank c = false := hu c rfl
      rw [List.dropWhile_cons_of_neg (by simp [hc])]
  cases t with
  | nil =>
    rw [strip, List.dropWhile_append_of_pos hbefore, List.nil_append, ← List.append_nil after,
      List.dropWhile_append_of_pos hafter]
    rfl
  | cons c rest =>
    have hback : ∀ x ∈ (c :: rest).reverse.head?, isBlank x = false := by
      rw [List.head?_reverse]
      exact hlast
    rw [strip, List.dropWhile_append_of_pos hbefore, keep (c :: rest ++ after) hfirst, trimEnd,
      List.reverse_append,
      List.dropWhile_append_of_pos fun x hx => hafter x (List.mem_reverse.mp hx), keep _ hback,
      List.reverse_reverse]

/-- Trimming leaves a text alone that has no blank at its two ends. -/
theorem strip_of_ends {t : Text} (hfirst : ∀ c ∈ t.head?, isBlank c = false)
    (hlast : ∀ c ∈ t.getLast?, isBlank c = false) : strip t = t := by
  have h := @strip_padded t [] [] hfirst hlast (by simp) (by simp)
  rwa [List.nil_append, List.append_nil] at h

/-- Trimming cuts blanks off at both ends. -/
theorem exists_eq_append_strip (t : Text) :
    ∃ before after, t = before ++ (strip t ++ after) ∧ (∀ c ∈ before, isBlank c = true) ∧
      ∀ c ∈ after, isBlank c = true := by
  have hblank : ∀ u : Text, ∀ c ∈ u.takeWhile isBlank, isBlank c = true := fun u =>
    List.all_eq_true.mp List.all_takeWhile
  refine ⟨t.takeWhile isBlank, ((t.dropWhile isBlank).reverse.takeWhile isBlank).reverse, ?_,
    hblank t, fun c hc => hblank _ c (List.mem_reverse.mp hc)⟩
  rw [strip, trimEnd, ← List.reverse_append, List.takeWhile_append_dropWhile,
    List.reverse_reverse, List.takeWhile_append_dropWhile]

/-- What is left after trimming does not start with a blank. -/
theorem isBlank_of_strip_eq_cons {t rest : Text} {c : CodePoint} (h : strip t = c :: rest) :
    isBlank c = false := by
  obtain ⟨tail, htail⟩ := trimEnd_isPrefix (t.dropWhile isBlank)
  rw [← strip, h, List.cons_append] at htail
  have hhead := List.head?_dropWhile_not isBlank t
  rw [← htail, List.head?_cons] at hhead
  simpa using hhead

/-- Nor does it end with one. -/
theorem isBlank_getLast?_strip (t : Text) : ∀ c ∈ (strip t).getLast?, isBlank c = false := by
  intro c hc
  have hhead := List.head?_dropWhile_not isBlank (t.dropWhile isBlank).reverse
  rw [strip, trimEnd, List.getLast?_reverse] at hc
  rw [Option.mem_def.mp hc] at hhead
  simpa using hhead

/-! ## Digits -/

/-- No digit is blank. -/
theorem isBlank_of_isDigit {c : CodePoint} (h : isDigit c = true) : isBlank c = false := by
  have hapart : ∀ first ∈ digitZeros, ∀ range ∈ blankRanges,
      first + 9 < range.1 ∨ range.2 < first := by decide
  rw [isDigit, digitValue?, Option.isSome_map, List.find?_isSome] at h
  obtain ⟨first, hfirst, hcode⟩ := h
  rw [Bool.and_eq_true, decide_eq_true_iff, decide_eq_true_iff] at hcode
  rw [isBlank, Bool.eq_false_iff, ne_eq, CodeRanges.contains_iff]
  rintro ⟨range, hrange, hcontains⟩
  have := hapart first hfirst range hrange
  omega

theorem ofString_toString_ne_nil (n : Nat) : ofString (ToString.toString n) ≠ [] := by
  rw [Nat.toString_eq_ofList_toDigits, ofString, String.toList_ofList]
  exact fun h => Nat.toDigits_ne_nil (List.map_eq_nil_iff.mp h)

/-- A number is written with ASCII digits. -/
theorem isIn_isDigit_of_mem_toString {n : Nat} {c : CodePoint}
    (hc : c ∈ ofString (ToString.toString n)) : c.isIn Char.isDigit = true := by
  rw [Nat.toString_eq_ofList_toDigits, ofString, String.toList_ofList] at hc
  obtain ⟨d, hd, rfl⟩ := List.mem_map.mp hc
  exact Nat.isDigit_of_mem_toDigits (by decide) (by decide) hd

/-! ## Words -/

/-- A word: a text that is not empty and has no blank. -/
structure IsWord (t : Text) : Prop where
  /-- There is something of it. -/
  ne_nil : t ≠ []
  /-- No code point of it is blank. -/
  not_blank : ∀ c ∈ t, isBlank c = false

instance (t : Text) : Decidable (IsWord t) :=
  decidable_of_iff (t ≠ [] ∧ ∀ c ∈ t, isBlank c = false) ⟨fun h => ⟨h.1, h.2⟩, fun h => ⟨h.1, h.2⟩⟩

theorem isWord_missing : IsWord missing := by
  decide

/-- A word alone is the only word of its text. -/
theorem words_of_isWord {w : Text} (hw : IsWord w) : words w = [w] := by
  rw [words, List.splitOnP_eq_singleton hw.not_blank]
  simp [hw.ne_nil]

/-- A word ends at the blank after it. -/
theorem words_append_cons {w : Text} (hw : IsWord w) {c : CodePoint} (hc : isBlank c = true)
    (t : Text) : words (w ++ c :: t) = w :: words t := by
  rw [words, List.splitOnP_append_cons_of_forall_mem hw.not_blank c hc]
  simp [words, hw.ne_nil]

/-- Words written with single spaces between them are read back. -/
theorem words_join {ws : List Text} (h : ∀ w ∈ ws, IsWord w) : words (join " " ws) = ws := by
  induction ws with
  | nil => exact words_nil
  | cons w ws ih =>
    have hw : IsWord w := h w (by simp)
    cases ws with
    | nil => rw [join, List.intercalate_singleton, words_of_isWord hw]
    | cons v vs =>
      have hjoin : join " " (w :: v :: vs) = w ++ CodePoint.char ' ' :: join " " (v :: vs) := by
        rw [join, List.intercalate_cons_cons, List.append_assoc]
        rfl
      rw [hjoin, words_append_cons hw (by decide), ih fun u hu => h u (by simp [hu])]

theorem isWord_of_mem_words {t w : Text} (h : w ∈ words t) : IsWord w := by
  rw [words, List.mem_filter] at h
  exact ⟨by simpa using h.2, fun c hc => (forall_mem_of_mem_splitOnP h.1 c hc).1⟩

theorem subset_of_mem_words {t w : Text} (h : w ∈ words t) : w ⊆ t := by
  rw [words, List.mem_filter] at h
  exact fun c hc => (forall_mem_of_mem_splitOnP h.1 c hc).2

/-- A text that starts with something else than a blank has a word. -/
theorem words_cons_ne_nil {c : CodePoint} (hc : isBlank c = false) (t : Text) :
    words (c :: t) ≠ [] := by
  obtain ⟨piece, pieces, hp⟩ := List.exists_cons_of_ne_nil (List.splitOnP_ne_nil isBlank t)
  rw [words, List.splitOnP_cons_eq_if_modifyHead, hc, hp]
  simp

/-! ## Pieces -/

/-- Joined texts end as the last of them ends. -/
theorem getLast?_join {separator last : Text} {c : CodePoint} {texts : List Text}
    (hlast : texts.getLast? = some last) (hc : last.getLast? = some c) :
    (join separator texts).getLast? = some c := by
  induction texts with
  | nil => exact absurd hlast (by simp)
  | cons t rest ih =>
    cases rest with
    | nil =>
      obtain rfl : t = last := by simpa using hlast
      rw [join, List.intercalate_singleton, hc]
    | cons u us =>
      rw [List.getLast?_cons_cons] at hlast
      have ih' := ih hlast
      rw [join] at ih'
      rw [join, List.intercalate_cons_cons, List.getLast?_append, ih', Option.some_or]

/-- A separator of one code point cuts like `List.splitOn`. -/
theorem piecesAt_singleton (d : CodePoint) (t : Text) : piecesAt [d] t = t.splitOn d := by
  induction t with
  | nil => rfl
  | cons c rest ih =>
    rw [List.splitOn_cons_eq_if_modifyHead, ← ih, piecesAt, cutFrom]
    by_cases hc : c = d
    · subst hc
      simp [piecesAt]
    · have hdc : ¬d = c := fun h => hc h.symm
      simp [piecesAt, hc, hdc]

end Text

theorem dropEmptyEnd_of_getLast? {titles : List Text} (h : ∀ t ∈ titles.getLast?, t ≠ []) :
    dropEmptyEnd titles = titles := by
  rw [dropEmptyEnd]
  cases hr : titles.reverse with
  | nil => simpa using hr.symm
  | cons t rest =>
    have ht : t ≠ [] := h t (by rw [← List.head?_reverse, hr, List.head?_cons]; rfl)
    rw [List.dropWhile_cons_of_neg (by simpa using ht), ← hr, List.reverse_reverse]

/-- Titles written with a delimiter between them are read back, when none holds the delimiter and
the last is not empty. -/
theorem titlesBetween_join {d : CodePoint} (hd : Text.isBlank d = false) {titles : List Text}
    (hfree : ∀ t ∈ titles, d ∉ t) (hlast : ∀ t ∈ titles.getLast?, t ≠ []) :
    titlesBetween [d] (Text.join [d] titles) = titles := by
  have hblank : Text.isBlankText [d] = false := by simp [Text.isBlankText, hd]
  rw [titlesBetween, hblank, if_neg (by simp), Text.piecesAt_singleton, Text.join]
  by_cases hne : titles = []
  · rw [hne]
    rfl
  · rw [List.splitOn_intercalate d hfree hne, dropEmptyEnd_of_getLast? hlast]

/-! ## Rows -/

theorem intercalate_cons_ne_nil {α : Type} (between : List α) {part : List α} (h : part ≠ [])
    (parts : List (List α)) : between.intercalate (part :: parts) ≠ [] := by
  cases parts with
  | nil => simpa using h
  | cons next parts => simp [List.intercalate_cons_cons, h]

namespace Row

theorem label_ofWords_ne_nil {ws : List Text} (hne : ws ≠ []) (h : ∀ w ∈ ws, w ≠ []) :
    (ofWords ws).label ≠ [] := by
  obtain ⟨w, rest, rfl⟩ := List.exists_cons_of_ne_nil hne
  exact h w (by simp)

theorem quotedLabel?_ne_nil {line label rest : Text} (h : quotedLabel? line = some (label, rest)) :
    label ≠ [] := by
  unfold quotedLabel? at h
  split at h
  · dsimp only at h
    split at h
    · split at h
      · exact absurd h (by simp)
      · cases h
        simp [Text.ofString, Text.ofChars]
    · exact absurd h (by simp)
  · exact absurd h (by simp)

/-- A quoted label and what is behind it are parts of the line. -/
theorem quotedLabel?_subset {line label rest : Text} (h : quotedLabel? line = some (label, rest)) :
    label ⊆ line ∧ rest ⊆ line := by
  unfold quotedLabel? at h
  split at h
  · next tail =>
    have hparts := List.takeWhile_append_dropWhile (p := (· != CodePoint.char '"')) (l := tail)
    have hinner : tail.takeWhile (· != CodePoint.char '"') ⊆ tail := List.takeWhile_subset _
    dsimp only at h
    split at h
    · next c rest' hdrop =>
      split at h
      · exact absurd h (by simp)
      · cases h
        refine ⟨fun x hx => ?_, fun x hx => ?_⟩
        · rcases List.mem_append.mp hx with hx | hx
          · rcases List.mem_append.mp hx with hx | hx
            · exact List.mem_cons.mpr (Or.inl (by simpa [Text.ofString, Text.ofChars] using hx))
            · exact List.mem_cons_of_mem _ (hinner hx)
          · exact List.mem_cons.mpr (Or.inl (by simpa [Text.ofString, Text.ofChars] using hx))
        · refine List.mem_cons_of_mem _ ?_
          rw [← hparts, hdrop]
          simp [hx]
    · exact absurd h (by simp)
  · exact absurd h (by simp)

/-- A row whose label and values all have a property. -/
def Forall (P : Text → Prop) (r : Row) : Prop := P r.label ∧ ∀ value ∈ r.values, P value

theorem ofWords_subset {ws : List Text} {line : Text} (h : ∀ w ∈ ws, w ⊆ line) :
    (ofWords ws).Forall (· ⊆ line) := by
  cases ws with
  | nil => exact ⟨by simp [ofWords, Text.ofString, Text.ofChars], by simp [ofWords]⟩
  | cons w ws => exact ⟨h w (by simp), fun value hvalue => h value (by simp_all [ofWords])⟩

/-- A row holds nothing that is not in its line. -/
theorem read_subset (line : Text) : (read line).Forall (· ⊆ line) := by
  have hwords := ofWords_subset fun w (hw : w ∈ line.words) => Text.subset_of_mem_words hw
  rw [read]
  split
  · next label rest hq =>
    obtain ⟨hlabel, hrest⟩ := quotedLabel?_subset hq
    split
    · exact ⟨hlabel, fun value hvalue => List.Subset.trans (Text.subset_of_mem_words hvalue) hrest⟩
    · exact hwords
  · exact hwords

/-- The values of a row are words. -/
theorem isWord_of_mem_values_read {line value : Text} (h : value ∈ (read line).values) :
    value.IsWord := by
  have hwords : ∀ ws : List Text, (∀ w ∈ ws, w.IsWord) → ∀ v ∈ (ofWords ws).values, v.IsWord := by
    intro ws hws v hv
    cases ws with
    | nil => exact absurd hv (by simp [ofWords])
    | cons w ws => exact hws v (List.mem_cons_of_mem w hv)
  rw [read] at h
  split at h
  · split at h
    · exact Text.isWord_of_mem_words h
    · exact hwords _ (fun _ => Text.isWord_of_mem_words) value h
  · exact hwords _ (fun _ => Text.isWord_of_mem_words) value h

/-- The row of a line that starts with something else than a blank has a label. -/
theorem label_read_ne_nil {c : CodePoint} (hc : Text.isBlank c = false) (t : Text) :
    (read (c :: t)).label ≠ [] := by
  have hwords : (ofWords (Text.words (c :: t))).label ≠ [] :=
    label_ofWords_ne_nil (Text.words_cons_ne_nil hc t)
      fun _ hw => (Text.isWord_of_mem_words hw).ne_nil
  rw [read]
  split
  · next label rest hq =>
    split
    · exact quotedLabel?_ne_nil hq
    · exact hwords
  · exact hwords

/-- A line that does not start with a double quote is cut at blanks alone. -/
theorem read_of_head?_ne {t : Text} (h : t.head? ≠ some (CodePoint.char '"')) :
    read t = ofWords t.words := by
  have hq : quotedLabel? t = none := by
    unfold quotedLabel?
    split
    · exact absurd rfl h
    · rfl
  rw [read, hq]

/-- A row with a label is not written as the empty line. -/
theorem render_ne_nil {label : Text} (h : label ≠ []) (values : List Text) :
    (Row.mk label values).render ≠ [] := by
  rw [render, Text.join]
  exact intercalate_cons_ne_nil _ h values

end Row
end ChartScript
