import ChartScript.Titles
import Mathlib.Data.List.DropRight

/-!
# What splitting a list of titles loses

Titles are split at the occurrences of a delimiter, and empty titles at the end are dropped.  An
author who puts a list together by joining titles wants it back, and this file says what is lost:
only empty titles at the end, and so only delimiters.

The delimiter may be any text and may even overlap itself, so "the occurrences" is not well-defined.
In `aaab` the delimiter `aa` occurs twice and one can be cut at.  `Text.CutsInto sep t pieces` fixes
the choice without an algorithm: every cut is made at the first occurrence behind the cut before.
"First" is a condition on the piece in front of it.  It is not enough that the piece does not hold
the separator, since an occurrence may start in the piece and end in the separator; hence `piece ++
sep.dropLast`, the longest text in which an earlier occurrence would be complete before this one is.

That the pieces with the separator between them are the text (`CutsInto.join_eq`) follows by
induction on the relation, and needs nothing about how the cuts were found.  The algorithm enters in
one lemma, `Text.cutsInto_piecesAt`.  A delimiter of blanks is excluded: then titles are words, and
how many blanks stood between them is lost as well.
-/

set_option autoImplicit false

namespace ChartScript

/-! ## Ends of lists -/

/-- What is dropped at the end of a list is one element again and again, if no other is dropped. -/
theorem exists_eq_rdropWhile_append {α : Type} {p : α → Bool} {a : α}
    (h : ∀ x, p x = true → x = a) (l : List α) :
    ∃ count, l = l.rdropWhile p ++ List.replicate count a := by
  have hdropped : ∀ x ∈ l.rtakeWhile p, x = a := fun x hx => h x (List.mem_rtakeWhile_imp hx)
  refine ⟨(l.rtakeWhile p).length, ?_⟩
  rw [← List.eq_replicate_of_mem hdropped]
  exact List.rdropWhile_append_rtakeWhile.symm

theorem getLast?_rdropWhile_ne {α : Type} {p : α → Bool} {a : α} (h : p a = true) (l : List α) :
    (l.rdropWhile p).getLast? ≠ some a := by
  intro hlast
  have hne : l.rdropWhile p ≠ [] := fun hnil => by simp [hnil] at hlast
  rw [List.getLast?_eq_some_getLast hne, Option.some_inj] at hlast
  exact List.rdropWhile_last_not p l hne (hlast ▸ h)

namespace Text

/-! ## Pieces -/

/-- Joined texts are the first of them, and the others with a separator before each. -/
theorem join_cons (sep piece : Text) (pieces : List Text) :
    join sep (piece :: pieces) = piece ++ pieces.flatMap (sep ++ ·) := by
  induction pieces generalizing piece with
  | nil => simp [join]
  | cons next pieces ih =>
    rw [join, List.intercalate_cons_cons, ← join, ih, List.flatMap_cons, List.append_assoc,
      List.append_assoc]

/-- Cutting a text at a separator, from the left and without overlap.  A cut is made at the first
occurrence, so none ends before the separator behind a piece is complete. -/
inductive CutsInto (sep : Text) : Text → List Text → Prop
  | last {t : Text} (h : ¬sep <:+: t) : CutsInto sep t [t]
  | cut {piece rest : Text} {pieces : List Text} (hfirst : ¬sep <:+: piece ++ sep.dropLast)
      (hrest : CutsInto sep rest pieces) : CutsInto sep (piece ++ sep ++ rest) (piece :: pieces)

namespace CutsInto

variable {sep t : Text} {pieces : List Text}

/-- A code point in front belongs to the first piece, unless the separator starts with it. -/
theorem cons {c : CodePoint} {piece : Text} (h : CutsInto sep t (piece :: pieces))
    (hc : ¬sep <+: c :: t) : CutsInto sep (c :: t) ((c :: piece) :: pieces) := by
  cases h with
  | last h =>
    refine .last fun hinfix => ?_
    exact (List.infix_cons_iff.mp hinfix).elim hc h
  | @cut _ rest _ hfirst hrest =>
    rw [← List.cons_append, ← List.cons_append]
    refine .cut (fun hinfix => ?_) hrest
    rcases List.infix_cons_iff.mp hinfix with hstart | hinfix
    · -- the separator would be complete within the text
      have hwithin : c :: (piece ++ sep.dropLast) <+: c :: (piece ++ sep ++ rest) := by
        rw [List.append_assoc, List.cons_prefix_cons, List.prefix_append_right_inj]
        exact ⟨rfl, sep.dropLast_prefix.trans (List.prefix_append sep rest)⟩
      exact hc (hstart.trans hwithin)
    · exact hfirst hinfix

theorem ne_nil (h : CutsInto sep t pieces) : pieces ≠ [] := by
  cases h <;> simp

/-- The pieces with the separator between them are the text. -/
theorem join_eq (h : CutsInto sep t pieces) : join sep pieces = t := by
  induction h with
  | last h => rw [join, List.intercalate_singleton]
  | @cut piece rest pieces hfirst hrest ih =>
    obtain ⟨next, more, rfl⟩ := List.exists_cons_of_ne_nil hrest.ne_nil
    rw [join, List.intercalate_cons_cons, ← join, ih]

/-- No piece holds the separator. -/
theorem not_infix (h : CutsInto sep t pieces) : ∀ piece ∈ pieces, ¬sep <:+: piece := by
  induction h with
  | last h => simpa using h
  | cut hfirst _ ih =>
    refine List.forall_mem_cons.mpr ⟨fun hinfix => hfirst ?_, ih⟩
    exact List.infix_append_of_infix_left hinfix

end CutsInto

/-- What is cut once some code points are passed over. -/
theorem cutsInto_cutFrom {sep : Text} (hsep : sep ≠ []) (t : Text) (skip : Nat) :
    CutsInto sep (t.drop skip) ((cutFrom sep skip t).1 :: (cutFrom sep skip t).2) := by
  induction t generalizing skip with
  | nil =>
    rw [List.drop_nil]
    exact .last fun hinfix => hsep (List.infix_nil.mp hinfix)
  | cons c rest ih =>
    cases skip with
    | succ skip => exact ih skip
    | zero =>
      rw [cutFrom, List.drop_zero]
      split
      · next hstart =>
        obtain ⟨behind, hbehind⟩ := List.isPrefixOf_iff_prefix.mp hstart
        have hrest : rest.drop (sep.length - 1) = behind := by
          have := congrArg (List.drop sep.length) hbehind
          rw [List.drop_left] at this
          rw [this, ← List.drop_succ_cons (a := c),
            Nat.sub_add_cancel (List.length_pos_iff.mpr hsep)]
        have hshort : ¬sep <:+: [] ++ sep.dropLast := fun hinfix => by
          have hlength := hinfix.length_le
          have := List.length_pos_iff.mpr hsep
          rw [List.nil_append, List.length_dropLast] at hlength
          omega
        have hcut := CutsInto.cut hshort (ih (sep.length - 1))
        rwa [hrest, List.nil_append, hbehind] at hcut
      · next hstart =>
        refine (ih 0).cons fun h => hstart ?_
        exact List.isPrefixOf_iff_prefix.mpr h

theorem cutsInto_piecesAt {sep : Text} (hsep : sep ≠ []) (t : Text) :
    CutsInto sep t (piecesAt sep t) :=
  cutsInto_cutFrom hsep t 0

end Text

/-! ## Titles -/

/-- Empty titles at the end are written as delimiters and nothing else. -/
theorem exists_join_append_replicate (sep : Text) (titles : List Text) (empties : Nat) :
    ∃ k, Text.join sep (titles ++ List.replicate empties []) =
      Text.join sep titles ++ (List.replicate k sep).flatten := by
  have hempties : ∀ k, (List.replicate k ([] : Text)).flatMap (sep ++ ·) =
      (List.replicate k sep).flatten := fun k => by
    rw [List.flatMap_def, List.map_replicate, List.append_nil]
  cases titles with
  | cons title titles =>
    refine ⟨empties, ?_⟩
    rw [List.cons_append, Text.join_cons, Text.join_cons, List.flatMap_append, hempties,
      List.append_assoc]
  | nil =>
    -- without a title the first of the empty ones has no delimiter before it
    cases empties with
    | zero => exact ⟨0, rfl⟩
    | succ k =>
      refine ⟨k, ?_⟩
      rw [List.replicate_succ, List.nil_append, Text.join_cons, hempties]
      rfl

/-- **What splitting titles loses.**  A delimiter that is not blank splits every text.  The titles
with the delimiter between them, and some more delimiters, are the text again; no title holds the
delimiter and the last one is not empty.  They are the pieces of the text, cut at one occurrence of
the delimiter after the other from the left, up to empty ones at the end. -/
theorem splitTitles_loses_delimiters (text : Text) {delimiter : Text}
    (hdelimiter : ∃ c ∈ delimiter, Text.isBlank c = false) :
    ∃ titles k, splitTitles text delimiter = .ok titles ∧
      text = Text.join delimiter titles ++ (List.replicate k delimiter).flatten ∧
      (∀ title ∈ titles, ¬delimiter <:+: title) ∧ titles.getLast? ≠ some [] ∧
      ∃ empties, Text.CutsInto delimiter text (titles ++ List.replicate empties []) := by
  obtain ⟨c, hc, hblank⟩ := hdelimiter
  have hne : delimiter ≠ [] := List.ne_nil_of_mem hc
  have hnot : delimiter.isBlankText = false := by
    rw [Text.isBlankText, Bool.and_eq_false_iff, List.all_eq_false]
    exact .inr ⟨c, hc, by simp [hblank]⟩
  have hsplit : splitTitles text delimiter =
      .ok ((Text.piecesAt delimiter text).rdropWhile List.isEmpty) := by
    rw [splitTitles, if_neg (by simpa using hne), titlesBetween, hnot]
    rfl
  have hpieces := Text.cutsInto_piecesAt hne text
  obtain ⟨empties, hempties⟩ := exists_eq_rdropWhile_append
    (fun _ => List.isEmpty_iff.mp) (Text.piecesAt delimiter text)
  obtain ⟨k, hk⟩ := exists_join_append_replicate delimiter
    ((Text.piecesAt delimiter text).rdropWhile List.isEmpty) empties
  rw [← hempties, hpieces.join_eq] at hk
  refine ⟨_, k, hsplit, hk, fun title htitle => ?_, getLast?_rdropWhile_ne rfl _, empties, ?_⟩
  · refine hpieces.not_infix title ?_
    rw [hempties]
    exact List.mem_append_left _ htitle
  · rwa [← hempties]

/-- A delimiter that overlaps itself: of three letters the first two are the delimiter. -/
theorem splitTitles_loses_delimiters_overlapping :
    let text : Text := "aaab-aaaa"
    let delimiter : Text := "aa"
    let titles : List Text := ["", "ab-"]
    (∃ c ∈ delimiter, Text.isBlank c = false) ∧ splitTitles text delimiter = .ok titles ∧
      (∃ k, text = Text.join delimiter titles ++ (List.replicate k delimiter).flatten) ∧
      (∀ title ∈ titles, ¬delimiter <:+: title) ∧ titles.getLast? ≠ some [] ∧
      ∃ empties, Text.CutsInto delimiter text (titles ++ List.replicate empties []) := by
  intro text delimiter titles
  have hdelimiter : ∃ c ∈ delimiter, Text.isBlank c = false := by decide
  have hsplit : splitTitles text delimiter = .ok titles := by decide
  obtain ⟨titles', k, hsplit', htext, hfree, hlast, hcut⟩ :=
    splitTitles_loses_delimiters text hdelimiter
  obtain rfl : titles = titles' := Except.ok.inj (hsplit.symm.trans hsplit')
  exact ⟨hdelimiter, hsplit, ⟨k, htext⟩, hfree, hlast, hcut⟩

end ChartScript
