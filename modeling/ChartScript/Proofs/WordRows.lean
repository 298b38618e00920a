import ChartScript.Proofs.Words
import Mathlib.Data.List.Basic

/-!
# Words in a row

`Text.words` cuts a text at blanks and drops empty pieces.  As a specification this is poor: the
reader of a statement has to run it to see what is meant, and that every text has words in *one* way
is built into its being a function.  `Text.Spells row words` says what it is for words to stand in a
row: the words in order, with at least one blank between each two of them and nothing at its two
ends.  It is a relation, so both directions have something to say.

`words_of_spells` says that the words of a row are read back, whatever the blanks are; so a text
spells one list of words at most.  `spells_words` says that every text with something else than a
blank at its two ends is such a row.  Trimmed lines are of this form, and statements about columns
and titles are made with `Spells`.
-/

set_option autoImplicit false

namespace ChartScript
namespace Text

/-- `Spells row words` says that `row` is the words in order, with blanks between each two. -/
inductive Spells : Text → List Text → Prop
  | one {word : Text} (hword : IsWord word) : Spells word [word]
  | cons {word gap row : Text} {words : List Text} (hword : IsWord word)
      (hgap : isBlankText gap = true) (hrow : Spells row words) :
      Spells (word ++ (gap ++ row)) (word :: words)

theorem isBlankText_iff {t : Text} : isBlankText t = true ↔ t ≠ [] ∧ ∀ c ∈ t, isBlank c = true := by
  simp [isBlankText]

/-- Blanks in front separate nothing. -/
theorem words_append_of_forall_isBlank {gap : Text} (hgap : ∀ c ∈ gap, isBlank c = true)
    (t : Text) : words (gap ++ t) = words t := by
  induction gap with
  | nil => rfl
  | cons c gap ih =>
    rw [List.cons_append, words_cons_of_isBlank (hgap c (by simp)),
      ih fun x hx => hgap x (by simp [hx])]

section

variable {row : Text} {ws : List Text}

/-- The words of a row are read back. -/
theorem words_of_spells (h : Spells row ws) : words row = ws := by
  induction h with
  | one hword => exact words_of_isWord hword
  | @cons word gap row ws hword hgap _ ih =>
    obtain ⟨hne, hblank⟩ := isBlankText_iff.mp hgap
    obtain ⟨c, gap, rfl⟩ := List.exists_cons_of_ne_nil hne
    rw [List.cons_append, words_append_cons hword (hblank c (by simp)),
      words_append_of_forall_isBlank fun x hx => hblank x (by simp [hx]), ih]

theorem Spells.ne_nil (h : Spells row ws) : row ≠ [] := by
  cases h with
  | one hword => exact hword.ne_nil
  | cons hword => simp [hword.ne_nil]

theorem Spells.isBlank_getLast? (h : Spells row ws) : ∀ c ∈ row.getLast?, isBlank c = false := by
  induction h with
  | one hword => exact fun c hc => hword.not_blank c (List.mem_of_getLast? hc)
  | cons _ _ hrow ih =>
    rwa [List.getLast?_append_of_ne_nil _ (by simp [hrow.ne_nil]),
      List.getLast?_append_of_ne_nil _ hrow.ne_nil]

/-- What is written right before a row belongs to its first word. -/
theorem Spells.exists_cons {c : CodePoint} (hc : isBlank c = false) (h : Spells row ws) :
    ∃ ws', Spells (c :: row) ws' := by
  have hlonger : ∀ {word : Text}, IsWord word → IsWord (c :: word) := fun hword =>
    ⟨by simp, by simpa [hc] using hword.not_blank⟩
  cases h with
  | one hword => exact ⟨_, .one (hlonger hword)⟩
  | cons hword hgap hrow => exact ⟨_, .cons (hlonger hword) hgap hrow⟩

end

/-- A text that does not end with a blank is a row of words, behind blanks if it starts with
some. -/
theorem exists_eq_gap_append {t : Text} (hne : t ≠ [])
    (hlast : ∀ c ∈ t.getLast?, isBlank c = false) :
    ∃ gap row ws, t = gap ++ row ∧ (∀ c ∈ gap, isBlank c = true) ∧ Spells row ws := by
  induction t with
  | nil => exact absurd rfl hne
  | cons c t ih =>
    by_cases ht : t = []
    · subst ht
      exact ⟨[], [c], [[c]], rfl, by simp, .one ⟨by simp, by simpa using hlast⟩⟩
    obtain ⟨gap, row, ws, rfl, hgap, hrow⟩ := ih ht (by
      rwa [← List.singleton_append, List.getLast?_append_of_ne_nil _ ht] at hlast)
    cases hc : isBlank c with
    | true => exact ⟨c :: gap, row, ws, rfl, by simpa [hc] using hgap, hrow⟩
    | false =>
      by_cases hnone : gap = []
      · obtain ⟨ws', hmore⟩ := hrow.exists_cons hc
        exact ⟨[], c :: row, ws', by rw [hnone]; rfl, by simp, hmore⟩
      · have hword : IsWord [c] := ⟨by simp, by simpa using hc⟩
        exact ⟨[], _, _, rfl, by simp, .cons hword (isBlankText_iff.mpr ⟨hnone, hgap⟩) hrow⟩

/-- A text with something else than a blank at its two ends is its words in a row. -/
theorem spells_words {t : Text} (hne : t ≠ []) (hfirst : ∀ c ∈ t.head?, isBlank c = false)
    (hlast : ∀ c ∈ t.getLast?, isBlank c = false) : Spells t (words t) := by
  obtain ⟨gap, row, ws, rfl, hgap, hrow⟩ := exists_eq_gap_append hne hlast
  cases gap with
  | nil => rwa [List.nil_append, words_of_spells hrow]
  | cons c gap => exact absurd (hfirst c rfl) (by simp [hgap c (by simp)])

end Text
end ChartScript
