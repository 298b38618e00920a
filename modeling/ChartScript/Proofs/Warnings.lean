import ChartScript.Proofs.Compilation
import ChartScript.Proofs.Reading
import Mathlib.Data.List.Lex

/-!
# Which warnings are delivered

A directive or option that does not exist is ignored, and there is a warning about it.  The store
keeps the ignored lines by their parts, sorts them by name and puts the lines together again, so
that a warning quotes a text that was never stored.  This file says what comes out in terms of the
lines as they were written.

Sorting is specified and not recomputed.  `IsStableSort` has three conditions: nothing is lost and
nothing new, names are in order, and equal names keep the order of the lines.  The last is needed,
since a permutation in order would leave open which of two lines with the same name comes first.
The order of names is that of the numbers of their code points, which is stated as such
(`Text.inOrder_iff`), since it is not the one of any language.

The other half is that putting a line together gives the line back (`describe_of_ignored?_read`),
blanks around it aside.  This fails for arbitrary parts: an option whose name holds an equals sign
would be cut at another place.  `Ignored.IsWritable` excludes it, and parts that were read are
writable.  It is also what makes the sorted *lines* well-defined, as the name in a line can be found
again (`nameInText`).

`warnings_delivered` treats a script and a report alike, because warnings come with both, and says
nothing of a failure without a report, as nothing comes with that.  Directives come before options
whatever their names are.
-/

set_option autoImplicit false

namespace ChartScript

/-! ## The order of names -/

/-- The numbers of the code points of a text. -/
def Text.codes (t : Text) : List Nat := t.map CodePoint.code

theorem Text.inOrder_iff {a b : Text} : a.inOrder b = true ↔ a.codes ≤ b.codes := by
  rw [← not_lt]
  induction a generalizing b with
  | nil => simp [inOrder, codes]
  | cons x a ih =>
    cases b with
    | nil => simp [inOrder, codes]
    | cons y b =>
      rw [codes, codes, List.map_cons, List.map_cons, List.cons_lt_cons_iff, ← codes, ← codes]
      simp only [inOrder, Bool.or_eq_true, Bool.and_eq_true, decide_eq_true_eq, beq_iff_eq, ih]
      rcases Nat.lt_trichotomy x.code y.code with hlt | heq | hgt
      · simp [hlt, Nat.lt_asymm hlt, Nat.ne_of_gt hlt]
      · simp [heq]
      · simp [hgt, Nat.lt_asymm hgt, Nat.ne_of_gt hgt]

theorem Text.inOrder_trans {a b c : Text} (hab : a.inOrder b = true) (hbc : b.inOrder c = true) :
    a.inOrder c = true := by
  rw [inOrder_iff] at *
  exact le_trans hab hbc

theorem Text.inOrder_total (a b : Text) : (a.inOrder b || b.inOrder a) = true := by
  rw [Bool.or_eq_true, inOrder_iff, inOrder_iff]
  exact le_total _ _

/-- `output` is `input` in the order of keys, with equal keys in the order they had. -/
structure IsStableSort {α : Type} (key : α → Text) (input output : List α) : Prop where
  /-- Nothing is lost and nothing is new. -/
  perm : output.Perm input
  /-- Keys are in order. -/
  ordered : output.Pairwise fun a b => (key a).codes ≤ (key b).codes
  /-- What has the same key keeps its order. -/
  stable : ∀ name, (output.filter fun a => key a = name) = input.filter fun a => key a = name

theorem isStableSort_sortByName (items : List Ignored) :
    IsStableSort Ignored.name items (Ignored.sortByName items) where
  perm := List.mergeSort_perm _ _
  ordered := by
    have hsorted := List.pairwise_mergeSort
      (fun a b c : Ignored => Text.inOrder_trans (a := a.name) (b := b.name) (c := c.name))
      (fun a b => Text.inOrder_total a.name b.name) items
    exact hsorted.imp Text.inOrder_iff.mp
  stable name := by
    -- what has the name is in order already, so sorting leaves it as a part of the result
    have hsame : (items.filter fun a => a.name = name).Pairwise
        fun a b => a.name.inOrder b.name = true := by
      refine List.pairwise_of_forall_mem_list fun a ha b hb => ?_
      have hname : a.name = name ∧ b.name = name := by
        simpa using And.intro (List.mem_filter.mp ha).2 (List.mem_filter.mp hb).2
      rw [Text.inOrder_iff, hname.1, hname.2]
    have hpart := List.sublist_mergeSort
      (fun a b c : Ignored => Text.inOrder_trans (a := a.name) (b := b.name) (c := c.name))
      (fun a b => Text.inOrder_total a.name b.name) hsame List.filter_sublist
    have hnamed := hpart.filter fun a => decide (a.name = name)
    have htwice : (fun a : Ignored => decide (a.name = name) && decide (a.name = name)) =
        fun a => decide (a.name = name) := funext fun a => Bool.and_self _
    rw [List.filter_filter, htwice] at hnamed
    have hperm := (List.mergeSort_perm items fun a b => a.name.inOrder b.name).filter
      fun a => decide (a.name = name)
    exact (hnamed.eq_of_length hperm.length_eq.symm).symm

namespace IsStableSort

/-- Sorting goes through a function that keeps the keys. -/
theorem map {α β : Type} {key : α → Text} {key' : β → Text} {f : α → β} {input output : List α}
    (h : IsStableSort key input output) (hkey : ∀ a ∈ input, key' (f a) = key a) :
    IsStableSort key' (input.map f) (output.map f) where
  perm := h.perm.map f
  ordered := by
    rw [List.pairwise_map]
    refine h.ordered.imp_of_mem fun {a b} ha hb hab => ?_
    rw [hkey a (h.perm.subset ha), hkey b (h.perm.subset hb)]
    exact hab
  stable name := by
    have hcongr : ∀ l : List α, l ⊆ input →
        (l.filter fun a => decide (key' (f a) = name)) =
          l.filter fun a => decide (key a = name) := by
      intro l hl
      refine List.filter_congr fun a ha => ?_
      rw [hkey a (hl ha)]
    rw [List.filter_map, List.filter_map]
    exact congrArg (List.map f) ((hcongr output h.perm.subset).trans
      ((h.stable name).trans (hcongr input (List.Subset.refl input)).symm))

end IsStableSort

/-! ## Ignored lines -/

theorem Line.ne_equals_of_isNameChar {c : CodePoint} (h : isNameChar c = true) :
    c ≠ CodePoint.char '=' := by
  rintro rfl
  exact absurd h (by decide)

namespace Ignored

/-- Whether it is a directive. -/
def isDirective : Ignored → Bool
  | .directive _ => true
  | .option .. => false

/-- Whether it can be written as a line: the name of an option has to be a name. -/
def IsWritable : Ignored → Prop
  | .directive _ => True
  | .option name _ => name ≠ [] ∧ ∀ c ∈ name, Line.isNameChar c = true

end Ignored

/-- Whether a line without blanks around it is a directive. -/
def isDirectiveText (text : Text) : Bool := text.head? == some (CodePoint.char '=')

/-- The name in a line without blanks around it: of a directive all that follows the equals sign,
and of an option what comes before it. -/
def nameInText (text : Text) : Text :=
  if isDirectiveText text then text.tail else text.takeWhile (· != CodePoint.char '=')

namespace Ignored

theorem isDirectiveText_describe {i : Ignored} (h : i.IsWritable) :
    isDirectiveText i.describe = i.isDirective := by
  cases i with
  | directive name => rfl
  | option name value =>
    obtain ⟨c, rest, rfl⟩ := List.exists_cons_of_ne_nil h.1
    show (some c == some (CodePoint.char '=')) = false
    simpa using Line.ne_equals_of_isNameChar (h.2 c (by simp))

/-- The name is found again in what describes an ignored line. -/
theorem nameInText_describe {i : Ignored} (h : i.IsWritable) : nameInText i.describe = i.name := by
  rw [nameInText, isDirectiveText_describe h]
  cases i with
  | directive name => rfl
  | option name value =>
    have hstop : ∀ c ∈ name, (c != CodePoint.char '=') = true := fun c hc => by
      simpa using Line.ne_equals_of_isNameChar (h.2 c hc)
    show ((name ++ "=") ++ value).takeWhile (· != CodePoint.char '=') = name
    rw [List.append_assoc, List.takeWhile_append_of_pos hstop]
    exact List.append_nil name

end Ignored

namespace Line

/-- What a line says that does not exist. -/
def ignored? : Line → Option Ignored
  | .unknownDirective name => some (.directive name)
  | .unknownOption name value => some (.option name value)
  | _ => none

theorem isSome_ignored?_iff (line : Line) : line.ignored?.isSome = true ↔ line.kind = .ignored := by
  cases line <;> simp [ignored?, kind]

theorem ignored?_ofDirective {body : Text} {i : Ignored}
    (h : (ofDirective body).ignored? = some i) : i = .directive body := by
  rw [ofDirective] at h
  split at h
  · exact absurd h (by simp [ignored?])
  · split at h
    · exact absurd h (by simp [ignored?])
    · split at h
      · exact absurd h (by simp [ignored?])
      · exact (Option.some.inj h).symm

theorem ignored?_ofOption {name value : Text} {i : Ignored}
    (h : (ofOption name value).ignored? = some i) : i = .option name value := by
  rw [ofOption] at h
  split at h
  · exact absurd h (by simp [ignored?])
  · split at h
    · exact absurd h (by simp [ignored?])
    · exact absurd h (by simp [ignored?])
    · exact (Option.some.inj h).symm

/-- A line that is ignored is described as it was written, blanks around it aside. -/
theorem describe_of_ignored?_read {line : Text} {i : Ignored}
    (h : (read line).ignored? = some i) : i.describe = line.strip ∧ i.IsWritable := by
  rw [read] at h
  generalize line.strip = text at h ⊢
  unfold ofStripped at h
  split at h
  · exact absurd h (by simp [ignored?])
  · exact absurd h (by simp [ignored?])
  · rw [ignored?_ofDirective h]
    exact ⟨rfl, trivial⟩
  · split at h
    · next hparts =>
      obtain ⟨htext, hne, hname⟩ := eq_append_of_optionParts? hparts
      rw [ignored?_ofOption h, htext]
      exact ⟨List.append_assoc _ _ _, hne, hname⟩
    · exact absurd h (by simp [ignored?])

end Line

/-! ## From lines to warnings -/

/-- The ignored lines, without the blanks around them, in order. -/
def ignoredTexts (lines : List Text) : List Text :=
  (lines.filter fun line => (Line.read line).kind = .ignored).map Text.strip

/-- What the ignored lines say, in order. -/
def ignoredItems (lines : List Text) : List Ignored :=
  lines.filterMap fun line => (Line.read line).ignored?

theorem isWritable_of_mem_ignoredItems {lines : List Text} {i : Ignored}
    (h : i ∈ ignoredItems lines) : i.IsWritable := by
  obtain ⟨line, -, hline⟩ := List.mem_filterMap.mp h
  exact (Line.describe_of_ignored?_read hline).2

theorem map_describe_ignoredItems (lines : List Text) :
    (ignoredItems lines).map Ignored.describe = ignoredTexts lines := by
  induction lines with
  | nil => rfl
  | cons line lines ih =>
    rw [ignoredItems, List.filterMap_cons, ignoredTexts, List.filter_cons]
    have hkind := (Line.read line).isSome_ignored?_iff
    cases hi : (Line.read line).ignored? with
    | none =>
      rw [hi] at hkind
      rw [if_neg (by simpa using hkind)]
      exact ih
    | some i =>
      rw [hi] at hkind
      rw [if_pos (by simpa using hkind), List.map_cons, List.map_cons,
        (Line.describe_of_ignored?_read hi).1]
      exact congrArg (line.strip :: ·) ih

namespace Description

/-- The store keeps what the ignored lines say, directives and options apart. -/
theorem unknown_ofLines (lines : List Text) :
    (ofLines lines).store.unknownDirectives = (ignoredItems lines).filter Ignored.isDirective ∧
      (ofLines lines).store.unknownOptions =
        (ignoredItems lines).filter fun i => !i.isDirective := by
  induction lines using List.reverseRecOn with
  | nil => exact ⟨rfl, rfl⟩
  | append_singleton lines line ih =>
    have hitems : ignoredItems (lines ++ [line]) =
        ignoredItems lines ++ (Line.read line).ignored?.toList := by
      rw [ignoredItems, List.filterMap_append, ← ignoredItems]
      cases hi : (Line.read line).ignored? <;> simp [hi]
    rw [ofLines_append_singleton, feed, hitems, List.filter_append, List.filter_append, ← ih.1,
      ← ih.2]
    cases Line.read line with
    | unknownDirective name => exact ⟨rfl, (List.append_nil _).symm⟩
    | unknownOption name value => exact ⟨(List.append_nil _).symm, rfl⟩
    | _ => exact ⟨(List.append_nil _).symm, (List.append_nil _).symm⟩

end Description

/-- Part of the ignored lines, sorted: it does not matter whether the part is taken of the lines or
of what they say. -/
theorem isStableSort_part {p : Text → Bool} {q : Ignored → Bool}
    (hpq : ∀ i : Ignored, i.IsWritable → p i.describe = q i) (lines : List Text) :
    IsStableSort nameInText ((ignoredTexts lines).filter p)
      ((Ignored.sortByName ((ignoredItems lines).filter q)).map Ignored.describe) := by
  have hinput : ((ignoredItems lines).filter q).map Ignored.describe =
      (ignoredTexts lines).filter p := by
    rw [← map_describe_ignoredItems, List.filter_map]
    refine congrArg _ (List.filter_congr fun i hi => ?_)
    exact (hpq i (isWritable_of_mem_ignoredItems hi)).symm
  rw [← hinput]
  refine (isStableSort_sortByName _).map fun i hi => ?_
  exact Ignored.nameInText_describe (isWritable_of_mem_ignoredItems (List.mem_filter.mp hi).1)

/-- The store's warnings are those of the two parts, one after the other. -/
theorem Description.warnings_ofLines (lines : List Text) :
    (ofLines lines).store.warnings =
      ((Ignored.sortByName ((ignoredItems lines).filter Ignored.isDirective)).map
          Ignored.describe ++
        (Ignored.sortByName ((ignoredItems lines).filter fun i => !i.isDirective)).map
          Ignored.describe).map (Text.ofString "ignored parameter: " ++ ·) := by
  obtain ⟨hdirectives, hoptions⟩ := unknown_ofLines lines
  rw [Store.warnings, Store.ignored, hdirectives, hoptions, ← List.map_append, List.map_map]
  rfl

/-- There is one warning for every ignored line. -/
theorem Description.exists_perm_warnings_ofLines (lines : List Text) :
    ∃ ignored : List Text, ignored.Perm (ignoredTexts lines) ∧
      (ofLines lines).store.warnings = ignored.map (Text.ofString "ignored parameter: " ++ ·) := by
  refine ⟨_, ?_, warnings_ofLines lines⟩
  rw [← List.map_append, ← map_describe_ignoredItems]
  refine List.Perm.map _ ?_
  refine ((isStableSort_sortByName _).perm.append (isStableSort_sortByName _).perm).trans ?_
  exact List.filter_append_perm Ignored.isDirective (ignoredItems lines)

/-- A report comes with the warnings of the description. -/
theorem Description.warnings_of_failure_eq_reported {d : Description} {sourceName : Option Text}
    {fault : CompileFault} {report : Report}
    (h : d.failure sourceName fault = .reported report) : report.warnings = d.store.warnings := by
  rw [failure] at h
  split at h
  · rw [← CompileFailure.reported.inj h]
  · exact absurd h (by simp)

/-- The warnings that a compilation delivers, with the script or with the report of a failure.  A
fault that is not reported delivers none. -/
def deliveredWarnings : Except CompileFailure Compiled → Option (List Text)
  | .ok compiled => some compiled.warnings
  | .error (.reported report) => some report.warnings
  | .error (.unreported _) => none

theorem eq_of_deliveredWarnings_eq_some {lines : List Text} {options : CompileOptions}
    {warnings : List Text} (h : deliveredWarnings (compile lines options) = some warnings) :
    warnings = (Description.ofLines (lines ++ options.extra)).store.warnings := by
  cases hcompile : compile lines options with
  | ok compiled =>
    rw [hcompile] at h
    obtain ⟨script, -, rfl⟩ := compile_eq_ok_iff.mp hcompile
    exact (Option.some.inj h).symm
  | error failure =>
    rw [hcompile] at h
    obtain ⟨fault, -, rfl⟩ := compile_eq_error_iff.mp hcompile
    cases hfailure : (Description.ofLines (lines ++ options.extra)).failure options.sourceName
      fault with
    | reported report =>
      rw [hfailure] at h
      rw [← Option.some.inj h]
      exact Description.warnings_of_failure_eq_reported hfailure
    | unreported fault =>
      rw [hfailure] at h
      exact absurd h (by simp [deliveredWarnings])

/-- **The warnings that are delivered.**  With a script, and with the report of a failure, come the
warnings about exactly the lines that are ignored, one for each, with the line quoted as it was
written, blanks around it aside.  Those about directives come first and then those about options;
both parts are sorted by name, and equal names keep the order of the lines. -/
theorem warnings_delivered {lines : List Text} {options : CompileOptions} {warnings : List Text}
    (h : deliveredWarnings (compile lines options) = some warnings) :
    let ignored := ignoredTexts (lines ++ options.extra)
    ∃ directives settings : List Text,
      IsStableSort nameInText (ignored.filter isDirectiveText) directives ∧
      IsStableSort nameInText (ignored.filter fun text => !isDirectiveText text) settings ∧
      warnings = (directives ++ settings).map (Text.ofString "ignored parameter: " ++ ·) := by
  have hdirective : ∀ i : Ignored, i.IsWritable → isDirectiveText i.describe = i.isDirective :=
    fun i => Ignored.isDirectiveText_describe
  have hoption : ∀ i : Ignored, i.IsWritable → (!isDirectiveText i.describe) = !i.isDirective :=
    fun i hi => by rw [Ignored.isDirectiveText_describe hi]
  refine ⟨_, _, isStableSort_part hdirective _, isStableSort_part hoption _, ?_⟩
  rw [eq_of_deliveredWarnings_eq_some h]
  exact Description.warnings_ofLines (lines ++ options.extra)

/-- Ignored lines of both kinds, with a repeated name, an equals sign in a value and blanks around.
They are reported with the script, and with the failure when there is a bad column too. -/
theorem warnings_of_ignored_lines :
    let lines : List Text := ["=zeta", "beta=2", " =alpha x ", "a 1", "beta= 1 = one", "=zeta"]
    let bad : CompileOptions := { extra := ["column=0"] }
    let directives : List Text := ["=zeta", "=alpha x", "=zeta"]
    let settings : List Text := ["beta=2", "beta= 1 = one"]
    ((compile lines {}).isOk = true ∧ (compile lines bad).isOk = false) ∧
    ∀ options ∈ [{}, bad], ∃ warnings sorted sorted',
      deliveredWarnings (compile lines options) = some warnings ∧
      IsStableSort nameInText directives sorted ∧ IsStableSort nameInText settings sorted' ∧
      warnings = (sorted ++ sorted').map (Text.ofString "ignored parameter: " ++ ·) := by
  intro lines bad directives settings
  refine ⟨⟨by decide, by decide⟩, fun options hoptions => ?_⟩
  have hsome : ∀ options ∈ [{}, bad],
      (deliveredWarnings (compile lines options)).isSome = true := by
    decide
  have hignored : ∀ options ∈ [{}, bad],
      (ignoredTexts (lines ++ options.extra)).filter isDirectiveText = directives ∧
      ((ignoredTexts (lines ++ options.extra)).filter fun text => !isDirectiveText text) =
        settings := by
    decide
  obtain ⟨warnings, hwarnings⟩ := Option.isSome_iff_exists.mp (hsome options hoptions)
  obtain ⟨sorted, sorted', hsorted, hsorted', heq⟩ := warnings_delivered hwarnings
  rw [(hignored options hoptions).1] at hsorted
  rw [(hignored options hoptions).2] at hsorted'
  exact ⟨warnings, sorted, sorted', hwarnings, hsorted, hsorted', heq⟩

end ChartScript
