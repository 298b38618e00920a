import ChartScript.Proofs.Rounding
import ChartScript.Proofs.Verdict
import Mathlib.Data.List.Nodup

/-!
# When a numeric option fails

Two options read a number, the gap factor and the angle of the labels.  They are meant to read any
value, as zero if there is no number in it.  There is one exception, and it comes from two notions
of a blank.  Which blanks may stand before a number is decided by one class of characters when the
numeral is found and by another when it is converted, and the two differ in the separators U+001C to
U+001F: a numeral behind one of these is found but not converted.

`IsUnreadable` is this exception, in terms of the value alone.  It says how a numeral starts by
`StartsNumeral` and not by the whole grammar, because anything may follow; that is enough for one to
be found, and the shortest description is the best one to test.  `leadingNumber_cases` says that
there is no other exception and that the number is finite otherwise.

From values to a compilation it is two steps.  A pass stops at the first option that fails, so
whether it fails does not depend on the order but which fault is reported does; `fault_run_init`
says the first.  A gap that is not finite would be a failure, too; there is none, because the gap
starts as one and is multiplied once.  Then only last values count, by `Proofs.Collection`.

The result says a little more about texts than about lists of lines.  Lines end at the first three
separators, so a value in a text can hold only U+001F of them, and a text without it never fails in
this way.  Lines that come from arguments or settings are not cut, hence the exception for them.
-/

set_option autoImplicit false

namespace ChartScript

open Text (isBlank isDigit)

/-! ## Where a numeral starts -/

namespace Text

/-- Whether a digit stands first. -/
def StartsDigit : Text → Prop
  | [] => False
  | c :: _ => isDigit c = true

/-- Whether a digit stands first, or a point and then a digit. -/
def StartsMantissa : Text → Prop
  | [] => False
  | c :: rest => isDigit c = true ∨ c = CodePoint.char '.' ∧ StartsDigit rest

/-- Whether a mantissa stands first, or one sign and then a mantissa. -/
def StartsNumeral : Text → Prop
  | [] => False
  | c :: rest =>
    StartsMantissa (c :: rest) ∨
      (c = CodePoint.char '+' ∨ c = CodePoint.char '-') ∧ StartsMantissa rest

instance : DecidablePred StartsDigit
  | [] => inferInstanceAs (Decidable False)
  | c :: _ => inferInstanceAs (Decidable (isDigit c = true))

instance : DecidablePred StartsMantissa
  | [] => inferInstanceAs (Decidable False)
  | _ :: _ => inferInstanceAs (Decidable (_ ∨ _ ∧ _))

instance : DecidablePred StartsNumeral
  | [] => inferInstanceAs (Decidable False)
  | _ :: _ => inferInstanceAs (Decidable (_ ∨ _ ∧ _))

theorem isBlank_of_startsNumeral_cons {c : CodePoint} {rest : Text}
    (h : StartsNumeral (c :: rest)) : isBlank c = false := by
  rcases h with (hdigit | ⟨rfl, -⟩) | ⟨rfl | rfl, -⟩
  · exact isBlank_of_isDigit hdigit
  · decide
  · decide
  · decide

end Text

open Text (StartsDigit StartsMantissa StartsNumeral)

namespace Numeral

theorem isSome_scanMantissa?_iff {t : Text} :
    (scanMantissa? t).isSome = true ↔ StartsMantissa t := by
  rw [scanMantissa?]
  cases t with
  | nil => simp [StartsMantissa]
  | cons c rest =>
    by_cases hc : isDigit c = true
    · refine iff_of_true ?_ (.inl hc)
      rw [List.takeWhile_cons_of_pos hc]
      split <;> simp
    · rw [List.takeWhile_cons_of_neg hc, List.dropWhile_cons_of_neg hc]
      split
      · -- a point, which a digit has to follow
        next after hpoint =>
        obtain ⟨rfl, rfl⟩ := List.cons.inj hpoint
        cases rest with
        | nil => simp [StartsMantissa, StartsDigit, hc]
        | cons d rest =>
          by_cases hd : isDigit d = true
          · simp [StartsMantissa, StartsDigit, hd]
          · simp [StartsMantissa, StartsDigit, hd, hc]
      · next hpoint =>
        have hne : c ≠ CodePoint.char '.' := fun h => hpoint rest (by rw [h])
        simp [StartsMantissa, hc, hne]

/-- A mantissa stands behind the sign that is taken off. -/
theorem startsMantissa_takeSign_iff {t : Text} :
    StartsMantissa (takeSign t).2 ↔ StartsNumeral t := by
  have hplus : isDigit '+' = false := by decide
  have hminus : isDigit '-' = false := by decide
  cases t with
  | nil => rfl
  | cons c rest =>
    rw [takeSign.eq_def]
    split
    · next h =>
      obtain ⟨rfl, rfl⟩ := List.cons.inj h
      simp [StartsNumeral, StartsMantissa, hplus]
    · next h =>
      obtain ⟨rfl, rfl⟩ := List.cons.inj h
      simp [StartsNumeral, StartsMantissa, hminus]
    · next hnot hnot' =>
      have hne : c ≠ CodePoint.char '+' := fun h => hnot rest (by rw [h])
      have hne' : c ≠ CodePoint.char '-' := fun h => hnot' rest (by rw [h])
      simp [StartsNumeral, hne, hne']

/-- There is a numeral when one starts behind the blanks, and these are its blanks. -/
theorem scan?_cases (t : Text) :
    (scan? t = none ∧ ¬StartsNumeral (t.dropWhile isBlank)) ∨
      ∃ n, scan? t = some n ∧ n.blanks = t.takeWhile isBlank ∧
        StartsNumeral (t.dropWhile isBlank) := by
  rw [← startsMantissa_takeSign_iff, ← isSome_scanMantissa?_iff, scan?]
  cases hparts : scanMantissa? (takeSign (t.dropWhile isBlank)).2 with
  | none => simp [hparts]
  | some parts => simp [hparts]

end Numeral

/-! ## Unreadable values -/

/-- Whether a value is a numeral, with anything behind it, that stands behind blanks of which one is
a separator. -/
def IsUnreadable (value : Text) : Prop :=
  ∃ blanks numeral : Text, value = blanks ++ numeral ∧ (∀ c ∈ blanks, isBlank c = true) ∧
    (∃ c ∈ blanks, isSeparatorControl c = true) ∧ StartsNumeral numeral

/-- The blanks are all that there are, since no numeral starts with one. -/
theorem isUnreadable_iff {value : Text} :
    IsUnreadable value ↔
      (∃ c ∈ value.takeWhile isBlank, isSeparatorControl c = true) ∧
        StartsNumeral (value.dropWhile isBlank) := by
  constructor
  · rintro ⟨blanks, numeral, rfl, hblanks, hseparator, hnumeral⟩
    rw [List.takeWhile_append_of_pos hblanks, List.dropWhile_append_of_pos hblanks]
    cases numeral with
    | nil => exact absurd hnumeral id
    | cons c rest =>
      have hc : ¬isBlank c = true := by simp [Text.isBlank_of_startsNumeral_cons hnumeral]
      rw [List.takeWhile_cons_of_neg hc, List.dropWhile_cons_of_neg hc, List.append_nil]
      exact ⟨hseparator, hnumeral⟩
  · rintro ⟨hseparator, hnumeral⟩
    exact ⟨_, _, List.takeWhile_append_dropWhile.symm, List.all_eq_true.mp List.all_takeWhile,
      hseparator, hnumeral⟩

instance (value : Text) : Decidable (IsUnreadable value) := decidable_of_iff' _ isUnreadable_iff

/-- Every value is a finite number, or it is unreadable. -/
theorem leadingNumber_cases (value : Text) :
    (IsUnreadable value ∧ ∃ fault, leadingNumber value = .error fault) ∨
      (¬IsUnreadable value ∧ ∃ negative m, leadingNumber value = .ok (.finite negative m)) := by
  rw [isUnreadable_iff, leadingNumber]
  rcases Numeral.scan?_cases value with ⟨hscan, hnot⟩ | ⟨n, hscan, hblanks, hstarts⟩
  · rw [hscan]
    exact .inr ⟨fun h => hnot h.2, false, _, rfl⟩
  · simp only [hscan, hblanks, List.any_eq_true]
    split
    · next hseparator => exact .inl ⟨⟨hseparator, hstarts⟩, _, rfl⟩
    · next hseparator =>
      refine .inr ⟨fun h => hseparator h.1, ?_⟩
      cases n.toBinary64 with
      | finite negative m => exact ⟨negative, m, rfl⟩
      | infinite negative => exact ⟨false, _, rfl⟩
      | undefined => exact ⟨false, _, rfl⟩

/-! ## The options of the init phase -/

/-- A factor that is finite leaves the gap finite that a style starts with. -/
theorem exists_multiplyGap_eq_ok (negative : Bool) (m : Magnitude) :
    ∃ gap, multiplyGap (.ofNat 1) (.finite negative m) = .ok gap := by
  rw [multiplyGap, Binary64.one_mul_finite]
  dsimp only
  split
  · exact ⟨_, rfl⟩
  · exact ⟨_, rfl⟩

namespace Assignment

/-- Whether an option reads a number and has a value that it cannot read. -/
def HoldsUnreadable : Assignment → Prop
  | .setting s value => s.isNumeric = true ∧ IsUnreadable value
  | _ => False

/-- An unreadable value stops a pass. -/
theorem update_of_holdsUnreadable {a : Assignment} (h : a.HoldsUnreadable) (style : Style) :
    ∃ fault, a.update style = .error (.number fault) := by
  cases a with
  | flag f => exact absurd h id
  | repeated r values => exact absurd h id
  | setting s value =>
    obtain ⟨hnumeric, hunreadable⟩ := h
    rcases leadingNumber_cases value with ⟨-, fault, hfault⟩ | ⟨hnot, -⟩
    · cases s with
      | gapFactor => exact ⟨fault, by simp [update, Setting.update?, hfault]⟩
      | rotateBy => exact ⟨fault, by simp [update, Setting.update?, hfault]⟩
      | _ => exact absurd hnumeric (by simp [Setting.isNumeric])
    · exact absurd hunreadable hnot

/-- The other options of the `init` phase take effect, the gap factor on the gap that a style starts
with, and only the gap factor changes the gap. -/
theorem update_of_not_holdsUnreadable {a : Assignment} (hphase : a.phase = .init)
    (h : ¬a.HoldsUnreadable) {style : Style}
    (hgap : a.key = .setting .gapFactor → style.barGap = .ofNat 1) :
    ∃ style', a.update style = .ok style' ∧
      (a.key ≠ .setting .gapFactor → style'.barGap = style.barGap) := by
  cases a with
  | flag f => cases f <;> exact ⟨_, rfl, fun _ => rfl⟩
  | repeated r values => exact absurd hphase (by simp [phase, key, Key.phase, Repeated.phase])
  | setting s value =>
    cases s with
    | gapFactor =>
      rcases leadingNumber_cases value with ⟨hunreadable, -⟩ | ⟨-, negative, m, hnumber⟩
      · exact absurd ⟨rfl, hunreadable⟩ h
      · obtain ⟨gap, hproduct⟩ := exists_multiplyGap_eq_ok negative m
        refine ⟨{ style with barGap := gap }, ?_, fun hne => absurd rfl hne⟩
        simp [update, Setting.update?, hnumber, hgap rfl, hproduct, Except.map]
    | rotateBy =>
      rcases leadingNumber_cases value with ⟨hunreadable, -⟩ | ⟨-, negative, m, hnumber⟩
      · exact absurd ⟨rfl, hunreadable⟩ h
      · refine ⟨{ style with xTicsRotation := .finite false m }, ?_, fun _ => rfl⟩
        simp [update, Setting.update?, hnumber, Binary64.abs]
    | barWidth | maxY | minY | setLabelShift => exact ⟨_, rfl, fun _ => rfl⟩
    | _ => exact absurd hphase (by simp [phase, key, Key.phase, Setting.phase])

end Assignment

namespace Store

theorem map_key_filterMap_sublist {α : Type} {given : α → Option Assignment} {key : α → Key}
    (h : ∀ x, ∀ a ∈ given x, a.key = key x) (l : List α) :
    ((l.filterMap given).map Assignment.key).Sublist (l.map key) := by
  induction l with
  | nil => simp
  | cons x l ih =>
    cases hx : given x with
    | none =>
      rw [List.filterMap_cons_none hx]
      exact ih.cons _
    | some a =>
      rw [List.filterMap_cons_some hx, List.map_cons, List.map_cons, h x a hx]
      exact ih.cons_cons _

/-- All options in the order in which they take effect. -/
def effectOrder : List Key :=
  Flag.inNameOrder.map Key.flag ++ Setting.all.map Key.setting ++ Repeated.all.map Key.repeated

/-- The given options of a phase take effect in the order of all options. -/
theorem keys_assignments_sublist (store : Store) (phase : Phase) :
    ((store.assignments phase).map Assignment.key).Sublist effectOrder := by
  refine (List.filter_sublist.map Assignment.key).trans ?_
  rw [List.map_append, List.map_append, List.map_map]
  refine .append (.append (List.filter_sublist.map Key.flag) ?_) ?_
  · refine map_key_filterMap_sublist (fun s a ha => ?_) _
    obtain ⟨value, -, rfl⟩ := Option.map_eq_some_iff.mp ha
    rfl
  · refine map_key_filterMap_sublist (fun r a ha => ?_) _
    obtain ⟨-, hvalues⟩ := Option.ite_none_left_eq_some.mp ha
    rw [← Option.some.inj hvalues]
    rfl

/-- No option takes effect twice. -/
theorem nodup_keys_assignments (store : Store) (phase : Phase) :
    ((store.assignments phase).map Assignment.key).Nodup := by
  have hall : effectOrder.Nodup := by decide
  exact hall.sublist (store.keys_assignments_sublist phase)

/-- A setting that is given takes effect once in its phase. -/
theorem exists_assignments_eq {store : Store} {s : Setting} {value : Text}
    (h : store.settings s = some value) :
    ∃ before after, store.assignments s.phase = before ++ .setting s value :: after ∧
      ∀ a ∈ before ++ after, a.key ≠ .setting s := by
  have hmem : Assignment.setting s value ∈ store.assignments s.phase :=
    setting_mem_assignments_iff.mpr ⟨h, rfl⟩
  obtain ⟨before, after, hsplit⟩ := List.append_of_mem hmem
  have hnodup := store.nodup_keys_assignments s.phase
  rw [hsplit, List.map_append, List.map_cons, List.nodup_middle, List.nodup_cons,
    ← List.map_append] at hnodup
  refine ⟨before, after, hsplit, fun a ha hkey => hnodup.1 ?_⟩
  exact List.mem_map.mpr ⟨a, ha, hkey⟩

/-- Of two options of a phase the one that takes effect first comes first among all options. -/
theorem effectOrder_of_assignments_eq {store : Store} {phase : Phase}
    {before after : List Assignment} {a : Assignment}
    (h : store.assignments phase = before ++ a :: after) :
    (∀ b ∈ before, [b.key, a.key].Sublist effectOrder) ∧
      ∀ b ∈ after, [a.key, b.key].Sublist effectOrder := by
  have horder := store.keys_assignments_sublist phase
  rw [h, List.map_append, List.map_cons] at horder
  refine ⟨fun b hb => List.Sublist.trans ?_ horder, fun b hb => List.Sublist.trans ?_ horder⟩
  · exact .append (List.singleton_sublist.mpr (List.mem_map_of_mem hb))
      (List.singleton_sublist.mpr List.mem_cons_self)
  · refine List.Sublist.trans ?_ (List.sublist_append_right _ _)
    exact .cons_cons _ (List.singleton_sublist.mpr (List.mem_map_of_mem hb))

/-- Whether a numeric option has a value that it cannot read. -/
def HasUnreadableNumber (store : Store) : Prop :=
  ∃ s ∈ Setting.all, s.isNumeric = true ∧ ∃ value ∈ store.settings s, IsUnreadable value

instance (store : Store) : Decidable store.HasUnreadableNumber :=
  inferInstanceAs (Decidable (∃ s ∈ Setting.all, _ ∧ _))

theorem hasUnreadableNumber_iff {store : Store} :
    store.HasUnreadableNumber ↔ ∃ a ∈ store.assignments .init, a.HoldsUnreadable := by
  constructor
  · rintro ⟨s, -, hnumeric, value, hvalue, hunreadable⟩
    have hinit : s.phase = .init := by
      cases s <;> first | rfl | exact absurd hnumeric (by decide)
    exact ⟨.setting s value, setting_mem_assignments_iff.mpr ⟨hvalue, hinit⟩, hnumeric,
      hunreadable⟩
  · rintro ⟨a, ha, hunreadable⟩
    cases a with
    | flag f => exact absurd hunreadable id
    | repeated r values => exact absurd hunreadable id
    | setting s value =>
      exact ⟨s, Setting.mem_all s, hunreadable.1, value, (setting_mem_assignments_iff.mp ha).1,
        hunreadable.2⟩

end Store

namespace Pass

/-- A pass over options of the `init` phase stops at an unreadable value and at nothing else.  The
invariant is that the gap is the one a style starts with, as long as the gap factor is still to
come. -/
theorem fault_run_init {assignments : List Assignment}
    (hphase : ∀ a ∈ assignments, a.phase = .init)
    (hnodup : (assignments.map Assignment.key).Nodup) {style : Style}
    (hgap : Key.setting .gapFactor ∈ assignments.map Assignment.key → style.barGap = .ofNat 1) :
    ((run style assignments).fault = none ∧ ∀ a ∈ assignments, ¬a.HoldsUnreadable) ∨
      (∃ fault, (run style assignments).fault = some (.number fault)) ∧
        ∃ a ∈ assignments, a.HoldsUnreadable := by
  induction assignments generalizing style with
  | nil => exact .inl ⟨rfl, by simp⟩
  | cons a rest ih =>
    by_cases ha : a.HoldsUnreadable
    · obtain ⟨fault, hfault⟩ := Assignment.update_of_holdsUnreadable ha style
      refine .inr ⟨⟨fault, ?_⟩, a, by simp, ha⟩
      rw [run_cons, hfault]
    · rw [List.map_cons, List.nodup_cons] at hnodup
      obtain ⟨style', hupdate, hkept⟩ :=
        Assignment.update_of_not_holdsUnreadable (hphase a (by simp)) ha
          fun hkey => hgap (by simp [hkey])
      have hgap' : Key.setting .gapFactor ∈ rest.map Assignment.key →
          style'.barGap = .ofNat 1 := by
        intro hmem
        have hne : a.key ≠ .setting .gapFactor := fun hkey => hnodup.1 (hkey ▸ hmem)
        rw [hkept hne, hgap (List.mem_cons_of_mem _ hmem)]
      have hrun : run style (a :: rest) = run style' rest := by rw [run_cons, hupdate]
      rw [hrun]
      rcases ih (fun b hb => hphase b (by simp [hb])) hnodup.2 hgap' with
        ⟨hnone, hall⟩ | ⟨hsome, b, hb, hunreadable⟩
      · exact .inl ⟨hnone, List.forall_mem_cons.mpr ⟨ha, hall⟩⟩
      · exact .inr ⟨hsome, b, List.mem_cons_of_mem a hb, hunreadable⟩

/-- The pass over the options of the `init` phase that a compilation makes. -/
theorem fault_run_assignments_init (store : Store) :
    ((run {} (store.assignments .init)).fault = none ∧ ¬store.HasUnreadableNumber) ∨
      (∃ fault, (run {} (store.assignments .init)).fault = some (.number fault)) ∧
        store.HasUnreadableNumber := by
  rw [Store.hasUnreadableNumber_iff]
  have hgap : ({} : Style).barGap = .ofNat 1 := by dsimp only
  have hrun := fault_run_init (fun _ => Store.phase_of_mem_assignments)
    (store.nodup_keys_assignments .init) fun _ => hgap
  simpa using hrun

end Pass

/-! ## Failures without a report -/

/-- Whether the last value that lines give to a numeric option is unreadable. -/
def HasUnreadableNumber (lines : List Text) : Prop :=
  ∃ s ∈ Setting.all, s.isNumeric = true ∧ ∃ value ∈ lastValue s lines, IsUnreadable value

instance (lines : List Text) : Decidable (HasUnreadableNumber lines) :=
  inferInstanceAs (Decidable (∃ s ∈ Setting.all, _ ∧ _))

theorem hasUnreadableNumber_store_iff {lines : List Text} :
    (Description.ofLines lines).store.HasUnreadableNumber ↔ HasUnreadableNumber lines := by
  simp only [Store.HasUnreadableNumber, HasUnreadableNumber, Description.settings_ofLines]

namespace Description

theorem initialStyle_cases (d : Description) :
    ((∃ style, d.initialStyle = .ok style) ∧ ¬d.store.HasUnreadableNumber) ∨
      (∃ fault, d.initialStyle = .error (.number fault)) ∧ d.store.HasUnreadableNumber := by
  rw [initialStyle_eq]
  rcases hrun : Pass.run {} (d.store.assignments .init) with ⟨style, fault⟩
  have hcases := Pass.fault_run_assignments_init d.store
  rw [hrun] at hcases
  rcases hcases with ⟨rfl, hreadable⟩ | ⟨⟨fault, rfl⟩, hunreadable⟩
  · exact .inl ⟨⟨_, rfl⟩, hreadable⟩
  · exact .inr ⟨⟨fault, rfl⟩, hunreadable⟩

/-- Of the faults of a script only an unreadable number is not reported. -/
theorem exists_failure_eq_unreported_iff (d : Description) (backend : List Text)
    (sourceName : Option Text) :
    (∃ fault cause, d.script backend = .error cause ∧
      d.failure sourceName cause = .unreported fault) ↔ d.store.HasUnreadableNumber := by
  constructor
  · rintro ⟨fault, cause, hscript, hfailure⟩
    rcases script_eq_error_iff.mp hscript with ⟨option, hinitial, -⟩ |
      ⟨initial, option, -, hfinal, rfl⟩ | ⟨initial, final, rows, -, -, hdata, rfl⟩
    · rcases d.initialStyle_cases with ⟨⟨style, hstyle⟩, -⟩ | ⟨-, hunreadable⟩
      · exact absurd (hstyle.symm.trans hinitial) (by simp)
      · exact hunreadable
    · obtain ⟨value, column, -, -, rfl⟩ := finalStyle_eq_error_iff.mp hfinal
      exact absurd hfailure (by simp [failure, CompileFault.report?])
    · obtain ⟨-, rfl⟩ := Dataset.finalize_eq_error_iff.mp hdata
      exact absurd hfailure (by simp [failure, CompileFault.report?])
  · intro hunreadable
    rcases d.initialStyle_cases with ⟨-, hreadable⟩ | ⟨⟨number, hinitial⟩, -⟩
    · exact absurd hunreadable hreadable
    · exact ⟨_, _, script_eq_error_iff.mpr (.inl ⟨_, hinitial, rfl⟩), rfl⟩

end Description

/-- A compilation fails without a report exactly when a numeric option cannot read its value. -/
theorem compile_eq_unreported_iff {lines : List Text} {options : CompileOptions} :
    (∃ fault, compile lines options = .error (.unreported fault)) ↔
      HasUnreadableNumber (lines ++ options.extra) := by
  rw [← hasUnreadableNumber_store_iff,
    ← Description.exists_failure_eq_unreported_iff _ options.backend options.sourceName]
  refine exists_congr fun fault => compile_eq_error_iff.trans (exists_congr fun cause => ?_)
  rw [eq_comm (a := CompileFailure.unreported fault)]

/-- A separator that ends no line is the last of the four. -/
theorem eq_of_isSeparatorControl {c : CodePoint} (h : isSeparatorControl c = true)
    (hbreak : Text.isLineBreak c = false) : c = CodePoint.char '\x1F' := by
  rw [isSeparatorControl, Bool.and_eq_true, decide_eq_true_iff, decide_eq_true_iff] at h
  have hcode : c.code = 0x1F := by
    rw [Text.isLineBreak, Bool.eq_false_iff, ne_eq, Text.CodeRanges.contains_iff] at hbreak
    have hthird : ¬(0x1C ≤ c.code ∧ c.code ≤ 0x1E) := fun hrange =>
      hbreak ⟨(0x1C, 0x1E), by decide, hrange⟩
    omega
  cases c with
  | char c => exact congrArg CodePoint.char (Char.toNat_inj.mp hcode)
  | half index => exact absurd hcode (by simp only [CodePoint.code, CodePoint.firstHalf]; omega)

/-- An unreadable value has a separator in it, and then so has its line. -/
theorem exists_separator_of_hasUnreadableNumber {lines : List Text}
    (h : HasUnreadableNumber lines) :
    ∃ line ∈ lines, ∃ c ∈ line, isSeparatorControl c = true := by
  obtain ⟨s, -, -, value, hvalue, blanks, numeral, rfl, -, ⟨c, hc, hseparator⟩, -⟩ := h
  obtain ⟨line, hline, hread⟩ := exists_line_of_lastValue hvalue
  refine ⟨line, hline, c, ?_, hseparator⟩
  exact Line.subset_of_read_eq_setting hread (List.mem_append_left numeral hc)

/-- **When numeric options fail.**  Every value is read as a finite number unless it is a numeral
behind a separator U+001C to U+001F.  The options of the `init` phase take effect unless a numeric
one has such a value, and a compilation fails without a report exactly when the last value of a
numeric option is such.  So it cannot happen in a text without U+001F, extra lines aside. -/
theorem numeric_options_fail_iff (value : Text) (store : Store) (lines : List Text) (text : Text)
    (options : CompileOptions) :
    ((∃ number, leadingNumber value = .ok number ∧ number.isFinite = true) ↔
      ¬IsUnreadable value) ∧
    ((Pass.run {} (store.assignments .init)).fault = none ↔ ¬store.HasUnreadableNumber) ∧
    ((∃ fault, compile lines options = .error (.unreported fault)) ↔
      HasUnreadableNumber (lines ++ options.extra)) ∧
    ((∃ fault, compileText text options = .error (.unreported fault)) →
      CodePoint.char '\x1F' ∈ text ∨
        ∃ line ∈ options.extra, ∃ c ∈ line, isSeparatorControl c = true) := by
  refine ⟨?_, ?_, compile_eq_unreported_iff, fun h => ?_⟩
  · rcases leadingNumber_cases value with ⟨hunreadable, fault, h⟩ | ⟨hreadable, negative, m, h⟩
    · simp [h, hunreadable]
    · simp [h, hreadable, Binary64.isFinite]
  · rcases Pass.fault_run_assignments_init store with ⟨h, hreadable⟩ | ⟨⟨fault, h⟩, hunreadable⟩
    · simp [h, hreadable]
    · simp [h, hunreadable]
  · obtain ⟨line, hline, c, hc, hseparator⟩ :=
      exists_separator_of_hasUnreadableNumber (compile_eq_unreported_iff.mp h)
    rcases List.mem_append.mp hline with hline | hextra
    · have hbreak := Text.isLineBreak_of_mem_linesFrom (by simp) line hline c hc
      obtain rfl := eq_of_isSeparatorControl hseparator hbreak
      rcases Text.mem_of_mem_linesFrom line hline _ hc with hnil | htext
      · exact absurd hnil List.not_mem_nil
      · exact .inl htext
    · exact .inr ⟨line, hextra, c, hc, hseparator⟩

/-- A zero behind a separator stops a compilation; an infinite number, an undefined one, or a
separator that no numeral follows do not. -/
theorem separator_before_zero :
    let bad : Text := "intra_space_mul=\x1f0\na 1\n"
    let good : List Text := ["intra_space_mul=1e999", "rotateby=\x1fnan", "a 1"]
    ((¬∃ number, leadingNumber "\x1f0" = .ok number ∧ number.isFinite = true) ∧
      (∃ fault, compileText bad {} = .error (.unreported fault)) ∧
      (CodePoint.char '\x1F' ∈ bad ∨
        ∃ line ∈ ([] : List Text), ∃ c ∈ line, isSeparatorControl c = true)) ∧
    (∃ number, leadingNumber "1e999" = .ok number ∧ number.isFinite = true) ∧
    (Pass.run {} ((Description.ofLines good).store.assignments .init)).fault = none ∧
    ¬∃ fault, compile good {} = .error (.unreported fault) := by
  intro bad good
  obtain ⟨hzero, -, hfault, hseparator⟩ :=
    numeric_options_fail_iff "\x1f0" {} bad.splitLines bad {}
  obtain ⟨hlarge, hpass, hcompile, -⟩ :=
    numeric_options_fail_iff "1e999" (Description.ofLines good).store good [] {}
  have hbad : ∃ fault, compileText bad {} = .error (.unreported fault) :=
    hfault.mpr (by decide)
  have hgood : ¬HasUnreadableNumber (good ++ []) := by decide
  refine ⟨⟨fun h => hzero.mp h (by decide), hbad, hseparator hbad⟩, hlarge.mpr (by decide),
    hpass.mpr (by decide), fun h => hgood (hcompile.mp h)⟩

end ChartScript
