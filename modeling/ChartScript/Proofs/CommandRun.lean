import ChartScript.Proofs.LogErasure
import ChartScript.Proofs.Warnings

/-!
# A whole script or nothing

A run of the command reads the settings, reads the description, compiles it and writes the script,
and each of these stages can fail.  What a caller relies on is that the standard output gets a whole
script or nothing at all, whatever happened; half a script would be plotted as if it were one.

The difficulty is not in any of the stages but in saying what the script is *of*.  The options of a
compilation come from two places, the arguments and the settings, and arguments are interpreted in
one pass that also looks for the help, the version and the file.  `CommandLine.valuesOf` lists what
the arguments give to a switch and looks at nothing else; `linesOf_parse` says that an invocation
has exactly these, in this order.  So `Command.optionsOf` can be stated from the arguments, and the
result does not trust the interpreter that it is about.  A switch whose attached value is dropped
gives none, which is why the values are optional: whether a double dash is such a value depends on
the platform (`Platform.dropsDoubleDash`), and the statements hold for either.

`Command.Succeeds` and `Command.Raises` are the two ways in which the stages can end that are about
the input.  `Raises` carries the lines that had been taken in when the fault occurred, since the
warnings that are shown with a fault are about them.  That no stage looks at the level of log
records is used throughout: by `stages_fst` the stages come to the same as the compilation under the
default level, for which the stages are taken apart elsewhere.

`Command.script_or_nothing` is stated for every workspace, and so for every platform: what a trace
looks like, or a complaint of a reader, is not settled here.  The text after a fault therefore has
the trace that the platform gives it, and only its excerpt is the program's own.  One exception is
real: a script that holds half of a surrogate pair succeeds and still cannot be written.
-/

set_option autoImplicit false

namespace ChartScript

/-! ## The values of a switch -/

namespace CommandLine

/-- The value of a switch: the text attached to it, or else the word behind it. -/
def valueOf (drops : Bool) : Option Text → List Token → Option Text
  | some text, _ => attachedValue drops text
  | none, .word text :: _ => some text
  | none, _ => none

/-- The values that a switch gets, in order.  After a double dash there are no switches. -/
def valuesIn (drops : Bool) (s : Switch) : List Token → List (Option Text)
  | [] => []
  | .separator :: _ => []
  | .word _ :: rest | .unknown _ :: rest => valuesIn drops s rest
  | .switch given _ attached :: rest =>
    (if given = s then [valueOf drops attached rest] else []) ++ valuesIn drops s rest

namespace Invocation

/-- The lines that an invocation takes in by a switch. -/
def linesOf (i : Invocation) : Switch → List (Option Text)
  | .extra => i.extra
  | .backend => i.backend
  | _ => []

theorem linesOf_assign {i j : Invocation} {s given : Switch} {value : Option Text}
    (hs : s = .extra ∨ s = .backend) (h : i.assign given value = .ok j) :
    j.linesOf s = i.linesOf s ++ if given = s then [value] else [] := by
  cases given with
  | extra | backend | config | help | verbose | manual | version =>
    obtain rfl := Except.ok.inj h
    rcases hs with rfl | rfl <;> simp [linesOf]
  | logLevel =>
    have hj : j = { i with logLevel := j.logLevel } := by
      unfold assign at h
      dsimp only at h
      split at h
      · rw [← Except.ok.inj h]
      · split at h
        · rw [← Except.ok.inj h]
        · exact absurd h (by simp)
    rw [hj]
    rcases hs with rfl | rfl <;> simp [linesOf]

/-- A switch without a value has no effect on the lines, unless it asks for the help or the
version. -/
theorem flag_cases (i : Invocation) (given s : Switch) :
    (∃ j, i.flag given = .goOn j ∧ j.linesOf s = i.linesOf s) ∨
      i.flag given = .stop .help ∨ i.flag given = .stop .version := by
  cases given with
  | help => exact .inr (.inl rfl)
  | version => exact .inr (.inr rfl)
  | verbose | manual | extra | backend | config | logLevel =>
    refine .inl ⟨_, rfl, ?_⟩
    cases s <;> rfl

theorem flags_cases (i : Invocation) (given : List Switch) (s : Switch) :
    (∃ j, i.flags given = .goOn j ∧ j.linesOf s = i.linesOf s) ∨
      i.flags given = .stop .help ∨ i.flags given = .stop .version := by
  induction given generalizing i with
  | nil => exact .inl ⟨i, rfl, rfl⟩
  | cons first rest ih =>
    rw [flags]
    rcases i.flag_cases first s with ⟨j, hj, hlines⟩ | hstop | hstop
    · rw [hj, ← hlines]
      exact ih j
    · exact .inr (.inl (by rw [hstop]))
    · exact .inr (.inr (by rw [hstop]))

end Invocation

theorem linesOf_finish (p : Progress) (words : List Text) (s : Switch) :
    (finish p words).invocation.linesOf s = p.invocation.linesOf s := by
  unfold finish
  split
  · cases s <;> rfl
  · rfl
  · rfl

/-- Interpreting arguments adds the lines that they give, in order, unless they ask for the help or
the version. -/
theorem interpret_cases {s : Switch} (hs : s = .extra ∨ s = .backend) {drops : Bool}
    {p : Progress} {tokens : List Token} {result : Request ⊕ Progress}
    (h : interpret drops p tokens = .ok result) :
    (∃ q, result = .inr q ∧
      q.invocation.linesOf s = p.invocation.linesOf s ++ valuesIn drops s tokens) ∨
      result = .inl .help ∨ result = .inl .version := by
  have hflags : ∀ given : Switch, ¬given.takesValue = true → ∀ spelling attached rest,
      valuesIn drops s (.switch given spelling attached :: rest) = valuesIn drops s rest := by
    intro given hgiven spelling attached rest
    have hne : given ≠ s := by
      rintro rfl
      rcases hs with rfl | rfl <;> exact hgiven rfl
    rw [valuesIn, if_neg hne, List.nil_append]
  -- a word that a switch takes as its value gives nothing by itself, so `valuesIn` may visit it
  fun_induction interpret drops p tokens with
  | case1 p => exact .inl ⟨p, (Except.ok.inj h).symm, (List.append_nil _).symm⟩
  | case2 p rest =>
    refine .inl ⟨_, (Except.ok.inj h).symm, ?_⟩
    rw [linesOf_finish, valuesIn, List.append_nil]
  | case3 p text rest ih => exact ih h
  | case4 p text rest file hfile ih => exact ih h
  | case5 p text words hfile =>
    refine .inl ⟨_, (Except.ok.inj h).symm, ?_⟩
    rw [valuesIn, valuesIn, List.append_nil]
    cases s <;> rfl
  | case6 p text rest hfile hrest ih =>
    have hlines : ({ p.invocation with file := some text } : Invocation).linesOf s =
        p.invocation.linesOf s := by cases s <;> rfl
    rw [valuesIn, ← hlines]
    exact ih h
  | case7 p given spelling text rest htakes ih =>
    obtain ⟨i, hassign, h⟩ := bind_eq_ok_iff.mp h
    rw [valuesIn, ← List.append_assoc, valueOf, ← Invocation.linesOf_assign hs hassign]
    exact ih i h
  | case8 p given spelling text rest htakes ih =>
    obtain ⟨switches, -, h⟩ := bind_eq_ok_iff.mp h
    rcases p.invocation.flags_cases switches s with ⟨i, hi, hlines⟩ | hstop | hstop
    · rw [hi] at h
      rw [hflags given htakes, ← hlines]
      exact ih i h
    · rw [hstop] at h
      exact .inr (.inl (Except.ok.inj h).symm)
    · rw [hstop] at h
      exact .inr (.inr (Except.ok.inj h).symm)
  | case9 p given spelling htakes text rest ih =>
    obtain ⟨i, hassign, h⟩ := bind_eq_ok_iff.mp h
    rw [valuesIn, ← List.append_assoc, valueOf, ← Invocation.linesOf_assign hs hassign]
    exact ih i h
  | case10 p given spelling rest htakes hrest => exact absurd h (by simp)
  | case11 p given spelling rest htakes request hflag =>
    rcases p.invocation.flag_cases given s with ⟨i, hi, -⟩ | hstop | hstop
    · exact absurd (hflag.symm.trans hi) (by simp)
    · rw [Step.stop.inj (hflag.symm.trans hstop)] at h
      exact .inr (.inl (Except.ok.inj h).symm)
    · rw [Step.stop.inj (hflag.symm.trans hstop)] at h
      exact .inr (.inr (Except.ok.inj h).symm)
  | case12 p given spelling rest htakes i hflag ih =>
    rcases p.invocation.flag_cases given s with ⟨j, hj, hlines⟩ | hstop | hstop
    · obtain rfl : i = j := Step.goOn.inj (hflag.symm.trans hj)
      rw [hflags given htakes, ← hlines]
      exact ih h
    · exact absurd (hflag.symm.trans hstop) (by simp)
    · exact absurd (hflag.symm.trans hstop) (by simp)

/-- The values that arguments give to a switch, in the order of the arguments. -/
def valuesOf (drops : Bool) (s : Switch) (arguments : List Text) : List (Option Text) :=
  match Token.readAll arguments with
  | .ok tokens => valuesIn drops s tokens
  | .error _ => []

/-- An invocation has the lines that the arguments give, in order. -/
theorem linesOf_parse {s : Switch} (hs : s = .extra ∨ s = .backend) {drops : Bool}
    {arguments : List Text} {i : Invocation} (h : parse drops arguments = .ok (.invoke i)) :
    i.linesOf s = valuesOf drops s arguments := by
  obtain ⟨tokens, htokens, h⟩ := bind_eq_ok_iff.mp h
  obtain ⟨result, hinterpret, h⟩ := bind_eq_ok_iff.mp h
  rw [valuesOf, htokens]
  rcases interpret_cases hs hinterpret with ⟨q, rfl, hlines⟩ | rfl | rfl
  · have hq : q.invocation = i := by
      dsimp only at h
      split at h
      · exact Request.invoke.inj (Except.ok.inj h)
      · exact absurd h (by simp [throw, throwThe, MonadExceptOf.throw])
    rw [← hq, hlines]
    rcases hs with rfl | rfl <;> rfl
  · exact absurd h (by simp [pure, Except.pure])
  · exact absurd h (by simp [pure, Except.pure])

end CommandLine

/-! ## The stages of a run -/

namespace Command

open CommandLine

/-- The values that arguments give to a switch on the platform of a workspace. -/
def given (w : Workspace) (s : Switch) (arguments : List Text) : List (Option Text) :=
  valuesOf w.platform.dropsDoubleDash s arguments

/-- What a compilation takes besides the description: lines that arguments give come before those of
the settings. -/
def optionsOf (w : Workspace) (arguments : List Text) (i : Invocation) (s : Settings) :
    CompileOptions :=
  { extra := (given w .extra arguments).filterMap id ++ s.extra
    backend := (given w .backend arguments).filterMap id ++ s.backend
    sourceName := some (Source.ofArgument i.file).name }

/-- The stages before the compilation succeed. -/
structure Begins (w : Workspace) (i : Invocation) (s : Settings) (lines : List Text) : Prop where
  settings : Command.settings w i = .ok s
  lines : sourceLines w i = .ok lines

/-- All stages succeed: there are settings, the description is read, and with no value missing it
compiles. -/
structure Succeeds (w : Workspace) (arguments : List Text) (i : Invocation) (compiled : Compiled) :
    Prop where
  begins : ∃ s lines, Begins w i s lines ∧
    compile lines (optionsOf w arguments i s) = .ok compiled
  extra : none ∉ given w .extra arguments
  backend : none ∉ given w .backend arguments

/-- A stage ends in a fault.  The lines are those that were taken in until then. -/
inductive Raises (w : Workspace) (arguments : List Text) (i : Invocation) :
    Fault → List Text → Prop
  | settings {fault : Fault} (h : Command.settings w i = .error (.fault fault)) :
      Raises w arguments i fault []
  | source {s : Settings} {fault : Fault} (hsettings : Command.settings w i = .ok s)
      (h : sourceLines w i = .error (.fault fault)) : Raises w arguments i fault []
  | compile {s : Settings} {lines : List Text} {report : Report} (hbegins : Begins w i s lines)
      (hextra : none ∉ given w .extra arguments)
      (h : ChartScript.compile lines (optionsOf w arguments i s) = .error (.reported report)) :
      Raises w arguments i (.report report) (lines ++ (optionsOf w arguments i s).extra)

/-- What the stages come to does not depend on the threshold that they log under. -/
theorem stages_fst (w : Workspace) (i : Invocation) :
    (stages w i).1 = (settings w i).bind fun s => (compileSourceM w i s).run.value := by
  rw [stages]
  cases settings w i with
  | error failure => rfl
  | ok s => exact (isSteady_compileSourceM w i s).result _

theorem stages_of_settings_error {w : Workspace} {i : Invocation} {failure : Failure}
    (h : settings w i = .error failure) : (stages w i).1 = .error failure := by
  rw [stages_fst, h]
  rfl

theorem stages_of_source_error {w : Workspace} {i : Invocation} {s : Settings}
    {failure : Failure} (hsettings : settings w i = .ok s)
    (h : sourceLines w i = .error failure) : (stages w i).1 = .error failure := by
  rw [stages_fst, hsettings]
  show (compileSourceM w i s).run.value = _
  rw [compileSourceM, Logging.value_run_bind, Logging.value_known, h]
  rfl

theorem missingPosition?_eq_none_iff {i : Invocation} {script : Script} :
    missingPosition? i script = none ↔ none ∉ i.backend := by
  rw [missingPosition?, Option.map_eq_none_iff, List.findIdx?_eq_none_iff]
  constructor
  · intro h hmem
    exact absurd (h none hmem) (by simp)
  · intro h value hvalue
    cases value with
    | none => exact absurd hvalue h
    | some text => rfl

/-- What happens once there are settings and lines. -/
theorem stages_of_begins {w : Workspace} {i : Invocation} {s : Settings} {lines : List Text}
    (hbegins : Begins w i s lines) :
    (stages w i).1 =
      if none ∈ i.extra then .error (.breakdown .missingLine)
      else
        match compile lines (compileOptions i s) with
        | .error failure => .error (.ofCompile failure)
        | .ok compiled =>
          match missingPosition? i compiled.script with
          | some position => .error (.breakdown (.missingScriptLine position))
          | none => .ok compiled := by
  rw [stages_fst, hbegins.settings]
  show (compileSourceM w i s).run.value = _
  rw [compileSourceM, Logging.value_run_bind, Logging.value_known, hbegins.lines]
  simp only [Except.bind, List.contains_iff_mem]
  split
  · rfl
  · rw [Logging.value_run_bind, Logging.value_adapt, ← compile]
    cases compile lines (compileOptions i s) with
    | error failure => rfl
    | ok compiled =>
      show (match missingPosition? i compiled.script with
        | some position => throw (.breakdown (.missingScriptLine position))
        | none => pure compiled : ExceptT Failure Logging Compiled).run.value = _
      dsimp only
      cases missingPosition? i compiled.script <;> rfl

section Stages

variable {w : Workspace} {arguments : List Text} {i : Invocation}
  (hrequest : request w arguments = .ok (.invoke i))

include hrequest

theorem extra_eq_given : i.extra = given w .extra arguments := linesOf_parse (.inl rfl) hrequest

theorem backend_eq_given : i.backend = given w .backend arguments :=
  linesOf_parse (.inr rfl) hrequest

theorem compileOptions_eq (s : Settings) : compileOptions i s = optionsOf w arguments i s := by
  rw [compileOptions, extra_eq_given hrequest, backend_eq_given hrequest]
  rfl

theorem stages_eq_ok_iff {compiled : Compiled} :
    (stages w i).1 = .ok compiled ↔ Succeeds w arguments i compiled := by
  have hextra := extra_eq_given hrequest
  have hbackend := backend_eq_given hrequest
  constructor
  · intro h
    cases hsettings : settings w i with
    | error failure => exact absurd ((stages_of_settings_error hsettings).symm.trans h) (by simp)
    | ok s =>
      cases hlines : sourceLines w i with
      | error failure =>
        exact absurd ((stages_of_source_error hsettings hlines).symm.trans h) (by simp)
      | ok lines =>
        rw [stages_of_begins ⟨hsettings, hlines⟩, compileOptions_eq hrequest, hextra] at h
        split at h
        · exact absurd h (by simp)
        · next hgiven =>
          split at h
          · exact absurd h (by simp)
          · next hcompile =>
            split at h
            · exact absurd h (by simp)
            · next hposition =>
              obtain rfl := Except.ok.inj h
              rw [missingPosition?_eq_none_iff, hbackend] at hposition
              exact ⟨⟨s, lines, ⟨hsettings, hlines⟩, hcompile⟩, hgiven, hposition⟩
  · rintro ⟨⟨s, lines, hbegins, hcompile⟩, hgiven, hpassed⟩
    have hposition : missingPosition? i compiled.script = none := by
      rw [missingPosition?_eq_none_iff, hbackend]
      exact hpassed
    rw [stages_of_begins hbegins, compileOptions_eq hrequest, hextra, if_neg hgiven, hcompile]
    dsimp only
    rw [hposition]

theorem stages_of_raises {fault : Fault} {taken : List Text}
    (h : Raises w arguments i fault taken) : (stages w i).1 = .error (.fault fault) := by
  cases h with
  | settings h => exact stages_of_settings_error h
  | source hsettings h => exact stages_of_source_error hsettings h
  | compile hbegins hgiven h =>
    rw [stages_of_begins hbegins, compileOptions_eq hrequest, extra_eq_given hrequest,
      if_neg hgiven, h]
    rfl

end Stages

/-! ## What a run writes -/

theorem faultWarnings_of_settings_error {w : Workspace} {i : Invocation} {fault : Fault}
    (h : settings w i = .error (.fault fault)) : faultWarnings fault = [] := by
  rw [settings] at h
  split at h
  · exact absurd h (by simp)
  · obtain ⟨⟨path, cause⟩, -, hcause⟩ := exists_of_mapError_eq_error h
    dsimp only at hcause
    rw [Failure.ofSettings, SettingsFault.report?] at hcause
    split at hcause
    · next hreport =>
      split at hreport
      · rw [← Failure.fault.inj hcause, ← Option.some.inj hreport]
        rfl
      · exact absurd hreport (by simp)
    · exact absurd hcause (by simp)

theorem faultWarnings_of_source_error {w : Workspace} {i : Invocation} {fault : Fault}
    (h : sourceLines w i = .error (.fault fault)) : faultWarnings fault = [] := by
  obtain ⟨cause, -, hcause⟩ := exists_of_mapError_eq_error h
  rw [Failure.ofSource] at hcause
  cases cause with
  | tooLong path => exact absurd hcause (by simp [SourceFault.fault?])
  | input | notFound | undecodable | isDirectory | denied =>
    rw [← Failure.fault.inj hcause]
    rfl

/-- The warnings that come with a fault are about the lines that were taken in. -/
theorem faultWarnings_of_raises {w : Workspace} {arguments : List Text} {i : Invocation}
    {fault : Fault} {taken : List Text} (h : Raises w arguments i fault taken) :
    ∃ ignored : List Text, ignored.Perm (ignoredTexts taken) ∧
      faultWarnings fault = ignored.map (Text.ofString "ignored parameter: " ++ ·) := by
  cases h with
  | settings h => exact ⟨[], List.Perm.refl _, faultWarnings_of_settings_error h⟩
  | source _ h => exact ⟨[], List.Perm.refl _, faultWarnings_of_source_error h⟩
  | compile hbegins hgiven h =>
    have hwarnings := eq_of_deliveredWarnings_eq_some (congrArg deliveredWarnings h)
    rw [faultWarnings, hwarnings]
    exact Description.exists_perm_warnings_ofLines _

theorem faultOutcome_of_not_passedOn {w : Workspace} (i : Invocation) (fault : Fault)
    (h : w.env.passesFaultsOn = false) :
    let verbose := w.env.isVerbose i.verbose
    faultOutcome w i fault =
      ⟨[], warningTexts (faultWarnings fault) ++
        [.text (fault.text verbose
          (if verbose then some (traceExcerpt (w.platform.trace fault)) else none) ++ "\n")],
        .exit 1⟩ := by
  intro verbose
  rw [faultOutcome, Fault.handle, if_neg (by simp [h])]
  rfl

end Command

/-- A text can be written exactly when it holds no half of a surrogate pair. -/
theorem Text.Utf8.gap?_eq_none_iff {t : Text} : gap? t = none ↔ ∀ c ∈ t, c.isHalf = false := by
  rw [gap?]
  generalize 0 = position
  induction t generalizing position with
  | nil => simp [gapFrom?]
  | cons c t ih =>
    cases c with
    | char c =>
      rw [gapFrom?, ih, List.forall_mem_cons]
      simp [CodePoint.isHalf]
    | half index => simp [gapFrom?, CodePoint.isHalf]

/-- The text of a message that is no log record. -/
def Message.text? : Message → Option Text
  | .record _ => none
  | .text shown => some shown

/-- What is written to the standard error, log records apart. -/
def Outcome.shown (o : Outcome) : List Text := o.messages.filterMap Message.text?

theorem Script.text_ne_nil (s : Script) : s.text ≠ [] := by
  rw [Script.text]
  simp [Text.ofString, Text.ofChars]

/-- A report as it is shown in verbose output. -/
theorem Fault.text_report (report : Report) (trace : Text) :
    (Fault.report report).text true (some trace) =
      "Error: " ++ report.format ++ "\n" ++ "\nTraceback:" ++ "\n" ++ trace := by
  rw [Fault.text]
  simp [Fault.lines, Text.join, List.intercalate_cons_cons]

namespace Command

open CommandLine

theorem shown_warningTexts (warnings : List Text) :
    (warningTexts warnings).filterMap Message.text? =
      warnings.map fun (text : Text) => "warning: " ++ text ++ "\n" := by
  rw [warningTexts, List.filterMap_map]
  exact congrFun List.filterMap_eq_map warnings

theorem filterMap_text?_records (records : List Record) (messages : List Message) :
    (records.map Message.record ++ messages).filterMap Message.text? =
      messages.filterMap Message.text? := by
  rw [List.filterMap_append, List.filterMap_map]
  simp [Function.comp_def, Message.text?]

/-- Log records have no part in what else is written. -/
theorem execute_eq (w : Workspace) {i : Invocation} (hmanual : i.manual = false) :
    (execute w i).output = (outcomeOf w i (stages w i).1).output ∧
      (execute w i).shown = (outcomeOf w i (stages w i).1).shown ∧
      (execute w i).ending = (outcomeOf w i (stages w i).1).ending := by
  rw [execute, if_neg (by simp [hmanual])]
  exact ⟨rfl, filterMap_text?_records _ _, rfl⟩

theorem run_eq_execute {w : Workspace} {arguments : List Text} {i : Invocation}
    (h : request w arguments = .ok (.invoke i)) : run w arguments = execute w i := by
  rw [run, h]

theorem scriptOutcome_of_writable {compiled : Compiled}
    (h : ∀ c ∈ compiled.script.text, c.isHalf = false) :
    scriptOutcome compiled = ⟨compiled.script.text, warningTexts compiled.warnings, .exit 0⟩ := by
  rw [scriptOutcome, Text.Utf8.gap?_eq_none_iff.mpr h]

/-- Half of a script is never written. -/
theorem output_scriptOutcome_ne_nil_iff {compiled : Compiled} :
    (scriptOutcome compiled).output ≠ [] ↔ ∀ c ∈ compiled.script.text, c.isHalf = false := by
  constructor
  · intro h
    rw [← Text.Utf8.gap?_eq_none_iff]
    cases hgap : Text.Utf8.gap? compiled.script.text with
    | none => rfl
    | some gap =>
      rw [scriptOutcome, hgap] at h
      exact absurd rfl h
  · intro h
    rw [scriptOutcome_of_writable h]
    exact compiled.script.text_ne_nil

theorem output_faultOutcome (w : Workspace) (i : Invocation) (fault : Fault) :
    (faultOutcome w i fault).output = [] := by
  rw [faultOutcome]
  split
  · rfl
  · rfl

theorem output_outcomeOf_ne_nil_iff {w : Workspace} {i : Invocation}
    {result : Except Failure Compiled} :
    (outcomeOf w i result).output ≠ [] ↔
      ∃ compiled, result = .ok compiled ∧ ∀ c ∈ compiled.script.text, c.isHalf = false := by
  cases result with
  | ok compiled => simpa [outcomeOf] using output_scriptOutcome_ne_nil_iff
  | error failure =>
    refine iff_of_false (not_not.mpr ?_) (by simp)
    cases failure with
    | fault fault => exact output_faultOutcome w i fault
    | breakdown cause => rfl

/-- **A whole script or nothing.**  A run that is not asked for the help, the version or the manual
writes something exactly when there are settings, the description is read and compiles, and the
script holds no half of a surrogate pair.  What it writes is the script: of the lines of the
description, then those that the arguments give and then those of the settings.  After a fault that
is not passed on the run ends with code 1, and it writes one warning for every ignored line that was
taken in, and the fault.  Verbose output shows an excerpt of the trace behind it, whatever the
platform has for a trace. -/
theorem script_or_nothing {w : Workspace} {arguments : List Text} {i : Invocation}
    (hrequest : request w arguments = .ok (.invoke i)) (hmanual : i.manual = false) :
    ((run w arguments).output ≠ [] ↔ ∃ compiled, Succeeds w arguments i compiled ∧
      ∀ c ∈ compiled.script.text, c.isHalf = false) ∧
    (∀ compiled, Succeeds w arguments i compiled → (run w arguments).output ≠ [] →
      (run w arguments).output = compiled.script.text ∧ (run w arguments).ending = .exit 0) ∧
    ∀ fault taken, Raises w arguments i fault taken → w.env.passesFaultsOn = false →
      let verbose := w.env.isVerbose i.verbose
      (run w arguments).output = [] ∧ (run w arguments).ending = .exit 1 ∧
      ∃ ignored : List Text, ignored.Perm (ignoredTexts taken) ∧
        (run w arguments).shown =
          ignored.map (fun (text : Text) => "warning: ignored parameter: " ++ text ++ "\n") ++
            [fault.text verbose
              (if verbose then some (traceExcerpt (w.platform.trace fault)) else none) ++
                "\n"] := by
  obtain ⟨houtput, hshown, hending⟩ := execute_eq w hmanual
  rw [run_eq_execute hrequest]
  refine ⟨?_, fun compiled hsucceeds hwritten => ?_, fun fault taken hraises hpassed => ?_⟩
  · rw [houtput, output_outcomeOf_ne_nil_iff]
    simp only [stages_eq_ok_iff hrequest]
  · have houtcome : outcomeOf w i (stages w i).1 = scriptOutcome compiled := by
      rw [(stages_eq_ok_iff hrequest).mpr hsucceeds, outcomeOf]
    rw [houtput, houtcome] at hwritten ⊢
    rw [hending, houtcome,
      scriptOutcome_of_writable (output_scriptOutcome_ne_nil_iff.mp hwritten)]
    exact ⟨rfl, rfl⟩
  · have hstart : Text.ofString "warning: " ++ Text.ofString "ignored parameter: " =
        Text.ofString "warning: ignored parameter: " := by decide +kernel
    obtain ⟨ignored, hperm, hwarnings⟩ := faultWarnings_of_raises hraises
    have houtcome : outcomeOf w i (stages w i).1 = faultOutcome w i fault := by
      rw [stages_of_raises hrequest hraises, outcomeOf]
    rw [houtput, hending, hshown, houtcome, faultOutcome_of_not_passedOn i fault hpassed]
    refine ⟨rfl, rfl, ignored, hperm, ?_⟩
    rw [Outcome.shown, List.filterMap_append, shown_warningTexts, hwarnings, List.map_map]
    refine congrArg (· ++ [_]) (List.map_congr_left fun text _ => ?_)
    show Text.ofString "warning: " ++ (Text.ofString "ignored parameter: " ++ text) ++ _ = _
    rw [← List.append_assoc, hstart]

/-- A workspace with a configuration file and a standard input. -/
def configured (config input : String) : Workspace where
  directory := ⟨.absolute, []⟩
  find := FileTree.find [(["barchart.json"], some config.toUTF8.data.toList)] ⟨.absolute, []⟩
  input := input.toUTF8.data.toList
  env := fun _ => none

/-- Lines from the arguments and from the settings, and then, with verbose output, a column that
does not exist besides a directive that is ignored. -/
theorem script_or_nothing_configured :
    let w : Workspace :=
      { configured
          ("\x7b\"defaults\": \x7b\"extra\": [\"title=B\"], " ++
            "\"extra_gnuplot\": [\"set b\"]\x7d\x7d")
          "a 1\n" with
        platform := { trace := fun _ => " in a\n in b\n" } }
    let good : List Text := ["--extra", "title=A", "--extra-gnuplot=set a"]
    let bad : List Text := ["--verbose", "--extra", "=zeta", "--extra=column=0"]
    let merged : CompileOptions :=
      { extra := ["title=A", "title=B"], backend := ["set a", "set b"]
        sourceName := some "<stdin>" }
    let faulty : CompileOptions :=
      { extra := ["=zeta", "column=0", "title=B"], backend := ["set b"]
        sourceName := some "<stdin>" }
    (∃ compiled, compile ["a 1"] merged = .ok compiled ∧
      (run w good).output = compiled.script.text ∧ (run w good).ending = .exit 0) ∧
    ∃ report, compile ["a 1"] faulty = .error (.reported report) ∧
      (run w bad).output = [] ∧ (run w bad).ending = .exit 1 ∧
      (run w bad).shown = [Text.ofString "warning: ignored parameter: =zeta\n",
        "Error: " ++ report.format ++ "\n" ++ "\nTraceback:" ++ "\n" ++ "in a\n in b" ++
          "\n"] := by
  intro w good bad merged faulty
  let s : Settings :=
    { extra := ["title=B"], backend := ["set b"], names := ["defaults"]
      source := some ⟨.absolute, ["barchart.json"]⟩ }
  have hsettings : w.settings none = .ok s := by decide +kernel
  have hlines : w.lines .input = .ok ["a 1"] := by decide +kernel
  have hbegins : ∀ extra backend verbose, Begins w { extra, backend, verbose } s ["a 1"] := by
    refine fun extra backend verbose => ⟨?_, ?_⟩
    · show (w.settings none).mapError _ = _
      rw [hsettings, Except.mapError]
    · show (w.lines .input).mapError _ = _
      rw [hlines, Except.mapError]
  constructor
  · let i : Invocation := { extra := [some "title=A"], backend := [some "set a"] }
    have hrequest : request w good = .ok (.invoke i) := by decide +kernel
    have hoptions : optionsOf w good i s = merged :=
      (compileOptions_eq hrequest s).symm.trans (by decide)
    have hall : (compile ["a 1"] merged).map (·.script.text.all fun x => !x.isHalf) = .ok true := by
      decide +kernel
    obtain ⟨compiled, hcompile, hhalf⟩ := exists_of_map_eq_ok hall
    have hsucceeds : Succeeds w good i compiled := by
      refine ⟨⟨s, ["a 1"], hbegins _ _ _, hoptions ▸ hcompile⟩, ?_, ?_⟩
      · rw [← extra_eq_given hrequest]
        decide
      · rw [← backend_eq_given hrequest]
        decide
    obtain ⟨hwritten, hscript, -⟩ := script_or_nothing hrequest rfl
    exact ⟨compiled, hcompile, hscript compiled hsucceeds
      (hwritten.mpr ⟨compiled, hsucceeds, by simpa using hhalf⟩)⟩
  · let i : Invocation := { extra := [some "=zeta", some "column=0"], verbose := true }
    have hrequest : request w bad = .ok (.invoke i) := by decide +kernel
    have hoptions : optionsOf w bad i s = faulty :=
      (compileOptions_eq hrequest s).symm.trans (by decide)
    obtain ⟨report, hcompile⟩ : ∃ report, compile ["a 1"] faulty = .error (.reported report) :=
      exists_eq_reported (by decide +kernel)
    have hraises : Raises w bad i (.report report) ([Text.ofString "a 1"] ++ faulty.extra) := by
      rw [← hoptions] at hcompile ⊢
      refine .compile (hbegins _ _ _) ?_ hcompile
      rw [← extra_eq_given hrequest]
      decide
    obtain ⟨houtput, hending, ignored, hperm, hshown⟩ :=
      (script_or_nothing hrequest rfl).2.2 _ _ hraises rfl
    have htaken : ignoredTexts ([Text.ofString "a 1"] ++ faulty.extra) =
        [Text.ofString "=zeta"] := by decide +kernel
    have hwarning : Text.ofString "warning: ignored parameter: " ++ Text.ofString "=zeta" ++
        Text.ofString "\n" = Text.ofString "warning: ignored parameter: =zeta\n" := by
      decide +kernel
    have hverbose : w.env.isVerbose i.verbose = true := rfl
    have hexcerpt : traceExcerpt " in a\n in b\n" = Text.ofString "in a\n in b" := by decide
    rw [htaken, List.perm_singleton] at hperm
    rw [hperm, List.map_singleton, hwarning, hverbose, if_pos rfl,
      show traceExcerpt (w.platform.trace _) = _ from hexcerpt, Fault.text_report] at hshown
    exact ⟨report, hcompile, houtput, hending, hshown⟩

/-- A title from the settings that is half of a surrogate pair: all stages succeed, but nothing is
written. -/
theorem nothing_for_half_of_pair :
    let w := configured "\x7b\"defaults\": \x7b\"extra\": [\"title=\\ud800\"]\x7d\x7d" "a 1\nb 2\n"
    request w [] = .ok (.invoke {}) ∧ (run w []).ending = .broken (.unwritable ⟨328, 0, 0⟩) ∧
      ¬((run w []).output ≠ [] ↔ ∃ compiled, Succeeds w [] {} compiled) := by
  intro w
  have hrequest : request w [] = .ok (.invoke {}) := rfl
  have hfirst : (stages w {}).1.map (fun c => Text.Utf8.gap? c.script.text) =
      .ok (some ⟨328, 0, 0⟩) := by decide +kernel
  obtain ⟨compiled, hcompiled, hgap⟩ := exists_of_map_eq_ok hfirst
  have houtcome : outcomeOf w {} (stages w {}).1 =
      ⟨[], warningTexts compiled.warnings, .broken (.unwritable ⟨328, 0, 0⟩)⟩ := by
    rw [hcompiled, outcomeOf, scriptOutcome, hgap]
    rfl
  obtain ⟨houtput, -, hending⟩ := execute_eq w (i := {}) rfl
  rw [houtcome] at houtput hending
  rw [run_eq_execute hrequest]
  refine ⟨hrequest, hending, fun h => h.mpr ⟨compiled, ?_⟩ houtput⟩
  exact (stages_eq_ok_iff hrequest).mp hcompiled

end Command
end ChartScript
