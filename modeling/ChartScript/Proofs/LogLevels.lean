import ChartScript.Proofs.CommandRun

/-!
# The level of log records

A run writes log records among its warnings and errors, and the level that is asked for says which.
It can be asked for by an argument, in the environment or in the settings.  This file says that
nothing else depends on it: not the script, not what is shown besides records, not how the run ends;
and that the records themselves are what two levels admit of one and the same list.

The stages of a run are the easier half.  Each is steady in the sense of `Proofs.LogErasure`, so two
runs of the same invocation under two thresholds come to the same, and their logs are filtered from
`allRecords`.  `Outcome.SameResult` collects what is compared.  It asks for a common list of records
and two levels, and not for one log to be a part of the other, since which of the two levels is the
lower one is not known.

The arguments are the harder half, because a level is given by *words* among other words.  To leave
them out is to bring together what stands before and behind, and there are two ways in which that
changes the meaning: a switch in front may take a word behind as its value, and the file in front
may take a double dash behind.  `BelongTogether` is just these two.  That there is no third comes
from taking the interpreter apart in the middle (`inParts_interpret`), by induction over the words
in front; `Joins` is the same on tokens, with what the words in front come to by themselves.

Two definitions keep the induction small.  `Invocation.quiet` forgets the level, and comparing
results up to it (`quietly`) turns "nothing but the level differs" into an equation that can be
rewritten with.  And `resume` goes on from a result, so that an interpretation in two parts is a
`bind`.  Everything is proved for both readings of an attached double dash.
-/

set_option autoImplicit false

namespace ChartScript
namespace CommandLine

variable {drops : Bool}

/-- What arguments come to: a request, or what is known after them. -/
abbrev Result := Except UsageError (Request ⊕ Progress)

/-! ## One argument -/

/-- Goes on after the step of a switch. -/
def proceed (drops : Bool) (p : Progress) (step : Except UsageError Step) (rest : List Token) :
    Result :=
  step.bind fun
    | .stop request => .ok (.inl request)
    | .goOn i => interpret drops { p with invocation := i } rest

/-- The step of a switch with a text attached. -/
def attachedStep (drops : Bool) (i : Invocation) (s : Switch) (spelling text : Text) :
    Except UsageError Step :=
  if s.takesValue then (i.assign s (attachedValue drops text)).map .goOn
  else (attachedRun s spelling text).map i.flags

section

variable {p : Progress} {s : Switch} {spelling text : Text} {rest : List Token}

theorem interpret_attached :
    interpret drops p (.switch s spelling (some text) :: rest) =
      proceed drops p (attachedStep drops p.invocation s spelling text) rest := by
  rw [interpret, attachedStep]
  split
  · cases p.invocation.assign s (attachedValue drops text) <;> rfl
  · cases attachedRun s spelling text with
    | error e => rfl
    | ok switches =>
      show (match p.invocation.flags switches with
        | .stop request => pure (.inl request)
        | .goOn i => interpret drops { p with invocation := i } rest) =
          proceed drops p (.ok (p.invocation.flags switches)) rest
      cases p.invocation.flags switches <;> rfl

theorem interpret_value (hs : s.takesValue = true) :
    interpret drops p (.switch s spelling none :: .word text :: rest) =
      proceed drops p ((p.invocation.assign s (some text)).map .goOn) rest := by
  rw [interpret, if_pos hs]
  cases p.invocation.assign s (some text) <;> rfl

theorem interpret_noValue (hs : s.takesValue = true)
    (hrest : ∀ text tail, rest ≠ .word text :: tail) :
    interpret drops p (.switch s spelling none :: rest) = .error (.missingValue s) := by
  simp only [interpret, hs, if_true]

theorem interpret_flag (hs : s.takesValue = false) :
    interpret drops p (.switch s spelling none :: rest) =
      proceed drops p (.ok (p.invocation.flag s)) rest := by
  by_cases hrest : ∃ text tail, rest = .word text :: tail
  · obtain ⟨text, tail, rfl⟩ := hrest
    rw [interpret, if_neg (by simp [hs])]
    cases p.invocation.flag s <;> rfl
  · simp only [not_exists] at hrest
    simp only [interpret, hs, Bool.false_eq_true, if_false]
    cases p.invocation.flag s <;> rfl

theorem interpret_word_of_file (hfile : p.invocation.file ≠ none) :
    interpret drops p (.word text :: rest) =
      interpret drops { p with extras := p.extras ++ [text] } rest := by
  obtain ⟨file, hfile⟩ := Option.ne_none_iff_exists'.mp hfile
  simp only [interpret, hfile]

theorem interpret_word_separator (hfile : p.invocation.file = none) :
    interpret drops p (.word text :: .separator :: rest) =
      .ok (.inr { invocation := { p.invocation with file := some text },
                  extras := p.extras ++ wordsOf rest }) := by
  simp only [interpret, hfile]

theorem interpret_word (hfile : p.invocation.file = none)
    (hrest : ∀ words, rest ≠ .separator :: words) :
    interpret drops p (.word text :: rest) =
      interpret drops { p with invocation := { p.invocation with file := some text } } rest := by
  simp only [interpret, hfile]

end

/-- Arguments are interpreted from left to right, one by one or a switch with the word behind it. -/
theorem induction_behind_words {motive : List Token → Prop} (nil : motive [])
    (cons : ∀ token rest, motive rest → (∀ text tail, rest = .word text :: tail → motive tail) →
      motive (token :: rest))
    (tokens : List Token) : motive tokens := by
  have h : motive tokens ∧ ∀ text tail, tokens = .word text :: tail → motive tail := by
    induction tokens with
    | nil => exact ⟨nil, by simp⟩
    | cons token rest ih =>
      refine ⟨cons token rest ih.1 ih.2, fun text tail htail => ?_⟩
      exact (List.cons.inj htail).2 ▸ ih.1
  exact h.1

/-! ## Choices without the level -/

/-- The choices without the level of log records. -/
def Invocation.quiet (i : Invocation) : Invocation := { i with logLevel := none }

def Progress.quiet (p : Progress) : Progress := { p with invocation := p.invocation.quiet }

def Request.quiet : Request → Request
  | .invoke i => .invoke i.quiet
  | request => request

def Step.quiet : Step → Step
  | .goOn i => .goOn i.quiet
  | .stop request => .stop request.quiet

theorem Invocation.eq_of_quiet_eq {i j : Invocation} (h : i.quiet = j.quiet) :
    j = { i with logLevel := j.logLevel } := by
  cases i
  cases j
  simpa [Invocation.quiet] using h.symm

/-- What arguments come to, without the level. -/
def quietly (result : Result) : Result := result.map (Sum.map Request.quiet Progress.quiet)

theorem assign_quiet (i : Invocation) (s : Switch) (value : Option Text) :
    (i.quiet.assign s value).map Invocation.quiet = (i.assign s value).map Invocation.quiet := by
  cases s with
  | help | extra | backend | config | verbose | manual | version => rfl
  | logLevel =>
    cases value with
    | none => rfl
    | some word =>
      dsimp only [Invocation.assign]
      cases levelWords.lookup word <;> rfl

theorem flag_quiet (i : Invocation) (s : Switch) : i.quiet.flag s = (i.flag s).quiet := by
  cases s <;> rfl

theorem flags_quiet (i : Invocation) (switches : List Switch) :
    i.quiet.flags switches = (i.flags switches).quiet := by
  induction switches generalizing i with
  | nil => rfl
  | cons s rest ih =>
    rw [Invocation.flags, Invocation.flags, flag_quiet]
    cases i.flag s with
    | stop request => rfl
    | goOn j => exact ih j

theorem finish_quiet (p : Progress) (words : List Text) :
    finish p.quiet words = (finish p words).quiet := by
  cases hfile : p.invocation.file <;> cases words <;>
    simp [finish, Progress.quiet, Invocation.quiet, hfile]

theorem quiet_quiet (step : Step) : step.quiet.quiet = step.quiet := by
  cases step with
  | goOn i => rfl
  | stop request => cases request <;> rfl

theorem assignStep_quiet (i : Invocation) (s : Switch) (value : Option Text) :
    ((i.quiet.assign s value).map Step.goOn).map Step.quiet =
      ((i.assign s value).map Step.goOn).map Step.quiet := by
  have hcomm : ∀ result : Except UsageError Invocation,
      (result.map Step.goOn).map Step.quiet = (result.map Invocation.quiet).map Step.goOn := by
    intro result
    cases result <;> rfl
  rw [hcomm, hcomm, assign_quiet]

theorem attachedStep_quiet (i : Invocation) (s : Switch) (spelling text : Text) :
    (attachedStep drops i.quiet s spelling text).map Step.quiet =
      (attachedStep drops i s spelling text).map Step.quiet := by
  rw [attachedStep, attachedStep]
  split
  · exact assignStep_quiet i s (attachedValue drops text)
  · cases attachedRun s spelling text with
    | error e => rfl
    | ok switches =>
      show Except.ok (i.quiet.flags switches).quiet = .ok (i.flags switches).quiet
      rw [flags_quiet, quiet_quiet]

/-- The level does not matter after a step if it does not matter for the arguments behind. -/
theorem quietly_proceed_quiet {rest : List Token}
    (hrest : ∀ q : Progress,
      quietly (interpret drops q.quiet rest) = quietly (interpret drops q rest))
    (p : Progress) (step : Except UsageError Step) :
    quietly (proceed drops p.quiet (step.map Step.quiet) rest) =
      quietly (proceed drops p step rest) := by
  cases step with
  | error e => rfl
  | ok step =>
    cases step with
    | goOn i => exact hrest { p with invocation := i }
    | stop request => cases request <;> rfl

/-- Steps that differ in the level are followed by results that differ in the level. -/
theorem quietly_proceed {p : Progress} {step step' : Except UsageError Step} {rest : List Token}
    (hrest : ∀ q : Progress,
      quietly (interpret drops q.quiet rest) = quietly (interpret drops q rest))
    (hstep : step'.map Step.quiet = step.map Step.quiet) :
    quietly (proceed drops p.quiet step' rest) = quietly (proceed drops p step rest) := by
  have hquiet := quietly_proceed_quiet hrest p.quiet step'
  rw [hstep] at hquiet
  exact hquiet.symm.trans (quietly_proceed_quiet hrest p step)

theorem quietly_interpret_quiet (p : Progress) (tokens : List Token) :
    quietly (interpret drops p.quiet tokens) = quietly (interpret drops p tokens) := by
  induction tokens using induction_behind_words generalizing p with
  | nil => rfl
  | cons token rest ih ihTail =>
    cases token with
    | separator => rw [interpret, interpret, finish_quiet]; rfl
    | unknown text => exact ih { p with extras := p.extras ++ [text] }
    | word text =>
      by_cases hfile : p.invocation.file = none
      · by_cases hrest : ∃ words, rest = .separator :: words
        · obtain ⟨words, rfl⟩ := hrest
          rw [interpret_word_separator hfile, interpret_word_separator (p := p.quiet) hfile]
          rfl
        · rw [interpret_word hfile (not_exists.mp hrest),
            interpret_word (p := p.quiet) hfile (not_exists.mp hrest)]
          exact ih { p with invocation := { p.invocation with file := some text } }
      · rw [interpret_word_of_file hfile, interpret_word_of_file (p := p.quiet) hfile]
        exact ih { p with extras := p.extras ++ [text] }
    | switch s spelling attached =>
      cases attached with
      | some text =>
        rw [interpret_attached, interpret_attached]
        exact quietly_proceed ih (attachedStep_quiet p.invocation s spelling text)
      | none =>
        cases hs : s.takesValue with
        | false =>
          rw [interpret_flag hs, interpret_flag hs]
          refine quietly_proceed ih ?_
          show Except.ok (p.invocation.quiet.flag s).quiet = .ok (p.invocation.flag s).quiet
          rw [flag_quiet, quiet_quiet]
        | true =>
          by_cases hrest : ∃ text tail, rest = .word text :: tail
          · obtain ⟨text, tail, rfl⟩ := hrest
            rw [interpret_value hs, interpret_value hs]
            exact quietly_proceed (fun q => ihTail text tail rfl q)
              (assignStep_quiet p.invocation s (some text))
          · simp only [not_exists] at hrest
            rw [interpret_noValue hs hrest, interpret_noValue hs hrest]

/-! ## Arguments in two parts -/

/-- Goes on with arguments after what others came to. -/
def resume (drops : Bool) (rest : List Token) : Request ⊕ Progress → Result
  | .inl request => .ok (.inl request)
  | .inr p => interpret drops p rest

/-- Arguments that have to be interpreted together, and what the first of them come to alone: a
switch that has no value yet and a word, or the word that names the file and a double dash. -/
inductive Joins (before : List Token) : List Token → Result → Prop
  | value {s : Switch} {spelling text : Text} {tail : List Token} {e : UsageError}
      (hlast : before.getLast? = some (.switch s spelling none)) (hs : s.takesValue = true) :
      Joins before (.word text :: tail) (.error e)
  | file {text : Text} {words : List Token} {p : Progress}
      (hlast : before.getLast? = some (.word text)) (hfile : p.invocation.file ≠ none) :
      Joins before (.separator :: words) (.ok (.inr p))

theorem Joins.cons {before rest : List Token} {result : Result} (h : Joins before rest result)
    (token : Token) : Joins (token :: before) rest result := by
  have hlast : ∀ {last}, before.getLast? = some last → (token :: before).getLast? = some last := by
    intro last hlast
    rw [List.getLast?_cons, hlast, Option.getD_some]
  cases h with
  | value h hs => exact .value (hlast h) hs
  | file h hfile => exact .file (hlast h) hfile

/-- Arguments are interpreted one part after the other, unless the parts join. -/
def InParts (drops : Bool) (before rest : List Token) (first whole : Result) : Prop :=
  whole = first.bind (resume drops rest) ∨ Joins before rest first

theorem InParts.cons {before rest : List Token} {first whole : Result}
    (h : InParts drops before rest first whole) (token : Token) :
    InParts drops (token :: before) rest first whole :=
  h.imp_right fun hjoins => hjoins.cons token

theorem inParts_proceed {p : Progress} (step : Except UsageError Step) {before rest : List Token}
    (h : ∀ q, InParts drops before rest (interpret drops q before)
      (interpret drops q (before ++ rest))) :
    InParts drops before rest (proceed drops p step before)
      (proceed drops p step (before ++ rest)) := by
  cases step with
  | error e => exact .inl rfl
  | ok step =>
    cases step with
    | stop request => exact .inl rfl
    | goOn i => exact h { p with invocation := i }

theorem inParts_interpret {before : List Token} (hbefore : Token.separator ∉ before)
    (rest : List Token) (p : Progress) :
    InParts drops before rest (interpret drops p before) (interpret drops p (before ++ rest)) := by
  induction before using induction_behind_words generalizing p with
  | nil => exact .inl rfl
  | cons token before ih ihTail =>
    have ih := ih fun h => hbefore (List.mem_cons_of_mem token h)
    have hseparator : ∀ words, before ≠ .separator :: words := by
      rintro words rfl
      exact hbefore (by simp)
    rw [List.cons_append]
    cases token with
    | separator => exact absurd List.mem_cons_self hbefore
    | unknown text => exact (ih { p with extras := p.extras ++ [text] }).cons _
    | word text =>
      by_cases hfile : p.invocation.file = none
      · rw [interpret_word hfile hseparator]
        by_cases hrest : ∃ words, before ++ rest = .separator :: words
        · -- the word is the last one and names the file, and the double dash is behind it
          obtain ⟨words, hwords⟩ := hrest
          cases before with
          | nil =>
            rw [List.nil_append] at hwords
            rw [hwords]
            exact .inr (.file rfl (by simp))
          | cons next before =>
            have hnext : next = .separator := (List.cons.inj hwords).1
            exact absurd (congrArg (· :: before) hnext) (hseparator before)
        · rw [interpret_word hfile (not_exists.mp hrest)]
          exact (ih _).cons _
      · rw [interpret_word_of_file hfile, interpret_word_of_file hfile]
        exact (ih _).cons _
    | switch s spelling attached =>
      cases attached with
      | some text =>
        rw [interpret_attached, interpret_attached]
        exact (inParts_proceed _ ih).cons _
      | none =>
        cases hs : s.takesValue with
        | false =>
          rw [interpret_flag hs, interpret_flag hs]
          exact (inParts_proceed _ ih).cons _
        | true =>
          cases before with
          | nil =>
            rw [interpret_noValue hs (by simp), List.nil_append]
            by_cases hrest : ∃ text tail, rest = .word text :: tail
            · obtain ⟨text, tail, rfl⟩ := hrest
              exact .inr (.value rfl hs)
            · simp only [not_exists] at hrest
              rw [interpret_noValue hs hrest]
              exact .inl rfl
          | cons next before =>
            by_cases hnext : ∃ text, next = .word text
            · obtain ⟨text, rfl⟩ := hnext
              have ihTail := ihTail text before rfl fun h => hbefore (by simp [h])
              rw [List.cons_append, interpret_value hs, interpret_value hs]
              exact ((inParts_proceed _ ihTail).cons _).cons _
            · have hword : ∀ behind text tail, next :: behind ≠ .word text :: tail :=
                fun behind text tail h => hnext ⟨text, (List.cons.inj h).1⟩
              rw [interpret_noValue hs (hword before), List.cons_append,
                interpret_noValue hs (hword (before ++ rest))]
              exact .inl rfl

/-- A switch behind arguments does not join them. -/
theorem interpret_append_switch {before : List Token} (hbefore : Token.separator ∉ before)
    (s : Switch) (spelling : Text) (attached : Option Text) (rest : List Token) (p : Progress) :
    interpret drops p (before ++ .switch s spelling attached :: rest) =
      (interpret drops p before).bind (resume drops (.switch s spelling attached :: rest)) := by
  rcases inParts_interpret hbefore (.switch s spelling attached :: rest) p with h | h
  · exact h
  · cases h

theorem quietly_resume {rest rest' : List Token}
    (h : ∀ q, quietly (interpret drops q rest) = quietly (interpret drops q rest'))
    (first : Result) :
    quietly (first.bind (resume drops rest)) = quietly (first.bind (resume drops rest')) := by
  cases first with
  | error e => rfl
  | ok result =>
    cases result with
    | inl request => rfl
    | inr q => exact h q

/-! ## Arguments as they are given -/

theorem Token.read_ne_separator (argument : Text) : Token.read argument ≠ .ok .separator := by
  unfold Token.read
  split
  · simp
  · split
    · simp
    · unfold Token.readDashed
      dsimp only
      split
      · simp
      · split
        · simp
        · split <;> simp
        · simp

theorem Token.readAll_cons {argument : Text} (h : argument ≠ "--") (rest : List Text) :
    Token.readAll (argument :: rest) =
      (Token.read argument).bind fun token => (Token.readAll rest).map (token :: ·) := by
  have hbeq : (argument == Text.ofString "--") = false := by simpa using h
  rw [Token.readAll, hbeq]
  cases Token.read argument with
  | error e => rfl
  | ok token => cases Token.readAll rest <;> rfl

theorem Token.readAll_append {before : List Text} (h : ∀ argument ∈ before, argument ≠ "--")
    (rest : List Text) :
    Token.readAll (before ++ rest) =
      (Token.readAll before).bind fun tokens => (Token.readAll rest).map (tokens ++ ·) := by
  induction before with
  | nil => cases hrest : Token.readAll rest <;> simp [hrest, Token.readAll, Except.bind, Except.map]
  | cons argument before ih =>
    obtain ⟨hargument, hbefore⟩ := List.forall_mem_cons.mp h
    rw [List.cons_append, Token.readAll_cons hargument, Token.readAll_cons hargument, ih hbefore]
    cases Token.read argument with
    | error e => rfl
    | ok token =>
      cases Token.readAll before with
      | error e => rfl
      | ok tokens => cases Token.readAll rest <;> rfl

theorem Token.separator_notMem_readAll {before : List Text}
    (h : ∀ argument ∈ before, argument ≠ "--") {tokens : List Token}
    (htokens : Token.readAll before = .ok tokens) : Token.separator ∉ tokens := by
  induction before generalizing tokens with
  | nil =>
    obtain rfl := Except.ok.inj htokens
    simp
  | cons argument before ih =>
    obtain ⟨hargument, hbefore⟩ := List.forall_mem_cons.mp h
    rw [Token.readAll_cons hargument] at htokens
    obtain ⟨token, htoken, htokens⟩ := bind_eq_ok_iff.mp htokens
    obtain ⟨behind, hbehind, rfl⟩ := exists_of_map_eq_ok htokens
    rw [List.mem_cons, not_or]
    exact ⟨fun h => Token.read_ne_separator argument (h ▸ htoken), ih hbefore hbehind⟩

/-- The last argument gives the last token. -/
theorem Token.getLast?_readAll {before : List Text} (h : ∀ argument ∈ before, argument ≠ "--")
    {tokens : List Token} (htokens : Token.readAll before = .ok tokens) {last : Token}
    (hlast : tokens.getLast? = some last) :
    ∃ argument, before.getLast? = some argument ∧ Token.read argument = .ok last := by
  rcases List.eq_nil_or_concat before with rfl | ⟨before, argument, rfl⟩
  · obtain rfl := Except.ok.inj htokens
    simp at hlast
  · rw [List.concat_eq_append] at h htokens ⊢
    obtain ⟨hbefore, hargument⟩ := List.forall_mem_append.mp h
    rw [Token.readAll_append hbefore, Token.readAll_cons (hargument argument (by simp))] at htokens
    obtain ⟨first, -, htokens⟩ := bind_eq_ok_iff.mp htokens
    obtain ⟨single, hsingle, rfl⟩ := exists_of_map_eq_ok htokens
    obtain ⟨token, htoken, hsingle⟩ := bind_eq_ok_iff.mp hsingle
    obtain rfl := Except.ok.inj hsingle
    rw [List.getLast?_concat] at hlast
    exact ⟨argument, List.getLast?_concat .., Option.some.inj hlast ▸ htoken⟩

/-- Arguments that give a level of log records, in any spelling: in one argument, or with the level
in an argument of its own. -/
inductive GivesLevel : List Text → Prop
  | attached {argument spelling : Text} {l : Level}
      (h : Token.read argument = .ok (.switch .logLevel spelling (some l.word))) :
      GivesLevel [argument]
  | separate {argument spelling : Text} {l : Level}
      (h : Token.read argument = .ok (.switch .logLevel spelling none)) :
      GivesLevel [argument, l.word]

/-- Arguments that mean something else once others follow directly: a switch without the value that
it takes when a word follows, and a word when a double dash follows. -/
inductive BelongTogether : List Text → List Text → Prop
  | value {before after : List Text} {last next spelling text : Text} {s : Switch}
      (hlast : before.getLast? = some last)
      (hread : Token.read last = .ok (.switch s spelling none)) (hs : s.takesValue = true)
      (hnext : Token.read next = .ok (.word text)) :
      BelongTogether before (next :: after)
  | file {before after : List Text} {last text : Text} (hlast : before.getLast? = some last)
      (hread : Token.read last = .ok (.word text)) : BelongTogether before ("--" :: after)

theorem assign_level (i : Invocation) (l : Level) :
    i.assign .logLevel (some l.word) = .ok { i with logLevel := some l } := by
  cases l <;> rfl

theorem Token.read_word (l : Level) : Token.read l.word = .ok (.word l.word) := by
  cases l <;> rfl

theorem Token.ne_doubleDash_of_read {argument : Text} {token : Token}
    (h : Token.read argument = .ok token) : argument ≠ "--" := by
  rintro rfl
  have hdash : ∃ e, Token.read "--" = .error e := ⟨_, rfl⟩
  obtain ⟨e, he⟩ := hdash
  exact absurd (he.symm.trans h) (by simp)

/-- What is known with a level. -/
def Progress.withLevel (p : Progress) (l : Level) : Progress :=
  { p with invocation := { p.invocation with logLevel := some l } }

theorem quietly_interpret_withLevel (p : Progress) (l : Level) (tokens : List Token) :
    quietly (interpret drops (p.withLevel l) tokens) = quietly (interpret drops p tokens) :=
  (quietly_interpret_quiet (p.withLevel l) tokens).symm.trans (quietly_interpret_quiet p tokens)

/-- Arguments that give a level are read as a switch in front, and only set the level. -/
theorem GivesLevel.exists_tokens {given : List Text} (h : GivesLevel given) :
    ∃ spelling attached more,
      (∀ rest, Token.readAll (given ++ rest) =
        (Token.readAll rest).map (.switch .logLevel spelling attached :: more ++ ·)) ∧
      ∀ p rest, quietly (interpret drops p (.switch .logLevel spelling attached :: more ++ rest)) =
        quietly (interpret drops p rest) := by
  cases h with
  | @attached argument spelling l hread =>
    refine ⟨spelling, some l.word, [], fun rest => ?_, fun p rest => ?_⟩
    · rw [List.singleton_append, Token.readAll_cons (Token.ne_doubleDash_of_read hread), hread]
      rfl
    · have htakes : Switch.logLevel.takesValue = true := rfl
      have hvalue : attachedValue drops l.word = some (Text.ofString l.word) := by
        cases l <;> cases drops <;> rfl
      rw [List.cons_append, List.nil_append, interpret_attached, attachedStep, if_pos htakes,
        hvalue, assign_level]
      exact quietly_interpret_withLevel p l rest
  | @separate argument spelling l hread =>
    refine ⟨spelling, none, [.word l.word], fun rest => ?_, fun p rest => ?_⟩
    · rw [List.cons_append, List.singleton_append,
        Token.readAll_cons (Token.ne_doubleDash_of_read hread), hread,
        Token.readAll_cons (Token.ne_doubleDash_of_read (Token.read_word l)), Token.read_word]
      cases Token.readAll rest <;> rfl
    · rw [List.cons_append, List.singleton_append, interpret_value rfl, assign_level]
      exact quietly_interpret_withLevel p l rest

/-- Joined tokens come from arguments that belong together. -/
theorem Joins.belongTogether {before after : List Text} {tokens rest : List Token} {result : Result}
    (h : Joins tokens rest result) (hbefore : ∀ argument ∈ before, argument ≠ "--")
    (htokens : Token.readAll before = .ok tokens) (hrest : Token.readAll after = .ok rest) :
    BelongTogether before after := by
  cases after with
  | nil =>
    obtain rfl := Except.ok.inj hrest
    cases h
  | cons next after =>
    by_cases hnext : next = "--"
    · subst hnext
      obtain rfl := Except.ok.inj hrest
      cases h with
      | file hlast hfile =>
        obtain ⟨argument, hargument, hread⟩ := Token.getLast?_readAll hbefore htokens hlast
        exact .file hargument hread
    · rw [Token.readAll_cons hnext] at hrest
      obtain ⟨token, htoken, hrest⟩ := bind_eq_ok_iff.mp hrest
      obtain ⟨behind, -, rfl⟩ := exists_of_map_eq_ok hrest
      cases h with
      | value hlast hs =>
        obtain ⟨argument, hargument, hread⟩ := Token.getLast?_readAll hbefore htokens hlast
        exact .value hargument hread hs htoken
      | file hlast hfile => exact absurd htoken (Token.read_ne_separator next)

/-! ## Command lines -/

/-- What a command line asks for after all of its arguments. -/
def conclude : Request ⊕ Progress → Except UsageError Request
  | .inl request => .ok request
  | .inr p =>
    if p.extras.isEmpty then .ok (.invoke p.invocation) else .error (.unrecognized p.extras)

theorem parse_eq (arguments : List Text) :
    parse drops arguments =
      (Token.readAll arguments).bind fun tokens => (interpret drops {} tokens).bind conclude := by
  rw [parse]
  cases Token.readAll arguments with
  | error e => rfl
  | ok tokens =>
    show interpret drops {} tokens >>= _ = (interpret drops {} tokens).bind conclude
    cases interpret drops {} tokens with
    | error e => rfl
    | ok result =>
      cases result with
      | inl request => rfl
      | inr p => rfl

/-- What a command line asks for, without the level. -/
def parseQuietly (drops : Bool) (arguments : List Text) : Except UsageError Request :=
  (parse drops arguments).map Request.quiet

theorem parseQuietly_eq (arguments : List Text) :
    parseQuietly drops arguments =
      (Token.readAll arguments).bind fun tokens =>
        (quietly (interpret drops {} tokens)).bind conclude := by
  rw [parseQuietly, parse_eq]
  cases Token.readAll arguments with
  | error e => rfl
  | ok tokens =>
    show ((interpret drops {} tokens).bind conclude).map Request.quiet =
      (quietly (interpret drops {} tokens)).bind conclude
    cases interpret drops {} tokens with
    | error e => rfl
    | ok result =>
      cases result with
      | inl request => rfl
      | inr p =>
        show (conclude (.inr p)).map Request.quiet = conclude (.inr p.quiet)
        rw [conclude, conclude]
        show _ = if p.extras.isEmpty then _ else _
        split <;> rfl

/-- What arguments in two parts ask for when the parts are interpreted one after the other. -/
def parseParts (drops : Bool) (before after : List Text) : Except UsageError Request :=
  (Token.readAll before).bind fun tokens => (Token.readAll after).bind fun rest =>
    (quietly ((interpret drops {} tokens).bind (resume drops rest))).bind conclude

/-- Arguments that give a level keep the parts apart, and nothing else comes of them. -/
theorem parseQuietly_given {before given : List Text}
    (hbefore : ∀ argument ∈ before, argument ≠ "--") (h : GivesLevel given) (after : List Text) :
    parseQuietly drops (before ++ given ++ after) = parseParts drops before after := by
  obtain ⟨spelling, attached, more, hread, hinterpret⟩ := h.exists_tokens
  rw [parseQuietly_eq, parseParts, List.append_assoc, Token.readAll_append hbefore, hread]
  cases htokens : Token.readAll before with
  | error e => rfl
  | ok tokens =>
    have hseparator := Token.separator_notMem_readAll hbefore htokens
    cases Token.readAll after with
    | error e => rfl
    | ok rest =>
      refine congrArg (Except.bind · conclude) ?_
      show quietly (interpret drops {}
        (tokens ++ .switch .logLevel spelling attached :: (more ++ rest))) =
          quietly ((interpret drops {} tokens).bind (resume drops rest))
      rw [interpret_append_switch hseparator]
      exact quietly_resume (fun q => hinterpret q rest) _

/-- Without them the parts are interpreted as one, which makes a difference only where they belong
together; and then the arguments with the level are rejected. -/
theorem parseQuietly_append {before : List Text} (hbefore : ∀ argument ∈ before, argument ≠ "--")
    (after : List Text) :
    parseQuietly drops (before ++ after) = parseParts drops before after ∨
      (BelongTogether before after ∧ ∃ e, parseParts drops before after = .error e) := by
  rw [parseQuietly_eq, parseParts, Token.readAll_append hbefore]
  cases htokens : Token.readAll before with
  | error e => exact .inl rfl
  | ok tokens =>
    have hseparator := Token.separator_notMem_readAll hbefore htokens
    cases hrest : Token.readAll after with
    | error e => exact .inl rfl
    | ok rest =>
      show (quietly (interpret drops {} (tokens ++ rest))).bind conclude =
          (quietly ((interpret drops {} tokens).bind (resume drops rest))).bind conclude ∨
        (BelongTogether before after ∧
          ∃ e, (quietly ((interpret drops {} tokens).bind (resume drops rest))).bind conclude =
            .error e)
      rcases inParts_interpret hseparator rest {} with h | h
      · exact .inl (by rw [h])
      · refine .inr ⟨h.belongTogether hbefore htokens hrest, ?_⟩
        generalize interpret drops {} tokens = result at h ⊢
        cases h with
        | value hlast hs => exact ⟨_, rfl⟩
        | @file text words p hlast hfile =>
          -- the file is known, so the double dash has no place
          obtain ⟨file, hfile⟩ := Option.ne_none_iff_exists'.mp hfile
          have hextras : (finish p (wordsOf words)).quiet.extras.isEmpty = false := by
            simp [finish, hfile, Progress.quiet]
          show ∃ e, conclude (.inr (finish p (wordsOf words)).quiet) = .error e
          rw [conclude, hextras]
          exact ⟨_, rfl⟩

end CommandLine

/-! ## Runs -/

/-- The log record of a message that is one. -/
def Message.record? : Message → Option Record
  | .record logged => some logged
  | .text _ => none

/-- The log records of a run. -/
def Outcome.records (o : Outcome) : List Record := o.messages.filterMap Message.record?

/-- Whether the log of a run is what the threshold of some level admits of a list of records. -/
def Outcome.LogsFrom (o : Outcome) (all : List Record) : Prop :=
  ∃ level : Level, o.records = all.filter fun r => admits level.severity r.level

/-- Outcomes that agree in all but the threshold of the log records. -/
structure Outcome.SameResult (o o' : Outcome) : Prop where
  output : o.output = o'.output
  shown : o.shown = o'.shown
  ending : o.ending = o'.ending
  records : ∃ all, o.LogsFrom all ∧ o'.LogsFrom all

theorem Outcome.SameResult.of_records_eq_nil {o : Outcome} (h : o.records = []) :
    o.SameResult o :=
  ⟨rfl, rfl, rfl, [], ⟨.debug, h⟩, ⟨.debug, h⟩⟩

namespace Command

open CommandLine

/-- Environments that agree in all but the level of log records. -/
def SameButLevel (env env' : Environment) : Prop :=
  ∀ name, name ≠ "BARCHART_LOG_LEVEL" → env name = env' name

theorem handle_of_sameButLevel {env env' : Environment} (h : SameButLevel env env')
    (asked : Bool) (trace : Text) (fault : Fault) :
    fault.handle env asked trace = fault.handle env' asked trace := by
  have hon : ∀ name, name ≠ "BARCHART_LOG_LEVEL" → env.isOn name = env'.isOn name := by
    intro name hname
    rw [Environment.isOn, Environment.isOn, h name hname]
  have hpassed : env.passesFaultsOn = env'.passesFaultsOn := by
    rw [Environment.passesFaultsOn, Environment.passesFaultsOn, hon _ (by decide),
      hon _ (by decide)]
  have hverbose : env.isVerbose asked = env'.isVerbose asked := by
    rw [Environment.isVerbose, Environment.isVerbose, hon _ (by decide), hon _ (by decide)]
  rw [Fault.handle, Fault.handle, hpassed, hverbose]

/-- The outcome of what a command line asks for. -/
def answer (w : Workspace) : Except UsageError Request → Outcome
  | .error e => ⟨"", [.text e.text], .exit 2⟩
  | .ok .help => ⟨help, [], .exit 0⟩
  | .ok .version => ⟨versionText, [], .exit 0⟩
  | .ok (.invoke i) => execute w i

theorem run_eq_answer (w : Workspace) (arguments : List Text) :
    run w arguments = answer w (request w arguments) := by
  rw [run]
  cases request w arguments with
  | error e => rfl
  | ok asked => cases asked <;> rfl

/-! ### The stages under two thresholds -/

/-- All log records that the stages of an invocation could write. -/
def allRecords (w : Workspace) (i : Invocation) : List Record :=
  match settings w i with
  | .error _ => []
  | .ok s => (compileSourceM w i s).run.records

/-- The stages write what the threshold admits of all their records. -/
theorem exists_stages_snd_eq (w : Workspace) (i : Invocation) :
    ∃ level : Level,
      (stages w i).2 = (allRecords w i).filter fun r => admits level.severity r.level := by
  rw [stages, allRecords]
  cases settings w i with
  | error failure => exact ⟨.warning, rfl⟩
  | ok s => exact ⟨threshold w i s, (isSteady_compileSourceM w i s).written _⟩

theorem records_outcomeOf (w : Workspace) (i : Invocation) (result : Except Failure Compiled) :
    (outcomeOf w i result).records = [] := by
  have hwarnings : ∀ warnings, (warningTexts warnings).filterMap Message.record? = [] := by
    intro warnings
    rw [warningTexts, List.filterMap_map]
    simp [Function.comp_def, Message.record?]
  cases result with
  | ok compiled =>
    rw [outcomeOf, scriptOutcome]
    split <;> exact hwarnings _
  | error failure =>
    cases failure with
    | breakdown cause => rfl
    | fault fault =>
      rw [outcomeOf, faultOutcome]
      split
      · exact hwarnings _
      · rw [Outcome.records, List.filterMap_append, hwarnings]
        rfl

/-- The log of an invocation. -/
theorem logsFrom_execute (w : Workspace) {i : Invocation} (hmanual : i.manual = false) :
    (execute w i).LogsFrom (allRecords w i) := by
  obtain ⟨level, hlevel⟩ := exists_stages_snd_eq w i
  have hothers := records_outcomeOf w i (stages w i).1
  rw [Outcome.records] at hothers
  refine ⟨level, ?_⟩
  rw [Outcome.records, execute, if_neg (by simp [hmanual]), ← hlevel]
  show ((stages w i).2.map Message.record ++ _).filterMap Message.record? = _
  rw [List.filterMap_append, hothers, List.append_nil, List.filterMap_map]
  exact List.filterMap_some

section

variable {w : Workspace} {env : Environment} (henv : SameButLevel w.env env)

include henv

/-- What comes of the stages is shown in the same way whatever the level. -/
theorem outcomeOf_of_sameButLevel (i : Invocation) (level : Option Level)
    (result : Except Failure Compiled) :
    outcomeOf w i result =
      outcomeOf { w with env := env } { i with logLevel := level } result := by
  cases result with
  | ok compiled => rfl
  | error failure =>
    cases failure with
    | breakdown cause => rfl
    | fault fault =>
      rw [outcomeOf, outcomeOf, faultOutcome, faultOutcome, handle_of_sameButLevel henv]

/-- The two invocations have the same stages, which run under different thresholds. -/
theorem sameResult_execute (i : Invocation) (level : Option Level) :
    (execute w i).SameResult (execute { w with env := env } { i with logLevel := level }) := by
  by_cases hmanual : i.manual = true
  · rw [execute, execute, if_pos hmanual, if_pos hmanual]
    exact .of_records_eq_nil rfl
  · have hmanual : i.manual = false := eq_false_of_ne_true hmanual
    let w' : Workspace := { w with env := env }
    let j : Invocation := { i with logLevel := level }
    have hstages : (stages w i).1 = (stages w' j).1 := by
      rw [stages_fst, stages_fst]
      rfl
    have houtcome := outcomeOf_of_sameButLevel henv i level (stages w i).1
    obtain ⟨houtput, hshown, hending⟩ := execute_eq w hmanual
    obtain ⟨houtput', hshown', hending'⟩ := execute_eq w' (i := j) hmanual
    rw [← hstages, ← houtcome] at houtput' hshown' hending'
    exact ⟨houtput.trans houtput'.symm, hshown.trans hshown'.symm, hending.trans hending'.symm,
      allRecords w i, logsFrom_execute w hmanual, logsFrom_execute w' (i := j) hmanual⟩

theorem sameResult_answer {asked asked' : Except UsageError Request}
    (h : asked.map Request.quiet = asked'.map Request.quiet) :
    (answer w asked).SameResult (answer { w with env := env } asked') := by
  cases asked with
  | error e =>
    cases asked' with
    | ok request => cases h
    | error e' =>
      obtain rfl : e = e' := Except.error.inj h
      exact .of_records_eq_nil rfl
  | ok request =>
    cases asked' with
    | error e => cases h
    | ok request' =>
      have hquiet : request.quiet = request'.quiet := Except.ok.inj h
      cases request with
      | help =>
        cases request' with
        | help => exact .of_records_eq_nil rfl
        | version | invoke => cases hquiet
      | version =>
        cases request' with
        | version => exact .of_records_eq_nil rfl
        | help | invoke => cases hquiet
      | invoke i =>
        cases request' with
        | help | version => cases hquiet
        | invoke j =>
          rw [Invocation.eq_of_quiet_eq (Request.invoke.inj hquiet)]
          exact sameResult_execute henv i j.logLevel

/-- Command lines that ask for the same but for the level. -/
theorem sameResult_run {arguments arguments' : List Text}
    (h : parseQuietly w.platform.dropsDoubleDash arguments =
      parseQuietly w.platform.dropsDoubleDash arguments') :
    (run w arguments).SameResult (run { w with env := env } arguments') := by
  rw [run_eq_answer, run_eq_answer]
  exact sameResult_answer henv h

end

/-- **The level of log records.**  Neither the variable of the environment nor arguments that give a
level have a part in the output, in what is shown besides log records and in how a run ends; and the
log records of the runs are those that two levels admit of the same records.  The arguments can give
any other level.  They can also be left out, if the command line is a good one or the arguments
around them do not belong together. -/
theorem run_of_level {w : Workspace} {env : Environment} (henv : SameButLevel w.env env) :
    (∀ arguments, (run w arguments).SameResult (run { w with env := env } arguments)) ∧
    ∀ before given after : List Text, (∀ argument ∈ before, argument ≠ "--") → GivesLevel given →
      (∀ given', GivesLevel given' →
        (run w (before ++ given ++ after)).SameResult
          (run { w with env := env } (before ++ given' ++ after))) ∧
      ((∃ asked, request w (before ++ given ++ after) = .ok asked) ∨
          ¬BelongTogether before after →
        (run w (before ++ given ++ after)).SameResult
          (run { w with env := env } (before ++ after))) := by
  refine ⟨fun arguments => sameResult_run henv rfl, fun before given after hbefore hgiven => ?_⟩
  have hparts := @parseQuietly_given w.platform.dropsDoubleDash _ _ hbefore hgiven after
  refine ⟨fun given' hgiven' => ?_, fun hgood => ?_⟩
  · exact sameResult_run henv (hparts.trans (parseQuietly_given hbefore hgiven' after).symm)
  · rcases @parseQuietly_append w.platform.dropsDoubleDash _ hbefore after with
      hdropped | ⟨htogether, e, he⟩
    · exact sameResult_run henv (hparts.trans hdropped.symm)
    · -- the arguments are rejected, so neither alternative holds
      rcases hgood with ⟨asked, hasked⟩ | hapart
      · rw [he, parseQuietly, show parse _ _ = .ok asked from hasked] at hparts
        cases hparts
      · exact absurd htogether hapart

/-- Another level, and none: the log records differ, and only they. -/
theorem run_of_level_debug :
    let w := configured "\x7b\x7d" "a 1\n=zeta\n"
    let env : Environment := fun name => if name = "BARCHART_LOG_LEVEL" then some "info" else none
    let file : List Text := ["-"]
    let debug : List Text := ["--log=debug"]
    let error : List Text := ["--log-level", "error"]
    let first := run w (file ++ debug ++ [])
    SameButLevel w.env env ∧ (∀ argument ∈ file, argument ≠ "--") ∧ GivesLevel debug ∧
      GivesLevel error ∧ (∃ asked, request w (file ++ debug ++ []) = .ok asked) ∧
      first.messages ≠ (run { w with env := env } (file ++ error ++ [])).messages ∧
      first.SameResult (run { w with env := env } (file ++ error ++ [])) ∧
      first.SameResult (run { w with env := env } (file ++ [])) := by
  intro w env file debug error first
  have henv : SameButLevel w.env env := fun name hname => (if_neg hname).symm
  have hread : Token.read "--log=debug" =
      .ok (.switch .logLevel "--log-level" (some "debug")) := by decide +kernel
  have hread' : Token.read "--log-level" = .ok (.switch .logLevel "--log-level" none) := by
    decide +kernel
  have hdebug : GivesLevel debug := .attached (l := .debug) hread
  have herror : GivesLevel error := .separate (l := .error) hread'
  have hfile : ∀ argument ∈ file, argument ≠ "--" := by decide
  have hgood : ∃ asked, request w (file ++ debug ++ []) = .ok asked := ⟨_, rfl⟩
  obtain ⟨hreplaced, hdropped⟩ := (run_of_level henv).2 file debug [] hfile hdebug
  exact ⟨henv, hfile, hdebug, herror, hgood, by decide +kernel, hreplaced error herror,
    hdropped (.inl hgood)⟩

/-- A double dash behind the file has a place only if nothing is between them. -/
theorem double_dash_behind_level :
    let w := configured "\x7b\x7d" "a 1\n"
    let file : List Text := ["-"]
    let given : List Text := ["--log-level", "warning"]
    let dash : List Text := ["--"]
    GivesLevel given ∧ (run w (file ++ given ++ dash)).ending = .exit 2 ∧
      (run w (file ++ dash)).ending = .exit 0 ∧
      ¬(run w (file ++ given ++ dash)).SameResult (run w (file ++ dash)) := by
  intro w file given dash
  have hread : Token.read "--log-level" = .ok (.switch .logLevel "--log-level" none) := by
    decide +kernel
  have hwith : (run w (file ++ given ++ dash)).ending = .exit 2 := by decide +kernel
  have hwithout : (run w (file ++ dash)).ending = .exit 0 := by decide +kernel
  refine ⟨.separate (l := .warning) hread, hwith, hwithout, fun h => ?_⟩
  exact absurd (hwith.symm.trans (h.ending.trans hwithout)) (by decide)

end Command
end ChartScript
