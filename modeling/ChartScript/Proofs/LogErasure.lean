import ChartScript.Command

/-!
# Logging leaves results alone

Every stage of a compilation is a `Logging` computation: a function of the threshold in force, which
returns a result together with the records that it wrote.  Nothing in that type keeps a stage from
looking at the threshold and deciding by it, so that results do not depend on the threshold is a
property of the stages and not of their type.  It is a property of two runs, and running one stage
after another passes the first result on to the second stage; hence it has to be carried through all
of them, from the line that is taken in to the script.

`Logging.IsSteady` is the property.  It says more than that the result is the same under every
threshold: the records are those of the most detailed run that the threshold admits, in the same
order.  The second half is what makes the first one survive a change of the code.  A computation
that logged something only under some threshold, and nothing else, would still be caught.

Steady computations are closed under everything that stages are put together from, so each stage
needs one lemma, and a stage that repeats a step needs one for the step and one, by induction, for
the run: `isSteady_addM` takes in a line, with a case for every kind of line, and
`isSteady_ofLinesM` all lines; `Assignment.isSteady_updateM` makes an option take effect, and
`Pass.isSteady_runM` all options of a phase.  `Command.isSteady_compileSourceM` puts the stages
together.  A stage that fails is no exception: `ExceptT` computations are steady when the
computations of their outcomes are, and so the records before a failure count as those before a
result do.
-/

set_option autoImplicit false

namespace ChartScript
namespace Logging

section

variable {ε α β : Type}

/-- All records of a computation: those under the most detailed threshold. -/
def records (x : Logging α) : List Record := (x Level.debug.severity).2

/-- A computation whose result does not depend on the threshold, and that writes what the threshold
admits of its records. -/
structure IsSteady (x : Logging α) : Prop where
  result : ∀ threshold, (x threshold).1 = x.value
  written : ∀ threshold, (x threshold).2 = x.records.filter fun r => admits threshold r.level

theorem admits_debug (level : Level) : admits Level.debug.severity level = true := by
  cases level <;> decide

theorem isSteady_pure (a : α) : IsSteady (pure a : Logging α) := ⟨fun _ => rfl, fun _ => rfl⟩

theorem isSteady_write (r : Record) : IsSteady (write r) := by
  have hall : (write r).records = [r] := by
    rw [records, write, admits_debug, if_pos rfl]
  refine ⟨fun _ => rfl, fun threshold => ?_⟩
  rw [hall, write, List.filter_cons, List.filter_nil]

/-- What comes first passes on the same result under every threshold, so what comes next starts from
the same place. -/
theorem IsSteady.bind {x : Logging α} {f : α → Logging β} (hx : x.IsSteady)
    (hf : ∀ a, (f a).IsSteady) : (x >>= f).IsSteady := by
  have hsecond : ∀ threshold, f (x threshold).1 threshold = f x.value threshold := by
    intro threshold
    rw [hx.result]
  have hrecords : (x >>= f).records = x.records ++ (f x.value).records := by
    show x.records ++ (f (x Level.debug.severity).1 Level.debug.severity).2 = _
    rw [hsecond]
    rfl
  refine ⟨fun threshold => ?_, fun threshold => ?_⟩
  · show (f (x threshold).1 threshold).1 = (f x.value).value
    rw [hsecond, (hf _).result]
  · show (x threshold).2 ++ (f (x threshold).1 threshold).2 = _
    rw [hsecond, hx.written, (hf _).written, hrecords, List.filter_append]

theorem IsSteady.map {x : Logging α} (hx : x.IsSteady) (f : α → β) : (f <$> x).IsSteady :=
  hx.bind fun a => isSteady_pure (f a)

/-- What every step of a fold keeps steady, the fold keeps steady. -/
theorem isSteady_foldlM {f : β → α → Logging β} (hf : ∀ b a, (f b a).IsSteady) (start : β)
    (items : List α) : (items.foldlM f start).IsSteady := by
  induction items generalizing start with
  | nil => exact isSteady_pure start
  | cons a items ih =>
    rw [List.foldlM_cons]
    exact (hf start a).bind fun b => ih b

/-! ## Computations that can fail -/

theorem isSteady_known (outcome : Except ε α) : (known outcome).run.IsSteady :=
  isSteady_pure outcome

theorem isSteady_throw (e : ε) : (throw e : ExceptT ε Logging α).run.IsSteady :=
  isSteady_pure (Except.error e)

theorem IsSteady.lift {x : Logging α} (hx : x.IsSteady) :
    (liftM x : ExceptT ε Logging α).run.IsSteady :=
  hx.map Except.ok

theorem IsSteady.adapt {ε' : Type} {x : ExceptT ε Logging α} (hx : x.run.IsSteady) (f : ε → ε') :
    (ExceptT.adapt f x).run.IsSteady :=
  hx.map (Except.mapError f)

/-- A failure ends the computation with what was written before it. -/
theorem IsSteady.run_bind {x : ExceptT ε Logging α} {f : α → ExceptT ε Logging β}
    (hx : x.run.IsSteady) (hf : ∀ a, (f a).run.IsSteady) : (x >>= f).run.IsSteady := by
  refine IsSteady.bind hx fun outcome => ?_
  cases outcome with
  | ok a => exact hf a
  | error e => exact isSteady_pure (Except.error e)

end

end Logging

open Logging (isSteady_pure isSteady_throw isSteady_known isSteady_foldlM)

theorem Event.isSteady_log (e : Event) : e.log.IsSteady := Logging.isSteady_write e.record

/-! ## Taking in lines -/

namespace Description

theorem isSteady_logGrouping (d : Description) (g : Grouping) : (d.logGrouping g).IsSteady := by
  refine (Event.isSteady_log _).bind fun _ => ?_
  split
  · exact Event.isSteady_log _
  · exact isSteady_pure ()

theorem isSteady_addM (d : Description) (line : Line) : (d.addM line).IsSteady := by
  cases line with
  | blank | comment | setting | repeated | flag | row => exact isSteady_pure _
  | newSet title =>
    have hset : (d.dataset.beginSetM title).IsSteady :=
      (Event.isSteady_log _).bind fun _ => isSteady_pure _
    exact hset.bind fun _ => isSteady_pure _
  | mode m =>
    have hmode : (d.dataset.switchModeM m).IsSteady :=
      (Event.isSteady_log _).bind fun _ => isSteady_pure _
    exact hmode.bind fun _ => isSteady_pure _
  | grouping g => exact (isSteady_logGrouping _ g).bind fun _ => isSteady_pure _
  | unknownOption | unknownDirective =>
    exact (Event.isSteady_log _).bind fun _ => isSteady_pure _

theorem isSteady_ofLinesM (lines : List Text) : (ofLinesM lines).IsSteady := by
  rw [ofLinesM]
  exact isSteady_foldlM (fun d line => isSteady_addM d (Line.read line)) _ lines

end Description

/-! ## Options -/

theorem Assignment.isSteady_updateM (a : Assignment) (style : Style) :
    (a.updateM style).run.IsSteady := by
  have hlog : a.log.IsSteady := by
    refine (Event.isSteady_log _).bind fun _ => ?_
    split
    · exact Event.isSteady_log _
    · exact isSteady_pure ()
  exact hlog.lift.run_bind fun _ => isSteady_known _

theorem Pass.isSteady_runM (style : Style) (assignments : List Assignment) :
    (runM style assignments).IsSteady := by
  induction assignments generalizing style with
  | nil => exact isSteady_pure _
  | cons a rest ih =>
    refine (a.isSteady_updateM style).bind fun outcome => ?_
    cases outcome with
    | ok style => exact ih style
    | error fault => exact isSteady_pure _

/-! ## Stages -/

theorem Dataset.isSteady_finalizeM (d : Dataset) (groupCount : Int) (column : Option Column) :
    (d.finalizeM groupCount column).run.IsSteady := by
  rw [finalizeM]
  split
  · exact (Event.isSteady_log _).lift.run_bind fun _ => isSteady_pure _
  · split
    · dsimp only
      split
      · exact isSteady_known _
      · exact isSteady_throw _
    · exact isSteady_pure _

namespace Description

theorem isSteady_initialStyleM (d : Description) : d.initialStyleM.run.IsSteady := by
  refine (Pass.isSteady_runM _ _).lift.run_bind fun pass => ?_
  split
  · exact isSteady_pure _
  · exact isSteady_throw _

theorem isSteady_finalStyleM (d : Description) (initial : Style) :
    (d.finalStyleM initial).run.IsSteady := by
  refine (Pass.isSteady_runM _ _).lift.run_bind fun pass => ?_
  split
  · exact isSteady_pure _
  · exact isSteady_throw _

theorem isSteady_scriptM (d : Description) (backend : List Text) :
    (d.scriptM backend).run.IsSteady := by
  refine (Event.isSteady_log _).lift.run_bind fun _ => ?_
  refine (d.isSteady_initialStyleM.adapt _).run_bind fun initial => ?_
  refine ((d.isSteady_finalStyleM initial).adapt _).run_bind fun final => ?_
  refine ((d.dataset.isSteady_finalizeM _ _).adapt _).run_bind fun data => ?_
  exact (Event.isSteady_log _).lift.run_bind fun _ => isSteady_pure _

end Description

theorem isSteady_compileM (lines : List Text) (options : CompileOptions) :
    (compileM lines options).run.IsSteady := by
  refine (Description.isSteady_ofLinesM _).lift.run_bind fun d => ?_
  exact ((d.isSteady_scriptM _).adapt _).run_bind fun script => isSteady_pure _

namespace Command

open CommandLine

theorem isSteady_compileSourceM (w : Workspace) (i : Invocation) (s : Settings) :
    (compileSourceM w i s).run.IsSteady := by
  refine (isSteady_known _).run_bind fun lines => ?_
  split
  · refine (Description.isSteady_ofLinesM _).lift.run_bind fun _ => ?_
    exact isSteady_throw _
  · refine ((isSteady_compileM _ _).adapt _).run_bind fun compiled => ?_
    split
    · exact isSteady_throw _
    · exact isSteady_pure _

end Command
end ChartScript
